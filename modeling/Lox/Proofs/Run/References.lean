/-
The references of one tree say nothing about another. No two occurrences of names in the trees of
one process are the same, so a table is about one tree only, and learning it takes nothing from what
was learned before. No run touches what is known: whatever state a run goes through, also that of a
function of an earlier source, an occurrence finds the distance that was recorded when its own tree
was resolved.
-/

import Lox.Proofs.Run.Requests

namespace Lox

open Scope

variable {α β : Type}

/-! ### The states that a run goes through -/

namespace Run

/-- No run learns or forgets a distance. -/
theorem Built.distances {run : Run α} (built : run.Built) (machine : Machine) :
    (run.left machine).distances = machine.distances := by
  induction built generalizing machine with
  | pure _ | throw _ | changeHeap _ | allocate _ | define _ _ | tick => rfl
  | @bind _ _ run next _ _ first rest =>
    rcases Restores.left_bind run next machine with ⟨value, left⟩ | left <;> rw [left]
    · exact (rest value _).trans (first machine)
    · exact first machine
  | get _ _ rest => exact rest machine machine
  | write text =>
    obtain ⟨heap, current, callDepth, distances, sink, clock⟩ := machine
    unfold left Run.write
    dsimp only
    cases sink.write text.toUTF8 with
    | mk problem sink => cases problem <;> rfl
  | within frame _ inside =>
    rw [left_within]
    exact inside _
  | inCall _ inside =>
    rw [left_inCall]
    exact inside _

/-- The run of a tree goes through a state: it is there at the start, at the end, or inside one of
the runs of which it is put together. -/
inductive Visits : {α : Type} → Run α → Machine → Machine → Prop
  | start {α : Type} {run : Run α} {machine : Machine} : Visits run machine machine
  | finish {α : Type} {run : Run α} {machine : Machine} : run.Built →
    Visits run machine (run.left machine)
  | first {α β : Type} {run : Run α} {next : α → Run β} {machine inside : Machine} :
    Visits run machine inside → Visits (run >>= next) machine inside
  | rest {α β : Type} {run : Run α} {next : α → Run β} {value : α}
    {machine middle inside : Machine} : run.Built → run machine = .ok value middle →
    Visits (next value) middle inside → Visits (run >>= next) machine inside
  | get {β : Type} {next : Machine → Run β} {machine inside : Machine} :
    Visits (next machine) machine inside → Visits (MonadState.get >>= next) machine inside
  | within {α : Type} {run : Run α} {machine inside : Machine} (frame : FrameId) :
    Visits run { machine with current := frame } inside →
    Visits (Run.within frame run) machine inside
  | inCall {α : Type} {run : Run α} {machine inside : Machine} :
    Visits run { machine with callDepth := machine.callDepth + 1 } inside →
    Visits (Run.inCall run) machine inside

/-- In every state that a run goes through the distances are those of its start. -/
theorem Visits.distances {run : Run α} {machine inside : Machine}
    (visits : run.Visits machine inside) : inside.distances = machine.distances := by
  induction visits with
  | start => rfl
  | finish built => exact built.distances _
  | first _ same => exact same
  | rest built ended _ same =>
    rw [same, ← left_ok ended]
    exact built.distances _
  | get _ same => exact same
  | within _ _ same => exact same
  | inCall _ same => exact same

end Run

/-- Runs of trees learn nothing. -/
theorem Machine.Ran.distances {dialect : Dialect} {before after : Machine}
    (ran : Machine.Ran dialect before after) : after.distances = before.distances := by
  induction ran with
  | refl => rfl
  | native _ _ same => exact same
  | evaluate depth _ _ same => exact (((evaluator_built depth).evaluate _).distances _).trans same
  | execute depth _ _ same => exact (((evaluator_built depth).execute _).distances _).trans same

/-! ### Tables that are learned -/

/-- The machine that has learned the tables of some trees, one after the other. -/
def Machine.learnAll (machine : Machine) (learned : List (Parsed × Distances)) : Machine :=
  learned.foldl (fun machine entry => machine.learn entry.2) machine

/-- Tables of other trees change nothing about the references of a tree. -/
theorem Machine.learnAll_absent (machine : Machine) {learned : List (Parsed × Distances)}
    {reference : Reference} (absent : ∀ entry ∈ learned, entry.2[reference]? = none) :
    (machine.learnAll learned).distances[reference]? = machine.distances[reference]? := by
  induction learned generalizing machine with
  | nil => rfl
  | cons entry others inductionHypothesis =>
    refine (inductionHypothesis (machine.learn entry.2) fun other member =>
      absent other (List.mem_cons_of_mem entry member)).trans ?_
    exact Machine.learn_absent (absent entry List.mem_cons_self)

/-- What is known of a reference stays so while only one table speaks of it. -/
theorem Machine.learnAll_known (machine : Machine) {learned : List (Parsed × Distances)}
    {reference : Reference} {table : Distances}
    (own : ∀ entry ∈ learned, entry.2 = table ∨ entry.2[reference]? = none)
    (known : machine.distances[reference]? = table[reference]?) :
    (machine.learnAll learned).distances[reference]? = table[reference]? := by
  induction learned generalizing machine with
  | nil => exact known
  | cons entry others inductionHypothesis =>
    refine inductionHypothesis (machine.learn entry.2)
      (fun other member => own other (List.mem_cons_of_mem entry member)) ?_
    rw [Machine.learn_getElem?, known]
    rcases own entry List.mem_cons_self with same | absent
    · rw [same, Option.or_self]
    · rw [absent, Option.none_or]

/-- A table that is learned, among others that do not speak of the reference, stays known. -/
theorem Machine.learnAll_learned (machine : Machine) {learned : List (Parsed × Distances)}
    {reference : Reference} {tree : Parsed} {table : Distances}
    (own : ∀ entry ∈ learned, entry.2 = table ∨ entry.2[reference]? = none)
    (unknown : machine.distances[reference]? = none) (member : (tree, table) ∈ learned) :
    (machine.learnAll learned).distances[reference]? = table[reference]? := by
  induction learned generalizing machine with
  | nil => exact absurd member List.not_mem_nil
  | cons entry others inductionHypothesis =>
    have ownOthers (other : Parsed × Distances) (isOther : other ∈ others) :=
      own other (List.mem_cons_of_mem entry isOther)
    by_cases same : entry.2 = table
    · refine Machine.learnAll_known (machine.learn entry.2) ownOthers ?_
      rw [Machine.learn_unknown unknown, same]
    · have absent := (own entry List.mem_cons_self).resolve_left same
      refine inductionHypothesis (machine.learn entry.2) ownOthers
        ((Machine.learn_absent absent).trans unknown) ?_
      exact (List.mem_cons.mp member).resolve_left fun isEntry => same (isEntry ▸ rfl)

/-- Whatever tables of the trees of some parses are learned, in whatever order and how often: the
distance that is known for an occurrence is the one in the table of its own tree, if that was
learned, and otherwise none. -/
theorem Grammar.Parse.learnAll_own {low : Reference} {parses : List Grammar.Parse}
    {machine : Machine} (unknown : ∀ reference, low ≤ reference →
      machine.distances[reference]? = none) {learned : List (Parsed × Distances)}
    (accepted : ∀ entry ∈ learned, entry.1 ∈ trees low parses ∧ entry.1.resolve = .ok entry.2)
    {tree : Parsed} (isTree : tree ∈ trees low parses) {reference : Reference}
    (own : reference ∈ tree.references) :
    (∀ table, (tree, table) ∈ learned →
      (machine.learnAll learned).distances[reference]? = table[reference]?) ∧
    ((∀ table, (tree, table) ∉ learned) →
      (machine.learnAll learned).distances[reference]? = none) := by
  obtain ⟨high, fresh⟩ := trees_fresh low parses
  have unused : machine.distances[reference]? = none :=
    unknown reference (fresh.bounded reference (List.mem_flatMap.mpr ⟨tree, isTree, own⟩)).1
  -- a table that speaks of the reference is that of a tree that has it
  have other (entry : Parsed × Distances) (member : entry ∈ learned) :
      entry.1 = tree ∨ entry.2[reference]? = none := by
    obtain ⟨isParsed, resolved⟩ := accepted entry member
    by_cases shared : reference ∈ entry.1.references
    · exact .inl (trees_apart isParsed isTree shared own)
    · exact .inr (Parsed.resolve_absent resolved shared)
  refine ⟨fun table member => machine.learnAll_learned ?_ unused member, fun never => ?_⟩
  · refine fun entry isEntry => (other entry isEntry).imp_left fun same => ?_
    have resolved := (accepted entry isEntry).2
    rw [same, (accepted _ member).2] at resolved
    exact (Except.ok.inj resolved).symm
  · refine (machine.learnAll_absent fun entry isEntry => ?_).trans unused
    exact (other entry isEntry).resolve_left fun same => never entry.2 (same ▸ isEntry)

/-- What a tree's own table knows, empty where the tree is not accepted, is a reference of it. -/
theorem Parsed.own_of_recorded {tree : Parsed} {reference : Reference}
    (found : (tree.resolve.toOption.getD ∅)[reference]? ≠ none) : reference ∈ tree.references := by
  by_contra absent
  cases resolved : tree.resolve with
  | error errors =>
    rw [resolved] at found
    exact found Std.TreeMap.getElem?_emptyc
  | ok table =>
    rw [resolved] at found
    exact found (Parsed.resolve_absent resolved absent)

/-! ### Sessions -/

namespace Session

variable {session : Session}

theorem readExpression_noErrors {source : String} {expression : Expression} {after : Session}
    (read : session.readExpression source = (.ok expression, after)) :
    (Source.scan source).2 = [] := by
  unfold readExpression at read
  dsimp only at read
  split at read
  · assumption
  · exact nomatch read

/-- A request has read a tree. -/
def Reads (session : Session) (request : Request) (tree : Parsed) : Prop :=
  ∃ parse, request.parse? = some parse ∧ parse.tree? session.nextReference = some tree

theorem reads_program {request : Request} {source : String} {statements : List Statement}
    (parsed : request.parse? = some (.program (Source.scan source).1))
    (read : (session.readProgram source).1 = .ok statements) :
    session.Reads request (.program statements) := by
  obtain ⟨_, high, _, isParsed⟩ := readProgram_parsed
    (show session.readProgram source = (.ok statements, (session.readProgram source).2) from
      Prod.ext read rfl)
  exact ⟨_, parsed, Grammar.Parse.tree?_program isParsed⟩

theorem reads_expression {request : Request} {source : String} {expression : Expression}
    (parsed : request.parse? = if (Source.scan source).2.isEmpty
      then some (.expression (Source.scan source).1) else none)
    (read : (session.readExpression source).1 = .ok expression) :
    session.Reads request (.expression expression) := by
  have isRead : session.readExpression source =
      (.ok expression, (session.readExpression source).2) := Prod.ext read rfl
  obtain ⟨high, _, isParsed⟩ := readExpression_parsed isRead
  rw [readExpression_noErrors isRead] at parsed
  exact ⟨_, parsed, Grammar.Parse.tree?_expression isParsed⟩

/-- The references of a tree are drawn by the request that reads it. -/
theorem Reads.drawn {request : Request} {tree : Parsed} (reads : session.Reads request tree)
    {reference : Reference} (own : reference ∈ tree.references) :
    session.nextReference ≤ reference ∧ reference < (session.serve request).nextReference := by
  obtain ⟨parse, isParse, isTree⟩ := reads
  have fresh := parse.fresh session.nextReference
  rw [isTree] at fresh
  rw [serve_next, isParse]
  exact fresh.bounded reference (List.mem_flatMap.mpr ⟨tree, List.mem_cons_self, own⟩)

/-- References are only drawn. -/
theorem serve_ordered (session : Session) (request : Request) :
    session.nextReference ≤ (session.serve request).nextReference := by
  rw [serve_next]
  cases request.parse? with
  | none => exact Nat.le_refl _
  | some parse => exact (parse.fresh session.nextReference).ordered

theorem occurrence_own {expression : Expression} {reference : Reference}
    (occurs : reference? expression = some reference) : reference ∈ expression.references := by
  cases expression with
  | read _ _ | this _ _ | super _ _ _ => exact List.mem_singleton.mpr (Option.some.inj occurs).symm
  | assign _ _ value =>
    exact List.mem_append_right value.references
      (List.mem_singleton.mpr (Option.some.inj occurs).symm)
  | _ => exact nomatch occurs

/-- The table that is learned for a request is about references of the tree that it reads. -/
theorem recorded_own {request : Request} {reference : Reference}
    (found : (session.recorded request)[reference]? ≠ none) :
    ∃ tree, session.Reads request tree ∧ reference ∈ tree.references := by
  have nothing : ((∅ : Distances)[reference]?) = none := Std.TreeMap.getElem?_emptyc
  cases request with
  | step step =>
    cases step with
    | defineNative native => exact absurd nothing found
    | run depth source =>
      cases read : (session.readProgram source).1 with
      | error faults =>
        rw [recorded, read] at found
        exact absurd nothing found
      | ok statements =>
        rw [recorded, read, programTable] at found
        exact ⟨.program statements, reads_program rfl read, Parsed.own_of_recorded found⟩
    | evaluate depth source =>
      cases read : (session.readExpression source).1 with
      | error faults =>
        rw [recorded, read] at found
        exact absurd nothing found
      | ok expression =>
        rw [recorded, read, expressionTable] at found
        exact ⟨.expression expression, reads_expression rfl read, Parsed.own_of_recorded found⟩
  | executeUnresolved depth source => exact absurd nothing found
  | interpretUnresolved depth source => exact absurd nothing found
  | evaluateAt depth source distance =>
    cases read : (session.readExpression source).1 with
    | error faults =>
      rw [recorded, read] at found
      exact absurd nothing found
    | ok expression =>
      rw [recorded, read, outermostTable] at found
      refine ⟨.expression expression, reads_expression rfl read, ?_⟩
      cases occurs : reference? expression with
      | none =>
        rw [occurs] at found
        exact absurd nothing found
      | some outermost =>
        rw [occurs] at found
        by_cases same : outermost = reference
        · exact same ▸ occurrence_own occurs
        · refine absurd ?_ found
          show ((∅ : Distances).insert outermost distance)[reference]? = none
          rw [Std.TreeMap.getElem?_insert, if_neg (by simpa using same)]
          exact nothing

/-- After a request that is known which was recorded for it, and otherwise what was known. -/
theorem serve_distances (session : Session) (request : Request) (reference : Reference) :
    (session.serve request).machine.distances[reference]? =
      (session.recorded request)[reference]?.or session.machine.distances[reference]? := by
  rw [(session.serve_ran request).distances, Machine.learn_getElem?]

/-- Nothing is recorded for a request about references that it does not draw. -/
theorem recorded_absent {request : Request} {reference : Reference}
    (outside : reference < session.nextReference ∨
      (session.serve request).nextReference ≤ reference) :
    (session.recorded request)[reference]? = none := by
  by_contra found
  obtain ⟨tree, reads, own⟩ := recorded_own found
  have ⟨lower, upper⟩ := reads.drawn own
  exact outside.elim (Nat.not_lt.mpr lower) (Nat.not_le.mpr upper)

/-- Nothing is known of a reference that has not been drawn. -/
def Unused (session : Session) : Prop :=
  ∀ reference, session.nextReference ≤ reference → session.machine.distances[reference]? = none

theorem start_unused (capacity : Option Nat) (clock : Clock) : (start capacity clock).Unused :=
  fun _ _ => Std.TreeMap.getElem?_emptyc

theorem Unused.serve (unused : session.Unused) (request : Request) :
    (session.serve request).Unused := by
  intro reference undrawn
  rw [serve_distances, recorded_absent (.inr undrawn), Option.none_or]
  exact unused reference (Nat.le_trans (session.serve_ordered request) undrawn)

theorem Unused.serveAll (unused : session.Unused) (requests : List Request) :
    (session.serveAll requests).Unused := by
  induction requests generalizing session with
  | nil => exact unused
  | cons request others inductionHypothesis => exact inductionHypothesis (unused.serve request)

/-- What is known of references that have been drawn stays so. -/
theorem serveAll_known (requests : List Request) {reference : Reference}
    (drawn : reference < session.nextReference) :
    (session.serveAll requests).machine.distances[reference]? =
      session.machine.distances[reference]? := by
  induction requests generalizing session with
  | nil => rfl
  | cons request others inductionHypothesis =>
    refine (inductionHypothesis (Nat.lt_of_lt_of_le drawn (session.serve_ordered request))).trans ?_
    rw [serve_distances, recorded_absent (.inl drawn), Option.none_or]

/-- Of the references of a tree that is known, ever after, which was recorded when it was read. -/
theorem Reads.known {request : Request} {tree : Parsed} (reads : session.Reads request tree)
    (unused : session.Unused) (later : List Request) {reference : Reference}
    (own : reference ∈ tree.references) :
    ((session.serve request).serveAll later).machine.distances[reference]? =
      (session.recorded request)[reference]? := by
  have ⟨lower, upper⟩ := reads.drawn own
  rw [serveAll_known later upper, serve_distances, unused reference lower, Option.or_none]

end Session

/-- No two occurrences of names in the trees of some parses have the same reference, whether the
parses were of programs or expressions and with errors or without, and the table of a tree is about
its own references. So whatever tables of the trees are learned, each occurrence finds the distance
in the table of its own tree, if that was learned, and none otherwise.

In a session, where every request that reads a source makes one parse and at most one table, that
distance is the one recorded at that request: after whatever further requests, and in every state
that a run behind them goes through. -/
theorem references_apart :
    (∀ low parses, ((Grammar.Parse.trees low parses).flatMap Parsed.references).Nodup) ∧
    (∀ (tree : Parsed) (table : Distances), tree.resolve = .ok table →
      ∀ reference, table[reference]? ≠ none → reference ∈ tree.references) ∧
    (∀ low parses (machine : Machine),
      (∀ reference, low ≤ reference → machine.distances[reference]? = none) →
      ∀ learned : List (Parsed × Distances),
        (∀ entry ∈ learned,
          entry.1 ∈ Grammar.Parse.trees low parses ∧ entry.1.resolve = .ok entry.2) →
        ∀ tree ∈ Grammar.Parse.trees low parses, ∀ reference ∈ tree.references,
          (∀ table, (tree, table) ∈ learned →
            (machine.learnAll learned).distances[reference]? = table[reference]?) ∧
          ((∀ table, (tree, table) ∉ learned) →
            (machine.learnAll learned).distances[reference]? = none)) ∧
    (∀ (session : Session) (depth : Nat) (source : String),
      (∀ statements, (session.readProgram source).1 = .ok statements →
        session.Reads (.step (.run depth source)) (.program statements) ∧
        session.recorded (.step (.run depth source)) =
          (Parsed.program statements).resolve.toOption.getD ∅) ∧
      ∀ expression, (session.readExpression source).1 = .ok expression →
        session.Reads (.step (.evaluate depth source)) (.expression expression) ∧
        session.recorded (.step (.evaluate depth source)) =
          (Parsed.expression expression).resolve.toOption.getD ∅) ∧
    ∀ capacity clock earlier request later tree,
      let session := (Session.start capacity clock).serveAll earlier
      let after := (session.serve request).serveAll later
      session.Reads request tree → ∀ reference ∈ tree.references,
        after.machine.distances[reference]? = (session.recorded request)[reference]? ∧
        ∀ (last : Request) {α : Type} (run : Run α) (inside : Machine),
          run.Visits (after.machine.learn (after.recorded last)) inside →
          inside.distances[reference]? = (session.recorded request)[reference]? := by
  refine ⟨fun low parses => ?_, fun tree table resolved reference found => ?_, ?_, ?_, ?_⟩
  · obtain ⟨high, fresh⟩ := Grammar.Parse.trees_fresh low parses
    exact fresh.distinct
  · exact by_contra fun absent => found (Parsed.resolve_absent resolved absent)
  · exact fun low parses machine unknown learned accepted tree isTree reference own =>
      Grammar.Parse.learnAll_own unknown accepted isTree own
  · refine fun session depth source => ⟨fun statements read => ?_, fun expression read => ?_⟩
    · refine ⟨Session.reads_program rfl read, ?_⟩
      rw [Session.recorded, read]
      rfl
    · refine ⟨Session.reads_expression rfl read, ?_⟩
      rw [Session.recorded, read]
      rfl
  · intro capacity clock earlier request later tree session after reads reference own
    have unused := (Session.start_unused capacity clock).serveAll earlier
    refine ⟨reads.known unused later own, fun last α run inside visits => ?_⟩
    -- what is learned for one request more is no business of the tree either
    have further := reads.known unused (later ++ [last]) own
    rw [visits.distances, ← further, Session.serveAll, List.foldl_append]
    exact congrArg (·[reference]?) (after.serve_ran last).distances.symm

/-- A variable of a block finds its distance also behind a second block with the same text. -/
theorem references_apart_again :
    ∃ (session : Session) (request : Request) (tree : Parsed), session.Reads request tree ∧
      0 ∈ tree.references ∧ (session.recorded request)[0]? = some 0 ∧
      ((session.serve request).serveAll [request]).machine.distances[0]? =
        (session.recorded request)[0]? := by
  have read : (((Session.start none ⟨0⟩).serveAll []).readProgram "\x7b var a; a; \x7d").1 =
      .ok [.block [.declareVariable ⟨"a", 1⟩ none, .expression (.read 0 ⟨"a", 1⟩)]] := rfl
  have reads := ((references_apart.2.2.2.1 _ 9 _).1 _ read).1
  have known := references_apart.2.2.2.2 none ⟨0⟩ [] _ [.step (.run 9 "\x7b var a; a; \x7d")] _
    reads 0 List.mem_cons_self
  exact ⟨_, _, _, reads, List.mem_cons_self, rfl, known.1⟩

end Lox
