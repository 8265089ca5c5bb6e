/-
Where the texts on a machine stand. All functions of a session are made of the texts of its sources,
so their lines are lines of tokens of these, and an initializer is a method and has a name. This is
seen by setting a machine beside itself.
-/

import Lox.Proofs.Run.Cursor
import Lox.Proofs.Run.Relined
import Lox.Proofs.Run.Sessions

namespace Lox

open Scope

/-! ### Texts on the lines of sources -/

/-- A token of the source ends on the line. -/
def Source.OnLine (source : String) (line : Nat) : Prop :=
  ∃ token ∈ (scan source).1, token.line = line

theorem Source.scan_onLines {source : String} {has : Nat → Prop}
    (onLines : ∀ line, OnLine source line → has line) :
    (Vocabulary.onLines has).AdmitsAll (scan source).1 := fun token member =>
  have here : has token.line := onLines token.line ⟨token, member, rfl⟩
  ⟨fun _ => here, fun _ => here, fun _ => here, here⟩

/-- The texts of the functions are on some of the lines, and initializers have names. -/
structure Machine.Settled (has : Nat → Prop) (machine : Machine) : Prop where
  shaped : ∀ {place : FunctionId} {object}, machine.heap.functions[place]? = some object →
    object.declaration.Shaped (.onLines has)
  named : ∀ {place : FunctionId} {object}, machine.heap.functions[place]? = some object →
    object.isInitializer = true → object.declaration.name.isSome

theorem FunctionObject.reline_id (object : FunctionObject) : object.reline id = object :=
  congrArg (FunctionObject.mk · object.closure object.isInitializer) object.declaration.relabel_same

theorem Array.map_reline_id (functions : Array FunctionObject) :
    functions.map (·.reline id) = functions :=
  (Array.map_congr_left fun object _ => object.reline_id).trans (Array.map_id functions)

namespace Layout

variable {World : Type} {layout : Layout World} {machine : Machine} {others : World → Machine}
  {has : Nat → Prop}

/-- A machine on which everything is from the early part may stand in each world on the lines there
are. -/
theorem alike_of_settled (layout : Layout World) (settled : machine.Settled (layout.has .early))
    (agrees : ∀ {place : FunctionId} {object}, machine.heap.functions[place]? = some object →
      layout.Agrees object.declaration.references)
    (knows : machine.distances = layout.known)
    (fixed : layout.fixed ≤ machine.heap.functions.size) :
    layout.Alike machine fun world =>
      machine.beside (machine.heap.functions.map (·.reline (layout.line world .early)))
        (layout.knownIn world) := by
  refine .beside ⟨knows, fun _ => Array.size_map, fixed, fun {place object} found => ?_⟩
  refine ⟨.early, ⟨settled.shaped found, agrees found, settled.named found⟩, fun world => ?_,
    fun _ => rfl⟩
  rw [Array.getElem?_map, found]
  rfl

theorem Alike.settled (alike : layout.Alike machine others)
    (only : ∀ part, layout.has part = has) : machine.Settled has := by
  obtain ⟨holds⟩ := alike
  refine ⟨fun found => ?_, fun found => ?_⟩
  · obtain ⟨part, tells, _⟩ := holds.functions found
    exact only part ▸ tells.shaped
  · obtain ⟨part, tells, _⟩ := holds.functions found
    exact tells.named

/-- Where no line is moved, nothing differs but the distances. -/
theorem Alike.eq_of_stays (alike : layout.Alike machine others) (world : World)
    (stays : ∀ part, layout.line world part = id) :
    others world = { machine with distances := layout.knownIn world } := by
  obtain ⟨holds⟩ := alike
  rename_i functions
  have same : functions world = machine.heap.functions := by
    refine Array.ext_getElem? fun place => ?_
    cases found : machine.heap.functions[place]? with
    | none =>
      rw [Array.getElem?_eq_none_iff] at found ⊢
      exact holds.size world ▸ found
    | some object =>
      obtain ⟨part, _, isFunction, _⟩ := holds.functions found
      rw [isFunction, stays, object.reline_id]
  show machine.beside (functions world) _ = _
  rw [same]
  rfl

/-- A machine beside itself: all lines are from one lot and stay. -/
def alone (has : Nat → Prop) (distances : Distances) : Layout Unit :=
  ⟨fun _ => has, fun _ _ => id, distances, fun _ => distances, 0⟩

theorem alone_agrees (has : Nat → Prop) (distances : Distances) (references : List Reference) :
    (alone has distances).Agrees references :=
  fun _ _ _ => rfl

end Layout

namespace Machine.Settled

variable {machine : Machine} {has : Nat → Prop} {α : Type}

/-- A run that does the same on a settled machine and on the machine itself leaves a settled one. -/
theorem left {run : Run α} (settled : machine.Settled has)
    (same : (Layout.alone has machine.distances).Matches run fun _ => run) :
    (run.left machine).Settled has := by
  have alike := (Layout.alone has machine.distances).alike_of_settled settled
    (fun _ => Layout.alone_agrees has _ _) rfl (Nat.zero_le _)
  have ends := same.ends alike
  unfold Run.left
  generalize run machine = result at ends ⊢
  generalize (fun _ => run _) = results at ends
  cases ends with
  | ok alike => exact alike.settled fun _ => rfl
  | error _ alike => exact alike.settled fun _ => rfl

theorem interpret (settled : machine.Settled has) (depth : Nat) {statements : List Statement}
    (shaped : Statement.AllShaped (.onLines has) statements) :
    ((interpret depth statements).left machine).Settled has := by
  have both := (Layout.alone has machine.distances).interpret_matches depth
    (show Statement.AllShaped ((Layout.alone has machine.distances).words .early) statements
      from shaped) (Layout.alone_agrees has _ _)
  have same (world : Unit) : Statement.relabelAll
      ((Layout.alone has machine.distances).labels world .early) statements = statements :=
    Statement.relabelAll_same statements
  simp only [same] at both
  exact settled.left both

/-- What a program leaves that runs to its end. -/
theorem finished (settled : machine.Settled has) {depth : Nat} {statements : List Statement}
    {after : Machine} (shaped : Statement.AllShaped (.onLines has) statements)
    (ran : Lox.interpret depth statements machine = .ok () after) : after.Settled has := by
  have left := settled.interpret depth shaped
  unfold Run.left at left
  rwa [ran] at left

theorem evaluate (settled : machine.Settled has) (depth : Nat) {expression : Expression}
    (shaped : expression.Shaped (.onLines has)) :
    ((evaluate depth expression).left machine).Settled has := by
  have both := ((Layout.alone has machine.distances).evaluator_trusts depth).evaluate
    (show expression.Shaped ((Layout.alone has machine.distances).words .early) from shaped)
    (Layout.alone_agrees has _ _)
  have same (world : Unit) : expression.relabel
      ((Layout.alone has machine.distances).labels world .early) = expression :=
    expression.relabel_same
  simp only [same] at both
  exact settled.left both

end Machine.Settled

/-! ### Sessions -/

/-- The source that a step runs, if it runs one. -/
def Step.source? : Step → Option String
  | .defineNative _ => none
  | .run _ source => some source
  | .evaluate _ source => some source

namespace Session

variable {session : Session} {has : Nat → Prop}

theorem settled_run (settled : session.machine.Settled has) (depth : Nat) {source : String}
    (onLines : ∀ line, Source.OnLine source line → has line) :
    (session.run depth source).2.machine.Settled has := by
  have unrun : (session.readProgram source).2.machine.Settled has :=
    readProgram_machine session source ▸ settled
  rcases run_cases depth session source with
    ⟨_, _, rejected⟩ | ⟨statements, distances, read, isRead, _, accepted⟩
  · rw [rejected]
    exact unrun
  · rw [isRead] at unrun
    obtain ⟨_, high, _, parsed⟩ := readProgram_parsed isRead
    have ⟨shaped, _⟩ := Grammar.parseProgram_read (Source.scan_onLines onLines) parsed
    have learned : (read.learn distances).machine.Settled has := ⟨unrun.shaped, unrun.named⟩
    rw [accepted, perform_machine]
    exact learned.interpret depth shaped

theorem settled_evaluate (settled : session.machine.Settled has) (depth : Nat) {source : String}
    (onLines : ∀ line, Source.OnLine source line → has line) :
    (session.evaluate depth source).2.machine.Settled has := by
  have unrun : (session.readExpression source).2.machine.Settled has :=
    readExpression_machine session source ▸ settled
  rcases evaluate_cases depth session source with
    ⟨_, _, rejected⟩ | ⟨expression, distances, read, isRead, _, accepted⟩
  · rw [rejected]
    exact unrun
  · rw [isRead] at unrun
    obtain ⟨high, _, parsed⟩ := readExpression_parsed isRead
    have ⟨shaped, _⟩ := Grammar.parseExpression_read (Source.scan_onLines onLines) parsed
    have learned : (read.learn distances).machine.Settled has := ⟨unrun.shaped, unrun.named⟩
    rw [accepted, perform_machine]
    exact learned.evaluate depth shaped

/-- All texts on the machine are on lines of the sources that were run. -/
theorem settled_after (settled : session.machine.Settled has) (steps : List Step)
    (onLines : ∀ step ∈ steps, ∀ source ∈ step.source?, ∀ line, Source.OnLine source line →
      has line) : (session.after steps).machine.Settled has := by
  induction steps generalizing session with
  | nil => exact settled
  | cons step others inductionHypothesis =>
    have here := onLines step List.mem_cons_self
    refine inductionHypothesis ?_ fun other member => onLines other (List.mem_cons_of_mem _ member)
    cases step with
    | defineNative native => exact ⟨settled.shaped, settled.named⟩
    | run depth source => exact settled_run settled depth (here source rfl)
    | evaluate depth source => exact settled_evaluate settled depth (here source rfl)

theorem settled_start (capacity : Option Nat) (clock : Clock) (has : Nat → Prop) :
    (Session.start capacity clock).machine.Settled has := by
  have none {place : FunctionId} {object : FunctionObject} : ¬
      (Session.start capacity clock).machine.heap.functions[place]? = some object := by
    show ¬(#[] : Array FunctionObject)[place]? = some object
    rw [Array.getElem?_empty]
    exact nofun
  exact ⟨fun found => absurd found none, fun found => absurd found none⟩

end Session

end Lox
