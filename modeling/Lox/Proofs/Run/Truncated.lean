/-
A run with a limited sink is the run with an unlimited one, cut off where the sink is full. Up to
there the two runs go on in step, on machines that differ in the capacity of their sinks only; the
write that does not fit ends the limited run, and the unlimited one only prints more. Since no run
looks at the sink, it is enough to follow what runs are made of.
-/

import Lox.Proofs.Machine.Fragments
import Lox.Proofs.Run.Cursor

namespace Lox

variable {α β : Type} {capacity : Nat} {machine : Machine}

/-! ### Limited machines -/

/-- The sink with a capacity, and no more bytes than that. -/
def Sink.cut (capacity : Nat) (sink : Sink) : Sink :=
  ⟨sink.bytes.extract 0 capacity, some capacity⟩

/-- The machine with a sink that is cut. -/
def Machine.cut (capacity : Nat) (machine : Machine) : Machine :=
  { machine with sink := machine.sink.cut capacity }

/-- The end of a run, on a machine with a sink that is cut. -/
def cutEnding (capacity : Nat) :
    EStateM.Result Stop Machine α → EStateM.Result Stop Machine α
  | .ok value after => .ok value (after.cut capacity)
  | .error stop after => .error stop (after.cut capacity)

/-! ### Runs with an unlimited and a limited sink -/

namespace Run

/-- How the run goes on the machine with a limited sink: either all that it prints fits, and it ends
as with the unlimited one, or it stops because the sink is full, which holds what comes first. -/
inductive Cut (capacity : Nat) (run : Run α) (machine : Machine) : Prop
  | fits : (run.left machine).sink.bytes.size ≤ capacity →
    run (machine.cut capacity) = cutEnding capacity (run machine) → Cut capacity run machine
  | full (stopped : Machine) : capacity < (run.left machine).sink.bytes.size →
    run (machine.cut capacity) = .error (.error (.output .sinkFull)) stopped →
    stopped.sink = (run.left machine).sink.cut capacity → Cut capacity run machine

theorem left_cut {run : Run α} {other : Machine}
    (same : run other = cutEnding capacity (run machine)) :
    run.left other = (run.left machine).cut capacity := by
  unfold left
  rw [same]
  cases run machine <;> rfl

/-- With an unlimited sink the run only adds to what is printed, and with a limited one it is cut
off. -/
structure Truncates (run : Run α) : Prop where
  prints : ∀ machine, machine.sink.capacity = none →
    ∃ printed, (run.left machine).sink = ⟨machine.sink.bytes ++ printed, none⟩
  cuts : ∀ capacity machine, machine.sink.capacity = none →
    machine.sink.bytes.size ≤ capacity → Cut capacity run machine

namespace Truncates

variable {run : Run α} {next : α → Run β}

/-- A run that leaves the sink alone. -/
theorem ofSilent (silent : ∀ machine, (run.left machine).sink = machine.sink)
    (same : ∀ capacity machine, run (machine.cut capacity) = cutEnding capacity (run machine)) :
    run.Truncates := by
  refine ⟨fun machine unlimited => ⟨.empty, ?_⟩, fun capacity machine _ bound => ?_⟩
  · rw [silent, ByteArray.append_empty, ← unlimited]
  · exact .fits (by rw [silent]; exact bound) (same capacity machine)

theorem pure (value : α) : Truncates (Pure.pure value) :=
  ofSilent (fun _ => rfl) fun _ _ => rfl

theorem throw (stop : Stop) : Truncates (MonadExcept.throw stop : Run α) :=
  ofSilent (fun _ => rfl) fun _ _ => rfl

/-- Once the sink is full, it does not matter what goes on. -/
theorem bind (first : run.Truncates) (rest : ∀ value, (next value).Truncates) :
    (run >>= next).Truncates := by
  refine ⟨fun machine unlimited => ?_, fun capacity machine unlimited bound => ?_⟩
  · obtain ⟨printed, isPrinted⟩ := first.prints machine unlimited
    cases ended : run machine with
    | ok value after =>
      rw [left_ok ended] at isPrinted
      obtain ⟨more, isMore⟩ := (rest value).prints after (congrArg Sink.capacity isPrinted)
      have left : (run >>= next).left machine = (next value).left after := by
        unfold Run.left
        rw [bind_ok ended]
      refine ⟨printed ++ more, ?_⟩
      rw [left, isMore, isPrinted, ByteArray.append_assoc]
    | error stop after =>
      rw [left_error ended] at isPrinted
      exact ⟨printed, (congrArg Machine.sink (left_error (bind_error ended))).trans isPrinted⟩
  · have early := first.cuts capacity machine unlimited bound
    obtain ⟨printed, isPrinted⟩ := first.prints machine unlimited
    cases ended : run machine with
    | error stop after =>
      have left : (run >>= next).left machine = run.left machine := by
        rw [left_error (bind_error ended), left_error ended]
      cases early with
      | fits bound same =>
        rw [ended] at same
        refine .fits (left ▸ bound) ?_
        rw [bind_error ended, bind_error same]
        rfl
      | full stopped exceeds same kept =>
        exact .full stopped (left ▸ exceeds) (bind_error same) (left ▸ kept)
    | ok value after =>
      have left : (run >>= next).left machine = (next value).left after := by
        unfold Run.left
        rw [bind_ok ended]
      rw [left_ok ended] at isPrinted
      have unlimitedAfter : after.sink.capacity = none := congrArg Sink.capacity isPrinted
      cases early with
      | fits bound same =>
        rw [left_ok ended] at bound
        rw [ended] at same
        have limited : (run >>= next) (machine.cut capacity) = next value (after.cut capacity) :=
          bind_ok same
        have unlimited : (run >>= next) machine = next value after := bind_ok ended
        cases (rest value).cuts capacity after unlimitedAfter bound with
        | fits bound same =>
          exact .fits (left ▸ bound) (limited.trans (same.trans (congrArg _ unlimited.symm)))
        | full stopped exceeds same kept =>
          exact .full stopped (left ▸ exceeds) (limited.trans same) (left ▸ kept)
      | full stopped exceeds same kept =>
        rw [left_ok ended] at exceeds kept
        obtain ⟨more, isMore⟩ := (rest value).prints after unlimitedAfter
        refine .full stopped ?_ (bind_error same) ?_ <;> rw [left, isMore]
        · rw [ByteArray.size_append]
          omega
        · rw [kept, Sink.cut, Sink.cut, Sink.extract_first (Nat.le_of_lt exceeds)]

theorem get {next : Machine → Run β} (rest : ∀ machine, (next machine).Truncates)
    (blind : ∀ machine sink, next { machine with sink } = next machine) :
    (MonadState.get >>= next).Truncates := by
  refine ⟨fun machine unlimited => (rest machine).prints machine unlimited,
    fun capacity machine unlimited bound => ?_⟩
  have limited : (MonadState.get >>= next) (machine.cut capacity) =
      next machine (machine.cut capacity) :=
    congrFun (blind machine (machine.sink.cut capacity)) (machine.cut capacity)
  cases (rest machine).cuts capacity machine unlimited bound with
  | fits bound same => exact .fits bound (limited.trans same)
  | full stopped exceeds same kept => exact .full stopped exceeds (limited.trans same) kept

theorem changeHeap (change : Heap → Heap) : (Run.changeHeap change).Truncates :=
  ofSilent (fun _ => rfl) fun _ _ => rfl

theorem allocate (add : Heap → Nat × Heap) : (Run.allocate add).Truncates :=
  ofSilent (fun _ => rfl) fun _ _ => rfl

theorem define (name : String) (value : Value) : (Run.define name value).Truncates :=
  ofSilent (fun _ => rfl) fun _ _ => rfl

theorem tick : Truncates (modify fun machine => { machine with clock := machine.clock.next }) :=
  ofSilent (fun _ => rfl) fun _ _ => rfl

theorem write_ended (text : String) (machine : Machine) :
    Run.write text machine = match machine.sink.write text.toUTF8 with
      | (none, sink) => .ok () { machine with sink }
      | (some problem, sink) => .error (.error (.output problem)) { machine with sink } := rfl

/-- A text is printed as far as it fits. -/
theorem write (text : String) : (Run.write text).Truncates := by
  have ends (machine : Machine) (unlimited : machine.sink.capacity = none) :
      Run.write text machine =
        .ok () { machine with sink := ⟨machine.sink.bytes ++ text.toUTF8, none⟩ } := by
    rw [write_ended, Sink.write_eq, Sink.room, unlimited]
    dsimp only
    rw [if_neg (Nat.lt_irrefl _), ByteArray.extract_zero_size]
  refine ⟨fun machine unlimited => ⟨text.toUTF8, ?_⟩, fun capacity machine unlimited bound => ?_⟩
  · rw [left_ok (ends machine unlimited)]
  have isCut : (machine.cut capacity).sink = ⟨machine.sink.bytes, some capacity⟩ :=
    congrArg (Sink.mk · _) (Sink.extract_whole bound)
  have left : ((Run.write text).left machine).sink.bytes = machine.sink.bytes ++ text.toUTF8 := by
    rw [left_ok (ends machine unlimited)]
  have limited := write_ended text (machine.cut capacity)
  rw [isCut, Sink.write_eq, Sink.room] at limited
  dsimp only at limited
  by_cases fits : machine.sink.bytes.size + text.toUTF8.size ≤ capacity
  · refine .fits (left ▸ ByteArray.size_append ▸ fits) ?_
    rw [limited, ends machine unlimited, if_neg (by omega), Nat.min_eq_left (by omega),
      ByteArray.extract_zero_size]
    simp only [cutEnding, Machine.cut, Sink.cut]
    rw [Sink.extract_whole (ByteArray.size_append ▸ fits)]
  · rw [if_pos (by omega), Nat.min_eq_right (by omega)] at limited
    refine .full _ (left ▸ ByteArray.size_append ▸ Nat.lt_of_not_le fits) limited ?_
    rw [Sink.cut, left]
    have both := Sink.extract_both machine.sink.bytes text.toUTF8
      (capacity - machine.sink.bytes.size)
    rw [Nat.add_sub_cancel' bound] at both
    rw [both]

/-- A run between a change of the machine and its return, which leave the sink alone. -/
theorem between {whole : Run α} (truncates : run.Truncates) (enter : Machine → Machine)
    (leave : Machine → Machine → Machine)
    (isWhole : ∀ machine, whole machine = match run (enter machine) with
      | .ok value after => .ok value (leave machine after)
      | .error stop after => .error stop (leave machine after))
    (enterSink : ∀ machine, (enter machine).sink = machine.sink)
    (leaveSink : ∀ machine after, (leave machine after).sink = after.sink)
    (enterCut : ∀ capacity machine, enter (machine.cut capacity) = (enter machine).cut capacity)
    (leaveCut : ∀ capacity machine after,
      leave (machine.cut capacity) (after.cut capacity) = (leave machine after).cut capacity) :
    whole.Truncates := by
  have left (machine : Machine) :
      (whole.left machine).sink = (run.left (enter machine)).sink := by
    unfold Run.left
    rw [isWhole]
    cases run (enter machine) <;> exact leaveSink _ _
  refine ⟨fun machine unlimited => ?_, fun capacity machine unlimited bound => ?_⟩
  · rw [left, ← enterSink machine]
    exact truncates.prints _ ((congrArg Sink.capacity (enterSink machine)).trans unlimited)
  · rw [← enterSink machine] at unlimited bound
    cases truncates.cuts capacity (enter machine) unlimited bound with
    | fits bound same =>
      refine .fits (left machine ▸ bound) ?_
      rw [isWhole, enterCut, same, isWhole]
      cases run (enter machine) with
      | ok value after => exact congrArg (EStateM.Result.ok value) (leaveCut capacity machine after)
      | error stop after =>
        exact congrArg (EStateM.Result.error stop) (leaveCut capacity machine after)
    | full stopped exceeds same kept =>
      refine .full (leave (machine.cut capacity) stopped) (left machine ▸ exceeds) ?_ ?_
      · rw [isWhole, enterCut, same]
      · rw [leaveSink, kept, left]

theorem within (frame : FrameId) (truncates : run.Truncates) : (Run.within frame run).Truncates :=
  truncates.between (fun machine => { machine with current := frame })
    (fun machine after => { after with current := machine.current }) (fun _ => rfl) (fun _ => rfl)
    (fun _ _ => rfl) (fun _ _ => rfl) fun _ _ _ => rfl

theorem inCall (truncates : run.Truncates) : (Run.inCall run).Truncates :=
  truncates.between (fun machine => { machine with callDepth := machine.callDepth + 1 })
    (fun _ after => { after with callDepth := after.callDepth - 1 }) (fun _ => rfl) (fun _ => rfl)
    (fun _ _ => rfl) (fun _ _ => rfl) fun _ _ _ => rfl

end Truncates

/-- What is put together from the primitives is cut off where the sink is full. -/
theorem Built.truncates {run : Run α} (built : run.Built) : run.Truncates := by
  induction built with
  | pure value => exact .pure value
  | throw stop => exact .throw stop
  | bind _ _ first rest => exact .bind first rest
  | get _ blind rest => exact .get rest blind
  | changeHeap change => exact .changeHeap change
  | allocate add => exact .allocate add
  | define name value => exact .define name value
  | tick => exact .tick
  | write text => exact .write text
  | within frame _ inside => exact .within frame inside
  | inCall _ inside => exact .inCall inside

end Run

/-! ### Sessions -/

namespace Session

/-- The session with another sink. -/
def withSink (session : Session) (sink : Sink) : Session :=
  { session with machine := { session.machine with sink } }

/-- How a session goes on with room for `limit` more bytes, beside how it goes on with an unlimited
sink, onto which `printed` is printed: the limited sink keeps the first bytes of that. If it is no
more than fits, all else is equal, too; otherwise the one error is that the sink is full, and the
next statement would run where the first one did. -/
structure CutOff (session : Session) (before : ByteArray) (limit : Nat) (printed : ByteArray)
    (unlimited limited : Outcome α × Session) : Prop where
  prints : unlimited.2.output = before ++ printed
  keeps : limited.2.output = before ++ printed.extract 0 limit
  fits : printed.size ≤ limit → limited.1 = unlimited.1 ∧
    limited.2 = unlimited.2.withSink ⟨before ++ printed, some (before.size + limit)⟩
  full : limit < printed.size → limited.1 = .failed [.runtime (.output .sinkFull)] ∧
    limited.2.machine.current = session.machine.current ∧
    limited.2.machine.callDepth = session.machine.callDepth

variable (session : Session) (before : ByteArray) (limit : Nat)

/-- Where nothing is run, nothing is printed. -/
theorem cutOff_unrun (after : Session) (outcome : Outcome α) :
    CutOff session before limit .empty (outcome, after.withSink ⟨before, none⟩)
      (outcome, after.withSink ⟨before, some (before.size + limit)⟩) := by
  have unprinted : before ++ ByteArray.empty = before := ByteArray.append_empty
  refine ⟨unprinted.symm, ?_, fun _ => ⟨rfl, ?_⟩, fun exceeds => absurd exceeds (Nat.not_lt_zero _)⟩
  · rw [Sink.extract_whole (Nat.zero_le limit), unprinted]
    rfl
  · rw [unprinted]
    rfl

theorem perform_cutOff {run : Run α} (truncates : run.Truncates) (restores : run.Restores)
    (ends : ((session.withSink ⟨before, none⟩).perform run).1 ≠ .exhausted) :
    ∃ printed, CutOff session before limit printed
      ((session.withSink ⟨before, none⟩).perform run)
      ((session.withSink ⟨before, some (before.size + limit)⟩).perform run) := by
  let machine := (session.withSink ⟨before, none⟩).machine
  let capacity := before.size + limit
  obtain ⟨printed, isPrinted⟩ : ∃ printed, (run.left machine).sink = ⟨before ++ printed, none⟩ :=
    truncates.prints machine rfl
  have isCut : (session.withSink ⟨before, some capacity⟩).machine = machine.cut capacity := by
    show _ = { machine with sink := ⟨before.extract 0 capacity, some capacity⟩ }
    rw [Sink.extract_whole (Nat.le_add_right _ _)]
    rfl
  have kept : (run.left machine).sink.cut capacity =
      ⟨before ++ printed.extract 0 limit, some capacity⟩ := by
    rw [isPrinted, Sink.cut, Sink.extract_both]
  have size : (run.left machine).sink.bytes.size = before.size + printed.size := by
    rw [isPrinted, ByteArray.size_append]
  have cut := truncates.cuts capacity machine rfl (Nat.le_add_right _ _)
  refine ⟨printed, ?_, ?_, fun fits => ?_, fun exceeds => ?_⟩
  · rw [output, perform_machine]
    exact congrArg Sink.bytes isPrinted
  · rw [output, perform_machine, isCut]
    refine Eq.trans (congrArg Sink.bytes ?_) (congrArg Sink.bytes kept)
    cases cut with
    | fits _ same => exact congrArg Machine.sink (Run.left_cut same)
    | full stopped _ same isKept => exact (congrArg Machine.sink (Run.left_error same)).trans isKept
  · cases cut with
    | full stopped exceeds => exact absurd (size ▸ exceeds) (by omega)
    | fits _ same =>
      rw [Sink.extract_whole fits] at kept
      unfold perform at ends ⊢
      rw [isCut, same]
      have moved (after : Machine) (left : run.left machine = after) :
          Session.mk (after.cut capacity) session.nextReference =
            Session.mk { after with sink := ⟨before ++ printed, some capacity⟩ }
              session.nextReference :=
        congrArg (fun sink => Session.mk { after with sink } session.nextReference)
          (left ▸ kept)
      cases ended : run machine with
      | ok value after => exact ⟨rfl, moved after (Run.left_ok ended)⟩
      | error stop after =>
        cases stop with
        | error error => exact ⟨rfl, moved after (Run.left_error ended)⟩
        | exhausted =>
          rw [show run (session.withSink ⟨before, none⟩).machine = _ from ended] at ends
          exact absurd rfl ends
  · cases cut with
    | fits bound => exact absurd (size ▸ bound) (by omega)
    | full stopped _ same _ =>
      have isStopped : (session.withSink ⟨before, some capacity⟩).perform run =
          (.failed [.runtime (.output .sinkFull)], { session with machine := stopped }) := by
        unfold perform
        rw [isCut, same]
        rfl
      refine ⟨congrArg Prod.fst isStopped, ?_, ?_⟩ <;> rw [isStopped, ← Run.left_error same]
      · exact restores.current _
      · exact restores.callDepth _

theorem readProgram_withSink (sink : Sink) (source : String) :
    (session.withSink sink).readProgram source =
      ((session.readProgram source).1, (session.readProgram source).2.withSink sink) := by
  unfold readProgram
  rw [show (session.withSink sink).nextReference = session.nextReference from rfl]
  cases Source.scan source with
  | mk tokens lexical =>
    dsimp only
    cases Grammar.parseProgram tokens session.nextReference with
    | mk program next => cases lexical <;> cases program <;> rfl

end Session

/-- Whatever state the machine is in and however little fits: a source whose run ends with an
unlimited sink is run with a limited one to the same end as far as all that it prints fits, and
otherwise up to the byte that does not fit. This is so in whatever fragments each text is offered to
a sink that takes the bytes that fit and refuses where none does. -/
theorem output_truncated (session : Session) (depth : Nat) (source : String) (before : ByteArray)
    (limit : Nat) (ends : ((session.withSink ⟨before, none⟩).run depth source).1 ≠ .exhausted) :
    (∀ (sink : Sink) fragments,
      sink.offerEach fragments = sink.write (fragments.foldr (· ++ ·) .empty)) ∧
    ∃ printed, Session.CutOff session before limit printed
      ((session.withSink ⟨before, none⟩).run depth source)
      ((session.withSink ⟨before, some (before.size + limit)⟩).run depth source) := by
  refine ⟨Sink.offerEach_eq, ?_⟩
  have same := Session.readProgram_machine session source
  unfold Session.run at ends ⊢
  rw [Session.readProgram_withSink] at ends ⊢
  rw [Session.readProgram_withSink]
  cases read : session.readProgram source with
  | mk program after =>
    rw [read] at ends same
    cases program with
    | error faults => exact ⟨.empty, Session.cutOff_unrun session before limit after _⟩
    | ok statements =>
      dsimp only at ends same ⊢
      cases resolved : Scope.resolveProgram statements with
      | error errors => exact ⟨.empty, Session.cutOff_unrun session before limit after _⟩
      | ok distances =>
        rw [resolved] at ends
        have built := interpret_built depth statements
        obtain ⟨printed, cutOff⟩ := (after.learn distances).perform_cutOff before limit
          built.truncates built.restores ends
        refine ⟨printed, cutOff.prints, cutOff.keeps, cutOff.fits, fun exceeds => ?_⟩
        have sameCurrent : (after.learn distances).machine.current = session.machine.current := by
          rw [← same]
          rfl
        have sameDepth : (after.learn distances).machine.callDepth = session.machine.callDepth := by
          rw [← same]
          rfl
        obtain ⟨failed, current, callDepth⟩ := cutOff.full exceeds
        exact ⟨failed, current.trans sameCurrent, callDepth.trans sameDepth⟩

/-- The second of two texts does not fit, and of its five bytes three are kept. -/
theorem output_truncated_inText :
    let session := Session.start none ⟨0⟩
    let unlimited := (session.withSink ⟨.empty, none⟩).run 3 "print nil; print true;"
    let limited := (session.withSink ⟨.empty, some (ByteArray.empty.size + 7)⟩).run 3
      "print nil; print true;"
    unlimited.1 ≠ .exhausted ∧
      (∃ printed, session.CutOff .empty 7 printed unlimited limited) ∧
      limited.1 = .failed [.runtime (.output .sinkFull)] ∧ limited.2.output = "nil\ntru".toUTF8 := by
  have ends : ((Session.withSink (.start none ⟨0⟩) ⟨.empty, none⟩).run 3
      "print nil; print true;").1 ≠ .exhausted := nofun
  exact ⟨ends, (output_truncated _ 3 _ .empty 7 ends).2, rfl, by decide +kernel⟩

end Lox
