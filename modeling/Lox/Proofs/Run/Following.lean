/-
Two runs side by side, on machines whose heaps are a pair. The first one is given some depth; if it
ends within that, the second one ends in the same way, within every depth that is great enough. How
deep it has to be is not told, since braces around a statement cost depth. Both leave the machines
in the frames in which they found them, and what was known about the pair is known about what has
become of it.
-/

import Lox.Proofs.Ensures
import Lox.Proofs.Run.Built
import Lox.Proofs.Run.Pair

namespace Lox

open Scope

/-- Runs in a new frame around which the current one lies. -/
def Run.inBlock {α : Type} (run : Run α) : Run α := do
  let current := (← get).current
  let frame ← Run.allocate fun heap => heap.addFrame current
  Run.within frame run

/-- The errors are the same but for the line. -/
inductive RuntimeError.SameProblem : RuntimeError → RuntimeError → Prop
  | located {problem line lineToo} : SameProblem (.located problem line) (.located problem lineToo)
  | output {problem} : SameProblem (.output problem) (.output problem)

namespace Pair

variable {known knownToo : Distances} {α β : Type}

/-! ### Machines side by side -/

/-- The machines have the heaps of the pair and are in the given frames; nothing else tells them
apart but what they know about references. -/
structure Joins (pair : Pair known knownToo) (current currentToo : FrameId)
    (machine machineToo : Machine) : Prop where
  left : machine.heap = pair.left
  right : machineToo.heap = pair.right
  holds : pair.Holds
  current : machine.current = current
  currentToo : machineToo.current = currentToo
  distances : machine.distances = known
  distancesToo : machineToo.distances = knownToo
  callDepth : machineToo.callDepth = machine.callDepth
  sink : machineToo.sink = machine.sink
  clock : machineToo.clock = machine.clock

/-- What is asked of two results. -/
abbrev Relation (known knownToo : Distances) (α : Type) := Pair known knownToo → α → α → Prop

/-- The results are the same. -/
def Same (_ : Pair known knownToo) (result resultToo : α) : Prop := resultToo = result

/-- The values are the same, and of use on both sides. -/
def SameValue (pair : Pair known knownToo) (value valueToo : Value) : Prop :=
  valueToo = value ∧ pair.Usable value

/-- The values are the same, and all are of use on both sides. -/
def SameValues (pair : Pair known knownToo) (values valuesToo : List Value) : Prop :=
  valuesToo = values ∧ ∀ value ∈ values, pair.Usable value

/-- The flows are the same, and a value that is returned is of use on both sides. -/
def SameFlow (pair : Pair known knownToo) (flow flowToo : Flow) : Prop :=
  flowToo = flow ∧ ∀ value, flow = .returned value → pair.Usable value

/-- Either both loops go on, or both end with the same flow. -/
def SamePass (pair : Pair known knownToo) (flow flowToo : Option Flow) : Prop :=
  flowToo = flow ∧ ∀ value, flow = some (.returned value) → pair.Usable value

/-! ### How runs end -/

/-- Unless the first run is exhausted, the others end like it from some depth on, on machines side
by side that are in the same frames as before. -/
inductive Ends (pair : Pair known knownToo) (current currentToo : FrameId)
    (relation : Relation known knownToo α) :
    EStateM.Result Stop Machine α → (Nat → EStateM.Result Stop Machine α) → Prop
  | ok {later value valueToo machine machineToo results} (least : Nat) : pair.Later later →
    later.Joins current currentToo machine machineToo → relation later value valueToo →
    (∀ depth, least ≤ depth → results depth = .ok valueToo machineToo) →
    Ends pair current currentToo relation (.ok value machine) results
  | error {later error errorToo machine machineToo results} (least : Nat) : pair.Later later →
    later.Joins current currentToo machine machineToo → error.SameProblem errorToo →
    (∀ depth, least ≤ depth → results depth = .error (.error errorToo) machineToo) →
    Ends pair current currentToo relation (.error (.error error) machine) results
  | exhausted {machine results} :
    Ends pair current currentToo relation (.error .exhausted machine) results

/-- A result on a machine that is changed. -/
def settled (restore : Machine → Machine) :
    EStateM.Result Stop Machine α → EStateM.Result Stop Machine α
  | .ok value machine => .ok value (restore machine)
  | .error stop machine => .error stop (restore machine)

/-- On machines side by side, the runs end like the first one from some depth on. -/
structure Follows (pair : Pair known knownToo) (current currentToo : FrameId)
    (relation : Relation known knownToo α) (run : Run α) (runs : Nat → Run α) : Prop where
  ends : ∀ {machine machineToo}, pair.Joins current currentToo machine machineToo →
    pair.Ends current currentToo relation (run machine) fun depth => runs depth machineToo

/-- The answers are related results, or the same error but for its line. -/
inductive Answers (pair : Pair known knownToo) (relation : Relation known knownToo α) :
    Except RuntimeError α → Except RuntimeError α → Prop
  | ok {value valueToo} : relation pair value valueToo →
    Answers pair relation (.ok value) (.ok valueToo)
  | error {error errorToo} : error.SameProblem errorToo →
    Answers pair relation (.error error) (.error errorToo)

variable {pair later : Pair known knownToo} {current currentToo frame frameToo : FrameId}
  {relation : Relation known knownToo α} {further : Relation known knownToo β}

namespace Joins

variable {machine machineToo : Machine}

theorem moved (joins : pair.Joins current currentToo machine machineToo)
    (frame frameToo : FrameId) : pair.Joins frame frameToo
      { machine with current := frame } { machineToo with current := frameToo } :=
  { joins with current := rfl, currentToo := rfl }

theorem changed (joins : pair.Joins current currentToo machine machineToo) {left right : Heap}
    (isLeft : left = later.left) (isRight : right = later.right) (holds : later.Holds) :
    later.Joins current currentToo { machine with heap := left }
      { machineToo with heap := right } :=
  { joins with left := isLeft, right := isRight, holds }

end Joins

namespace Ends

variable {result : EStateM.Result Stop Machine α}
  {results others : Nat → EStateM.Result Stop Machine α}

/-- It is enough to tell how runs end from some depth on. -/
theorem from_depth (ends : pair.Ends current currentToo relation result results) (start : Nat)
    (same : ∀ depth, start ≤ depth → others depth = results depth) :
    pair.Ends current currentToo relation result others := by
  cases ends with
  | ok least grows joins related eventually =>
    exact .ok (max start least) grows joins related fun depth bound =>
      (same depth (by omega)).trans (eventually depth (by omega))
  | error least grows joins sameProblem eventually =>
    exact .error (max start least) grows joins sameProblem fun depth bound =>
      (same depth (by omega)).trans (eventually depth (by omega))
  | exhausted => exact .exhausted

/-- It is enough to tell how runs end with depth left. -/
theorem deeper
    (ends : pair.Ends current currentToo relation result fun depth => results (depth + 1)) :
    pair.Ends current currentToo relation result results := by
  cases ends with
  | ok least grows joins related eventually =>
    refine .ok (least + 1) grows joins related fun depth bound => ?_
    obtain ⟨depth, rfl⟩ := Nat.exists_eq_add_of_le' (Nat.le_trans (Nat.le_add_left 1 least) bound)
    exact eventually depth (Nat.le_of_succ_le_succ bound)
  | error least grows joins sameProblem eventually =>
    refine .error (least + 1) grows joins sameProblem fun depth bound => ?_
    obtain ⟨depth, rfl⟩ := Nat.exists_eq_add_of_le' (Nat.le_trans (Nat.le_add_left 1 least) bound)
    exact eventually depth (Nat.le_of_succ_le_succ bound)
  | exhausted => exact .exhausted

/-- What comes of a later pair comes of the pair. -/
theorem since (grows : pair.Later later)
    (ends : later.Ends current currentToo relation result results) :
    pair.Ends current currentToo relation result results := by
  cases ends with
  | ok least further joins related eventually =>
    exact .ok least (grows.trans further) joins related eventually
  | error least further joins sameProblem eventually =>
    exact .error least (grows.trans further) joins sameProblem eventually
  | exhausted => exact .exhausted

/-- Where runs end, the machines may be changed in what the heaps do not tell. -/
theorem after (restore restoreToo : Machine → Machine)
    (ends : pair.Ends frame frameToo relation result results)
    (keeps : ∀ {later : Pair known knownToo} {machine machineToo},
      later.Joins frame frameToo machine machineToo →
      later.Joins current currentToo (restore machine) (restoreToo machineToo)) :
    pair.Ends current currentToo relation (settled restore result) fun depth =>
      settled restoreToo (results depth) := by
  cases ends with
  | ok least grows joins related eventually =>
    exact .ok least grows (keeps joins) related fun depth bound =>
      congrArg (settled restoreToo) (eventually depth bound)
  | error least grows joins sameProblem eventually =>
    exact .error least grows (keeps joins) sameProblem fun depth bound =>
      congrArg (settled restoreToo) (eventually depth bound)
  | exhausted => exact .exhausted

end Ends

/-! ### Runs side by side -/

namespace Follows

variable {run : Run α} {runs : Nat → Run α} {next : α → Run β} {nexts : Nat → α → Run β}

theorem pure {value valueToo : α} (related : relation pair value valueToo) :
    pair.Follows current currentToo relation (Pure.pure value) fun _ => Pure.pure valueToo :=
  ⟨fun joins => .ok 0 (.refl pair) joins related fun _ _ => rfl⟩

theorem exhausted : pair.Follows current currentToo relation (throw .exhausted) runs :=
  ⟨fun _ => .exhausted⟩

theorem fail (problem : RuntimeProblem) (line lineToo : Nat) :
    pair.Follows current currentToo relation (Run.fail problem line) fun _ =>
      Run.fail problem lineToo :=
  ⟨fun joins => .error 0 (.refl pair) joins .located fun _ _ => rfl⟩

theorem ofExcept {answer answerToo : Except RuntimeError α}
    (answers : pair.Answers relation answer answerToo) :
    pair.Follows current currentToo relation (Run.ofExcept answer) fun _ =>
      Run.ofExcept answerToo := by
  refine ⟨fun joins => ?_⟩
  cases answers with
  | ok related => exact .ok 0 (.refl pair) joins related fun _ _ => rfl
  | error sameProblem => exact .error 0 (.refl pair) joins sameProblem fun _ _ => rfl

/-- It is enough to tell what runs do from some depth on. -/
theorem from_depth {others : Nat → Run α}
    (follows : pair.Follows current currentToo relation run runs) (start : Nat)
    (same : ∀ depth, start ≤ depth → others depth = runs depth) :
    pair.Follows current currentToo relation run others :=
  ⟨fun joins => (follows.ends joins).from_depth start fun depth bound =>
    congrFun (same depth bound) _⟩

/-- It is enough to tell what runs do with depth left. -/
theorem deeper
    (follows : pair.Follows current currentToo relation run fun depth => runs (depth + 1)) :
    pair.Follows current currentToo relation run runs :=
  ⟨fun joins => (follows.ends joins).deeper⟩

/-- Less may be told of the results. -/
theorem mono {weaker : Relation known knownToo α}
    (follows : pair.Follows current currentToo relation run runs)
    (implies : ∀ {later value valueToo}, pair.Later later → relation later value valueToo →
      weaker later value valueToo) : pair.Follows current currentToo weaker run runs := by
  refine ⟨fun {machine machineToo} joins => ?_⟩
  have ends := follows.ends joins
  generalize run machine = result at ends ⊢
  cases ends with
  | ok least grows joins related eventually =>
    exact .ok least grows joins (implies grows related) eventually
  | error least grows joins sameProblem eventually =>
    exact .error least grows joins sameProblem eventually
  | exhausted => exact .exhausted

/-- Runs that go on follow each other if their parts do. -/
theorem bind (start : pair.Follows current currentToo relation run runs)
    (rest : ∀ {later value valueToo}, pair.Later later → relation later value valueToo →
      later.Follows current currentToo further (next value) fun depth => nexts depth valueToo) :
    pair.Follows current currentToo further (run >>= next) fun depth =>
      runs depth >>= nexts depth := by
  refine ⟨fun {machine machineToo} joins => ?_⟩
  have ends := start.ends joins
  generalize isResult : run machine = result at ends
  generalize isResults : (fun depth => runs depth machineToo) = results at ends
  cases ends with
  | ok least grows joins related eventually =>
    rw [bind_ok isResult]
    refine (((rest grows related).ends joins).since grows).from_depth least fun depth bound => ?_
    exact bind_ok ((congrFun isResults depth).trans (eventually depth bound))
  | error least grows joins sameProblem eventually =>
    rw [bind_error isResult]
    refine .error least grows joins sameProblem fun depth bound => ?_
    exact bind_error ((congrFun isResults depth).trans (eventually depth bound))
  | exhausted =>
    rw [bind_error isResult]
    exact .exhausted

/-- What goes on after the machine is looked at may read it. -/
theorem get_bind {next : Machine → Run β} {nexts : Nat → Machine → Run β}
    (rest : ∀ {machine machineToo}, pair.Joins current currentToo machine machineToo →
      pair.Follows current currentToo further (next machine) fun depth =>
        nexts depth machineToo) :
    pair.Follows current currentToo further (MonadState.get >>= next) fun depth =>
      MonadState.get >>= nexts depth :=
  ⟨fun joins => (rest joins).ends joins⟩

/-! ### Frames and calls -/

theorem within (inside : pair.Follows frame frameToo relation run runs) :
    pair.Follows current currentToo relation (Run.within frame run) fun depth =>
      Run.within frameToo (runs depth) := by
  refine ⟨fun {machine machineToo} joins => ?_⟩
  refine (inside.ends (joins.moved frame frameToo)).after
    (fun after => { after with current := machine.current })
    (fun after => { after with current := machineToo.current }) fun ended => ?_
  rw [joins.current, joins.currentToo]
  exact ended.moved current currentToo

theorem inCall (inside : pair.Follows current currentToo relation run runs) :
    pair.Follows current currentToo relation (Run.inCall run) fun depth =>
      Run.inCall (runs depth) := by
  refine ⟨fun {machine machineToo} joins => ?_⟩
  have entered : pair.Joins current currentToo
      { machine with callDepth := machine.callDepth + 1 }
      { machineToo with callDepth := machineToo.callDepth + 1 } :=
    { joins with callDepth := congrArg (· + 1) joins.callDepth }
  exact (inside.ends entered).after
    (fun after => { after with callDepth := after.callDepth - 1 })
    (fun after => { after with callDepth := after.callDepth - 1 })
    fun ended => { ended with callDepth := congrArg (· - 1) ended.callDepth }

/-! ### Changes -/

theorem changeHeap {change changeToo : Heap → Heap} (grows : pair.Later later)
    (left : change pair.left = later.left) (right : changeToo pair.right = later.right)
    (holds : pair.Holds → later.Holds) :
    pair.Follows current currentToo Same (Run.changeHeap change) fun _ =>
      Run.changeHeap changeToo :=
  ⟨fun joins => .ok 0 grows
    (joins.changed (joins.left ▸ left) (joins.right ▸ right) (holds joins.holds)) rfl
    fun _ _ => rfl⟩

theorem allocate {add addToo : Heap → Nat × Heap} {relation : Relation known knownToo Nat}
    (grows : pair.Later later) (left : (add pair.left).2 = later.left)
    (right : (addToo pair.right).2 = later.right) (holds : pair.Holds → later.Holds)
    (related : pair.Holds → relation later (add pair.left).1 (addToo pair.right).1) :
    pair.Follows current currentToo relation (Run.allocate add) fun _ => Run.allocate addToo := by
  refine ⟨fun {machine machineToo} joins => ?_⟩
  have relates := related joins.holds
  rw [← joins.left, ← joins.right] at relates
  exact .ok 0 grows
    (joins.changed (joins.left ▸ left) (joins.right ▸ right) (holds joins.holds)) relates
    fun _ _ => rfl

/-- Where a name is defined, it is bound. -/
theorem define (belong : pair.frames current currentToo) (name : String) (value : Value)
    (usable : pair.Usable value) :
    pair.Follows current currentToo
      (fun later _ _ => (later.left.frames.read? current name).isSome)
      (Run.define name value) fun _ => Run.define name value := by
  refine ⟨fun {machine machineToo} joins => ?_⟩
  have isLeft : machine.heap.define machine.current name value =
      pair.left.define current name value := by rw [joins.left, joins.current]
  have isRight : machineToo.heap.define machineToo.current name value =
      pair.right.define currentToo name value := by rw [joins.right, joins.currentToo]
  have isBound : (pair.left.frames.write current name value).read? current name = some value :=
    Frames.read?_write_self (joins.holds.present belong).1
  exact .ok 0 (later_define pair current currentToo name value)
    (joins.changed isLeft isRight (joins.holds.define belong name usable))
    (Option.isSome_of_eq_some isBound) fun _ _ => rfl

theorem defineAll (belong : pair.frames frame frameToo) (entries : List (String × Value))
    (usable : ∀ entry ∈ entries, pair.Usable entry.2) :
    pair.Follows current currentToo Same
      (Run.changeHeap fun heap => heap.defineAll frame entries)
      fun _ => Run.changeHeap fun heap => heap.defineAll frameToo entries := by
  refine ⟨fun joins => ?_⟩
  obtain ⟨later, grows, holds, left, right⟩ := joins.holds.defineAll belong entries usable
  exact (changeHeap grows left.symm right.symm fun _ => holds).ends joins

theorem tick : pair.Follows current currentToo Same
    (modify fun machine => { machine with clock := machine.clock.next })
    fun _ => modify fun machine => { machine with clock := machine.clock.next } := by
  refine ⟨fun {machine machineToo} joins => ?_⟩
  have ticked : pair.Joins current currentToo { machine with clock := machine.clock.next }
      { machineToo with clock := machineToo.clock.next } :=
    { joins with clock := congrArg Clock.next joins.clock }
  exact .ok 0 (.refl pair) ticked rfl fun _ _ => rfl

theorem write (text : String) : pair.Follows current currentToo Same (Run.write text) fun _ =>
    Run.write text := by
  refine ⟨fun {machine machineToo} joins => ?_⟩
  have written (sink : Sink) :
      pair.Joins current currentToo { machine with sink } { machineToo with sink } :=
    { joins with sink := rfl }
  have sameSink := joins.sink
  obtain ⟨heap, frame, callDepth, distances, sink, clock⟩ := machine
  obtain ⟨heapToo, frameToo, callDepthToo, distancesToo, sinkToo, clockToo⟩ := machineToo
  obtain rfl : sinkToo = sink := sameSink
  unfold Run.write
  dsimp only
  cases sinkToo.write text.toUTF8 with
  | mk problem sink =>
    cases problem with
    | none => exact .ok 0 (.refl pair) (written sink) rfl fun _ _ => rfl
    | some problem => exact .error 0 (.refl pair) (written sink) .output fun _ _ => rfl

/-! ### Objects -/

theorem addFrame {alignment : Alignment} {enclosing enclosingToo : FrameId}
    (linked : pair.Linked alignment enclosing enclosingToo) :
    pair.Follows current currentToo
      (fun later frame frameToo => later.Linked alignment.inside frame frameToo)
      (Run.allocate fun heap => heap.addFrame enclosing)
      fun _ => Run.allocate fun heap => heap.addFrame enclosingToo :=
  allocate (pair.later_addFrame enclosing enclosingToo) rfl rfl
    (fun holds => holds.addFrame enclosing enclosingToo) fun _ => linked.addFrame

theorem addFunction {object objectToo : FunctionObject}
    (resembles : object.Resembles objectToo) :
    pair.Follows current currentToo
      (fun later id idToo => idToo = id ∧ later.left.functions[id]? = some object ∧
        later.right.functions[id]? = some objectToo)
      (Run.allocate fun heap => heap.addFunction object)
      fun _ => Run.allocate fun heap => heap.addFunction objectToo :=
  allocate (pair.later_addFunction object objectToo) rfl rfl
    (fun holds => holds.addFunction resembles) fun holds =>
      ⟨holds.size, holds.added object objectToo⟩

theorem bindMethod {method : FunctionId} (binds : pair.Binds method) (receiver : InstanceId) :
    pair.Follows current currentToo (fun later id idToo => idToo = id ∧ later.Runs id)
      (Run.allocate fun heap => heap.bindMethod method receiver)
      fun _ => Run.allocate fun heap => heap.bindMethod method receiver :=
  allocate (pair.later_bindMethod method receiver) rfl rfl
    (fun holds => (holds.bindMethod binds receiver).1) fun holds =>
      ⟨holds.size, (holds.bindMethod binds receiver).2⟩

theorem addClass {object : ClassObject}
    (made : ∀ {name method}, object.methods.get? name = some method → pair.Binds method) :
    pair.Follows current currentToo Same (Run.allocate fun heap => heap.addClass object)
      fun _ => Run.allocate fun heap => heap.addClass object :=
  allocate (pair.later_addClass object) rfl rfl (fun holds => holds.addClass made) fun holds =>
    congrArg Array.size holds.classes

theorem addInstance (classId : ClassId) :
    pair.Follows current currentToo Same (Run.allocate fun heap => heap.addInstance classId)
      fun _ => Run.allocate fun heap => heap.addInstance classId :=
  allocate (pair.later_addInstance classId) rfl rfl (fun holds => holds.addInstance classId)
    fun holds => congrArg Array.size holds.instances

theorem setField (id : InstanceId) (name : String) {value : Value}
    (usable : pair.Usable value) :
    pair.Follows current currentToo Same (Run.changeHeap fun heap => heap.setField id name value)
      fun _ => Run.changeHeap fun heap => heap.setField id name value :=
  changeHeap (pair.later_setField id name value) rfl rfl fun holds => holds.setField id name usable

/-! ### Blocks -/

/-- A block on both sides. -/
theorem inBlock {alignment : Alignment} (linked : pair.Linked alignment current currentToo)
    (inside : ∀ {later : Pair known knownToo} {frame frameToo}, pair.Later later →
      later.Linked alignment.inside frame frameToo →
      later.Follows frame frameToo relation run runs) :
    pair.Follows current currentToo relation (Run.inBlock run) fun depth =>
      Run.inBlock (runs depth) := by
  refine get_bind fun joins => ?_
  rw [joins.current, joins.currentToo]
  exact (addFrame linked).bind fun grows linked => within (inside grows linked)

/-- A block on the right side alone. -/
theorem inBlockRight {alignment : Alignment} (linked : pair.Linked alignment current currentToo)
    (inside : ∀ {later : Pair known knownToo} {frameToo}, pair.Later later →
      later.Linked alignment.skipRight current frameToo →
      later.Follows current frameToo relation run runs) :
    pair.Follows current currentToo relation run fun depth => Run.inBlock (runs depth) := by
  refine ⟨fun {machine machineToo} joins => ?_⟩
  have grows := pair.later_addRight currentToo
  have isRight : (machineToo.heap.addFrame machineToo.current).2 =
      (pair.addRight currentToo).right := by
    rw [joins.right, joins.currentToo]
    rfl
  have isFrame : machineToo.heap.frames.size = pair.right.frames.size := by rw [joins.right]
  have entered : (pair.addRight currentToo).Joins current pair.right.frames.size machine
      { machineToo with
        heap := (machineToo.heap.addFrame machineToo.current).2
        current := machineToo.heap.frames.size } :=
    { joins with right := isRight, holds := joins.holds.addRight currentToo, currentToo := isFrame }
  have ends := ((inside grows linked.addRight).ends entered).since grows
  have settledLeft : settled id (run machine) = run machine := by cases run machine <;> rfl
  rw [← settledLeft]
  refine ends.after id (fun after => { after with current := machineToo.current }) fun ended => ?_
  exact { ended with currentToo := joins.currentToo }

/-- A block on the left side alone. -/
theorem inBlockLeft {alignment : Alignment} (linked : pair.Linked alignment current currentToo)
    (inside : ∀ {later : Pair known knownToo} {frame}, pair.Later later →
      later.Linked alignment.skipLeft frame currentToo →
      later.Follows frame currentToo relation run runs) :
    pair.Follows current currentToo relation (Run.inBlock run) runs := by
  refine ⟨fun {machine machineToo} joins => ?_⟩
  have grows := pair.later_addLeft current
  have isLeft : (machine.heap.addFrame machine.current).2 = (pair.addLeft current).left := by
    rw [joins.left, joins.current]
    rfl
  have isFrame : machine.heap.frames.size = pair.left.frames.size := by rw [joins.left]
  have entered : (pair.addLeft current).Joins pair.left.frames.size currentToo
      { machine with
        heap := (machine.heap.addFrame machine.current).2
        current := machine.heap.frames.size } machineToo :=
    { joins with left := isLeft, holds := joins.holds.addLeft current, current := isFrame }
  have ends := ((inside grows linked.addLeft).ends entered).since grows
  have settledRight : (fun depth => settled id (runs depth machineToo)) =
      fun depth => runs depth machineToo := by
    funext depth
    cases runs depth machineToo <;> rfl
  rw [← settledRight]
  refine ends.after (fun after => { after with current := machine.current }) id fun ended => ?_
  exact { ended with current := joins.current }

end Follows

end Pair

end Lox
