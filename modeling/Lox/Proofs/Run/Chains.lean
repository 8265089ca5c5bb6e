/-
Where a run leads a standing machine: on by single changes, each of which leaves it standing and
loses nothing. The rules below follow the primitives that runs are made of, so a run of any length
is a chain of changes, whether it ends with a result or stops.
-/

import Mathlib.Logic.Relation
import Lox.Proofs.Ensures
import Lox.Proofs.Run.Cursor
import Lox.Proofs.Run.History
import Lox.Proofs.Run.Standing

namespace Lox

variable {dialect : Dialect} {machine before middle after : Machine} {α β : Type}

/-! ### Chains of changes of a heap -/

namespace Heap

variable {heap : Heap}

/-- A heap has become another one by changes. -/
def Chain (dialect : Dialect) : Heap → Heap → Prop :=
  Relation.ReflTransGen (Change dialect)

theorem Chain.extends {later : Heap} (chain : heap.Chain dialect later) :
    heap.Extends dialect later := by
  induction chain with
  | refl => exact .refl heap
  | tail _ change inductionHypothesis => exact inductionHypothesis.trans change.extends

theorem Chain.stands {later : Heap} (chain : heap.Chain dialect later)
    (stands : heap.Stands dialect) : later.Stands dialect := by
  induction chain with
  | refl => exact stands
  | tail _ change inductionHypothesis => exact change.stands inductionHypothesis

/-- Names of the dialect are bound in a frame, one after the other. -/
theorem defineAll_chain (heap : Heap) {frame : FrameId} {entries : List (String × Value)}
    (present : frame < heap.frames.size)
    (fit : ∀ entry ∈ entries, dialect.has (.binding entry.1) ∧ entry.2.Stands dialect heap) :
    heap.Chain dialect (heap.defineAll frame entries) := by
  induction entries generalizing heap with
  | nil => exact .refl
  | cons entry others inductionHypothesis =>
    have ⟨isName, isThere⟩ := fit entry List.mem_cons_self
    have change : heap.Change dialect (heap.define frame entry.1 entry.2) :=
      .define present isThere (.inl isName)
    refine .head change (inductionHypothesis _ ?_ fun other member => ?_)
    · exact Nat.lt_of_lt_of_le present change.extends.frames
    · have ⟨isName, isThere⟩ := fit other (List.mem_cons_of_mem entry member)
      exact ⟨isName, isThere.later change.extends⟩

/-- An added frame is there. -/
theorem lt_size_addFrame (heap : Heap) (enclosing : FrameId) :
    heap.frames.size < (heap.addFrame enclosing).2.frames.size :=
  Nat.lt_of_lt_of_eq (Nat.lt_succ_self _) (Frames.size_add _ _).symm

/-- A new frame binds names of the dialect. -/
theorem openFrame_chain (heap : Heap) {enclosing : FrameId} {entries : List (String × Value)}
    (present : enclosing < heap.frames.size)
    (fit : ∀ entry ∈ entries, dialect.has (.binding entry.1) ∧ entry.2.Stands dialect heap) :
    heap.Chain dialect (heap.openFrame enclosing entries) := by
  have added : heap.Change dialect (heap.addFrame enclosing).2 := .addFrame present
  refine .head added (defineAll_chain _ (heap.lt_size_addFrame enclosing) fun entry member => ?_)
  have ⟨isName, isThere⟩ := fit entry member
  exact ⟨isName, isThere.later added.extends⟩

/-- A new frame binds one name, whatever it is. -/
theorem openFrame_word_chain (heap : Heap) {enclosing : FrameId} (word : String) {value : Value}
    (present : enclosing < heap.frames.size) (isThere : value.Stands dialect heap) :
    heap.Chain dialect (heap.openFrame enclosing [(word, value)]) := by
  have added : heap.Change dialect (heap.addFrame enclosing).2 := .addFrame present
  have unbound : (heap.addFrame enclosing).2.frames.read? heap.frames.size word = none :=
    (Frames.read?_add _ _ _ _).trans (Frames.read?_size _ _)
  exact .head added (.single (.define (heap.lt_size_addFrame enclosing)
    (isThere.later added.extends) (.inr (.inr unbound))))

/-! ### Methods that are bound -/

/-- What a function that is there is closed over is there, and its declaration is of the dialect. -/
theorem Stands.function (stands : heap.Stands dialect) {id : FunctionId}
    (present : id < heap.functions.size) :
    (heap.function id).closure < heap.frames.size ∧
      dialect.has (.function (heap.function id).declaration) := by
  have found := Array.getElem?_eq_getElem present
  rw [function_of_some found]
  exact ⟨stands.closure found, stands.declaration found⟩

/-- A call opens a frame that binds the parameters, which are names of the dialect. -/
theorem openCall_chain {id : FunctionId} {arguments : List Value}
    (stands : heap.Stands dialect) (present : id < heap.functions.size)
    (areThere : ∀ value ∈ arguments, value.Stands dialect heap) :
    heap.Chain dialect (heap.openFrame (heap.function id).closure
      (((heap.function id).declaration.parameters.map Identifier.name).zip arguments)) := by
  have ⟨closure, isTree⟩ := stands.function present
  refine openFrame_chain heap closure fun entry member => ?_
  have ⟨isParameter, isArgument⟩ := List.of_mem_zip member
  obtain ⟨parameter, isOne, same⟩ := List.mem_map.mp isParameter
  exact ⟨same ▸ dialect.parameter isTree parameter isOne, areThere _ isArgument⟩

theorem bindMethod_chain {method : FunctionId} {receiver : InstanceId}
    (stands : heap.Stands dialect) (isMethod : heap.IsMethod method)
    (isThere : receiver < heap.instances.size) :
    heap.Chain dialect (heap.bindMethod method receiver).2 := by
  have ⟨closure, declaration⟩ := stands.function isMethod.lt_size
  have opened : heap.Chain dialect
      (heap.openFrame (heap.function method).closure [("this", .object receiver)]) :=
    openFrame_word_chain heap "this" closure isThere
  refine .tail opened (.addFunction ?_ declaration)
  rw [openFrame_size]
  exact Nat.lt_succ_self _

/-- The function at the place where a bound method is put. -/
theorem bindMethod_function? (heap : Heap) (method : FunctionId) (receiver : InstanceId) :
    (heap.bindMethod method receiver).2.functions[heap.functions.size]? =
      some { heap.function method with closure := heap.frames.size } :=
  Array.getElem?_push_size

/-- A bound method is bound to its receiver. -/
theorem bindMethod_boundTo (stands : heap.Stands dialect) (method : FunctionId)
    (receiver : InstanceId) :
    (heap.bindMethod method receiver).2.BoundTo heap.functions.size receiver :=
  ⟨_, heap.bindMethod_function? method receiver, Nat.ne_of_gt stands.outermost,
    heap.openFrame_read? (heap.function method).closure "this" (.object receiver)⟩

/-- A bound method, as a value, refers to something. -/
theorem bindMethod_stands {method : FunctionId} {receiver : InstanceId}
    (stands : heap.Stands dialect) (isMethod : heap.IsMethod method)
    (isThere : receiver < heap.instances.size) :
    (Value.callable (.method heap.functions.size)).Stands dialect
      (heap.bindMethod method receiver).2 := by
  have ext := (bindMethod_chain stands isMethod isThere).extends
  refine ⟨⟨_, heap.bindMethod_function? method receiver, ?_⟩,
    .inr ⟨receiver, Nat.lt_of_lt_of_le isThere ext.instances_size,
      bindMethod_boundTo stands method receiver⟩⟩
  obtain ⟨object, found, isMarked⟩ := isMethod
  rw [function_of_some found]
  exact isMarked

end Heap

/-! ### Chains of changes of a machine -/

/-- The heap of the machine stands, and its current frame is there. -/
structure Machine.Stands (dialect : Dialect) (machine : Machine) : Prop where
  heap : machine.heap.Stands dialect
  current : machine.current < machine.heap.frames.size

/-- A machine changes its heap, goes to a frame, or changes what is neither. -/
inductive Machine.Change (dialect : Dialect) : Machine → Machine → Prop
  | heap {machine : Machine} {heap : Heap} : machine.heap.Change dialect heap →
    Change dialect machine (machine.withHeap heap)
  | move {machine : Machine} {frame : FrameId} : frame < machine.heap.frames.size →
    Change dialect machine { machine with current := frame }
  | aside {before after : Machine} : after.heap = before.heap → after.current = before.current →
    Change dialect before after

/-- A machine has become another one by changes. -/
def Machine.Chain (dialect : Dialect) : Machine → Machine → Prop :=
  Relation.ReflTransGen (Machine.Change dialect)

namespace Machine

theorem Change.extends (change : before.Change dialect after) :
    before.heap.Extends dialect after.heap := by
  cases change with
  | heap change => exact change.extends
  | move _ => exact .refl _
  | aside sameHeap _ => exact sameHeap ▸ .refl _

theorem Change.stands (change : before.Change dialect after) (stands : before.Stands dialect) :
    after.Stands dialect := by
  cases change with
  | heap change =>
    exact ⟨change.stands stands.heap, Nat.lt_of_lt_of_le stands.current change.extends.frames⟩
  | move present => exact ⟨stands.heap, present⟩
  | aside sameHeap sameFrame =>
    refine ⟨sameHeap ▸ stands.heap, ?_⟩
    rw [sameHeap, sameFrame]
    exact stands.current

/-- Nothing is lost along a chain. -/
theorem Chain.extends (chain : before.Chain dialect after) :
    before.heap.Extends dialect after.heap := by
  induction chain with
  | refl => exact .refl _
  | tail _ change inductionHypothesis => exact inductionHypothesis.trans change.extends

namespace Chain

theorem refl (machine : Machine) : machine.Chain dialect machine := Relation.ReflTransGen.refl

theorem trans (early : before.Chain dialect middle) (late : middle.Chain dialect after) :
    before.Chain dialect after :=
  Relation.ReflTransGen.trans early late

/-- A standing machine stands in every state along a chain. -/
theorem stands (chain : before.Chain dialect after) (stands : before.Stands dialect) :
    after.Stands dialect := by
  induction chain with
  | refl => exact stands
  | tail _ change inductionHypothesis => exact change.stands inductionHypothesis

theorem move {frame : FrameId} (present : frame < machine.heap.frames.size) :
    machine.Chain dialect { machine with current := frame } :=
  .single (.move present)

theorem aside (sameHeap : after.heap = before.heap) (sameFrame : after.current = before.current) :
    before.Chain dialect after :=
  .single (.aside sameHeap sameFrame)

/-- Changes of the heap are changes of the machine. -/
theorem ofHeap {heap : Heap} (chain : machine.heap.Chain dialect heap) :
    machine.Chain dialect (machine.withHeap heap) := by
  induction chain with
  | refl => exact refl machine
  | tail _ change inductionHypothesis => exact inductionHypothesis.tail (.heap change)

end Chain

end Machine

/-! ### Runs -/

/-- From a standing machine on, the run makes changes only, whatever its end; a result and the heap
it leaves satisfy `result`. -/
def Run.Proceeds (dialect : Dialect) (run : Run α) (machine : Machine)
    (result : α → Heap → Prop) : Prop :=
  machine.Stands dialect →
    Ensures run machine (fun value after => machine.Chain dialect after ∧ result value after.heap)
      fun _ after => machine.Chain dialect after

namespace Run.Proceeds

variable {run : Run α} {next : α → Run β} {result first : α → Heap → Prop}
  {second : β → Heap → Prop}

/-- The machine may be taken to stand. -/
theorem standing (proceeds : machine.Stands dialect → run.Proceeds dialect machine result) :
    run.Proceeds dialect machine result :=
  fun stands => proceeds stands stands

theorem bind (start : run.Proceeds dialect machine first)
    (rest : ∀ value after, machine.Chain dialect after → first value after.heap →
      (next value).Proceeds dialect after second) :
    (run >>= next).Proceeds dialect machine second := by
  intro stands
  refine Ensures.bind (start stands) fun value after _ ⟨chain, holds⟩ => ?_
  exact (rest value after chain holds (chain.stands stands)).mono
    (fun _ _ ⟨further, holds⟩ => ⟨chain.trans further, holds⟩) fun _ _ further =>
      chain.trans further

theorem mono {weaker : α → Heap → Prop} (proceeds : run.Proceeds dialect machine result)
    (results : ∀ value after, machine.Chain dialect after → result value after.heap →
      weaker value after.heap) : run.Proceeds dialect machine weaker :=
  fun stands => (proceeds stands).mono
    (fun value after ⟨chain, holds⟩ => ⟨chain, results value after chain holds⟩)
    fun _ _ chain => chain

/-- What a result satisfies. -/
theorem ok (proceeds : run.Proceeds dialect machine result) (stands : machine.Stands dialect)
    {value : α} (ended : run machine = .ok value after) :
    machine.Chain dialect after ∧ result value after.heap :=
  (proceeds stands).ok ended

/-- The machine goes on by changes to whatever the run leaves. -/
theorem chain (proceeds : run.Proceeds dialect machine result) (stands : machine.Stands dialect) :
    machine.Chain dialect (run.left machine) := by
  cases ended : run machine with
  | ok value after =>
    rw [left_ok ended]
    exact ((proceeds stands).ok ended).1
  | error stop after =>
    rw [left_error ended]
    exact (proceeds stands).error ended

/-- The first steps of a run, which change the machine in a known way. -/
theorem begin (middle : Machine) (rest : Run α) (same : run machine = rest middle)
    (chain : machine.Stands dialect → machine.Chain dialect middle)
    (proceeds : rest.Proceeds dialect middle result) : run.Proceeds dialect machine result := by
  intro stands
  have chain := chain stands
  have ensured := (proceeds (chain.stands stands)).mono
    (fun _ _ ⟨further, holds⟩ => And.intro (chain.trans further) holds)
    fun _ _ further => chain.trans further
  unfold Ensures at ensured ⊢
  rw [same]
  exact ensured

/-- A step that changes the machine in a known way. -/
theorem step {value : α} (after : Machine) (ended : run machine = .ok value after)
    (chain : machine.Stands dialect → machine.Chain dialect after)
    (holds : result value after.heap) : run.Proceeds dialect machine result :=
  fun stands => .of_ok ended ⟨chain stands, holds⟩

theorem pure {value : α} (holds : result value machine.heap) :
    (Pure.pure value : Run α).Proceeds dialect machine result :=
  step machine rfl (fun _ => .refl machine) holds

theorem throw {stop : Stop} :
    (MonadExcept.throw stop : Run α).Proceeds dialect machine result :=
  fun _ => .of_error rfl (.refl machine)

theorem ofExcept {outcome : Except RuntimeError α}
    (holds : ∀ value, outcome = .ok value → result value machine.heap) :
    (Run.ofExcept outcome).Proceeds dialect machine result := by
  cases outcome with
  | ok value => exact pure (holds value rfl)
  | error error => exact throw

/-- What goes on from an answer goes on from the same machine. -/
theorem ofExcept_bind {outcome : Except RuntimeError α}
    (rest : ∀ value, outcome = .ok value → (next value).Proceeds dialect machine second) :
    (Run.ofExcept outcome >>= next).Proceeds dialect machine second := by
  cases outcome with
  | ok value => exact rest value rfl
  | error error => exact throw

/-- Looking at the machine changes nothing. -/
theorem get_bind {next : Machine → Run β} (rest : (next machine).Proceeds dialect machine second) :
    (MonadState.get >>= next : Run β).Proceeds dialect machine second :=
  rest

theorem changeHeap {change : Heap → Heap}
    (chain : machine.Stands dialect → machine.heap.Chain dialect (change machine.heap)) :
    (Run.changeHeap change).Proceeds dialect machine fun _ _ => True :=
  step _ rfl (fun stands => .ofHeap (chain stands)) trivial

theorem allocate {add : Heap → Nat × Heap} {result : Nat → Heap → Prop}
    (chain : machine.Stands dialect → machine.heap.Chain dialect (add machine.heap).2)
    (holds : result (add machine.heap).1 (add machine.heap).2) :
    (Run.allocate add).Proceeds dialect machine result :=
  step _ rfl (fun stands => .ofHeap (chain stands)) holds

/-- A name of the dialect is bound in the current frame. -/
theorem define {name : String} {value : Value} (isName : dialect.has (.binding name))
    (isThere : value.Stands dialect machine.heap) :
    (Run.define name value).Proceeds dialect machine fun _ _ => True :=
  step (machine.define name value) rfl
    (fun stands => .ofHeap (.single (.define stands.current isThere (.inl isName)))) trivial

/-- Writing changes no more than the sink. -/
theorem write {text : String} :
    (Run.write text).Proceeds dialect machine fun _ _ => True := by
  intro _
  unfold Ensures Run.write
  obtain ⟨heap, current, callDepth, distances, sink, clock⟩ := machine
  dsimp only
  cases sink.write text.toUTF8 with
  | mk problem sink =>
    cases problem with
    | none => exact ⟨.aside rfl rfl, trivial⟩
    | some problem => exact .aside rfl rfl

/-- A run in another frame, which is left again. -/
theorem within {frame : FrameId} (present : frame < machine.heap.frames.size)
    (proceeds : run.Proceeds dialect { machine with current := frame } result) :
    (Run.within frame run).Proceeds dialect machine result := by
  intro stands
  have enter : machine.Chain dialect { machine with current := frame } := .move present
  have back {after : Machine}
      (chain : Machine.Chain dialect { machine with current := frame } after) :
      machine.Chain dialect { after with current := machine.current } :=
    (enter.trans chain).trans
      (.move (Nat.lt_of_lt_of_le stands.current (enter.trans chain).extends.frames))
  have ensured := proceeds (enter.stands stands)
  unfold Ensures Run.within
  dsimp only
  cases ended : run { machine with current := frame } with
  | ok value after =>
    have ⟨chain, holds⟩ := ensured.ok ended
    exact ⟨back chain, holds⟩
  | error stop after => exact back (ensured.error ended)

/-- A run with one more call in progress, which is over then. -/
theorem inCall (proceeds : run.Proceeds dialect machine.countCall result) :
    (Run.inCall run).Proceeds dialect machine result := by
  intro stands
  have enter : machine.Chain dialect machine.countCall := .aside rfl rfl
  have back {after : Machine} (chain : machine.countCall.Chain dialect after) :
      machine.Chain dialect { after with callDepth := after.callDepth - 1 } :=
    (enter.trans chain).trans (.aside rfl rfl)
  have ensured := proceeds (enter.stands stands)
  unfold Ensures Run.inCall
  cases ended : run { machine with callDepth := machine.callDepth + 1 } with
  | ok value after =>
    have ⟨chain, holds⟩ := ensured.ok ended
    exact ⟨back chain, holds⟩
  | error stop after => exact back (ensured.error ended)

end Run.Proceeds

end Lox
