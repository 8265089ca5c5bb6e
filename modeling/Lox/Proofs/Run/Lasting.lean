/-
The shape of the heap over whole sessions. The links outward from a frame and up from a class lead
to what is older, in every state that is reached, so a name looked for along them is found or known
to be absent after finitely many links; and nothing that a later state adds changes a link or loses
a binding.
-/

import Lox.Proofs.Run.Reached

namespace Lox

variable {dialect : Dialect}

/-! ### Following links -/

/-- A name is looked for outward from a frame, link by link, with this answer in the end. -/
inductive Frames.Looks (frames : Frames) (name : String) :
    FrameId → Option (FrameId × Value) → Prop
  | here {id : FrameId} {value : Value} : frames.read? id name = some value →
    Looks frames name id (some (id, value))
  | outward {id outer : FrameId} {answer : Option (FrameId × Value)} :
    frames.read? id name = none → frames.enclosing? id = some outer →
    Looks frames name outer answer → Looks frames name id answer
  | nowhere {id : FrameId} : frames.read? id name = none → frames.enclosing? id = none →
    Looks frames name id none

/-- A method is looked for in a class and then up from it, link by link, with this answer in the
end. -/
inductive Heap.Searches (heap : Heap) (name : String) : ClassId → Option FunctionId → Prop
  | own {id : ClassId} {method : FunctionId} :
    (heap.classAt id).methods.get? name = some method → Searches heap name id (some method)
  | inherited {id parent : ClassId} {answer : Option FunctionId} :
    (heap.classAt id).methods.get? name = none → (heap.classAt id).superclass = some parent →
    Searches heap name parent answer → Searches heap name id answer
  | nowhere {id : ClassId} : (heap.classAt id).methods.get? name = none →
    (heap.classAt id).superclass = none → Searches heap name id none

namespace Frames

variable {frames : Frames} {name : String} {id : FrameId} {line : Nat}

/-- There is one answer. -/
theorem Looks.unique {answer other : Option (FrameId × Value)}
    (looks : frames.Looks name id answer) (also : frames.Looks name id other) :
    answer = other := by
  induction looks with
  | here bound =>
    cases also with
    | here boundAlso => rw [Option.some.inj (bound.symm.trans boundAlso)]
    | outward unbound _ _ | nowhere unbound _ => exact nomatch bound.symm.trans unbound
  | outward unbound enclosed _ inductionHypothesis =>
    cases also with
    | here bound => exact nomatch bound.symm.trans unbound
    | outward _ enclosedAlso rest =>
      cases enclosed.symm.trans enclosedAlso
      exact inductionHypothesis rest
    | nowhere _ outermost => exact nomatch enclosed.symm.trans outermost
  | nowhere unbound outermost =>
    cases also with
    | here bound => exact nomatch bound.symm.trans unbound
    | outward _ enclosed _ => exact nomatch enclosed.symm.trans outermost
    | nowhere _ _ => rfl

/-- Where links lead to older frames, as many steps as the place of the frame tells are enough. -/
theorem search?_looks
    (older : ∀ {id outer}, frames.enclosing? id = some outer → outer < id) (steps : Nat)
    (enough : id < steps) : frames.Looks name id (frames.search? name steps id) := by
  induction steps generalizing id with
  | zero => exact absurd enough (Nat.not_lt_zero _)
  | succ steps inductionHypothesis =>
    unfold search?
    cases bound : frames.read? id name with
    | some value => exact .here bound
    | none =>
      cases enclosed : frames.enclosing? id with
      | some outer =>
        refine .outward bound enclosed (inductionHypothesis ?_)
        exact Nat.lt_of_lt_of_le (older enclosed) (Nat.le_of_lt_succ enough)
      | none => exact .nowhere bound enclosed

/-- The nearest frame that binds a name is the one that following the links finds. -/
theorem looks_iff (older : ∀ {id outer}, frames.enclosing? id = some outer → outer < id)
    (id : FrameId) (name : String) (answer : Option (FrameId × Value)) :
    frames.Looks name id answer ↔ frames.nearest? id name = answer := by
  have looks : frames.Looks name id (frames.nearest? id name) :=
    search?_looks older (id + 1) (Nat.lt_succ_self id)
  exact ⟨looks.unique, fun same => same ▸ looks⟩

/-- A name is found and given another value where it is found, or it is not found at all. -/
theorem get_assign (older : ∀ {id outer}, frames.enclosing? id = some outer → outer < id)
    (id : FrameId) (name : String) (line : Nat) :
    (∃ holder value, frames.Looks name id (some (holder, value)) ∧
      frames.get id name line = .ok value ∧
      ∀ new, frames.assign id name new line = .ok (frames.write holder name new)) ∨
    (frames.Looks name id none ∧ frames.get id name line = unbound name line ∧
      ∀ new, frames.assign id name new line = unbound name line) := by
  have looks := (looks_iff older id name _).mpr rfl
  unfold get assign holder
  cases nearest : frames.nearest? id name with
  | some found =>
    obtain ⟨holder, value⟩ := found
    exact .inl ⟨holder, value, nearest ▸ looks, rfl, fun _ => rfl⟩
  | none => exact .inr ⟨nearest ▸ looks, rfl, fun _ => rfl⟩

end Frames

namespace Heap

variable {heap : Heap} {name : String} {id : ClassId}

/-- There is one answer. -/
theorem Searches.unique {answer other : Option FunctionId} (searches : heap.Searches name id answer)
    (also : heap.Searches name id other) : answer = other := by
  induction searches with
  | own found =>
    cases also with
    | own foundAlso => rw [← found, foundAlso]
    | inherited absent _ _ | nowhere absent _ => exact nomatch found.symm.trans absent
  | inherited absent isParent _ inductionHypothesis =>
    cases also with
    | own found => exact nomatch found.symm.trans absent
    | inherited _ isParentAlso rest =>
      cases isParent.symm.trans isParentAlso
      exact inductionHypothesis rest
    | nowhere _ topmost => exact nomatch isParent.symm.trans topmost
  | nowhere absent topmost =>
    cases also with
    | own found => exact nomatch found.symm.trans absent
    | inherited _ isParent _ => exact nomatch isParent.symm.trans topmost
    | nowhere _ _ => rfl

/-- A superclass is older, also where there is no class and so no superclass. -/
theorem Stands.superclass_lt (stands : heap.Stands dialect) {parent : ClassId}
    (isParent : (heap.classAt id).superclass = some parent) : parent < id := by
  cases isClass : heap.classes[id]? with
  | none =>
    rw [classAt_of_none isClass] at isParent
    exact nomatch isParent
  | some object =>
    rw [classAt_of_some isClass] at isParent
    exact stands.superclass isClass isParent

/-- As many steps as the place of the class tells are enough. -/
theorem Stands.searchMethod?_searches (stands : heap.Stands dialect) (steps : Nat)
    (enough : id < steps) : heap.Searches name id (heap.searchMethod? name steps id) := by
  induction steps generalizing id with
  | zero => exact absurd enough (Nat.not_lt_zero _)
  | succ steps inductionHypothesis =>
    unfold searchMethod?
    cases found : (heap.classAt id).methods.get? name with
    | some method => exact .own found
    | none =>
      cases isParent : (heap.classAt id).superclass with
      | some parent =>
        refine .inherited found isParent (inductionHypothesis ?_)
        exact Nat.lt_of_lt_of_le (stands.superclass_lt isParent) (Nat.le_of_lt_succ enough)
      | none => exact .nowhere found isParent

/-- The method that is found is the one that following the links finds. -/
theorem Stands.searches_iff (stands : heap.Stands dialect) (id : ClassId) (name : String)
    (answer : Option FunctionId) :
    heap.Searches name id answer ↔ heap.method? id name = answer := by
  have searches : heap.Searches name id (heap.method? id name) :=
    stands.searchMethod?_searches (id + 1) (Nat.lt_succ_self id)
  exact ⟨searches.unique, fun same => same ▸ searches⟩

/-- Nowhere do links go on outward or upward for ever. -/
theorem Stands.founded (stands : heap.Stands dialect) :
    (WellFounded fun outer id => heap.frames.enclosing? id = some outer) ∧
      WellFounded fun parent id => (heap.classAt id).superclass = some parent := by
  have order : WellFounded fun older newer : Nat => older < newer := Nat.lt_wfRel.wf
  exact ⟨Subrelation.wf stands.enclosing order, Subrelation.wf stands.superclass_lt order⟩

end Heap

/-- A frame or class that a change adds has around or above it what was there before the
change. -/
theorem Heap.Change.links {before after : Heap} (change : before.Change dialect after) :
    (∀ id outer, after.frames.enclosing? id = some outer →
      before.frames.enclosing? id = some outer ∨
        (id = before.frames.size ∧ outer < before.frames.size)) ∧
    ∀ (id : ClassId) object parent, after.classes[id]? = some object →
      object.superclass = some parent →
      before.classes[id]? = some object ∨
        (id = before.classes.size ∧ parent < before.classes.size) := by
  cases change with
  | define _ _ _ =>
    exact ⟨fun _ _ enclosed => .inl ((Frames.enclosing?_write _ _ _ _ _).symm.trans enclosed),
      fun _ _ _ found _ => .inl found⟩
  | @addFrame enclosing present =>
    refine ⟨fun id outer enclosed => ?_, fun _ _ _ found _ => .inl found⟩
    change (before.frames.add (some enclosing)).enclosing? id = some outer at enclosed
    rw [Frames.enclosing?_add] at enclosed
    split at enclosed
    · rename_i added
      exact .inr ⟨added, Option.some.inj enclosed ▸ present⟩
    · exact .inl enclosed
  | addClass older _ =>
    refine ⟨fun _ _ enclosed => .inl enclosed, fun id object parent found isParent => ?_⟩
    rcases push_cases found with ⟨added, rfl⟩ | wasThere
    · exact .inr ⟨added, older parent isParent⟩
    · exact .inl wasThere
  | _ => exact ⟨fun _ _ enclosed => .inl enclosed, fun _ _ _ found _ => .inl found⟩

/-! ### The shape of the heap -/

/-- Every state that a session gets to between its requests, and every one in which something
happens in it, is reached; and from a reached state on, the run of any tree and the call of any
value make changes only, whatever their end, so that they lead to reached states. What a change
adds has around or above it a frame or class that was there before the change.

In a reached state, whatever refers to a place refers to something that is there, and the frame
around a frame and the superclass of a class are older than it: places are given in order. So no
chain goes on for ever; a name that is looked for is found or known to be absent, when it is read
and when it is assigned to, and so is a method; and a frame some links out lies at least as many
places before. In no later state has a link, a class, a function or the class of an instance
changed, and what was bound or set still is. -/
theorem heap_lasts :
    (∀ capacity clock requests,
      ((Session.start capacity clock).serveAll requests).machine.Reached .everything) ∧
    (∀ capacity clock event, Happens (.start capacity clock) event →
      event.state.Reached .everything) ∧
    (∀ machine : Machine, machine.Reached .everything → ∀ depth,
      (∀ expression, machine.Chain .everything ((evaluate depth expression).left machine) ∧
        ∀ value after, evaluate depth expression machine = .ok value after →
          value.Stands .everything after.heap) ∧
      (∀ statement, machine.Chain .everything ((execute depth statement).left machine)) ∧
      ∀ (callable : Callable) (arguments : List Value) line,
        (Value.callable callable).Stands .everything machine.heap →
        (∀ argument ∈ arguments, argument.Stands .everything machine.heap) →
        machine.Chain .everything
          (((evaluator depth).perform callable arguments line).left machine) ∧
        ∀ value after, (evaluator depth).perform callable arguments line machine = .ok value after →
          value.Stands .everything after.heap) ∧
    (∀ before after : Heap, before.Change .everything after →
      (∀ id outer, after.frames.enclosing? id = some outer →
        before.frames.enclosing? id = some outer ∨
          (id = before.frames.size ∧ outer < before.frames.size)) ∧
      ∀ (id : ClassId) object parent, after.classes[id]? = some object →
        object.superclass = some parent →
        before.classes[id]? = some object ∨
          (id = before.classes.size ∧ parent < before.classes.size)) ∧
    (∀ machine : Machine, machine.Reached .everything →
      let heap := machine.heap
      machine.Stands .everything ∧
      (WellFounded fun outer id => heap.frames.enclosing? id = some outer) ∧
      (WellFounded fun parent id => (heap.classAt id).superclass = some parent) ∧
      (∀ id name answer,
        heap.frames.Looks name id answer ↔ heap.frames.nearest? id name = answer) ∧
      (∀ id name line,
        (∃ holder value, heap.frames.Looks name id (some (holder, value)) ∧
          heap.frames.get id name line = .ok value ∧
          ∀ new, heap.frames.assign id name new line = .ok (heap.frames.write holder name new)) ∨
        (heap.frames.Looks name id none ∧
          heap.frames.get id name line = Frames.unbound name line ∧
          ∀ new, heap.frames.assign id name new line = Frames.unbound name line)) ∧
      (∀ id distance outer, heap.frames.ancestor? id distance = some outer →
        outer + distance ≤ id) ∧
      ∀ id name answer, heap.Searches name id answer ↔ heap.method? id name = answer) ∧
    ∀ machine later : Machine, machine.Reached .everything → machine.Chain .everything later →
      later.Reached .everything ∧ machine.heap.Extends .everything later.heap := by
  refine ⟨fun capacity clock requests => ?_, fun capacity clock event happened => ?_,
    fun machine reached depth => ?_, fun before after change => change.links,
    fun machine reached => ?_,
    fun machine later reached chain => ⟨reached.later chain, chain.extends⟩⟩
  · exact (Session.serveAll_reached capacity clock requests).mono fun _ _ => trivial
  · exact happened.reached.1.mono fun _ _ => trivial
  · have proceeds := evaluator_proceeds .everything depth
    have stands := reached.stands
    refine ⟨fun expression => ?_, fun statement => ?_,
      fun callable arguments line isThere areThere => ?_⟩
    · have evaluated : (evaluate depth expression).Proceeds .everything machine
          fun value heap => value.Stands .everything heap := proceeds.evaluate trivial
      exact ⟨evaluated.chain stands, fun _ _ ended => (evaluated.ok stands ended).2⟩
    · exact (proceeds.execute trivial).chain stands
    · have performed := proceeds.perform line isThere areThere
      exact ⟨performed.chain stands, fun _ _ ended => (performed.ok stands ended).2⟩
  · have stands := reached.stands
    have ⟨outward, upward⟩ := stands.heap.founded
    exact ⟨stands, outward, upward, Frames.looks_iff stands.heap.enclosing,
      Frames.get_assign stands.heap.enclosing, fun _ _ _ => stands.heap.ancestor_le, stands.heap.searches_iff⟩

/-- A subclass has its superclass and its method still when an instance has been made, and a frame
is added inside that of `super`. -/
theorem heap_lasts_subclass :
    ∃ (event : Event) (later : Machine), Happens (.start none ⟨0⟩) event ∧
      event.state.Reached .everything ∧ event.state.Chain .everything later ∧
      (event.state.heap.classes[1]?.bind ClassObject.superclass) = some 0 ∧
      later.heap.classes[1]? = event.state.heap.classes[1]? ∧
      event.state.heap.Searches "m" 1 (some 0) ∧
      event.state.heap.Change .everything (event.state.heap.addFrame 1).2 ∧
      1 < event.state.heap.frames.size := by
  let plain : FunctionDeclaration := ⟨some ⟨"m", 1⟩, [], []⟩
  have read : ((Session.start none ⟨0⟩).after []).readProgram
      "class A { m() {} } class B < A {} B();" =
      (.ok [.declareClass ⟨"A", 1⟩ none [plain],
        .declareClass ⟨"B", 1⟩ (some (.read 0 ⟨"A", 1⟩)) [],
        .expression (.call (.read 1 ⟨"B", 1⟩) 1 [])], _) := rfl
  -- the machine when there is the first class, and when there are both
  let natives : Array NativeFunction := #[⟨"clock", 0, .clock⟩]
  let globals : Bindings Value :=
    ⟨[("clock", .callable (.native 0)), ("A", .callable (.constructor 0))]⟩
  let classA : ClassObject := ⟨"A", ⟨[("m", 0)]⟩, none⟩
  let classB : ClassObject := ⟨"B", .empty, some 0⟩
  let heap : Heap := ⟨⟨#[⟨globals, none⟩]⟩, #[⟨plain, 0, false⟩], #[classA], #[], natives⟩
  have second : Happens _ (.program _ ⟨heap, 0, 0, ∅, .empty none, ⟨0⟩⟩) :=
    .programRest (.program read rfl) ⟨1, rfl⟩
  let frames : Frames := ⟨#[⟨globals.write "B" (.callable (.constructor 1)), none⟩,
    ⟨⟨[("super", .callable (.constructor 0))]⟩, some 0⟩]⟩
  let later : Heap := ⟨frames, #[⟨plain, 0, false⟩], #[classA, classB], #[], natives⟩
  have third : Happens _ (.program _ ⟨later, 0, 0, ∅, .empty none, ⟨0⟩⟩) :=
    .programRest second ⟨2, rfl⟩
  obtain ⟨_, happen, runs, changes, shape, lasts⟩ := heap_lasts
  have reached := happen none ⟨0⟩ _ third
  have ⟨chain, _⟩ := (runs _ reached 1).2.2 (.constructor 1) [] 1
    (show (1 : Nat) < 2 by decide) fun _ member => absurd member List.not_mem_nil
  have ⟨_, ext⟩ := lasts _ _ reached chain
  have change : later.Change .everything (later.addFrame 1).2 := .addFrame (by decide)
  refine ⟨_, _, third, reached, chain, rfl, ext.classes rfl,
    ((shape _ reached).2.2.2.2.2.2 1 "m" _).mpr rfl, change, ?_⟩
  exact ((changes _ _ change).1 2 1 rfl).elim (fun enclosed => nomatch enclosed) And.right

end Lox
