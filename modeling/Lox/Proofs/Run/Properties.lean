/-
What a property of an instance is, at every moment of every history: the value that was last stored
in its field, through whatever name the instance was reached, and without one the method of the
nearest class along the chain of superclasses. A class has of two methods with one name the later
one, and what it overrides is still reached through `super`.
-/

import Lox.Proofs.Run.Accounts
import Lox.Proofs.Run.Dispatch
import Lox.Proofs.Run.Initializers
import Lox.Proofs.Run.Lasting
import Lox.Proofs.Run.Pair

namespace Lox

variable {α : Type} {machine before after : Machine} {moments : List Moment}

/-! ### What is stored -/

/-- What a field holds at a moment, when it held something or nothing before it. -/
def Moment.stores (receiver : InstanceId) (name : String) (held : Option Value) :
    Moment → Option Value
  | .stored id word value _ => if id = receiver ∧ word = name then some value else held
  | _ => held

/-- The value that was last stored in a field. -/
def lastStored (receiver : InstanceId) (name : String) (moments : List Moment) : Option Value :=
  moments.foldl (Moment.stores receiver name) none

theorem lastStored_stored (receiver : InstanceId) (name : String) (value : Value)
    (machine : Machine) (early : List Moment) :
    lastStored receiver name (early ++ [.stored receiver name value machine]) = some value := by
  rw [lastStored, List.foldl_append]
  exact if_pos ⟨rfl, rfl⟩

/-- A moment that stores in the field gives it the value, and no other one touches it. -/
theorem Moment.Follows.field {moment : Moment} (follows : moment.Follows before)
    (receiver : InstanceId) (name : String) : moment.machine.heap.field? receiver name =
      moment.stores receiver name (before.heap.field? receiver name) := by
  cases moment with
  | begun callable arguments machine =>
    obtain ⟨rfl, _, _⟩ := follows
    rfl
  | finished machine =>
    obtain ⟨_, rfl⟩ := follows
    rfl
  | stored id word value machine =>
    obtain ⟨present, rfl⟩ := follows
    show (before.heap.setField id word value).field? receiver name = _
    rw [Heap.field?_setField]
    unfold stores
    dsimp only
    by_cases same : id = receiver ∧ word = name
    · rw [if_pos same, if_pos ⟨same.1.symm, same.2.symm, present⟩]
    · rw [if_neg same, if_neg fun whole => same ⟨whole.1.symm, whole.2.1.symm⟩]
  | evaluation _ _ | evaluated _ _ | execution _ _ | executed _ _ =>
    cases follows
    rfl

/-- Along the moments, a field holds what is stored in it. -/
theorem Machine.Goes.field (goes : before.Goes moments after) (receiver : InstanceId)
    (name : String) : after.heap.field? receiver name =
      moments.foldl (Moment.stores receiver name) (before.heap.field? receiver name) := by
  induction goes with
  | quiet silent => exact silent.field receiver name
  | moment silent follows _ _ inductionHypothesis =>
    rw [inductionHypothesis, List.foldl_cons, follows.field, silent.field]

/-! ### Properties -/

/-- A method of an instance is taken from a class on: the one of the first class along the chain of
superclasses that has one of the name, bound to the instance. Without one, nothing changes. -/
inductive Machine.Takes (machine : Machine) (receiver : InstanceId) (first : ClassId)
    (name : Identifier) : EStateM.Result Stop Machine Value → Prop
  | method {method : FunctionId} : machine.heap.Searches name.name first (some method) →
    Takes machine receiver first name (.ok (.callable (.method machine.heap.functions.size))
      (machine.bindMethod method receiver))
  | missing : machine.heap.Searches name.name first none →
    Takes machine receiver first name
      (.error (.error (.located (.undefinedProperty name.name) name.line)) machine)

/-- A property of an instance is read: what has been stored, or else a method of its class. -/
inductive Machine.Reads (machine : Machine) (receiver : InstanceId) (name : Identifier) :
    Option Value → EStateM.Result Stop Machine Value → Prop
  | field (value : Value) : Reads machine receiver name (some value) (.ok value machine)
  | takes {ending : EStateM.Result Stop Machine Value} :
    machine.Takes receiver (machine.heap.instanceAt receiver).classId name ending →
    Reads machine receiver name none ending

/-- Taking a method is looking for it along the chain. -/
theorem Machine.Takes.of_method? (stands : machine.Stands .everything) (receiver : InstanceId)
    (first : ClassId) (name : Identifier) {ending : EStateM.Result Stop Machine Value}
    (takes : ∀ found, machine.heap.method? first name.name = some found →
      ending = .ok (.callable (.method machine.heap.functions.size))
        (machine.bindMethod found receiver))
    (misses : machine.heap.method? first name.name = none →
      ending = .error (.error (.located (.undefinedProperty name.name) name.line)) machine) :
    machine.Takes receiver first name ending := by
  have searches := (stands.heap.searches_iff first name.name _).mpr rfl
  cases found : machine.heap.method? first name.name with
  | some method =>
    rw [takes method found]
    exact .method (found ▸ searches)
  | none =>
    rw [misses found]
    exact .missing (found ▸ searches)

namespace Evaluator

/-- A field that is set is what is read. -/
theorem property_field {receiver : InstanceId} {value : Value} (name : Identifier)
    (isSet : machine.heap.field? receiver name.name = some value) :
    property (.object receiver) name machine = .ok value machine := by
  unfold Heap.field? at isSet
  unfold property
  dsimp only
  rw [Run.get_bind, isSet]
  rfl

/-- Without a field, a method is looked for. -/
theorem property_method {receiver : InstanceId} {method : FunctionId} {name : Identifier}
    (unset : machine.heap.field? receiver name.name = none)
    (found : machine.heap.method? (machine.heap.instanceAt receiver).classId name.name =
      some method) :
    property (.object receiver) name machine =
      .ok (.callable (.method machine.heap.functions.size))
        (machine.bindMethod method receiver) := by
  unfold Heap.field? at unset
  unfold property
  dsimp only
  rw [Run.get_bind, unset, found]
  rfl

theorem property_missing {receiver : InstanceId} {name : Identifier}
    (unset : machine.heap.field? receiver name.name = none)
    (missing : machine.heap.method? (machine.heap.instanceAt receiver).classId name.name = none) :
    property (.object receiver) name machine =
      .error (.error (.located (.undefinedProperty name.name) name.line)) machine := by
  unfold Heap.field? at unset
  unfold property
  dsimp only
  rw [Run.get_bind, unset, missing]
  rfl

end Evaluator

theorem Machine.Stands.reads (stands : machine.Stands .everything) (receiver : InstanceId)
    (name : Identifier) : machine.Reads receiver name (machine.heap.field? receiver name.name)
      (Evaluator.property (.object receiver) name machine) := by
  cases isSet : machine.heap.field? receiver name.name with
  | some value =>
    rw [Evaluator.property_field name isSet]
    exact .field value
  | none =>
    exact .takes (.of_method? stands receiver _ name
      (fun _ found => Evaluator.property_method isSet found)
      fun missing => Evaluator.property_missing isSet missing)

/-! ### Reading and setting -/

namespace Tracer

variable (tracer : Tracer)

/-- The ways in which a property is read, with what is written down meanwhile: the operand stops, or
its value is no instance, which is refused on the machine that the operand left, or the property of
the instance is read there. -/
inductive Gets (object : Expression) (name : Identifier) (machine : Machine) :
    EStateM.Result Stop Machine Value → List Moment → Prop
  | objectStops {stop : Stop} {after : Machine} :
    tracer.evaluator.evaluate object machine = .error stop after →
    Gets object name machine (.error stop after) (tracer.evaluate object machine)
  | notAnInstance {value : Value} {after : Machine} :
    tracer.evaluator.evaluate object machine = .ok value after →
    (∀ receiver, value ≠ .object receiver) →
    Gets object name machine (.error (.error (.located .notAnInstance name.line)) after)
      (tracer.evaluate object machine)
  | reads {receiver : InstanceId} {after : Machine} :
    tracer.evaluator.evaluate object machine = .ok (.object receiver) after →
    Gets object name machine (Evaluator.property (.object receiver) name after)
      (tracer.evaluate object machine)

/-- The ways in which a property is set, with what is written down meanwhile: one of the operands
stops, or the first one is no instance, which is refused on the machine that it left, or the field
of the instance is set on the machine that the second one left. -/
inductive Sets (object : Expression) (name : Identifier) (value : Expression)
    (machine : Machine) : EStateM.Result Stop Machine Value → List Moment → Prop
  | objectStops {stop : Stop} {after : Machine} :
    tracer.evaluator.evaluate object machine = .error stop after →
    Sets object name value machine (.error stop after) (tracer.evaluate object machine)
  | noFields {found : Value} {after : Machine} :
    tracer.evaluator.evaluate object machine = .ok found after →
    (∀ receiver, found ≠ .object receiver) →
    Sets object name value machine (.error (.error (.located .noFields name.line)) after)
      (tracer.evaluate object machine)
  | valueStops {receiver : InstanceId} {middle : Machine} {stop : Stop} {after : Machine} :
    tracer.evaluator.evaluate object machine = .ok (.object receiver) middle →
    tracer.evaluator.evaluate value middle = .error stop after →
    Sets object name value machine (.error stop after)
      (tracer.evaluate object machine ++ tracer.evaluate value middle)
  | stores {receiver : InstanceId} {middle : Machine} {new : Value} {after : Machine} :
    tracer.evaluator.evaluate object machine = .ok (.object receiver) middle →
    tracer.evaluator.evaluate value middle = .ok new after →
    Sets object name value machine (.ok new (after.setField receiver name.name new))
      (tracer.evaluate object machine ++ (tracer.evaluate value middle ++
        [.stored receiver name.name new (after.setField receiver name.name new)]))

variable {tracer}

theorem evaluateNode_gets (object : Expression) (name : Identifier) (machine : Machine) :
    tracer.Gets object name machine (tracer.evaluator.evaluateNode (.get object name) machine)
      (tracer.evaluateNode (.get object name) machine) := by
  unfold Evaluator.evaluateNode evaluateNode
  dsimp only
  cases ended : tracer.evaluator.evaluate object machine with
  | error stop after =>
    rw [bind_error ended]
    exact .objectStops ended
  | ok value after =>
    rw [bind_ok ended]
    cases value with
    | object receiver => exact .reads ended
    | nil | boolean _ | number _ | string _ | callable _ =>
      exact .notAnInstance ended fun _ same => nomatch same

theorem evaluateNode_sets (object : Expression) (name : Identifier) (value : Expression)
    (machine : Machine) :
    tracer.Sets object name value machine
      (tracer.evaluator.evaluateNode (.set object name value) machine)
      (tracer.evaluateNode (.set object name value) machine) := by
  unfold Evaluator.evaluateNode evaluateNode
  dsimp only
  cases ended : tracer.evaluator.evaluate object machine with
  | error stop after =>
    rw [bind_error ended, Run.thereafter, ended, List.append_nil]
    exact .objectStops ended
  | ok found middle =>
    rw [bind_ok ended, Run.thereafter, ended]
    dsimp only
    cases found with
    | object receiver =>
      dsimp only
      cases valued : tracer.evaluator.evaluate value middle with
      | error stop after =>
        rw [bind_error valued, Run.thereafter, valued, List.append_nil]
        exact .valueStops ended valued
      | ok new after =>
        rw [bind_ok valued, Run.thereafter, valued]
        exact .stores ended valued
    | nil | boolean _ | number _ | string _ | callable _ =>
      rw [List.append_nil]
      exact .noFields ended fun _ same => nomatch same

end Tracer

/-! ### The write step -/

/-- The ending of a run, with another change of the machine on top. -/
def endingWith (change : Machine → Machine) :
    EStateM.Result Stop Machine α → EStateM.Result Stop Machine α
  | .ok value after => .ok value (change after)
  | .error stop after => .error stop (change after)

/-- One field of one instance has been set, and nothing else has changed: no frame, function, class
or native function, no other field and no class of an instance, and nothing outside the heap. The
property is read with the new value, and every other property of every instance as before. -/
structure Machine.SetsField (before after : Machine) (receiver : InstanceId) (name : String)
    (value : Value) : Prop where
  aside : after = before.withHeap { before.heap with instances := after.heap.instances }
  size : after.heap.instances.size = before.heap.instances.size
  classId : ∀ id, (after.heap.instanceAt id).classId = (before.heap.instanceAt id).classId
  field : ∀ id word, after.heap.field? id word =
    if id = receiver ∧ word = name then some value else before.heap.field? id word
  seen : ∀ line, Evaluator.property (.object receiver) ⟨name, line⟩ after = .ok value after
  unseen : ∀ id (word : Identifier), ¬(id = receiver ∧ word.name = name) →
    Evaluator.property (.object id) word after =
      endingWith (·.setField receiver name value) (Evaluator.property (.object id) word before)

namespace Machine

variable {receiver : InstanceId}

theorem classId_setField (machine : Machine) (receiver : InstanceId) (name : String)
    (value : Value) (id : InstanceId) :
    ((machine.setField receiver name value).heap.instanceAt id).classId =
      (machine.heap.instanceAt id).classId := by
  show InstanceObject.classId (Array.getD (Array.modify _ _ _) id default) =
    InstanceObject.classId (Array.getD _ id default)
  rw [Array.getD_eq_getD_getElem?, Array.getD_eq_getD_getElem?, Array.getElem?_modify]
  cases machine.heap.instances[id]? with
  | none => split <;> rfl
  | some object => split <;> rfl

theorem method?_setField (machine : Machine) (receiver : InstanceId) (name : String)
    (value : Value) (id : ClassId) (word : String) :
    (machine.setField receiver name value).heap.method? id word = machine.heap.method? id word :=
  Heap.method?_congr (show (machine.setField receiver name value).heap.classes =
    machine.heap.classes from rfl) id word

/-- A property that is read elsewhere is the same one. -/
theorem property_setField_elsewhere {name : String} (value : Value) {id : InstanceId}
    {word : Identifier} (elsewhere : ¬(id = receiver ∧ word.name = name)) :
    Evaluator.property (.object id) word (machine.setField receiver name value) =
      endingWith (·.setField receiver name value)
        (Evaluator.property (.object id) word machine) := by
  have same : (machine.setField receiver name value).heap.field? id word.name =
      machine.heap.field? id word.name :=
    (Heap.field?_setField _ _ _ _ _ _).trans (if_neg fun whole => elsewhere ⟨whole.1, whole.2.1⟩)
  have sameMethod : (machine.setField receiver name value).heap.method?
      ((machine.setField receiver name value).heap.instanceAt id).classId word.name =
      machine.heap.method? (machine.heap.instanceAt id).classId word.name := by
    rw [classId_setField, method?_setField]
  cases isSet : machine.heap.field? id word.name with
  | some found =>
    rw [Evaluator.property_field word isSet, Evaluator.property_field word (same.trans isSet)]
    rfl
  | none =>
    cases found : machine.heap.method? (machine.heap.instanceAt id).classId word.name with
    | some method =>
      rw [Evaluator.property_method isSet found,
        Evaluator.property_method (same.trans isSet) (sameMethod.trans found)]
      rfl
    | none =>
      rw [Evaluator.property_missing isSet found,
        Evaluator.property_missing (same.trans isSet) (sameMethod.trans found)]
      rfl

theorem setsField (present : receiver < machine.heap.instances.size) (name : String)
    (value : Value) :
    machine.SetsField (machine.setField receiver name value) receiver name value where
  aside := rfl
  size := Array.size_modify ..
  classId := classId_setField machine receiver name value
  field id word := by
    refine (Heap.field?_setField _ _ _ _ _ _).trans ?_
    by_cases same : id = receiver ∧ word = name
    · rw [if_pos same, if_pos ⟨same.1, same.2, present⟩]
    · rw [if_neg same, if_neg fun whole => same ⟨whole.1, whole.2.1⟩]
  seen line := by
    refine Evaluator.property_field ⟨name, line⟩ ((Heap.field?_setField _ _ _ _ _ _).trans ?_)
    exact if_pos ⟨rfl, rfl, present⟩
  unseen _ _ elsewhere := property_setField_elsewhere value elsewhere

end Machine

/-! ### Methods of one class -/

/-- The declaration that counts among those of a class: the last one of the name. -/
def lastNamed (methods : List FunctionDeclaration) (word : String) : Option FunctionDeclaration :=
  methods.reverse.find? fun method => method.name.map Identifier.name == some word

/-- A declaration counts unless a later one does. -/
theorem lastNamed_cons (method : FunctionDeclaration) (others : List FunctionDeclaration)
    (word : String) : lastNamed (method :: others) word =
      (lastNamed others word).or (if method.name.map Identifier.name = some word then some method
        else none) := by
  unfold lastNamed
  rw [List.reverse_cons, List.find?_append, List.find?_cons, List.find?_nil]
  by_cases named : method.name.map Identifier.name = some word
  · rw [if_pos named, named, beq_self_eq_true]
  · rw [if_neg named, beq_false_of_ne named]

/-- What a table of methods declares under a name. -/
def Heap.declared (heap : Heap) (table : Bindings FunctionId) (word : String) :
    Option FunctionDeclaration :=
  (table.get? word).map fun id => (heap.function id).declaration

/-- All functions of the table are there. -/
def Heap.HasAll (heap : Heap) (table : Bindings FunctionId) : Prop :=
  ∀ word id, table.get? word = some id → id < heap.functions.size

/-- With one more function, which stands in the table under its name. -/
theorem Heap.declared_addFunction {heap : Heap} {table : Bindings FunctionId}
    (areThere : heap.HasAll table) (object : FunctionObject) (name word : String) :
    (heap.addFunction object).2.declared (table.write name heap.functions.size) word =
      if word = name then some object.declaration else heap.declared table word := by
  unfold declared
  rw [Bindings.get?_write]
  split
  · rw [Option.map_some, function_addFunction, if_pos rfl]
  · cases found : table.get? word with
    | none => rfl
    | some id =>
      rw [Option.map_some, Option.map_some, function_addFunction,
        if_neg (Nat.ne_of_lt (areThere word id found))]

theorem Heap.HasAll.addFunction {heap : Heap} {table : Bindings FunctionId}
    (areThere : heap.HasAll table) (object : FunctionObject) (name : String) :
    (heap.addFunction object).2.HasAll (table.write name heap.functions.size) := by
  intro word id found
  show id < (heap.functions.push object).size
  rw [Array.size_push]
  rw [Bindings.get?_write] at found
  split at found
  · cases found
    exact Nat.lt_succ_self _
  · exact Nat.lt_succ_of_lt (areThere word id found)

/-- The methods of a class are made in order, so that of two with one name the later stays: an
induction on the declarations, from a table that has the earlier ones. -/
theorem methodTable_last (frame : FrameId) (methods : List FunctionDeclaration)
    {table : Bindings FunctionId} (areThere : machine.heap.HasAll table) :
    Ensures (Evaluator.methodTable frame methods table) machine
      (fun last after => after.heap.HasAll last ∧ ∀ word, after.heap.declared last word =
        (lastNamed methods word).or (machine.heap.declared table word))
      fun _ _ => True := by
  induction methods generalizing machine table with
  | nil => exact ⟨areThere, fun _ => rfl⟩
  | cons method others inductionHypothesis =>
    unfold Evaluator.methodTable
    cases isNamed : method.name with
    | none =>
      refine (inductionHypothesis areThere).mono (fun last after holds => ?_) fun _ _ _ => trivial
      obtain ⟨present, same⟩ := holds
      refine ⟨present, fun word => ?_⟩
      have unnamed : none ≠ some word := (Option.some_ne_none word).symm
      rw [same, lastNamed_cons, isNamed, Option.map_none, if_neg unnamed, Option.or_none]
    | some name =>
      let object : FunctionObject := ⟨method, frame, method.isInitializer⟩
      have added : Ensures (Run.allocate fun heap => heap.addFunction object) machine
          (fun id after => id = machine.heap.functions.size ∧
            after = machine.withHeap (machine.heap.addFunction object).2) fun _ _ => True :=
        ⟨rfl, rfl⟩
      refine added.bind ?_
      rintro _ _ _ ⟨rfl, rfl⟩
      refine (inductionHypothesis (areThere.addFunction object name.name)).mono
        (fun last after holds => ?_) fun _ _ _ => trivial
      obtain ⟨present, same⟩ := holds
      refine ⟨present, fun word => ?_⟩
      rw [same, lastNamed_cons, isNamed, Option.or_assoc]
      refine congrArg _ ((Heap.declared_addFunction areThere object name.name word).trans ?_)
      by_cases isWord : word = name.name
      · have named : (some name).map Identifier.name = some word := congrArg some isWord.symm
        rw [if_pos isWord, if_pos named]
        rfl
      · have named : (some name).map Identifier.name ≠ some word :=
          fun same => isWord (Option.some.inj same).symm
        rw [if_neg isWord, if_neg named]
        rfl

/-- A declared class is the newest one, and under each name it has the last method declared. -/
theorem Evaluator.declareClass_last (evaluator : Evaluator) (name : Identifier)
    (superclass : Option Expression) (methods : List FunctionDeclaration) (machine : Machine) :
    Ensures (evaluator.declareClass name superclass methods) machine
      (fun _ after => ∃ id object, id + 1 = after.heap.classes.size ∧
        after.heap.classes[id]? = some object ∧ after.heap.HasAll object.methods ∧
        ∀ word, after.heap.declared object.methods word = lastNamed methods word)
      fun _ _ => True := by
  have anyhow {β : Type} (run : Run β) (machine : Machine) :
      Ensures run machine (fun _ _ => True) fun _ _ => True := by
    unfold Ensures
    split <;> trivial
  rw [Watch.declareClass_eq]
  refine (anyhow _ _).bind fun parent found _ _ => ?_
  have made : Ensures (makeMethods name.name parent methods) found
      (fun table after => after.heap.HasAll table ∧
        ∀ word, after.heap.declared table word = lastNamed methods word) fun _ _ => True := by
    refine (anyhow _ _).bind fun _ named _ _ => (anyhow _ _).bind fun frame entered _ _ => ?_
    have none : entered.heap.HasAll .empty := fun _ _ found => nomatch found
    refine (methodTable_last frame methods none).mono (fun table after ⟨present, same⟩ =>
      ⟨present, fun word => (same word).trans Option.or_none⟩) fun _ _ _ => trivial
  refine made.bind fun table after _ ⟨present, same⟩ => ?_
  have added : Ensures (Run.allocate fun heap => heap.addClass ⟨name.name, table, parent⟩) after
      (fun _ last => last = after.addClass ⟨name.name, table, parent⟩) fun _ _ => True := rfl
  refine added.bind ?_
  rintro id _ _ rfl
  refine (anyhow get _).bind fun _ _ read _ => ?_
  cases read
  unfold Run.ofExcept
  split
  · exact ⟨after.heap.classes.size, _, (Array.size_push _).symm, Array.getElem?_push_size, present,
      same⟩
  · trivial

/-- A declared class has in every later state, under each name, the last method declared. -/
theorem declared_later {depth : Nat} {name : Identifier} {superclass : Option Expression}
    {methods : List FunctionDeclaration} {flow : Flow}
    (ended : execute (depth + 1) (.declareClass name superclass methods) machine =
      .ok flow after) :
    ∃ id, id + 1 = after.heap.classes.size ∧ ∀ later, after.Chain .everything later → ∀ word,
      later.heap.declared (later.heap.classAt id).methods word = lastNamed methods word := by
  have ensured : Ensures (execute (depth + 1) (.declareClass name superclass methods)) machine
      (fun _ after => ∃ id object, id + 1 = after.heap.classes.size ∧
        after.heap.classes[id]? = some object ∧ after.heap.HasAll object.methods ∧
        ∀ word, after.heap.declared object.methods word = lastNamed methods word)
      fun _ _ => True :=
    ((evaluator depth).declareClass_last name superclass methods machine).bind
      fun _ _ _ holds => .pure holds
  obtain ⟨id, object, isLast, isClass, present, same⟩ := ensured.ok ended
  refine ⟨id, isLast, fun later chain word => ?_⟩
  have ext := chain.extends
  rw [Heap.classAt_of_some (ext.classes isClass), ← same word]
  unfold Heap.declared
  cases found : object.methods.get? word with
  | none => rfl
  | some method =>
    rw [Option.map_some, Option.map_some, ext.function (present word method found)]

/-! ### Overridden methods -/

/-- Behind `super`, a method is taken from the class on that was the superclass of the class around
when that was declared, whatever this class and those below it call by the same name. -/
theorem Happens.super_takes {capacity : Option Nat} {clock : Clock} {environment : Environment}
    {reference : Reference} {keyword method : Identifier}
    (happened : Happens (.start capacity clock)
      (.evaluation environment (.super reference keyword method) machine)) :
    ∃ distance receiver declaring parent,
      Receives (.start capacity clock) environment machine distance receiver declaring
        (some parent) ∧
      (machine.heap.classAt declaring).superclass = some parent ∧
      ∀ depth, machine.Takes receiver parent method
        (evaluate (depth + 1) (.super reference keyword method) machine) := by
  have started := Session.start_sound (.start capacity clock) capacity clock
  have stands : machine.Stands .everything :=
    (happened.reached.1.mono fun _ _ => trivial).stands
  obtain ⟨_, ready, placed⟩ := Session.bears started happened
  obtain ⟨distance, around, parent, object, nearest, known, isReceiver, isSuperclass, isSuper,
    isThis, isParent, _, _, _⟩ := ready.super placed
  obtain ⟨receiver, declaring, _, receives, isObject⟩ := happened.receives started nearest
  obtain rfl : object = receiver := by
    cases isThis.symm.trans (isObject keyword.line)
    rfl
  have sameParent := (receives.declares.parent? started).symm.trans
    (Environment.parent?_drop isSuperclass)
  cases receives.isReceiver.symm.trans isReceiver
  refine ⟨distance, object, _, parent, sameParent ▸ receives, isParent, fun depth => ?_⟩
  have looked : evaluate (depth + 1) (.super reference keyword method) machine =
      Evaluator.superMethod reference keyword method machine := rfl
  rw [looked, Watch.superMethod_eq method known isSuper isThis]
  refine .of_method? stands object parent method (fun found isMethod => ?_) fun missing => ?_
  · rw [isMethod]
    rfl
  · rw [missing]
    rfl

/-! ### Histories -/

/-- The field of an instance holds what was last stored in it, at each moment and in the end. -/
theorem Machine.History.field (history : Machine.History moments machine)
    (receiver : InstanceId) (name : String) :
    machine.heap.field? receiver name = lastStored receiver name moments := by
  obtain ⟨capacity, clock, goes⟩ := history.goes
  exact goes.field receiver name

/-- Whatever has been asked of a session, its machine has a history, and in every history a property
of an instance reads, in the end and at each moment, as the value that was last stored in its field,
if one was; otherwise as the method of the first class that has one, from the class of the instance
on along the superclasses, bound to the instance; otherwise it is undefined, and nothing changes.
What is stored at a moment changes this property of this instance only.

On whatever machine, reading and setting a property evaluate their operands and are refused, where
they are, on the machine that these left. A class has under each name the last method declared in
it, in every later state; and in its methods, `super` takes methods from its superclass on, whatever
it declares itself. -/
theorem property_lookup :
    (∀ capacity clock requests, ∃ moments,
      Machine.History moments ((Session.start capacity clock).serveAll requests).machine) ∧
    (∀ moments machine, Machine.History moments machine →
      (∀ receiver name, machine.Reads receiver name (lastStored receiver name.name moments)
        (Evaluator.property (.object receiver) name machine)) ∧
      ∀ early moment late, moments = early ++ moment :: late →
        (∀ receiver name,
          moment.machine.Reads receiver name (lastStored receiver name.name (early ++ [moment]))
            (Evaluator.property (.object receiver) name moment.machine)) ∧
        ∀ receiver name value after, moment = .stored receiver name value after →
          ∃ before : Machine, after = before.setField receiver name value ∧
            before.SetsField after receiver name value) ∧
    (∀ machine : Machine, machine.Stands .everything → ∀ method receiver,
      let bound := machine.bindMethod method receiver
      bound.heap.BoundTo machine.heap.functions.size receiver ∧
        (bound.heap.function machine.heap.functions.size).declaration =
          (machine.heap.function method).declaration) ∧
    (∀ depth object name machine,
      (tracer depth).evaluator = evaluator depth ∧
      (tracer depth).Gets object name machine (evaluate (depth + 1) (.get object name) machine)
        ((tracer depth).evaluateNode (.get object name) machine) ∧
      ∀ value, (tracer depth).Sets object name value machine
        (evaluate (depth + 1) (.set object name value) machine)
        ((tracer depth).evaluateNode (.set object name value) machine)) ∧
    (∀ depth name superclass methods (machine : Machine) flow after,
      execute (depth + 1) (.declareClass name superclass methods) machine = .ok flow after →
      ∃ id, id + 1 = after.heap.classes.size ∧ ∀ later, after.Chain .everything later → ∀ word,
        later.heap.declared (later.heap.classAt id).methods word = lastNamed methods word) ∧
    ∀ capacity clock environment machine reference keyword method,
      Happens (.start capacity clock)
        (.evaluation environment (.super reference keyword method) machine) →
      ∃ distance receiver declaring parent,
        Receives (.start capacity clock) environment machine distance receiver declaring
          (some parent) ∧
        (machine.heap.classAt declaring).superclass = some parent ∧
        ∀ depth, machine.Takes receiver parent method
          (evaluate (depth + 1) (.super reference keyword method) machine) := by
  refine ⟨Session.serveAll_history, fun moments machine history => ⟨fun receiver name => ?_,
      fun early moment late split => ?_⟩,
    fun machine stands method receiver => ⟨Heap.bindMethod_boundTo stands.heap method receiver, ?_⟩,
    fun depth object name machine => ⟨tracer_evaluator depth, ?_, fun value => ?_⟩,
    fun _ _ _ _ _ _ _ ended => declared_later ended,
    fun _ _ _ _ _ _ _ happened => happened.super_takes⟩
  · rw [← history.field receiver name.name]
    exact history.stands.reads receiver name
  · obtain ⟨capacity, clock, goes⟩ := history.goes
    subst split
    obtain ⟨middle, _, follows, upThere, stands, _⟩ := goes.upTo
    refine ⟨fun receiver name => ?_, ?_⟩
    · have held := upThere.field receiver name.name
      have reads := stands.reads receiver name
      rw [held] at reads
      exact reads
    · rintro receiver name value after rfl
      obtain ⟨present, rfl⟩ := follows
      exact ⟨middle, rfl, Machine.setsField present name value⟩
  · have isBound := Heap.function_of_some (Heap.bindMethod_function? machine.heap method receiver)
    exact (congrArg FunctionObject.declaration isBound :)
  · have gets := (tracer depth).evaluateNode_gets object name machine
    rw [tracer_evaluator] at gets
    exact gets
  · have sets := (tracer depth).evaluateNode_sets object name value machine
    rw [tracer_evaluator] at sets
    exact sets

/-- A method that overrides another one asks for it. -/
theorem happens_super_overriding : ∃ environment machine, Happens (.start none ⟨0⟩)
    (.evaluation environment (.super 1 ⟨"super", 1⟩ ⟨"m", 1⟩) machine) := by
  let early : FunctionDeclaration := ⟨some ⟨"m", 1⟩, [], []⟩
  let late : FunctionDeclaration := ⟨some ⟨"m", 1⟩, [], [.giveBack ⟨"return", 1⟩ none]⟩
  let own : FunctionDeclaration :=
    ⟨some ⟨"m", 1⟩, [], [.expression (.super 1 ⟨"super", 1⟩ ⟨"m", 1⟩)]⟩
  have read : ((Session.start none ⟨0⟩).after []).readProgram
      "class A { m() {} m() { return; } } class B < A { m() { super.m; } } B().m();" =
      (.ok [.declareClass ⟨"A", 1⟩ none [early, late],
        .declareClass ⟨"B", 1⟩ (some (.read 0 ⟨"A", 1⟩)) [own],
        .expression (.call (.get (.call (.read 2 ⟨"B", 1⟩) 1 []) ⟨"m", 1⟩) 1 [])], _) := rfl
  let natives : Array NativeFunction := #[⟨"clock", 0, .clock⟩]
  let known : Scope.Distances := Std.TreeMap.empty.insert 1 2
  -- the machine when there is the first class
  let globals : Bindings Value :=
    ⟨[("clock", .callable (.native 0)), ("A", .callable (.constructor 0))]⟩
  let classA : ClassObject := ⟨"A", ⟨[("m", 1)]⟩, none⟩
  let heap : Heap :=
    ⟨⟨#[⟨globals, none⟩]⟩, #[⟨early, 0, false⟩, ⟨late, 0, false⟩], #[classA], #[], natives⟩
  have second : Happens _ (.program _ ⟨heap, 0, 0, known, .empty none, ⟨0⟩⟩) :=
    .programRest (.program read rfl) ⟨1, rfl⟩
  -- the machine when there are both
  let frames : Frames := ⟨#[⟨globals.write "B" (.callable (.constructor 1)), none⟩,
    ⟨⟨[("super", .callable (.constructor 0))]⟩, some 0⟩]⟩
  let classB : ClassObject := ⟨"B", ⟨[("m", 2)]⟩, some 0⟩
  let both : Heap := ⟨frames, #[⟨early, 0, false⟩, ⟨late, 0, false⟩, ⟨own, 1, false⟩],
    #[classA, classB], #[], natives⟩
  have third : Happens _ (.program _ ⟨both, 0, 0, known, .empty none, ⟨0⟩⟩) :=
    .programRest second ⟨2, rfl⟩
  have names : NamesParent (some (.read 0 ⟨"A", 1⟩)) ⟨heap, 0, 0, known, .empty none, ⟨0⟩⟩ (some 0)
      _ := .some ⟨1, rfl⟩
  have method : Happens _ (.method _ 1 2 _) := @Happens.method _ _ _ _ _ _ (some 0) _
    ⟨[("m", 2)]⟩ _ "m" _ (.programFirst second) names rfl rfl
  have called := Happens.statementOperand (.programFirst third) .expression
  have binding : Happens _ (.binding 1 2 0 _) :=
    .get (.operand called .callee) (⟨4, rfl⟩ : Evaluates _ _ (.object 0) _) rfl
      ⟨rfl, .refl _, rfl⟩
  -- since the method was made, the class was bound and the instance was added
  have closing := Happens.bound binding method
    ⟨((Heap.Precedes.refl _).define 0 "B" (.callable (.constructor 1))
      (.inr (.inl rfl))).addInstance 1, fun _ => .refl _ _⟩
  have invoked := Happens.call called (⟨5, rfl⟩ : Evaluates _ _ (.callable (.method 3)) _)
    (.nil _) (.inr rfl) rfl (by decide)
  have entered := Happens.body invoked closing ⟨.refl _, fun _ => .refl _ _⟩
  have happened := Happens.statementOperand (.first entered) .expression
  exact ⟨_, _, happened⟩

/-- A field is set and read that has the name of a method declared twice; the later declaration is
the one of the class, and a class that overrides it reaches it through `super`. -/
theorem property_lookup_overridden :
    ∃ (moments early late : List Moment) (machine before after : Machine),
      (Machine.History moments machine ∧ moments = early ++ .stored 0 "m" .nil after :: late ∧
        before.SetsField after 0 "m" .nil ∧
        after.Reads 0 ⟨"m", 1⟩ (some .nil) (Evaluator.property (.object 0) ⟨"m", 1⟩ after)) ∧
      (machine.Stands .everything ∧ (machine.bindMethod 1 0).heap.BoundTo 2 0) ∧
      (∃ id body, id + 1 = machine.heap.classes.size ∧
        machine.heap.declared (machine.heap.classAt id).methods "m" =
          some ⟨some ⟨"m", 1⟩, [], body⟩ ∧ body ≠ []) ∧
      ∃ (environment : Environment) (inner : Machine) (receiver : InstanceId) (parent : ClassId),
        Happens (.start none ⟨0⟩)
          (.evaluation environment (.super 1 ⟨"super", 1⟩ ⟨"m", 1⟩) inner) ∧
        inner.Takes receiver parent ⟨"m", 1⟩
          (evaluate 1 (.super 1 ⟨"super", 1⟩ ⟨"m", 1⟩) inner) := by
  let early : FunctionDeclaration := ⟨some ⟨"m", 1⟩, [], []⟩
  let late : FunctionDeclaration := ⟨some ⟨"m", 1⟩, [], [.giveBack ⟨"return", 1⟩ none]⟩
  let declareA : Statement := .declareClass ⟨"A", 1⟩ none [early, late]
  let expression : Expression := .set (.call (.read 0 ⟨"A", 1⟩) 1 []) ⟨"m", 1⟩ (.literal .nil)
  let globals : Bindings Value :=
    ⟨[("clock", .callable (.native 0)), ("A", .callable (.constructor 0))]⟩
  let heap : Heap := ⟨⟨#[⟨globals, none⟩]⟩, #[⟨early, 0, false⟩, ⟨late, 0, false⟩],
    #[⟨"A", ⟨[("m", 1)]⟩, none⟩], #[], #[⟨"clock", 0, .clock⟩]⟩
  let middle : Machine := ⟨heap, 0, 0, .empty, .empty none, ⟨0⟩⟩
  let machine := (Lox.evaluate 4 expression).left middle
  let moments := (tracer 4).execute declareA (.start none ⟨0⟩) ++
    (tracer 4).evaluate expression middle
  have declared : Machine.History _ middle := (Machine.History.start none ⟨0⟩).execute 4 declareA
  have history : Machine.History moments machine := declared.evaluate 4 expression
  obtain ⟨_, looks, binds, _, declares, overrides⟩ := property_lookup
  obtain ⟨_, during⟩ := looks moments machine history
  have rest : moments.drop 11 = .stored 0 "m" .nil _ :: _ := rfl
  have split : moments = moments.take 11 ++ .stored 0 "m" .nil _ :: _ :=
    (List.take_append_drop 11 moments).symm.trans (congrArg _ rest)
  obtain ⟨reads, changes⟩ := during _ _ _ split
  obtain ⟨before, _, sets⟩ := changes _ _ _ _ rfl
  have isRead := reads 0 ⟨"m", 1⟩
  rw [lastStored_stored] at isRead
  have executed : execute 4 declareA (.start none ⟨0⟩) = .ok .completed middle := rfl
  obtain ⟨id, isLast, lasting⟩ := declares 3 _ _ _ _ _ _ executed
  have chain : middle.Chain .everything machine := declared.stands.evaluate_chain 4 expression
  have twoFunctions : machine.heap.functions.size = 2 := rfl
  have binding := (binds machine history.stands 1 0).1
  rw [twoFunctions] at binding
  have oneClass : machine.heap.classes.size = middle.heap.classes.size := rfl
  have counts : lastNamed [early, late] "m" = some late := rfl
  refine ⟨moments, _, _, machine, before, _, ⟨history, split, sets, isRead⟩,
    ⟨history.stands, binding⟩,
    ⟨id, _, isLast.trans oneClass.symm, (lasting machine chain "m").trans counts, nofun⟩, ?_⟩
  obtain ⟨environment, inner, happened⟩ := happens_super_overriding
  obtain ⟨_, receiver, _, parent, _, _, takes⟩ := overrides none ⟨0⟩ _ _ _ _ _ happened
  exact ⟨environment, inner, receiver, parent, happened, takes 0⟩

end Lox
