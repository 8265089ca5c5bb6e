/-
Every tree of a dialect leads a standing machine on by changes, and what it results in refers to
something that is there. Occurrences of names, functions, calls and class declarations come first,
each with what it adds to the heap; the trees follow by induction on the depth.
-/

import Lox.Proofs.Evaluation.Operators
import Lox.Proofs.Run.Chains
import Lox.Proofs.Run.Classes

namespace Lox

variable {dialect : Dialect} {machine : Machine}

/-! ### What results refer to -/

theorem Value.IsPlain.stands {value : Value} (isPlain : value.IsPlain) (heap : Heap) :
    value.Stands dialect heap := by
  cases value with
  | callable _ | object _ => exact isPlain.elim
  | _ => trivial

theorem OnEveryLine.stands {answers : Nat → Except RuntimeError Value}
    (every : OnEveryLine answers) {line : Nat} {value : Value} (answer : answers line = .ok value)
    (heap : Heap) : value.Stands dialect heap := by
  cases every with
  | ok isPlain =>
    cases answer
    exact isPlain.stands heap
  | error _ => exact nomatch answer

/-- A flow that gives back a value gives back one that refers to something. -/
def Flow.Stands (dialect : Dialect) (heap : Heap) : Flow → Prop
  | .returned value => value.Stands dialect heap
  | _ => True

/-- A method that is found in a class is there. -/
theorem Heap.Stands.isMethod {heap : Heap} (stands : heap.Stands dialect) {id : ClassId}
    {name : String} {method : FunctionId} (found : heap.method? id name = some method) :
    heap.IsMethod method := by
  obtain ⟨declaring, finds⟩ := Heap.finds_of_method? found
  have own := finds.own
  cases isClass : heap.classes[declaring]? with
  | none =>
    rw [Heap.classAt_of_none isClass] at own
    exact nomatch own
  | some object =>
    rw [Heap.classAt_of_some isClass] at own
    exact stands.method isClass own

/-- What a field of an instance holds is there. -/
theorem Heap.Stands.field_instanceAt {heap : Heap} (stands : heap.Stands dialect) {id : InstanceId}
    {name : String} {value : Value} (isSet : (heap.instanceAt id).fields.get? name = some value) :
    value.Stands dialect heap := by
  cases isInstance : heap.instances[id]? with
  | none =>
    rw [Heap.instanceAt_of_none isInstance] at isSet
    exact nomatch isSet
  | some object =>
    rw [Heap.instanceAt_of_some isInstance] at isSet
    exact stands.field isInstance isSet

/-- The class of an instance that is there is there. -/
theorem Heap.Stands.classOf_instanceAt {heap : Heap} (stands : heap.Stands dialect)
    {id : InstanceId} (isThere : id < heap.instances.size) :
    (heap.instanceAt id).classId < heap.classes.size := by
  have found := Array.getElem?_eq_getElem isThere
  rw [Heap.instanceAt_of_some found]
  exact stands.classOf found

/-- The superclass of a class that is there is there. -/
theorem Heap.Stands.superclass_classAt {heap : Heap} (stands : heap.Stands dialect)
    {id parent : ClassId} (isThere : id < heap.classes.size)
    (isParent : (heap.classAt id).superclass = some parent) : parent < heap.classes.size := by
  have found := Array.getElem?_eq_getElem isThere
  rw [Heap.classAt_of_some found] at isParent
  exact Nat.lt_trans (stands.superclass found isParent) isThere

/-- What the host can reach from arguments that are there is there. -/
theorem Heap.Stands.reaches {heap : Heap} (stands : heap.Stands dialect) {arguments : List Value}
    (areThere : ∀ value ∈ arguments, value.Stands dialect heap) {value : Value}
    (reaches : heap.view.Reaches arguments value) : value.Stands dialect heap := by
  induction reaches with
  | plain isPlain => exact isPlain.stands heap
  | argument member => exact areThere _ member
  | field _ isSet _ => exact stands.field_instanceAt isSet
  | classOf _ isThere => exact stands.classOf_instanceAt isThere
  | superclass _ isParent isThere => exact stands.superclass_classAt isThere isParent

/-- A name that is found in some frame is bound to something that is there. -/
theorem Heap.Stands.found {heap : Heap} (stands : heap.Stands dialect) {name : String}
    {value : Value} (found : ∃ holder, heap.frames.read? holder name = some value) :
    value.Stands dialect heap := by
  obtain ⟨_, isBound⟩ := found
  exact stands.bound isBound

/-- A frame that is some links out from one that is there is there. -/
theorem Heap.Stands.ancestor_le {heap : Heap} (stands : heap.Stands dialect) {distance : Nat}
    {id outer : FrameId} (isAncestor : heap.frames.ancestor? id distance = some outer) :
    outer + distance ≤ id := by
  induction distance generalizing id with
  | zero =>
    cases isAncestor
    exact Nat.le_refl _
  | succ distance inductionHypothesis =>
    unfold Frames.ancestor? at isAncestor
    split at isAncestor
    · rename_i enclosed
      exact Nat.lt_of_le_of_lt (inductionHypothesis isAncestor) (stands.enclosing enclosed)
    · exact nomatch isAncestor

/-- A frame that is found to bind a name is there. -/
theorem Frames.holder_lt {frames : Frames} {id holder : FrameId} {name : String} {line : Nat}
    (found : frames.holder id name line = .ok holder) : holder < frames.size := by
  unfold Frames.holder at found
  split at found
  · rename_i nearest
    cases found
    exact lt_size_of_read? (search?_read? _ _ nearest)
  · exact nomatch found

namespace Evaluator

open Run.Proceeds

/-! ### Variables -/

theorem lookUp_proceeds (reference : Reference) (name : Identifier) :
    (lookUp reference name).Proceeds dialect machine fun value heap =>
      value.Stands dialect heap := by
  refine standing fun stands => get_bind ?_
  dsimp only
  split
  · exact ofExcept fun _ found => stands.heap.found (Frames.getAt_read? found)
  · exact ofExcept fun _ found => stands.heap.found (Frames.get_read? found)

theorem holder_proceeds (reference : Reference) (name : Identifier) :
    (holder reference name).Proceeds dialect machine fun frame heap =>
      frame < heap.frames.size := by
  refine standing fun stands => get_bind ?_
  dsimp only
  split
  · rename_i distance _
    refine ofExcept fun frame found => ?_
    unfold Frames.holderAt at found
    split at found
    · rename_i isAncestor
      cases found
      have further := Nat.le_of_add_right_le (stands.heap.ancestor_le isAncestor)
      exact Nat.lt_of_le_of_lt further stands.current
    · exact nomatch found
  · exact ofExcept fun _ found => Frames.holder_lt found

theorem assign_proceeds (reference : Reference) {name : Identifier} {value : Value}
    (isName : dialect.has (.binding name.name)) (isThere : value.Stands dialect machine.heap) :
    (assign reference name value).Proceeds dialect machine fun _ _ => True := by
  refine (holder_proceeds reference name).bind fun frame after chain present => ?_
  exact changeHeap fun _ =>
    .single (.define present (isThere.later chain.extends) (.inl isName))

/-! ### Functions and methods -/

theorem close_proceeds {declaration : FunctionDeclaration}
    (isTree : dialect.has (.function declaration)) :
    (close declaration).Proceeds dialect machine fun id heap =>
      (Value.callable (.function id)).Stands dialect heap := by
  refine get_bind (allocate (fun stands => .single (.addFunction stands.current isTree)) ?_)
  exact ⟨_, Array.getElem?_push_size, rfl⟩

/-- A method that is bound is bound to its receiver. -/
theorem bindMethod_proceeds {method : FunctionId} {receiver : InstanceId}
    (isMethod : machine.heap.IsMethod method)
    (isThere : receiver < machine.heap.instances.size) :
    (Run.allocate fun heap => heap.bindMethod method receiver).Proceeds dialect machine
      fun id heap => (Value.callable (.method id)).Stands dialect heap ∧ heap.BoundTo id receiver :=
  standing fun stands =>
    allocate (fun stands => Heap.bindMethod_chain stands.heap isMethod isThere)
      ⟨Heap.bindMethod_stands stands.heap isMethod isThere,
        Heap.bindMethod_boundTo stands.heap method receiver⟩

theorem bound_proceeds {method : FunctionId} {receiver : InstanceId}
    (isMethod : machine.heap.IsMethod method)
    (isThere : receiver < machine.heap.instances.size) :
    (bound method receiver).Proceeds dialect machine fun value heap =>
      value.Stands dialect heap ∧ ∃ id, value = .callable (.method id) ∧
        heap.BoundTo id receiver :=
  (bindMethod_proceeds isMethod isThere).bind fun id _ _ ⟨stands, isBound⟩ =>
    pure ⟨stands, id, rfl, isBound⟩

/-- A property of an instance is what a field holds, or a method bound to the instance. -/
theorem instanceProperty_proceeds {receiver : InstanceId} (name : Identifier)
    (isThere : receiver < machine.heap.instances.size) :
    (property (.object receiver) name).Proceeds dialect machine fun value heap =>
      value.Stands dialect heap ∧
        ((machine.heap.instanceAt receiver).fields.get? name.name = some value ∨
          ∃ id, value = .callable (.method id) ∧ heap.BoundTo id receiver) := by
  refine standing fun stands => get_bind ?_
  dsimp only
  split
  · rename_i isSet
    exact pure ⟨stands.heap.field_instanceAt isSet, .inl isSet⟩
  · split
    · rename_i found
      exact (bound_proceeds (stands.heap.isMethod found) isThere).mono
        fun _ _ _ holds => ⟨holds.1, .inr holds.2⟩
    · exact throw

theorem property_proceeds {object : Value} (name : Identifier)
    (isThere : object.Stands dialect machine.heap) :
    (property object name).Proceeds dialect machine fun value heap =>
      value.Stands dialect heap := by
  cases object with
  | object receiver =>
    exact (instanceProperty_proceeds name isThere).mono fun _ _ _ holds => holds.1
  | _ => exact throw

/-- A method that is taken from the superclass is bound to the receiver of the method around. -/
theorem superMethod_proceeds (reference : Reference) (keyword method : Identifier) :
    (superMethod reference keyword method).Proceeds dialect machine fun value heap =>
      value.Stands dialect heap ∧ ∃ distance receiver id,
        machine.distances[reference]? = some distance ∧
        machine.heap.frames.getAt machine.current (distance - 1) "this" keyword.line =
          .ok (.object receiver) ∧
        value = .callable (.method id) ∧ heap.BoundTo id receiver := by
  refine standing fun stands => get_bind ?_
  dsimp only
  split
  · exact throw
  · rename_i distance known
    refine ofExcept_bind fun superclass isSuper => ofExcept_bind fun value isThis => ?_
    have isThere := stands.heap.found (Frames.getAt_read? isThis)
    split
    · rename_i receiver
      split
      · rename_i found
        refine (bound_proceeds (stands.heap.isMethod found) isThere).mono ?_
        rintro _ _ _ ⟨isBound, id, isMethod, boundTo⟩
        exact ⟨isBound, distance, receiver, id, known, isThis, isMethod, boundTo⟩
      · exact throw
    · exact throw

theorem storeAll_proceeds {stores : List FieldStore}
    (areThere : ∀ store ∈ stores, store.value.Stands dialect machine.heap) :
    (storeAll stores).Proceeds dialect machine fun _ _ => True := by
  induction stores generalizing machine with
  | nil => exact pure trivial
  | cons store others inductionHypothesis =>
    have isThere := areThere store List.mem_cons_self
    refine (changeHeap fun _ => .single (.setField isThere)).bind fun _ after chain _ => ?_
    exact inductionHypothesis fun other member =>
      (areThere other (List.mem_cons_of_mem store member)).later chain.extends

/-- What a host function does with arguments that are there. -/
theorem carryOut_proceeds {effect : HostEffect} {arguments : List Value} (line : Nat)
    (areThere : ∀ value ∈ arguments, value.Stands dialect machine.heap)
    (handsOn : effect.HandsOn machine.heap.view arguments) :
    (carryOut effect line).Proceeds dialect machine fun value heap =>
      value.Stands dialect heap := by
  refine standing fun stands => ?_
  refine (storeAll_proceeds fun store member =>
    stands.heap.reaches areThere (handsOn.values store member)).bind fun _ after chain _ => ?_
  split
  · rename_i isAnswer
    exact pure ((stands.heap.reaches areThere (handsOn.answer isAnswer)).later chain.extends)
  · exact throw

theorem callNative_proceeds (id : NativeId) {arguments : List Value} (line : Nat)
    (areThere : ∀ value ∈ arguments, value.Stands dialect machine.heap) :
    (callNative id arguments line).Proceeds dialect machine fun value heap =>
      value.Stands dialect heap := by
  refine get_bind ?_
  split
  · exact step _ rfl (fun _ => .aside rfl rfl) trivial
  · exact carryOut_proceeds line areThere (HostFunction.handsOn _ _ _)

/-! ### Class declarations -/

theorem methodFrame_proceeds {parent : Option ClassId}
    (isThere : ∀ id ∈ parent, id < machine.heap.classes.size) :
    (methodFrame parent).Proceeds dialect machine fun frame heap =>
      frame < heap.frames.size := by
  cases parent with
  | none => exact standing fun stands => get_bind (pure stands.current)
  | some parent =>
    have superclass : (Value.callable (.constructor parent)).Stands dialect machine.heap :=
      isThere parent rfl
    let opened := machine.heap.openFrame machine.current
      [("super", .callable (.constructor parent))]
    refine step (machine.withHeap opened) rfl (fun stands => .ofHeap ?_) ?_
    · exact Heap.openFrame_word_chain _ "super" stands.current superclass
    · exact Nat.lt_of_lt_of_eq (Nat.lt_succ_self _) (Heap.openFrame_size _ _ _).symm

theorem methodTable_proceeds {frame : FrameId} (methods : List FunctionDeclaration)
    {table : Bindings FunctionId} (present : frame < machine.heap.frames.size)
    (areTrees : ∀ method ∈ methods, dialect.has (.function method))
    (areThere : ∀ name method, table.get? name = some method →
      machine.heap.IsMethod method) :
    (methodTable frame methods table).Proceeds dialect machine fun table heap =>
      ∀ name method, table.get? name = some method → heap.IsMethod method := by
  induction methods generalizing machine table with
  | nil => exact pure areThere
  | cons method others inductionHypothesis =>
    have others (other : FunctionDeclaration) (member : other ∈ others) :=
      areTrees other (List.mem_cons_of_mem method member)
    unfold methodTable
    split
    · rename_i name isNamed
      have added : (Run.allocate fun heap =>
          heap.addFunction ⟨method, frame, method.isInitializer⟩).Proceeds dialect machine
          fun id heap => heap.IsMethod id :=
        allocate (fun _ => .single (.addFunction present (areTrees method List.mem_cons_self)))
          ⟨_, Array.getElem?_push_size, rfl⟩
      refine added.bind fun id after chain isThere => inductionHypothesis
        (Nat.lt_of_lt_of_le present chain.extends.frames) others fun word found own => ?_
      rw [Bindings.get?_write] at own
      split at own
      · cases own
        exact isThere
      · exact (areThere word found own).later chain.extends
    · exact inductionHypothesis present others areThere

/-- The methods of a class are made, and what they are closed over is there. -/
theorem makeMethods_proceeds {name : Identifier} {superclass : Option Expression}
    {methods : List FunctionDeclaration} {parent : Option ClassId}
    (isTree : dialect.has (.statement (.declareClass name superclass methods)))
    (isThere : ∀ id ∈ parent, id < machine.heap.classes.size) :
    (makeMethods name.name parent methods).Proceeds dialect machine fun table heap =>
      ∀ name method, table.get? name = some method → heap.IsMethod method := by
  refine (define (dialect.closed isTree (.head _)) ?_).bind fun _ named toName _ => ?_
  · trivial
  have isThere (id : ClassId) (member : id ∈ parent) : id < named.heap.classes.size :=
    Nat.lt_of_lt_of_le (isThere id member) toName.extends.classes_size
  refine (methodFrame_proceeds isThere).bind fun frame after _ present => ?_
  have noMethods (word : String) (method : FunctionId)
      (own : (Bindings.empty : Bindings FunctionId).get? word = some method) :
      after.heap.IsMethod method := nomatch own
  exact methodTable_proceeds methods present (dialect.method isTree) noMethods

/-! ### Loops -/

/-- A pass that leads a standing machine on does so however often it is made. -/
theorem repeatPass_proceeds {pass : Run (Option Flow)}
    (proceeds : ∀ machine, pass.Proceeds dialect machine fun ended heap =>
      ∀ flow ∈ ended, flow.Stands dialect heap) (passes : Nat) :
    (repeatPass pass passes).Proceeds dialect machine fun flow heap =>
      flow.Stands dialect heap := by
  induction passes generalizing machine with
  | zero => exact throw
  | succ passes inductionHypothesis =>
    refine (proceeds machine).bind fun ended after _ isThere => ?_
    cases ended with
    | some flow => exact pure (isThere flow rfl)
    | none => exact inductionHypothesis

end Evaluator

/-! ### Nodes -/

/-- The trees of the dialect inside a node lead a standing machine on, and their values and flows
refer to something that is there. -/
structure Evaluator.Proceeds (dialect : Dialect) (evaluator : Evaluator) : Prop where
  evaluate : ∀ {expression}, dialect.has (.expression expression) → ∀ {machine},
    (evaluator.evaluate expression).Proceeds dialect machine fun value heap =>
      value.Stands dialect heap
  execute : ∀ {statement}, dialect.has (.statement statement) → ∀ {machine},
    (evaluator.execute statement).Proceeds dialect machine fun flow heap =>
      flow.Stands dialect heap

namespace Evaluator.Proceeds

open Run.Proceeds

variable {evaluator : Evaluator}

theorem executeAll (proceeds : evaluator.Proceeds dialect) (statements : List Statement)
    (areTrees : ∀ statement ∈ statements, dialect.has (.statement statement)) :
    (evaluator.executeAll statements).Proceeds dialect machine fun flow heap =>
      flow.Stands dialect heap := by
  induction statements generalizing machine with
  | nil => exact pure trivial
  | cons statement others inductionHypothesis =>
    refine (proceeds.execute (areTrees statement List.mem_cons_self)).bind
      fun flow after _ isThere => ?_
    cases flow with
    | completed =>
      exact inductionHypothesis fun other member =>
        areTrees other (List.mem_cons_of_mem statement member)
    | returned value => exact pure isThere
    | broke => exact pure trivial
    | continued => exact pure trivial

theorem evaluateAll (proceeds : evaluator.Proceeds dialect) (expressions : List Expression)
    (areTrees : ∀ expression ∈ expressions, dialect.has (.expression expression)) :
    (evaluator.evaluateAll expressions).Proceeds dialect machine fun values heap =>
      ∀ value ∈ values, value.Stands dialect heap := by
  induction expressions generalizing machine with
  | nil => exact pure fun _ member => absurd member List.not_mem_nil
  | cons expression others inductionHypothesis =>
    refine (proceeds.evaluate (areTrees expression List.mem_cons_self)).bind
      fun value middle _ isThere => ?_
    refine (inductionHypothesis fun other member => ?_).bind
      fun values after chain areThere => pure fun one member => ?_
    · exact areTrees other (List.mem_cons_of_mem expression member)
    rcases List.mem_cons.mp member with rfl | inRest
    · exact isThere.later chain.extends
    · exact areThere one inRest

/-! ### Calls -/

theorem invoke (proceeds : evaluator.Proceeds dialect) {id : FunctionId} {arguments : List Value}
    (present : id < machine.heap.functions.size)
    (areThere : ∀ value ∈ arguments, value.Stands dialect machine.heap) :
    (evaluator.invoke id arguments).Proceeds dialect machine fun value heap =>
      value.Stands dialect heap := by
  refine standing fun stands => ?_
  have ⟨closure, isTree⟩ := stands.heap.function present
  let object := machine.heap.function id
  let entries := (object.declaration.parameters.map Identifier.name).zip arguments
  have opened := Heap.openCall_chain stands.heap present areThere
  refine begin (machine.withHeap (machine.heap.openFrame object.closure entries))
    (Run.within machine.heap.frames.size (evaluator.executeAll object.declaration.body) >>=
      Watch.givenBack object) rfl (fun _ => .ofHeap opened) ?_
  have room : machine.heap.frames.size <
      (machine.heap.openFrame object.closure entries).frames.size :=
    Nat.lt_of_lt_of_eq (Nat.lt_succ_self _) (Heap.openFrame_size _ _ _).symm
  refine (within room (proceeds.executeAll _ (dialect.body isTree))).bind
    fun flow after _ isThere => standing fun stands => ?_
  unfold Watch.givenBack
  split
  · exact get_bind (ofExcept fun value found => stands.heap.found (Frames.getAt_read? found))
  · split
    · exact pure isThere
    · exact pure trivial

/-- A class that is called gives a new instance of it. -/
theorem construct (proceeds : evaluator.Proceeds dialect) {id : ClassId} {arguments : List Value}
    (present : id < machine.heap.classes.size)
    (areThere : ∀ value ∈ arguments, value.Stands dialect machine.heap) :
    (evaluator.construct id arguments).Proceeds dialect machine fun value heap =>
      value = .object machine.heap.instances.size ∧
        ∃ object, heap.instances[machine.heap.instances.size]? = some object ∧
          object.classId = id := by
  let receiver := machine.heap.instances.size
  have added : (Run.allocate fun heap => heap.addInstance id).Proceeds dialect machine
      fun place heap => place = receiver ∧ heap.instances[receiver]? = some ⟨id, .empty⟩ :=
    allocate (fun _ => .single (.addInstance present)) ⟨rfl, Array.getElem?_push_size⟩
  refine added.bind ?_
  rintro _ made chain ⟨rfl, isNew⟩
  -- what happens to the instance from then on leaves it one of the class
  have isInstance {after : Machine} (further : made.Chain dialect after) :
      ∃ object, after.heap.instances[receiver]? = some object ∧ object.classId = id := by
    obtain ⟨later, found, sameClass, _⟩ := further.extends.instances isNew
    exact ⟨later, found, sameClass⟩
  have isThere : receiver < made.heap.instances.size :=
    (Array.getElem?_eq_some_iff.mp isNew).1
  refine standing fun stands => get_bind ?_
  split
  · rename_i initializer isMethod
    refine (bindMethod_proceeds (stands.heap.isMethod isMethod) isThere).bind
      fun method bound toBound ⟨isStanding, _⟩ => ?_
    refine (proceeds.invoke isStanding.1.lt_size fun value member => ?_).bind
      fun _ after further _ => ?_
    · exact (areThere value member).later (chain.trans toBound).extends
    · exact pure ⟨rfl, isInstance (toBound.trans further)⟩
  · exact pure ⟨rfl, isInstance (.refl made)⟩

theorem perform (proceeds : evaluator.Proceeds dialect) {callable : Callable}
    {arguments : List Value} (line : Nat)
    (isThere : (Value.callable callable).Stands dialect machine.heap)
    (areThere : ∀ value ∈ arguments, value.Stands dialect machine.heap) :
    (evaluator.perform callable arguments line).Proceeds dialect machine fun value heap =>
      value.Stands dialect heap := by
  cases callable with
  | native id => exact callNative_proceeds id line areThere
  | function id =>
    obtain ⟨_, found, _⟩ := isThere
    exact proceeds.invoke (Array.getElem?_eq_some_iff.mp found).1 areThere
  | method id => exact proceeds.invoke isThere.1.lt_size areThere
  | constructor id =>
    refine (proceeds.construct isThere areThere).mono ?_
    rintro _ after _ ⟨rfl, object, found, _⟩
    exact (Array.getElem?_eq_some_iff.mp found).1

theorem call (proceeds : evaluator.Proceeds dialect) {callee : Value} {arguments : List Value}
    (line : Nat) (isThere : callee.Stands dialect machine.heap)
    (areThere : ∀ value ∈ arguments, value.Stands dialect machine.heap) :
    (evaluator.call callee arguments line).Proceeds dialect machine fun value heap =>
      value.Stands dialect heap := by
  cases callee with
  | callable callable =>
    refine get_bind ?_
    dsimp only
    split
    · exact throw
    · split
      · exact throw
      · exact inCall (proceeds.perform line isThere areThere)
  | _ => exact throw

/-! ### Expressions -/

theorem evaluateNode (proceeds : evaluator.Proceeds dialect) {expression : Expression}
    (isTree : dialect.has (.expression expression)) :
    (evaluator.evaluateNode expression).Proceeds dialect machine fun value heap =>
      value.Stands dialect heap := by
  have part {constituent : Constituent}
      (isPart : constituent ∈ (Constituent.expression expression).parts) :
      dialect.has constituent := dialect.closed isTree isPart
  cases expression with
  | literal literal => exact pure (literal.isPlain_value.stands _)
  | grouping inner => exact proceeds.evaluate (part (.head _))
  | unary operator line operand =>
    refine (proceeds.evaluate (part (.head _))).bind fun value after _ _ => ?_
    exact ofExcept fun _ answer => (operator.onEveryLine value).stands answer _
  | binary operator line left right =>
    refine (proceeds.evaluate (part (.head _))).bind fun first _ _ _ => ?_
    refine (proceeds.evaluate (part (.tail _ (.head _)))).bind fun second _ _ _ => ?_
    exact ofExcept fun _ answer => (operator.onEveryLine first second).stands answer _
  | logical operator left right =>
    refine (proceeds.evaluate (part (.head _))).bind fun value _ _ isThere => ?_
    split
    · exact pure isThere
    · exact proceeds.evaluate (part (.tail _ (.head _)))
  | read reference name => exact lookUp_proceeds reference name
  | assign reference name value =>
    refine (proceeds.evaluate (part (.head _))).bind fun value _ _ isThere => ?_
    refine (assign_proceeds reference (part (.tail _ (.head _))) isThere).bind
      fun _ _ chain _ => pure ?_
    exact isThere.later chain.extends
  | call callee line arguments =>
    refine (proceeds.evaluate (part (.head _))).bind fun callee middle _ isThere => ?_
    refine (proceeds.evaluateAll arguments fun argument member => ?_).bind
      fun values _ chain areThere => ?_
    · exact part (.tail _ (List.mem_map_of_mem member))
    · exact proceeds.call line (isThere.later chain.extends) areThere
  | function declaration =>
    exact (close_proceeds (part (.head _))).bind fun _ _ _ isThere => pure isThere
  | get object name =>
    exact (proceeds.evaluate (part (.head _))).bind fun _ _ _ isThere =>
      property_proceeds name isThere
  | set object name value =>
    refine (proceeds.evaluate (part (.head _))).bind fun object middle _ _ => ?_
    split
    · refine (proceeds.evaluate (part (.tail _ (.head _)))).bind fun value after _ isThere => ?_
      refine (changeHeap fun _ => .single (.setField isThere)).bind fun _ _ chain _ => pure ?_
      exact isThere.later chain.extends
    · exact throw
  | this reference keyword => exact lookUp_proceeds reference keyword
  | super reference keyword method =>
    exact (superMethod_proceeds reference keyword method).mono fun _ _ _ holds => holds.1

/-! ### Statements -/

theorem pass (proceeds : evaluator.Proceeds dialect) {condition : Expression} {body : Statement}
    {increment : Option Statement}
    (isTree : dialect.has (.statement (.loop condition body increment))) (machine : Machine) :
    (evaluator.pass condition body increment).Proceeds dialect machine fun ended heap =>
      ∀ flow ∈ ended, flow.Stands dialect heap := by
  have part {constituent : Constituent}
      (isPart : constituent ∈ (Constituent.statement (.loop condition body increment)).parts) :
      dialect.has constituent := dialect.closed isTree isPart
  refine (proceeds.evaluate (part (.head _))).bind fun value _ _ _ => ?_
  split
  · refine (proceeds.execute (part (.tail _ (.head _)))).bind fun flow after _ isThere => ?_
    split
    · exact pure fun _ ended => Option.some.inj ended ▸ trivial
    · exact pure fun _ ended => Option.some.inj ended ▸ isThere
    all_goals
      cases increment with
      | some increment =>
        exact (proceeds.execute (part (.tail _ (.tail _ (.head _))))).bind
          fun _ _ _ _ => pure fun _ member => nomatch member
      | none => exact pure fun _ member => nomatch member
  · exact pure fun _ ended => Option.some.inj ended ▸ trivial

theorem superclass? (proceeds : evaluator.Proceeds dialect) (name : Identifier)
    {superclass : Option Expression}
    (areTrees : ∀ expression ∈ superclass, dialect.has (.expression expression)) :
    (evaluator.superclass? name superclass).Proceeds dialect machine fun parent heap =>
      ∀ id ∈ parent, id < heap.classes.size := by
  cases superclass with
  | none => exact pure fun _ member => nomatch member
  | some expression =>
    refine (proceeds.evaluate (areTrees expression rfl)).bind fun value after _ isThere => ?_
    split
    · exact pure fun _ isParent => Option.some.inj isParent ▸ isThere
    · exact throw

theorem declareClass (proceeds : evaluator.Proceeds dialect) {name : Identifier}
    {superclass : Option Expression} {methods : List FunctionDeclaration}
    (isTree : dialect.has (.statement (.declareClass name superclass methods))) :
    (evaluator.declareClass name superclass methods).Proceeds dialect machine fun _ _ => True := by
  rw [Watch.declareClass_eq]
  refine (proceeds.superclass? name (dialect.superclass isTree)).bind
    fun parent found _ isParent => ?_
  refine (makeMethods_proceeds isTree isParent).bind fun table made chain areMethods => ?_
  have added : (Run.allocate fun heap => heap.addClass ⟨name.name, table, parent⟩).Proceeds dialect
      made fun id heap => id < heap.classes.size := by
    refine allocate (fun _ => .single (.addClass (fun id member => ?_) areMethods)) ?_
    · exact Nat.lt_of_lt_of_le (isParent id member) chain.extends.classes_size
    · exact Nat.lt_of_lt_of_eq (Nat.lt_succ_self _) (Array.size_push _).symm
  refine added.bind fun id after _ isThere => get_bind (ofExcept_bind fun holder holds => ?_)
  have isName : dialect.has (.binding name.name) := dialect.closed isTree (.head _)
  exact changeHeap fun _ => .single (.define (Frames.holder_lt holds) isThere (.inl isName))

theorem executeNode (proceeds : evaluator.Proceeds dialect) {statement : Statement}
    (isTree : dialect.has (.statement statement)) :
    (evaluator.executeNode statement).Proceeds dialect machine fun flow heap =>
      flow.Stands dialect heap := by
  have part {constituent : Constituent}
      (isPart : constituent ∈ (Constituent.statement statement).parts) :
      dialect.has constituent := dialect.closed isTree isPart
  cases statement with
  | expression expression =>
    exact (proceeds.evaluate (part (.head _))).bind fun _ _ _ _ => pure trivial
  | print expression =>
    exact (proceeds.evaluate (part (.head _))).bind fun _ _ _ _ =>
      get_bind (write.bind fun _ _ _ _ => pure trivial)
  | declareVariable name initializer =>
    cases initializer with
    | none =>
      refine (define (part (.head _)) ?_).bind fun _ _ _ _ => pure trivial
      trivial
    | some initializer =>
      exact (proceeds.evaluate (part (.tail _ (.head _)))).bind fun _ _ _ isThere =>
        (define (part (.head _)) isThere).bind fun _ _ _ _ => pure trivial
  | block statements =>
    have opened : (Run.allocate fun heap => heap.addFrame machine.current).Proceeds dialect machine
        fun frame heap => frame < heap.frames.size :=
      allocate (fun stands => .single (.addFrame stands.current)) (Heap.lt_size_addFrame _ _)
    refine get_bind (opened.bind fun frame _ _ present => within present ?_)
    exact proceeds.executeAll statements fun statement member =>
      part (List.mem_map_of_mem member)
  | conditional condition thenBranch elseBranch =>
    refine (proceeds.evaluate (part (.head _))).bind fun value _ _ _ => ?_
    split
    · exact proceeds.execute (part (.tail _ (.head _)))
    · split
      · exact proceeds.execute (part (.tail _ (.tail _ (.head _))))
      · exact pure trivial
  | loop condition body increment =>
    exact repeatPass_proceeds (proceeds.pass isTree) evaluator.passes
  | control control keyword =>
    cases control <;> exact pure trivial
  | declareFunction declaration =>
    refine (close_proceeds (part (.head _))).bind fun id _ _ isThere => ?_
    cases isNamed : declaration.name with
    | some name =>
      have isName : dialect.has (.binding name.name) :=
        part (.tail _ (isNamed ▸ .head _))
      exact (define isName isThere).bind fun _ _ _ _ => pure trivial
    | none => exact pure trivial
  | giveBack keyword value =>
    cases value with
    | none => exact pure trivial
    | some value =>
      exact (proceeds.evaluate (part (.head _))).bind fun _ _ _ isThere => pure isThere
  | declareClass name superclass methods =>
    exact (proceeds.declareClass isTree).bind fun _ _ _ _ => pure trivial

end Evaluator.Proceeds

/-! ### Trees and programs -/

/-- Trees of the dialect lead a standing machine on: an induction on the depth. -/
theorem evaluator_proceeds (dialect : Dialect) (depth : Nat) :
    (evaluator depth).Proceeds dialect := by
  induction depth with
  | zero => exact ⟨fun _ _ => .throw, fun _ _ => .throw⟩
  | succ depth inductionHypothesis =>
    exact ⟨fun isTree _ => inductionHypothesis.evaluateNode isTree,
      fun isTree _ => inductionHypothesis.executeNode isTree⟩

end Lox
