/-
What runs find on a pair of heaps. A name that is looked for the same way outward is found in frames
that belong together, or on neither side; so are methods and fields, and what is made of them can be
used on both sides. A loop that is followed may have made fewer passes than it is given.
-/

import Lox.Proofs.Evaluation.Operators
import Lox.Proofs.Run.Following
import Lox.Proofs.Run.Names

namespace Lox

open Scope

namespace Pair

variable {known knownToo : Distances} {pair : Pair known knownToo} {alignment : Alignment}
  {current currentToo frame frameToo : FrameId} {name : String} {line lineToo : Nat}

/-! ### What is found -/

theorem usable_of_isPlain {value : Value} (isPlain : value.IsPlain) : pair.Usable value := by
  cases value with
  | callable | object => exact isPlain.elim
  | _ => trivial

/-- What frames that belong together give a name. -/
theorem Holds.read_cases (holds : pair.Holds) {holder holderToo : Option FrameId}
    (rel : Option.Rel pair.frames holder holderToo) (name : String) :
    (holder.bind fun holder => pair.left.frames.read? holder name) = none ∧
        (holderToo.bind fun holder => pair.right.frames.read? holder name) = none ∨
      ∃ value, (holder.bind fun holder => pair.left.frames.read? holder name) = some value ∧
        (holderToo.bind fun holder => pair.right.frames.read? holder name) = some value ∧
        pair.Usable value := by
  cases rel with
  | none => exact .inl ⟨rfl, rfl⟩
  | @some holder holderToo belong =>
    rw [Option.bind_some, Option.bind_some, holds.reads belong]
    cases bound : pair.left.frames.read? holder name with
    | none => exact .inl ⟨rfl, rfl⟩
    | some value => exact .inr ⟨value, rfl, rfl, holds.values belong bound⟩

theorem getAt_answers (holds : pair.Holds) (linked : pair.Linked alignment frame frameToo)
    {distance other : Nat} (aligned : alignment distance other) :
    pair.Answers SameValue (pair.left.frames.getAt frame distance name line)
      (pair.right.frames.getAt frameToo other name lineToo) := by
  unfold Frames.getAt
  rcases holds.read_cases (linked.counterparts aligned) name with
    ⟨absent, absentToo⟩ | ⟨value, bound, boundToo, usable⟩
  · rw [absent, absentToo]
    exact .error .located
  · rw [bound, boundToo]
    exact .ok ⟨rfl, usable⟩

theorem holderAt_answers (linked : pair.Linked alignment frame frameToo) {distance other : Nat}
    (aligned : alignment distance other) :
    pair.Answers Pair.frames (pair.left.frames.holderAt frame distance name line)
      (pair.right.frames.holderAt frameToo other name lineToo) := by
  unfold Frames.holderAt
  have rel := linked.counterparts aligned
  generalize pair.left.frames.ancestor? frame distance = holder at rel ⊢
  generalize pair.right.frames.ancestor? frameToo other = holderToo at rel ⊢
  cases rel with
  | none => exact .error .located
  | some belong => exact .ok belong

/-- No frame is looked at but the global one. -/
theorem nearest?_globalFrame (frames : Frames) (name : String) :
    frames.nearest? Heap.globalFrame name =
      (frames.read? Heap.globalFrame name).map (Heap.globalFrame, ·) := by
  unfold Frames.nearest? Frames.search?
  cases frames.read? Heap.globalFrame name with
  | some value => rfl
  | none => cases frames.enclosing? Heap.globalFrame <;> rfl

theorem get_answers (holds : pair.Holds) :
    pair.Answers SameValue (pair.left.frames.get Heap.globalFrame name line)
      (pair.right.frames.get Heap.globalFrame name lineToo) := by
  unfold Frames.get
  rw [nearest?_globalFrame, nearest?_globalFrame, holds.reads holds.globals]
  cases bound : pair.left.frames.read? Heap.globalFrame name with
  | none => exact .error .located
  | some value => exact .ok ⟨rfl, holds.values holds.globals bound⟩

theorem holder_answers (holds : pair.Holds) :
    pair.Answers Pair.frames (pair.left.frames.holder Heap.globalFrame name line)
      (pair.right.frames.holder Heap.globalFrame name lineToo) := by
  unfold Frames.holder
  rw [nearest?_globalFrame, nearest?_globalFrame, holds.reads holds.globals]
  cases pair.left.frames.read? Heap.globalFrame name with
  | none => exact .error .located
  | some value => exact .ok holds.globals

theorem everyLine_answers {answers : Nat → Except RuntimeError Value}
    (every : OnEveryLine answers) :
    pair.Answers SameValue (answers line) (answers lineToo) := by
  cases every with
  | ok isPlain => exact .ok ⟨rfl, usable_of_isPlain isPlain⟩
  | error problem => exact .error .located

theorem Answers.grow {answer answerToo : Except RuntimeError Value} {later : Pair known knownToo}
    (answers : pair.Answers SameValue answer answerToo) (grows : pair.Later later) :
    later.Answers SameValue answer answerToo := by
  cases answers with
  | ok same => exact .ok ⟨same.1, grows.usable same.2⟩
  | error sameProblem => exact .error sameProblem

/-- A method that is found can be bound. -/
theorem Holds.binds (holds : pair.Holds) {id : ClassId} {method : FunctionId}
    (found : pair.left.method? id name = some method) : pair.Binds method := by
  obtain ⟨_, finds⟩ := Heap.finds_of_method? found
  exact holds.methods finds.own

/-! ### Variables -/

open Follows Evaluator

theorem lookUp_follows {reference referenceToo : Reference}
    (linked : pair.Linked alignment current currentToo)
    (tied : (Ties.known known knownToo).name alignment reference referenceToo) :
    pair.Follows current currentToo SameValue (lookUp reference ⟨name, line⟩)
      fun _ => lookUp referenceToo ⟨name, lineToo⟩ := by
  have tied : alignment.Locates known[reference]? knownToo[referenceToo]? := tied
  refine get_bind fun joins => ?_
  rw [joins.distances, joins.distancesToo, joins.left, joins.right, joins.current,
    joins.currentToo]
  generalize known[reference]? = distance at tied ⊢
  generalize knownToo[referenceToo]? = other at tied ⊢
  cases tied with
  | nowhere => exact ofExcept (get_answers joins.holds)
  | here aligned => exact ofExcept (getAt_answers joins.holds linked aligned)

theorem assign_follows {reference referenceToo : Reference} {value : Value}
    (linked : pair.Linked alignment current currentToo)
    (tied : (Ties.known known knownToo).name alignment reference referenceToo)
    (usable : pair.Usable value) :
    pair.Follows current currentToo Same (assign reference ⟨name, line⟩ value)
      fun _ => assign referenceToo ⟨name, lineToo⟩ value := by
  have tied : alignment.Locates known[reference]? knownToo[referenceToo]? := tied
  have holders : pair.Follows current currentToo Pair.frames (holder reference ⟨name, line⟩)
      fun _ => holder referenceToo ⟨name, lineToo⟩ := by
    refine get_bind fun joins => ?_
    rw [joins.distances, joins.distancesToo, joins.left, joins.right, joins.current,
      joins.currentToo]
    generalize known[reference]? = distance at tied ⊢
    generalize knownToo[referenceToo]? = other at tied ⊢
    cases tied with
    | nowhere => exact ofExcept (holder_answers joins.holds)
    | here aligned => exact ofExcept (holderAt_answers linked aligned)
  refine holders.bind fun grows belong => ?_
  exact changeHeap (later_define _ _ _ _ _) rfl rfl fun holds =>
    holds.define belong name (grows.usable usable)

/-! ### Functions and methods -/

theorem close_follows {declaration declarationToo : FunctionDeclaration}
    (linked : pair.Linked alignment current currentToo)
    (twin : Twin (.known known knownToo) alignment (.function declaration declarationToo)) :
    pair.Follows current currentToo (fun later id idToo => idToo = id ∧ later.Runs id)
      (close declaration) fun _ => close declarationToo := by
  refine get_bind fun joins => ?_
  rw [joins.current, joins.currentToo]
  have resembles : FunctionObject.Resembles ⟨declaration, current, false⟩
      ⟨declarationToo, currentToo, false⟩ := ⟨twin.name, twin.arity, rfl⟩
  refine (Follows.addFunction resembles).mono fun grows ⟨same, isThere, isThereToo⟩ => ?_
  exact ⟨same, alignment, _, _, isThere, isThereToo, grows.linked linked, twin, nofun⟩

theorem bound_follows {method : FunctionId} (binds : pair.Binds method) (receiver : InstanceId) :
    pair.Follows current currentToo SameValue (bound method receiver)
      fun _ => bound method receiver := by
  refine (Follows.bindMethod binds receiver).bind fun _ ⟨same, runs⟩ => ?_
  cases same
  exact pure ⟨rfl, runs⟩

theorem property_follows (object : Value) :
    pair.Follows current currentToo SameValue (property object ⟨name, line⟩)
      fun _ => property object ⟨name, lineToo⟩ := by
  cases object with
  | object id =>
    refine get_bind fun joins => ?_
    have looks := joins.holds.looks
    simp only [joins.left, joins.right, looks.instanceAt, looks.method?]
    split
    · rename_i isSet
      exact pure ⟨rfl, joins.holds.fields isSet⟩
    · split
      · rename_i found
        exact bound_follows (joins.holds.binds found) id
      · exact fail _ _ _
  | _ => exact fail _ _ _

theorem superMethod_follows {reference referenceToo : Reference} {method : String}
    {place placeToo : Nat} (linked : pair.Linked alignment current currentToo)
    (tied : (Ties.known known knownToo).super alignment reference referenceToo) :
    pair.Follows current currentToo SameValue
      (superMethod reference ⟨name, line⟩ ⟨method, place⟩)
      fun _ => superMethod referenceToo ⟨name, lineToo⟩ ⟨method, placeToo⟩ := by
  have tied : alignment.LocatesBoth known[reference]? knownToo[referenceToo]? := tied
  refine get_bind fun joins => ?_
  have looks := joins.holds.looks
  simp only [joins.distances, joins.distancesToo, joins.left, joins.right, joins.current,
    joins.currentToo, looks.method?]
  generalize known[reference]? = distance at tied ⊢
  generalize knownToo[referenceToo]? = other at tied ⊢
  cases tied with
  | nowhere => exact fail _ _ _
  | here aligned nearer =>
    refine (ofExcept (getAt_answers joins.holds linked aligned)).bind ?_
    rintro middle _ parent grows ⟨rfl, _⟩
    refine (ofExcept ((getAt_answers joins.holds linked nearer).grow grows)).bind ?_
    rintro later _ receiver further ⟨rfl, _⟩
    split
    · split
      · rename_i found
        exact bound_follows (further.binds (grows.binds (joins.holds.binds found))) _
      · exact fail _ _ _
    · exact fail _ _ _

/-! ### Calls of what is not written in the language -/

/-- What the host can reach from usable arguments is usable. Instances and classes are so in any
case. -/
theorem Holds.reaches (holds : pair.Holds) {arguments : List Value}
    (usable : ∀ value ∈ arguments, pair.Usable value) {value : Value}
    (reaches : pair.left.view.Reaches arguments value) : pair.Usable value := by
  cases reaches with
  | plain isPlain => exact usable_of_isPlain isPlain
  | argument member => exact usable _ member
  | field _ isSet => exact holds.fields isSet
  | classOf _ => trivial
  | superclass _ _ => trivial

theorem storeAll_follows {stores : List FieldStore}
    (usable : ∀ store ∈ stores, pair.Usable store.value) :
    pair.Follows current currentToo Same (storeAll stores) fun _ => storeAll stores := by
  induction stores generalizing pair with
  | nil => exact pure rfl
  | cons store others inductionHypothesis =>
    refine (Follows.setField _ _ (usable store List.mem_cons_self)).bind fun grows _ => ?_
    exact inductionHypothesis fun other member =>
      grows.usable (usable other (List.mem_cons_of_mem store member))

/-- What a host function does with usable arguments. -/
theorem carryOut_follows {effect : HostEffect} {arguments : List Value}
    (holds : pair.Holds) (usable : ∀ value ∈ arguments, pair.Usable value)
    (handsOn : effect.HandsOn pair.left.view arguments) :
    pair.Follows current currentToo SameValue (carryOut effect line)
      fun _ => carryOut effect lineToo := by
  refine (storeAll_follows fun store member =>
    holds.reaches usable (handsOn.values store member)).bind fun grows _ => ?_
  split
  · rename_i isAnswer
    exact pure ⟨rfl, grows.usable (holds.reaches usable (handsOn.answer isAnswer))⟩
  · exact fail _ _ _

theorem callNative_follows (id : NativeId) {arguments : List Value}
    (usable : ∀ value ∈ arguments, pair.Usable value) :
    pair.Follows current currentToo SameValue (callNative id arguments line)
      fun _ => callNative id arguments lineToo := by
  refine get_bind fun joins => ?_
  have looks := joins.holds.looks
  simp only [joins.left, joins.right, looks.native, looks.view, joins.clock]
  split
  · exact tick.bind fun _ _ => pure ⟨rfl, trivial⟩
  · exact carryOut_follows joins.holds usable (HostFunction.handsOn _ _ _)

/-! ### Classes -/

/-- The frame over which methods are closed is the current one, or lies inside it. -/
theorem methodFrame_follows (linked : pair.Linked alignment current currentToo)
    (parent : Option ClassId) :
    pair.Follows current currentToo
      (fun later frame frameToo =>
        later.Linked (if parent.isSome then alignment.inside else alignment) frame frameToo)
      (methodFrame parent) fun _ => methodFrame parent := by
  cases parent with
  | none =>
    refine get_bind fun joins => ?_
    rw [joins.current, joins.currentToo]
    exact pure linked
  | some parent =>
    refine get_bind fun joins => ?_
    rw [joins.current, joins.currentToo]
    refine (Follows.addFrame linked).bind fun {opened frame frameToo} _ inside => ?_
    have grows := later_define opened frame frameToo "super" (.callable (.constructor parent))
    refine (changeHeap grows rfl rfl fun holds =>
      holds.define (inside.here trivial) "super" trivial).bind fun further _ => ?_
    exact pure (further.linked inside)

theorem methodTable_follows {methods methodsToo : List FunctionDeclaration}
    (linked : pair.Linked alignment frame frameToo)
    (twins : Twin (.known known knownToo) alignment.inside (.functions methods methodsToo))
    {table : Bindings FunctionId}
    (made : ∀ {name method}, table.get? name = some method → pair.Binds method) :
    pair.Follows current currentToo
      (fun later table tableToo => tableToo = table ∧
        ∀ {name method}, table.get? name = some method → later.Binds method)
      (methodTable frame methods table) fun _ => methodTable frameToo methodsToo table := by
  induction methods generalizing pair methodsToo table with
  | nil =>
    cases twins
    exact pure ⟨rfl, made⟩
  | cons method others inductionHypothesis =>
    cases twins with
    | @moreFunctions _ _ methodToo _ othersToo twin twins =>
      unfold methodTable
      obtain ⟨isName, isNameToo⟩ | ⟨word, _, _, isName, isNameToo⟩ := Twin.name_cases twin.name <;>
        rw [isName, isNameToo]
      · exact inductionHypothesis linked twins made
      · have resembles : FunctionObject.Resembles ⟨method, frame, method.isInitializer⟩
            ⟨methodToo, frameToo, methodToo.isInitializer⟩ :=
          ⟨twin.name, twin.arity, FunctionDeclaration.isInitializer_eq_of_name twin.name⟩
        refine (Follows.addFunction resembles).bind ?_
        rintro later id _ grows ⟨rfl, isThere, isThereToo⟩
        refine inductionHypothesis (grows.linked linked) twins fun {wanted found} isFound => ?_
        rw [Bindings.get?_write] at isFound
        split at isFound
        · cases isFound
          exact ⟨alignment, _, _, isThere, isThereToo, grows.linked linked, twin⟩
        · exact grows.binds (made isFound)

/-! ### Loops -/

/-- A loop that has made some passes already goes on like one that is followed. -/
theorem repeatPass_follows {pass : Run (Option Flow)} {others : Nat → Run (Option Flow)}
    (inside : ∀ {later : Pair known knownToo}, pair.Later later →
      later.Follows current currentToo SamePass pass others) (passes made : Nat) :
    pair.Follows current currentToo SameFlow (repeatPass pass passes)
      fun depth => repeatPass (others depth) (depth - made) := by
  induction passes generalizing pair made with
  | zero => exact exhausted
  | succ passes inductionHypothesis =>
    have goesOn : pair.Follows current currentToo SameFlow (repeatPass pass (passes + 1))
        fun depth => repeatPass (others depth) (depth - (made + 1) + 1) := by
      refine (inside (.refl pair)).bind ?_
      rintro later _ ended grows ⟨rfl, usable⟩
      cases ended with
      | some flow => exact pure ⟨rfl, fun value returned => usable value (congrArg some returned)⟩
      | none => exact inductionHypothesis (fun further => inside (grows.trans further)) (made + 1)
    refine goesOn.from_depth (made + 1) fun depth bound => ?_
    rw [show depth - made = depth - (made + 1) + 1 by omega]

end Pair

end Lox
