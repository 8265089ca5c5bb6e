/-
Declarations. A name that is declared is bound in the current frame, and from then on the
environment has it as defined. The methods of a class are closed over the current frame, or over one
for the superclass around it, before there is a class; when there is one, each of them fits.
-/

import Lox.Proofs.Run.Calls

namespace Lox

open Scope

variable {watch : Watch} {machine : Machine} {environment : Environment}
  {evaluator other : Evaluator} {name : String}

namespace Watch

/-! ### Binding a name -/

/-- The mark with which a name is entered forbids nothing. -/
theorem Confined.pending (confined : watch.Confined (environment.enter name true)) :
    watch.Confined (environment.enter name false) := by
  cases environment with
  | nil => exact confined
  | cons innermost outer =>
    intro activation member isKept other contains
    rcases List.mem_cons.mp member with rfl | inOuter
    · refine confined _ List.mem_cons_self isKept other ?_
      rw [contains_write] at contains ⊢
      exact contains
    · exact confined activation (List.mem_cons_of_mem _ inOuter) isKept other contains

/-- While a name is pending, expressions are evaluated with the name entered as such. -/
theorem Ready.pending (ready : watch.Ready environment machine) (isVariable : IsVariable name)
    (confined : watch.Confined (environment.enter name true)) :
    watch.Ready (environment.enter name false) machine :=
  ⟨ready.sound, ready.aligned.enter isVariable nofun,
    (Environment.parent?_enter _ _ _).trans ready.inside, confined.pending⟩

/-- A name that is declared where the watched frame is the current one is allowed. -/
theorem Ready.allowed (ready : watch.Ready environment machine)
    (confined : watch.Confined (environment.enter name true))
    (isKept : machine.current = watch.kept) :
    watch.allowed name := by
  cases environment with
  | nil => exact ready.sound.everywhere (isKept.symm.trans ready.aligned) name
  | cons innermost outer =>
    refine confined _ List.mem_cons_self (ready.aligned.1.symm.trans isKept) name ?_
    rw [contains_write]
    simp

/-- The current frame is in the heap. -/
theorem Ready.current_lt (ready : watch.Ready environment machine) :
    machine.current < machine.heap.frames.size := by
  cases environment with
  | nil =>
    rw [show machine.current = Heap.globalFrame from ready.aligned]
    exact Nat.zero_lt_of_lt ready.sound.room
  | cons innermost outer =>
    obtain ⟨_, _, _, _, _, enclosed, _⟩ := ready.aligned
    exact Frames.lt_size_of_enclosing? enclosed

theorem precedes_define (machine : Machine) (isVariable : IsVariable name) (value : Value) :
    machine.heap.Precedes (machine.define name value).heap :=
  (Heap.Precedes.refl _).define machine.current name value (.inl isVariable)

theorem Ready.isSome_define (ready : watch.Ready environment machine) (name : String)
    (value : Value) :
    ((machine.define name value).heap.frames.read? machine.current name).isSome := by
  rw [show (machine.define name value).heap.frames.read? machine.current name = some value from
    Frames.read?_write_self ready.current_lt]
  rfl

/-- A name is bound in the current frame, to a value that is good then. -/
theorem Ready.define (ready : watch.Ready environment machine) (isVariable : IsVariable name)
    (confined : watch.Confined (environment.enter name true)) (value : Value)
    (good : watch.Good (machine.define name value) value) :
    watch.Leads machine (machine.define name value) ∧
      watch.Ready (environment.enter name true) (machine.define name value) := by
  have leads : watch.Leads machine (machine.define name value) :=
    .ofHeap (precedes_define machine isVariable value)
      (ready.sound.define good isVariable (ready.allowed confined))
  refine ⟨leads, leads.sound, ?_, (Environment.parent?_enter _ _ _).trans ready.inside, confined⟩
  exact (ready.later leads).aligned.enter isVariable fun _ => ready.isSome_define name value

/-! ### The superclass -/

theorem superclass?_keeps (trusts : watch.Trusts evaluator other) {name : Identifier}
    {superclass : Option Expression} {methods : List FunctionDeclaration}
    (happened : Happens watch.start
      (.execution environment (.declareClass name superclass methods) machine))
    (ready : watch.Ready environment machine)
    (confined : watch.Confined (environment.enter name.name true))
    (placed : (Statement.declareClass name superclass methods).Placed
      (machine.table watch.limit) environment.scopes) :
    watch.Keeps (evaluator.superclass? name superclass) (other.superclass? name superclass) machine
      fun parent after => NamesParent superclass machine parent after ∧
        ∀ id ∈ parent, id < after.heap.classes.size := by
  cases superclass with
  | none => exact .pure ready.sound ⟨.none machine, nofun⟩
  | some superclass =>
    obtain ⟨isVariable, _, _, placedSuperclass, _⟩ := placed
    rw [← Environment.scopes_enter] at placedSuperclass
    refine (trusts.evaluate (.superclass happened) (ready.pending isVariable confined)
      placedSuperclass).bind fun value after ended leads good => ?_
    split
    · rename_i id
      refine .pure leads.sound ⟨.some (trusts.evaluates ended), ?_⟩
      exact fun _ isId => Option.mem_some.mp isId ▸ good
    · exact .throw leads.sound

/-! ### Methods -/

theorem scopes_methods (machine : Machine) (parent : Option ClassId)
    (environment : Environment) :
    only "this" :: (environment.methods machine parent).scopes =
      methodScopes parent.isSome environment.scopes := by
  cases parent <;> rfl

/-- Binding a name makes no frame. -/
theorem methods_define (machine : Machine) (name : String) (value : Value)
    (parent : Option ClassId) (environment : Environment) :
    environment.methods (machine.define name value) parent =
      environment.methods machine parent := by
  unfold Environment.methods
  rw [show (machine.define name value).heap.frames.size = machine.heap.frames.size from
    Frames.size_write _ _ _ _]

theorem parent?_methods (machine : Machine) (parent : Option ClassId)
    (inside : environment.parent? = none) :
    (environment.methods machine parent).parent? = parent := by
  cases parent with
  | none => exact inside
  | some parent => rfl

/-- The frame of the methods of a class, around which lies the environment of the class. -/
theorem methodFrame_keeps {parent : Option ClassId} (ready : watch.Ready environment machine)
    (present : ∀ id ∈ parent, id < machine.heap.classes.size) :
    watch.Keeps (Evaluator.methodFrame parent) (Evaluator.methodFrame parent) machine
      fun frame after => (environment.methods machine parent).Aligned after.heap frame ∧
        watch.Confined (environment.methods machine parent) := by
  cases parent with
  | none => exact .get_bind (.pure ready.sound ⟨ready.aligned, ready.confined⟩)
  | some parent =>
    have isClass := present parent rfl
    let entries : List (String × Value) := [("super", .callable (.constructor parent))]
    have opened : watch.Leads machine
        (machine.withHeap (machine.heap.openFrame machine.current entries)) :=
      .ofHeap (.openFrame _ _ _) (ready.sound.openFrame _ entries fun entry member =>
        List.mem_singleton.mp member ▸ isClass)
    have holds : Owner.Holds (machine.heap.openFrame machine.current entries) environment
        (only "super") machine.heap.frames.size (.superclass parent) := by
      refine ⟨ready.inside, rfl, ?_, Heap.openFrame_read? machine.heap machine.current "super" _⟩
      rw [Heap.openFrame_classes]
      exact isClass
    have bound (word : String) (defined : (only "super").get? word = some true) :
        word ∈ entries.map Prod.fst := by
      rw [only_get? defined]
      exact List.mem_cons_self
    refine .begin (machine.withHeap (machine.heap.openFrame machine.current entries))
      (return machine.heap.frames.size) (return machine.heap.frames.size) rfl rfl
      opened (.pure opened.sound ⟨?_, ?_⟩)
    · exact openFrame_aligned (Nat.zero_lt_of_lt ready.sound.room) ready.aligned bound holds
    · intro activation member isKept
      rcases List.mem_cons.mp member with rfl | outer
      · exact absurd isKept.symm (Nat.ne_of_lt ready.sound.room)
      · exact ready.confined activation outer isKept

/-- Every method in the table of a class is a function of one of the declarations. -/
theorem methodTable_keeps {frame : FrameId} {scopes : List Names}
    (methods : List FunctionDeclaration) (table : Bindings FunctionId)
    (sound : watch.Sound machine)
    (placed : FunctionDeclaration.AllPlaced (machine.table watch.limit) scopes methods) :
    watch.Keeps (Evaluator.methodTable frame methods table)
      (Evaluator.methodTable frame methods table) machine
      fun final after => ∀ word id, final.get? word = some id → table.get? word = some id ∨
        ∃ declaration, after.heap.functions[id]? =
            some ⟨declaration, frame, declaration.isInitializer⟩ ∧
          declaration.Placed (machine.table watch.limit) scopes := by
  induction methods generalizing machine table with
  | nil => exact .pure sound fun _ _ found => .inl found
  | cons method others inductionHypothesis =>
    unfold Evaluator.methodTable
    split
    · rename_i word _
      let object : FunctionObject := ⟨method, frame, method.isInitializer⟩
      have small : ∀ reference ∈ object.declaration.references, reference < watch.limit := by
        intro reference member
        obtain ⟨_, small, _⟩ := FunctionDeclaration.Placed.knows method placed.1 reference member
        exact small
      have added : watch.Leads machine (machine.withHeap (machine.heap.addFunction object).2) :=
        .ofHeap ((Heap.Precedes.refl _).addFunction object) (sound.addFunction object small)
      have isThere : (machine.withHeap (machine.heap.addFunction object).2).heap.functions[
          machine.heap.functions.size]? = some object := Array.getElem?_push_size
      refine .begin (machine.withHeap (machine.heap.addFunction object).2)
        (Evaluator.methodTable frame others (table.write word.name machine.heap.functions.size))
        (Evaluator.methodTable frame others (table.write word.name machine.heap.functions.size))
        rfl rfl added ?_
      refine (inductionHypothesis _ added.sound placed.2).mono fun final after leads made => ?_
      intro other id found
      rcases made other id found with written | fromOthers
      · rw [Bindings.get?_write] at written
        split at written
        · cases written
          exact .inr ⟨method, leads.heap.functions isThere, placed.1⟩
        · exact .inl written
      · exact .inr fromOthers
    · exact inductionHypothesis table sound placed.2

/-! ### Classes -/

/-- The methods of a class in scopes, with or without a superclass. -/
theorem placedMethods {table : Table} {scopes : List Names} {name : Identifier}
    {superclass : Option Expression} {methods : List FunctionDeclaration}
    (placed : (Statement.declareClass name superclass methods).Placed table scopes) :
    IsVariable name.name ∧ FunctionDeclaration.AllPlaced table
      (methodScopes superclass.isSome (Scope.enter name.name true scopes)) methods := by
  cases superclass with
  | none => exact ⟨placed.1, placed.2.2⟩
  | some superclass => exact ⟨placed.1, placed.2.2.2.2⟩

theorem isSome_of_namesParent {superclass : Option Expression} {before after : Machine}
    {parent : Option ClassId} (names : NamesParent superclass before parent after) :
    parent.isSome = superclass.isSome := by
  cases names <;> rfl

/-- The methods of a class fit the environment of the class as soon as there is the class. -/
theorem makeMethods_keeps {parent : Option ClassId} {methods : List FunctionDeclaration}
    (ready : watch.Ready environment machine) (isVariable : IsVariable name)
    (confined : watch.Confined (environment.enter name true))
    (present : ∀ id ∈ parent, id < machine.heap.classes.size)
    (placed : FunctionDeclaration.AllPlaced (machine.table watch.limit)
      (methodScopes parent.isSome (Scope.enter name true environment.scopes)) methods) :
    watch.Keeps (makeMethods name parent methods) (makeMethods name parent methods) machine
      fun table after => (after.heap.frames.read? machine.current name).isSome ∧
        watch.Confined ((environment.enter name true).methods machine parent) ∧
        ∀ object : ClassObject, object.superclass = parent →
          ∀ word id, table.get? word = some id →
            watch.MethodFits (after.addClass object)
              ((environment.enter name true).methods machine parent) after.heap.classes.size id := by
  have ⟨ledToName, readyInside⟩ := ready.define isVariable confined .nil trivial
  have bindsName : watch.Keeps (Run.define name .nil) (Run.define name .nil) machine
      fun _ after => after = machine.define name .nil := .step rfl ledToName rfl
  refine bindsName.bind ?_
  rintro _ _ _ _ rfl
  refine (methodFrame_keeps readyInside present).bind ?_
  intro frame middle _ ledToFrame ⟨aligned, confinedMethods⟩
  have sameTable : middle.table watch.limit = machine.table watch.limit :=
    ledToFrame.table.trans ledToName.table
  rw [← sameTable] at placed
  rw [methods_define] at aligned confinedMethods
  refine (methodTable_keeps methods .empty ledToFrame.sound placed).mono ?_
  intro table last ledToMethods isMethod
  refine ⟨(ledToFrame.trans ledToMethods).heap.bound (ready.isSome_define name .nil),
    confinedMethods, fun object isParent word id own => ?_⟩
  have grown : last.heap.Precedes (last.addClass object).heap :=
    (Heap.Precedes.refl _).addClass object
  rcases isMethod word id own with nothing | ⟨declaration, isFunction, placedDeclaration⟩
  · exact nomatch nothing
  · refine ⟨⟨_, grown.functions isFunction, (aligned.grow ledToMethods.heap).grow grown, ?_⟩,
      object, Array.getElem?_push_size, ?_⟩
    · rw [scopes_methods, Environment.scopes_enter]
      exact ledToMethods.table ▸ placedDeclaration
    · rw [isParent]
      exact (parent?_methods machine parent readyInside.inside).symm

/-- What a class declaration does after its superclass is known. -/
def finishClass (name : Identifier) (parent : Option ClassId) (table : Bindings FunctionId) :
    Run Unit := do
  let id ← Run.allocate fun heap => heap.addClass ⟨name.name, table, parent⟩
  let machine ← get
  let frame ← .ofExcept (machine.heap.frames.holder machine.current name.name name.line)
  Run.changeHeap fun heap => heap.define frame name.name (.callable (.constructor id))

theorem declareClass_eq (name : Identifier) (superclass : Option Expression)
    (methods : List FunctionDeclaration) :
    evaluator.declareClass name superclass methods = (do
      let parent ← evaluator.superclass? name superclass
      let table ← makeMethods name.name parent methods
      finishClass name parent table) := by
  unfold Evaluator.declareClass makeMethods finishClass
  simp only [bind_assoc]

theorem declareClass_keeps (trusts : watch.Trusts evaluator other) {name : Identifier}
    {superclass : Option Expression} {methods : List FunctionDeclaration}
    (happened : Happens watch.start
      (.execution environment (.declareClass name superclass methods) machine))
    (ready : watch.Ready environment machine)
    (confined : watch.Confined (environment.enter name.name true))
    (placed : (Statement.declareClass name superclass methods).Placed
      (machine.table watch.limit) environment.scopes) :
    watch.Keeps (evaluator.declareClass name superclass methods)
      (other.declareClass name superclass methods) machine
      fun _ after => (environment.enter name.name true).Aligned after.heap after.current := by
  have ⟨isVariable, allPlaced⟩ := placedMethods placed
  rw [declareClass_eq, declareClass_eq]
  refine (superclass?_keeps trusts happened ready confined placed).bind ?_
  intro parent found _ ledToParent ⟨names, present⟩
  have readyFound := ready.later ledToParent
  rw [← isSome_of_namesParent names, ← ledToParent.table] at allPlaced
  refine (makeMethods_keeps readyFound isVariable confined present allPlaced).bind ?_
  intro table last made ledToMethods ⟨bound, confinedMethods, fits⟩
  let object : ClassObject := ⟨name.name, table, parent⟩
  have grown : last.heap.Precedes (last.addClass object).heap :=
    (Heap.Precedes.refl _).addClass object
  have allMade (word : String) (id : FunctionId) (own : table.get? word = some id) :
      watch.Made (last.addClass object) last.heap.classes.size id :=
    ⟨_, _, .method happened names made own, .refl _, fits object rfl word id own,
      confinedMethods⟩
  have parentPresent (id : ClassId) (isParent : parent = some id) :
      id < last.heap.classes.size :=
    ledToMethods.heap.lt_classes (present id isParent)
  have ledToClass : watch.Leads last (last.addClass object) :=
    .ofHeap grown (ledToMethods.sound.addClass parentPresent allMade)
  have addsClass : watch.Keeps (Run.allocate fun heap => heap.addClass object)
      (Run.allocate fun heap => heap.addClass object) last fun id after =>
        id = last.heap.classes.size ∧ after = last.addClass object :=
    .step rfl ledToClass ⟨rfl, rfl⟩
  refine addsClass.bind ?_
  rintro _ _ _ _ ⟨rfl, rfl⟩
  have ledOn := ledToMethods.trans ledToClass
  have readyLast := readyFound.later ledOn
  -- the name is still bound where it was, so that is where it gets the class
  have stillBound : ((last.addClass object).heap.frames.read? (last.addClass object).current
      name.name).isSome := by
    rw [ledOn.current]
    exact ledToClass.heap.bound bound
  have isClass : last.heap.classes.size < (last.addClass object).heap.classes.size := by
    show _ < (last.heap.classes.push object).size
    rw [Array.size_push]
    exact Nat.lt_succ_self _
  let value : Value := .callable (.constructor last.heap.classes.size)
  have goodValue : watch.Good ((last.addClass object).define name.name value) value :=
    (precedes_define (last.addClass object) isVariable value).lt_classes isClass
  have ⟨ledToEnd, readyEnd⟩ := readyLast.define isVariable confined value goodValue
  refine .get_bind ?_
  rw [Frames.holder_of_bound stillBound]
  exact .step rfl ledToEnd readyEnd.aligned

end Watch

end Lox
