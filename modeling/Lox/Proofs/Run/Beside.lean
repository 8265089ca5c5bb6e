/-
Machines beside each other that run the same program on different lines. Nothing that a run reads
tells them apart, but for the lines in the texts of functions and for distances of occurrences that
no text on them has. So what a run does on one of them it does on all, and an error differs by its
line alone. A line keeps to the part of the program that it is from, so that on all the machines it
is an error of the same part.
-/

import Lox.Proofs.Machine.Looks
import Lox.Proofs.Run.Calls
import Lox.Proofs.Tree.Relabelled

namespace Lox

/-- The function with its text on other lines. -/
def FunctionObject.reline (line : Nat → Nat) (object : FunctionObject) : FunctionObject :=
  { object with declaration := object.declaration.relabel (.lines line) }

/-- The machine with other functions and distances. -/
def Machine.beside (machine : Machine) (functions : Array FunctionObject)
    (distances : Scope.Distances) : Machine :=
  { machine with heap := { machine.heap with functions }, distances }

/-- The words on some of the lines. -/
def Vocabulary.onLines (has : Nat → Prop) : Vocabulary where
  name name := has name.line
  this keyword := has keyword.line
  super keyword := has keyword.line
  line := has

/-- The part of a program that a text is from. -/
inductive Part where
  | early
  | late

/-- How the machines of some worlds differ from one machine: what the lines of each part of a
program are on that machine and what they are in each world, what distances are known there, and how
many functions are of the early part in any case. -/
structure Layout (World : Type) where
  has : Part → Nat → Prop
  line : World → Part → Nat → Nat
  known : Scope.Distances
  knownIn : World → Scope.Distances
  fixed : Nat

namespace Layout

section

variable {World : Type} (layout : Layout World)

/-- The labels that a text of the part has in a world. -/
def labels (world : World) (part : Part) : Relabelling := .lines (layout.line world part)

/-- The words of trees from a part. -/
def words (part : Part) : Vocabulary := .onLines (layout.has part)

/-- The same is known about the references in all worlds. -/
def Agrees (references : List Reference) : Prop :=
  ∀ reference ∈ references, ∀ world,
    (layout.knownIn world)[reference]? = layout.known[reference]?

/-- The text of the function is from the part, and the same is known about it in all worlds. -/
structure Tells (part : Part) (object : FunctionObject) : Prop where
  shaped : object.declaration.Shaped (layout.words part)
  agrees : layout.Agrees object.declaration.references
  named : object.isInitializer = true → object.declaration.name.isSome

/-- The functions are those of the machine on the lines of each world. -/
structure Holds (machine : Machine) (functions : World → Array FunctionObject) : Prop where
  distances : machine.distances = layout.known
  size : ∀ world, (functions world).size = machine.heap.functions.size
  fixed : layout.fixed ≤ machine.heap.functions.size
  functions : ∀ {place : FunctionId} {object}, machine.heap.functions[place]? = some object →
    ∃ part, layout.Tells part object ∧
      (∀ world, (functions world)[place]? = some (object.reline (layout.line world part))) ∧
      (place < layout.fixed → part = .early)

/-- The machines are the first one, but for lines and distances. -/
inductive Alike : Machine → (World → Machine) → Prop
  | beside {machine functions} : layout.Holds machine functions →
      Alike machine fun world => machine.beside (functions world) (layout.knownIn world)

/-- The errors are the first one, but for the line, which is that of one part in all worlds. -/
inductive Moves : RuntimeError → (World → RuntimeError) → Prop
  | located {problem part place} : layout.has part place →
      Moves (.located problem place) fun world => .located problem (layout.line world part place)
  | output {problem} : Moves (.output problem) fun _ => .output problem

/-- The stops are the first one, but for the line of an error. -/
inductive Stops : Stop → (World → Stop) → Prop
  | error {error others} : layout.Moves error others →
      Stops (.error error) fun world => .error (others world)
  | exhausted : Stops .exhausted fun _ => .exhausted

/-- The answers are the same value, or the same error but for its line. -/
inductive Answers {α : Type} : Except RuntimeError α → (World → Except RuntimeError α) → Prop
  | ok {value} : Answers (.ok value) fun _ => .ok value
  | error {error others} : layout.Moves error others →
      Answers (.error error) fun world => .error (others world)

/-- The runs end in the same way, on machines that are alike. -/
inductive Ends {α : Type} :
    EStateM.Result Stop Machine α → (World → EStateM.Result Stop Machine α) → Prop
  | ok {value machine others} : layout.Alike machine others →
      Ends (.ok value machine) fun world => .ok value (others world)
  | error {stop stops machine others} : layout.Stops stop stops → layout.Alike machine others →
      Ends (.error stop machine) fun world => .error (stops world) (others world)

/-- On machines that are alike, the runs end in the same way. -/
structure Matches {α : Type} (run : Run α) (others : World → Run α) : Prop where
  ends : ∀ {machine beside}, layout.Alike machine beside →
    layout.Ends (run machine) fun world => others world (beside world)

end

variable {World : Type} {layout : Layout World} {α β : Type} {part : Part}

/-! ### What is told apart by nothing -/

/-- On other lines a function looks the same. -/
theorem resembles_reline (line : Nat → Nat) (object : FunctionObject) :
    object.Resembles (object.reline line) where
  name := by
    rw [FunctionObject.reline, FunctionDeclaration.name_relabel, Option.map_map]
    rfl
  arity := (FunctionDeclaration.arity_relabel _ _).symm
  isInitializer := rfl

namespace Alike

variable {machine : Machine} {others : World → Machine}

section

variable (alike : layout.Alike machine others) (world : World)

include alike

theorem frames : (others world).heap.frames = machine.heap.frames := by
  cases alike
  rfl

theorem classes : (others world).heap.classes = machine.heap.classes := by
  cases alike
  rfl

theorem instances : (others world).heap.instances = machine.heap.instances := by
  cases alike
  rfl

theorem natives : (others world).heap.natives = machine.heap.natives := by
  cases alike
  rfl

theorem size : (others world).heap.functions.size = machine.heap.functions.size := by
  obtain ⟨holds⟩ := alike
  exact holds.size world

theorem current : (others world).current = machine.current := by
  cases alike
  rfl

theorem callDepth : (others world).callDepth = machine.callDepth := by
  cases alike
  rfl

theorem sink : (others world).sink = machine.sink := by
  cases alike
  rfl

theorem clock : (others world).clock = machine.clock := by
  cases alike
  rfl

theorem distances :
    machine.distances = layout.known ∧ (others world).distances = layout.knownIn world := by
  obtain ⟨holds⟩ := alike
  exact ⟨holds.distances, rfl⟩

end

theorem fixed (alike : layout.Alike machine others) :
    layout.fixed ≤ machine.heap.functions.size := by
  obtain ⟨holds⟩ := alike
  exact holds.fixed

theorem functions (alike : layout.Alike machine others) {place : FunctionId}
    {object : FunctionObject} (found : machine.heap.functions[place]? = some object) :
    ∃ part, layout.Tells part object ∧
      (∀ world, (others world).heap.functions[place]? =
        some (object.reline (layout.line world part))) ∧
      (place < layout.fixed → part = .early) := by
  obtain ⟨holds⟩ := alike
  exact holds.functions found

/-- About a reference of a text the same is known. -/
theorem distance (alike : layout.Alike machine others) {references : List Reference}
    (agrees : layout.Agrees references) {reference : Reference} (member : reference ∈ references)
    (world : World) : (others world).distances[reference]? = machine.distances[reference]? := by
  rw [(alike.distances world).1, (alike.distances world).2]
  exact agrees reference member world

/-- A function is the same on the lines of each world. Where there is none, there is everywhere the
one that stands for any. -/
theorem function (alike : layout.Alike machine others) (place : FunctionId) :
    ∃ part, layout.Tells part (machine.heap.function place) ∧
      (∀ world, (others world).heap.function place =
        (machine.heap.function place).reline (layout.line world part)) ∧
      (place < layout.fixed → part = .early) := by
  cases alike with | beside holds =>
  rename_i functions
  cases found : machine.heap.functions[place]? with
  | some object =>
    obtain ⟨part, tells, isOther, fixed⟩ := holds.functions found
    rw [Heap.function_of_some found]
    exact ⟨part, tells, fun world => Heap.function_of_some (isOther world), fixed⟩
  | none =>
    rw [Heap.function_of_none found]
    refine ⟨.early, ⟨⟨nofun, nofun, Nat.zero_le _, trivial⟩, nofun, nofun⟩, fun world => ?_,
      fun _ => rfl⟩
    refine Heap.function_of_none (Array.getElem?_eq_none_iff.mpr ?_)
    exact holds.size world ▸ Array.getElem?_eq_none_iff.mp found

/-- Objects look the same in all worlds. -/
theorem resembles (alike : layout.Alike machine others) (world : World) :
    machine.heap.Resembles (others world).heap where
  functions place := by
    obtain ⟨part, _, isOther, _⟩ := alike.function place
    rw [isOther]
    exact resembles_reline _ _
  classes := alike.classes world
  instances := alike.instances world
  natives := alike.natives world

section

variable (alike : layout.Alike machine others) (world : World)

include alike

theorem method? (id : ClassId) (name : String) :
    (others world).heap.method? id name = machine.heap.method? id name :=
  (alike.resembles world).method? id name

theorem instanceAt (id : InstanceId) :
    (others world).heap.instanceAt id = machine.heap.instanceAt id :=
  (alike.resembles world).instanceAt id

theorem native (id : NativeId) : (others world).heap.native id = machine.heap.native id :=
  (alike.resembles world).native id

theorem arity (callable : Callable) :
    (others world).heap.arity callable = machine.heap.arity callable :=
  (alike.resembles world).arity callable

theorem text : (others world).heap.text = machine.heap.text :=
  (alike.resembles world).text

theorem view : (others world).heap.view = machine.heap.view :=
  (alike.resembles world).view

end

end Alike

/-! ### What a run does in one step -/

/-- A change elsewhere. -/
theorem Holds.change {machine changed : Machine} {functions : World → Array FunctionObject}
    (holds : layout.Holds machine functions) (distances : changed.distances = machine.distances)
    (same : changed.heap.functions = machine.heap.functions) : layout.Holds changed functions where
  distances := distances.trans holds.distances
  size world := same ▸ holds.size world
  fixed := same ▸ holds.fixed
  functions found := holds.functions (same ▸ found)

/-- A function that is added on the lines of each world. -/
theorem Holds.push {machine changed : Machine} {functions : World → Array FunctionObject}
    {object : FunctionObject} (holds : layout.Holds machine functions)
    (distances : changed.distances = machine.distances) (tells : layout.Tells part object)
    (pushed : changed.heap.functions = machine.heap.functions.push object) :
    layout.Holds changed fun world =>
      (functions world).push (object.reline (layout.line world part)) where
  distances := distances.trans holds.distances
  size world := by rw [pushed, Array.size_push, Array.size_push, holds.size]
  fixed := by
    rw [pushed, Array.size_push]
    exact Nat.le_succ_of_le holds.fixed
  functions {place found} isFound := by
    rw [pushed, Array.getElem?_push] at isFound
    split at isFound
    · rename_i isLast
      cases isFound
      refine ⟨part, tells, fun world => ?_, fun old => ?_⟩
      · rw [Array.getElem?_push, holds.size, if_pos isLast]
      · exact absurd (Nat.lt_of_lt_of_le (isLast ▸ old) holds.fixed) (Nat.lt_irrefl _)
    · rename_i notLast
      obtain ⟨part, tells, isOther, fixed⟩ := holds.functions isFound
      refine ⟨part, tells, fun world => ?_, fixed⟩
      rw [Array.getElem?_push, holds.size, if_neg notLast]
      exact isOther world

namespace Matches

/-- Results that are told world by world. -/
theorem ends_of_eq {result : EStateM.Result Stop Machine α}
    {results others : World → EStateM.Result Stop Machine α} (ends : layout.Ends result results)
    (same : ∀ world, others world = results world) : layout.Ends result others :=
  (funext same : others = results) ▸ ends

theorem pure (value : α) : layout.Matches (Pure.pure value) fun _ => Pure.pure value :=
  ⟨fun alike => .ok alike⟩

theorem throw {stop : Stop} {stops : World → Stop} (stopped : layout.Stops stop stops) :
    layout.Matches (MonadExcept.throw stop : Run α) fun world => MonadExcept.throw (stops world) :=
  ⟨fun alike => .error stopped alike⟩

theorem fail (problem : RuntimeProblem) {place : Nat} (present : layout.has part place) :
    layout.Matches (Run.fail problem place : Run α) fun world =>
      Run.fail problem (layout.line world part place) :=
  throw (.error (.located present))

theorem ofExcept {answer : Except RuntimeError α} {others : World → Except RuntimeError α}
    (answers : layout.Answers answer others) :
    layout.Matches (Run.ofExcept answer) fun world => Run.ofExcept (others world) := by
  cases answers with
  | ok => exact pure _
  | error moves => exact throw (.error moves)

/-- Runs that go on match if their parts do. -/
theorem bind {run : Run α} {others : World → Run α} {next : α → Run β}
    {nexts : World → α → Run β} (first : layout.Matches run others)
    (rest : ∀ value, layout.Matches (next value) fun world => nexts world value) :
    layout.Matches (run >>= next) fun world => others world >>= nexts world := by
  refine ⟨fun {machine beside} alike => ?_⟩
  have ends := first.ends alike
  show layout.Ends (EStateM.bind run next machine) fun world =>
    EStateM.bind (others world) (nexts world) (beside world)
  unfold EStateM.bind
  generalize run machine = result at ends ⊢
  generalize isOther : (fun world => others world (beside world)) = results at ends
  cases ends with
  | ok alike =>
    refine ends_of_eq ((rest _).ends alike) fun world => ?_
    rw [congrFun isOther world]
  | error stops alike =>
    refine ends_of_eq (.error stops alike) fun world => ?_
    rw [congrFun isOther world]

/-- What goes on after the machine is looked at may read it. -/
theorem get_bind {next : Machine → Run β} {nexts : World → Machine → Run β}
    (rest : ∀ {machine beside}, layout.Alike machine beside →
      layout.Matches (next machine) fun world => nexts world (beside world)) :
    layout.Matches (MonadState.get >>= next) fun world => MonadState.get >>= nexts world :=
  ⟨fun alike => (rest alike).ends alike⟩

theorem changeHeap {change : Heap → Heap}
    (keeps : ∀ heap functions, change { heap with functions } = { change heap with functions })
    (same : ∀ heap, (change heap).functions = heap.functions) :
    layout.Matches (Run.changeHeap change) fun _ => Run.changeHeap change := by
  constructor
  rintro machine _ ⟨holds⟩
  rename_i functions
  have both : layout.Alike { machine with heap := change machine.heap } fun world =>
      { machine.beside (functions world) (layout.knownIn world) with
        heap := { change machine.heap with functions := functions world } } :=
    .beside (holds.change rfl (same _))
  simp only [← keeps] at both
  exact .ok both

theorem define (name : String) (value : Value) :
    layout.Matches (Run.define name value) fun _ => Run.define name value := by
  constructor
  rintro machine _ ⟨holds⟩
  exact .ok (.beside (holds.change rfl rfl))

theorem defineAll (frame : FrameId) (entries : List (String × Value)) :
    layout.Matches (Run.changeHeap fun heap => heap.defineAll frame entries) fun _ =>
      Run.changeHeap fun heap => heap.defineAll frame entries := by
  refine changeHeap (fun heap functions => ?_) fun heap => Heap.defineAll_functions heap frame _
  unfold Heap.defineAll
  induction entries generalizing heap with
  | nil => rfl
  | cons entry others inductionHypothesis =>
    exact inductionHypothesis (heap.define frame entry.1 entry.2)

theorem tick : layout.Matches (modify fun machine => { machine with clock := machine.clock.next })
    fun _ => modify fun machine => { machine with clock := machine.clock.next } := by
  constructor
  rintro machine _ ⟨holds⟩
  exact .ok (.beside (holds.change rfl rfl))

theorem write (text : String) : layout.Matches (Run.write text) fun _ => Run.write text := by
  constructor
  rintro ⟨heap, current, callDepth, distances, sink, clock⟩ _ ⟨holds⟩
  unfold Run.write Machine.beside
  dsimp only
  cases sink.write text.toUTF8 with
  | mk problem sink =>
    cases problem with
    | none => exact .ok (.beside (holds.change rfl rfl))
    | some problem => exact .error (.error .output) (.beside (holds.change rfl rfl))

theorem addFrame (enclosing : FrameId) :
    layout.Matches (Run.allocate fun heap => heap.addFrame enclosing) fun _ =>
      Run.allocate fun heap => heap.addFrame enclosing := by
  constructor
  rintro machine _ ⟨holds⟩
  exact .ok (.beside (holds.change rfl rfl))

theorem addClass (object : ClassObject) :
    layout.Matches (Run.allocate fun heap => heap.addClass object) fun _ =>
      Run.allocate fun heap => heap.addClass object := by
  constructor
  rintro machine _ ⟨holds⟩
  exact .ok (.beside (holds.change rfl rfl))

theorem addInstance (classId : ClassId) :
    layout.Matches (Run.allocate fun heap => heap.addInstance classId) fun _ =>
      Run.allocate fun heap => heap.addInstance classId := by
  constructor
  rintro machine _ ⟨holds⟩
  exact .ok (.beside (holds.change rfl rfl))

/-- A function gets the same place in all worlds. -/
theorem addFunction {object : FunctionObject} (tells : layout.Tells part object) :
    layout.Matches (Run.allocate fun heap => heap.addFunction object) fun world =>
      Run.allocate fun heap => heap.addFunction (object.reline (layout.line world part)) := by
  constructor
  rintro machine _ ⟨holds⟩
  rename_i functions
  refine ends_of_eq (.ok (.beside (holds.push rfl tells rfl))) fun world => ?_
  show EStateM.Result.ok (functions world).size _ = .ok machine.heap.functions.size _
  rw [holds.size]
  rfl

theorem bindMethod (method : FunctionId) (receiver : InstanceId) :
    layout.Matches (Run.allocate fun heap => heap.bindMethod method receiver) fun _ =>
      Run.allocate fun heap => heap.bindMethod method receiver := by
  refine ⟨fun {machine others} alike => ?_⟩
  obtain ⟨part, tells, isOther, _⟩ := alike.function method
  obtain ⟨holds⟩ := alike
  rename_i functions
  have bound : layout.Tells part
      { machine.heap.function method with closure := machine.heap.frames.size } :=
    ⟨tells.shaped, tells.agrees, tells.named⟩
  refine ends_of_eq (.ok (.beside (holds.push rfl bound rfl))) fun world => ?_
  have added : (machine.beside (functions world) (layout.knownIn world)).heap.bindMethod method
      receiver = (machine.heap.functions.size, { (machine.heap.bindMethod method receiver).2 with
        functions := (functions world).push (FunctionObject.reline (layout.line world part)
          { machine.heap.function method with closure := machine.heap.frames.size }) }) := by
    rw [← holds.size world]
    unfold Heap.bindMethod
    rw [isOther world]
    rfl
  show EStateM.Result.ok ((machine.beside (functions world) (layout.knownIn world)).heap.bindMethod
    method receiver).1 { machine.beside (functions world) (layout.knownIn world) with
      heap := ((machine.beside (functions world) (layout.knownIn world)).heap.bindMethod method
        receiver).2 } = _
  rw [added]
  rfl

/-- Where a run ends, the machines may be put back to how they were before. -/
theorem ends_restored (restore : Machine → Machine) (restores : World → Machine → Machine)
    {result : EStateM.Result Stop Machine α} {results : World → EStateM.Result Stop Machine α}
    (ends : layout.Ends result results)
    (keeps : ∀ {machine others}, layout.Alike machine others →
      layout.Alike (restore machine) fun world => restores world (others world)) :
    layout.Ends
      (match result with
        | .ok value machine => .ok value (restore machine)
        | .error stop machine => .error stop (restore machine))
      fun world =>
        match results world with
        | .ok value machine => .ok value (restores world machine)
        | .error stop machine => .error stop (restores world machine) := by
  cases ends with
  | ok alike => exact .ok (keeps alike)
  | error stops alike => exact .error stops (keeps alike)

theorem within (frame : FrameId) {run : Run α} {others : World → Run α}
    (inside : layout.Matches run others) :
    layout.Matches (Run.within frame run) fun world => Run.within frame (others world) := by
  constructor
  rintro machine _ ⟨holds⟩
  rename_i functions
  have entered : layout.Alike { machine with current := frame } fun world =>
      { machine.beside (functions world) (layout.knownIn world) with current := frame } :=
    .beside (holds.change rfl rfl)
  refine ends_restored (fun after => { after with current := machine.current })
    (fun _ after => { after with current := machine.current }) (inside.ends entered) ?_
  rintro _ _ ⟨holds⟩
  exact .beside (holds.change rfl rfl)

theorem inCall {run : Run α} {others : World → Run α} (inside : layout.Matches run others) :
    layout.Matches (Run.inCall run) fun world => Run.inCall (others world) := by
  constructor
  rintro machine _ ⟨holds⟩
  rename_i functions
  have entered : layout.Alike { machine with callDepth := machine.callDepth + 1 } fun world =>
      { machine.beside (functions world) (layout.knownIn world) with
        callDepth := machine.callDepth + 1 } :=
    .beside (holds.change rfl rfl)
  refine ends_restored (fun after => { after with callDepth := after.callDepth - 1 })
    (fun _ after => { after with callDepth := after.callDepth - 1 }) (inside.ends entered) ?_
  rintro _ _ ⟨holds⟩
  exact .beside (holds.change rfl rfl)

end Matches

end Layout

end Lox
