/-
A variable is reached on two paths: link by link until a frame binds the name, or straight in the
frame that is known to be so many links out. In every forest that is made frame by frame both paths
lead to the same slot, so they read the same value and write the same frames. A slot that is written
is seen from every frame whose nearest binding it is, however the frame is reached, and from no
other one.
-/

import Lox.Proofs.Run.Lasting

namespace Lox

namespace Frames

variable {frames after : Frames} {id holder : FrameId} {name : String} {value : Value}
  {distance : Nat}

/-! ### Forests -/

/-- A forest is made frame by frame: each new frame is enclosed by none or by one that is there, and
names are bound in frames that are there or given other values. -/
inductive Made : Frames → Prop
  | empty : Made .empty
  | new {frames : Frames} : Made frames → Made (frames.add none)
  | child {frames : Frames} {id : FrameId} : Made frames → id < frames.size →
    Made (frames.add (some id))
  | define {frames : Frames} {id : FrameId} (name : String) (value : Value) : Made frames →
    id < frames.size → Made (frames.write id name value)
  | assign {frames after : Frames} {id : FrameId} {name : String} {value : Value} {line : Nat} :
    Made frames → id < frames.size → frames.assign id name value line = .ok after → Made after
  | assignAt {frames after : Frames} {id : FrameId} {distance : Nat} {name : String}
    {value : Value} {line : Nat} : Made frames → id < frames.size →
    frames.assignAt id distance name value line = .ok after → Made after

/-- What assigning leaves was written somewhere. -/
theorem write_of_map {found : Except RuntimeError FrameId}
    (assigned : (found.map fun holder => frames.write holder name value) = .ok after) :
    ∃ holder, after = frames.write holder name value := by
  cases found with
  | ok holder => exact ⟨holder, (Except.ok.inj assigned).symm⟩
  | error error => exact nomatch assigned

/-- In a forest that is made, a frame is enclosed by an older one. -/
theorem Made.older (made : frames.Made) {id outer : FrameId}
    (enclosed : frames.enclosing? id = some outer) : outer < id := by
  induction made with
  | empty => exact absurd (lt_size_of_enclosing? enclosed) (Nat.not_lt_zero _)
  | new _ inductionHypothesis =>
    rw [enclosing?_add] at enclosed
    split at enclosed
    · exact nomatch enclosed
    · exact inductionHypothesis enclosed
  | child _ present inductionHypothesis =>
    rw [enclosing?_add] at enclosed
    split at enclosed
    · rename_i added
      cases enclosed
      exact added ▸ present
    · exact inductionHypothesis enclosed
  | define _ _ _ _ inductionHypothesis =>
    rw [enclosing?_write] at enclosed
    exact inductionHypothesis enclosed
  | assign _ _ assigned inductionHypothesis | assignAt _ _ assigned inductionHypothesis =>
    obtain ⟨holder, rfl⟩ := write_of_map assigned
    rw [enclosing?_write] at enclosed
    exact inductionHypothesis enclosed

/-! ### Links outward -/

/-- Some links and then some more are all of them together. -/
theorem ancestor?_append (frames : Frames) (id : FrameId) (first second : Nat) :
    frames.ancestor? id (first + second) =
      (frames.ancestor? id first).bind fun outer => frames.ancestor? outer second := by
  induction first generalizing id with
  | zero => rw [Nat.zero_add]; rfl
  | succ first inductionHypothesis =>
    rw [Nat.succ_add, ancestor?, ancestor?]
    cases frames.enclosing? id with
    | none => rfl
    | some outer => exact inductionHypothesis outer

/-- Beyond the end of a chain there is nothing. -/
theorem ancestor?_none_of_le {far : Nat} (absent : frames.ancestor? id distance = none)
    (further : distance ≤ far) : frames.ancestor? id far = none := by
  obtain ⟨more, rfl⟩ := Nat.exists_eq_add_of_le further
  rw [ancestor?_append, absent]
  rfl

/-- Writing changes no link. -/
theorem ancestor?_write (frames : Frames) (frame id : FrameId) (name : String) (value : Value)
    (distance : Nat) :
    (frames.write frame name value).ancestor? id distance = frames.ancestor? id distance := by
  induction distance generalizing id with
  | zero => rfl
  | succ distance inductionHypothesis =>
    rw [ancestor?, ancestor?, enclosing?_write]
    cases frames.enclosing? id with
    | none => rfl
    | some outer => exact inductionHypothesis outer

/-- A chain has an end: as many links out as it is long there is a frame that nothing encloses. -/
theorem exists_outermost
    (older : ∀ {id outer}, frames.enclosing? id = some outer → outer < id) (id : FrameId) :
    ∃ length outermost, frames.ancestor? id length = some outermost ∧
      frames.enclosing? outermost = none := by
  induction id using Nat.strongRecOn with
  | ind id inductionHypothesis =>
    cases enclosed : frames.enclosing? id with
    | none => exact ⟨0, id, rfl, enclosed⟩
    | some outer =>
      obtain ⟨length, outermost, isOuter, last⟩ := inductionHypothesis outer (older enclosed)
      refine ⟨length + 1, outermost, ?_, last⟩
      rw [ancestor?, enclosed]
      exact isOuter

/-- A chain goes as far as its end and no further. -/
theorem isSome_ancestor?_iff {outermost : FrameId} {length : Nat}
    (isOuter : frames.ancestor? id length = some outermost)
    (last : frames.enclosing? outermost = none) (distance : Nat) :
    (frames.ancestor? id distance).isSome ↔ distance ≤ length := by
  have beyond : frames.ancestor? id (length + 1) = none := by
    rw [ancestor?_append, isOuter, Option.bind_some, ancestor?, last]
  refine ⟨fun isThere => Nat.not_lt.mp fun further => ?_, fun within => ?_⟩
  · rw [ancestor?_none_of_le beyond further] at isThere
    cases isThere
  · cases absent : frames.ancestor? id distance with
    | some _ => rfl
    | none => cases (ancestor?_none_of_le absent within).symm.trans isOuter

/-! ### The nearest binding -/

/-- So many links out from a frame there is one that binds a name, and no nearer one does. -/
structure Nearest (frames : Frames) (id : FrameId) (name : String) (distance : Nat)
    (holder : FrameId) : Prop where
  ancestor : frames.ancestor? id distance = some holder
  bound : (frames.read? holder name).isSome
  nearer : ∀ links < distance, ∀ frame, frames.ancestor? id links = some frame →
    frames.read? frame name = none

/-- However many links out from a frame, none binds a name. -/
def Nowhere (frames : Frames) (id : FrameId) (name : String) : Prop :=
  ∀ links frame, frames.ancestor? id links = some frame → frames.read? frame name = none

/-- A frame that binds a name is the nearest one itself. -/
theorem Nearest.here (bound : (frames.read? id name).isSome) : frames.Nearest id name 0 id :=
  ⟨rfl, bound, fun _ fewer => absurd fewer (Nat.not_lt_zero _)⟩

/-- From a frame that does not bind a name, what is nearest outward is nearest. -/
theorem Nearest.outward {outer : FrameId} (nearest : frames.Nearest outer name distance holder)
    (unbound : frames.read? id name = none) (enclosed : frames.enclosing? id = some outer) :
    frames.Nearest id name (distance + 1) holder := by
  refine ⟨?_, nearest.bound, fun links fewer frame isOuter => ?_⟩
  · rw [ancestor?, enclosed]
    exact nearest.ancestor
  · cases links with
    | zero =>
      cases isOuter
      exact unbound
    | succ links =>
      rw [ancestor?, enclosed] at isOuter
      exact nearest.nearer links (Nat.lt_of_succ_lt_succ fewer) frame isOuter

/-- One link out from a frame that is not the nearest one, one link less is to go. -/
theorem Nearest.inner (nearest : frames.Nearest id name (distance + 1) holder) :
    ∃ outer, frames.read? id name = none ∧ frames.enclosing? id = some outer ∧
      frames.Nearest outer name distance holder := by
  obtain ⟨isOuter, bound, nearer⟩ := nearest
  rw [ancestor?] at isOuter
  cases enclosed : frames.enclosing? id with
  | none =>
    rw [enclosed] at isOuter
    cases isOuter
  | some outer =>
    rw [enclosed] at isOuter
    refine ⟨outer, nearer 0 (Nat.succ_pos _) id rfl, rfl, isOuter, bound,
      fun links fewer frame isFrame => nearer (links + 1) (Nat.succ_lt_succ fewer) frame ?_⟩
    rw [ancestor?, enclosed]
    exact isFrame

/-- Looking outward link by link ends at the nearest binding. -/
theorem Nearest.looks (nearest : frames.Nearest id name distance holder)
    (bound : frames.read? holder name = some value) :
    frames.Looks name id (some (holder, value)) := by
  induction distance generalizing id with
  | zero =>
    obtain ⟨isOuter, _, _⟩ := nearest
    cases isOuter
    exact .here bound
  | succ distance inductionHypothesis =>
    obtain ⟨outer, unbound, enclosed, rest⟩ := nearest.inner
    exact .outward unbound enclosed (inductionHypothesis rest)

/-- What looking outward finds is the nearest binding. -/
theorem Looks.nearest (looks : frames.Looks name id (some (holder, value))) :
    frames.read? holder name = some value ∧ ∃ distance, frames.Nearest id name distance holder := by
  generalize found : some (holder, value) = answer at looks
  induction looks with
  | here bound =>
    cases found
    exact ⟨bound, 0, .here (bound ▸ rfl)⟩
  | outward unbound enclosed _ inductionHypothesis =>
    obtain ⟨bound, distance, nearest⟩ := inductionHypothesis found
    exact ⟨bound, distance + 1, nearest.outward unbound enclosed⟩
  | nowhere => exact nomatch found

/-- What looking outward does not find is bound nowhere. -/
theorem Looks.bound_nowhere (looks : frames.Looks name id none) : frames.Nowhere id name := by
  generalize found : none = answer at looks
  induction looks with
  | here => cases found
  | outward unbound enclosed _ inductionHypothesis =>
    intro links frame isOuter
    cases links with
    | zero =>
      cases isOuter
      exact unbound
    | succ links =>
      rw [ancestor?, enclosed] at isOuter
      exact inductionHypothesis found links frame isOuter
  | nowhere unbound outermost =>
    intro links frame isOuter
    cases links with
    | zero =>
      cases isOuter
      exact unbound
    | succ links =>
      rw [ancestor?, outermost] at isOuter
      cases isOuter

/-- A name has one nearest binding. -/
theorem Nearest.unique (nearest : frames.Nearest id name distance holder) {other : Nat}
    {frame : FrameId} (also : frames.Nearest id name other frame) :
    other = distance ∧ frame = holder := by
  have same : other = distance := by
    rcases Nat.lt_trichotomy other distance with fewer | same | more
    · have bound := also.bound
      rw [nearest.nearer other fewer frame also.ancestor] at bound
      exact nomatch bound
    · exact same
    · have bound := nearest.bound
      rw [also.nearer distance more holder nearest.ancestor] at bound
      exact nomatch bound
  subst same
  exact ⟨rfl, Option.some.inj (also.ancestor.symm.trans nearest.ancestor)⟩

theorem Nearest.not_nowhere (nearest : frames.Nearest id name distance holder) :
    ¬frames.Nowhere id name := by
  intro nowhere
  have bound := nearest.bound
  rw [nowhere distance holder nearest.ancestor] at bound
  exact nomatch bound

/-! ### Both paths -/

section

variable (older : ∀ {id outer}, frames.enclosing? id = some outer → outer < id)

include older

/-- A name is bound nearest somewhere, or nowhere. -/
theorem nearest_or_nowhere (id : FrameId) (name : String) :
    (∃ distance holder, frames.Nearest id name distance holder) ∨ frames.Nowhere id name := by
  have looks := (looks_iff older id name _).mpr rfl
  cases found : frames.nearest? id name with
  | some slot =>
    rw [found] at looks
    obtain ⟨_, distance, nearest⟩ := looks.nearest
    exact .inl ⟨distance, slot.1, nearest⟩
  | none =>
    rw [found] at looks
    exact .inr looks.bound_nowhere

theorem Nearest.nearest? (nearest : frames.Nearest id name distance holder)
    (bound : frames.read? holder name = some value) :
    frames.nearest? id name = some (holder, value) :=
  (looks_iff older id name _).mp (nearest.looks bound)

theorem Nearest.get (nearest : frames.Nearest id name distance holder)
    (bound : frames.read? holder name = some value) (line : Nat) :
    frames.get id name line = .ok value := by
  unfold Frames.get
  rw [nearest.nearest? older bound]

theorem Nearest.assign (nearest : frames.Nearest id name distance holder) (value : Value)
    (line : Nat) : frames.assign id name value line = .ok (frames.write holder name value) := by
  obtain ⟨old, bound⟩ := Option.isSome_iff_exists.mp nearest.bound
  unfold Frames.assign Frames.holder
  rw [nearest.nearest? older bound]
  rfl

theorem Nowhere.nearest? (nowhere : frames.Nowhere id name) : frames.nearest? id name = none := by
  cases found : frames.nearest? id name with
  | none => rfl
  | some slot =>
    obtain ⟨_, distance, nearest⟩ := ((looks_iff older id name _).mpr found).nearest
    exact absurd nowhere nearest.not_nowhere

theorem Nowhere.get (nowhere : frames.Nowhere id name) (line : Nat) :
    frames.get id name line = unbound name line := by
  unfold Frames.get
  rw [nowhere.nearest? older]

theorem Nowhere.holder_eq (nowhere : frames.Nowhere id name) (line : Nat) :
    frames.holder id name line = unbound name line := by
  unfold Frames.holder
  rw [nowhere.nearest? older]

theorem Nowhere.assign (nowhere : frames.Nowhere id name) (value : Value) (line : Nat) :
    frames.assign id name value line = unbound name line := by
  unfold Frames.assign
  rw [nowhere.holder_eq older]
  rfl

end

theorem Nearest.assignAt (nearest : frames.Nearest id name distance holder) (value : Value)
    (line : Nat) :
    frames.assignAt id distance name value line = .ok (frames.write holder name value) := by
  unfold Frames.assignAt holderAt
  rw [nearest.ancestor]
  rfl

/-! ### What a written slot shows -/

/-- Writing a name where it is bound binds no name anywhere else. -/
theorem isSome_read?_write (bound : (frames.read? holder name).isSome) (id : FrameId)
    (wanted : String) :
    ((frames.write holder name value).read? id wanted).isSome =
      (frames.read? id wanted).isSome := by
  rw [read?_write]
  split
  · rename_i same
    rw [← same.1, same.2.1, bound]
    rfl
  · rfl

theorem read?_write_none_iff (bound : (frames.read? holder name).isSome) {wanted : String} :
    (frames.write holder name value).read? id wanted = none ↔ frames.read? id wanted = none := by
  rw [← Option.not_isSome_iff_eq_none, ← Option.not_isSome_iff_eq_none, isSome_read?_write bound]

/-- Writing a name where it is bound moves no nearest binding. -/
theorem nearest_write_iff (bound : (frames.read? holder name).isSome) {wanted : String}
    {frame : FrameId} :
    (frames.write holder name value).Nearest id wanted distance frame ↔
      frames.Nearest id wanted distance frame := by
  constructor
  · rintro ⟨isOuter, isBound, nearer⟩
    rw [isSome_read?_write bound] at isBound
    refine ⟨ancestor?_write .. ▸ isOuter, isBound, fun links fewer frame isFrame => ?_⟩
    exact (read?_write_none_iff bound).mp
      (nearer links fewer frame ((ancestor?_write ..).trans isFrame))
  · rintro ⟨isOuter, isBound, nearer⟩
    refine ⟨(ancestor?_write ..).trans isOuter, (isSome_read?_write bound _ _).trans isBound,
      fun links fewer frame isFrame => ?_⟩
    exact (read?_write_none_iff bound).mpr
      (nearer links fewer frame ((ancestor?_write ..).symm.trans isFrame))

/-- A name is nowhere bound after writing another slot if it was nowhere bound before. -/
theorem Nowhere.write (nowhere : frames.Nowhere id name) {wanted : String}
    (bound : (frames.read? holder wanted).isSome) :
    (frames.write holder wanted value).Nowhere id name := by
  intro links frame isFrame
  rw [ancestor?_write] at isFrame
  exact (read?_write_none_iff bound).mpr (nowhere links frame isFrame)

/-- The value at the slot is the new one, and every other slot keeps its value. -/
theorem read?_write_bound (bound : (frames.read? holder name).isSome) :
    (frames.write holder name value).read? holder name = some value := by
  obtain ⟨old, bound⟩ := Option.isSome_iff_exists.mp bound
  exact read?_write_self (lt_size_of_read? bound)

theorem read?_write_elsewhere {wanted : String} (elsewhere : ¬(id = holder ∧ wanted = name)) :
    (frames.write holder name value).read? id wanted = frames.read? id wanted := by
  rw [read?_write, if_neg]
  rintro ⟨rfl, rfl, _⟩
  exact elsewhere ⟨rfl, rfl⟩

section

variable (older : ∀ {id outer}, frames.enclosing? id = some outer → outer < id)
  (bound : (frames.read? holder name).isSome)

include older bound

/-- The new value is read wherever the slot is the nearest one. -/
theorem Nearest.get_write {other : FrameId} (nearest : frames.Nearest other name distance holder)
    (line : Nat) : (frames.write holder name value).get other name line = .ok value := by
  refine Nearest.get (fun enclosed => ?_) ((nearest_write_iff bound).mpr nearest)
    (read?_write_bound bound) line
  exact older ((enclosing?_write ..).symm.trans enclosed)

/-- A name whose nearest binding is another slot is read as before, and so is one that is nowhere
bound. -/
theorem get_write_elsewhere {other : FrameId} {wanted : String}
    (elsewhere : ¬(wanted = name ∧ ∃ links, frames.Nearest other name links holder))
    (line : Nat) :
    (frames.write holder name value).get other wanted line = frames.get other wanted line := by
  have olderAfter {id outer : FrameId}
      (enclosed : (frames.write holder name value).enclosing? id = some outer) : outer < id :=
    older ((enclosing?_write ..).symm.trans enclosed)
  rcases nearest_or_nowhere older other wanted with ⟨links, slot, nearest⟩ | nowhere
  · obtain ⟨found, isBound⟩ := Option.isSome_iff_exists.mp nearest.bound
    have untouched : ¬(slot = holder ∧ wanted = name) := by
      rintro ⟨rfl, rfl⟩
      exact elsewhere ⟨rfl, links, nearest⟩
    rw [nearest.get older isBound]
    exact Nearest.get olderAfter ((nearest_write_iff bound).mpr nearest)
      ((read?_write_elsewhere untouched).trans isBound) line
  · rw [nowhere.get older]
    exact Nowhere.get olderAfter (nowhere.write bound) line

end

/-- Where a number of links out does not lead to the slot, nothing changes on this path either. -/
theorem getAt_write_elsewhere {other : FrameId} {links : Nat} {wanted : String}
    (elsewhere : ¬(wanted = name ∧ frames.ancestor? other links = some holder)) (line : Nat) :
    (frames.write holder name value).getAt other links wanted line =
      frames.getAt other links wanted line := by
  unfold getAt
  rw [ancestor?_write]
  cases isOuter : frames.ancestor? other links with
  | none => rfl
  | some slot =>
    rw [isOuter] at elsewhere
    rw [Option.bind_some, Option.bind_some, read?_write_elsewhere]
    rintro ⟨rfl, rfl⟩
    exact elsewhere ⟨rfl, rfl⟩

/-- One slot, where a name is bound, has got another value. Every link is as it was. The name is
read with the new value from each frame whose nearest binding is that very slot, link by link and
straight; every other name, and the same one from any other frame, is read as before. -/
structure Rewrites (before after : Frames) (holder : FrameId) (name : String) (new : Value) :
    Prop where
  size : after.size = before.size
  enclosing : ∀ id, after.enclosing? id = before.enclosing? id
  slots : ∀ id wanted, after.read? id wanted =
    if id = holder ∧ wanted = name then some new else before.read? id wanted
  seen : ∀ id links line, before.Nearest id name links holder →
    after.get id name line = .ok new ∧ after.getAt id links name line = .ok new
  unseen : ∀ id wanted line, ¬(wanted = name ∧ ∃ links, before.Nearest id name links holder) →
    after.get id wanted line = before.get id wanted line
  unseenAt : ∀ id links wanted line,
    ¬(wanted = name ∧ before.ancestor? id links = some holder) →
      after.getAt id links wanted line = before.getAt id links wanted line

/-- Writing a name where it is bound gives that slot another value. -/
theorem rewrites_write
    (older : ∀ {id outer}, frames.enclosing? id = some outer → outer < id)
    (bound : (frames.read? holder name).isSome) (new : Value) :
    frames.Rewrites (frames.write holder name new) holder name new where
  size := size_write ..
  enclosing _ := enclosing?_write ..
  slots id wanted := by
    split
    · rename_i same
      rw [same.1, same.2, read?_write_bound bound]
    · rename_i elsewhere
      exact read?_write_elsewhere elsewhere
  seen id links line nearest :=
    ⟨nearest.get_write older bound line,
      getAt_of_ancestor? ((ancestor?_write ..).trans nearest.ancestor) (read?_write_bound bound)⟩
  unseen _ _ line elsewhere := get_write_elsewhere older bound elsewhere line
  unseenAt _ _ _ line elsewhere := getAt_write_elsewhere elsewhere line

end Frames

/-! ### Running programs -/

/-- The frames of a running program are such a forest. -/
theorem Machine.Reached.made {dialect : Dialect} {machine : Machine}
    (reached : machine.Reached dialect) : machine.heap.frames.Made := by
  obtain ⟨capacity, clock, chain⟩ := reached
  induction chain with
  | refl => exact .define "clock" _ (.new .empty) Nat.zero_lt_one
  | tail _ change made =>
    cases change with
    | heap change =>
      cases change with
      | define present _ _ => exact .define _ _ made present
      | addFrame present => exact .child made present
      | _ => exact made
    | move _ => exact made
    | aside sameHeap _ => exact sameHeap ▸ made

namespace Frames

/-- In every forest that is made frame by frame, and so in every state of a running program, each
name has one nearest binding from a frame, or none. If there is one, the slot that is found link by
link is the one in the frame so many links out: both paths read the same value, and both can assign
and leave the same forest, in which that slot has the new value.

If there is none, reading and assigning report the name as undefined, and an assignment in a running
program changes nothing. Links add up, and no frame is found beyond the end of a chain. -/
theorem paths_agree :
    (∀ machine : Machine, machine.Reached .everything → machine.heap.frames.Made) ∧
    ∀ frames : Frames, frames.Made →
      (∀ id name distance holder, frames.Nearest id name distance holder →
        (∀ other frame, frames.Nearest id name other frame → other = distance ∧ frame = holder) ∧
        (∃ value, frames.read? holder name = some value ∧ ∀ line,
          frames.get id name line = .ok value ∧ frames.getAt id distance name line = .ok value) ∧
        ∀ new, ∃ after, after.Made ∧ frames.Rewrites after holder name new ∧ ∀ line,
          frames.assign id name new line = .ok after ∧
            frames.assignAt id distance name new line = .ok after) ∧
      (∀ id name, frames.Nowhere id name ↔
        ¬∃ distance holder, frames.Nearest id name distance holder) ∧
      (∀ id name line, frames.Nowhere id name →
        frames.get id name line = .error (.located (.undefinedVariable name) line) ∧
          ∀ new, frames.assign id name new line =
            .error (.located (.undefinedVariable name) line)) ∧
      (∀ (machine : Machine) reference (name : Identifier) new, machine.heap.frames = frames →
        machine.distances[reference]? = none → frames.Nowhere Heap.globalFrame name.name →
          Evaluator.assign reference name new machine =
            .error (.error (.located (.undefinedVariable name.name) name.line)) machine) ∧
      (∀ id first second, frames.ancestor? id (first + second) =
        (frames.ancestor? id first).bind fun outer => frames.ancestor? outer second) ∧
      ∀ id, ∃ length outermost, frames.ancestor? id length = some outermost ∧
        frames.enclosing? outermost = none ∧
        ∀ distance, (frames.ancestor? id distance).isSome ↔ distance ≤ length := by
  refine ⟨fun machine reached => reached.made, fun frames made => ?_⟩
  have older {id outer : FrameId} (enclosed : frames.enclosing? id = some outer) : outer < id :=
    made.older enclosed
  refine ⟨fun id name distance holder nearest => ?_, fun id name => ?_,
    fun id name line nowhere => ⟨nowhere.get older line, fun new => nowhere.assign older new line⟩,
    fun machine reference name new same unresolved nowhere => ?_, frames.ancestor?_append,
    fun id => ?_⟩
  · have bound := nearest.bound
    obtain ⟨value, isValue⟩ := Option.isSome_iff_exists.mp bound
    refine ⟨fun _ _ => nearest.unique, ⟨value, isValue, fun line => ?_⟩, fun new => ?_⟩
    · exact ⟨nearest.get older isValue line, getAt_of_ancestor? nearest.ancestor isValue⟩
    · exact ⟨frames.write holder name new, .define name new made (lt_size_of_read? isValue),
        rewrites_write older bound new,
        fun line => ⟨nearest.assign older new line, nearest.assignAt new line⟩⟩
  · refine ⟨fun nowhere ⟨_, _, nearest⟩ => nearest.not_nowhere nowhere, fun none => ?_⟩
    exact (nearest_or_nowhere older id name).resolve_left none
  · subst same
    have stuck : Evaluator.holder reference name machine =
        .error (.error (.located (.undefinedVariable name.name) name.line)) machine := by
      unfold Evaluator.holder
      refine (bind_ok rfl).trans ?_
      rw [unresolved, nowhere.holder_eq older]
      rfl
    exact bind_error stuck
  · obtain ⟨length, outermost, isOuter, last⟩ := exists_outermost older id
    exact ⟨length, outermost, isOuter, last, isSome_ancestor?_iff isOuter last⟩

/-- Of two frames with one frame around them, one binds the name anew and has a frame inside. An
assignment through the other one is seen from all but these two. -/
theorem paths_agree_shadowed :
    ∃ frames after : Frames, frames.Made ∧
      frames.Nearest 1 "x" 1 0 ∧ frames.Nearest 3 "x" 1 2 ∧ frames.Nowhere 3 "y" ∧
      frames.assign 1 "x" .nil 7 = .ok after ∧ frames.assignAt 1 1 "x" .nil 7 = .ok after ∧
      after.get 0 "x" 7 = .ok .nil ∧ after.get 3 "x" 7 = frames.get 3 "x" 7 ∧
      frames.get 3 "x" 7 = .ok (.boolean false) ∧
      frames.get 3 "y" 7 = .error (.located (.undefinedVariable "y") 7) ∧
      (Machine.start none ⟨0⟩).heap.frames.Made := by
  let outer : Frames := (Frames.empty.add none).write 0 "x" (.boolean true)
  let frames : Frames :=
    (((outer.add (some 0)).add (some 0)).write 2 "x" (.boolean false)).add (some 2)
  have made : frames.Made :=
    .child (.define _ _ (.child (.child (.define _ _ (.new .empty) (by decide)) (by decide))
      (by decide)) (by decide)) (by decide)
  have root : frames.Nearest 0 "x" 0 0 := .here rfl
  have through : frames.Nearest 1 "x" 1 0 := root.outward rfl rfl
  have shadow : frames.Nearest 2 "x" 0 2 := .here rfl
  have inside : frames.Nearest 3 "x" 1 2 := shadow.outward rfl rfl
  obtain ⟨running, agree⟩ := paths_agree
  obtain ⟨slots, _, undefined, _, _, _⟩ := agree frames made
  have nowhere : frames.Nowhere 3 "y" := ((looks_iff made.older 3 "y" none).mpr rfl).bound_nowhere
  obtain ⟨_, _, writes⟩ := slots 1 "x" 1 0 through
  obtain ⟨after, _, rewrites, assigned⟩ := writes .nil
  have elsewhere : ¬("x" = "x" ∧ ∃ links, frames.Nearest 3 "x" links 0) := by
    rintro ⟨_, links, nearest⟩
    exact absurd (inside.unique nearest).2 (by decide)
  exact ⟨frames, after, made, through, inside, nowhere, (assigned 7).1, (assigned 7).2,
    (rewrites.seen 0 0 7 root).1, rewrites.unseen 3 "x" 7 elsewhere, rfl,
    (undefined 3 "y" 7 nowhere).1, running _ ⟨none, ⟨0⟩, .refl _⟩⟩

end Frames

end Lox
