/-
Frames hold the variables of a running program. A frame is enclosed by another one or by none, and
the frames together are a forest that only grows: a frame encloses only frames made after it, and
what encloses a frame never changes. A name can be looked for outward from a frame, or in the frame
a given number of links out.
-/

import Lox.Bindings
import Lox.Value
import Lox.Machine.RuntimeError

namespace Lox

/-! ### Frames -/

/-- The variables of one scope in one activation. -/
structure Frame where
  bindings : Bindings Value
  enclosing : Option FrameId

/-- All frames made so far, each known by its place. -/
structure Frames where
  all : Array Frame

namespace Frames

/-- No frames. -/
def empty : Frames := ⟨#[]⟩

/-- How many frames there are; the next one gets this place. -/
def size (frames : Frames) : Nat :=
  frames.all.size

/-- The frame at a place. -/
def frame? (frames : Frames) (id : FrameId) : Option Frame :=
  frames.all[id]?

/-- The frames with a new one that binds nothing, at the end. -/
def add (frames : Frames) (enclosing : Option FrameId) : Frames :=
  ⟨frames.all.push ⟨.empty, enclosing⟩⟩

/-- The frame that encloses a frame. -/
def enclosing? (frames : Frames) (id : FrameId) : Option FrameId :=
  (frames.frame? id).bind Frame.enclosing

/-- The value that a frame itself gives a name. -/
def read? (frames : Frames) (id : FrameId) (name : String) : Option Value :=
  (frames.frame? id).bind fun frame => frame.bindings.get? name

/-- The frames with a name bound in one of them, whether it was bound there before or not. -/
def write (frames : Frames) (id : FrameId) (name : String) (value : Value) : Frames :=
  ⟨frames.all.modify id fun frame => { frame with bindings := frame.bindings.write name value }⟩

/-! ### What adding and writing change -/

/-- An added frame is one more. -/
@[simp] theorem size_add (frames : Frames) (enclosing : Option FrameId) :
    (frames.add enclosing).size = frames.size + 1 := by
  simp [size, add]

/-- Writing makes no frame. -/
@[simp] theorem size_write (frames : Frames) (id : FrameId) (name : String) (value : Value) :
    (frames.write id name value).size = frames.size := by
  simp [size, write]

/-- An added frame stands at the end, and the others stay where they are. -/
theorem frame?_add (frames : Frames) (enclosing : Option FrameId) (id : FrameId) :
    (frames.add enclosing).frame? id =
      if id = frames.size then some ⟨.empty, enclosing⟩ else frames.frame? id := by
  unfold frame? add size
  exact Array.getElem?_push

/-- Writing changes the bindings of one frame. -/
theorem frame?_write (frames : Frames) (id other : FrameId) (name : String) (value : Value) :
    (frames.write id name value).frame? other =
      if id = other then
        (frames.frame? other).map fun frame =>
          { frame with bindings := frame.bindings.write name value }
      else frames.frame? other := by
  simp [frame?, write, Array.getElem?_modify]

/-- Writing leaves every frame enclosed as it was. -/
@[simp] theorem enclosing?_write (frames : Frames) (id other : FrameId) (name : String)
    (value : Value) : (frames.write id name value).enclosing? other = frames.enclosing? other := by
  unfold enclosing?
  rw [frame?_write]
  split
  · cases frames.frame? other <;> rfl
  · rfl

/-- Writing gives one name of one frame the value, if there is such a frame. -/
theorem read?_write (frames : Frames) (id other : FrameId) (name wanted : String) (value : Value) :
    (frames.write id name value).read? other wanted =
      if id = other ∧ wanted = name ∧ (frames.frame? other).isSome then some value
      else frames.read? other wanted := by
  unfold read?
  rw [frame?_write]
  cases found : frames.frame? other with
  | none => simp
  | some frame =>
    by_cases same : id = other <;> by_cases sameName : wanted = name <;>
      simp [same, sameName, Bindings.get?_write]

/-! ### Looking outward -/

/-- The nearest frame outward that binds a name, with the value; `steps` frames are looked at. -/
def search? (frames : Frames) (name : String) : Nat → FrameId → Option (FrameId × Value)
  | 0, _ => none
  | steps + 1, id =>
    match frames.read? id name with
    | some value => some (id, value)
    | none =>
      match frames.enclosing? id with
      | some outer => search? frames name steps outer
      | none => none

/-- The nearest frame outward that binds a name. Places fall along the way outward, so there are no
more frames to look at than the place of the first one tells. -/
def nearest? (frames : Frames) (id : FrameId) (name : String) : Option (FrameId × Value) :=
  frames.search? name (id + 1) id

/-- Reports that a name is bound nowhere on the way outward. -/
def unbound {α : Type} (name : String) (line : Nat) : Except RuntimeError α :=
  .error (.located (.undefinedVariable name) line)

/-- The value of a name, looked for outward. -/
def get (frames : Frames) (id : FrameId) (name : String) (line : Nat) :
    Except RuntimeError Value :=
  match frames.nearest? id name with
  | some (_, value) => .ok value
  | none => unbound name line

/-- The nearest frame that binds a name, looked for outward. -/
def holder (frames : Frames) (id : FrameId) (name : String) (line : Nat) :
    Except RuntimeError FrameId :=
  match frames.nearest? id name with
  | some (holder, _) => .ok holder
  | none => unbound name line

/-- The frames with a name given another value where it is bound, looked for outward. -/
def assign (frames : Frames) (id : FrameId) (name : String) (value : Value) (line : Nat) :
    Except RuntimeError Frames :=
  (frames.holder id name line).map fun holder => frames.write holder name value

/-! ### A given number of links out -/

/-- The frame `distance` links out, if the chain is that long. -/
def ancestor? (frames : Frames) (id : FrameId) : Nat → Option FrameId
  | 0 => some id
  | distance + 1 =>
    match frames.enclosing? id with
    | some outer => ancestor? frames outer distance
    | none => none

/-- The value of a name in the frame `distance` links out. -/
def getAt (frames : Frames) (id : FrameId) (distance : Nat) (name : String) (line : Nat) :
    Except RuntimeError Value :=
  match (frames.ancestor? id distance).bind fun holder => frames.read? holder name with
  | some value => .ok value
  | none => unbound name line

/-- The frame `distance` links out, in which a name is to be bound. -/
def holderAt (frames : Frames) (id : FrameId) (distance : Nat) (name : String) (line : Nat) :
    Except RuntimeError FrameId :=
  match frames.ancestor? id distance with
  | some holder => .ok holder
  | none => unbound name line

/-- The frames with a name bound in the frame `distance` links out. -/
def assignAt (frames : Frames) (id : FrameId) (distance : Nat) (name : String) (value : Value)
    (line : Nat) : Except RuntimeError Frames :=
  (frames.holderAt id distance name line).map fun holder => frames.write holder name value

end Frames

end Lox
