/-
The objects of a running program. Every object is put at the end of its part of the heap and stays
there. A class looks for a method in itself and then along its superclasses, all of which were there
before it.
-/

import Lox.Tree
import Lox.Machine.Frames
import Lox.Machine.Host

namespace Lox

/-! ### Objects -/

/-- A function: what was declared, the frame it was declared in, and whether a call of it gives back
its receiver. -/
structure FunctionObject where
  declaration : FunctionDeclaration
  closure : FrameId
  isInitializer : Bool
deriving Inhabited

/-- A class: its own methods, and the class it inherits from. -/
structure ClassObject where
  name : String
  methods : Bindings FunctionId
  superclass : Option ClassId
deriving Inhabited

/-- An instance: its class, and the fields that have been set. -/
structure InstanceObject where
  classId : ClassId
  fields : Bindings Value
deriving Inhabited

/-- What a native function does: read the clock, or what a function of the host does. -/
inductive NativeBody where
  | clock
  | host (function : HostFunction)

/-- A function that is not written in the language. -/
structure NativeFunction where
  name : String
  arity : Nat
  body : NativeBody

/-- A clock without a name stands for any native function. -/
instance : Inhabited NativeFunction := ⟨⟨"", 0, .clock⟩⟩

/-! ### The heap -/

/-- Everything that values and frames refer to by place. -/
structure Heap where
  frames : Frames
  functions : Array FunctionObject
  classes : Array ClassObject
  instances : Array InstanceObject
  natives : Array NativeFunction

namespace Heap

/-- The frame of the global variables. -/
def globalFrame : FrameId := 0

/-- A heap that holds the global frame and nothing else. -/
def start : Heap := ⟨Frames.empty.add none, #[], #[], #[], #[]⟩

/-- The function at a place. -/
def function (heap : Heap) (id : FunctionId) : FunctionObject :=
  heap.functions.getD id default

/-- The class at a place. -/
def classAt (heap : Heap) (id : ClassId) : ClassObject :=
  heap.classes.getD id default

/-- The instance at a place. -/
def instanceAt (heap : Heap) (id : InstanceId) : InstanceObject :=
  heap.instances.getD id default

/-- The native function at a place. -/
def native (heap : Heap) (id : NativeId) : NativeFunction :=
  heap.natives.getD id default

/-! ### Adding objects -/

/-- Adds a frame, and gives its place. -/
def addFrame (heap : Heap) (enclosing : FrameId) : FrameId × Heap :=
  (heap.frames.size, { heap with frames := heap.frames.add (some enclosing) })

/-- Binds a name in a frame. -/
def define (heap : Heap) (frame : FrameId) (name : String) (value : Value) : Heap :=
  { heap with frames := heap.frames.write frame name value }

/-- Binds names in a frame, in order. -/
def defineAll (heap : Heap) (frame : FrameId) (entries : List (String × Value)) : Heap :=
  entries.foldl (fun heap entry => heap.define frame entry.1 entry.2) heap

/-- Adds a function, and gives its place. -/
def addFunction (heap : Heap) (function : FunctionObject) : FunctionId × Heap :=
  (heap.functions.size, { heap with functions := heap.functions.push function })

/-- Adds a class, and gives its place. -/
def addClass (heap : Heap) (object : ClassObject) : ClassId × Heap :=
  (heap.classes.size, { heap with classes := heap.classes.push object })

/-- Adds an instance without fields, and gives its place. -/
def addInstance (heap : Heap) (classId : ClassId) : InstanceId × Heap :=
  (heap.instances.size, { heap with instances := heap.instances.push ⟨classId, .empty⟩ })

/-- Adds a native function and binds its name to it in the global frame. -/
def defineNative (heap : Heap) (native : NativeFunction) : Heap :=
  { heap with natives := heap.natives.push native }.define globalFrame native.name
    (.callable (.native heap.natives.size))

/-- Sets a field of an instance. -/
def setField (heap : Heap) (id : InstanceId) (name : String) (value : Value) : Heap :=
  { heap with
    instances := heap.instances.modify id fun object =>
      { object with fields := object.fields.write name value } }

/-! ### Methods -/

/-- The nearest method of a name along a chain of superclasses; `steps` classes are looked at. -/
def searchMethod? (heap : Heap) (name : String) : Nat → ClassId → Option FunctionId
  | 0, _ => none
  | steps + 1, id =>
    match (heap.classAt id).methods.get? name with
    | some method => some method
    | none =>
      match (heap.classAt id).superclass with
      | some superclass => searchMethod? heap name steps superclass
      | none => none

/-- The method of a name that a class has or inherits. A superclass is older than its subclass, so
the place of the class bounds the chain. -/
def method? (heap : Heap) (id : ClassId) (name : String) : Option FunctionId :=
  heap.searchMethod? name (id + 1) id

/-- The names of a class and its superclasses, nearest first; `steps` classes are looked at. -/
def chainWithin (heap : Heap) : Nat → ClassId → List String
  | 0, _ => []
  | steps + 1, id =>
    (heap.classAt id).name ::
      match (heap.classAt id).superclass with
      | some superclass => chainWithin heap steps superclass
      | none => []

/-- The names of a class and its superclasses, nearest first. -/
def chain (heap : Heap) (id : ClassId) : List String :=
  heap.chainWithin (id + 1) id

/-- Adds a method with its receiver: the same function, closed over a frame that binds `this`. -/
def bindMethod (heap : Heap) (method : FunctionId) (receiver : InstanceId) : FunctionId × Heap :=
  let function := heap.function method
  let (frame, heap) := heap.addFrame function.closure
  (heap.define frame "this" (.object receiver)).addFunction { function with closure := frame }

/-! ### What values look like -/

/-- How many arguments a callable value takes. A class takes those of its initializer. -/
def arity (heap : Heap) : Callable → Nat
  | .native id => (heap.native id).arity
  | .function id => (heap.function id).declaration.arity
  | .method id => (heap.function id).declaration.arity
  | .constructor id =>
    match heap.method? id initializerName with
    | some initializer => (heap.function initializer).declaration.arity
    | none => 0

/-- The text of a function. -/
def functionText (function : FunctionObject) : String :=
  match function.declaration.name with
  | some name => "<fn " ++ name.name ++ ">"
  | none => "<fn anonymous>"

/-- The text of a class. -/
def classText (object : ClassObject) : String :=
  "<class " ++ object.name ++ ">"

/-- The text of a callable value. -/
def callableText (heap : Heap) : Callable → String
  | .native id => "<native fn " ++ (heap.native id).name ++ ">"
  | .function id => functionText (heap.function id)
  | .method id => functionText (heap.function id)
  | .constructor id => classText (heap.classAt id)

/-- The text of a value, which is what `print` writes. -/
def text (heap : Heap) : Value → String
  | .nil => "nil"
  | .boolean true => "true"
  | .boolean false => "false"
  | .number value => Number.display value
  | .string contents => contents
  | .callable callable => heap.callableText callable
  | .object id => classText (heap.classAt (heap.instanceAt id).classId) ++ " instance"

/-- What the heap shows to the host. -/
def view (heap : Heap) : HostView where
  text := heap.text
  arity := heap.arity
  field? id name := (heap.instanceAt id).fields.get? name
  classOf id := (heap.instanceAt id).classId
  superclass? id := (heap.classAt id).superclass
  method? := heap.method?

end Heap

end Lox
