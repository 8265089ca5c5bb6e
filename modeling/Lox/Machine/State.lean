/-
The machine that runs programs: the heap, the frame in which the next statement runs, the number of
calls in progress, the distances of all occurrences met so far, the sink and the clock. A run
changes the machine and ends with a result or stops; a machine that stopped is as good to go on with
as one that did not.
-/

import Lox.Machine.Heap
import Lox.Machine.Sink
import Lox.Scope.Walk

namespace Lox

/-! ### The clock -/

/-- What the readings of a clock show, in seconds. Nothing is known of them. -/
class Readings where
  seconds : Nat → Float

/-- Where nothing else is said, readings are a microsecond apart. -/
instance : Readings := ⟨fun reading => Float.ofScientific reading true 6⟩

/-- A clock: its readings, and the number of the next one. -/
structure Clock where
  [readings : Readings]
  reading : Nat

/-- The seconds that a clock shows. -/
def Clock.seconds (clock : Clock) : Float :=
  clock.readings.seconds clock.reading

/-- The clock after it is read. -/
def Clock.next (clock : Clock) : Clock :=
  { clock with reading := clock.reading + 1 }

/-! ### The machine -/

/-- Everything that a run can read or change. -/
structure Machine where
  heap : Heap
  /-- The frame in which the next statement runs. -/
  current : FrameId
  /-- The number of calls in progress. -/
  callDepth : Nat
  distances : Scope.Distances
  sink : Sink
  clock : Clock

/-- A machine before its first program: the clock is the one native function. -/
def Machine.start (capacity : Option Nat) (clock : Clock) : Machine where
  heap := Heap.start.defineNative ⟨"clock", 0, .clock⟩
  current := Heap.globalFrame
  callDepth := 0
  distances := ∅
  sink := .empty capacity
  clock := clock

/-- The machine with further distances. Occurrences are never the same in two programs, so nothing
is lost, and a function of an earlier program keeps its own. -/
def Machine.learn (machine : Machine) (distances : Scope.Distances) : Machine :=
  { machine with
    distances := distances.foldl (fun known reference distance => known.insert reference distance)
      machine.distances }

/-! ### Runs -/

/-- Why a run stops before its end. -/
inductive Stop where
  | error (error : RuntimeError)
  /-- The run was given too little depth to finish. -/
  | exhausted
deriving Repr, DecidableEq

/-- A change of the machine that ends with a result or stops. -/
abbrev Run := EStateM Stop Machine

namespace Run

/-- Stops with a problem at a line. -/
def fail {α : Type} (problem : RuntimeProblem) (line : Nat) : Run α :=
  throw (.error (.located problem line))

/-- Goes on with a result, or stops with an error. -/
def ofExcept {α : Type} : Except RuntimeError α → Run α
  | .ok result => return result
  | .error error => throw (.error error)

/-- Changes the heap. -/
def changeHeap (change : Heap → Heap) : Run Unit :=
  modify fun machine => { machine with heap := change machine.heap }

/-- Adds to the heap, and gives the place of what was added. -/
def allocate (add : Heap → Nat × Heap) : Run Nat :=
  modifyGet fun machine =>
    let (id, heap) := add machine.heap
    (id, { machine with heap })

/-- Binds a name in the current frame. -/
def define (name : String) (value : Value) : Run Unit :=
  modify fun machine =>
    { machine with heap := machine.heap.define machine.current name value }

/-- Runs with another current frame, and puts the present one back however that ends. -/
def within {α : Type} (frame : FrameId) (run : Run α) : Run α := fun machine =>
  let previous := machine.current
  match run { machine with current := frame } with
  | .ok result machine => .ok result { machine with current := previous }
  | .error stop machine => .error stop { machine with current := previous }

/-- Runs with one more call in progress, and counts one call less however that ends. -/
def inCall {α : Type} (run : Run α) : Run α := fun machine =>
  match run { machine with callDepth := machine.callDepth + 1 } with
  | .ok result machine => .ok result { machine with callDepth := machine.callDepth - 1 }
  | .error stop machine => .error stop { machine with callDepth := machine.callDepth - 1 }

/-- Writes text to the sink. -/
def write (text : String) : Run Unit := fun ⟨heap, current, callDepth, distances, sink, clock⟩ =>
  match sink.write text.toUTF8 with
  | (none, sink) => .ok () ⟨heap, current, callDepth, distances, sink, clock⟩
  | (some problem, sink) =>
    .error (.error (.output problem)) ⟨heap, current, callDepth, distances, sink, clock⟩

end Run

end Lox
