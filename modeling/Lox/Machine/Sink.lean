/-
The sink takes what a program prints, as bytes. One with a capacity keeps the first bytes of the
stream and fails as soon as a byte does not fit; what fitted before stays.
-/

import Lox.Machine.RuntimeError

namespace Lox

/-- The bytes printed so far, and how many there can be. -/
structure Sink where
  bytes : ByteArray
  capacity : Option Nat

namespace Sink

/-- A sink to which nothing has been printed. -/
def empty (capacity : Option Nat) : Sink := ⟨.empty, capacity⟩

/-- How many of `count` further bytes fit. -/
def room (sink : Sink) (count : Nat) : Nat :=
  match sink.capacity with
  | none => count
  | some capacity => min count (capacity - sink.bytes.size)

/-- The sink after some bytes are written, with the problem if not all of them fit. -/
def write (sink : Sink) (bytes : ByteArray) : Option OutputProblem × Sink :=
  let fitting := sink.room bytes.size
  if fitting < bytes.size then
    (some .sinkFull, { sink with bytes := sink.bytes ++ bytes.extract 0 fitting })
  else
    (none, { sink with bytes := sink.bytes ++ bytes })

end Sink

end Lox
