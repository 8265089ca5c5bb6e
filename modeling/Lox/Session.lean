/-
A session runs one source after another on one machine. What a source leaves behind, globals,
functions, instances, stays for the next one, also when the source failed. A source is run only if
nothing is wrong with it before: lexical and syntax errors are reported together, and scope errors
only for a source that has none of these.
-/

import Lox.Evaluation.Evaluate
import Lox.Fault
import Lox.Grammar.Program
import Lox.Scope.Resolve

namespace Lox

/-! ### Outcomes -/

/-- What became of a source, or of a part of it. -/
inductive Outcome (α : Type) where
  | finished (result : α)
  | failed (faults : List Fault)
  /-- The depth to which runs may nest was too small. -/
  | exhausted

/-- A depth that no run can use up. -/
def ampleDepth : Nat := Nat.pow 2 62

/-- A machine, and the next unused reference. -/
structure Session where
  machine : Machine
  nextReference : Reference

namespace Session

/-- A session before its first source. -/
def start (capacity : Option Nat) (clock : Clock) : Session :=
  ⟨.start capacity clock, 0⟩

/-- Everything printed so far. -/
def output (session : Session) : ByteArray :=
  session.machine.sink.bytes

/-- Adds a native function to the globals. -/
def defineNative (session : Session) (native : NativeFunction) : Session :=
  { session with
    machine := { session.machine with heap := session.machine.heap.defineNative native } }

/-- The value of a global variable. -/
def global (session : Session) (name : String) : Except RuntimeError Value :=
  session.machine.heap.frames.get Heap.globalFrame name 0

/-! ### Reading sources -/

/-- The statements of a source, or else its lexical and syntax errors, and the session with the
references of the source used up. -/
def readProgram (session : Session) (source : String) :
    Except (List Fault) (List Statement) × Session :=
  let (tokens, lexical) := Source.scan source
  let (program, nextReference) := Grammar.parseProgram tokens session.nextReference
  let session := { session with nextReference }
  match lexical, program with
  | [], .ok statements => (.ok statements, session)
  | _, .ok _ => (.error (lexical.map .lexical), session)
  | _, .error errors => (.error (lexical.map .lexical ++ errors.map .grammatical), session)

/-- The expression that a source is, or else its lexical errors, or else its syntax error, and the
session with the references of the source used up. -/
def readExpression (session : Session) (source : String) :
    Except (List Fault) Expression × Session :=
  let (tokens, lexical) := Source.scan source
  match lexical with
  | [] =>
    let (expression, nextReference) := Grammar.parseExpression tokens session.nextReference
    let session := { session with nextReference }
    match expression with
    | .ok expression => (.ok expression, session)
    | .error error => (.error [.grammatical error], session)
  | errors => (.error (errors.map .lexical), session)

/-! ### Running -/

/-- The outcome of a run on the machine of a session. -/
def perform {α : Type} (session : Session) (run : Run α) : Outcome α × Session :=
  match run session.machine with
  | .ok result machine => (.finished result, { session with machine })
  | .error (.error error) machine => (.failed [.runtime error], { session with machine })
  | .error .exhausted machine => (.exhausted, { session with machine })

/-- The session with further distances. -/
def learn (session : Session) (distances : Scope.Distances) : Session :=
  { session with machine := session.machine.learn distances }

/-- Runs a source. -/
def run (depth : Nat) (session : Session) (source : String) : Outcome Unit × Session :=
  match session.readProgram source with
  | (.error faults, session) => (.failed faults, session)
  | (.ok statements, session) =>
    match Scope.resolveProgram statements with
    | .error errors => (.failed (errors.map .scoping), session)
    | .ok distances => (session.learn distances).perform (interpret depth statements)

/-- Evaluates a source that is an expression. -/
def evaluate (depth : Nat) (session : Session) (source : String) : Outcome Value × Session :=
  match session.readExpression source with
  | (.error faults, session) => (.failed faults, session)
  | (.ok expression, session) =>
    match Scope.resolveExpression expression with
    | .error errors => (.failed (errors.map .scoping), session)
    | .ok distances => (session.learn distances).perform (Lox.evaluate depth expression)

/-! ### Running unresolved trees -/

/-- Executes statements one by one, going on after errors, with the outcome of each. -/
def executeEach (depth : Nat) (session : Session) :
    List Statement → List (Outcome Flow) × Session
  | [] => ([], session)
  | statement :: others =>
    let (outcome, session) := session.perform (execute depth statement)
    let (outcomes, session) := executeEach depth session others
    (outcome :: outcomes, session)

/-- Executes the statements of a source one by one without resolving them: every name is global. -/
def executeUnresolved (depth : Nat) (session : Session) (source : String) :
    Outcome (List (Outcome Flow)) × Session :=
  match session.readProgram source with
  | (.error faults, session) => (.failed faults, session)
  | (.ok statements, session) =>
    let (outcomes, session) := session.executeEach depth statements
    (.finished outcomes, session)

/-- Runs a source without resolving it and in spite of its lexical errors. -/
def interpretUnresolved (depth : Nat) (session : Session) (source : String) :
    Outcome Unit × Session :=
  let (program, nextReference) :=
    Grammar.parseProgram (Source.scan source).1 session.nextReference
  let session := { session with nextReference }
  match program with
  | .error errors => (.failed (errors.map .grammatical), session)
  | .ok statements => session.perform (interpret depth statements)

/-- The reference of an expression that is an occurrence of a name. -/
def reference? : Expression → Option Reference
  | .read reference _ => some reference
  | .assign reference _ _ => some reference
  | .this reference _ => some reference
  | .super reference _ _ => some reference
  | _ => none

/-- Evaluates a source that is an expression as if its outermost occurrence of a name had been found
at a distance, and nothing else in it had been resolved. -/
def evaluateAt (depth : Nat) (session : Session) (source : String) (distance : Nat) :
    Outcome Value × Session :=
  match session.readExpression source with
  | (.error faults, session) => (.failed faults, session)
  | (.ok expression, session) =>
    let session :=
      match reference? expression with
      | some reference => session.learn {(reference, distance)}
      | none => session
    session.perform (Lox.evaluate depth expression)

end Session

end Lox
