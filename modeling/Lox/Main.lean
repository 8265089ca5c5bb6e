/-
The program on the command line. It reads the named file, or lines from the input, and writes what
the library says; the clock of a session starts at the time of day.
-/

import Lox.CommandLine
import Std.Time.DateTime.Timestamp

namespace Lox.CommandLine

/-- What is found where the host reports an error; the host's error numbers are negated. -/
def contentsOfError (error : IO.Error) : FileContents :=
  match error with
  | .noFileOrDirectory .. => .unopened .missing
  | .permissionDenied .. => .unopened .denied
  | .inappropriateType _ code _ => if code = 0 - 20 then .unopened .notDirectory else .directory
  | .invalidArgument _ code _ =>
    .unopened (if code = 0 - 36 then .nameTooLong else .other (toString error))
  | error => .unopened (.other (toString error))

/-- What is found under the name of a file. -/
def lookUpFile (name : String) : IO FileContents := do
  match ← (IO.FS.readBinFile name).toBaseIO with
  | .ok bytes => return .bytes bytes
  | .error error => return contentsOfError error

/-- A clock that shows the time of day. -/
def clockNow : IO Clock := do
  let now ← Std.Time.Timestamp.now
  return ⟨now.toNanosecondsSinceUnixEpoch.val.toNat / 1000⟩

/-- Writes a response and ends with its status. -/
def give (response : Response) : IO UInt32 := do
  (← IO.getStdout).putStr response.output
  (← IO.getStderr).putStr response.errors
  return response.status.toUInt32

/-- Reads bytes up to the end of a line or of the input, behind those of `line`, last byte first. -/
partial def readLine (input : IO.FS.Stream) (line : List UInt8) : IO (List UInt8) := do
  match (← input.read 1).toList with
  | [] => return line.reverse
  | byte :: _ => if byte = 10 then return (byte :: line).reverse else readLine input (byte :: line)

/-- Reads lines and runs them in one session until the input ends. -/
partial def converse (session : Session) : IO UInt32 := do
  let output ← IO.getStdout
  output.putStr prompt
  output.flush
  let line ← readLine (← IO.getStdin) []
  if line.isEmpty then
    give ⟨"\n", "", 0⟩
  else
    match interact session line with
    | .error response => give response
    | .ok (printed, errors, session) =>
      output.putStr printed
      (← IO.getStderr).putStr errors
      converse session

/-- The file that a command reads. -/
def Command.file? : Command → Option String
  | .tokenize file _ => file
  | .parse file => file
  | .evaluate file => file
  | .run file => file
  | .interactive => none

/-- Carries out a command. -/
def carryOut (command : Command) : IO UInt32 := do
  let clock ← clockNow
  match command with
  | .interactive => converse (Session.start none clock)
  | command =>
    let contents ← match command.file? with
      | some name => lookUpFile name
      | none => pure (.unopened .missing)
    give (respondTo (fun _ => contents) .empty clock command)

end Lox.CommandLine

open Lox.CommandLine in
/-- Does what the arguments ask for, or says what they can be. -/
def main (arguments : List String) : IO UInt32 := do
  match request? arguments with
  | none => give ⟨"", "Usage: lox [--log] (tokenize [--json] | parse | evaluate | run) [FILE]\n" ++
      "       lox [--log] repl\n", 2⟩
  | some request =>
    if request.log then
      IO.FS.writeFile "app.log" ""
    carryOut request.command
