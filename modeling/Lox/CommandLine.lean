/-
The commands of the command line: what each writes, and with which status the program ends. Each
command reads one file; the interactive one reads lines from the input and runs them in one session.
-/

import Lox.CommandLine.Arguments
import Lox.CommandLine.Files
import Lox.Session
import Lox.Text.Json
import Lox.Text.Quoted
import Lox.Tree.Form

namespace Lox.CommandLine

open Text

/-! ### Responses -/

/-- What is written to the two output streams, and the status at the end. -/
structure Response where
  output : String
  errors : String
  status : Nat
deriving Repr, DecidableEq

/-- The reports of faults, each on lines of its own. -/
def reports (faults : List Fault) : String :=
  String.join (faults.map fun fault => fault.message ++ "\n")

/-- The status for faults: that of the first one. -/
def statusOf : List Fault → Nat
  | [] => 0
  | fault :: _ => fault.exitCode

/-- The response to faults found when `output` has been written. -/
def failed (output : String) (faults : List Fault) : Response :=
  ⟨output, reports faults, statusOf faults⟩

/-- The response of a program that ends for a reason outside the language. -/
def aborted (output problem cause : String) : Response :=
  ⟨output, "Error: " ++ problem ++ "\n\nCaused by:\n    " ++ cause ++ "\n", 1⟩

/-- The text of the lines, each with its end. -/
def unlines (lines : List String) : String :=
  String.join (lines.map (· ++ "\n"))

/-! ### Files -/

/-- The text of a file, or the response when there is none. -/
def readFile (name : String) : FileContents → Except Response String
  | .unopened problem =>
    .error (aborted "" ("Failed to open file " ++ Quoted.quote name) problem.text)
  | .directory =>
    .error (aborted "" ("Failed to read file " ++ Quoted.quote name) "Is a directory (os error 21)")
  | .bytes bytes =>
    match Utf8.decode bytes with
    | .ok text => .ok text
    | .error error =>
      .error (aborted "" ("File " ++ Quoted.quote name ++ " is not valid UTF-8") error.text)

/-! ### Token listings -/

/-- The kind of a token in a JSON listing; a literal has its value beside it. -/
def kindJson : TokenKind → Json
  | .string contents => .object [("STRING", .string contents)]
  | .number value => .object [("NUMBER", .plain (Number.jsonText value))]
  | kind => .string kind.label

/-- A token in a JSON listing. -/
def tokenJson (token : Token) : Json :=
  .object [("token_type", kindJson token.kind), ("lexeme", .string token.lexeme),
    ("line", .plain (Nat.repr token.line))]

/-- The listing of tokens, as JSON or one on a line. -/
def listing (json : Bool) (tokens : List Token) : String :=
  if json then (Json.array (tokens.map tokenJson)).text ++ "\n"
  else unlines (tokens.map Token.listing)

/-! ### Commands on a file -/

/-- The response to a source whose tokens are to be listed: all of them, also beside errors. -/
def tokenize (json : Bool) (source : String) : Response :=
  let (tokens, errors) := Source.scan source
  { failed (listing json tokens) (errors.map .lexical) with
    status := if errors.isEmpty then 0 else 65 }

/-- The response to a source whose trees are to be printed, one on a line. -/
def parse (source : String) : Response :=
  match ((Session.start none ⟨0⟩).readProgram source).1 with
  | .ok statements => ⟨unlines (statements.map Statement.text), "", 0⟩
  | .error faults => failed "" faults

/-- The text that a session has printed. -/
def printed (session : Session) : String :=
  Utf8.decodeLeniently session.output

/-- The response to the outcome of a run; `result` says what is written of what it gave. -/
def respond {α : Type} (result : Session → α → String) (answer : Outcome α × Session) : Response :=
  match answer with
  | (.finished found, session) => ⟨printed session ++ result session found, "", 0⟩
  | (.failed faults, session) => failed (printed session) faults
  | (.exhausted, session) => aborted (printed session) "Failed to finish" "nested too deeply"

/-- The response to a source that is an expression. -/
def evaluate (clock : Clock) (source : String) : Response :=
  respond (fun session value => session.machine.heap.text value ++ "\n")
    ((Session.start none clock).evaluate ampleDepth source)

/-- The response to a source that is a program. -/
def run (clock : Clock) (source : String) : Response :=
  respond (fun _ _ => "") ((Session.start none clock).run ampleDepth source)

/-- The response to a command on a file. -/
def onFile (files : String → FileContents) (file : Option String) (command : String → Response) :
    Response :=
  match file with
  | none => ⟨"No input filepath was provided. Exiting...\n", "", 0⟩
  | some name =>
    match readFile name (files name) with
    | .ok source => command source
    | .error response => response

/-! ### The interactive command -/

/-- What is written before a line is read. -/
def prompt : String := "> "

/-- The line without its end: a line feed, and a carriage return before it. -/
def withoutEnd (line : List UInt8) : List UInt8 :=
  match line.reverse with
  | 10 :: 13 :: rest => rest.reverse
  | 10 :: rest => rest.reverse
  | _ => line

/-- Splits bytes into lines, each with its end if it has one; `line` is the line begun, last byte
first. -/
def linesAfter (line : List UInt8) : List UInt8 → List (List UInt8)
  | [] => if line.isEmpty then [] else [line.reverse]
  | byte :: rest =>
    if byte = 10 then (byte :: line).reverse :: linesAfter [] rest
    else linesAfter (byte :: line) rest

/-- The lines of an input. -/
def lines (input : ByteArray) : List (List UInt8) :=
  linesAfter [] input.toList

/-- What one line does to a session: what is printed and reported, and the session after it. A line
that is no text ends the program. -/
def interact (session : Session) (line : List UInt8) :
    Except Response (String × String × Session) :=
  match Utf8.decode ⟨(withoutEnd line).toArray⟩ with
  | .error _ =>
    .error (aborted "" "Failed to read from stdin" "stream did not contain valid UTF-8")
  | .ok source =>
    let before := session.output.size
    let (outcome, session) := session.run ampleDepth source
    let output := Utf8.decodeLeniently (session.output.extract before session.output.size)
    match outcome with
    | .finished _ => .ok (output, "", session)
    | .failed faults => .ok (output, reports faults, session)
    | .exhausted => .ok (output, "", session)

/-- The response to lines run in one session. A prompt stands before each line and at the end. -/
def interactive (session : Session) : List (List UInt8) → Response
  | [] => ⟨prompt ++ "\n", "", 0⟩
  | line :: others =>
    match interact session line with
    | .error response => { response with output := prompt ++ response.output }
    | .ok (output, errors, session) =>
      let response := interactive session others
      ⟨prompt ++ output ++ response.output, errors ++ response.errors, response.status⟩

/-! ### All commands -/

/-- The response to a command, given the files, the input and the clock. -/
def respondTo (files : String → FileContents) (input : ByteArray) (clock : Clock) :
    Command → Response
  | .tokenize file json => onFile files file (tokenize json)
  | .parse file => onFile files file parse
  | .evaluate file => onFile files file (evaluate clock)
  | .run file => onFile files file (run clock)
  | .interactive => interactive (Session.start none clock) (lines input)

end Lox.CommandLine
