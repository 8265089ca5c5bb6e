/-
Everything that can go wrong, with the line it is reported on, the text of the report and the status
with which a program that stops for it ends. A report of an error found before a run begins with the
line and says what the source has at the place; one of an error during a run ends with the line.
-/

import Lox.Grammar.Parser
import Lox.Machine.RuntimeError
import Lox.Scope.Walk
import Lox.Source.Scan
import Lox.Text.Utf8

namespace Lox

/-- What goes wrong outside the language. -/
inductive HostError where
  /-- Something could not be read or written, for the reason that the host gives. -/
  | inputOutput (reason : String)
  | decoding (error : Text.Utf8.DecodingError)
deriving Repr, DecidableEq

/-- What goes wrong, by the stage that finds it. -/
inductive Fault where
  | lexical (error : Source.LexicalError)
  | grammatical (error : Grammar.SyntaxError)
  | scoping (error : Scope.ScopeError)
  | runtime (error : RuntimeError)
  | host (error : HostError)

/-- A report of an error found before a run. -/
def staticReport (line : Nat) (location text : String) : String :=
  "[line " ++ Nat.repr line ++ "] Error" ++ location ++ ": " ++ text

namespace Fault

/-- The line of a fault, zero where there is none. -/
def line : Fault → Nat
  | .lexical error => error.line
  | .grammatical error => error.token.line
  | .scoping error => error.place.line
  | .runtime error => error.line
  | .host _ => 0

/-- The report of a fault. -/
def message : Fault → String
  | .lexical error => staticReport error.line "" error.problem.text
  | .grammatical error => staticReport error.token.line error.token.location error.problem.text
  | .scoping error =>
    staticReport error.place.line (" at '" ++ error.place.name ++ "'") error.problem.text
  | .runtime error => error.message
  | .host (.inputOutput reason) => reason
  | .host (.decoding error) => error.text

/-- The status of a program that stops for a fault. -/
def exitCode : Fault → Nat
  | .runtime _ => 70
  | .host (.inputOutput _) => 74
  | _ => 65

end Fault

end Lox
