/-
The arguments of the command line, and what they ask for: the log flag, a command's word, and behind
the word its flags and operands in any order. Behind a double dash everything is an operand. No flag
may be given twice on one side of the word.
-/

namespace Lox.CommandLine

/-! ### Commands -/

/-- A command; a command on a file may be given no file. -/
inductive Command where
  | tokenize (file : Option String) (json : Bool)
  | parse (file : Option String)
  | evaluate (file : Option String)
  | run (file : Option String)
  | interactive
deriving Repr, DecidableEq

/-- A command, and whether a log is asked for. -/
structure Request where
  command : Command
  log : Bool
deriving Repr, DecidableEq

/-! ### Flags and operands -/

/-- The flag that asks for a log. -/
def logFlag : String := "--log"

/-- The flag that asks for JSON. -/
def jsonFlag : String := "--json"

/-- Whether an argument is written as a flag. A lone dash is not. -/
def isFlag (argument : String) : Bool :=
  match argument.toList with
  | '-' :: _ :: _ => true
  | _ => false

/-- The flags and the operands among arguments, both in order. -/
structure Sorted where
  flags : List String
  operands : List String
deriving Repr, DecidableEq

/-- Sorts arguments into flags and operands. -/
def sortArguments : List String → Sorted
  | [] => ⟨[], []⟩
  | argument :: others =>
    if argument = "--" then ⟨[], others⟩
    else
      let sorted := sortArguments others
      if isFlag argument then { sorted with flags := argument :: sorted.flags }
      else { sorted with operands := argument :: sorted.operands }

/-- Whether all flags are among the allowed ones and none is given twice. -/
def areAllowed (allowed flags : List String) : Bool :=
  flags.all allowed.contains && decide flags.Nodup

/-- Whether a text can name a file: it is not empty and holds no NUL, with which names end. -/
def isFileName (name : String) : Bool :=
  !name.isEmpty && !name.toList.contains '\x00'

/-- The file that the operands name, if they are at most one and it can name a file. -/
def file? : List String → Option (Option String)
  | [] => some none
  | [name] => if isFileName name then some (some name) else none
  | _ => none

/-! ### Requests -/

/-- The command with the given word, flags and operands. -/
def command? (word : String) (sorted : Sorted) : Option Command :=
  if word = "tokenize" then
    if areAllowed [logFlag, jsonFlag] sorted.flags then
      (file? sorted.operands).map fun file => .tokenize file (sorted.flags.contains jsonFlag)
    else none
  else if areAllowed [logFlag] sorted.flags then
    if word = "parse" then (file? sorted.operands).map .parse
    else if word = "evaluate" then (file? sorted.operands).map .evaluate
    else if word = "run" then (file? sorted.operands).map .run
    else if word = "repl" ∧ sorted.operands = [] then some .interactive
    else none
  else none

/-- What a command's word and the arguments behind it ask for. -/
def requestOf? (word : String) (arguments : List String) : Option Request :=
  let sorted := sortArguments arguments
  (command? word sorted).map fun command => ⟨command, sorted.flags.contains logFlag⟩

/-- What the arguments ask for. The log flag may stand on either side of the command's word. -/
def request? : List String → Option Request
  | [] => none
  | [word] => requestOf? word []
  | first :: second :: others =>
    if first = logFlag then
      (requestOf? second others).map fun request => { request with log := true }
    else requestOf? first (second :: others)

end Lox.CommandLine
