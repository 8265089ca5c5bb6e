/-
Files and the paths that lead to them. A path is walked name by name from a directory; it can fail
to lead anywhere, and what it leads to can be a directory, which opens like a file and cannot be
read.
-/

namespace Lox.CommandLine

/-! ### What a name leads to -/

/-- Why a file cannot be opened. -/
inductive OpenProblem where
  | missing
  | denied
  /-- The path goes on behind a file. -/
  | notDirectory
  | nameTooLong
  /-- Another reason, in the words of the host. -/
  | other (reason : String)
deriving Repr, DecidableEq

/-- The text of a problem with opening a file. -/
def OpenProblem.text : OpenProblem → String
  | .missing => "No such file or directory (os error 2)"
  | .denied => "Permission denied (os error 13)"
  | .notDirectory => "Not a directory (os error 20)"
  | .nameTooLong => "File name too long (os error 36)"
  | .other reason => reason

/-- What is found under the name of a file. -/
inductive FileContents where
  | unopened (problem : OpenProblem)
  | directory
  | bytes (bytes : ByteArray)

/-! ### Directories -/

/-- A file, or a directory with names in it. -/
inductive Node where
  | file (bytes : ByteArray)
  | directory (entries : List (String × Node))

/-- What a path has led to, and the directories on the way there, the outermost last. The outermost
one contains itself. -/
structure Position where
  node : Node
  around : List Node

/-- The position of the outermost directory around a position. -/
def Position.root (position : Position) : Position :=
  ⟨position.around.getLastD position.node, []⟩

/-- The position of the directory around a position. -/
def Position.parent (position : Position) : Position :=
  match position.around with
  | [] => position
  | outer :: others => ⟨outer, others⟩

/-- How many bytes a name in a path can have. -/
def maximalNameLength : Nat := 255

/-- How many bytes a path can have. -/
def maximalPathLength : Nat := 4095

/-- Where one name leads from a position: an empty one and a dot nowhere else, two dots outward. -/
def Position.step (position : Position) (name : String) : Except OpenProblem Position :=
  match position.node with
  | .file _ => .error .notDirectory
  | .directory entries =>
    if name = "" ∨ name = "." then .ok position
    else if name = ".." then .ok position.parent
    else if maximalNameLength < name.utf8ByteSize then .error .nameTooLong
    else
      match entries.lookup name with
      | some node => .ok ⟨node, position.node :: position.around⟩
      | none => .error .missing

/-! ### Paths -/

/-- The names between the slashes of a path. -/
def names : List Char → List (List Char)
  | [] => [[]]
  | char :: rest =>
    if char = '/' then [] :: names rest
    else
      match names rest with
      | [] => [[char]]
      | first :: others => (char :: first) :: others

/-- Where a path leads from a position; one that begins with a slash leads from the outermost
directory. -/
def Position.walk (position : Position) (path : String) : Except OpenProblem Position :=
  if path.isEmpty then .error .missing
  else if maximalPathLength < path.utf8ByteSize then .error .nameTooLong
  else
    let start := if path.toList.head? = some '/' then position.root else position
    ((names path.toList).map String.ofList).foldlM Position.step start

/-- What is found under a path from a position. -/
def Position.contents (position : Position) (path : String) : FileContents :=
  match position.walk path with
  | .error problem => .unopened problem
  | .ok ⟨.file bytes, _⟩ => .bytes bytes
  | .ok ⟨.directory _, _⟩ => .directory

end Lox.CommandLine
