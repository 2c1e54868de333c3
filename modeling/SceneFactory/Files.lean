import SceneFactory.Assoc
import SceneFactory.Text.Affix

/-!
# Files

Why a file cannot be read as text, in the words of the operating system, and a
tree of files held in memory that is read as the operating system would read it.
Paths are taken relative to the root of the tree, which lies in a directory of its
own; outside the tree nothing exists but the directories above it.
-/

namespace SceneFactory.Files

/-- Why a file cannot be read as text. -/
inductive ReadFault where
  | notFound
  | notDirectory
  | isDirectory
  | permissionDenied
  | nameTooLong
  /-- The path contains a character of code zero. -/
  | zeroInPath
  | notText
  /-- Any other fault, worded by the system. -/
  | other (wording : String)
deriving DecidableEq, Inhabited

/-- The wording of a fault. -/
def ReadFault.message : ReadFault → String
  | .notFound => "No such file or directory (os error 2)"
  | .notDirectory => "Not a directory (os error 20)"
  | .isDirectory => "Is a directory (os error 21)"
  | .permissionDenied => "Permission denied (os error 13)"
  | .nameTooLong => "File name too long (os error 36)"
  | .zeroInPath => "file name contained an unexpected NUL byte"
  | .notText => "stream did not contain valid UTF-8"
  | .other wording => wording

/-- Reads a file as text by its path. -/
abbrev Reader := String → Except ReadFault String

/-- The reader of a system without files. -/
def noFiles : Reader := fun _ => .error .notFound

/-- A file with its bytes, or a directory. -/
inductive Node where
  | file (bytes : ByteArray)
  | directory
deriving Inhabited

/-- Files and directories by the components of their paths. -/
structure Tree where
  nodes : Assoc (List String) Node
deriving Inhabited

/-- The components of a path; empty ones and single dots do not count. -/
def components (path : String) : List String :=
  (path.splitOn "/").filter fun c => c ≠ "" ∧ c ≠ "."

namespace Tree

/-- The tree that has only its root. -/
def empty : Tree := ⟨Assoc.empty.insert [] .directory⟩

/-- Adds the directories above a path, the outermost first. -/
def addParents (tree : Tree) (path : List String) : Tree :=
  (List.range path.length).foldl (fun tree n => ⟨tree.nodes.insert (path.take n) .directory⟩) tree

/-- Adds a file or a directory, with the directories above it. -/
def add (tree : Tree) (path : String) (node : Node) : Tree :=
  ⟨(tree.addParents (components path)).nodes.insert (components path) node⟩

/-- The longest name of a file, in bytes. -/
def longestName : Nat := 255

/-- The longest path, in bytes. -/
def longestPath : Nat := 4095

/-- Walks from a directory along the components of a path; no directory of the tree
is given for one above it. -/
def walk (tree : Tree) : Option (List String) → List String → Except ReadFault Node
  | none, [] => .ok .directory
  | none, name :: rest =>
    if name = "." ∨ name = ".." then tree.walk none rest
    else if longestName < name.utf8ByteSize then .error .nameTooLong
    else .error .notFound
  | some here, [] =>
    match tree.nodes.get? here with
    | some node => .ok node
    | none => .error .notFound
  | some here, name :: rest =>
    match tree.nodes.get? here with
    | none => .error .notFound
    | some (.file _) => .error .notDirectory
    | some .directory =>
      if name = "." then tree.walk (some here) rest
      else if name = ".." then tree.walk (if here.isEmpty then none else some here.dropLast) rest
      else if longestName < name.utf8ByteSize then .error .nameTooLong
      else tree.walk (some (here ++ [name])) rest

/-- Reads a file as text. A path that ends with a slash must lead to a directory. -/
def read (tree : Tree) : Reader := fun path =>
  if path.toList.contains '\x00' then .error .zeroInPath
  else if longestPath < path.utf8ByteSize then .error .nameTooLong
  else if path = "" then .error .notFound
  else
    let start := if Text.begins path "/" then none else some []
    let names := (path.splitOn "/").filter fun c => c ≠ ""
    match tree.walk start (if Text.endsIn path '/' then names ++ ["."] else names) with
    | .error fault => .error fault
    | .ok .directory => .error .isDirectory
    | .ok (.file bytes) =>
      match String.fromUTF8? bytes with
      | some text => .ok text
      | none => .error .notText

end Tree

/-- A path below a directory. A path from the root replaces the directory, and an
empty directory adds nothing. -/
def join (directory path : String) : String :=
  if Text.begins path "/" = true ∨ directory = "" then path
  else if Text.endsIn directory '/' then directory ++ path
  else directory ++ "/" ++ path

end SceneFactory.Files
