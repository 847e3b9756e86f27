import DevfilePush.Failure
import DevfilePush.Text.Blank

/-!
Files that are read: what is found at a path, and a directory held in memory.
-/

namespace DevfilePush

/-- What is found where a file is looked for. -/
inductive FileContent where
  | missing
  /-- There is something, but no text can be read from it. -/
  | unreadable
  | text (text : String)
  deriving DecidableEq, Repr

/-- The text of the file at `path`, given what was found there. -/
def FileContent.textAt (found : FileContent) (path : String) : Except ConfigError String :=
  match found with
  | missing => .error (.notFound path)
  | unreadable => .error .unreadable
  | text content => .ok content

/-- Files with their paths, below the working directory. -/
abbrev FileTree := List (String × FileContent)

namespace FileTree

/-- The names on a path, without those that lead nowhere else. -/
def names (path : String) : List String :=
  ((Text.pieces '/' path.toList).map String.ofList).filter fun name => name ≠ "" && name ≠ "."

/-- Whether the names lead to a directory that holds a file. -/
def hasDirectory (tree : FileTree) (directory : List String) : Bool :=
  directory.isEmpty || tree.any fun file => directory.isPrefixOf (names file.1)

/-- What is found at a path. A directory is found, but holds no text. -/
def find (tree : FileTree) (path : String) : FileContent :=
  if path = "" then .missing
  else match tree.find? fun file => names file.1 = names path with
    | some file => if path.endsWith "/" then .missing else file.2
    | none => if tree.hasDirectory (names path) then .unreadable else .missing

end FileTree

end DevfilePush
