import SqlIdentifier.Text.Literal

namespace SqlIdentifier

/-- Why a file cannot be read as text, although it is there. -/
inductive ReadError where
  /-- The system refuses, with the number and the message of its error. -/
  | system (code : Nat) (message : String)
  | notText
  deriving DecidableEq, Repr

namespace ReadError

def isDirectory : ReadError :=
  system 21 "Is a directory"

/-- The kind of an error that opening or reading a file can meet. -/
def kind : (code : Nat) → String
  | 1 | 13 => "PermissionDenied"
  | 11 => "WouldBlock"
  | 12 => "OutOfMemory"
  | 16 => "ResourceBusy"
  | 21 => "IsADirectory"
  | 22 => "InvalidInput"
  | 26 => "ExecutableFileBusy"
  | 27 => "FileTooLarge"
  | 110 => "TimedOut"
  | 116 => "StaleNetworkFileHandle"
  | _ => "Uncategorized"

def message : ReadError → String
  | system code message => s!"{message} (os error {code})"
  | notText => "stream did not contain valid UTF-8"

def fields : ReadError → String
  | system code message =>
    s!"Os \x7b code: {code}, kind: {kind code}, message: {Text.stringLiteral message} \x7d"
  | notText =>
    s!"Error \x7b kind: InvalidData, message: {Text.stringLiteral notText.message} \x7d"

end ReadError

inductive Found where
  | missing
  | directory
  | unreadable (error : ReadError)
  | file (content : String)
  deriving DecidableEq, Repr

/-- What stands in a tree, with the names on the way to it from the root. -/
structure FileTree where
  listed : List (List String × Found)

namespace FileTree

/-- What stands at the end of a way. On the way to what is listed there are directories. -/
def find (tree : FileTree) (way : List String) : Found :=
  match tree.listed.lookup way with
  | some found => found
  | none =>
    if way.isEmpty || tree.listed.any fun (longer, _) => way.isPrefixOf longer then .directory
    else .missing

/-- Follows one step of a path from the end of a way, where a directory must stand. -/
def step? (tree : FileTree) (way : List String) (name : String) : Option (List String) :=
  if tree.find way ≠ .directory then none
  else if name = "" ∨ name = "." then some way
  else if name = ".." then some way.dropLast
  else some (way ++ [name])

def names (path : String) : List String :=
  (path.toList.splitOn '/').map String.ofList

/-- What stands at a path, which starts at the root if a slash comes first, and in the working
directory otherwise. An empty path leads nowhere. -/
def findAt (tree : FileTree) (working : List String) (path : String) : Found :=
  match path.toList with
  | [] => .missing
  | first :: _ =>
    match (names path).foldlM tree.step? (if first = '/' then [] else working) with
    | none => .missing
    | some way => tree.find way

end FileTree

end SqlIdentifier
