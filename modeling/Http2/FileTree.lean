import Http2.Text.Basic
import Http2.Transport.Fault

/-!
Files in a tree of directories, and what a path leads to. Of two faults of a path the one that is
nearer to its beginning is found.
-/

namespace Http2

/-- A file with its content, or a directory. -/
inductive FileTree (α : Type) where
  | file (content : α)
  | directory (entries : List (String × FileTree α))

namespace FileTree

variable {α : Type}

/-- The longest name of a file, in bytes. -/
def maxName : Nat := 255

/-- The number of bytes that a path has to stay below. -/
def pathLimit : Nat := 4096

/-- Follows names downwards from `here`, whose parents are `above`, the nearest first. Above the top
is the top itself. -/
def walk (above : List (FileTree α)) (here : FileTree α) :
    List String → Except SystemError (FileTree α)
  | [] => .ok here
  | name :: names =>
    match here with
    | file _ => .error .notADirectory
    | directory entries =>
      if name = "" ∨ name = "." then walk above here names
      else if name = ".." then
        match above with
        | [] => walk [] here names
        | parent :: above => walk above parent names
      else if maxName < name.utf8ByteSize then .error .nameTooLong
      else
        match entries.lookup name with
        | some next => walk (here :: above) next names
        | none => .error .notFound

end FileTree

/-- A tree of files and the directory where paths begin that do not begin at the top. -/
structure FileSystem (α : Type) where
  top : FileTree α
  workingDirectory : List String := []

namespace FileSystem

variable {α : Type}

/-- The names that a path passes through, from the top. -/
def names (fs : FileSystem α) (path : String) : List String :=
  let names := (Text.parts (· == '/') path.toList).map String.ofList
  if path.startsWith "/" then names else fs.workingDirectory ++ names

def read (fs : FileSystem α) (path : String) : Except SystemError α :=
  if path.contains '\x00' then .error .nulInName
  else if path = "" then .error .notFound
  else if FileTree.pathLimit ≤ path.utf8ByteSize then .error .nameTooLong
  else
    match fs.top.walk [] (fs.names path) with
    | .ok (.file content) => .ok content
    | .ok (.directory _) => .error .isADirectory
    | .error e => .error e

end FileSystem

end Http2
