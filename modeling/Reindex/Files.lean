import Reindex.Text.Utf8

/-!
# Files

A tree of directories and files, and the rules by which a path leads to a file: an absolute path
starts at the root and any other at the working directory, `.` and a slash at the end ask for a
directory, and `..` goes back up.
-/

namespace Reindex

/-- Why a file cannot be read. -/
inductive FileError where
  | notFound
  | permissionDenied
  | notDirectory
  | isDirectory
  | nameTooLong
  | holdsNul
  | other (text : String)
  deriving DecidableEq, Repr

/-- The message of an error. -/
def FileError.message : FileError → String
  | .notFound => "No such file or directory (os error 2)"
  | .permissionDenied => "Permission denied (os error 13)"
  | .notDirectory => "Not a directory (os error 20)"
  | .isDirectory => "Is a directory (os error 21)"
  | .nameTooLong => "File name too long (os error 36)"
  | .holdsNul => "file name contained an unexpected NUL byte"
  | .other text => text

/-- The error that the system gives a number to. -/
def FileError.ofCode? : Nat → Option FileError
  | 2 => some .notFound
  | 13 => some .permissionDenied
  | 20 => some .notDirectory
  | 21 => some .isDirectory
  | 36 => some .nameTooLong
  | _ => none

/-- A file, or a directory with what is in it. -/
inductive FileNode where
  | file (content : Bytes)
  | directory (entries : List (String × FileNode))
  deriving Repr

/-- A tree of files, and the way from its root to the working directory. -/
structure Files where
  root : FileNode
  working : List String
  deriving Repr

namespace Files

/-- How reading finds the content behind a path. -/
abbrev Reader := String → Except FileError Bytes

/-- The longest name of a file, in bytes. -/
def maxName : Nat := 255

/-- The longest path, in bytes. -/
def maxPath : Nat := 4095

/-- Follows the parts of a path down from a node.  `above` holds the directories on the way to it,
nearest first. -/
def walk (above : List FileNode) : FileNode → List String → Except FileError FileNode
  | node, [] => .ok node
  | .file _, _ :: _ => .error .notDirectory
  | .directory entries, part :: rest =>
    if part = "" ∨ part = "." then walk above (.directory entries) rest
    else if part = ".." then
      match above with
      | [] => walk [] (.directory entries) rest
      | parent :: higher => walk higher parent rest
    else if maxName < part.utf8ByteSize then .error .nameTooLong
    else match entries.lookup part with
      | some next => walk (.directory entries :: above) next rest
      | none => .error .notFound

/-- The parts of a path between its slashes; a slash at the end leaves an empty part. -/
def parts (path : String) : List String := path.splitOn "/"

/-- The node behind a path. -/
def node (files : Files) (path : String) : Except FileError FileNode :=
  if path.toList.contains '\x00' then .error .holdsNul
  else if path = "" then .error .notFound
  else if maxPath < path.utf8ByteSize then .error .nameTooLong
  else if path.startsWith "/" then walk [] files.root (parts path)
  else walk [] files.root (files.working ++ parts path)

/-- The content of the file behind a path. -/
def read (files : Files) : Reader := fun path =>
  match files.node path with
  | .ok (.file content) => .ok content
  | .ok (.directory _) => .error .isDirectory
  | .error e => .error e

end Files

end Reindex
