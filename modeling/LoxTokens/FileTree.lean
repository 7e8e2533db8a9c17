import LoxTokens.Fields
import LoxTokens.OsError

/-!
# Trees of files

A working directory with the files in it.  Paths are followed name by name from there; a path that
leaves the directory upwards finds nothing outside it.
-/

namespace LoxTokens

/-- What a path can name. -/
inductive FileNode where
  /-- A file with its bytes. -/
  | file (bytes : List UInt8)
  /-- A directory. -/
  | directory
  deriving DecidableEq

/-- Files and directories under a working directory, each given by the names that lead to it. -/
structure FileTree where
  /-- Names from the working directory down, and what they lead to. -/
  entries : List (List (List Char) × FileNode)

namespace FileTree

/-- The tree of files with the given paths. -/
def ofPaths (files : List (String × FileNode)) : FileTree :=
  { entries := files.map fun (path, node) => (Fields.cutAt '/' path.toList, node) }

/-- What a list of names leads to; the directories on the way to an entry need no entry. -/
def find? (tree : FileTree) (names : List (List Char)) : Option FileNode :=
  match tree.entries.find? fun entry => entry.1 == names with
  | some (_, node) => some node
  | none =>
      if names.isEmpty || tree.entries.any (fun entry => names.isPrefixOf entry.1) then
        some .directory
      else none

/-- Longest name of a file, in bytes. -/
def nameLimit : Nat := 255

/-- Longest path, in bytes. -/
def pathLimit : Nat := 4095

/--
Follow names from a directory, which is given by the names that lead to it, or is nothing for a
directory outside the tree.
-/
def walk (tree : FileTree) :
    (place : Option (List (List Char))) → (names : List (List Char)) → Except OsError FileNode
  | _, [] => .ok .directory
  | place, name :: names =>
      if name = [] ∨ name = ['.'] then tree.walk place names
      else if name = ['.', '.'] then
        tree.walk (place.bind fun path => if path.isEmpty then none else some path.dropLast) names
      else if nameLimit < (String.ofList name).utf8ByteSize then .error .nameTooLong
      else
        match place with
        | none => .error .notFound
        | some path =>
            match tree.find? (path ++ [name]) with
            | none => .error .notFound
            | some .directory => tree.walk (some (path ++ [name])) names
            | some (.file bytes) =>
                if names.isEmpty then .ok (.file bytes) else .error .notADirectory

/-- The bytes of the file that a path names. -/
def read (tree : FileTree) (path : String) : Except OsError (List UInt8) :=
  if path.isEmpty then .error .notFound
  else if pathLimit < path.utf8ByteSize then .error .nameTooLong
  else
    let names := Fields.cutAt '/' path.toList
    match tree.walk (if names.head? = some [] then none else some []) names with
    | .ok (.file bytes) => .ok bytes
    | .ok .directory => .error .isADirectory
    | .error error => .error error

end FileTree
end LoxTokens
