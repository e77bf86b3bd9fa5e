import Phrasebook.Text.Split

/-!
# Trees of files

Files below a working directory, and what a file system answers when one of them is read by its
path. A path is walked from name to name, so the first thing on the way that is missing, too long or
no directory decides the failure. What lies outside the working directory is not there.
-/

set_option autoImplicit false

namespace Phrasebook

/-- Why a file could not be read: whether it is missing, and the reason in words. -/
structure ReadFailure where
  missing : Bool
  reason : String
  deriving DecidableEq, Repr

namespace ReadFailure

/-- There is nothing under that name. -/
def notFound : ReadFailure := ⟨true, "No such file or directory (os error 2)"⟩

/-- A name on the way is that of a file. -/
def notDirectory : ReadFailure := ⟨false, "Not a directory (os error 20)"⟩

/-- The path is that of a directory. -/
def isDirectory : ReadFailure := ⟨false, "Is a directory (os error 21)"⟩

/-- A name on the way, or the path, is longer than a file system takes. -/
def nameTooLong : ReadFailure := ⟨false, "File name too long (os error 36)"⟩

/-- No path has a zero byte. -/
def zeroByte : ReadFailure := ⟨false, "file name contained an unexpected NUL byte"⟩

end ReadFailure

/-- The files and the empty directories of a tree, by the names on the way to them. -/
structure FileTree where
  entries : List (List String × Option (List UInt8))

namespace FileTree

/-- The bytes that the name of a file may have. -/
def maxNameBytes : Nat := 255

/-- The bytes that a path may have. -/
def maxPathBytes : Nat := 4095

/-- The names on a path, without empty ones. -/
def names (path : String) : List String :=
  ((Text.split '/' path.toList).filter (!·.isEmpty)).map String.ofList

/-- The tree of some files, given by their paths, and of some directories, given without bytes. -/
def ofList (files : List (String × Option (List UInt8))) : FileTree :=
  ⟨files.map fun file => ((names file.1).filter (· != "."), file.2)⟩

/-- What is found in a place. -/
inductive Node where
  | directory
  | file (bytes : List UInt8)
  deriving DecidableEq

/-- What is found under the names. Every name on the way to an entry is that of a directory. -/
def node? (tree : FileTree) (path : List String) : Option Node :=
  if path.isEmpty then some .directory
  else match tree.entries.find? fun entry => entry.1 == path with
    | some (_, some bytes) => some (.file bytes)
    | some (_, none) => some .directory
    | none =>
      if tree.entries.any fun entry => path.isPrefixOf entry.1 then some .directory else none

/-- Where a walk stands: under some names of the tree, or outside it. -/
abbrev Place := Option (List String)

/-- What is found in a place. Outside there are only directories. -/
def nodeAt (tree : FileTree) : Place → Option Node
  | some path => tree.node? path
  | none => some .directory

/-- The place that a name leads to. -/
def enter (place : Place) (name : String) : Place :=
  if name == "." then place
  else if name == ".." then
    match place with
    | some [] => none
    | some path => some path.dropLast
    | none => none
  else place.map (· ++ [name])

/-- Walks along the names from a place. -/
def walk (tree : FileTree) (place : Place) : List String → Except ReadFailure Place
  | [] => .ok place
  | name :: rest =>
    if tree.nodeAt place ≠ some .directory then .error .notDirectory
    else if maxNameBytes < name.utf8ByteSize then .error .nameTooLong
    else
      let special := name == "." || name == ".."
      if !special && place.isNone then .error .notFound
      else
        let next := enter place name
        if (tree.nodeAt next).isNone then .error .notFound else walk tree next rest

/-- Reads the file under the path. -/
def read (tree : FileTree) (path : String) : Except ReadFailure (List UInt8) :=
  if path.toList.contains '\x00' then .error .zeroByte
  else if maxPathBytes < path.utf8ByteSize then .error .nameTooLong
  else if path.isEmpty then .error .notFound
  else
    let origin : Place := if path.toList.head? == some '/' then none else some []
    match walk tree origin (names path) with
    | .error failure => .error failure
    | .ok place =>
      match tree.nodeAt place with
      | some (.file bytes) => .ok bytes
      | some .directory => .error .isDirectory
      | none => .error .notFound

end FileTree

end Phrasebook
