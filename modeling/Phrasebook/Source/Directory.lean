import Phrasebook.Fetching
import Phrasebook.Source.FileTree
import Phrasebook.Text.Utf8

/-!
# Dictionaries in a directory

The dictionary of a locale is the file `<locale>.json` of a directory. Its text has to be in the
encoding that the directory is said to have, and that has to be UTF-8 by one of its names. How files
are read is a parameter: `Directory.fetch` works on a `FileTree` as well as on a disk.
-/

set_option autoImplicit false

namespace Phrasebook

/-- The failure to read a file, as a failure to load: a missing file is a missing dictionary in that
place, and any other failure has the detail. -/
def LoadError.ofReadFailure (failure : ReadFailure) (place detail : String) : LoadError :=
  if failure.missing then .notFound place else .io detail

/-- A directory of dictionaries and the label of their encoding. -/
structure Directory where
  path : String
  encoding : String
  deriving DecidableEq, Repr

namespace Directory

/-- The label of the encoding where none is given. -/
def defaultEncoding : String := "utf-8"

/-- Whether the label is one of the names of UTF-8, in whatever case. -/
def isUtf8Label (label : String) : Bool := label.toLower == "utf-8" || label.toLower == "utf8"

/-- A path below a directory. A path from the root stands for itself, and no separator is added to
an empty directory or behind another. -/
def join (directory path : String) : String :=
  if path.toList.head? == some '/' then path
  else if directory.isEmpty || directory.toList.getLast? == some '/' then directory ++ path
  else directory ++ "/" ++ path

/-- The path of the dictionary of a locale. -/
def pathFor (d : Directory) (locale : String) : String := join d.path (locale ++ ".json")

/-- The text of a file that has been read, or the failure to read it. -/
def answer (d : Directory) (locale : String) (result : Except ReadFailure (List UInt8)) : Answer :=
  match result with
  | .error failure =>
    .error (.ofReadFailure failure (d.pathFor locale)
      ("Failed to read file '" ++ d.pathFor locale ++ "': " ++ failure.reason))
  | .ok bytes =>
    match Text.Utf8.decode bytes with
    | .ok chars => .ok (String.ofList chars)
    | .error fault =>
      .error (.io ("'" ++ d.pathFor locale ++ "' is not valid " ++ d.encoding ++ ": "
        ++ fault.message))

/-- Reads the dictionary of a locale, unless the encoding is none that can be read. -/
def fetch {m : Type → Type} [Monad m] (read : String → m (Except ReadFailure (List UInt8)))
    (d : Directory) (locale : String) : m Answer :=
  if isUtf8Label d.encoding then do
    let result ← read (d.pathFor locale)
    pure (d.answer locale result)
  else pure (.error (.unsupportedEncoding d.encoding))

end Directory

end Phrasebook
