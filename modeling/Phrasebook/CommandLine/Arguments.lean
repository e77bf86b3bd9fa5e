import Phrasebook.Text.Split

/-!
# Words of a command line

The words behind a command are options with values and positional words, in any order. An option is
spelled `--name value`, `--name=value`, `-n value`, `-nvalue` or `-n=value`; a value that starts
with a hyphen has to be attached, unless it is a hyphen alone. Behind `--` every word is positional.
-/

set_option autoImplicit false

namespace Phrasebook.CommandLine

/-- An option that takes a value, by its long name and the letter that abbreviates it. -/
structure Flag where
  name : String
  letter : Option Char
  deriving DecidableEq, Repr

/-- The options and the positional words of a command line, in order. -/
structure Arguments where
  options : List (String × String)
  words : List String
  deriving DecidableEq, Repr

namespace Arguments

/-- Puts an option in front. -/
def addOption (name value : String) (a : Arguments) : Arguments :=
  { a with options := (name, value) :: a.options }

/-- Puts a positional word in front. -/
def addWord (word : String) (a : Arguments) : Arguments := { a with words := word :: a.words }

/-- The value of an option. -/
def option? (a : Arguments) (name : String) : Option String :=
  (a.options.find? (·.1 == name)).map (·.2)

/-- Whether no option is given twice. -/
def isUnrepeated (a : Arguments) : Bool := decide (a.options.map (·.1)).Nodup

end Arguments

/-- What a word is by itself. -/
inductive Word where
  /-- Ends the options. -/
  | terminator
  /-- The option of that name, with its value if it is attached. -/
  | option (name : String) (value : Option String)
  /-- An option that there is not. -/
  | unknown
  | positional (word : String)
  deriving DecidableEq, Repr

/-- Looks at a word by itself. -/
def Word.ofString (flags : List Flag) (word : String) : Word :=
  match word.toList with
  | ['-', '-'] => .terminator
  | '-' :: '-' :: long =>
    let (name, value) := match Text.cut? '=' long with
      | some (name, value) => (String.ofList name, some (String.ofList value))
      | none => (String.ofList long, none)
    match flags.find? (·.name == name) with
    | some flag => .option flag.name value
    | none => .unknown
  | '-' :: letter :: attached =>
    match flags.find? (·.letter == some letter) with
    | none => .unknown
    | some flag =>
      match attached with
      | [] => .option flag.name none
      | '=' :: value => .option flag.name (some (String.ofList value))
      | value => .option flag.name (some (String.ofList value))
  | _ => .positional word

/-- Whether a word can be the value of the option before it. -/
def isValueWord (word : String) : Bool := word == "-" || word.toList.head? != some '-'

/-- Sorts the words into options and positional ones. -/
def scan (flags : List Flag) : List String → Option Arguments
  | [] => some ⟨[], []⟩
  | word :: rest =>
    match Word.ofString flags word with
    | .terminator => some ⟨[], rest⟩
    | .unknown => none
    | .positional word => (scan flags rest).map (·.addWord word)
    | .option name (some value) => (scan flags rest).map (·.addOption name value)
    | .option name none =>
      match rest with
      | [] => none
      | value :: rest =>
        if isValueWord value then (scan flags rest).map (·.addOption name value) else none

/-- The options and the positional words of a command line, unless an option is unknown, repeated or
without its value. -/
def Arguments.ofWords? (flags : List Flag) (words : List String) : Option Arguments :=
  (scan flags words).filter Arguments.isUnrepeated

end Phrasebook.CommandLine
