import Phrasebook.Address.Server

/-!
# Addresses

The address of a document names a server and, behind it, the document. `Address.target?` gives the
second part in the form in which a request carries it: dots that mean a place are followed, what a
request cannot hold is percent-encoded, and a fragment is left out. An address that names no server
has no target, nor has one that is too long when it is written out.
-/

set_option autoImplicit false

namespace Phrasebook.Address

/-- Whether the name of a server goes on with the character. -/
def isServerChar (c : Char) : Bool := !(['/', '\\', '?', '#'].contains c)

/-- What stands behind the two slashes of the scheme. -/
def behindScheme (address : List Char) : List Char := (address.dropWhile (· != ':')).drop 3

/-- The server: everything up to the first slash, question mark or number sign. -/
def server (address : List Char) : List Char := (behindScheme address).takeWhile isServerChar

/-- What stands behind the server. -/
def behindServer (address : List Char) : List Char := (behindScheme address).dropWhile isServerChar

/-- The path and the query behind a server, without the fragment. -/
def pathAndQuery (s : List Char) : List Char × Option (List Char) :=
  let s := s.takeWhile (· != '#')
  match Text.cut? '?' s with
  | some (path, query) => (path, some query)
  | none => (s, none)

/-- The fragment behind a server, with its number sign. -/
def fragment (s : List Char) : List Char := s.dropWhile (· != '#')

/-- The address without the gaps around it and the tabs and line ends within. -/
def tidy (address : List Char) : List Char :=
  let isGap := fun (c : Char) => decide (c.toNat ≤ 0x20)
  ((address.dropWhile isGap).reverse.dropWhile isGap).reverse.filter fun c =>
    !(['\t', '\n', '\r'].contains c)

/-- A segment with its encoded dots written plainly. -/
def plainDots : List Char → List Char
  | '%' :: '2' :: 'e' :: rest => '.' :: plainDots rest
  | '%' :: '2' :: 'E' :: rest => '.' :: plainDots rest
  | c :: rest => c :: plainDots rest
  | [] => []

/-- A letter with a colon or a bar, which names a drive. -/
def isDrive : List Char → Bool
  | [letter, sign] => letter.isAlpha && (sign == ':' || sign == '|')
  | _ => false

/-- The place above some segments. There is none above a drive. -/
def above (segments : List (List Char)) : List (List Char) :=
  if segments.getLast?.any isDrive then segments else segments.dropLast

/-- The segments of a path behind those that are kept already. One dot means the place itself and
two dots mean the place above it; at the end of a path they leave an empty segment. -/
def follow (kept : List (List Char)) : List (List Char) → List (List Char)
  | [] => kept
  | segment :: rest =>
    if plainDots segment = ['.'] then
      if rest.isEmpty then kept ++ [[]] else follow kept rest
    else if plainDots segment = ['.', '.'] then
      if rest.isEmpty then above kept ++ [[]] else follow (above kept) rest
    else follow (kept ++ [segment]) rest

/-- The characters that every part of a target takes. -/
def isPlain (c : Char) : Bool :=
  decide (0x20 < c.toNat ∧ c.toNat < 0x7F) && !(['"', '<', '>'].contains c)

/-- The characters of a path. -/
def isPathChar (c : Char) : Bool := isPlain c && !(['\x60', '{', '}'].contains c)

/-- The characters of a query. -/
def isQueryChar (c : Char) : Bool := isPlain c && c != '\x27'

/-- The characters of a fragment. -/
def isFragmentChar (c : Char) : Bool := isPlain c && c != '\x60'

/-- The target of a request for the document behind the server. A backslash is as good as a
slash. -/
def targetOf (document : List Char) : String :=
  let (path, query) := pathAndQuery document
  let slashes := path.map fun c => if c = '\\' then '/' else c
  let segments := follow [] (Text.split '/' (slashes.drop 1))
  String.ofList ('/' :: Text.Percent.encode isPathChar (['/'].intercalate segments) ++
    match query with
    | some query => '?' :: Text.Percent.encode isQueryChar query
    | none => [])

/-- The most characters of an address that is written out. -/
def longestAddress : Nat := 65534

/-- The length of an address that is written out, in bytes: the scheme, the server, the target and
the fragment. -/
def writtenLength (server : List Char) (target : String) (fragment : List Char) : Nat :=
  "http://".length + server.length + target.length
    + (Text.Percent.encode isFragmentChar fragment).length

/-- The target of a request for the document at an address, if the address names a server. -/
def target? (address : String) : Option String :=
  let address := tidy address.toList
  match server? (server address) with
  | some server =>
    let target := targetOf (behindServer address)
    if writtenLength server target (fragment (behindServer address)) ≤ longestAddress then
      some target
    else none
  | none => none

end Phrasebook.Address
