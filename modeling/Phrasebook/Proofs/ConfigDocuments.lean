import Mathlib.Data.List.Forall2
import Phrasebook.Config.Document
import Phrasebook.Proofs.JsonGrammar
import Phrasebook.Proofs.Serialising

/-!
# Configurations and their documents

The five fields of a configuration are one family: each has a name, values of its own kind and a way
to read them, and the laws hold for all of them at once (`Config.Field`). Entries are values for
fields, and the members of an object describe entries when some of them spell these, in order, and
the others have names that no field has (`Describes`). What is read from such an object is the
default with the entries written over it, unless two of them are for one field; from any other
object nothing is read (`ofMembers?_eq_some_iff_describes`). An array is read as the object that
names its items (`ofItems?_eq_ofMembers?`).
-/

set_option autoImplicit false

namespace Phrasebook.Config

open Json (Tree StringUnit text? PaddedText)

/-! ## Fields -/

/-- The fields of a configuration. -/
inductive Field where
  | directory
  | defaultLocale
  | forcedLocale
  | locales
  | encoding
  deriving DecidableEq

namespace Field

/-- The fields in the order in which they are declared and written. -/
def inOrder : List Field := [.directory, .defaultLocale, .forcedLocale, .locales, .encoding]

/-- What may stand in a field. -/
abbrev Value : Field → Type
  | .directory => String
  | .defaultLocale => String
  | .forcedLocale => Option String
  | .locales => List String
  | .encoding => String

/-- The name of a field in documents. -/
def name : Field → String
  | .directory => "dictionary_dir"
  | .defaultLocale => "default_locale"
  | .forcedLocale => "forced_locale"
  | .locales => "locales"
  | .encoding => "encoding"

/-- What stands in the field. -/
def get (c : Config) : (field : Field) → field.Value
  | .directory => c.directory
  | .defaultLocale => c.defaultLocale
  | .forcedLocale => c.forcedLocale
  | .locales => c.locales
  | .encoding => c.encoding

/-- The configuration with the value in the field, as it is, and with its own in the others. -/
def set (c : Config) : (field : Field) → field.Value → Config
  | .directory, path => { c with directory := path }
  | .defaultLocale, locale => { c with defaultLocale := locale }
  | .forcedLocale, locale => { c with forcedLocale := locale }
  | .locales, names => { c with locales := names }
  | .encoding, label => { c with encoding := label }

/-- Reads a value of the field. -/
def read? : (field : Field) → Tree → Option field.Value
  | .directory => textField?
  | .defaultLocale => textField?
  | .forcedLocale => optionalField?
  | .locales => listField?
  | .encoding => textField?

/-- No two fields have one name. -/
theorem name_injective : Function.Injective name := by
  intro field other h
  cases field <;> cases other <;> first | rfl | exact absurd h (by decide)

/-- What was set in a field is there. -/
theorem get_set_self (c : Config) (field : Field) (value : field.Value) :
    get (set c field value) field = value := by
  cases field <;> rfl

/-- Setting a field leaves the others alone. -/
theorem get_set_of_ne {field other : Field} (h : field ≠ other) (c : Config)
    (value : field.Value) : get (set c field value) other = get c other := by
  cases field <;> cases other <;> first | rfl | exact absurd rfl h

/-- Configurations are equal when all their fields are. -/
theorem ext_get {c d : Config} (h : ∀ field, get c field = get d field) : c = d := by
  have hdirectory : c.directory = d.directory := h .directory
  have hdefault : c.defaultLocale = d.defaultLocale := h .defaultLocale
  have hforced : c.forcedLocale = d.forcedLocale := h .forcedLocale
  have hlocales : c.locales = d.locales := h .locales
  have hencoding : c.encoding = d.encoding := h .encoding
  cases c
  cases d
  exact mk.injEq _ _ _ _ _ _ _ _ _ _ ▸ ⟨hdirectory, hdefault, hforced, hlocales, hencoding⟩

end Field

/-! ## Spelled values -/

/-- The tree is a string, and this is its text. -/
def IsText (tree : Tree) (s : String) : Prop :=
  ∃ units, tree = .string units ∧ text? units = some s.toList

/-- The tree spells the value of the field: a text is a string, no forced locale is null, and the
locales are an array of strings. -/
def Field.IsValue : (field : Field) → field.Value → Tree → Prop
  | .directory, path, tree => IsText tree path
  | .defaultLocale, locale, tree => IsText tree locale
  | .forcedLocale, none, tree => tree = .null
  | .forcedLocale, some locale, tree => IsText tree locale
  | .locales, names, tree => ∃ items, tree = .array items ∧ List.Forall₂ IsText items names
  | .encoding, label, tree => IsText tree label

/-- A text is read from a string that is the text. -/
theorem textField?_eq_some_iff {tree : Tree} {s : String} :
    textField? tree = some s ↔ IsText tree s := by
  unfold IsText
  cases tree with
  | string units =>
    simp only [textField?, Option.map_eq_some_iff, Tree.string.injEq]
    constructor
    · rintro ⟨chars, hchars, rfl⟩
      exact ⟨units, rfl, by rw [hchars, String.toList_ofList]⟩
    · rintro ⟨_, rfl, hchars⟩
      exact ⟨s.toList, hchars, String.ofList_toList⟩
  | _ => simp [textField?]

/-- A list of texts is read from an array of strings that are the texts. -/
theorem listField?_eq_some_iff {tree : Tree} {names : List String} :
    listField? tree = some names ↔
      ∃ items, tree = .array items ∧ List.Forall₂ IsText items names := by
  have hitems : ∀ items : List Tree,
      items.mapM textField? = some names ↔ List.Forall₂ IsText items names := by
    intro items
    induction items generalizing names with
    | nil => simp [eq_comm]
    | cons item items ih =>
      rw [mapM_cons_eq_some_iff, List.forall₂_cons_left_iff]
      simp only [ih, textField?_eq_some_iff]
  cases tree with
  | array items => simp [listField?, hitems]
  | _ => simp [listField?]

/-- No text is read from null, and a text from a string. -/
theorem optionalField?_eq_some_iff {tree : Tree} {locale : Option String} :
    optionalField? tree = some locale ↔ Field.IsValue .forcedLocale locale tree := by
  cases locale with
  | none => cases tree <;> simp [optionalField?, Field.IsValue]
  | some locale =>
    simp only [Field.IsValue, ← textField?_eq_some_iff]
    cases tree <;> simp [optionalField?, textField?]

/-- What is read for a field is the value that the tree spells. -/
theorem Field.read?_eq_some_iff {field : Field} {value : field.Value} {tree : Tree} :
    field.read? tree = some value ↔ field.IsValue value tree := by
  cases field with
  | directory => exact textField?_eq_some_iff
  | defaultLocale => exact textField?_eq_some_iff
  | forcedLocale => exact optionalField?_eq_some_iff
  | locales => exact listField?_eq_some_iff
  | encoding => exact textField?_eq_some_iff

/-! ## Entries -/

/-- A field with a value for it. -/
abbrev Entry := (field : Field) × field.Value

/-- The value of an entry that is one for the field. -/
def Entry.at? (field : Field) (entry : Entry) : Option field.Value :=
  if h : entry.1 = field then some (h ▸ entry.2) else none

/-- The configuration with the entries written over it, one after the other. -/
def written (c : Config) (entries : List Entry) : Config :=
  entries.foldl (fun c entry => Field.set c entry.1 entry.2) c

/-- An entry has its value for its own field. -/
theorem Entry.at?_self (field : Field) (value : field.Value) :
    Entry.at? field ⟨field, value⟩ = some value := dif_pos rfl

/-- An entry has no value for another field. -/
theorem Entry.at?_of_ne {field other : Field} (h : other ≠ field) (value : other.Value) :
    Entry.at? field ⟨other, value⟩ = none := dif_neg h

/-- A field has the last value that is written into it. -/
theorem get_written (c : Config) (entries : List Entry) (field : Field) :
    Field.get (written c entries) field
      = ((entries.filterMap (Entry.at? field)).getLast?).getD (Field.get c field) := by
  induction entries generalizing c with
  | nil => rfl
  | cons entry entries ih =>
    obtain ⟨other, value⟩ := entry
    have hwritten : written c (⟨other, value⟩ :: entries)
        = written (Field.set c other value) entries := rfl
    rw [hwritten, ih]
    by_cases hfield : other = field
    · subst hfield
      rw [Field.get_set_self, List.filterMap_cons_some (Entry.at?_self other value),
        List.getLast?_cons, Option.getD_some]
    · rw [Field.get_set_of_ne hfield, List.filterMap_cons_none (Entry.at?_of_ne hfield value)]

/-- A field has as many values as entries are for it. -/
theorem length_filterMap_at? (field : Field) (entries : List Entry) :
    (entries.filterMap (Entry.at? field)).length = (entries.map Sigma.fst).count field := by
  induction entries with
  | nil => rfl
  | cons entry entries ih =>
    obtain ⟨other, value⟩ := entry
    rw [List.map_cons]
    by_cases hfield : other = field
    · subst hfield
      rw [List.filterMap_cons_some (Entry.at?_self other value), List.length_cons, ih,
        List.count_cons_self]
    · rw [List.filterMap_cons_none (Entry.at?_of_ne hfield value), ih,
        List.count_cons_of_ne hfield]

/-- No two entries are for one field when each field has one at most. -/
theorem nodup_iff_length_at? {entries : List Entry} :
    (entries.map Sigma.fst).Nodup ↔
      ∀ field, (entries.filterMap (Entry.at? field)).length ≤ 1 := by
  simp only [length_filterMap_at?]
  exact List.nodup_iff_count

/-! ## Members -/

/-- Some of the members spell the entries, in order, and the others have names that no field has. -/
inductive Describes : List (List StringUnit × Tree) → List Entry → Prop
  | nil : Describes [] []
  | field {field : Field} {value : field.Value} {spelled : List StringUnit} {tree : Tree}
      {members : List (List StringUnit × Tree)} {entries : List Entry}
      (hname : text? spelled = some field.name.toList) (hvalue : field.IsValue value tree)
      (h : Describes members entries) :
      Describes ((spelled, tree) :: members) (⟨field, value⟩ :: entries)
  | other {name : String} {spelled : List StringUnit} {tree : Tree}
      {members : List (List StringUnit × Tree)} {entries : List Entry}
      (hname : text? spelled = some name.toList) (hother : ∀ field : Field, name ≠ field.name)
      (h : Describes members entries) : Describes ((spelled, tree) :: members) entries

/-- Members have names as texts when the first has one and the others have. -/
theorem named?_cons_eq_some_iff {spelled : List StringUnit} {tree : Tree}
    {members : List (List StringUnit × Tree)} {named : List (String × Tree)} :
    named? ((spelled, tree) :: members) = some named ↔
      ∃ name rest, text? spelled = some name.toList ∧ named? members = some rest ∧
        named = (name, tree) :: rest := by
  unfold named?
  rw [mapM_cons_eq_some_iff]
  constructor
  · rintro ⟨member, rest, hmember, hrest, rfl⟩
    obtain ⟨chars, hchars, rfl⟩ := Option.map_eq_some_iff.1 hmember
    exact ⟨String.ofList chars, rest, by rw [hchars, String.toList_ofList], hrest, rfl⟩
  · rintro ⟨name, rest, hname, hrest, rfl⟩
    exact ⟨(name, tree), rest, by rw [hname, Option.map_some, String.ofList_toList], hrest, rfl⟩

/-- The members with the name of a field are read as the values of the entries for it. -/
theorem Describes.exists_named {members : List (List StringUnit × Tree)} {entries : List Entry}
    (h : Describes members entries) :
    ∃ named, named? members = some named ∧ ∀ field : Field,
      (named.filter (·.1 == field.name)).map (fun member => field.read? member.2)
        = (entries.filterMap (Entry.at? field)).map some := by
  induction h with
  | nil => exact ⟨[], rfl, fun _ => rfl⟩
  | @field other value spelled tree members entries hname hvalue _ ih =>
    obtain ⟨named, hnamed, hread⟩ := ih
    refine ⟨(other.name, tree) :: named,
      named?_cons_eq_some_iff.2 ⟨_, _, hname, hnamed, rfl⟩, ?_⟩
    intro field
    by_cases hfield : other = field
    · subst hfield
      rw [List.filter_cons_of_pos (by simp), List.filterMap_cons_some (Entry.at?_self other value),
        List.map_cons, List.map_cons, hread, Field.read?_eq_some_iff.2 hvalue]
    · have hnames : other.name ≠ field.name := fun heq => hfield (Field.name_injective heq)
      rw [List.filter_cons_of_neg (by simpa using hnames),
        List.filterMap_cons_none (Entry.at?_of_ne hfield value), hread]
  | @other name spelled tree members entries hname hother _ ih =>
    obtain ⟨named, hnamed, hread⟩ := ih
    refine ⟨(name, tree) :: named, named?_cons_eq_some_iff.2 ⟨_, _, hname, hnamed, rfl⟩, ?_⟩
    intro field
    rw [List.filter_cons_of_neg (by simpa using hother field), hread]

/-! ## Objects -/

/-- An object is read when its names are texts and every field is read, and gives what is read for
the fields. -/
theorem ofMembers?_eq_some_iff {members : List (List StringUnit × Tree)} {c : Config} :
    ofMembers? members = some c ↔ ∃ named, named? members = some named ∧ ∀ field : Field,
      field? named field.name (Field.get default field) field.read?
        = some (Field.get c field) := by
  unfold ofMembers?
  simp only [Option.bind_eq_bind, Option.bind_eq_some_iff]
  constructor
  · rintro ⟨named, hnamed, directory, hdirectory, locale, hlocale, forced, hforced, locales,
      hlocales, encoding, hencoding, heq⟩
    cases heq
    refine ⟨named, hnamed, fun field => ?_⟩
    cases field <;> assumption
  · rintro ⟨named, hnamed, hfields⟩
    exact ⟨named, hnamed, c.directory, hfields .directory, c.defaultLocale, hfields .defaultLocale,
      c.forcedLocale, hfields .forcedLocale, c.locales, hfields .locales, c.encoding,
      hfields .encoding, rfl⟩

section Fields

variable {α : Type} {members : List (String × Tree)} {name : String} {fallback : α}
  {read : Tree → Option α}

/-- A field has the fallback or the one value that is read for it. -/
theorem field?_of_values {values : List α}
    (h : (members.filter (·.1 == name)).map (fun member => read member.2) = values.map some) :
    field? members name fallback read
      = if values.length ≤ 1 then some (values.getLast?.getD fallback) else none := by
  unfold field?
  generalize members.filter (·.1 == name) = found at h ⊢
  cases found with
  | nil =>
    cases values with
    | nil => rfl
    | cons value values => cases h
  | cons member found =>
    cases values with
    | nil => cases h
    | cons value values =>
      obtain ⟨hread, hrest⟩ := List.cons.inj h
      cases found with
      | nil =>
        cases values with
        | nil => exact hread
        | cons value values => cases hrest
      | cons member found =>
        cases values with
        | nil => cases hrest
        | cons value values => rfl

/-- A member with the name of a field that has a value is read. -/
theorem read_of_field? {value : α} (h : field? members name fallback read = some value)
    {member : String × Tree} (hmember : member ∈ members) (hname : member.1 = name) :
    read member.2 = some value := by
  have hmem : member ∈ members.filter (·.1 == name) :=
    List.mem_filter.2 ⟨hmember, by simpa using hname⟩
  unfold field? at h
  split at h
  · next hnone =>
    rw [hnone] at hmem
    cases hmem
  · next one hone =>
    rw [hone] at hmem
    rw [List.mem_singleton.1 hmem]
    exact h
  · cases h

end Fields

/-- What is read from members that describe entries. -/
theorem Describes.ofMembers?_eq_some_iff {members : List (List StringUnit × Tree)}
    {entries : List Entry} (h : Describes members entries) {c : Config} :
    ofMembers? members = some c ↔
      (entries.map Sigma.fst).Nodup ∧ written default entries = c := by
  obtain ⟨named, hnamed, hvalues⟩ := h.exists_named
  have hfield : ∀ field : Field,
      field? named field.name (Field.get default field) field.read?
          = some (Field.get c field) ↔
        (entries.filterMap (Entry.at? field)).length ≤ 1 ∧
          Field.get (written default entries) field = Field.get c field := by
    intro field
    rw [field?_of_values (hvalues field), get_written]
    split
    · next hone => simp [hone]
    · next hmany => simp [hmany]
  rw [Config.ofMembers?_eq_some_iff, nodup_iff_length_at?]
  simp only [hnamed, Option.some.injEq, exists_eq_left', hfield]
  constructor
  · intro hfields
    exact ⟨fun field => (hfields field).1, Field.ext_get fun field => (hfields field).2⟩
  · rintro ⟨hone, rfl⟩ field
    exact ⟨hone field, rfl⟩

/-- Members from which something is read describe entries. -/
theorem exists_describes {members : List (List StringUnit × Tree)} {c : Config}
    (h : ofMembers? members = some c) : ∃ entries, Describes members entries := by
  obtain ⟨named, hnamed, hfields⟩ := ofMembers?_eq_some_iff.1 h
  have hread : ∀ member ∈ named, ∀ field : Field, member.1 = field.name →
      ∃ value, field.read? member.2 = some value :=
    fun member hmember field hname => ⟨_, read_of_field? (hfields field) hmember hname⟩
  clear h hfields
  induction members generalizing named with
  | nil => exact ⟨[], .nil⟩
  | cons member members ih =>
    obtain ⟨spelled, tree⟩ := member
    obtain ⟨name, rest, hname, hrest, rfl⟩ := named?_cons_eq_some_iff.1 hnamed
    obtain ⟨entries, hentries⟩ := ih rest hrest fun member hmember =>
      hread member (List.mem_cons_of_mem _ hmember)
    by_cases hknown : ∃ field : Field, name = field.name
    · obtain ⟨field, rfl⟩ := hknown
      obtain ⟨value, hvalue⟩ := hread _ List.mem_cons_self field rfl
      exact ⟨_, .field hname (Field.read?_eq_some_iff.1 hvalue) hentries⟩
    · exact ⟨entries, .other hname (fun field heq => hknown ⟨field, heq⟩) hentries⟩

/-- What is read from an object is the default with entries for different fields written over it,
and these are what its members describe. -/
theorem ofMembers?_eq_some_iff_describes {members : List (List StringUnit × Tree)} {c : Config} :
    ofMembers? members = some c ↔ ∃ entries, Describes members entries ∧
      (entries.map Sigma.fst).Nodup ∧ written default entries = c := by
  constructor
  · intro hread
    obtain ⟨entries, hentries⟩ := exists_describes hread
    exact ⟨entries, hentries, hentries.ofMembers?_eq_some_iff.1 hread⟩
  · rintro ⟨entries, hentries, hwritten⟩
    exact hentries.ofMembers?_eq_some_iff.2 hwritten

/-- A member with the name of a field spells an entry for it. -/
theorem Describes.exists_split {field : Field} {before behind : List (List StringUnit × Tree)}
    {spelled : List StringUnit} {tree : Tree} {entries : List Entry}
    (h : Describes (before ++ (spelled, tree) :: behind) entries)
    (hname : text? spelled = some field.name.toList) :
    ∃ front value back, entries = front ++ ⟨field, value⟩ :: back ∧ Describes behind back := by
  induction before generalizing entries with
  | nil =>
    cases h with
    | @field other value _ _ _ _ hother _ h =>
      rw [hname, Option.some.injEq, String.toList_inj] at hother
      obtain rfl := Field.name_injective hother
      exact ⟨[], value, _, rfl, h⟩
    | @other name _ _ _ _ hother hnone h =>
      rw [hname, Option.some.injEq, String.toList_inj] at hother
      exact absurd hother.symm (hnone field)
  | cons member before ih =>
    cases h with
    | @field other value _ _ _ _ _ _ h =>
      obtain ⟨front, found, back, rfl, hback⟩ := ih h
      exact ⟨⟨other, value⟩ :: front, found, back, rfl, hback⟩
    | other _ _ h => exact ih h

/-- Nothing is read from members that name a field twice. -/
theorem ofMembers?_of_repeated {field : Field}
    {before between behind : List (List StringUnit × Tree)} {first second : List StringUnit}
    {tree other : Tree} (hfirst : text? first = some field.name.toList)
    (hsecond : text? second = some field.name.toList) :
    ofMembers? (before ++ (first, tree) :: (between ++ (second, other) :: behind)) = none := by
  rw [Option.eq_none_iff_forall_ne_some]
  intro c hread
  obtain ⟨entries, hentries, hnodup, -⟩ := ofMembers?_eq_some_iff_describes.1 hread
  obtain ⟨front, value, back, rfl, hback⟩ := hentries.exists_split hfirst
  obtain ⟨middle, again, rest, rfl, -⟩ := hback.exists_split hsecond
  rw [List.map_append, List.map_cons, List.nodup_append, List.nodup_cons] at hnodup
  exact hnodup.2.1.1 (by simp)

/-! ## Arrays -/

/-- The place of a field among the fields. -/
def Field.place : Field → Nat
  | .directory => 0
  | .defaultLocale => 1
  | .forcedLocale => 2
  | .locales => 3
  | .encoding => 4

/-- Every field is in its place. -/
theorem Field.getElem?_inOrder (field : Field) : inOrder[field.place]? = some field := by
  cases field <;> rfl

/-- An array that is not too long is read when every field is read in its place. -/
theorem ofItems?_eq_some_iff {items : List Tree} (h : items.length ≤ 5) {c : Config} :
    ofItems? items = some c ↔ ∀ field : Field,
      item? items field.place (Field.get default field) field.read?
        = some (Field.get c field) := by
  unfold ofItems?
  simp only [Option.bind_eq_bind, Option.bind_eq_some_iff, h, if_true]
  constructor
  · rintro ⟨directory, hdirectory, locale, hlocale, forced, hforced, locales, hlocales, encoding,
      hencoding, heq⟩ field
    cases heq
    cases field <;> assumption
  · intro hfields
    exact ⟨c.directory, hfields .directory, c.defaultLocale, hfields .defaultLocale,
      c.forcedLocale, hfields .forcedLocale, c.locales, hfields .locales, c.encoding,
      hfields .encoding, rfl⟩

/-- Among members with the names of different fields, the one for a field is in its place. -/
theorem filter_zip_name {fields : List Field} (hnodup : fields.Nodup) {field : Field} {place : Nat}
    (hplace : fields[place]? = some field) (items : List Tree) :
    ((fields.map Field.name).zip items).filter (·.1 == field.name)
      = items[place]?.toList.map fun item => (field.name, item) := by
  induction fields generalizing items place with
  | nil => cases hplace
  | cons first fields ih =>
    obtain ⟨hfirst, hrest⟩ := List.nodup_cons.1 hnodup
    cases items with
    | nil => rfl
    | cons item items =>
      rw [List.map_cons, List.zip_cons_cons]
      cases place with
      | zero =>
        obtain rfl : first = field := Option.some.inj hplace
        have hnone : ((fields.map Field.name).zip items).filter (·.1 == first.name) = [] := by
          rw [List.filter_eq_nil_iff]
          rintro ⟨name, tree⟩ hmember hname
          obtain ⟨other, hother, heq⟩ := List.mem_map.1 (List.of_mem_zip hmember).1
          have hsame : other = first := Field.name_injective (heq.trans (beq_iff_eq.1 hname))
          exact hfirst (hsame ▸ hother)
        rw [List.filter_cons_of_pos (by simp), hnone]
        rfl
      | succ place =>
        rw [List.getElem?_cons_succ] at hplace
        have hne : first.name ≠ field.name := by
          intro heq
          exact hfirst (Field.name_injective heq ▸ List.mem_of_getElem? hplace)
        rw [List.filter_cons_of_neg (by simpa using hne), ih hrest hplace, List.getElem?_cons_succ]

/-- A field that is looked for by its name among named items is looked for in its place. -/
theorem field?_zip {α : Type} (items : List Tree) (field : Field) (fallback : α)
    (read : Tree → Option α) :
    field? ((Field.inOrder.map Field.name).zip items) field.name fallback read
      = item? items field.place fallback read := by
  unfold field? item?
  rw [filter_zip_name (by decide) field.getElem?_inOrder]
  cases items[field.place]? <;> rfl

/-- The members have the names of the first fields, so many of them, in order. -/
def Names (k : Nat) (members : List (List StringUnit × Tree)) : Prop :=
  List.Forall₂ (fun field member => text? member.1 = some (Field.name field).toList)
    (Field.inOrder.take k) members

/-- Members that are named by the first fields have these names. -/
theorem named?_of_forall₂ {fields : List Field} {k : Nat}
    {members : List (List StringUnit × Tree)}
    (h : List.Forall₂ (fun field member => text? member.1 = some (Field.name field).toList)
      (fields.take k) members) :
    named? members = some ((fields.map Field.name).zip (members.map Prod.snd)) := by
  induction fields generalizing k members with
  | nil =>
    rw [List.take_nil, List.forall₂_nil_left_iff] at h
    rw [h]
    rfl
  | cons field fields ih =>
    cases k with
    | zero =>
      rw [List.take_zero, List.forall₂_nil_left_iff] at h
      rw [h]
      rfl
    | succ k =>
      rw [List.take_succ_cons, List.forall₂_cons_left_iff] at h
      obtain ⟨⟨spelled, tree⟩, rest, hname, hrest, rfl⟩ := h
      exact named?_cons_eq_some_iff.2 ⟨_, _, hname, ih hrest, rfl⟩

/-- An array is read as the object that gives its items the names of the fields in order. -/
theorem ofItems?_eq_ofMembers? {k : Nat} {members : List (List StringUnit × Tree)}
    (h : Names k members) : ofItems? (members.map Prod.snd) = ofMembers? members := by
  have hlength : (members.map Prod.snd).length ≤ 5 := by
    rw [List.length_map, ← h.length_eq, List.length_take]
    exact Nat.min_le_right _ _
  apply Option.ext
  intro c
  rw [ofItems?_eq_some_iff hlength, Config.ofMembers?_eq_some_iff, named?_of_forall₂ h]
  simp only [Option.some.injEq, exists_eq_left', field?_zip]

/-! ## Writing -/

/-- The value of a field as it is written. -/
def Field.toJson : (field : Field) → field.Value → Json.Value
  | .directory, path => .string path
  | .defaultLocale, locale => .string locale
  | .forcedLocale, none => .null
  | .forcedLocale, some locale => .string locale
  | .locales, names => .array (names.map .string)
  | .encoding, label => .string label

/-- The value of a field as it is read back. -/
def Field.tree : (field : Field) → field.Value → Tree
  | .directory, path => .string (Json.unitsOf path)
  | .defaultLocale, locale => .string (Json.unitsOf locale)
  | .forcedLocale, none => .null
  | .forcedLocale, some locale => .string (Json.unitsOf locale)
  | .locales, names => .array (names.map fun name => .string (Json.unitsOf name))
  | .encoding, label => .string (Json.unitsOf label)

/-- What is written for a field is read as the tree of its value. -/
theorem Field.spells (field : Field) (value : field.Value) :
    Json.Spells (field.toJson value) (field.tree value) := by
  cases field with
  | directory => exact Json.spells_string value
  | defaultLocale => exact Json.spells_string value
  | forcedLocale =>
    cases value with
    | none => exact Json.spells_null
    | some locale => exact Json.spells_string locale
  | locales => exact Json.spells_array fun name _ => Json.spells_string name
  | encoding => exact Json.spells_string value

/-- The pieces of a written text spell the text. -/
theorem isText_unitsOf (s : String) : IsText (.string (Json.unitsOf s)) s :=
  ⟨_, rfl, Json.text?_unitsOf s⟩

/-- The tree of a value spells the value. -/
theorem Field.isValue_tree (field : Field) (value : field.Value) :
    field.IsValue value (field.tree value) := by
  cases field with
  | directory => exact isText_unitsOf value
  | defaultLocale => exact isText_unitsOf value
  | forcedLocale =>
    cases value with
    | none => rfl
    | some locale => exact isText_unitsOf locale
  | locales =>
    refine ⟨_, rfl, ?_⟩
    rw [List.forall₂_map_left_iff, List.forall₂_same]
    exact fun name _ => isText_unitsOf name
  | encoding => exact isText_unitsOf value

/-- A configuration is written field by field, in order. -/
theorem toJson_eq (c : Config) :
    toJson c = .object (Field.inOrder.map fun field =>
      (field.name, field.toJson (Field.get c field))) := by
  obtain ⟨directory, defaultLocale, forcedLocale, locales, encoding⟩ := c
  cases forcedLocale <;> rfl

/-- What is written of some fields describes entries for them. -/
theorem describes_map (c : Config) (fields : List Field) :
    Describes (fields.map fun field => (Json.unitsOf field.name, field.tree (Field.get c field)))
      (fields.map fun field => ⟨field, Field.get c field⟩) := by
  induction fields with
  | nil => exact .nil
  | cons field fields ih =>
    exact .field (Json.text?_unitsOf field.name) (field.isValue_tree _) ih

/-! ## Documents -/

/-- The text of an object is read from its members. -/
theorem ofText?_of_object {text : String} {members : List (List StringUnit × Tree)}
    (h : PaddedText (.object members) text.toList) : ofText? text = ofMembers? members := by
  rw [ofText?, Tree.ofText?_eq_some_iff.2 h]

/-- The text of an array is read from its items. -/
theorem ofText?_of_array {text : String} {items : List Tree}
    (h : PaddedText (.array items) text.toList) : ofText? text = ofItems? items := by
  rw [ofText?, Tree.ofText?_eq_some_iff.2 h]

/-- A configuration that is written down is read back. -/
theorem ofText?_toJson (c : Config) : ofText? (toJson c).compact = some c := by
  have hspells : Json.Spells (toJson c) (.object (Field.inOrder.map fun field =>
      (Json.unitsOf field.name, field.tree (Field.get c field)))) := by
    rw [toJson_eq]
    exact Json.spells_object fun field _ => field.spells (Field.get c field)
  rw [ofText?, hspells.ofText?]
  have hnodup : ((Field.inOrder.map fun field =>
      (⟨field, Field.get c field⟩ : Entry)).map Sigma.fst).Nodup := by
    rw [List.map_map]
    exact (by decide : Field.inOrder.Nodup)
  exact (describes_map c Field.inOrder).ofMembers?_eq_some_iff.2 ⟨hnodup, rfl⟩

/-- A configuration that is written is read back. The text of an object is read when its members
describe entries for different fields, and gives the default with the entries written over it: this
is so in any order of the members, and whatever the values are whose names no field has. An object
that names a field twice is refused wherever the two members stand. An array is read as the object
that gives its items the names of the first fields. -/
theorem documents_overwrite_default :
    (∀ c : Config, ofText? (toJson c).compact = some c) ∧
    (∀ (text : String) (members : List (List StringUnit × Tree)),
      PaddedText (.object members) text.toList →
        (∀ c, ofText? text = some c ↔ ∃ entries, Describes members entries ∧
          (entries.map Sigma.fst).Nodup ∧ written default entries = c) ∧
        ∀ (field : Field) before first tree between second other behind,
          members = before ++ (first, tree) :: (between ++ (second, other) :: behind) →
          text? first = some field.name.toList → text? second = some field.name.toList →
          ofText? text = none) ∧
    ∀ (k : Nat) (text list : String) (members : List (List StringUnit × Tree)),
      Names k members → PaddedText (.object members) text.toList →
        PaddedText (.array (members.map Prod.snd)) list.toList → ofText? list = ofText? text := by
  refine ⟨ofText?_toJson, ?_, ?_⟩
  · intro text members htext
    rw [ofText?_of_object htext]
    refine ⟨fun c => ofMembers?_eq_some_iff_describes, ?_⟩
    rintro field before first tree between second other behind rfl hfirst hsecond
    exact ofMembers?_of_repeated hfirst hsecond
  · intro k text list members hnames htext hlist
    rw [ofText?_of_object htext, ofText?_of_array hlist, ofItems?_eq_ofMembers? hnames]

/-- The members of an object. Other trees have none. -/
def membersOf : Tree → List (List StringUnit × Tree)
  | .object members => members
  | _ => []

/-- A document with a member is an object. -/
theorem exists_members_of_read {α : Type} {text : String} {f : List StringUnit × Tree → α}
    {first : α} {rest : List α}
    (h : (Tree.ofText? text.toList).map (fun tree => (membersOf tree).map f)
      = some (first :: rest)) :
    ∃ members, PaddedText (.object members) text.toList ∧ members.map f = first :: rest := by
  obtain ⟨tree, htext, hmembers⟩ := Option.map_eq_some_iff.1 h
  cases tree with
  | object members => exact ⟨members, Tree.ofText?_eq_some_iff.1 htext, hmembers⟩
  | _ => cases hmembers

/-- Members in another order than the fields, one of them with an escaped name and one with a name
that no field has and a value that is none; a field that is named a second time, with an escape; and
the first three values in an array. -/
theorem documents_overwrite_default_partly :
    let text :=
      " \x7b\"locales\": [\"EN\", \"\"], \"x\":[\"\\ud800\",1e999],\"\\u0065ncoding\":\"\"\x7d"
    let entries : List Entry := [⟨.locales, ["EN", ""]⟩, ⟨.encoding, ""⟩]
    let repeated := "\x7b\"locales\":1,\"x\":null,\"\\u006cocales\":[]\x7d"
    let first :=
      "\x7b\"dictionary_dir\":\"d\",\"default_locale\":\"-US\",\"forced_locale\":null\x7d"
    (∃ members, PaddedText (.object members) text.toList ∧ Describes members entries ∧
      (entries.map Sigma.fst).Nodup ∧ ofText? text
        = some { directory := "locales", defaultLocale := "en", forcedLocale := none,
                 locales := ["EN", ""], encoding := "" }) ∧
    (∃ name other value, PaddedText (.object [(Json.unitsOf "locales", value),
        (Json.unitsOf "x", .null), (name, other)]) repeated.toList ∧
      text? name = some "locales".toList ∧ ofText? repeated = none) ∧
    (∃ members, Names 3 members ∧ PaddedText (.object members) first.toList ∧
      PaddedText (.array (members.map Prod.snd)) "[\"d\",\"-US\",null]".toList ∧
      ofText? "[\"d\",\"-US\",null]" = ofText? first) := by
  intro text entries repeated first
  obtain ⟨-, hobject, harray⟩ := documents_overwrite_default
  refine ⟨?_, ?_, ?_⟩
  · have hread : (Tree.ofText? text.toList).map (fun tree =>
        (membersOf tree).map fun member =>
          (text? member.1, listField? member.2, textField? member.2))
        = some [(some "locales".toList, some ["EN", ""], none), (some "x".toList, none, none),
          (some "encoding".toList, none, some "")] := by
      decide +kernel
    obtain ⟨members, hpadded, hmembers⟩ := exists_members_of_read hread
    obtain ⟨⟨locales, names⟩, _, rfl, hlocales, hmembers⟩ := List.map_eq_cons_iff.1 hmembers
    obtain ⟨⟨unknown, other⟩, _, rfl, hunknown, hmembers⟩ := List.map_eq_cons_iff.1 hmembers
    obtain ⟨⟨encoding, label⟩, _, rfl, hencoding, hmembers⟩ := List.map_eq_cons_iff.1 hmembers
    obtain rfl := List.map_eq_nil_iff.1 hmembers
    simp only [Prod.mk.injEq] at hlocales hunknown hencoding
    have hother : ∀ field : Field, "x" ≠ field.name := by
      intro field
      cases field <;> decide
    have hnames : Field.IsValue .locales ["EN", ""] names :=
      listField?_eq_some_iff.1 hlocales.2.1
    have hlabel : Field.IsValue .encoding "" label := textField?_eq_some_iff.1 hencoding.2.2
    have hdescribes : Describes [(locales, names), (unknown, other), (encoding, label)] entries :=
      .field hlocales.1 hnames (.other hunknown.1 hother (.field hencoding.1 hlabel .nil))
    have hnodup : (entries.map Sigma.fst).Nodup := by decide
    exact ⟨_, hpadded, hdescribes, hnodup,
      ((hobject text _ hpadded).1 _).2 ⟨entries, hdescribes, hnodup, rfl⟩⟩
  · have hread : (Tree.ofText? repeated.toList).map (fun tree =>
        (membersOf tree).map fun member => (member.1, optionalField? member.2))
        = some [(Json.unitsOf "locales", none), (Json.unitsOf "x", some none),
          (.code 0x6C :: Json.unitsOf "ocales", none)] := by
      decide +kernel
    obtain ⟨members, hpadded, hmembers⟩ := exists_members_of_read hread
    obtain ⟨⟨first, value⟩, _, rfl, hfirst, hmembers⟩ := List.map_eq_cons_iff.1 hmembers
    obtain ⟨⟨unknown, nothing⟩, _, rfl, hunknown, hmembers⟩ := List.map_eq_cons_iff.1 hmembers
    obtain ⟨⟨again, second⟩, _, rfl, hagain, hmembers⟩ := List.map_eq_cons_iff.1 hmembers
    obtain rfl := List.map_eq_nil_iff.1 hmembers
    obtain ⟨rfl, -⟩ := Prod.mk.inj hfirst
    obtain ⟨rfl, hnull⟩ := Prod.mk.inj hunknown
    obtain ⟨rfl, -⟩ := Prod.mk.inj hagain
    obtain rfl : nothing = .null := optionalField?_eq_some_iff.1 hnull
    have hname : text? (.code 0x6C :: Json.unitsOf "ocales") = some "locales".toList := by
      decide +kernel
    exact ⟨_, _, _, hpadded, hname, (hobject repeated _ hpadded).2 .locales [] _ _ [_] _ _ []
      rfl (Json.text?_unitsOf "locales") hname⟩
  · let values : List Entry := [⟨.directory, "d"⟩, ⟨.defaultLocale, "-US"⟩, ⟨.forcedLocale, none⟩]
    let members : List (List StringUnit × Tree) :=
      values.map fun entry => (Json.unitsOf entry.1.name, entry.1.tree entry.2)
    have hnames : Names 3 members :=
      .cons (Json.text?_unitsOf _)
        (.cons (Json.text?_unitsOf _) (.cons (Json.text?_unitsOf _) .nil))
    have hmembers : Json.Spells
        (.object (values.map fun entry => (entry.1.name, entry.1.toJson entry.2)))
        (.object members) :=
      Json.spells_object fun entry _ => entry.1.spells entry.2
    have hitems : Json.Spells (.array (values.map fun entry => entry.1.toJson entry.2))
        (.array (members.map Prod.snd)) :=
      Json.spells_array fun (entry : Entry) _ => entry.1.spells entry.2
    have hfirst : (Json.Value.object
        (values.map fun entry => (entry.1.name, entry.1.toJson entry.2))).compact = first := by
      decide +kernel
    have hlist : (Json.Value.array
        (values.map fun entry => entry.1.toJson entry.2)).compact = "[\"d\",\"-US\",null]" := by
      decide +kernel
    have hpadded : PaddedText (.object members) first.toList :=
      Tree.ofText?_eq_some_iff.1 (hfirst ▸ hmembers.ofText?)
    have hpaddedItems : PaddedText (.array (members.map Prod.snd)) "[\"d\",\"-US\",null]".toList :=
      Tree.ofText?_eq_some_iff.1 (hlist ▸ hitems.ofText?)
    exact ⟨members, hnames, hpadded, hpaddedItems, harray 3 _ _ members hnames hpadded hpaddedItems⟩

/-- A name with half of a surrogate pair is no field's, but it is not passed over: the text of an
object with that name is refused, where the same object with an `x` for its name is the default. -/
theorem documents_refuse_half_names :
    let text := "\x7b\"\\ud800\":1\x7d"
    (∃ members, PaddedText (.object members) text.toList ∧
      ∀ member ∈ members, ∀ field : Field, text? member.1 ≠ some field.name.toList) ∧
    ofText? text = none ∧ ofText? "\x7b\"x\":1\x7d" = some default := by
  intro text
  refine ⟨?_, by decide +kernel, by decide +kernel⟩
  have hread : (Tree.ofText? text.toList).map (fun tree =>
      (membersOf tree).map fun member => text? member.1) = some [none] := by
    decide +kernel
  obtain ⟨members, htext, hnames⟩ := exists_members_of_read hread
  refine ⟨members, htext, ?_⟩
  intro member hmember field hname
  have hnone : text? member.1 ∈ [none] := hnames ▸ List.mem_map_of_mem hmember
  rw [hname] at hnone
  cases List.mem_singleton.1 hnone

end Phrasebook.Config
