import Mathlib.Data.List.Forall2
import Phrasebook.Proofs.Compiling
import Phrasebook.Proofs.JsonGrammar
import Phrasebook.Proofs.Magnitudes
import Phrasebook.Proofs.Serialising
import Phrasebook.Proofs.ShelfLookup
import Phrasebook.Speaker

/-!
# What a text means as a dictionary

A document has a value when nothing in it is beyond what values represent (`Tree.Representable`):
one thing that is, anywhere in the document, leaves it without a value. The members of a document
then stand next to the members of its value, one to one, and what is found under a name is the value
of the last member with that name (`get?_ofList_iff_lastMember`). From there on a draft is a matter
of single members.
-/

set_option autoImplicit false

namespace Phrasebook

section Pairs

variable {α β : Type} {R : α → β → Prop}

/-- A place in the second list is a place in the first. -/
theorem exists_split_left {xs : List α} {before : List β} {y : β} {behind : List β}
    (h : List.Forall₂ R xs (before ++ y :: behind)) :
    ∃ front x back, xs = front ++ x :: back ∧ R x y ∧ List.Forall₂ R back behind := by
  induction before generalizing xs with
  | nil =>
    obtain ⟨x, back, hxy, hback, rfl⟩ := List.forall₂_cons_right_iff.1 h
    exact ⟨[], x, back, rfl, hxy, hback⟩
  | cons b before ih =>
    obtain ⟨x, xs, -, hrest, rfl⟩ := List.forall₂_cons_right_iff.1 h
    obtain ⟨front, y, back, rfl, hxy, hback⟩ := ih hrest
    exact ⟨x :: front, y, back, rfl, hxy, hback⟩

/-- A place in the first list is a place in the second. -/
theorem exists_split_right {front : List α} {x : α} {back : List α} {ys : List β}
    (h : List.Forall₂ R (front ++ x :: back) ys) :
    ∃ before y behind, ys = before ++ y :: behind ∧ R x y ∧ List.Forall₂ R back behind := by
  obtain ⟨before, y, behind, hys, hxy, hback⟩ := exists_split_left (R := flip R) h.flip
  exact ⟨before, y, behind, hys, hxy, hback.flip⟩

end Pairs

namespace Json

/-! ## Documents that have values -/

/-- The pieces of a string in which every escaped surrogate is half of a pair. -/
inductive Paired : List StringUnit → Prop
  | nil : Paired []
  | char {c : Char} {units : List StringUnit} (h : Paired units) : Paired (.char c :: units)
  | code {n : Nat} {units : List StringUnit} (hn : n < 0xD800 ∨ 0xDFFF < n) (h : Paired units) :
      Paired (.code n :: units)
  | pair {lead trail : Nat} {units : List StringUnit} (hlead : 0xD800 ≤ lead ∧ lead ≤ 0xDBFF)
      (htrail : 0xDC00 ≤ trail ∧ trail ≤ 0xDFFF) (h : Paired units) :
      Paired (.code lead :: .code trail :: units)

/-- The first halves of pairs of surrogates, by their range. -/
theorem isLeadSurrogate_iff (n : Nat) :
    Text.isLeadSurrogate n = true ↔ 0xD800 ≤ n ∧ n ≤ 0xDBFF := by
  rw [Text.isLeadSurrogate, decide_eq_true_eq]

/-- The second halves of pairs of surrogates, by their range. -/
theorem isTrailSurrogate_iff (n : Nat) :
    Text.isTrailSurrogate n = true ↔ 0xDC00 ≤ n ∧ n ≤ 0xDFFF := by
  rw [Text.isTrailSurrogate, decide_eq_true_eq]

/-- The strings that are text are those without half a pair. -/
theorem isSome_text? (units : List StringUnit) : (text? units).isSome = true ↔ Paired units := by
  fun_induction text? units with
  | case1 => exact iff_of_true rfl .nil
  | case2 c rest ih =>
    rw [Option.isSome_map, ih]
    exact ⟨.char, fun h => by cases h; assumption⟩
  | case3 n hn m rest hm ih =>
    rw [isLeadSurrogate_iff] at hn
    rw [Option.isSome_map, ih]
    refine ⟨.pair hn ((isTrailSurrogate_iff m).1 hm), fun h => ?_⟩
    cases h with
    | code hplain _ => omega
    | pair _ _ h => exact h
  | case4 n hn m rest hm =>
    rw [isLeadSurrogate_iff] at hn
    refine iff_of_false (by simp) fun h => ?_
    cases h with
    | code hplain _ => omega
    | pair _ hm' _ => exact hm ((isTrailSurrogate_iff m).2 hm')
  | case5 n rest hn halone =>
    rw [isLeadSurrogate_iff] at hn
    refine iff_of_false (by simp) fun h => ?_
    cases h with
    | code hplain _ => omega
    | pair _ _ _ => exact halone _ _ rfl
  | case6 n rest hn hm =>
    rw [isTrailSurrogate_iff] at hm
    refine iff_of_false (by simp) fun h => ?_
    cases h with
    | code hplain _ => omega
    | pair hn' _ _ => exact hn ((isLeadSurrogate_iff n).2 hn')
  | case7 n rest hn hm ih =>
    rw [isLeadSurrogate_iff] at hn
    rw [isTrailSurrogate_iff] at hm
    rw [Option.isSome_map, ih]
    refine ⟨.code (by omega), fun h => ?_⟩
    cases h with
    | code _ h => exact h
    | pair hn' _ _ => exact absurd hn' hn

/-- Every string is text and no number is beyond the largest double. -/
inductive Tree.Meaningful : Tree → Prop
  | null : Meaningful .null
  | bool (b : Bool) : Meaningful (.bool b)
  | number {n : Numeral} (h : n.InRange) : Meaningful (.number n)
  | string {units : List StringUnit} (h : Paired units) : Meaningful (.string units)
  | array {items : List Tree} (h : ∀ item ∈ items, Meaningful item) : Meaningful (.array items)
  | object {members : List (List StringUnit × Tree)}
      (hnames : ∀ member ∈ members, Paired member.1)
      (hvalues : ∀ member ∈ members, Meaningful member.2) : Meaningful (.object members)

/-- Nothing in the document is beyond what a value represents: it is not nested too deep, no string
and no name has half a character, and no number lies beyond the largest double. -/
structure Tree.Representable (tree : Tree) : Prop where
  shallow : tree.depth ≤ Value.maxDepth
  meaningful : tree.Meaningful

namespace Value

/-- Items have values when each of them has one. -/
theorem resolveItems?_eq_some_iff {items : List Tree} {values : List Value} :
    resolveItems? items = some values ↔
      List.Forall₂ (fun item value => resolve? item = some value) items values := by
  induction items generalizing values with
  | nil => simp [resolveItems?, eq_comm]
  | cons item items ih =>
    rw [resolveItems?, List.forall₂_cons_left_iff]
    simp only [← ih]
    cases resolve? item with
    | none => simp
    | some value =>
      cases resolveItems? items with
      | none => simp
      | some values => simp [eq_comm]

/-- A member of a document and the member of its value that stands in the same place. -/
def Resolves (member : List StringUnit × Tree) (entry : String × Value) : Prop :=
  text? member.1 = some entry.1.toList ∧ resolve? member.2 = some entry.2

/-- Members have values when each of them has a name and a value. -/
theorem resolveMembers?_eq_some_iff {members : List (List StringUnit × Tree)}
    {entries : List (String × Value)} :
    resolveMembers? members = some entries ↔ List.Forall₂ Resolves members entries := by
  induction members generalizing entries with
  | nil => simp [resolveMembers?, eq_comm]
  | cons member members ih =>
    obtain ⟨name, tree⟩ := member
    rw [resolveMembers?, List.forall₂_cons_left_iff]
    simp only [← ih, Resolves]
    cases htext : text? name with
    | none => simp
    | some chars =>
      cases resolve? tree with
      | none => simp
      | some value =>
        cases resolveMembers? members with
        | none => simp
        | some entries =>
          simp only [Option.some.injEq]
          constructor
          · rintro rfl
            exact ⟨_, _, ⟨by simp, rfl⟩, rfl, rfl⟩
          · rintro ⟨entry, rest, ⟨hname, rfl⟩, rfl, rfl⟩
            rw [hname, String.ofList_toList]

mutual

/-- A tree has a value exactly when it is meaningful. The recursion is that of the tree. -/
theorem isSome_resolve? : (tree : Tree) → ((resolve? tree).isSome = true ↔ tree.Meaningful)
  | .null => iff_of_true rfl .null
  | .bool b => iff_of_true rfl (.bool b)
  | .number n => by
    rw [resolve?, Option.isSome_map, Numeral.isSome_number?]
    exact ⟨.number, fun h => by cases h; assumption⟩
  | .string units => by
    rw [resolve?, Option.isSome_map, isSome_text?]
    exact ⟨.string, fun h => by cases h; assumption⟩
  | .array items => by
    rw [resolve?, Option.isSome_map, isSome_resolveItems? items]
    exact ⟨.array, fun h => by cases h; assumption⟩
  | .object members => by
    rw [resolve?, Option.isSome_map, isSome_resolveMembers? members]
    exact ⟨fun h => .object (fun m hm => (h m hm).1) fun m hm => (h m hm).2,
      fun h m hm => by cases h with | object hnames hvalues => exact ⟨hnames m hm, hvalues m hm⟩⟩

/-- Items have values exactly when all of them are meaningful. -/
theorem isSome_resolveItems? : (items : List Tree) →
    ((resolveItems? items).isSome = true ↔ ∀ item ∈ items, item.Meaningful)
  | [] => by simp [resolveItems?]
  | item :: rest => by
    have hitem := isSome_resolve? item
    have hrest := isSome_resolveItems? rest
    rw [List.forall_mem_cons, ← hitem, ← hrest, resolveItems?]
    cases resolve? item <;> cases resolveItems? rest <;> simp

/-- Members have values exactly when their names are texts and their values meaningful. -/
theorem isSome_resolveMembers? : (members : List (List StringUnit × Tree)) →
    ((resolveMembers? members).isSome = true ↔
      ∀ member ∈ members, Paired member.1 ∧ member.2.Meaningful)
  | [] => by simp [resolveMembers?]
  | (name, tree) :: rest => by
    have htree := isSome_resolve? tree
    have hrest := isSome_resolveMembers? rest
    rw [List.forall_mem_cons, ← htree, ← hrest, ← isSome_text?, resolveMembers?]
    cases text? name <;> cases resolve? tree <;> cases resolveMembers? rest <;> simp

end

/-- The value of a text is that of its document, which must be representable. -/
theorem ofText?_eq_some_iff {text : String} {value : Value} :
    ofText? text = some value ↔
      ∃ tree, PaddedText tree text.toList ∧ tree.Representable ∧ resolve? tree = some value := by
  rw [ofText?, Option.bind_eq_some_iff]
  simp only [Tree.ofText?_eq_some_iff]
  refine exists_congr fun tree => and_congr_right fun _ => ?_
  rw [ofTree?]
  constructor
  · intro h
    split at h
    · next hshallow =>
      have hmeaningful : tree.Meaningful := (isSome_resolve? tree).1 (by rw [h]; rfl)
      exact ⟨⟨hshallow, hmeaningful⟩, h⟩
    · cases h
  · rintro ⟨hrepresentable, h⟩
    rw [if_pos hrepresentable.shallow, h]

/-- A document that is not beyond values has one. -/
theorem exists_resolve? {tree : Tree} (h : tree.Representable) :
    ∃ value, resolve? tree = some value :=
  Option.isSome_iff_exists.1 ((isSome_resolve? tree).2 h.meaningful)

end Value

/-! ## Members -/

/-- The last member with the name has the value. -/
def LastMember (members : List (List StringUnit × Tree)) (name : String) (value : Tree) : Prop :=
  ∃ before spelled behind, members = before ++ (spelled, value) :: behind ∧
    text? spelled = some name.toList ∧ ∀ later ∈ behind, text? later.1 ≠ some name.toList

/-- What is found under a name is the value of the last member with it. -/
theorem get?_ofList_iff_lastMember {members : List (List StringUnit × Tree)}
    {entries : List (String × Value)} (h : List.Forall₂ Value.Resolves members entries)
    {name : String} {value : Value} :
    (KeyMap.ofList entries).get? name = some value ↔
      ∃ tree, LastMember members name tree ∧ Value.resolve? tree = some value := by
  rw [KeyMap.get?_ofList_eq_some_iff]
  constructor
  · rintro ⟨before, behind, rfl, hbehind⟩
    obtain ⟨front, ⟨spelled, tree⟩, back, rfl, ⟨hname, hvalue⟩, hback⟩ := exists_split_left h
    refine ⟨tree, ⟨front, spelled, back, rfl, hname, ?_⟩, hvalue⟩
    intro later hlater hsame
    obtain ⟨a, b, rfl⟩ := List.append_of_mem hlater
    obtain ⟨c, entry, d, rfl, ⟨hentry, -⟩, -⟩ := exists_split_right hback
    rw [hentry, Option.some.injEq, String.toList_inj] at hsame
    exact hbehind entry (by simp) hsame
  · rintro ⟨tree, ⟨front, spelled, back, rfl, hname, hback⟩, hvalue⟩
    obtain ⟨before, ⟨key, found⟩, behind, rfl, ⟨hkey, hfound⟩, hbehind⟩ := exists_split_right h
    have hsame : key = name := by
      rw [hname, Option.some.injEq, String.toList_inj] at hkey
      exact hkey.symm
    have heq : found = value := Option.some.inj (hfound.symm.trans hvalue)
    refine ⟨before, behind, by rw [hsame, heq], ?_⟩
    rintro later hlater rfl
    obtain ⟨a, b, rfl⟩ := List.append_of_mem hlater
    obtain ⟨c, member, d, rfl, ⟨hmember, -⟩, -⟩ := exists_split_left hbehind
    exact hback member (by simp) hmember

/-- The value is an array of strings and nothing else, and these are their texts. -/
def IsTemplate (value : Tree) (template : Template) : Prop :=
  ∃ items, value = .array items ∧
    List.Forall₂ (fun item element => ∃ units, item = .string units ∧
      text? units = some element.toList) items template

/-- Values are all strings when they are those of a template. -/
theorem mapM_string?_eq_some_iff {values : List Value} {template : Template} :
    values.mapM Value.string? = some template ↔ values = template.map .string := by
  induction values generalizing template with
  | nil => cases template <;> simp
  | cons value values ih =>
    rw [mapM_cons_eq_some_iff]
    simp only [ih]
    constructor
    · rintro ⟨element, rest, helement, rfl, rfl⟩
      cases value <;> cases helement
      rfl
    · intro h
      obtain ⟨element, rest, rfl, rfl, rfl⟩ := List.map_eq_cons_iff.1 h.symm
      exact ⟨element, rest, rfl, rfl, rfl⟩

/-- A value is a template when it is an array of its strings. -/
theorem strings?_eq_some_iff {value : Value} {template : Template} :
    value.strings? = some template ↔ value = .array (template.map .string) := by
  cases value with
  | array values => simp only [Value.strings?, mapM_string?_eq_some_iff, Value.array.injEq]
  | _ => simp [Value.strings?]

/-- The value is a string when the tree is one that is text. -/
theorem resolve?_eq_string_iff {tree : Tree} {s : String} :
    Value.resolve? tree = some (.string s) ↔
      ∃ units, tree = .string units ∧ text? units = some s.toList := by
  cases tree with
  | string units =>
    simp only [Value.resolve?, Option.map_eq_some_iff, Value.string.injEq, Tree.string.injEq]
    constructor
    · rintro ⟨chars, hchars, rfl⟩
      exact ⟨units, rfl, by rw [hchars, String.toList_ofList]⟩
    · rintro ⟨_, rfl, hchars⟩
      exact ⟨s.toList, hchars, String.ofList_toList⟩
  | _ => simp [Value.resolve?]

/-- The value is an array when the tree is one, item by item. -/
theorem resolve?_eq_array_iff {tree : Tree} {values : List Value} :
    Value.resolve? tree = some (.array values) ↔
      ∃ items, tree = .array items ∧
        List.Forall₂ (fun item value => Value.resolve? item = some value) items values := by
  cases tree with
  | array items =>
    simp [Value.resolve?, Value.resolveItems?_eq_some_iff]
  | _ => simp [Value.resolve?]

/-- An array of strings is told by its spelling. -/
theorem isTemplate_iff {tree : Tree} {template : Template} :
    IsTemplate tree template ↔
      Value.resolve? tree = some (.array (template.map .string)) := by
  rw [resolve?_eq_array_iff, IsTemplate]
  simp only [List.forall₂_map_right_iff, resolve?_eq_string_iff]

/-- No white space is needed. -/
theorem gap_nil : Gap [] := fun _ h => absurd h List.not_mem_nil

/-- White space may be missing. -/
theorem ValueText.padded {tree : Tree} {s : List Char} (h : ValueText tree s) :
    PaddedText tree s := by
  have hpadded := PaddedText.mk gap_nil h gap_nil
  rwa [List.nil_append, List.append_nil] at hpadded

/-- No text is that of two documents. -/
theorem PaddedText.unique {tree other : Tree} {s : List Char} (h : PaddedText tree s)
    (hother : PaddedText other s) : tree = other :=
  Option.some.inj ((Tree.ofText?_eq_some_iff.2 h).symm.trans (Tree.ofText?_eq_some_iff.2 hother))

end Json

/-! ## Drafts -/

namespace Draft

open Json

/-- A text that is no document with a value is refused as such. -/
theorem ofText_of_no_document {text : String}
    (h : ¬∃ tree, PaddedText tree text.toList ∧ tree.Representable) :
    ofText text = .error (.invalidJson "not a JSON document") := by
  have hvalue : Json.Value.ofText? text = none := by
    rw [Option.eq_none_iff_forall_ne_some]
    intro value hvalue
    obtain ⟨tree, htext, hrepresentable, -⟩ := Value.ofText?_eq_some_iff.1 hvalue
    exact h ⟨tree, htext, hrepresentable⟩
  rw [ofText, hvalue]

/-- A document with a value is refused when it is no object. -/
theorem ofText_of_no_object {text : String} {tree : Tree} (htext : PaddedText tree text.toList)
    (hrepresentable : tree.Representable) (hobject : ∀ members, tree ≠ .object members) :
    ofText text = .error (.invalidShape "root must be an object") := by
  obtain ⟨value, hvalue⟩ := Value.exists_resolve? hrepresentable
  have hmembers : value.members? = none := by
    cases tree with
    | object members => exact absurd rfl (hobject members)
    | null => cases hvalue; rfl
    | bool b => cases hvalue; rfl
    | _ =>
      obtain ⟨_, -, rfl⟩ := Option.map_eq_some_iff.1 hvalue
      rfl
  rw [ofText, Value.ofText?_eq_some_iff.2 ⟨tree, htext, hrepresentable, hvalue⟩]
  show ofValue value = _
  rw [ofValue, hmembers]

/-- An object with a value is read as a draft of the members that are templates. -/
theorem exists_ofText_of_object {text : String} {members : List (List StringUnit × Tree)}
    (htext : PaddedText (.object members) text.toList)
    (hrepresentable : (Tree.object members).Representable) :
    ∃ entries, List.Forall₂ Value.Resolves members entries ∧
      ofText text = .ok ((KeyMap.ofList entries).filterMap template?) := by
  obtain ⟨value, hvalue⟩ := Value.exists_resolve? hrepresentable
  obtain ⟨entries, hentries, rfl⟩ := Option.map_eq_some_iff.1 hvalue
  refine ⟨entries, Value.resolveMembers?_eq_some_iff.1 hentries, ?_⟩
  rw [ofText, Value.ofText?_eq_some_iff.2 ⟨_, htext, hrepresentable, hvalue⟩]
  show Except.ok ((KeyMap.ofList (KeyMap.entries _)).filterMap template?) = _
  rw [KeyMap.ofList_of_perm (List.Perm.refl _)]

/-- What the draft has under a key: nothing for a key of the authors, and otherwise what the last
member with the name makes of it. -/
theorem get?_filterMap_template? {members : List (List StringUnit × Tree)}
    {entries : List (String × Json.Value)} (h : List.Forall₂ Value.Resolves members entries)
    (key : String) (template : Template) :
    ((KeyMap.ofList entries).filterMap template?).get? key = some template ↔
      key.toList.head? ≠ some '@' ∧ ∃ value, LastMember members key value ∧
        IsTemplate value template := by
  have hmetadata : isMetadataKey key = true ↔ key.toList.head? = some '@' := by
    rw [isMetadataKey, beq_iff_eq]
  rw [KeyMap.get?_filterMap, Option.bind_eq_some_iff, ne_eq, ← hmetadata]
  unfold template?
  by_cases hkey : isMetadataKey key = true
  · simp [hkey]
  · simp only [hkey, if_false, Bool.false_eq_true, not_false_eq_true, true_and,
      strings?_eq_some_iff, exists_eq_right, get?_ofList_iff_lastMember h, isTemplate_iff]

/-! ## Keys of the authors -/

/-- A draft that was read has no metadata. -/
theorem get?_of_metadata {text : String} {draft : Draft} (h : ofText text = .ok draft)
    {key : String} (hkey : key.toList.head? = some '@') : draft.get? key = none := by
  unfold ofText at h
  split at h
  · cases h
  · next document _ =>
    unfold ofValue at h
    split at h
    · cases h
    · next members _ =>
      cases h
      have hnone : template? key = fun _ => none := by
        funext value
        rw [template?, isMetadataKey, hkey]
        rfl
      rw [KeyMap.get?_filterMap, hnone, Option.bind_fun_none]

/-- The dictionary that such a draft is compiled to has no metadata either. -/
theorem get?_compile_of_metadata {text : String} {draft : Draft} (h : ofText text = .ok draft)
    {key : String} (hkey : key.toList.head? = some '@') : draft.compile.1.get? key = none := by
  have hget := get?_compileEntries draft.nodup_keys key
  have hnone : KeyMap.findEntry key draft.entries = none := get?_of_metadata h hkey
  rw [hnone] at hget
  exact hget

/-- Whatever is answered, what loads is the draft of some text. -/
theorem load_ends (locale : String) :
    (load locale).Ends fun result => ∀ draft, result = .ok draft →
      ∃ text, ofText text = .ok draft := by
  unfold load
  split
  · rintro draft ⟨⟩
  · rintro (e | text) draft hdraft
    · cases hdraft
    · exact ⟨text, hdraft⟩

end Draft

/-- Whatever is answered, a speaker has the catalog of some text. -/
theorem Speaker.search_ends (history : List SearchStep) (fallback : Bool) (locales : List String) :
    (search history fallback locales).Ends fun speaker => ∀ catalog,
      speaker.catalog? = some catalog →
        ∃ text draft, Draft.ofText text = .ok draft ∧ draft.compile.1 = catalog := by
  induction locales generalizing history fallback with
  | nil => rintro catalog ⟨⟩
  | cons locale rest ih =>
    refine (Draft.load_ends locale).bind ?_
    rintro (e | draft) hdraft
    · exact ih _ _
    · obtain ⟨text, htext⟩ := hdraft draft rfl
      rintro catalog ⟨⟩
      exact ⟨text, draft, htext, rfl⟩

namespace Draft

open Json

/-- What a text means as a dictionary. It is refused as no JSON exactly when it is none, or one that
is nested too deep, has half a character in a string or a number beyond the largest double, be it
in a member that counts for nothing; and for its shape exactly when its root is no object. Otherwise
it has a draft. Under a key that does not start with the sign of the authors the draft has what the
last member with that name spells, if that is an array of strings and nothing else, and whatever an
earlier one spells. No draft and no catalog that is loaded, from any source, has a key of the
authors. -/
theorem ofText_means (text : String) :
    ((∃ reason, ofText text = .error (.invalidJson reason)) ↔
      ¬∃ tree, PaddedText tree text.toList ∧ tree.Representable) ∧
    ((∃ reason, ofText text = .error (.invalidShape reason)) ↔
      ∃ tree, PaddedText tree text.toList ∧ tree.Representable ∧
        ∀ members, tree ≠ .object members) ∧
    (∀ members, PaddedText (.object members) text.toList → (Tree.object members).Representable →
      ∃ draft, ofText text = .ok draft ∧
        ∀ key template, draft.get? key = some template ↔
          key.toList.head? ≠ some '@' ∧ ∃ value, LastMember members key value ∧
            IsTemplate value template) ∧
    ∀ {σ : Type} (fetch : String → StateM σ Answer) (s : σ) (key : String),
      key.toList.head? = some '@' →
      (∀ locale draft, (((load locale).run fetch).run s).1 = .ok draft →
        draft.get? key = none) ∧
      (∀ config detected catalog,
        (((Speaker.start config detected).run fetch).run s).1.catalog? = some catalog →
          catalog.get? key = none) ∧
      ∀ schedule names name catalog,
        ((Shelf.load fetch schedule names).run s).1.catalog? name = some catalog →
          catalog.get? key = none := by
  refine ⟨⟨?_, fun h => ⟨_, ofText_of_no_document h⟩⟩, ⟨?_, ?_⟩, ?_, ?_⟩
  · rintro ⟨reason, hreason⟩ ⟨tree, htext, hrepresentable⟩
    by_cases hobject : ∃ members, tree = .object members
    · obtain ⟨members, rfl⟩ := hobject
      obtain ⟨entries, -, hok⟩ := exists_ofText_of_object htext hrepresentable
      cases hreason.symm.trans hok
    · rw [ofText_of_no_object htext hrepresentable fun members h => hobject ⟨members, h⟩] at hreason
      cases hreason
  · rintro ⟨reason, hreason⟩
    by_cases hdocument : ∃ tree, PaddedText tree text.toList ∧ tree.Representable
    · obtain ⟨tree, htext, hrepresentable⟩ := hdocument
      refine ⟨tree, htext, hrepresentable, ?_⟩
      rintro members rfl
      obtain ⟨entries, -, hok⟩ := exists_ofText_of_object htext hrepresentable
      cases hreason.symm.trans hok
    · rw [ofText_of_no_document hdocument] at hreason
      cases hreason
  · rintro ⟨tree, htext, hrepresentable, hobject⟩
    exact ⟨_, ofText_of_no_object htext hrepresentable hobject⟩
  · intro members htext hrepresentable
    obtain ⟨entries, hentries, hdraft⟩ := exists_ofText_of_object htext hrepresentable
    exact ⟨_, hdraft, get?_filterMap_template? hentries⟩
  · intro σ fetch s key hkey
    refine ⟨?_, ?_, ?_⟩
    · intro locale draft hload
      obtain ⟨text, htext⟩ := (load_ends locale).run fetch s draft hload
      exact get?_of_metadata htext hkey
    · intro config detected catalog hcatalog
      obtain ⟨text, draft, htext, rfl⟩ :=
        (Speaker.search_ends _ _ _).run fetch s catalog hcatalog
      exact get?_compile_of_metadata htext hkey
    · intro schedule names name catalog hcatalog
      obtain ⟨order, answers, hperm, hanswers, hrun⟩ := Shelf.run_load fetch schedule names s
      rw [hrun, Shelf.catalog?_gathered hperm hanswers] at hcatalog
      obtain ⟨text, draft, -, htext, rfl⟩ := hcatalog
      exact get?_compile_of_metadata htext hkey

/-! ## Documents that are refused -/

/-- An empty array in so many others. -/
def nested : Nat → Tree
  | 0 => .array []
  | n + 1 => .array [nested n]

/-- The depth of nested arrays is their number. -/
theorem depth_nested (n : Nat) : (nested n).depth = n + 1 := by
  induction n with
  | zero => rfl
  | succ n ih => rw [nested, Tree.depth, Tree.depthOfItems, Tree.depthOfItems, ih, Nat.max_zero]

/-- Nested arrays have a text of brackets. -/
theorem valueText_nested (n : Nat) :
    ValueText (nested n) (List.replicate (n + 1) '[' ++ List.replicate (n + 1) ']') := by
  induction n with
  | zero => exact .emptyArray gap_nil
  | succ n ih =>
    have h := ValueText.array (.one ih.padded)
    rwa [List.append_assoc, ← List.replicate_succ', ← List.cons_append,
      ← List.replicate_succ] at h

/-- Arrays are a document however deep they are nested, and refused as none beyond the limit. -/
theorem ofText_nested {n : Nat} (h : Json.Value.maxDepth ≤ n) :
    let text := String.ofList (List.replicate (n + 1) '[' ++ List.replicate (n + 1) ']')
    PaddedText (nested n) text.toList ∧
      ofText text = .error (.invalidJson "not a JSON document") := by
  intro text
  have htext : PaddedText (nested n) text.toList := by
    rw [String.toList_ofList]
    exact (valueText_nested n).padded
  refine ⟨htext, ofText_of_no_document ?_⟩
  rintro ⟨tree, hother, hrepresentable⟩
  have hdepth := hrepresentable.shallow
  rw [← htext.unique hother, depth_nested] at hdepth
  omega

/-- The document is an object. -/
def isObject : Tree → Bool
  | .object _ => true
  | _ => false

/-- What is tested for being an object is one. -/
theorem exists_of_isObject {tree : Tree} (h : isObject tree = true) :
    ∃ members, tree = .object members := by
  cases tree with
  | object members => exact ⟨members, rfl⟩
  | _ => cases h

/-- Three documents that are refused as no JSON: two objects, with a number beyond the largest
double and with half a pair of surrogates, and an array that is nested too deep. -/
theorem ofText_refuses_documents :
    let deep := String.ofList (List.replicate 128 '[' ++ List.replicate 128 ']')
    (∀ text ∈ ["\x7b\"a\":[\"x\"],\"n\":1e999\x7d",
        "\x7b\"a\":[\"x\"],\"s\":\"\\ud800\"\x7d"],
      (∃ members, PaddedText (.object members) text.toList) ∧
        ofText text = .error (.invalidJson "not a JSON document")) ∧
    PaddedText (nested 127) deep.toList ∧ (∀ members, nested 127 ≠ .object members) ∧
      ofText deep = .error (.invalidJson "not a JSON document") := by
  intro deep
  refine ⟨?_, ?_⟩
  · have hread : ∀ text ∈ ["\x7b\"a\":[\"x\"],\"n\":1e999\x7d",
        "\x7b\"a\":[\"x\"],\"s\":\"\\ud800\"\x7d"],
        (Tree.ofText? text.toList).any isObject = true ∧
          ofText text = .error (.invalidJson "not a JSON document") := by
      decide +kernel
    intro text htext
    obtain ⟨hdocument, hrefused⟩ := hread text htext
    obtain ⟨tree, htree, hobject⟩ := (Option.any_eq_true _ _).1 hdocument
    obtain ⟨members, rfl⟩ := exists_of_isObject hobject
    exact ⟨⟨members, Tree.ofText?_eq_some_iff.1 htree⟩, hrefused⟩
  · obtain ⟨htext, hrefused⟩ := ofText_nested (Nat.le_refl Json.Value.maxDepth)
    refine ⟨htext, ?_, hrefused⟩
    intro members h
    cases h

/-- A text with a name that it has twice, one that is escaped, an empty array and arrays with
something else in them. -/
theorem ofText_means_repeated :
    let text := " \x7b\"a\" : [ \"x\" ], \"b\":[\"good\"], \"\\u0040n\":[\"y\"], \"b\":[\"z\", 1],
      \"c\":\"s\", \"e\":[]\x7d"
    let memory : Memory := ⟨KeyMap.ofList [("en", text)]⟩
    (∃ members draft, PaddedText (.object members) text.toList ∧
      (Tree.object members).Representable ∧ ofText text = .ok draft ∧ draft.keys = ["a", "e"] ∧
      (∃ value, LastMember members "e" value ∧ IsTemplate value []) ∧
      ∀ value template, LastMember members "b" value → ¬IsTemplate value template) ∧
    (∃ tree, PaddedText tree "[1e308]".toList ∧ tree.Representable ∧
      ∀ members, tree ≠ .object members) ∧
    (¬∃ tree, PaddedText tree "\x7b\"a\":[\"x\"],\"b\":[01]\x7d".toList ∧ tree.Representable) ∧
    ∃ catalog, ((Shelf.load memory.fetch [] ["EN"]).run Attempts.none).1.catalog? "en"
        = some catalog ∧ catalog.get? "@n" = none := by
  intro text memory
  obtain ⟨hinvalid, hshape, hok, hauthors⟩ := ofText_means text
  -- The text is one of those that are not refused, so it is an object.
  have hdraft : (ofText text).isOk = true := by decide +kernel
  have hobject : ∃ members, PaddedText (.object members) text.toList ∧
      (Tree.object members).Representable := by
    by_contra hnone
    by_cases hdocument : ∃ tree, PaddedText tree text.toList ∧ tree.Representable
    · obtain ⟨tree, htext, hrepresentable⟩ := hdocument
      obtain ⟨reason, hreason⟩ := hshape.2 ⟨tree, htext, hrepresentable, by
        rintro members rfl
        exact hnone ⟨members, htext, hrepresentable⟩⟩
      rw [hreason] at hdraft
      cases hdraft
    · obtain ⟨reason, hreason⟩ := hinvalid.2 hdocument
      rw [hreason] at hdraft
      cases hdraft
  obtain ⟨members, htext, hrepresentable⟩ := hobject
  obtain ⟨draft, heq, hget⟩ := hok members htext hrepresentable
  have hread : (ofText text).map (fun draft => (draft.keys, draft.get? "e", draft.get? "b"))
      = .ok (["a", "e"], some [], none) := by decide +kernel
  rw [heq] at hread
  obtain ⟨hkeys, he, hb⟩ :
      draft.keys = ["a", "e"] ∧ draft.get? "e" = some [] ∧ draft.get? "b" = none := by
    simpa [Except.map] using hread
  have hempty := ((hget "e" []).1 he).2
  refine ⟨⟨members, draft, htext, hrepresentable, heq, hkeys, hempty, ?_⟩, ?_, ?_, ?_⟩
  · intro value template hlast htemplate
    have hsome := (hget "b" template).2 ⟨by decide, value, hlast, htemplate⟩
    rw [hb] at hsome
    cases hsome
  · exact (ofText_means "[1e308]").2.1.1 ⟨"root must be an object", by decide +kernel⟩
  · exact (ofText_means _).1.1 ⟨"not a JSON document", by decide +kernel⟩
  · have hsome : (((Shelf.load memory.fetch [] ["EN"]).run Attempts.none).1.catalog? "en").isSome
        = true := by decide +kernel
    obtain ⟨catalog, hcatalog⟩ := Option.isSome_iff_exists.1 hsome
    exact ⟨catalog, hcatalog,
      (hauthors memory.fetch Attempts.none "@n" (by decide)).2.2 [] ["EN"] "en" catalog hcatalog⟩

end Draft

end Phrasebook
