import Phrasebook.Dictionary.Draft
import Phrasebook.Proofs.JsonText

/-!
# Serialised drafts

A draft that is written down is read back, in whatever order its members stand, and both readers
agree on every text that the strict one takes: the forgiving one finds the same templates, without
the keys that are left to the authors. The first part is the spelling of the document
(`Json.spells_object`). The second goes from the syntax tree to both readings of it: what the strict
reader takes is at most two deep and has a value, and in both readings the last member of a name
stays (`KeyMap.get?_ofList`).
-/

set_option autoImplicit false

namespace Phrasebook

/-- The entries of a map fill that map again, in any order. -/
theorem KeyMap.ofList_of_perm {α : Type} {m : KeyMap α} {entries : List (String × α)}
    (h : entries.Perm m.entries) : ofList entries = m := by
  apply ext_get?
  intro key
  rw [get?_ofList, findEntry_perm ((List.reverse_perm entries).trans h) m.nodup_keys]
  rfl

/-- A list is read when its first element is and the others are. -/
theorem mapM_cons_eq_some_iff {α β : Type} {f : α → Option β} {x : α} {xs : List α} {ys : List β} :
    (x :: xs).mapM f = some ys ↔ ∃ y zs, f x = some y ∧ xs.mapM f = some zs ∧ ys = y :: zs := by
  rw [List.mapM_cons]
  cases f x with
  | none => simp
  | some y =>
    cases xs.mapM f with
    | none => simp
    | some zs => simp [eq_comm]

/-- What is written of a list is read back when that of each element is. -/
theorem mapM_map_eq_some {α β : Type} {f : β → Option α} {g : α → β} (h : ∀ x, f (g x) = some x)
    (xs : List α) : (xs.map g).mapM f = some xs := by
  induction xs with
  | nil => rfl
  | cons x xs ih =>
    rw [List.map_cons, mapM_cons_eq_some_iff]
    exact ⟨x, xs, h x, ih, rfl⟩

namespace Draft

open Json

/-! ## What is written is read -/

/-- The member of an entry, as it is read back. -/
def treeOfEntry (entry : String × Template) : List StringUnit × Tree :=
  (unitsOf entry.1, .array (entry.2.map fun part => .string (unitsOf part)))

/-- The document of entries is read as the tree of these. -/
theorem spells_jsonOfEntries (entries : List (String × Template)) :
    Spells (jsonOfEntries entries) (.object (entries.map treeOfEntry)) := by
  refine spells_object (fun e _ => spells_array (fun part _ => spells_string part))

/-- An entry is read back from its tree. -/
theorem entry_treeOfEntry (e : String × Template) : entry (treeOfEntry e) = some e := by
  have hname : text? (treeOfEntry e).1 = some e.1.toList := text?_unitsOf e.1
  have hparts : strings? (treeOfEntry e).2 = some e.2 := by
    apply mapM_map_eq_some
    intro part
    simp only [text?_unitsOf, Option.map_some, String.ofList_toList]
  rw [entry, hname, hparts]
  simp only [String.ofList_toList]

/-- A draft that is written down in whatever order is read back. -/
theorem deserialize?_jsonOfEntries {draft : Draft} {entries : List (String × Template)}
    (h : entries.Perm draft.entries) :
    deserialize? (jsonOfEntries entries).compact = some draft := by
  rw [deserialize?, (spells_jsonOfEntries entries).ofText?]
  simp only [mapM_map_eq_some entry_treeOfEntry, Option.map_some, KeyMap.ofList_of_perm h]

/-! ## What the strict reader takes -/

/-- The value of a template. -/
def jsonOfTemplate (template : Template) : Json.Value := .array (template.map .string)

/-- A template is read back from its value. -/
theorem strings?_jsonOfTemplate (template : Template) :
    (jsonOfTemplate template).strings? = some template :=
  mapM_map_eq_some (f := Json.Value.string?) (g := Json.Value.string) (fun _ => rfl) template

/-- A tree that is read as a template is an array with the value of the template. -/
theorem of_strings? {tree : Tree} {template : Template} (h : strings? tree = some template) :
    tree.depth ≤ 1 ∧ Json.Value.resolve? tree = some (jsonOfTemplate template) := by
  unfold strings? at h
  split at h
  · next items =>
    have hitems : Tree.depthOfItems items = 0 ∧
        Json.Value.resolveItems? items = some (template.map .string) := by
      induction items generalizing template with
      | nil =>
        cases h
        exact ⟨rfl, rfl⟩
      | cons item items ih =>
        obtain ⟨part, parts, hpart, hparts, rfl⟩ := mapM_cons_eq_some_iff.1 h
        obtain ⟨hdepth, hresolve⟩ := ih hparts
        cases item with
        | string units =>
          obtain ⟨chars, hchars, rfl⟩ := Option.map_eq_some_iff.1 hpart
          refine ⟨?_, ?_⟩
          · rw [Tree.depthOfItems, hdepth]
            rfl
          · rw [Json.Value.resolveItems?, Json.Value.resolve?, hchars, hresolve]
            rfl
        | _ => cases hpart
    refine ⟨?_, ?_⟩
    · apply Nat.le_of_eq
      rw [Tree.depth, hitems.1]
    · rw [Json.Value.resolve?, hitems.2]
      rfl
  · cases h

/-- A member that is read as an entry has its key for a name and its template for a value. -/
theorem of_entry {member : List StringUnit × Tree} {e : String × Template}
    (h : entry member = some e) :
    text? member.1 = some e.1.toList ∧ strings? member.2 = some e.2 := by
  unfold entry at h
  split at h
  · next key template hkey htemplate =>
    cases h
    exact ⟨by rw [hkey, String.toList_ofList], htemplate⟩
  · cases h

/-- Members that are read as entries have the values of these. -/
theorem of_mapM_entry {members : List (List StringUnit × Tree)} {entries : List (String × Template)}
    (h : members.mapM entry = some entries) :
    Tree.depthOfMembers members ≤ 1 ∧ Json.Value.resolveMembers? members
      = some (entries.map fun e => (e.1, jsonOfTemplate e.2)) := by
  induction members generalizing entries with
  | nil =>
    cases h
    exact ⟨Nat.zero_le _, rfl⟩
  | cons member members ih =>
    obtain ⟨e, es, he, hes, rfl⟩ := mapM_cons_eq_some_iff.1 h
    obtain ⟨hdepth, hresolve⟩ := ih hes
    obtain ⟨hkey, hparts⟩ := of_entry he
    obtain ⟨hdepth', hresolve'⟩ := of_strings? hparts
    obtain ⟨name, tree⟩ := member
    refine ⟨?_, ?_⟩
    · rw [Tree.depthOfMembers]
      exact Nat.max_le.2 ⟨hdepth', hdepth⟩
    · rw [Json.Value.resolveMembers?, hkey, hresolve', hresolve]
      simp only [String.ofList_toList, List.map_cons]

/-! ## Both readers -/

/-- The draft without the keys that are left to the authors. -/
def withoutMetadata (draft : Draft) : Draft :=
  draft.filterMap fun key template => if isMetadataKey key then none else some template

/-- Without the metadata the keys that are none keep their templates. -/
theorem get?_withoutMetadata (draft : Draft) (key : String) :
    draft.withoutMetadata.get? key = if isMetadataKey key then none else draft.get? key := by
  rw [withoutMetadata, KeyMap.get?_filterMap]
  cases draft.get? key with
  | none => split <;> rfl
  | some template => rfl

/-- The forgiving reader keeps of entries all but the metadata. -/
theorem filterMap_template? (entries : List (String × Template)) :
    (KeyMap.ofList (entries.map fun e => (e.1, jsonOfTemplate e.2))).filterMap template?
      = withoutMetadata (KeyMap.ofList entries) := by
  apply KeyMap.ext_get?
  intro key
  rw [KeyMap.get?_filterMap, get?_withoutMetadata, KeyMap.get?_ofList, KeyMap.get?_ofList,
    ← List.map_reverse, KeyMap.findEntry_map (fun _ => jsonOfTemplate)]
  cases KeyMap.findEntry key entries.reverse with
  | none => split <;> rfl
  | some template =>
    show template? key (jsonOfTemplate template) = _
    rw [template?, strings?_jsonOfTemplate]

/-- What the strict reader accepts, the forgiving one reads without the metadata. -/
theorem ofText_of_deserialize? {text : String} {draft : Draft}
    (h : deserialize? text = some draft) : ofText text = .ok draft.withoutMetadata := by
  unfold deserialize? at h
  split at h
  · next members htree =>
    obtain ⟨entries, hentries, rfl⟩ := Option.map_eq_some_iff.1 h
    obtain ⟨hdepth, hresolve⟩ := of_mapM_entry hentries
    have hvalue : Json.Value.ofText? text = some (.object
        (KeyMap.ofList (entries.map fun e => (e.1, jsonOfTemplate e.2))).entries) := by
      have hshallow : (Tree.object members).depth ≤ Json.Value.maxDepth := by
        rw [Tree.depth]
        exact Nat.le_trans (Nat.succ_le_succ hdepth) (by decide)
      rw [Json.Value.ofText?, htree, Option.bind_some, Json.Value.ofTree?, if_pos hshallow,
        Json.Value.resolve?, hresolve]
      rfl
    rw [ofText, hvalue]
    show Except.ok ((KeyMap.ofList (KeyMap.entries _)).filterMap template?) = _
    rw [KeyMap.ofList_of_perm (List.Perm.refl _), filterMap_template?]
  · cases h

/-- A draft that is written down in any order of its members is read back by the strict reader, and
by the forgiving one but for the keys that are left to the authors. On every other text that the
strict reader takes the two agree in the same way. -/
theorem readers_agree :
    (∀ (draft : Draft) (entries : List (String × Template)), entries.Perm draft.entries →
      deserialize? (jsonOfEntries entries).compact = some draft ∧
        ofText (jsonOfEntries entries).compact = .ok draft.withoutMetadata) ∧
    (∀ (text : String) (draft : Draft), deserialize? text = some draft →
      ofText text = .ok draft.withoutMetadata) := by
  refine ⟨fun draft entries h => ?_, fun text draft h => ofText_of_deserialize? h⟩
  have hread : deserialize? (jsonOfEntries entries).compact = some draft :=
    deserialize?_jsonOfEntries h
  exact ⟨hread, ofText_of_deserialize? hread⟩

/-- Two entries that are written in descending order, one of them for the authors, and a text with
white space, escapes and a name that it has twice. -/
theorem readers_agree_descending :
    let entries : List (String × Template) := [("greeting", ["\x01", "#name\""]), ("@note", [])]
    let draft : Draft := KeyMap.ofList entries.reverse
    let text := " \x7b\"a\" : [ ], \"@b\":[],\n\"\\u0061\":[\"\\ud83d\\ude00\"]\x7d"
    (entries ≠ draft.entries ∧ deserialize? (jsonOfEntries entries).compact = some draft ∧
      ofText (jsonOfEntries entries).compact = .ok draft.withoutMetadata ∧
      draft.withoutMetadata.keys = ["greeting"]) ∧
    ∃ found : Draft, deserialize? text = some found ∧ ofText text = .ok found.withoutMetadata ∧
      found.get? "a" = some [String.ofList [Char.ofNat 0x1F600]] := by
  intro entries draft text
  obtain ⟨hwritten, hread⟩ := readers_agree
  have hperm : entries.Perm draft.entries := by decide +kernel
  have hfound : deserialize? text
      = some (KeyMap.ofList [("@b", []), ("a", [String.ofList [Char.ofNat 0x1F600]])]) := by
    decide +kernel
  obtain ⟨hstrict, hforgiving⟩ := hwritten draft entries hperm
  exact ⟨⟨by decide +kernel, hstrict, hforgiving, by decide +kernel⟩, _, hfound,
    hread text _ hfound, by decide +kernel⟩

end Draft

end Phrasebook
