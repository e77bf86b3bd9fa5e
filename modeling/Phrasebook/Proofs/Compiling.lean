import Phrasebook.Dictionary.Lifecycle
import Phrasebook.Proofs.Marks

/-!
# Compiling a dictionary

Compiling a draft gives a catalog and the warnings of its templates, and the two are computed apart
from each other. `Segment.ofElement_eq_literal_empty_iff` is what ties them together: an element
compiles to no text at all exactly when it is bare, and bare elements are those that are warned of.
`Draft.get?_compileEntries` and `Draft.filter_compileEntries` say what compiling entries comes to
for one key. Neither depends on the place of the entry, and from there the order in which the
entries are visited is seen to show in the order of the blocks of warnings and nowhere else.
-/

set_option autoImplicit false

namespace Phrasebook

/-! ## Bare elements -/

namespace Element

/-- The element consists of its marks. An empty element has no marks and is not bare. -/
def IsBare (element : String) : Prop := element ≠ "" ∧ afterMarks element.toList = []

/-- Whether an element has nothing but marks can be decided. -/
instance (element : String) : Decidable (IsBare element) := inferInstanceAs (Decidable (_ ∧ _))

/-- An element of nothing but marks is read as empty plain text that is malformed. -/
theorem read_of_isBare {element : String} (h : IsBare element) :
    read element = ⟨⟨false, false⟩, "", true⟩ := read_of_afterMarks_eq_nil h.1 h.2

/-- The malformed elements are those of nothing but marks. -/
theorem malformed_read_iff {element : String} :
    (read element).malformed = true ↔ IsBare element := by
  by_cases hne : element = ""
  · subst hne
    simp [IsBare]
  · by_cases hafter : afterMarks element.toList = []
    · simp [IsBare, hne, hafter, read_of_afterMarks_eq_nil hne hafter]
    · simp [IsBare, hafter, read_of_afterMarks_ne_nil hafter]

end Element

namespace Segment

/-- A content with a kind is a literal without text only if there is neither a content nor a
space. -/
theorem ofContent_eq_literal_empty_iff {kind : Kind} {content : String} :
    ofContent kind content = .literal "" ↔ kind = ⟨false, false⟩ ∧ content = "" := by
  obtain ⟨dynamic, spaced⟩ := kind
  cases dynamic <;> cases spaced <;> simp [ofContent]

/-- Bare elements, and no others, compile to literals without text. -/
theorem ofElement_eq_literal_empty_iff {element : String} :
    ofElement element = .literal "" ↔ Element.IsBare element := by
  rw [ofElement, ofContent_eq_literal_empty_iff]
  constructor
  · rintro ⟨hkind, hcontent⟩
    by_cases hne : element = ""
    · subst hne
      exact absurd hkind (by decide)
    · by_contra hbare
      have hafter : Element.afterMarks element.toList ≠ [] := fun h => hbare ⟨hne, h⟩
      rw [Element.read_of_afterMarks_ne_nil hafter] at hcontent
      exact hafter (by simpa using hcontent)
  · intro hbare
    rw [Element.read_of_isBare hbare]
    exact ⟨rfl, rfl⟩

end Segment

/-! ## One template -/

namespace Template

/-- The warning of an element at a place, if it is bare. -/
def warningAt? (key : String) (entry : String × Nat) : Option Warning :=
  if Element.IsBare entry.1 then some ⟨key, entry.2, entry.1⟩ else none

/-- An element in its place is warned of when it has nothing but marks. -/
theorem warningAt?_eq_some_iff {key : String} {entry : String × Nat} {w : Warning} :
    warningAt? key entry = some w ↔ Element.IsBare entry.1 ∧ ⟨key, entry.2, entry.1⟩ = w := by
  rw [warningAt?, Option.ite_none_right_eq_some, Option.some_inj]

/-- The warnings of a template are those of its elements in their places. -/
theorem warningsFrom_eq_filterMap (key : String) (index : Nat) (template : Template) :
    warningsFrom key index template = (template.zipIdx index).filterMap (warningAt? key) := by
  induction template generalizing index with
  | nil => rfl
  | cons element rest ih =>
    rw [warningsFrom, List.zipIdx_cons, ih]
    by_cases hbare : Element.IsBare element
    · have hsome : warningAt? key (element, index) = some ⟨key, index, element⟩ := if_pos hbare
      rw [if_pos (Element.malformed_read_iff.2 hbare), List.filterMap_cons_some hsome]
    · have hnone : warningAt? key (element, index) = none := if_neg hbare
      rw [if_neg (mt Element.malformed_read_iff.1 hbare), List.filterMap_cons_none hnone]

/-- The warnings of a template are those of its bare elements, each with its place. -/
theorem mem_warnings_iff {key : String} {template : Template} {w : Warning} :
    w ∈ template.warnings key ↔
      w.key = key ∧ template[w.index]? = some w.element ∧ Element.IsBare w.element := by
  rw [warnings, warningsFrom_eq_filterMap, List.mem_filterMap]
  constructor
  · rintro ⟨⟨element, index⟩, hmem, hw⟩
    obtain ⟨hbare, rfl⟩ := warningAt?_eq_some_iff.1 hw
    exact ⟨rfl, List.mk_mem_zipIdx_iff_getElem?.1 hmem, hbare⟩
  · rintro ⟨rfl, helement, hbare⟩
    exact ⟨(w.element, w.index), List.mk_mem_zipIdx_iff_getElem?.2 helement,
      warningAt?_eq_some_iff.2 ⟨hbare, rfl⟩⟩

/-- The warnings of a template stand in the order of its elements. -/
theorem pairwise_index_warnings (key : String) (template : Template) :
    ((template.warnings key).map (·.index)).Pairwise (· < ·) := by
  have hplaces : (template.zipIdx.map Prod.snd).Pairwise (· < ·) := by
    rw [List.zipIdx_map_snd]
    exact List.pairwise_lt_range'
  rw [List.pairwise_map] at hplaces
  rw [warnings, warningsFrom_eq_filterMap, List.pairwise_map, List.pairwise_filterMap]
  refine hplaces.imp ?_
  intro entry other hlt w hw v hv
  obtain ⟨-, rfl⟩ := warningAt?_eq_some_iff.1 hw
  obtain ⟨-, rfl⟩ := warningAt?_eq_some_iff.1 hv
  exact hlt

/-- The warnings of a template are all under its key. -/
theorem filter_key_warnings (key other : String) (template : Template) :
    (template.warnings key).filter (·.key == other)
      = if other = key then template.warnings key else [] := by
  split
  · next heq =>
    rw [List.filter_eq_self]
    intro w hw
    rw [(mem_warnings_iff.1 hw).1, heq, beq_self_eq_true]
  · next hne =>
    rw [List.filter_eq_nil_iff]
    intro w hw
    rw [(mem_warnings_iff.1 hw).1, beq_iff_eq]
    exact Ne.symm hne

end Template

/-! ## Entries in an order -/

namespace Draft

/-- Each message depends on the template of its key alone. -/
theorem get?_compileEntries {order : List (String × Template)} (hnodup : (order.map (·.1)).Nodup)
    (key : String) :
    (compileEntries order).1.get? key = (KeyMap.findEntry key order).map Template.compile := by
  rw [compileEntries, KeyMap.get?_ofList, ← List.map_reverse,
    KeyMap.findEntry_map fun _ => Template.compile,
    KeyMap.findEntry_perm order.reverse_perm hnodup]

/-- The warnings under a key are those of its template, wherever its entry stands. -/
theorem filter_compileEntries {order : List (String × Template)}
    (hnodup : (order.map (·.1)).Nodup) (key : String) :
    (compileEntries order).2.filter (·.key == key)
      = ((KeyMap.findEntry key order).map (Template.warnings key)).getD [] := by
  induction order with
  | nil => rfl
  | cons entry order ih =>
    rw [List.map_cons, List.nodup_cons] at hnodup
    have hcons : (compileEntries (entry :: order)).2
        = entry.2.warnings entry.1 ++ (compileEntries order).2 := rfl
    rw [hcons, List.filter_append, Template.filter_key_warnings, ih hnodup.2, KeyMap.findEntry]
    split
    · next heq =>
      have hnone : KeyMap.findEntry key order = none :=
        KeyMap.findEntry_eq_none fun other hother hkey =>
          hnodup.1 (heq ▸ hkey ▸ List.mem_map_of_mem hother)
      rw [hnone, heq]
      exact List.append_nil _
    · exact List.nil_append _

/-- The warnings of several templates are those of their elements of nothing but marks. -/
theorem mem_compileEntries_iff {order : List (String × Template)} {w : Warning} :
    w ∈ (compileEntries order).2 ↔
      ∃ template, (w.key, template) ∈ order ∧ template[w.index]? = some w.element ∧
        Element.IsBare w.element := by
  rw [compileEntries, List.mem_flatMap]
  constructor
  · rintro ⟨⟨key, template⟩, hmem, hw⟩
    obtain ⟨hkey, hwarned⟩ := Template.mem_warnings_iff.1 hw
    exact ⟨template, hkey ▸ hmem, hwarned⟩
  · rintro ⟨template, hmem, hwarned⟩
    exact ⟨(w.key, template), hmem, Template.mem_warnings_iff.2 ⟨rfl, hwarned⟩⟩

/-- No place is warned of twice: within a key the places ascend, and the keys are distinct. -/
theorem nodup_places_compileEntries {order : List (String × Template)}
    (hnodup : (order.map (·.1)).Nodup) :
    ((compileEntries order).2.map fun w => (w.key, w.index)).Nodup := by
  rw [compileEntries, List.map_flatMap, List.nodup_flatMap]
  constructor
  · intro entry _
    have hindex := entry.2.pairwise_index_warnings entry.1
    rw [List.pairwise_map] at hindex
    refine List.pairwise_map.2 (hindex.imp ?_)
    intro w v hlt heq
    rw [(Prod.mk.inj heq).2] at hlt
    exact lt_irrefl _ hlt
  · refine (List.pairwise_map.1 hnodup).imp ?_
    intro entry other hne place hentry hother
    obtain ⟨w, hw, rfl⟩ := List.mem_map.1 hentry
    obtain ⟨v, hv, hplace⟩ := List.mem_map.1 hother
    have hkey : entry.1 = other.1 := by
      rw [← (Template.mem_warnings_iff.1 hw).1, ← (Template.mem_warnings_iff.1 hv).1]
      exact (Prod.mk.inj hplace).1.symm
    exact hne hkey

/-! ## Entries of a draft -/

variable {draft : Draft} {order : List (String × Template)}

/-- The entries of a draft have distinct keys in whatever order. -/
theorem nodup_keys_of_perm (h : order.Perm draft.entries) : (order.map (·.1)).Nodup :=
  (h.map _).nodup_iff.2 draft.nodup_keys

/-- Whatever the order, the catalog is the draft with every template compiled in its place. -/
theorem compileEntries_of_perm (h : order.Perm draft.entries) :
    (compileEntries order).1 = draft.map fun _ => Template.compile := by
  apply KeyMap.ext_get?
  intro key
  rw [get?_compileEntries (nodup_keys_of_perm h), KeyMap.get?_map,
    KeyMap.findEntry_perm h draft.nodup_keys]
  rfl

/-- In whatever order a draft is compiled, the warnings under a key are those of its template. -/
theorem filter_compileEntries_of_perm (h : order.Perm draft.entries) (key : String) :
    (compileEntries order).2.filter (·.key == key)
      = ((draft.get? key).map (Template.warnings key)).getD [] := by
  rw [filter_compileEntries (nodup_keys_of_perm h), KeyMap.findEntry_perm h draft.nodup_keys]
  rfl

/-- A place is warned of when the element that stands there is bare. -/
theorem mem_compileEntries_of_perm (h : order.Perm draft.entries) {w : Warning} :
    w ∈ (compileEntries order).2 ↔
      ∃ template, draft.get? w.key = some template ∧ template[w.index]? = some w.element ∧
        Element.IsBare w.element := by
  simp only [mem_compileEntries_iff, h.mem_iff, KeyMap.get?_eq_some_iff_mem]

/-- Another order changes the order of the warnings only. -/
theorem compileEntries_warnings_perm {other : List (String × Template)} (h : order.Perm other) :
    (compileEntries order).2.Perm (compileEntries other).2 :=
  h.flatMap_right _

/-- In another order the same blocks of warnings come in that order. -/
theorem compileEntries_blocks {other : List (String × Template)} (h : order.Perm draft.entries)
    (hother : other.Perm draft.entries) :
    (compileEntries other).2
      = other.flatMap fun entry => (compileEntries order).2.filter (·.key == entry.1) := by
  refine List.flatMap_congr fun entry hentry => ?_
  have hget : draft.get? entry.1 = some entry.2 :=
    KeyMap.get?_eq_some_iff_mem.2 (hother.mem_iff.1 hentry)
  rw [filter_compileEntries_of_perm h, hget]
  rfl

end Draft

/-! ## One entry after the other -/

/-- Compiles the entries in turn. The message of each goes into the catalog, its warnings behind
those that the compiler has kept so far. -/
def Compiler.visit (state : Catalog × Compiler) (order : List (String × Template)) :
    Catalog × Compiler :=
  order.foldl (fun (catalog, compiler) (key, template) =>
    let (message, compiler) := compiler.message key template
    (catalog.insert key message, compiler)) state

/-- Compiling in turn comes to the catalog and the warnings that `compileEntries` computes apart. -/
theorem Compiler.visit_empty (compiler : Compiler) (order : List (String × Template)) :
    visit (KeyMap.empty, compiler) order
      = ((Draft.compileEntries order).1,
          ⟨compiler.warnings ++ (Draft.compileEntries order).2⟩) := by
  have hfold : ∀ (catalog : Catalog) (warnings : List Warning),
      visit (catalog, ⟨warnings⟩) order
        = ((order.map fun entry => (entry.1, Template.compile entry.2)).foldl
            (fun m entry => m.insert entry.1 entry.2) catalog,
          ⟨warnings ++ order.flatMap fun entry => entry.2.warnings entry.1⟩) := by
    induction order with
    | nil =>
      intro catalog warnings
      simp [visit]
    | cons entry order ih =>
      intro catalog warnings
      have hstep : visit (catalog, ⟨warnings⟩) (entry :: order)
          = visit (catalog.insert entry.1 entry.2.compile,
              ⟨warnings ++ entry.2.warnings entry.1⟩) order := rfl
      rw [hstep, ih, List.flatMap_cons, List.append_assoc]
      rfl
  exact hfold KeyMap.empty compiler.warnings

/-! ## Compiling a draft -/

/-- The segment in a place is that of the element in the place. -/
theorem Draft.getElem?_message (draft : Draft) {key : String} {template : Template}
    (h : draft.get? key = some template) (index : Nat) :
    ((draft.map fun _ => Template.compile).get? key).bind (·[index]?)
      = template[index]?.map Segment.ofElement := by
  rw [KeyMap.get?_map, h]
  exact List.getElem?_map

/-- A place of the catalog holds a literal without text when the element there is bare. -/
theorem Draft.getElem?_message_eq_literal_empty_iff (draft : Draft) (key : String) (index : Nat) :
    ((draft.map fun _ => Template.compile).get? key).bind (·[index]?) = some (.literal "") ↔
      ∃ element template, draft.get? key = some template ∧ template[index]? = some element ∧
        Element.IsBare element := by
  cases hget : draft.get? key with
  | none => simp [KeyMap.get?_map, hget]
  | some template =>
    rw [draft.getElem?_message hget, Option.map_eq_some_iff]
    simp only [Segment.ofElement_eq_literal_empty_iff, Option.some.injEq, exists_eq_left']

/-- Compiling a draft works element by element, in whatever order its entries are visited, and the
warnings are those of the elements that compile to nothing.

Visiting the entries in turn gives the catalog and adds the warnings to those that were there. The
catalog has the keys of the draft, and each message has one segment for each element of its
template, made of that element alone. No place is warned of twice. A place is warned of, with the
element that stands there, exactly when that element is bare, and exactly when its segment is a
literal without text. Under each key the places ascend. Another order gives the same catalog, and
the same blocks of warnings, one for each key, in that order. -/
theorem Draft.compileEntries_pointwise (compiler : Compiler) {draft : Draft}
    {order : List (String × Template)} (h : order.Perm draft.entries) :
    let catalog := (compileEntries order).1
    let warnings := (compileEntries order).2
    Compiler.visit (KeyMap.empty, compiler) order = (catalog, ⟨compiler.warnings ++ warnings⟩) ∧
    catalog.keys = draft.keys ∧
    (∀ key template, draft.get? key = some template →
      ∃ message, catalog.get? key = some message ∧ message.length = template.length ∧
        ∀ index : Nat, message[index]? = template[index]?.map Segment.ofElement) ∧
    (warnings.map fun w => (w.key, w.index)).Nodup ∧
    (∀ key index element, ⟨key, index, element⟩ ∈ warnings ↔
      ∃ template, draft.get? key = some template ∧ template[index]? = some element ∧
        Element.IsBare element) ∧
    (∀ key index, (∃ element, ⟨key, index, element⟩ ∈ warnings) ↔
      (catalog.get? key).bind (·[index]?) = some (.literal "")) ∧
    (∀ key, ((warnings.filter (·.key == key)).map (·.index)).Pairwise (· < ·)) ∧
    ∀ other, other.Perm draft.entries →
      (compileEntries other).1 = catalog ∧
        (compileEntries other).2
          = other.flatMap fun entry => warnings.filter (·.key == entry.1) := by
  intro catalog warnings
  have hcatalog : catalog = draft.map fun _ => Template.compile := compileEntries_of_perm h
  have hwarned : ∀ w, w ∈ warnings ↔ ∃ template, draft.get? w.key = some template ∧
      template[w.index]? = some w.element ∧ Element.IsBare w.element :=
    fun w => mem_compileEntries_of_perm h
  refine ⟨compiler.visit_empty order, ?_, ?_, nodup_places_compileEntries (nodup_keys_of_perm h),
    fun key index element => hwarned ⟨key, index, element⟩, ?_, ?_, ?_⟩
  · rw [hcatalog, KeyMap.keys_map]
  · intro key template hget
    refine ⟨template.compile, ?_, List.length_map _, fun index => List.getElem?_map⟩
    rw [hcatalog, KeyMap.get?_map, hget]
    rfl
  · intro key index
    rw [hcatalog, draft.getElem?_message_eq_literal_empty_iff]
    exact exists_congr fun element => hwarned ⟨key, index, element⟩
  · intro key
    rw [filter_compileEntries_of_perm h]
    cases draft.get? key with
    | none => exact List.Pairwise.nil
    | some template => exact template.pairwise_index_warnings key
  · intro other hother
    exact ⟨(compileEntries_of_perm hother).trans hcatalog.symm, compileEntries_blocks h hother⟩

/-- Two messages visited against the order of their keys, with three bare elements, an empty one and
one whose content is a mark. -/
theorem Draft.compileEntries_pointwise_descending :
    let draft : Draft := KeyMap.ofList [("a", ["#$~", "", "$"]), ("b", ["~", "##"])]
    let order := draft.entries.reverse
    let warnings := (compileEntries order).2
    order.Perm draft.entries ∧
      warnings = [⟨"b", 0, "~"⟩, ⟨"a", 0, "#$~"⟩, ⟨"a", 2, "$"⟩] ∧
      (compileEntries draft.entries).1 = (compileEntries order).1 ∧
      draft.entries.flatMap (fun entry => warnings.filter (·.key == entry.1))
        = [⟨"a", 0, "#$~"⟩, ⟨"a", 2, "$"⟩, ⟨"b", 0, "~"⟩] ∧
      (compileEntries draft.entries).2
        = draft.entries.flatMap fun entry => warnings.filter (·.key == entry.1) := by
  intro draft order warnings
  have hperm : order.Perm draft.entries := List.reverse_perm _
  obtain ⟨-, -, -, -, -, -, -, hother⟩ := compileEntries_pointwise Compiler.new hperm
  obtain ⟨hcatalog, hblocks⟩ := hother draft.entries (List.Perm.refl _)
  exact ⟨hperm, by decide +kernel, hcatalog, by decide +kernel, hblocks⟩

end Phrasebook
