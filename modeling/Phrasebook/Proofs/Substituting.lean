import Phrasebook.Message
import Phrasebook.Template

/-!
# One text from every map

The values of the placeholders can be held in a hash table, in a search tree, in a sorted map, in a
list of pairs and in a JSON object. A map keeps the last value that it is given for a name and a
list of pairs answers with the first one, so a map filled from a list answers like the list read
backwards: `ofHashMap_ofList` and `ofTreeMap_ofList` are `KeyMap.find_foldl_write` for the two
standard maps. An object answers like the map of the texts of its members (`ofObject_eq_ofMap`), in
which a null member is not there at all.
-/

set_option autoImplicit false

namespace Phrasebook

/-- The map without the name. -/
def KeyMap.erase {α : Type} (m : KeyMap α) (key : String) : KeyMap α :=
  m.filterMap fun other value => if other = key then none else some value

/-- Erasing a key leaves the other keys alone. -/
theorem KeyMap.get?_erase {α : Type} (m : KeyMap α) (key other : String) :
    (m.erase key).get? other = if other = key then none else m.get? other := by
  rw [erase, get?_filterMap]
  by_cases h : other = key <;> simp [h]

namespace Json.Value

/-- Whether the value is null. -/
def isNull : Value → Bool
  | .null => true
  | _ => false

/-- A string as it is, and the compact text of anything else. -/
def plainText : Value → String
  | .string s => s
  | value => value.compact

/-- The texts of the members that are not null. -/
def textsOf (members : KeyMap Value) : KeyMap String :=
  (members.filterMap fun _ value => if value.isNull then none else some value).map
    fun _ value => value.plainText

end Json.Value

namespace Substitution

/-- The maps filled from a list of pairs, in the order of the list. -/
def filledFrom (pairs : List (String × String)) : List Substitution :=
  [ofHashMap (Std.HashMap.ofList pairs), ofTreeMap (Std.TreeMap.ofList pairs),
    ofMap (KeyMap.ofList pairs)]

/-! ## Maps and pairs -/

/-- A hash table that is filled from a list has the last value of each name. -/
theorem ofHashMap_ofList (pairs : List (String × String)) :
    ofHashMap (Std.HashMap.ofList pairs) = ofPairs pairs.reverse := by
  funext name
  have hwrite (m : Std.HashMap String String) (key other value : String) :
      (m.insert key value)[other]? = if other = key then some value else m[other]? := by
    simp only [Std.HashMap.getElem?_insert, beq_iff_eq, eq_comm (a := key)]
  unfold ofHashMap ofPairs
  rw [Std.HashMap.ofList_equiv_foldl.getElem?_eq,
    KeyMap.find_foldl_write (fun m name => m[name]?) Std.HashMap.insert hwrite]
  simp

/-- A search tree that is filled from a list has the last value of each name. -/
theorem ofTreeMap_ofList (pairs : List (String × String)) :
    ofTreeMap (Std.TreeMap.ofList pairs) = ofPairs pairs.reverse := by
  funext name
  have hwrite (m : Std.TreeMap String String) (key other value : String) :
      (m.insert key value)[other]? = if other = key then some value else m[other]? := by
    simp only [Std.TreeMap.getElem?_insert, Std.compare_eq_iff_eq, eq_comm (a := key)]
  unfold ofTreeMap ofPairs
  rw [Std.TreeMap.ofList_equiv_foldl.getElem?_eq,
    KeyMap.find_foldl_write (fun m name => m[name]?) Std.TreeMap.insert hwrite]
  simp

/-- A sorted map that is filled from a list has the last value of each name. -/
theorem ofMap_ofList (pairs : List (String × String)) :
    ofMap (KeyMap.ofList pairs) = ofPairs pairs.reverse := by
  funext name
  apply KeyMap.get?_ofList

/-- Whatever map is filled from a list, it answers like the list read backwards. -/
theorem eq_ofPairs_of_mem_filledFrom {pairs : List (String × String)} {values : Substitution}
    (h : values ∈ filledFrom pairs) : values = ofPairs pairs.reverse := by
  simp only [filledFrom, List.mem_cons, List.not_mem_nil, or_false] at h
  rcases h with rfl | rfl | rfl
  · apply ofHashMap_ofList
  · apply ofTreeMap_ofList
  · apply ofMap_ofList

/-- Where no name occurs twice, the order of the pairs does not count. -/
theorem ofPairs_reverse {pairs : List (String × String)} (hnodup : (pairs.map (·.1)).Nodup) :
    ofPairs pairs.reverse = ofPairs pairs := by
  funext name
  exact KeyMap.findEntry_perm pairs.reverse_perm hnodup

/-! ## Objects -/

/-- The text of a member, of which null has none. -/
theorem jsonText?_eq (value : Json.Value) :
    jsonText? value = if value.isNull then none else some value.plainText := by
  cases value <;> rfl

/-- An object answers with the texts of the members that are not null. -/
theorem ofObject_eq_ofMap (members : KeyMap Json.Value) :
    ofObject members = ofMap (Json.Value.textsOf members) := by
  funext name
  unfold ofObject ofMap Json.Value.textsOf
  rw [KeyMap.get?_map, KeyMap.get?_filterMap]
  cases members.get? name with
  | none => rfl
  | some value =>
    simp only [Option.bind_some, jsonText?_eq]
    split <;> rfl

/-- Whatever is filled from the entries of a map gives the values of the map. -/
theorem ofMap_eq_of_mem_filledFrom {texts : KeyMap String} {values : Substitution}
    (h : values ∈ filledFrom texts.entries) : ofMap texts = values := by
  rw [eq_ofPairs_of_mem_filledFrom h, ofPairs_reverse texts.nodup_keys]
  rfl

/-- A null member answers like one that is not there. -/
theorem ofObject_insert_null (members : KeyMap Json.Value) (name : String) :
    ofObject (members.insert name .null) = ofObject (members.erase name) := by
  funext other
  unfold ofObject
  rw [KeyMap.get?_insert, KeyMap.get?_erase]
  by_cases h : other = name <;> simp [h, jsonText?]

/-- An object of strings answers like the list of the strings read backwards. -/
theorem ofObject_ofList_string (pairs : List (String × String)) :
    ofObject (KeyMap.ofList (pairs.map fun pair => (pair.1, .string pair.2)))
      = ofPairs pairs.reverse := by
  funext name
  unfold ofObject ofPairs
  rw [KeyMap.get?_ofList, ← List.map_reverse,
    KeyMap.findEntry_map (fun _ text => Json.Value.string text)]
  cases KeyMap.findEntry name pairs.reverse <;> rfl

end Substitution

namespace Message

open Substitution

/-- A message has one text, whatever holds the values of its placeholders. A map filled from a list
of pairs gives the text of the list read backwards, and that of the list itself when no name stands
in it twice. An object gives the text of any map of the texts of its members, one with a null member
the text of the object without it, and one of nothing but strings the text of the map of these. -/
theorem render_same_from_every_map (message : Message) :
    (∀ pairs, ∀ values ∈ filledFrom pairs,
      message.render values = message.render (ofPairs pairs.reverse) ∧
      ((pairs.map (·.1)).Nodup → message.render values = message.render (ofPairs pairs))) ∧
    (∀ members, ∀ values ∈ filledFrom (Json.Value.textsOf members).entries,
      message.render (ofObject members) = message.render values) ∧
    (∀ (members : KeyMap Json.Value) (name : String),
      message.render (ofObject (members.insert name .null))
        = message.render (ofObject (members.erase name))) ∧
    ∀ pairs, ∀ values ∈ filledFrom pairs,
      message.render (ofObject (KeyMap.ofList (pairs.map fun pair => (pair.1, .string pair.2))))
        = message.render values := by
  refine ⟨?_, ?_, ?_, ?_⟩
  · intro pairs values hvalues
    rw [eq_ofPairs_of_mem_filledFrom hvalues]
    refine ⟨rfl, fun hnodup => ?_⟩
    rw [ofPairs_reverse hnodup]
  · intro members values hvalues
    rw [ofObject_eq_ofMap, ofMap_eq_of_mem_filledFrom hvalues]
  · intro members name
    rw [ofObject_insert_null]
  · intro pairs values hvalues
    rw [ofObject_ofList_string, eq_ofPairs_of_mem_filledFrom hvalues]

/-- A name that is given two values: the hash table has the last one, the list answers with the
first one. Without the repetition the two give one text. -/
theorem render_same_from_every_map_repeated :
    let message := Template.compile ["#$a", "$/", "#b"]
    let repeated := [("a", "1"), ("b", "2"), ("a", "3")]
    let once := [("b", "2"), ("a", "3")]
    message.render (ofHashMap (Std.HashMap.ofList repeated)) = "3/2 " ∧
      message.render (ofPairs repeated) = "1/2 " ∧
      (once.map (·.1)).Nodup ∧
      message.render (ofHashMap (Std.HashMap.ofList once)) = message.render (ofPairs once) := by
  intro message repeated once
  have hrepeated := (render_same_from_every_map message).1 repeated _ List.mem_cons_self
  have honce := (render_same_from_every_map message).1 once _ List.mem_cons_self
  have hnodup : (once.map (·.1)).Nodup := by decide
  refine ⟨?_, by decide, hnodup, honce.2 hnodup⟩
  rw [hrepeated.1]
  decide

end Message

end Phrasebook
