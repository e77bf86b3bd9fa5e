/-!
# Finite maps from names

A `KeyMap` holds at most one value per name and keeps its entries in ascending order of the names,
so two maps with the same look-ups are equal (`KeyMap.ext_get?`) whatever order they were filled in.
Dictionaries, substitutions and the members of a parsed object are such maps.

`KeyMap.get?_insert`, `KeyMap.get?_ofList` and `KeyMap.get?_map` say what each operation does to a
look-up; `KeyMap.get?_ofList_eq_some_iff` says it of a list by the place of the entry in it.
-/

set_option autoImplicit false

namespace Phrasebook

/-- Entries under ascending names. -/
structure KeyMap (α : Type) where
  entries : List (String × α)
  ascending : entries.Pairwise (fun a b => a.1 < b.1)
  deriving DecidableEq

namespace KeyMap

variable {α β : Type}

/-! ## Lists of ascending entries -/

/-- Puts the value under the name, at its place among ascending entries. -/
def insertEntry (key : String) (value : α) : List (String × α) → List (String × α)
  | [] => [(key, value)]
  | entry :: rest =>
    if key = entry.1 then (key, value) :: rest
    else if key < entry.1 then (key, value) :: entry :: rest
    else entry :: insertEntry key value rest

/-- The value of the first entry under the name. -/
def findEntry (key : String) : List (String × α) → Option α
  | [] => none
  | entry :: rest => if key = entry.1 then some entry.2 else findEntry key rest

/-- Of two different keys, one is below the other. -/
theorem lt_of_not_le {a b : String} (hne : a ≠ b) (hlt : ¬a < b) : b < a := by
  rcases Std.le_total (a := a) (b := b) with h | h
  · exact absurd (Std.lt_of_le_of_ne h hne) hlt
  · exact Std.lt_of_le_of_ne h (Ne.symm hne)

/-- Writing an entry brings in no other key than its own. -/
theorem fst_mem_insertEntry {key : String} {value : α} {entries : List (String × α)}
    {entry : String × α} (h : entry ∈ insertEntry key value entries) :
    entry.1 = key ∨ entry ∈ entries := by
  induction entries with
  | nil => simp only [insertEntry, List.mem_singleton] at h; exact Or.inl (by rw [h])
  | cons head rest ih =>
    simp only [insertEntry] at h
    split at h
    · rcases List.mem_cons.1 h with rfl | h
      · exact Or.inl rfl
      · exact Or.inr (List.mem_cons_of_mem _ h)
    · split at h
      · rcases List.mem_cons.1 h with rfl | h
        · exact Or.inl rfl
        · exact Or.inr h
      · rcases List.mem_cons.1 h with rfl | h
        · exact Or.inr List.mem_cons_self
        · exact (ih h).imp id (List.mem_cons_of_mem _)

/-- Writing an entry keeps the keys in ascending order. -/
theorem pairwise_insertEntry (key : String) (value : α) {entries : List (String × α)}
    (h : entries.Pairwise (fun a b => a.1 < b.1)) :
    (insertEntry key value entries).Pairwise (fun a b => a.1 < b.1) := by
  induction entries with
  | nil => exact List.pairwise_singleton _ _
  | cons head rest ih =>
    have hhead : ∀ entry ∈ rest, head.1 < entry.1 := (List.pairwise_cons.1 h).1
    have hrest := (List.pairwise_cons.1 h).2
    simp only [insertEntry]
    split
    · next heq => exact List.pairwise_cons.2 ⟨fun e he => heq ▸ hhead e he, hrest⟩
    · next hne =>
      split
      · next hlt =>
        refine List.pairwise_cons.2 ⟨fun e he => ?_, h⟩
        rcases List.mem_cons.1 he with rfl | he
        · exact hlt
        · exact String.lt_trans hlt (hhead e he)
      · next hnlt =>
        refine List.pairwise_cons.2 ⟨fun e he => ?_, ih hrest⟩
        rcases fst_mem_insertEntry he with heq | he
        · exact heq ▸ lt_of_not_le hne hnlt
        · exact hhead e he

/-- What is found behind a write is what was written, or what was found before under another key. -/
theorem findEntry_insertEntry (key other : String) (value : α) (entries : List (String × α)) :
    findEntry other (insertEntry key value entries)
      = if other = key then some value else findEntry other entries := by
  induction entries with
  | nil => simp [insertEntry, findEntry]
  | cons head rest ih =>
    by_cases hk : key = head.1
    · by_cases ho : other = key
      · simp [insertEntry, findEntry, hk, ho]
      · have ho' : ¬other = head.1 := hk ▸ ho
        simp [insertEntry, findEntry, hk, ho']
    · by_cases hl : key < head.1
      · simp [insertEntry, findEntry, hk, hl]
      · by_cases ho : other = head.1
        · have : ¬other = key := fun h => hk (h.symm.trans ho)
          have hk' : ¬head.1 = key := fun h => hk h.symm
          simp [insertEntry, findEntry, hk, hl, ho, hk']
        · simp [insertEntry, findEntry, hk, hl, ho, ih]

/-- Nothing is found under a key that no entry has. -/
theorem findEntry_eq_none {key : String} {entries : List (String × α)}
    (h : ∀ entry ∈ entries, key ≠ entry.1) : findEntry key entries = none := by
  induction entries with
  | nil => rfl
  | cons head rest ih =>
    have hhead : ¬key = head.1 := h head List.mem_cons_self
    simp [findEntry, hhead, ih fun e he => h e (List.mem_cons_of_mem _ he)]

/-- What is found under a key is one of the entries. -/
theorem mem_of_findEntry {key : String} {value : α} {entries : List (String × α)}
    (h : findEntry key entries = some value) : (key, value) ∈ entries := by
  induction entries with
  | nil => simp [findEntry] at h
  | cons head rest ih =>
    simp only [findEntry] at h
    split at h
    · next hk =>
      have : (key, value) = head := by rw [hk, ← Option.some.inj h]
      exact this ▸ List.mem_cons_self
    · exact List.mem_cons_of_mem _ (ih h)

/-- What is found stands in front of every other entry under its name. -/
theorem findEntry_eq_some_iff {key : String} {value : α} {entries : List (String × α)} :
    findEntry key entries = some value ↔
      ∃ before behind, entries = before ++ (key, value) :: behind ∧
        ∀ earlier ∈ before, earlier.1 ≠ key := by
  induction entries with
  | nil => simp [findEntry]
  | cons head rest ih =>
    unfold findEntry
    split
    · next hhead =>
      constructor
      · intro h
        exact ⟨[], rest, by rw [hhead, ← Option.some.inj h, List.nil_append], by simp⟩
      · rintro ⟨before, behind, heq, hbefore⟩
        cases before with
        | nil =>
          obtain ⟨rfl, -⟩ := List.cons.inj heq
          rfl
        | cons other before =>
          obtain ⟨rfl, -⟩ := List.cons.inj heq
          exact absurd hhead.symm (hbefore head List.mem_cons_self)
    · next hhead =>
      rw [ih]
      constructor
      · rintro ⟨before, behind, rfl, hbefore⟩
        refine ⟨head :: before, behind, rfl, ?_⟩
        rintro earlier hearlier
        rcases List.mem_cons.1 hearlier with rfl | hearlier
        · exact fun heq => hhead heq.symm
        · exact hbefore earlier hearlier
      · rintro ⟨before, behind, heq, hbefore⟩
        cases before with
        | nil =>
          obtain ⟨rfl, -⟩ := List.cons.inj heq
          exact absurd rfl hhead
        | cons other before =>
          obtain ⟨rfl, rfl⟩ := List.cons.inj heq
          exact ⟨before, behind, rfl, fun earlier h => hbefore earlier (List.mem_cons_of_mem _ h)⟩

/-- Among entries under distinct names, each is found under its name. -/
theorem findEntry_of_mem {key : String} {value : α} {entries : List (String × α)}
    (hnodup : (entries.map (·.1)).Nodup) (h : (key, value) ∈ entries) :
    findEntry key entries = some value := by
  induction entries with
  | nil => simp at h
  | cons head rest ih =>
    rw [List.map_cons, List.nodup_cons] at hnodup
    rcases List.mem_cons.1 h with heq | h
    · simp [findEntry, ← heq]
    · have hne : ¬key = head.1 := fun heq =>
        hnodup.1 (heq ▸ List.mem_map_of_mem h)
      simp [findEntry, hne, ih hnodup.2 h]

/-- Among distinct keys, what is found under a key is its one entry. -/
theorem findEntry_eq_some_iff_mem {key : String} {value : α} {entries : List (String × α)}
    (hnodup : (entries.map (·.1)).Nodup) :
    findEntry key entries = some value ↔ (key, value) ∈ entries :=
  ⟨mem_of_findEntry, findEntry_of_mem hnodup⟩

/-- Where the names are distinct, the order of the entries does not matter. -/
theorem findEntry_perm {key : String} {xs ys : List (String × α)} (h : xs.Perm ys)
    (hnodup : (ys.map (·.1)).Nodup) : findEntry key xs = findEntry key ys := by
  apply Option.ext
  intro value
  rw [findEntry_eq_some_iff_mem ((h.map _).nodup_iff.2 hnodup), findEntry_eq_some_iff_mem hnodup,
    h.mem_iff]

/-- Ascending entries are determined by what is found among them. -/
theorem eq_of_findEntry_eq {xs ys : List (String × α)}
    (hx : xs.Pairwise (fun a b => a.1 < b.1)) (hy : ys.Pairwise (fun a b => a.1 < b.1))
    (h : ∀ key, findEntry key xs = findEntry key ys) : xs = ys := by
  induction xs generalizing ys with
  | nil =>
    cases ys with
    | nil => rfl
    | cons y ys => have := h y.1; simp [findEntry] at this
  | cons x xs ih =>
    cases ys with
    | nil => have := h x.1; simp [findEntry] at this
    | cons y ys =>
      have hx' := List.pairwise_cons.1 hx
      have hy' := List.pairwise_cons.1 hy
      have hxy : x.1 = y.1 := by
        by_cases heq : x.1 = y.1
        · exact heq
        · have hxin : (x.1, x.2) ∈ y :: ys :=
            mem_of_findEntry (by rw [← h x.1]; simp [findEntry])
          have hyin : (y.1, y.2) ∈ x :: xs :=
            mem_of_findEntry (by rw [h y.1]; simp [findEntry])
          have hlt : y.1 < x.1 := by
            rcases List.mem_cons.1 hxin with e | hin
            · exact absurd (congrArg Prod.fst e) heq
            · exact hy'.1 _ hin
          have hgt : x.1 < y.1 := by
            rcases List.mem_cons.1 hyin with e | hin
            · exact absurd (congrArg Prod.fst e).symm heq
            · exact hx'.1 _ hin
          exact absurd (String.lt_trans hlt hgt) (String.lt_irrefl _)
      have hval : x.2 = y.2 := by
        have := h x.1
        simpa [findEntry, hxy] using this
      have hrest : xs = ys := by
        refine ih hx'.2 hy'.2 fun key => ?_
        by_cases hk : key = x.1
        · have hnx : findEntry key xs = none := findEntry_eq_none fun e he heq =>
            String.lt_irrefl x.1 (by have := hx'.1 e he; rwa [← heq, hk] at this)
          have hny : findEntry key ys = none := findEntry_eq_none fun e he heq =>
            String.lt_irrefl x.1 (by have := hy'.1 e he; rwa [← heq, hk, ← hxy] at this)
          rw [hnx, hny]
        · have hky : ¬key = y.1 := hxy ▸ hk
          have := h key
          simpa [findEntry, hk, hky] using this
      rw [hrest, show x = y from Prod.ext hxy hval]

/-! ## Maps -/

/-- The map without entries. -/
def empty : KeyMap α := ⟨[], List.Pairwise.nil⟩

/-- A map is empty where none is given. -/
instance : Inhabited (KeyMap α) := ⟨empty⟩

/-- The value under the name. -/
def get? (m : KeyMap α) (key : String) : Option α := findEntry key m.entries

/-- Whether there is a value under the name. -/
def contains (m : KeyMap α) (key : String) : Bool := (m.get? key).isSome

/-- Puts the value under the name, in place of the one that was there. -/
def insert (m : KeyMap α) (key : String) (value : α) : KeyMap α :=
  ⟨insertEntry key value m.entries, pairwise_insertEntry key value m.ascending⟩

/-- Fills a map in the order of the list, so the last of two values under one name stays. -/
def ofList (entries : List (String × α)) : KeyMap α :=
  entries.foldl (fun m entry => m.insert entry.1 entry.2) empty

/-- The names, in ascending order. -/
def keys (m : KeyMap α) : List String := m.entries.map (·.1)

/-- The number of entries. -/
def size (m : KeyMap α) : Nat := m.entries.length

/-- Whether there are no entries. -/
def isEmpty (m : KeyMap α) : Bool := m.entries.isEmpty

/-- Replaces every value by a value made of it and its name. -/
def map (f : String → α → β) (m : KeyMap α) : KeyMap β :=
  ⟨m.entries.map fun entry => (entry.1, f entry.1 entry.2),
    List.pairwise_map.2 m.ascending⟩

/-- Keeps the entries for which the function gives a value, under that value. -/
def filterMap (f : String → α → Option β) (m : KeyMap α) : KeyMap β :=
  ⟨m.entries.filterMap fun entry => (f entry.1 entry.2).map (entry.1, ·), by
    rw [List.pairwise_filterMap]
    refine m.ascending.imp fun {a b} hab => ?_
    intro x hx y hy
    cases hfa : f a.1 a.2 with
    | none => simp [hfa] at hx
    | some u =>
      cases hfb : f b.1 b.2 with
      | none => simp [hfb] at hy
      | some v => simp only [hfa, hfb, Option.map_some, Option.some.injEq] at hx hy
                  rw [← hx, ← hy]; exact hab⟩

/-! ## What the operations do to a look-up -/

/-- The empty map has no values. -/
@[simp] theorem get?_empty (key : String) : (empty : KeyMap α).get? key = none := rfl

/-- A write changes the value of its own key and no other. -/
theorem get?_insert (m : KeyMap α) (key other : String) (value : α) :
    (m.insert key value).get? other = if other = key then some value else m.get? other :=
  findEntry_insertEntry key other value m.entries

/-- What was written is there. -/
@[simp] theorem get?_insert_self (m : KeyMap α) (key : String) (value : α) :
    (m.insert key value).get? key = some value := by
  rw [get?_insert, if_pos rfl]

/-- No key occurs twice. -/
theorem nodup_keys (m : KeyMap α) : m.keys.Nodup := by
  refine List.pairwise_map.2 (m.ascending.imp ?_)
  intro a b hlt heq
  exact String.lt_irrefl a.1 (heq ▸ hlt)

/-- The value of a key is the one that the entries give it. -/
theorem get?_eq_some_iff_mem {m : KeyMap α} {key : String} {value : α} :
    m.get? key = some value ↔ (key, value) ∈ m.entries :=
  findEntry_eq_some_iff_mem m.nodup_keys

/-- Maps with the same look-ups are equal. -/
theorem ext_get? {m n : KeyMap α} (h : ∀ key, m.get? key = n.get? key) : m = n := by
  have hentries := eq_of_findEntry_eq m.ascending n.ascending h
  cases m; cases n; cases hentries; rfl

/-- Of two lists of entries the first that has the key counts. -/
theorem findEntry_append (key : String) (before behind : List (String × α)) :
    findEntry key (before ++ behind) = (findEntry key before).or (findEntry key behind) := by
  induction before with
  | nil => rfl
  | cons e before ih => by_cases hk : key = e.1 <;> simp [findEntry, hk, ih]

/-- What is found after a row of writes, wherever a write replaces the value of its name and no
other: the last value written under the name, or else what was there before. -/
theorem find_foldl_write {γ : Type} (find : γ → String → Option α) (write : γ → String → α → γ)
    (h : ∀ m key other value,
      find (write m key value) other = if other = key then some value else find m other)
    (entries : List (String × α)) (m : γ) (key : String) :
    find (entries.foldl (fun m entry => write m entry.1 entry.2) m) key
      = (findEntry key entries.reverse).or (find m key) := by
  induction entries generalizing m with
  | nil => rfl
  | cons e entries ih =>
    rw [List.foldl_cons, ih, h, List.reverse_cons, findEntry_append, Option.or_assoc]
    by_cases hk : key = e.1 <;> simp [findEntry, hk]

/-- A map filled from a list answers with the last value that the list has for the name. -/
theorem get?_ofList (entries : List (String × α)) (key : String) :
    (ofList entries).get? key = findEntry key entries.reverse := by
  rw [ofList, find_foldl_write get? insert get?_insert, get?_empty, Option.or_none]

/-- What a map filled from a list has for a name is the last value that the list has for it. -/
theorem get?_ofList_eq_some_iff {entries : List (String × α)} {key : String} {value : α} :
    (ofList entries).get? key = some value ↔
      ∃ before behind, entries = before ++ (key, value) :: behind ∧
        ∀ later ∈ behind, later.1 ≠ key := by
  rw [get?_ofList, findEntry_eq_some_iff]
  constructor
  · rintro ⟨behind, before, heq, hbehind⟩
    refine ⟨before.reverse, behind.reverse, ?_, ?_⟩
    · rw [← List.reverse_reverse entries, heq]
      simp
    · intro later hlater
      exact hbehind later (List.mem_reverse.1 hlater)
  · rintro ⟨before, behind, rfl, hbehind⟩
    refine ⟨behind.reverse, before.reverse, by simp, ?_⟩
    intro later hlater
    exact hbehind later (List.mem_reverse.1 hlater)

/-- Changing the values of all entries changes the value that is found. -/
theorem findEntry_map (f : String → α → β) (entries : List (String × α)) (key : String) :
    findEntry key (entries.map fun entry => (entry.1, f entry.1 entry.2))
      = (findEntry key entries).map (f key) := by
  induction entries with
  | nil => rfl
  | cons e es ih => by_cases hk : key = e.1 <;> simp [findEntry, hk, ih]

/-- Changing all values changes the value of each key. -/
theorem get?_map (f : String → α → β) (m : KeyMap α) (key : String) :
    (m.map f).get? key = (m.get? key).map (f key) := findEntry_map f m.entries key

/-- Changing or dropping all values does so with the value of each key. -/
theorem get?_filterMap (f : String → α → Option β) (m : KeyMap α) (key : String) :
    (m.filterMap f).get? key = (m.get? key).bind (f key) := by
  apply Option.ext
  intro value
  rw [get?_eq_some_iff_mem, Option.bind_eq_some_iff]
  simp only [filterMap, List.mem_filterMap, Option.map_eq_some_iff, Prod.mk.injEq,
    get?_eq_some_iff_mem, Prod.exists]
  constructor
  · rintro ⟨k, a, hmem, b, hb, rfl, rfl⟩
    exact ⟨a, hmem, hb⟩
  · rintro ⟨a, hmem, hb⟩
    exact ⟨key, a, hmem, value, hb, rfl, rfl⟩

/-- Changing values leaves the keys alone. -/
@[simp] theorem keys_map (f : String → α → β) (m : KeyMap α) : (m.map f).keys = m.keys := by
  simp [keys, map, Function.comp_def]

/-- The keys are those that the map contains. -/
theorem mem_keys_iff {m : KeyMap α} {key : String} : key ∈ m.keys ↔ m.contains key = true := by
  rw [contains, Option.isSome_iff_exists, keys, List.mem_map]
  constructor
  · rintro ⟨entry, hmem, rfl⟩
    exact ⟨entry.2, get?_eq_some_iff_mem.2 hmem⟩
  · rintro ⟨value, h⟩
    exact ⟨(key, value), get?_eq_some_iff_mem.1 h, rfl⟩

end KeyMap

end Phrasebook
