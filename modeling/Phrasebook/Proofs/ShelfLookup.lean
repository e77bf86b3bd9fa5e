import Phrasebook.Proofs.ShelfLoading
import Phrasebook.Proofs.Transcripts

/-!
# What is found on a shelf

A shelf is loaded once, and then catalogs are put on it. The writer and the reader bring a locale to
normal form at different times and independently of each other, so what is found is decided by
normal forms alone. One insertion is a write to one of them (`catalog?_insert`), and those that are
not written to keep what loading has left (`catalog?_insertAll_of_ne`).

What loading leaves is known against any source, also one that never answers twice alike: no locale
is asked for twice, so the answers that a run got can be taken for fixed ones (`run_load`), and for
fixed answers `Shelf.gathered` says what there is.
-/

set_option autoImplicit false

namespace Phrasebook.Shelf

open Fetching (transcript afterAsking)

variable {σ : Type}

/-! ## One insertion -/

/-- A dictionary that is put on a shelf is found under every spelling of its locale, and the others
stay. -/
theorem catalog?_insert (shelf : Shelf) (label name : String) (catalog : Catalog) :
    (shelf.insert label catalog).catalog? name
      = if Locale.normalize name = Locale.normalize label then some catalog
        else shelf.catalog? name := by
  unfold insert catalog?
  rw [KeyMap.get?_insert]
  split <;> rfl

/-- Spellings of one locale find the same. -/
theorem catalog?_congr (shelf : Shelf) {name other : String}
    (h : Locale.normalize name = Locale.normalize other) :
    shelf.catalog? name = shelf.catalog? other := by
  unfold catalog?
  rw [h]

/-- What is said of a locale is said of its dictionary. -/
theorem answers_congr {shelf after : Shelf} {name other : String}
    (h : shelf.catalog? name = after.catalog? other) :
    shelf.isReady name = after.isReady other ∧
      ∀ key values, shelf.render name key values = after.render other key values := by
  unfold isReady render
  rw [h]
  exact ⟨rfl, fun _ _ => rfl⟩

/-! ## Any number of insertions -/

/-- Puts the catalogs on the shelf, one after the other. -/
def insertAll (shelf : Shelf) (entries : List (String × Catalog)) : Shelf :=
  entries.foldl (fun shelf entry => shelf.insert entry.1 entry.2) shelf

/-- Two rows of dictionaries are put on a shelf one after the other. -/
theorem insertAll_append (shelf : Shelf) (before behind : List (String × Catalog)) :
    shelf.insertAll (before ++ behind) = (shelf.insertAll before).insertAll behind :=
  List.foldl_append

/-- Under a normal form that is not written to, nothing changes. -/
theorem catalog?_insertAll_of_ne {entries : List (String × Catalog)} {name : String}
    (h : ∀ entry ∈ entries, Locale.normalize entry.1 ≠ Locale.normalize name) (shelf : Shelf) :
    (shelf.insertAll entries).catalog? name = shelf.catalog? name := by
  induction entries generalizing shelf with
  | nil => rfl
  | cons entry rest ih =>
    have hhere : Locale.normalize name ≠ Locale.normalize entry.1 :=
      (h entry List.mem_cons_self).symm
    calc (shelf.insertAll (entry :: rest)).catalog? name
      _ = (shelf.insert entry.1 entry.2).catalog? name :=
          ih (fun later hlater => h later (List.mem_cons_of_mem _ hlater)) _
      _ = shelf.catalog? name := by rw [catalog?_insert, if_neg hhere]

/-- The last catalog that is written under a normal form stays. -/
theorem catalog?_insertAll_last {behind : List (String × Catalog)} {label name : String}
    (hlabel : Locale.normalize label = Locale.normalize name)
    (hbehind : ∀ later ∈ behind, Locale.normalize later.1 ≠ Locale.normalize name)
    (shelf : Shelf) (before : List (String × Catalog)) (catalog : Catalog) :
    (shelf.insertAll (before ++ (label, catalog) :: behind)).catalog? name = some catalog := by
  have hlast : shelf.insertAll (before ++ (label, catalog) :: behind)
      = ((shelf.insertAll before).insert label catalog).insertAll behind :=
    insertAll_append shelf before _
  rw [hlast, catalog?_insertAll_of_ne hbehind, catalog?_insert, if_pos hlabel.symm]

/-! ## Loading from any source -/

/-- Whatever it is answered, a locale that can name a dictionary is asked for once. -/
theorem asked_of_loadOne_gives {locale : String} {conversation : List (String × Answer)}
    {entry : Outcome × Option Catalog} (h : (loadOne locale).Gives conversation entry) :
    conversation.map Prod.fst = [locale].filter Locale.isAccepted := by
  unfold loadOne Draft.load at h
  rw [List.filter_cons, List.filter_nil, Locale.isAccepted]
  cases hcheck : Locale.check locale with
  | error e =>
    rw [hcheck] at h
    rw [h.1]
    rfl
  | ok u =>
    rw [hcheck] at h
    obtain ⟨answer, rest, rfl, rfl, -⟩ := h
    rfl

/-- Side by side, too. -/
theorem asked_of_allGive {labels : List String}
    {talks : List (List (String × Answer) × (Outcome × Option Catalog))}
    (h : List.Forall₂ (fun label talk => (loadOne label).Gives talk.1 talk.2) labels talks) :
    (talks.flatMap Prod.fst).map Prod.fst = labels.filter Locale.isAccepted := by
  induction h with
  | nil => rfl
  | @cons label talk labels talks hgives _ ih =>
    rw [List.flatMap_cons, List.map_append, ih, asked_of_loadOne_gives hgives,
      ← List.filter_append, List.singleton_append]

/-- Against any source and under any schedule, each wanted locale that can name a dictionary is
asked for once, and the shelf is the one that the answers would have given had they been fixed. -/
theorem run_load (fetch : String → StateM σ Answer) (schedule : List Nat) (names : List String)
    (s : σ) :
    ∃ order answers, order.Perm ((wanted names).filter Locale.isAccepted) ∧
      (∀ entry ∈ transcript fetch order s, answers entry.1 = entry.2) ∧
      (load fetch schedule names).run s
        = (gathered answers (wanted names), afterAsking fetch order s) := by
  obtain ⟨order, talks, hrun, hgives, hsaid⟩ :=
    Pool.joinAll_gives fetch schedule ((wanted names).map loadOne) s
  have hperm : order.Perm ((wanted names).filter Locale.isAccepted) := by
    have hnames := hsaid.map Prod.fst
    rwa [Fetching.map_fst_transcript,
      asked_of_allGive (List.forall₂_map_left_iff.1 hgives)] at hnames
  have hnodup : order.Nodup := hperm.nodup_iff.2 ((Locale.nodup_distinct _).filter _)
  obtain ⟨answers, hanswers⟩ := Fetching.exists_answers fetch hnodup s
  refine ⟨order, answers, hperm, hanswers, ?_⟩
  have hvalues : talks.map Prod.snd
      = (wanted names).map fun locale => (loadOne locale).value answers := by
    rw [Pool.values_of_answers hgives fun entry hentry =>
      hanswers entry (hsaid.mem_iff.2 hentry), List.map_map]
    rfl
  have hbind : (load fetch schedule names).run s
      = (((Pool.joinAll fetch schedule ((wanted names).map loadOne)).run s).1.foldl add empty,
          ((Pool.joinAll fetch schedule ((wanted names).map loadOne)).run s).2) := rfl
  rw [hbind, hrun, hvalues]
  rfl

/-- A locale has a dictionary by itself when it can name one and is answered with the text of
one. -/
theorem catalog_loadOne (answers : String → Answer) (locale : String) (catalog : Catalog) :
    ((loadOne locale).value answers).2 = some catalog ↔
      Locale.isAccepted locale = true ∧ ∃ text draft, answers locale = .ok text ∧
        Draft.ofText text = .ok draft ∧ draft.compile.1 = catalog := by
  rw [value_loadOne, Draft.value_load, Locale.isAccepted]
  cases Locale.check locale with
  | error e => simp [outcome, Except.bind, Except.isOk, Except.toBool]
  | ok u =>
    cases answers locale with
    | error e => simp [outcome, Except.bind]
    | ok text =>
      cases hdraft : Draft.ofText text with
      | error e => simp [outcome, Except.bind, hdraft]
      | ok draft => simp [outcome, Except.bind, Except.isOk, Except.toBool, hdraft]

/-- What loading leaves for a locale is compiled from the text that the source gave for its normal
form. -/
theorem catalog?_gathered {fetch : String → StateM σ Answer} {order names : List String} {s : σ}
    {answers : String → Answer} (hperm : order.Perm ((wanted names).filter Locale.isAccepted))
    (hanswers : ∀ entry ∈ transcript fetch order s, answers entry.1 = entry.2)
    (name : String) (catalog : Catalog) :
    (gathered answers (wanted names)).catalog? name = some catalog ↔
      ∃ text draft, (Locale.normalize name, .ok text) ∈ transcript fetch order s ∧
        Draft.ofText text = .ok draft ∧ draft.compile.1 = catalog := by
  have hfound : (gathered answers (wanted names)).catalog? name = some catalog ↔
      Locale.normalize name ∈ wanted names ∧
        ((loadOne (Locale.normalize name)).value answers).2 = some catalog := by
    unfold catalog?
    rw [get?_gathered]
    by_cases hwanted : Locale.normalize name ∈ wanted names <;> simp [hwanted]
  simp only [hfound, catalog_loadOne, Fetching.mem_transcript hanswers, hperm.mem_iff,
    List.mem_filter]
  constructor
  · rintro ⟨hwanted, haccepted, text, draft, htext, hdraft⟩
    exact ⟨text, draft, ⟨⟨hwanted, haccepted⟩, htext⟩, hdraft⟩
  · rintro ⟨text, draft, ⟨⟨hwanted, haccepted⟩, htext⟩, hdraft⟩
    exact ⟨hwanted, haccepted, text, draft, htext, hdraft⟩

/-- Loading brings what is asked for to normal form itself. -/
theorem load_map_normalize {m : Type → Type} [Monad m] (fetch : String → m Answer)
    (schedule : List Nat) (names : List String) :
    load fetch schedule (names.map Locale.normalize) = load fetch schedule names := by
  have hnames : (names.map Locale.normalize).map Locale.normalize
      = names.map Locale.normalize := by
    rw [List.map_map]
    exact List.map_congr_left fun name _ => Locale.normalize_normalize name
  unfold load wanted
  rw [hnames]

/-- What is found on a shelf that was loaded from any source, under any schedule, and on which
catalogs were put since. A locale that was written to has the catalog that was last written under
its normal form. A locale that was not has the one compiled from the text that the source gave for
its normal form when the shelf was loaded, if it was asked for and gave the text of a dictionary,
and none otherwise; no normal form was asked for twice. One more insertion decides what is said of
the spellings of its locale and nothing else. Spellings with one normal form are never told apart,
neither by those who ask the shelf nor by loading. -/
theorem last_written_or_loaded (fetch : String → StateM σ Answer) (schedule : List Nat)
    (names : List String) (s : σ) (entries : List (String × Catalog)) :
    let loaded := ((load fetch schedule names).run s).1
    let shelf := loaded.insertAll entries
    (∃ order : List String, order.Perm ((wanted names).filter Locale.isAccepted) ∧
      ((load fetch schedule names).run s).2 = afterAsking fetch order s ∧
      ∀ name,
        (∀ before label catalog behind, entries = before ++ (label, catalog) :: behind →
          Locale.normalize label = Locale.normalize name →
          (∀ later ∈ behind, Locale.normalize later.1 ≠ Locale.normalize name) →
            shelf.catalog? name = some catalog) ∧
        ((∀ entry ∈ entries, Locale.normalize entry.1 ≠ Locale.normalize name) →
          ∀ catalog, shelf.catalog? name = some catalog ↔
            Locale.normalize name ∈ names.map Locale.normalize ∧
            ∃ text draft, (Locale.normalize name, .ok text) ∈ transcript fetch order s ∧
              Draft.ofText text = .ok draft ∧ draft.compile.1 = catalog)) ∧
    (∀ label catalog name, Locale.normalize name = Locale.normalize label →
      (shelf.insert label catalog).catalog? name = some catalog ∧
        (shelf.insert label catalog).isReady name = true ∧
        ∀ key values, (shelf.insert label catalog).render name key values
          = catalog.render key values) ∧
    (∀ label catalog name, Locale.normalize name ≠ Locale.normalize label →
      (shelf.insert label catalog).catalog? name = shelf.catalog? name ∧
        (shelf.insert label catalog).isReady name = shelf.isReady name ∧
        ∀ key values, (shelf.insert label catalog).render name key values
          = shelf.render name key values) ∧
    (∀ name other, Locale.normalize name = Locale.normalize other →
      shelf.catalog? name = shelf.catalog? other ∧ shelf.isReady name = shelf.isReady other ∧
        ∀ key values, shelf.render name key values = shelf.render other key values) ∧
    load fetch schedule (names.map Locale.normalize) = load fetch schedule names := by
  intro loaded shelf
  refine ⟨?_, ?_, ?_, ?_, load_map_normalize fetch schedule names⟩
  · obtain ⟨order, answers, hperm, hanswers, hrun⟩ := run_load fetch schedule names s
    have hloaded : loaded = gathered answers (wanted names) := congrArg Prod.fst hrun
    refine ⟨order, hperm, congrArg Prod.snd hrun, fun name => ⟨?_, ?_⟩⟩
    · rintro before label catalog behind rfl hlabel hbehind
      exact catalog?_insertAll_last hlabel hbehind loaded before catalog
    · intro hnone catalog
      have hkept : shelf.catalog? name = loaded.catalog? name :=
        catalog?_insertAll_of_ne hnone loaded
      rw [hkept, hloaded, catalog?_gathered hperm hanswers, iff_and_self]
      rintro ⟨text, draft, hmem, -⟩
      have hwanted := (Fetching.mem_transcript hanswers).1 hmem
      rw [hperm.mem_iff, List.mem_filter, mem_wanted] at hwanted
      exact hwanted.1.1
  · intro label catalog name hname
    have hfound : (shelf.insert label catalog).catalog? name = some catalog := by
      rw [catalog?_insert, if_pos hname]
    refine ⟨hfound, ?_, ?_⟩
    · rw [isReady, hfound]
      rfl
    · intro key values
      rw [render, hfound]
  · intro label catalog name hname
    have hkept : (shelf.insert label catalog).catalog? name = shelf.catalog? name := by
      rw [catalog?_insert, if_neg hname]
    exact ⟨hkept, answers_congr hkept⟩
  · intro name other hsame
    have hfound : shelf.catalog? name = shelf.catalog? other := catalog?_congr shelf hsame
    exact ⟨hfound, answers_congr hfound⟩

/-- A source that has something else each time, and no dictionary the second time. One locale is
written to twice under different spellings, and one that failed is written to once. -/
theorem last_written_or_loaded_respelled :
    let fetch : String → StateM Nat Answer := fun locale => do
      let asked ← get
      set (asked + 1)
      pure (if asked = 1 then .error (.notFound locale)
        else .ok "\x7b\"hi\": [\"Hi\", \"#$name\"]\x7d")
    let names := ["en-US", "xx", "EN", "fr"]
    let loaded := ((load fetch [1, 0] names).run 1).1
    let bye : Catalog := (Draft.compile (KeyMap.ofList [("bye", ["$Bye"])])).1
    let shelf := loaded.insertAll [("de", bye), ("XX_yy", bye), (" De-AT", KeyMap.empty)]
    (∃ order text draft, order.Perm ["en", "xx", "fr"] ∧
      ("en", .ok text) ∈ transcript fetch order 1 ∧ Draft.ofText text = .ok draft ∧
        shelf.catalog? "EN" = some draft.compile.1) ∧
    shelf.catalog? "de" = some KeyMap.empty ∧ shelf.catalog? "xx" = some bye ∧
    loaded.catalog? "xx" = none ∧
    (shelf.insert "EN" bye).render "en_GB" "bye" (Substitution.ofPairs []) = "Bye" ∧
    (shelf.insert "EN" bye).catalog? "fr" = shelf.catalog? "fr" ∧
    shelf.isReady "FR" = shelf.isReady "fr.UTF-8" ∧
    load fetch [1, 0] (names.map Locale.normalize) = load fetch [1, 0] names := by
  intro fetch names loaded bye shelf
  obtain ⟨⟨order, hperm, -, hfound⟩, hwritten, hkept, hsame, hload⟩ :=
    last_written_or_loaded fetch [1, 0] names 1
      [("de", bye), ("XX_yy", bye), (" De-AT", KeyMap.empty)]
  refine ⟨?_, ?_, ?_, by decide +kernel, ?_, ?_, (hsame "FR" "fr.UTF-8" (by decide +kernel)).2.1,
    hload⟩
  · obtain ⟨catalog, hcatalog⟩ : ∃ catalog, shelf.catalog? "EN" = some catalog :=
      Option.isSome_iff_exists.1 (by decide +kernel)
    obtain ⟨-, text, draft, hmem, hdraft, rfl⟩ :=
      ((hfound "EN").2 (by decide +kernel) catalog).1 hcatalog
    have hnormal : Locale.normalize "EN" = "en" := by decide +kernel
    have hwanted : (wanted names).filter Locale.isAccepted = ["en", "xx", "fr"] := by
      decide +kernel
    exact ⟨order, text, draft, hwanted ▸ hperm, hnormal ▸ hmem, hdraft, hcatalog⟩
  · exact (hfound "de").1 [("de", bye), ("XX_yy", bye)] " De-AT" KeyMap.empty [] rfl
      (by decide +kernel) (by simp)
  · exact (hfound "xx").1 [("de", bye)] "XX_yy" bye [(" De-AT", KeyMap.empty)] rfl
      (by decide +kernel) (by decide +kernel)
  · exact ((hwritten "EN" bye "en_GB" (by decide +kernel)).2.2 "bye"
      (Substitution.ofPairs [])).trans (by decide +kernel)
  · exact (hkept "EN" bye "fr" (by decide +kernel)).1

end Phrasebook.Shelf
