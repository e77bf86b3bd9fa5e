import Mathlib.Data.List.Nodup
import Phrasebook.Proofs.ShelfInvariant

/-!
# Loading side by side

Loading a shelf runs one program for each locale, in steps that may alternate in any way, and puts
together what they end with. Against a steady source this comes to the same as running each program
by itself (`run_load_of_steady`), so a shelf is known from the answers for its own locales:
`gathered` is that shelf, and what it has for a locale depends on the answer for that locale alone
(`held_gathered`).
-/

set_option autoImplicit false

namespace Phrasebook.Shelf

variable {σ τ : Type}

/-! ## What the locales come to by themselves -/

/-- What comes of loading one locale is the outcome of loading its draft. -/
theorem value_loadOne (answers : String → Answer) (locale : String) :
    (loadOne locale).value answers = outcome locale ((Draft.load locale).value answers) := by
  rw [loadOne, Fetching.value_bind]
  rfl

/-- Only the answer for the locale itself counts. -/
theorem value_loadOne_congr {answers others : String → Answer} {locale : String}
    (h : answers locale = others locale) :
    (loadOne locale).value answers = (loadOne locale).value others := by
  rw [value_loadOne, value_loadOne, Draft.value_load, Draft.value_load, h]

/-- Loading one locale asks for it if it can name a dictionary. -/
theorem asked_loadOne (answers : String → Answer) (locale : String) :
    (loadOne locale).asked answers = [locale].filter Locale.isAccepted := by
  rw [loadOne, Fetching.asked_bind, Draft.asked_load]
  exact List.append_nil _

/-- Side by side, too, each locale that can name a dictionary is asked for once. -/
theorem asked_map_loadOne (answers : String → Answer) (labels : List String) :
    (labels.map loadOne).flatMap (Fetching.asked answers) = labels.filter Locale.isAccepted := by
  induction labels with
  | nil => rfl
  | cons locale labels ih =>
    rw [List.map_cons, List.flatMap_cons, ih, asked_loadOne, ← List.filter_append,
      List.singleton_append]

/-- The shelf with what each of the locales comes to by itself under fixed answers. -/
def gathered (answers : String → Answer) (labels : List String) : Shelf :=
  (labels.map fun locale => (loadOne locale).value answers).foldl add empty

/-- Adding entries adds their outcomes, in order. -/
theorem outcomes_foldl_add (entries : List (Outcome × Option Catalog)) (shelf : Shelf) :
    (entries.foldl add shelf).outcomes = shelf.outcomes ++ entries.map Prod.fst := by
  induction entries generalizing shelf with
  | nil => simp
  | cons entry entries ih =>
    rw [List.foldl_cons, ih, add, List.append_assoc, List.map_cons, List.singleton_append]

/-- A gathered shelf has the outcomes of its locales, in order. -/
theorem outcomes_gathered (answers : String → Answer) (labels : List String) :
    (gathered answers labels).outcomes
      = labels.map fun locale => ((loadOne locale).value answers).1 := by
  rw [gathered, outcomes_foldl_add, List.map_map]
  rfl

/-- What comes of loading a locale bears its name. -/
theorem locale_loadOne (answers : String → Answer) (locale : String) :
    ((loadOne locale).value answers).1.locale = locale := by
  rw [value_loadOne, outcome_locale]

/-- A gathered shelf has the locales that it was gathered for. -/
theorem locales_gathered (answers : String → Answer) (labels : List String) :
    (gathered answers labels).locales = labels := by
  rw [locales, outcomes_gathered, List.map_map]
  exact (List.map_congr_left fun locale _ => locale_loadOne answers locale).trans (List.map_id _)

/-- The catalog of a locale is found where its outcome says it is, however many locales came before
and come behind. -/
theorem get?_foldl_add (answers : String → Answer) (labels : List String) (shelf : Shelf)
    (key : String) :
    ((labels.map fun locale => (loadOne locale).value answers).foldl add shelf).catalogs.get? key
      = if key ∈ labels then some ((loadOne key).value answers).2
        else shelf.catalogs.get? key := by
  induction labels generalizing shelf with
  | nil => rfl
  | cons locale labels ih =>
    rw [List.map_cons, List.foldl_cons, ih, add, locale_loadOne, KeyMap.get?_insert]
    by_cases hlater : key ∈ labels
    · simp [hlater]
    · by_cases hhere : key = locale
      · simp [hhere]
      · simp [hlater, hhere]

/-- A gathered shelf has the dictionaries of its locales and no others. -/
theorem get?_gathered (answers : String → Answer) (labels : List String) (key : String) :
    (gathered answers labels).catalogs.get? key
      = if key ∈ labels then some ((loadOne key).value answers).2 else none :=
  get?_foldl_add answers labels empty key

/-! ## What a shelf has for a locale -/

/-- The outcomes and the entry of the map that a shelf has for a locale, however it is spelled. -/
def held (shelf : Shelf) (name : String) : List Outcome × Option (Option Catalog) :=
  (shelf.outcomes.filter (·.locale == Locale.normalize name),
    shelf.catalogs.get? (Locale.normalize name))

/-- Each of its locales has one outcome, the one it comes to by itself. -/
theorem filter_outcomes_gathered (answers : String → Answer) {labels : List String}
    (hnodup : labels.Nodup) {locale : String} (hmem : locale ∈ labels) :
    (gathered answers labels).outcomes.filter (·.locale == locale)
      = [((loadOne locale).value answers).1] := by
  have hone : labels.filter (· == locale) = [locale] := by
    rw [List.filter_beq, List.count_eq_one_of_mem hnodup hmem]
    rfl
  have hlocale : ((·.locale == locale) ∘ fun label => ((loadOne label).value answers).1)
      = (· == locale) := by
    funext label
    rw [Function.comp_apply, locale_loadOne]
  rw [outcomes_gathered, List.filter_map, hlocale, hone, List.map_singleton]

/-- For each of its locales the shelf has one outcome and one entry, the ones the locale comes to
by itself. -/
theorem held_gathered (answers : String → Answer) {labels : List String} (hnodup : labels.Nodup)
    {name : String} (hmem : Locale.normalize name ∈ labels) :
    (gathered answers labels).held name
      = ([((loadOne (Locale.normalize name)).value answers).1],
          some ((loadOne (Locale.normalize name)).value answers).2) := by
  rw [held, filter_outcomes_gathered answers hnodup hmem, get?_gathered, if_pos hmem]

/-- Locales in another order give the outcomes in another order. -/
theorem outcomes_gathered_perm (answers : String → Answer) {labels others : List String}
    (h : labels.Perm others) :
    (gathered answers labels).outcomes.Perm (gathered answers others).outcomes := by
  rw [outcomes_gathered, outcomes_gathered]
  exact h.map _

/-- The same locales give the same dictionaries, in whatever order. -/
theorem catalogs_gathered_congr (answers : String → Answer) {labels others : List String}
    (h : ∀ locale, locale ∈ labels ↔ locale ∈ others) :
    (gathered answers labels).catalogs = (gathered answers others).catalogs := by
  apply KeyMap.ext_get?
  intro key
  simp only [get?_gathered, h]

/-! ## Runs -/

/-- Against a steady source and under any schedule, loading gathers what the locales come to by
themselves, and asks for each of them that can name a dictionary once. -/
theorem run_load_of_steady {fetch : String → StateM σ Answer} {answers : String → Answer}
    (h : Fetching.Steady fetch answers) (schedule : List Nat) (names : List String) (s : σ) :
    ∃ order, order.Perm ((wanted names).filter Locale.isAccepted) ∧
      (load fetch schedule names).run s
        = (gathered answers (wanted names), Fetching.afterAsking fetch order s) := by
  obtain ⟨order, hperm, hrun⟩ :=
    Pool.joinAll_of_steady h schedule ((wanted names).map loadOne) s
  refine ⟨order, ?_, ?_⟩
  · rwa [asked_map_loadOne] at hperm
  · have hbind : (load fetch schedule names).run s
        = (((Pool.joinAll fetch schedule ((wanted names).map loadOne)).run s).1.foldl add empty,
            ((Pool.joinAll fetch schedule ((wanted names).map loadOne)).run s).2) := rfl
    rw [hbind, hrun, List.map_map]
    rfl

/-- Against a source that does not change, any schedule loads the shelf that is gathered from it. -/
theorem load_of_steady {fetch : String → StateM σ Answer} {answers : String → Answer}
    (h : Fetching.Steady fetch answers) (schedule : List Nat) (names : List String) (s : σ) :
    ((load fetch schedule names).run s).1 = gathered answers (wanted names) := by
  obtain ⟨_, -, hrun⟩ := run_load_of_steady h schedule names s
  rw [hrun]

/-- What has been loaded for a locale is what it comes to by itself. -/
theorem held_load_of_steady {fetch : String → StateM σ Answer} {answers : String → Answer}
    (h : Fetching.Steady fetch answers) (schedule : List Nat) {names : List String} {name : String}
    (hname : Locale.normalize name ∈ names.map Locale.normalize) (s : σ) :
    ((load fetch schedule names).run s).1.held name
      = ([((loadOne (Locale.normalize name)).value answers).1],
          some ((loadOne (Locale.normalize name)).value answers).2) := by
  rw [load_of_steady h]
  exact held_gathered answers (Locale.nodup_distinct _) (mem_wanted.2 hname)

/-- The action that waits for the shelf gets it behind all questions. -/
theorem run_loadThen_of_steady {fetch : String → StateM σ Answer} {answers : String → Answer}
    (h : Fetching.Steady fetch answers) (schedule : List Nat) (names : List String) (s : σ) :
    ∃ order, order.Perm ((wanted names).filter Locale.isAccepted) ∧
      ∀ onReady : Shelf → StateM σ Unit,
        (loadThen fetch schedule names onReady).run s
          = (gathered answers (wanted names),
              ((onReady (gathered answers (wanted names))).run
                (Fetching.afterAsking fetch order s)).2) := by
  obtain ⟨order, hperm, hrun⟩ := run_load_of_steady h schedule names s
  refine ⟨order, hperm, ?_⟩
  intro onReady
  have hbind : (loadThen fetch schedule names onReady).run s
      = (((load fetch schedule names).run s).1,
          ((onReady ((load fetch schedule names).run s).1).run
            ((load fetch schedule names).run s).2).2) := rfl
  rw [hbind, hrun]

/-- Loading does not mix up its locales, whatever the schedule. The outcomes stand in the order of
the requests without repetitions. Each is what loading the locale by itself gives, whatever becomes
of the others and whatever the source answers for them. Another order of the requests, or
repetitions among them, show in the order of the outcomes only. The action that waits for the shelf
is run once, on the whole shelf, when every question has been asked. -/
theorem load_keeps_locales_apart {fetch : String → StateM σ Answer}
    {other : String → StateM τ Answer} {answers others : String → Answer}
    (h : Fetching.Steady fetch answers) (hother : Fetching.Steady other others)
    (schedule schedule' : List Nat) (names names' : List String) (s s' : σ) (t : τ) :
    let shelf := ((load fetch schedule names).run s).1
    let again := ((load fetch schedule' names').run s').1
    let elsewhere := ((load other schedule' names').run t).1
    shelf.locales = (names.map Locale.normalize).eraseDups ∧
    (∀ name ∈ names,
      let locale := Locale.normalize name
      let alone := ((load fetch schedule' [name]).run s').1
      let entry := outcome locale ((Draft.load locale).value answers)
      alone.locales = [locale] ∧ shelf.held name = alone.held name ∧
        shelf.held name = ([entry.1], some entry.2)) ∧
    ((∀ locale, locale ∈ names.map Locale.normalize ↔ locale ∈ names'.map Locale.normalize) →
      shelf.outcomes.Perm again.outcomes ∧ shelf.catalogs = again.catalogs) ∧
    (∀ name ∈ names, Locale.normalize name ∈ names'.map Locale.normalize →
      answers (Locale.normalize name) = others (Locale.normalize name) →
        shelf.held name = elsewhere.held name) ∧
    ∃ order, order.Perm (shelf.locales.filter Locale.isAccepted) ∧
      ∀ onReady : Shelf → StateM σ Unit,
        (loadThen fetch schedule names onReady).run s
          = (shelf, ((onReady shelf).run (Fetching.afterAsking fetch order s)).2) := by
  intro shelf again elsewhere
  have hshelf : shelf = gathered answers (wanted names) := load_of_steady h schedule names s
  have hagain : again = gathered answers (wanted names') := load_of_steady h schedule' names' s'
  refine ⟨?_, ?_, ?_, ?_, ?_⟩
  · rw [hshelf, locales_gathered, wanted_eq_eraseDups]
  · intro name hname locale alone entry
    have hmem : locale ∈ names.map Locale.normalize := List.mem_map_of_mem hname
    have hself : locale ∈ [name].map Locale.normalize := List.mem_singleton_self _
    have halone : alone = gathered answers (wanted [name]) :=
      load_of_steady h schedule' [name] s'
    have hentry : (loadOne locale).value answers = entry := value_loadOne answers locale
    refine ⟨?_, ?_, ?_⟩
    · rw [halone, locales_gathered, wanted_eq_eraseDups]
      rfl
    · exact (held_load_of_steady h schedule hmem s).trans
        (held_load_of_steady h schedule' hself s').symm
    · rw [← hentry]
      exact held_load_of_steady h schedule hmem s
  · intro hsame
    have hwanted : ∀ locale, locale ∈ wanted names ↔ locale ∈ wanted names' := by
      intro locale
      rw [mem_wanted, mem_wanted]
      exact hsame locale
    have hperm : (wanted names).Perm (wanted names') :=
      (List.perm_ext_iff_of_nodup (Locale.nodup_distinct _) (Locale.nodup_distinct _)).2 hwanted
    rw [hshelf, hagain]
    exact ⟨outcomes_gathered_perm answers hperm, catalogs_gathered_congr answers hwanted⟩
  · intro name hname hname' hanswer
    have hmem : Locale.normalize name ∈ names.map Locale.normalize := List.mem_map_of_mem hname
    have hsame := value_loadOne_congr hanswer
    calc shelf.held name
      _ = ([((loadOne (Locale.normalize name)).value answers).1],
            some ((loadOne (Locale.normalize name)).value answers).2) :=
          held_load_of_steady h schedule hmem s
      _ = ([((loadOne (Locale.normalize name)).value others).1],
            some ((loadOne (Locale.normalize name)).value others).2) := by rw [hsame]
      _ = elsewhere.held name := (held_load_of_steady hother schedule' hname' t).symm
  · obtain ⟨order, hperm, hrun⟩ := run_loadThen_of_steady h schedule names s
    refine ⟨order, ?_, ?_⟩
    · rw [hshelf, locales_gathered]
      exact hperm
    · rw [hshelf]
      exact hrun

/-- Three locales, one of them under two spellings and two of them missing, against a source that
has one dictionary and against one that has nothing else than an error for the others. -/
theorem load_keeps_locales_apart_missing :
    let answers : String → Answer := fun locale =>
      if locale = "en" then .ok "\x7b\"hi\": [\"#\"]\x7d" else .error (.notFound locale)
    let others : String → Answer := fun locale =>
      if locale = "en" then answers "en" else .error (.io "gone")
    let shelf :=
      ((load (Fetching.recorded answers) [2, 0, 0, 1] ["xx", "en-US", "EN", "de"]).run []).1
    let again := ((load (Fetching.recorded answers) [0] ["de", "en", "xx", "DE"]).run []).1
    let elsewhere := ((load (Fetching.recorded others) [0] ["de", "en", "xx", "DE"]).run []).1
    shelf.locales = ["xx", "en", "de"] ∧ shelf.readyLocales = ["en"] ∧
      shelf.outcomes.Perm again.outcomes ∧ shelf.catalogs = again.catalogs ∧
      shelf.held "en-US" = elsewhere.held "en-US" ∧
      ∃ order, order.Perm ["xx", "en", "de"] ∧
        ((loadThen (Fetching.recorded answers) [2, 0, 0, 1] ["xx", "en-US", "EN", "de"]
          fun shelf => modify (· ++ shelf.readyLocales.map ("ready: " ++ ·))).run []).2
          = order ++ ["ready: en"] := by
  intro answers others shelf again elsewhere
  have hready : shelf.readyLocales = ["en"] := by decide +kernel
  have hlocales : shelf.locales = ["xx", "en", "de"] := by decide +kernel
  have hnames : ["xx", "en-US", "EN", "de"].map Locale.normalize = ["xx", "en", "en", "de"] := by
    decide +kernel
  have hnames' : ["de", "en", "xx", "DE"].map Locale.normalize = ["de", "en", "xx", "de"] := by
    decide +kernel
  obtain ⟨-, -, hsame, happart, order, hperm, hrun⟩ :=
    load_keeps_locales_apart (Fetching.recorded_steady answers) (Fetching.recorded_steady others)
      [2, 0, 0, 1] [0] ["xx", "en-US", "EN", "de"] ["de", "en", "xx", "DE"] [] [] []
  have hshelf : ((load (Fetching.recorded answers) [2, 0, 0, 1]
      ["xx", "en-US", "EN", "de"]).run []).1 = shelf := rfl
  rw [hshelf] at hsame happart hperm hrun
  obtain ⟨houtcomes, hcatalogs⟩ := hsame (by
    intro locale
    rw [hnames, hnames']
    simp only [List.mem_cons, List.not_mem_nil]
    grind)
  refine ⟨hlocales, hready, houtcomes, hcatalogs, ?_, order, ?_, ?_⟩
  · exact happart "en-US" (by decide +kernel) (by decide +kernel) (by decide +kernel)
  · rw [hlocales] at hperm
    have haccepted : ["xx", "en", "de"].filter Locale.isAccepted = ["xx", "en", "de"] := by
      decide +kernel
    rwa [haccepted] at hperm
  · rw [hrun, Fetching.afterAsking_recorded, List.nil_append]
    show order ++ shelf.readyLocales.map ("ready: " ++ ·) = order ++ ["ready: en"]
    rw [hready]
    rfl

end Phrasebook.Shelf
