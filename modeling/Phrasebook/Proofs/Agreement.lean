import Phrasebook.Proofs.Compiling
import Phrasebook.Proofs.Search
import Phrasebook.Proofs.ShelfLoading

/-!
# Speakers and shelves agree

A speaker tries its locales one after the other and stops at the first that loads; a shelf loads
all of them side by side. Against a steady source both come to what the locales come to by
themselves. The search ends in one of two ways (`Speaker.search_settles`), and the shelf is the one
that `Shelf.gathered` describes. Compared with each other, the speaker speaks the first locale that
is ready on the shelf (`Speaker.locale?_search`), in the same words and with the same warnings.
-/

set_option autoImplicit false

namespace Phrasebook

/-! ## Locales that load -/

namespace Draft

/-- Whether the locale loads when the source has the given answers. -/
def loads (answers : String → Answer) (locale : String) : Bool :=
  ((Draft.load locale).value answers).isOk

/-- A locale is said to load exactly when loading it gives a draft. -/
theorem loads_eq_true_iff {answers : String → Answer} {locale : String} :
    loads answers locale = true ↔ ∃ draft, (Draft.load locale).value answers = .ok draft := by
  unfold loads
  cases (Draft.load locale).value answers with
  | ok draft => exact ⟨fun _ => ⟨draft, rfl⟩, fun _ => rfl⟩
  | error e => simp [Except.isOk, Except.toBool]

/-- A locale is said not to load exactly when loading it fails. -/
theorem loads_eq_false_iff {answers : String → Answer} {locale : String} :
    loads answers locale = false ↔ ∃ e, (Draft.load locale).value answers = .error e := by
  unfold loads
  cases (Draft.load locale).value answers with
  | ok draft => simp [Except.isOk, Except.toBool]
  | error e => exact ⟨fun _ => ⟨e, rfl⟩, fun _ => rfl⟩

end Draft

/-! ## What the search comes to -/

namespace Speaker

/-- The search stops at the first locale that loads, or behind the last one. -/
theorem search_settles (answers : String → Answer) (locales : List String) :
    (∃ before locale rest draft, locales = before ++ locale :: rest ∧
      (∀ earlier ∈ before, Draft.loads answers earlier = false) ∧
      (Draft.load locale).value answers = .ok draft ∧
      (search [] false locales).value answers
        = ⟨some (locale, draft.compile.1), steps answers (before ++ [locale]) 0,
            draft.compile.2⟩) ∨
    ((∀ locale ∈ locales, Draft.loads answers locale = false) ∧
      (search [] false locales).value answers
        = ⟨none, steps answers locales 0 ++ [.exhausted], []⟩) := by
  have hvalue : (search [] false locales).value answers
      = (((search [] false locales).run (Fetching.recorded answers)).run []).1 := by
    rw [Fetching.run_recorded]
  cases hfind : locales.find? (Draft.loads answers) with
  | some locale =>
    left
    obtain ⟨hload, before, rest, rfl, hbefore⟩ := List.find?_eq_some_iff_append.1 hfind
    obtain ⟨draft, hok⟩ := Draft.loads_eq_true_iff.1 hload
    have hfail : ∀ earlier ∈ before, Draft.loads answers earlier = false := by
      simpa using hbefore
    refine ⟨before, locale, rest, draft, rfl, hfail, hok, ?_⟩
    rw [hvalue, run_search_of_first (fun earlier h => Draft.loads_eq_false_iff.1 (hfail earlier h))
      hok]
  | none =>
    right
    have hfail : ∀ locale ∈ locales, Draft.loads answers locale = false := by
      simpa using List.find?_eq_none.1 hfind
    refine ⟨hfail, ?_⟩
    rw [hvalue, run_search_of_none fun locale h => Draft.loads_eq_false_iff.1 (hfail locale h)]

/-- A failure is written down for a locale that has been tried and that fails in this way. -/
theorem load_of_failed_mem_steps {answers : String → Answer} {locales : List String} {place : Nat}
    {locale : String} {e : LoadError} (h : .failed locale e ∈ steps answers locales place) :
    locale ∈ locales ∧ (Draft.load locale).value answers = .error e := by
  obtain ⟨⟨label, index⟩, hentry, hattempt⟩ := List.mem_flatMap.1 h
  have hlabel : label ∈ locales := List.fst_mem_of_mem_zipIdx hentry
  have hrequest : ∀ fallback, SearchStep.failed locale e ≠ request fallback label := by
    intro fallback
    cases fallback <;> simp [request]
  cases hload : (Draft.load label).value answers with
  | ok draft =>
    rw [attempt_of_ok hload] at hattempt
    simp [hrequest] at hattempt
  | error other =>
    rw [attempt_of_error hload] at hattempt
    obtain ⟨rfl, rfl⟩ : locale = label ∧ e = other := by simpa [hrequest] using hattempt
    exact ⟨hlabel, hload⟩

/-- A failure in the history is that of loading one of the locales. -/
theorem load_of_failed_mem_history {answers : String → Answer} {locales : List String}
    {locale : String} {e : LoadError}
    (h : .failed locale e ∈ ((search [] false locales).value answers).history) :
    locale ∈ locales ∧ (Draft.load locale).value answers = .error e := by
  rcases search_settles answers locales with
    ⟨before, settled, rest, draft, rfl, -, -, hvalue⟩ | ⟨-, hvalue⟩
  · rw [hvalue] at h
    obtain ⟨hmem, hload⟩ := load_of_failed_mem_steps h
    refine ⟨?_, hload⟩
    rw [List.append_cons]
    exact List.mem_append_left rest hmem
  · rw [hvalue] at h
    have hsteps : .failed locale e ∈ steps answers locales 0 := by
      simpa using h
    exact load_of_failed_mem_steps hsteps

/-- A search that has found a locale speaks from its dictionary. -/
theorem load_of_locale?_search {answers : String → Answer} {locales : List String} {locale : String}
    (h : ((search [] false locales).value answers).locale? = some locale) :
    locale ∈ locales ∧ ∃ draft, (Draft.load locale).value answers = .ok draft ∧
      ((search [] false locales).value answers).catalog? = some draft.compile.1 ∧
      ((search [] false locales).value answers).warnings = draft.compile.2 := by
  rcases search_settles answers locales with
    ⟨before, settled, rest, draft, rfl, -, hok, hvalue⟩ | ⟨-, hvalue⟩
  · rw [hvalue] at h ⊢
    obtain rfl : settled = locale := Option.some.inj h
    exact ⟨List.mem_append_right before List.mem_cons_self, draft, hok, rfl, rfl⟩
  · rw [hvalue] at h
    exact absurd h (by simp [locale?])

end Speaker

/-! ## What the shelf comes to -/

namespace Shelf

/-- An outcome is a success exactly when loading was. -/
theorem isOk_outcome (locale : String) (result : Except LoadError Draft) :
    (outcome locale result).1.isOk = result.isOk := by
  cases result <;> rfl

/-- The locales that load are ready. -/
theorem readyLocales_gathered (answers : String → Answer) (labels : List String) :
    (gathered answers labels).readyLocales = labels.filter (Draft.loads answers) := by
  have hready : (Outcome.isOk ∘ fun locale => ((loadOne locale).value answers).1)
      = Draft.loads answers := by
    funext locale
    rw [Function.comp_apply, value_loadOne, isOk_outcome]
    rfl
  rw [readyLocales, outcomes_gathered, List.filter_map, hready, List.map_map]
  exact (List.map_congr_left fun locale _ => locale_loadOne answers locale).trans (List.map_id _)

/-- A locale that loads is rendered from its own dictionary, however it is spelled. -/
theorem render_gathered_of_ok {answers : String → Answer} {labels : List String} {name : String}
    {draft : Draft} (hmem : Locale.normalize name ∈ labels)
    (hok : (Draft.load (Locale.normalize name)).value answers = .ok draft) (key : String)
    (values : Substitution) :
    (gathered answers labels).render name key values = draft.compile.1.render key values := by
  have hcatalog : (gathered answers labels).catalog? name = some draft.compile.1 := by
    rw [catalog?, get?_gathered, if_pos hmem, value_loadOne, hok]
    rfl
  rw [render, hcatalog]

end Shelf

/-! ## Comparing the two -/

/-- The search finds the first of the locales that are ready. -/
theorem Speaker.locale?_search (answers : String → Answer) (locales : List String) :
    ((search [] false locales).value answers).locale?
      = (Shelf.gathered answers locales).readyLocales.head? := by
  rw [Shelf.readyLocales_gathered]
  rcases search_settles answers locales with
    ⟨before, locale, rest, draft, rfl, hfail, hok, hvalue⟩ | ⟨hfail, hvalue⟩
  · have hbefore : before.filter (Draft.loads answers) = [] := by
      simpa using hfail
    rw [hvalue, List.filter_append, hbefore, List.nil_append,
      List.filter_cons_of_pos (Draft.loads_eq_true_iff.2 ⟨draft, hok⟩)]
    rfl
  · have hnone : locales.filter (Draft.loads answers) = [] := by
      simpa using hfail
    rw [hvalue, hnone]
    rfl

variable {σ : Type}

/-- A speaker and a shelf that are given the same locales and a source that answers both alike
agree, whatever the schedule of the shelf. The speaker speaks the first locale that is ready on the
shelf, and none if none is ready. Every failure in its history is the error that the shelf has for
the locale. What it renders the shelf renders for every spelling of its locale, and it warns of what
the outcome for its locale warns of; another order of visiting the entries of the dictionary would
show in the order of the warnings only. -/
theorem Speaker.start_agrees_with_load {fetch : String → StateM σ Answer}
    {answers : String → Answer} (h : Fetching.Steady fetch answers) (config : Config)
    (detected : Option String) (schedule : List Nat) (s s' : σ) :
    let locales := Locale.chain config.forcedLocale detected config.defaultLocale
    let speaker := (((start config detected).run fetch).run s).1
    let shelf := ((Shelf.load fetch schedule locales).run s').1
    speaker.locale? = shelf.readyLocales.head? ∧
    (speaker.isReady = false ↔ shelf.readyLocales = []) ∧
    (∀ locale e, .failed locale e ∈ speaker.history →
      ∃ outcome, shelf.outcomes.filter (·.locale == locale) = [outcome] ∧
        outcome.error = some e) ∧
    ∀ locale, speaker.locale? = some locale →
      (∀ name, Locale.normalize name = locale → ∀ key values,
        speaker.render key values = shelf.render name key values) ∧
      ∃ draft outcome, (Draft.load locale).value answers = .ok draft ∧
        shelf.outcomes.filter (·.locale == locale) = [outcome] ∧
        speaker.warnings = outcome.warnings ∧
        ∀ order, order.Perm draft.entries →
          speaker.catalog? = some (Draft.compileEntries order).1 ∧
            (Draft.compileEntries order).2.Perm outcome.warnings := by
  intro locales speaker shelf
  have hspeaker : speaker = (search [] false locales).value answers :=
    congrArg Prod.fst (Fetching.run_of_steady h (start config detected) s)
  have hshelf : shelf = Shelf.gathered answers locales :=
    (Shelf.load_of_steady h schedule locales s').trans (by rw [Shelf.wanted_chain])
  have hnodup : locales.Nodup := Locale.nodup_chain _ _ _
  have hlocale : speaker.locale? = shelf.readyLocales.head? := by
    rw [hspeaker, hshelf, locale?_search]
  refine ⟨hlocale, ?_, ?_, ?_⟩
  · have hready : speaker.isReady = speaker.locale?.isSome := by
      rw [isReady, locale?, Option.isSome_map]
    rw [hready, hlocale]
    simp
  · intro locale e hfailed
    rw [hspeaker] at hfailed
    obtain ⟨hmem, hload⟩ := load_of_failed_mem_history hfailed
    refine ⟨_, by rw [hshelf]; exact Shelf.filter_outcomes_gathered answers hnodup hmem, ?_⟩
    rw [Shelf.value_loadOne, hload]
    rfl
  · intro locale hsome
    rw [hspeaker] at hsome
    obtain ⟨hmem, draft, hok, hcatalog, hwarnings⟩ := load_of_locale?_search hsome
    rw [← hspeaker] at hcatalog hwarnings
    constructor
    · rintro name rfl key values
      rw [hshelf, Shelf.render_gathered_of_ok hmem hok, render, hcatalog]
    · refine ⟨draft, _, hok,
        by rw [hshelf]; exact Shelf.filter_outcomes_gathered answers hnodup hmem, ?_, ?_⟩
      · rw [hwarnings, Shelf.value_loadOne, hok]
        rfl
      · intro order horder
        rw [hcatalog, Shelf.value_loadOne, hok]
        exact ⟨congrArg some ((Draft.compileEntries_of_perm (List.Perm.refl _)).trans
          (Draft.compileEntries_of_perm horder).symm),
          Draft.compileEntries_warnings_perm horder⟩

/-- A speaker that stops before the default, beside a shelf that has that one as well. -/
theorem Speaker.start_agrees_with_load_detected :
    let answers : String → Answer := fun locale =>
      if locale = "ru" then .ok "\x7b\"hi\": [\"$#name\", \"#\"]\x7d"
      else if locale = "en" then .ok "\x7b\x7d"
      else .error (.notFound locale)
    let config := Config.default.withForcedLocale (some "DE")
    let speaker :=
      (((start config (some "ru_RU.UTF-8")).run (Fetching.recorded answers)).run []).1
    let shelf := ((Shelf.load (Fetching.recorded answers) [2, 0] ["de", "ru", "en"]).run []).1
    Fetching.Steady (Fetching.recorded answers) answers ∧
      shelf.readyLocales = ["ru", "en"] ∧ speaker.locale? = some "ru" ∧
      (∃ outcome, shelf.outcomes.filter (·.locale == "de") = [outcome] ∧
        outcome.error = some (.notFound "de")) ∧
      (∀ key values, speaker.render key values = shelf.render "RU-by" key values) ∧
      ∃ outcome, shelf.outcomes.filter (·.locale == "ru") = [outcome] ∧
        speaker.warnings = outcome.warnings ∧ speaker.warnings = [⟨"hi", 1, "#"⟩] := by
  intro answers config speaker shelf
  have hchain : Locale.chain config.forcedLocale (some "ru_RU.UTF-8") config.defaultLocale
      = ["de", "ru", "en"] := by decide +kernel
  have hready : shelf.readyLocales = ["ru", "en"] := by decide +kernel
  obtain ⟨hhead, -, hfailed, hsettled⟩ := start_agrees_with_load (Fetching.recorded_steady answers)
    config (some "ru_RU.UTF-8") [2, 0] [] []
  rw [hchain] at hhead hfailed hsettled
  have hspeaker : (((start config (some "ru_RU.UTF-8")).run (Fetching.recorded answers)).run []).1
      = speaker := rfl
  have hshelf : ((Shelf.load (Fetching.recorded answers) [2, 0] ["de", "ru", "en"]).run []).1
      = shelf := rfl
  rw [hspeaker, hshelf] at hhead hfailed hsettled
  have hlocale : speaker.locale? = some "ru" := by
    rw [hhead, hready]
    rfl
  obtain ⟨hrender, -, outcome, -, houtcome, hwarnings, -⟩ := hsettled "ru" hlocale
  exact ⟨Fetching.recorded_steady answers, hready, hlocale,
    hfailed "de" (.notFound "de") (by decide +kernel), hrender "RU-by" (by decide +kernel),
    outcome, houtcome, hwarnings, by decide +kernel⟩

end Phrasebook
