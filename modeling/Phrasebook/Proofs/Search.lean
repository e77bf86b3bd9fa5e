import Phrasebook.Proofs.DistinctLocales
import Phrasebook.Proofs.Runs
import Phrasebook.Speaker

/-!
# The search of a speaker

A speaker tries the locales of its chain in turn and settles on the first whose dictionary loads.
`Speaker.steps` writes down, without a loop, what trying some locales leaves in the history.
`run_search_append` says that locales that fail only add their steps and are otherwise passed over;
`start_settles_on_first` puts together from it how a search ends, in the first locale that loads or
behind the last of the chain.
-/

set_option autoImplicit false

namespace Phrasebook.Speaker

/-! ## What is written into the history -/

/-- The steps of trying the locale at the given place of the chain. -/
def attempt (answers : String → Answer) (place : Nat) (locale : String) : List SearchStep :=
  let request := if place = 0 then .requested locale else .requestedFallback locale
  match (Draft.load locale).value answers with
  | .ok _ => [request, .ready locale]
  | .error e => [request, .failed locale e]

/-- The steps of trying the locales one after the other, the first of them at the given place. -/
def steps (answers : String → Answer) (locales : List String) (place : Nat) : List SearchStep :=
  (locales.zipIdx place).flatMap fun entry => attempt answers entry.2 entry.1

/-- No locales are tried in no steps. -/
@[simp] theorem steps_nil (answers : String → Answer) (place : Nat) :
    steps answers [] place = [] := rfl

/-- The first locale is tried in its place, and the others in the places behind. -/
theorem steps_cons (answers : String → Answer) (locale : String) (locales : List String)
    (place : Nat) :
    steps answers (locale :: locales) place
      = attempt answers place locale ++ steps answers locales (place + 1) := by
  rw [steps, List.zipIdx_cons, List.flatMap_cons]
  rfl

/-- Two rows of locales are tried one after the other. -/
theorem steps_append (answers : String → Answer) (before behind : List String) (place : Nat) :
    steps answers (before ++ behind) place
      = steps answers before place ++ steps answers behind (place + before.length) := by
  rw [steps, List.zipIdx_append, List.flatMap_append]
  rfl

/-- A locale that loads is asked for and is ready. -/
theorem attempt_of_ok {answers : String → Answer} {locale : String} {draft : Draft}
    (h : (Draft.load locale).value answers = .ok draft) (place : Nat) :
    attempt answers place locale = [request (decide (0 < place)) locale, .ready locale] := by
  rw [attempt, h]
  cases place <;> rfl

/-- A locale that does not load is asked for and fails. -/
theorem attempt_of_error {answers : String → Answer} {locale : String} {e : LoadError}
    (h : (Draft.load locale).value answers = .error e) (place : Nat) :
    attempt answers place locale = [request (decide (0 < place)) locale, .failed locale e] := by
  rw [attempt, h]
  cases place <;> rfl

/-! ## One locale -/

/-- The search ends with a locale that loads; nothing is asked for behind it. -/
theorem run_search_of_ok {answers : String → Answer} {locale : String} {draft : Draft}
    (h : (Draft.load locale).value answers = .ok draft) (history : List SearchStep)
    (place : Nat) (rest seen : List String) :
    ((search history (decide (0 < place)) (locale :: rest)).run
        (Fetching.recorded answers)).run seen
      = (⟨some (locale, draft.compile.1), history ++ attempt answers place locale,
          draft.compile.2⟩, seen ++ [locale].filter Locale.isAccepted) := by
  rw [search, Fetching.run_recorded_bind, h, Draft.asked_load, attempt_of_ok h]
  rfl

/-- A locale that fails is written down and the search goes on behind it. -/
theorem run_search_of_error {answers : String → Answer} {locale : String} {e : LoadError}
    (h : (Draft.load locale).value answers = .error e) (history : List SearchStep)
    (place : Nat) (rest seen : List String) :
    ((search history (decide (0 < place)) (locale :: rest)).run
        (Fetching.recorded answers)).run seen
      = ((search (history ++ attempt answers place locale) (decide (0 < place + 1)) rest).run
          (Fetching.recorded answers)).run (seen ++ [locale].filter Locale.isAccepted) := by
  rw [search, Fetching.run_recorded_bind, h, Draft.asked_load, attempt_of_error h]
  rfl

/-! ## A row of locales -/

/-- Locales that fail add their steps to the history and are asked for in turn, and the search goes
on behind them. The induction is on the row, with the history and the record so far. -/
theorem run_search_append {answers : String → Answer} {before : List String}
    (hfail : ∀ locale ∈ before, ∃ e, (Draft.load locale).value answers = .error e)
    (history : List SearchStep) (place : Nat) (rest seen : List String) :
    ((search history (decide (0 < place)) (before ++ rest)).run
        (Fetching.recorded answers)).run seen
      = ((search (history ++ steps answers before place) (decide (0 < place + before.length))
          rest).run (Fetching.recorded answers)).run (seen ++ before.filter Locale.isAccepted) := by
  induction before generalizing history place seen with
  | nil => simp
  | cons locale before ih =>
    obtain ⟨e, he⟩ := hfail locale List.mem_cons_self
    have hbefore : ∀ l ∈ before, ∃ e, (Draft.load l).value answers = .error e :=
      fun l hl => hfail l (List.mem_cons_of_mem _ hl)
    have hplace : place + 1 + before.length = place + (locale :: before).length := by
      rw [List.length_cons]
      omega
    have hasked : [locale].filter Locale.isAccepted ++ before.filter Locale.isAccepted
        = (locale :: before).filter Locale.isAccepted := by
      rw [← List.filter_append]
      rfl
    rw [List.cons_append, run_search_of_error he, ih hbefore, hplace, List.append_assoc,
      ← steps_cons, List.append_assoc, hasked]

/-- A search in which some locale is the first to load. -/
theorem run_search_of_first {answers : String → Answer} {before : List String} {locale : String}
    {draft : Draft} (hfail : ∀ l ∈ before, ∃ e, (Draft.load l).value answers = .error e)
    (hok : (Draft.load locale).value answers = .ok draft) (rest : List String) :
    ((search [] false (before ++ locale :: rest)).run (Fetching.recorded answers)).run []
      = (⟨some (locale, draft.compile.1), steps answers (before ++ [locale]) 0, draft.compile.2⟩,
          (before ++ [locale]).filter Locale.isAccepted) := by
  have h := run_search_append hfail [] 0 (locale :: rest) []
  rw [run_search_of_ok hok] at h
  rw [steps_append, steps_cons, steps_nil, List.append_nil, List.filter_append]
  exact h

/-- A search in which no locale loads. -/
theorem run_search_of_none {answers : String → Answer} {locales : List String}
    (hfail : ∀ l ∈ locales, ∃ e, (Draft.load l).value answers = .error e) :
    ((search [] false locales).run (Fetching.recorded answers)).run []
      = (⟨none, steps answers locales 0 ++ [.exhausted], []⟩,
          locales.filter Locale.isAccepted) := by
  have h := run_search_append hfail [] 0 [] []
  rw [List.append_nil] at h
  exact h

/-! ## Starting a speaker -/

/-- How starting a speaker ends, for every configuration, every detected locale and every source.
The candidates are the normal forms of the forced, the detected and the default locale, without
empty ones and without repetitions. If one of them is the first to load, the history holds the steps
of trying the candidates up to it and nothing else, the speaker has its dictionary and its warnings,
and no later candidate is ever asked for. If none loads, the history holds the steps of all of them
and one more, and the speaker renders everything as nothing. -/
theorem start_settles_on_first (config : Config) (detected : Option String)
    (answers : String → Answer) :
    let candidates := (([config.forcedLocale, detected, some config.defaultLocale].reduceOption.map
      Locale.normalize).filter (· ≠ "")).eraseDups
    let loaded := fun locale => (Draft.load locale).value answers
    let run := ((start config detected).run (Fetching.recorded answers)).run []
    (∀ before locale rest draft, candidates = before ++ locale :: rest →
      (∀ earlier ∈ before, ∃ e, loaded earlier = .error e) → loaded locale = .ok draft →
        run.1.history = steps answers (before ++ [locale]) 0 ∧
        run.1.active = some (locale, draft.compile.1) ∧
        run.1.warnings = draft.compile.2 ∧
        run.2 = (before ++ [locale]).filter Locale.isAccepted ∧
        ∀ later ∈ rest, later ∉ run.2) ∧
    ((∀ candidate ∈ candidates, ∃ e, loaded candidate = .error e) →
        run.1.history = steps answers candidates 0 ++ [.exhausted] ∧
        run.1.isReady = false ∧ run.1.warnings = [] ∧
        ∀ key values, run.1.render key values = "") := by
  intro candidates loaded run
  have hchain : Locale.chain config.forcedLocale detected config.defaultLocale = candidates :=
    Locale.chain_eq_eraseDups _ _ _
  have hrun : run = ((search [] false candidates).run (Fetching.recorded answers)).run [] := by
    rw [← hchain]
    rfl
  constructor
  · intro before locale rest draft hsplit hfail hok
    rw [hsplit, run_search_of_first hfail hok] at hrun
    have hnodup : (before ++ [locale] ++ rest).Nodup := by
      rw [List.append_assoc, List.singleton_append, ← hsplit]
      exact Locale.nodup_eraseDups _
    rw [hrun]
    refine ⟨rfl, rfl, rfl, rfl, ?_⟩
    intro later hlater hasked
    exact (List.nodup_append.1 hnodup).2.2 later (List.mem_filter.1 hasked).1 later hlater rfl
  · intro hfail
    rw [run_search_of_none hfail] at hrun
    rw [hrun]
    exact ⟨rfl, rfl, rfl, fun key values => rfl⟩

/-- A speaker that settles on the default behind two failures, and one whose source is gone. -/
theorem start_settles_on_default :
    let answers : String → Answer := fun locale =>
      if locale = "en" then .ok "\x7b\"hi\": [\"#\"]\x7d" else .error (.notFound locale)
    let config := Config.default.withForcedLocale (some "DE")
    let run := ((start config (some "ru_RU.UTF-8")).run (Fetching.recorded answers)).run []
    let gone := ((start config none).run (Fetching.recorded fun _ => .error (.io "gone"))).run []
    (run.1.history = [.requested "de", .failed "de" (.notFound "de"), .requestedFallback "ru",
        .failed "ru" (.notFound "ru"), .requestedFallback "en", .ready "en"] ∧
      run.1.warnings = [⟨"hi", 0, "#"⟩] ∧ run.2 = ["de", "ru", "en"]) ∧
    gone.1.history = [.requested "de", .failed "de" (.io "gone"), .requestedFallback "en",
        .failed "en" (.io "gone"), .exhausted] ∧
      gone.1.isReady = false := by
  intro answers config run gone
  constructor
  · have hsplit : (([config.forcedLocale, some "ru_RU.UTF-8",
        some config.defaultLocale].reduceOption.map Locale.normalize).filter (· ≠ "")).eraseDups
        = ["de", "ru"] ++ "en" :: [] := by decide +kernel
    have hfail : ∀ earlier ∈ ["de", "ru"], ∃ e, (Draft.load earlier).value answers = .error e := by
      intro earlier hmem
      refine ⟨.notFound earlier, ?_⟩
      rcases List.mem_pair.1 hmem with rfl | rfl <;> decide +kernel
    have hok : (Draft.load "en").value answers = .ok (KeyMap.ofList [("hi", ["#"])]) := by
      decide +kernel
    have h := (start_settles_on_first config (some "ru_RU.UTF-8") answers).1 ["de", "ru"] "en" []
      (KeyMap.ofList [("hi", ["#"])]) hsplit hfail hok
    -- Named first, so that nothing below has to compute the run in order to recognise it.
    have hrun :
        ((start config (some "ru_RU.UTF-8")).run (Fetching.recorded answers)).run [] = run := rfl
    rw [hrun] at h
    obtain ⟨hhistory, -, hwarnings, hasked, -⟩ := h
    rw [hhistory, hwarnings, hasked]
    exact ⟨by decide +kernel, by decide +kernel, by decide +kernel⟩
  · have hfail : ∀ candidate, ∃ e,
        (Draft.load candidate).value (fun _ => .error (.io "gone")) = .error e := by
      intro candidate
      rw [Draft.value_load]
      cases Locale.check candidate with
      | error e => exact ⟨e, rfl⟩
      | ok u => exact ⟨_, rfl⟩
    have h := (start_settles_on_first config none fun _ => .error (.io "gone")).2
      fun candidate _ => hfail candidate
    have hgone : ((start config none).run (Fetching.recorded fun _ => .error (.io "gone"))).run []
        = gone := rfl
    rw [hgone] at h
    obtain ⟨hhistory, hready, -, -⟩ := h
    rw [hhistory]
    exact ⟨by decide +kernel, hready⟩

end Phrasebook.Speaker
