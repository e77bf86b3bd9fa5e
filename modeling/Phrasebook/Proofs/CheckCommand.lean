import Phrasebook.Proofs.Compiling
import Phrasebook.Proofs.RenderCommand
import Phrasebook.Proofs.ShelfLoading

/-!
# The check command from end to end

Checking on the command line loads a shelf and prints what is found on it. The messages of a locale
are counted in the catalog that the shelf has under the name of the outcome, the warnings in the
outcome itself. Both come from loading the locale by itself: a pool whose source only answers has
the values of its programs (`Pool.joinAll_id`), and an outcome is found again under its own name,
which is a normal form (`Finding.ofOutcome_gathered`). What loading comes to is then worded entry by
entry (`reports_lines_ofLoad`), and `check_settles` puts the entries together.
-/

set_option autoImplicit false

namespace Phrasebook

/-! ## Pools whose source only answers -/

namespace Pool

variable {α : Type} (answers : String → Answer)

/-- Against answers that are given at once, a step does not change what comes of a task. -/
theorem value_step_id (task : Task α) :
    Task.value answers (Id.run (task.step answers)) = task.value answers := by
  cases task with
  | running program =>
    cases program with
    | done value => rfl
    | ask locale resume => rfl
  | waiting answer resume => rfl

/-- No move changes what a task ends with. -/
theorem map_value_runSchedule_id (schedule : List Nat) (tasks : List (Task α)) :
    (Id.run (runSchedule answers schedule tasks)).map (Task.value answers)
      = tasks.map (Task.value answers) := by
  induction schedule generalizing tasks with
  | nil => rfl
  | cons index rest ih =>
    cases htask : tasks[index]? with
    | none =>
      rw [runSchedule, htask]
      exact ih tasks
    | some task =>
      have hstep : Id.run (runSchedule answers (index :: rest) tasks)
          = Id.run (runSchedule answers rest (tasks.set index (Id.run (task.step answers)))) := by
        rw [runSchedule, htask]
        rfl
      have hvalue : (tasks.map (Task.value answers))[index]? = some (task.value answers) := by
        rw [List.getElem?_map, htask]
        rfl
      obtain ⟨hlt, hget⟩ := List.getElem?_eq_some_iff.1 hvalue
      rw [hstep, ih, List.map_set, value_step_id, ← hget, List.set_getElem_self]

/-- Against answers that are given at once, every task comes to its value. -/
theorem finishAll_id (tasks : List (Task α)) :
    Id.run (finishAll answers tasks) = tasks.map (Task.value answers) := by
  induction tasks with
  | nil => rfl
  | cons task rest ih =>
    have hfinish : Id.run (task.finish answers) = task.value answers := by
      cases task with
      | running program => exact Fetching.run_id answers program
      | waiting answer resume => exact Fetching.run_id answers (resume answer)
    show Id.run (task.finish answers) :: Id.run (finishAll answers rest) = _
    rw [hfinish, ih, List.map_cons]

/-- A pool has the values of its programs, whatever the schedule. -/
theorem joinAll_id (schedule : List Nat) (programs : List (Fetching α)) :
    Id.run (joinAll answers schedule programs) = programs.map (Fetching.value answers) := by
  show Id.run (finishAll answers (Id.run (runSchedule answers schedule _))) = _
  rw [finishAll_id, map_value_runSchedule_id, List.map_map]
  rfl

end Pool

/-- Against answers that are given at once, any schedule loads the shelf that the values make. -/
theorem Shelf.load_id (answers : String → Answer) (schedule : List Nat) (names : List String) :
    Id.run (load answers schedule names) = gathered answers (wanted names) := by
  show (Id.run (Pool.joinAll answers schedule _)).foldl add empty = _
  rw [Pool.joinAll_id, List.map_map]
  rfl

/-! ## Counting -/

/-- There are as many warnings as elements of nothing but marks. -/
theorem Template.length_warnings (key : String) (template : Template) :
    (template.warnings key).length = template.countP (Element.IsBare ·) := by
  have hfrom : ∀ index, (warningsFrom key index template).length
      = template.countP (Element.IsBare ·) := by
    induction template with
    | nil => exact fun index => rfl
    | cons element rest ih =>
      intro index
      rw [warningsFrom, List.countP_cons]
      by_cases hbare : Element.IsBare element
      · simp [Element.malformed_read_iff.2 hbare, hbare, ih]
      · simp [mt Element.malformed_read_iff.1 hbare, hbare, ih]
  exact hfrom 0

namespace Draft

/-- The number of elements that consist of their marks. -/
def bareElements (draft : Draft) : Nat :=
  (draft.entries.flatMap (·.2)).countP (Element.IsBare ·)

/-- A dictionary has as many warnings as such elements in all its messages. -/
theorem length_warnings_compile (draft : Draft) :
    draft.compile.2.length = draft.bareElements := by
  rw [compile, compileEntries, bareElements, List.length_flatMap, List.countP_flatMap]
  simp only [Template.length_warnings, Function.comp_def]

/-- Compiling keeps the number of messages. -/
theorem size_compile (draft : Draft) : draft.compile.1.size = draft.size := by
  rw [compile, compileEntries_of_perm (List.Perm.refl _)]
  exact List.length_map _

end Draft

/-! ## Entries of the report -/

namespace CommandLine

/-- The lines that say what loading a locale has come to. For a dictionary they give the number of
its messages and that of its bare elements, with one warning for each place of a bare element; for a
failure they give its text. -/
def Reports (locale : String) : Except LoadError Draft → List String → Prop
  | .ok draft, lines => ∃ warnings : List Warning,
      lines = ("✅ " ++ locale ++ ": " ++ toString draft.size ++ " messages, "
        ++ toString draft.bareElements ++ " warnings")
          :: warnings.map (fun w => "   ⚠️  " ++ w.message) ∧
      warnings.length = draft.bareElements ∧ (warnings.map fun w => (w.key, w.index)).Nodup ∧
      ∀ key index element, ⟨key, index, element⟩ ∈ warnings ↔
        ∃ template, draft.get? key = some template ∧ template[index]? = some element ∧
          Element.IsBare element
  | .error e, lines => lines = ["❌ " ++ locale ++ ": " ++ e.message]

/-- What is found about a locale that is loaded by itself. -/
def Finding.ofLoad (locale : String) (loaded : Except LoadError Draft) : Finding where
  locale := locale
  result := loaded.map fun draft => (draft.size, draft.compile.2)

/-- The lines of a finding are what a report says of that load. -/
theorem reports_lines_ofLoad (locale : String) (loaded : Except LoadError Draft) :
    Reports locale loaded (Finding.ofLoad locale loaded).lines := by
  cases loaded with
  | error e => rfl
  | ok draft =>
    refine ⟨draft.compile.2, ?_, draft.length_warnings_compile,
      Draft.nodup_places_compileEntries draft.nodup_keys,
      fun key index element => Draft.mem_compileEntries_of_perm (List.Perm.refl _)⟩
    rw [← draft.length_warnings_compile]
    rfl

/-- A finding is a failure exactly when the load failed. -/
theorem isFailure_ofLoad (locale : String) (loaded : Except LoadError Draft) :
    (Finding.ofLoad locale loaded).isFailure = !loaded.isOk := by
  cases loaded with
  | error e => rfl
  | ok draft => rfl

/-- What a shelf says about the outcome of one of its locales is what loading that locale by itself
comes to. The catalog is looked up under the normal form of the name of the outcome, which is the
name itself. -/
theorem Finding.ofOutcome_gathered (answers : String → Answer) {labels : List String}
    {locale : String} (hmem : locale ∈ labels) (hnormal : Locale.normalize locale = locale) :
    ofOutcome (Shelf.gathered answers labels) ((Shelf.loadOne locale).value answers).1
      = ofLoad locale ((Draft.load locale).value answers) := by
  have hcatalog : (Shelf.gathered answers labels).catalog? locale
      = ((Shelf.loadOne locale).value answers).2 := by
    rw [Shelf.catalog?, hnormal, Shelf.get?_gathered, if_pos hmem]
    rfl
  rw [ofOutcome, Shelf.locale_loadOne, hcatalog, Shelf.value_loadOne]
  cases (Draft.load locale).value answers with
  | error e => rfl
  | ok draft =>
    show (⟨locale, .ok (draft.compile.1.size, draft.compile.2)⟩ : Finding) = _
    rw [draft.size_compile]
    rfl

/-- Laid over a configuration, no choice changes the locales that it loads together. -/
theorem Choices.locales_apply (choices : Choices) (config : Config) :
    (choices.apply config).locales = config.locales := by
  obtain ⟨locale, defaultLocale, directory, encoding⟩ := choices
  cases locale <;> cases defaultLocale <;> cases directory <;> cases encoding <;> rfl

/-- The failure of a report counts the locales that do not load. -/
theorem failure_ofFindings (labels : List String) (loaded : String → Except LoadError Draft) :
    let failing := labels.filter fun locale => !(loaded locale).isOk
    (Report.ofFindings (labels.map fun locale => Finding.ofLoad locale (loaded locale))).failure
      = if failing = [] then none else some (.failedLocales failing.length) := by
  intro failing
  have hfailing : ((labels.map fun locale => Finding.ofLoad locale (loaded locale)).filter
      Finding.isFailure).length = failing.length := by
    have hfails : (Finding.isFailure ∘ fun locale => Finding.ofLoad locale (loaded locale))
        = fun locale => !(loaded locale).isOk :=
      funext fun locale => isFailure_ofLoad locale (loaded locale)
    rw [List.filter_map, List.length_map, hfails]
  rw [Report.ofFindings, hfailing]
  simp only [List.length_eq_zero_iff]

/-! ## The command -/

variable (files : String → Except ReadFailure (List UInt8)) (env : Environment)

/-- The locales that are checked: those that are named, or else the configured ones, in normal form
and without repetitions. -/
def checked (locales : List String) : List String :=
  ((if locales.isEmpty then (Config.ofEnvironment env).locales else locales).map
    Locale.normalize).eraseDups

/-- The configuration that the command loads. -/
def Choices.configFor (choices : Choices) (locales : List String) : Config :=
  let config := choices.apply (Config.ofEnvironment env)
  if locales.isEmpty then config else config.withLocales locales

/-- The directory and its encoding are those chosen, or else those of the environment, or else the
defaults. -/
theorem Choices.source_configFor (choices : Choices) (locales : List String) :
    (choices.configFor env locales).source
      = ⟨(choices.directory.or (Config.setting? env "LOCALIZE_DIR")).getD "locales",
          (choices.encoding.or (Config.setting? env "LOCALIZE_ENCODING")).getD "utf-8"⟩ := by
  rw [← choices.source_apply env, configFor]
  split <;> rfl

/-- Named locales are brought to normal form twice, which changes nothing. -/
theorem Choices.wanted_configFor (choices : Choices) (locales : List String) :
    Shelf.wanted (choices.configFor env locales).locales = checked env locales := by
  rw [Shelf.wanted_eq_eraseDups, checked, configFor]
  split
  · rw [locales_apply]
  · have htwice : (locales.map Locale.normalize).map Locale.normalize
        = locales.map Locale.normalize := by
      simp
    rw [← htwice]
    rfl

/-- With files that only answer, the command finds what loading each of the locales by itself comes
to. -/
theorem findings_id (locales : List String) (choices : Choices) {directory : Directory}
    (hdirectory : (choices.configFor env locales).source = directory) :
    Id.run (findings files env locales choices)
      = (checked env locales).map fun locale =>
          Finding.ofLoad locale (Id.run ((Draft.load locale).run (directory.fetch files))) := by
  let answers : String → Answer := fun locale => Id.run (directory.fetch files locale)
  have hshelf : Id.run (Shelf.loadDirectory files [] (choices.configFor env locales))
      = Shelf.gathered answers (checked env locales) := by
    rw [← choices.wanted_configFor, ← Shelf.load_id answers []]
    subst hdirectory
    rfl
  have hfindings : ∀ shelf, Id.run (Shelf.loadDirectory files [] (choices.configFor env locales))
      = shelf → Id.run (findings files env locales choices)
        = shelf.outcomes.map (Finding.ofOutcome shelf) := by
    rintro shelf rfl
    rfl
  rw [hfindings _ hshelf, Shelf.outcomes_gathered, List.map_map]
  apply List.map_congr_left
  intro locale hlocale
  have hnormal : Locale.normalize locale = locale := by
    rw [← choices.wanted_configFor] at hlocale
    exact Shelf.normalize_of_mem_wanted hlocale
  have hvalue : (Draft.load locale).value answers
      = Id.run ((Draft.load locale).run (directory.fetch files)) :=
    (Fetching.run_id _ _).symm
  rw [Function.comp_apply, Finding.ofOutcome_gathered answers hlocale hnormal, hvalue]

/-- The check command from end to end. It checks the named locales, or the configured ones if none
are named, in normal form and each once, in the order in which they are first named, in the
directory and under the encoding that were chosen. The report has one entry for each of them, which
says what loading that locale by itself comes to. The command succeeds exactly when all of them
load; otherwise it says how many do not. -/
theorem check_settles (locales : List String) (choices : Choices) :
    let directory : Directory :=
      ⟨(choices.directory.or (Config.setting? env "LOCALIZE_DIR")).getD "locales",
        (choices.encoding.or (Config.setting? env "LOCALIZE_ENCODING")).getD "utf-8"⟩
    let named := if locales.isEmpty then (Config.ofEnvironment env).locales else locales
    let labels := (named.map Locale.normalize).eraseDups
    let loaded := fun locale => Id.run ((Draft.load locale).run (directory.fetch files))
    let failing := labels.filter fun locale => !(loaded locale).isOk
    let report : Report := Id.run (Command.run files env (.check locales choices))
    (∃ entries : List (List String), report.lines = entries.flatten ∧
      List.Forall₂ (fun locale lines => Reports locale (loaded locale) lines) labels entries) ∧
    (report.exitCode = 0 ↔ ∀ locale ∈ labels, ∃ draft, loaded locale = .ok draft) ∧
    report.failure.map Failure.message
      = if failing = [] then none
        else some (toString failing.length ++ " locale(s) failed to load") := by
  intro directory named labels loaded failing report
  have hreport : report
      = Report.ofFindings (labels.map fun locale => Finding.ofLoad locale (loaded locale)) :=
    congrArg Report.ofFindings
      (findings_id files env locales choices (choices.source_configFor env locales))
  have hfailure : report.failure
      = if failing = [] then none else some (.failedLocales failing.length) := by
    rw [hreport]
    exact failure_ofFindings labels loaded
  refine ⟨⟨labels.map fun locale => (Finding.ofLoad locale (loaded locale)).lines, ?_, ?_⟩, ?_, ?_⟩
  · rw [hreport, Report.ofFindings, List.flatMap_map]
    rfl
  · rw [List.forall₂_map_right_iff, List.forall₂_same]
    exact fun locale _ => reports_lines_ofLoad locale (loaded locale)
  · have hexit : report.exitCode = 0 ↔ failing = [] := by
      rw [Report.exitCode, hfailure]
      split <;> simp_all
    rw [hexit, List.filter_eq_nil_iff]
    refine forall₂_congr fun locale _ => ?_
    cases loaded locale with
    | error e => simp [Except.isOk, Except.toBool]
    | ok draft => simp [Except.isOk, Except.toBool]
  · rw [hfailure]
    split <;> rfl

/-- Two locales under two spellings each, of which one is not an object and the other has two bare
elements; the configured locales, of which none loads; and one locale that does. -/
theorem check_settles_repeated :
    let tree := FileTree.ofList [
      ("texts/en.json", some (Text.Utf8.encode
        "\x7b\"hi\": [\"#\", \"x\", \"$~\"], \"bye\": [], \"@by\": 1\x7d".toList)),
      ("texts/ru.json", some (Text.Utf8.encode "[]".toList))]
    let env : Environment := fun name => KeyMap.findEntry name [("LOCALIZE_DIR", "texts"),
      ("LOCALIZE_LOCALES", "de, ru")]
    let check := fun locales =>
      (Id.run (Command.run tree.read env (.check locales ⟨none, none, none, none⟩)) : Report)
    let loaded := fun locale =>
      Id.run ((Draft.load locale).run (Directory.fetch tree.read ⟨"texts", "utf-8"⟩))
    (∃ ru en, (check ["ru", "EN-us", "en", "ru_RU"]).lines = ru ++ en ∧
      Reports "ru" (loaded "ru") ru ∧ Reports "en" (loaded "en") en ∧
      loaded "en" = .ok (KeyMap.ofList [("hi", ["#", "x", "$~"]), ("bye", [])])) ∧
    (check ["ru", "EN-us", "en", "ru_RU"]).failure.map Failure.message
      = some "1 locale(s) failed to load" ∧
    (check []).exitCode ≠ 0 ∧ (check ["en"]).exitCode = 0 := by
  intro tree env check loaded
  have hdirectory : (⟨(Option.or none (Config.setting? env "LOCALIZE_DIR")).getD "locales",
      (Option.or none (Config.setting? env "LOCALIZE_ENCODING")).getD "utf-8"⟩ : Directory)
        = ⟨"texts", "utf-8"⟩ := by
    decide +kernel
  have hall : ∀ locales labels, checked env locales = labels →
      let failing := labels.filter fun locale => !(loaded locale).isOk
      (∃ entries : List (List String), (check locales).lines = entries.flatten ∧
        List.Forall₂ (fun locale lines => Reports locale (loaded locale) lines) labels entries) ∧
      ((check locales).exitCode = 0 ↔ ∀ locale ∈ labels, ∃ draft, loaded locale = .ok draft) ∧
      (check locales).failure.map Failure.message
        = if failing = [] then none
          else some (toString failing.length ++ " locale(s) failed to load") := by
    rintro locales labels rfl
    have h := check_settles tree.read env locales ⟨none, none, none, none⟩
    dsimp only at h
    rw [hdirectory] at h
    exact h
  have hen : loaded "en" = .ok (KeyMap.ofList [("hi", ["#", "x", "$~"]), ("bye", [])]) := by
    decide +kernel
  have hde : loaded "de" = .error (.notFound "texts/de.json") := by decide +kernel
  obtain ⟨⟨entries, hlines, hentries⟩, -, hfailure⟩ :=
    hall ["ru", "EN-us", "en", "ru_RU"] ["ru", "en"] (by decide +kernel)
  refine ⟨?_, ?_, ?_, ?_⟩
  · obtain ⟨ru, others, hru, hothers, rfl⟩ := List.forall₂_cons_left_iff.1 hentries
    obtain ⟨en, none, hreports, hnone, rfl⟩ := List.forall₂_cons_left_iff.1 hothers
    obtain rfl := List.forall₂_nil_left_iff.1 hnone
    exact ⟨ru, en, by simpa using hlines, hru, hreports, hen⟩
  · have hfailing : ["ru", "en"].filter (fun locale => !(loaded locale).isOk) = ["ru"] := by
      decide +kernel
    rw [hfailure, hfailing]
    rfl
  · rw [Ne, (hall [] ["de", "ru"] (by decide +kernel)).2.1]
    intro hloads
    obtain ⟨draft, hdraft⟩ := hloads "de" (by simp)
    rw [hde] at hdraft
    cases hdraft
  · rw [(hall ["en"] ["en"] (by decide +kernel)).2.1]
    intro locale hlocale
    rw [List.mem_singleton.1 hlocale]
    exact ⟨_, hen⟩

end CommandLine

end Phrasebook
