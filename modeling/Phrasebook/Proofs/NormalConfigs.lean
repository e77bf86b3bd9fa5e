import Mathlib.Data.List.ReduceOption
import Phrasebook.Proofs.NamedLocales

/-!
# Locales of a configuration

However a configuration comes about, from the default or the environment and by setting fields, the
locales that it names are in normal form (`Config.Normal`): it starts so (`normal_default`,
`normal_ofEnvironment`), every change keeps it so (`Normal.apply`), and so does any row of changes
(`Normal.foldl_apply`). Chains and shelves bring names to normal form themselves, which does nothing
to such a configuration. A list that is joined by commas is taken apart again
(`localeList_intercalate`), so the environment and `withLocales` give the same locales but for the
empty ones.
-/

set_option autoImplicit false

namespace Phrasebook

/-! ## Changes -/

namespace Config

/-- What can be set in a configuration after it was started. -/
inductive Change where
  | directory (path : String)
  | defaultLocale (name : String)
  | forcedLocale (name : Option String)
  | locales (names : List String)
  deriving DecidableEq, Repr

/-- The configuration behind a change. -/
def Change.apply (c : Config) : Change → Config
  | .directory path => c.withDirectory path
  | .defaultLocale name => c.withDefaultLocale name
  | .forcedLocale name => c.withForcedLocale name
  | .locales names => c.withLocales names

/-- Every locale that the configuration names is in normal form. -/
structure Normal (c : Config) : Prop where
  defaultLocale : Locale.normalize c.defaultLocale = c.defaultLocale
  forcedLocale : ∀ locale ∈ c.forcedLocale, Locale.normalize locale = locale
  locales : ∀ locale ∈ c.locales, Locale.normalize locale = locale

/-- The default configuration names locales in normal form. -/
theorem normal_default : Normal default := by
  have hen : Locale.normalize "en" = "en" := by decide +kernel
  refine ⟨hen, ?_, ?_⟩
  · rintro locale ⟨⟩
  · intro locale hlocale
    rw [List.mem_singleton.1 hlocale]
    exact hen

/-- A configuration from the environment names locales in normal form. -/
theorem normal_ofEnvironment (env : Environment) : Normal (ofEnvironment env) := by
  refine ⟨normalize_defaultLocale env, ?_, fun locale => normalize_of_mem_locales⟩
  intro locale hlocale
  obtain ⟨value, -, rfl⟩ := Option.map_eq_some_iff.1 hlocale
  exact Locale.normalize_normalize value

/-- A change keeps the names in normal form. -/
theorem Normal.apply {c : Config} (h : Normal c) (change : Change) : Normal (change.apply c) := by
  cases change with
  | directory path => exact ⟨h.defaultLocale, h.forcedLocale, h.locales⟩
  | defaultLocale name =>
    exact ⟨Locale.normalize_normalize name, h.forcedLocale, h.locales⟩
  | forcedLocale name =>
    refine ⟨h.defaultLocale, ?_, h.locales⟩
    intro locale hlocale
    obtain ⟨spelling, -, rfl⟩ := Option.map_eq_some_iff.1 hlocale
    exact Locale.normalize_normalize spelling
  | locales names =>
    refine ⟨h.defaultLocale, h.forcedLocale, ?_⟩
    intro locale hlocale
    obtain ⟨spelling, -, rfl⟩ := List.mem_map.1 hlocale
    exact Locale.normalize_normalize spelling

/-- Any row of changes keeps the names in normal form. -/
theorem Normal.foldl_apply {c : Config} (h : Normal c) (changes : List Change) :
    Normal (changes.foldl Change.apply c) := by
  induction changes generalizing c with
  | nil => exact h
  | cons change changes ih => exact ih (h.apply change)

end Config

/-! ## Normal forms in use -/

/-- A chain keeps names in normal form as they are. -/
theorem Locale.chain_of_normal {forced : Option String} {default : String}
    (hforced : ∀ locale ∈ forced, normalize locale = locale)
    (hdefault : normalize default = default) (detected : Option String) :
    chain forced detected default =
      ([forced, detected.map normalize, some default].reduceOption.filter (· ≠ "")).eraseDups := by
  have hmapped : forced.map normalize = forced := by
    cases forced with
    | none => rfl
    | some name => rw [Option.map_some, hforced name rfl]
  have hnames : [forced, detected, some default].reduceOption.map normalize
      = [forced, detected.map normalize, some default].reduceOption := by
    have hsome : (some default).map normalize = some default := by
      rw [Option.map_some, hdefault]
    rw [← List.reduceOption_map, List.map_cons, List.map_cons, List.map_singleton, hmapped, hsome]
  rw [chain_eq_eraseDups, hnames]

/-- A shelf keeps names in normal form as they are. -/
theorem Shelf.wanted_of_normal {names : List String}
    (h : ∀ name ∈ names, Locale.normalize name = name) : wanted names = names.eraseDups := by
  rw [wanted_eq_eraseDups, List.map_congr_left h, List.map_id']

/-! ## Lists in the environment -/

/-- Names without commas are found again between the commas. -/
theorem Config.localeList_intercalate {names : List String} (hne : names ≠ [])
    (h : ∀ name ∈ names, ',' ∉ name.toList) :
    localeList (",".intercalate names) = (names.map Locale.normalize).filter (· ≠ "") := by
  have hsplit : Text.split ',' (",".intercalate names).toList = names.map String.toList := by
    rw [String.toList_intercalate]
    refine Text.split_intercalate (by simpa using hne) ?_
    intro part hpart
    obtain ⟨name, hname, rfl⟩ := List.mem_map.1 hpart
    exact h name hname
  have hempty : (fun locale : String => !locale.isEmpty) = fun locale => decide (locale ≠ "") := by
    funext locale
    rw [Bool.eq_iff_iff]
    simp
  have hparts : (names.map String.toList).map (fun part => Locale.normalize (String.ofList part))
      = names.map Locale.normalize := by
    rw [List.map_map]
    refine List.map_congr_left fun name _ => ?_
    rw [Function.comp_apply, String.ofList_toList]
  rw [localeList, hsplit, hparts, hempty]

/-! ## Configurations -/

/-- A configuration that was started from the default or from the environment and changed any number
of times names its locales in normal form. A chain takes its forced locale and its default as they
are. A shelf takes its locales as they are, without repetitions, whatever the source answers and
under any schedule, and asks for those that can name a dictionary, once each. A list of names
without commas that is not blank when joined by commas gives in the environment what it gives when
it is set, in the same order and with the same repetitions, but for the empty locales. -/
theorem configurations_keep_normal_forms :
    (∀ (start : Config) (changes : List Config.Change),
      start = Config.default ∨ (∃ env, start = Config.ofEnvironment env) →
      let config := changes.foldl Config.Change.apply start
      config.Normal ∧
      (∀ detected, Locale.chain config.forcedLocale detected config.defaultLocale
        = ([config.forcedLocale, detected.map Locale.normalize,
            some config.defaultLocale].reduceOption.filter (· ≠ "")).eraseDups) ∧
      ∀ {σ : Type} (fetch : String → StateM σ Answer) (schedule : List Nat) (s : σ),
        ((Shelf.load fetch schedule config.locales).run s).1.locales = config.locales.eraseDups ∧
        ∃ order, order.Perm (config.locales.eraseDups.filter Locale.isAccepted) ∧
          ((Shelf.load fetch schedule config.locales).run s).2
            = Fetching.afterAsking fetch order s) ∧
    ∀ (names : List String) (env : Environment) (config : Config),
      (∀ name ∈ names, ',' ∉ name.toList) → Text.isBlankText (",".intercalate names) = false →
      env "LOCALIZE_LOCALES" = some (",".intercalate names) →
      (Config.ofEnvironment env).locales = (config.withLocales names).locales.filter (· ≠ "") := by
  constructor
  · intro start changes hstart config
    have hnormal : config.Normal := by
      apply Config.Normal.foldl_apply
      rcases hstart with rfl | ⟨env, rfl⟩
      · exact Config.normal_default
      · exact Config.normal_ofEnvironment env
    refine ⟨hnormal, Locale.chain_of_normal hnormal.forcedLocale hnormal.defaultLocale, ?_⟩
    intro σ fetch schedule s
    have hwanted := Shelf.wanted_of_normal hnormal.locales
    obtain ⟨order, answers, hperm, -, hrun⟩ := Shelf.run_load fetch schedule config.locales s
    rw [hwanted] at hperm
    refine ⟨?_, order, hperm, ?_⟩
    · rw [Shelf.locales_load, hwanted]
    · rw [hrun]
  · intro names env config hcommas hblank henv
    have hne : names ≠ [] := by
      rintro rfl
      simp [Text.isBlankText] at hblank
    have hsetting : Config.setting? env "LOCALIZE_LOCALES" = some (",".intercalate names) :=
      Config.setting?_eq_some_iff.2 ⟨henv, hblank⟩
    calc (Config.ofEnvironment env).locales
      _ = Config.localeList (",".intercalate names) := by
        rw [Config.locales_ofEnvironment, hsetting, Option.map_some, Option.getD_some]
      _ = (names.map Locale.normalize).filter (· ≠ "") :=
        Config.localeList_intercalate hne hcommas

/-- A configuration from the environment whose locales are spelled with regions and blanks, changed
twice, and a list with an empty name, one that is nothing but a region, and a repetition. -/
theorem configurations_keep_normal_forms_respelled :
    let names := ["EN", "", " de-AT", "@x", "en_GB"]
    let env : Environment := fun name =>
      if name = "LOCALIZE_DEFAULT_LOCALE" then some " RU-x"
      else if name = "LOCALIZE_LOCALES" then some "EN,, de-AT,@x,en_GB" else none
    let config := [Config.Change.forcedLocale (some "FR_fr"), .directory "d"].foldl
      Config.Change.apply (Config.ofEnvironment env)
    config.Normal ∧ config.defaultLocale = "ru" ∧ config.forcedLocale = some "fr" ∧
      config.locales = ["en", "de", "en"] ∧
      Locale.chain config.forcedLocale (some "RU") config.defaultLocale = ["fr", "ru"] ∧
      ((Shelf.load (Fetching.recorded fun locale => .error (.notFound locale)) [1]
        config.locales).run []).1.locales = ["en", "de"] ∧
      (Config.ofEnvironment env).locales
        = (Config.default.withLocales names).locales.filter (· ≠ "") := by
  intro names env config
  obtain ⟨hkeep, hlist⟩ := configurations_keep_normal_forms
  obtain ⟨hnormal, hchain, hload⟩ := hkeep (Config.ofEnvironment env)
    [.forcedLocale (some "FR_fr"), .directory "d"] (Or.inr ⟨env, rfl⟩)
  have hlocales : config.locales = ["en", "de", "en"] := by decide +kernel
  refine ⟨hnormal, by decide +kernel, by decide +kernel, hlocales, ?_, ?_, ?_⟩
  · exact (hchain (some "RU")).trans (by decide +kernel)
  · have hshelf := (hload (Fetching.recorded fun locale => .error (.notFound locale)) [1] []).1
    exact hshelf.trans (by decide +kernel)
  · exact hlist names env Config.default (by decide) (by decide) (by decide)

end Phrasebook
