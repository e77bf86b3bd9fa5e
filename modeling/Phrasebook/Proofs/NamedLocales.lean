import Phrasebook.Proofs.ShelfOrder
import Phrasebook.Proofs.Spellings
import Phrasebook.Speaker

/-!
# Locales that the environment names

A configuration is read from variables, of which blank ones count as unset. A text that is not blank
may name no locale all the same, because nothing but blanks stands before its first separator
(`Locale.normalize_eq_empty_iff`), and a list may hold nothing but such texts.
`Environment.Misnames` and `Environment.ListsNothing` say so of a variable. They are the only ways
to a configuration without a default locale or without locales to load;
`ofEnvironment_names_locales_unless` follows each of them to the speaker and to the shelf that are
started with it.
-/

set_option autoImplicit false

namespace Phrasebook

/-! ## Texts that name nothing -/

namespace Text

/-- Nothing is left by trimming exactly when all is blank. -/
theorem trim_eq_nil_iff {s : List Char} : trim s = [] ↔ ∀ c ∈ s, isBlank c = true := by
  constructor
  · intro h
    obtain ⟨left, right, hs, hleft, hright⟩ := exists_append_trim_append s
    rw [h, List.append_nil] at hs
    rw [hs]
    intro c hc
    rcases List.mem_append.1 hc with hc | hc
    · exact hleft c hc
    · exact hright c hc
  · intro h
    calc trim s
      _ = trim (s ++ []) := by rw [List.append_nil]
      _ = trim [] := trim_append_left h []

/-- Only the empty text is empty in lowercase. -/
theorem lowercase_eq_nil_iff {s : List Char} : lowercase s = [] ↔ s = [] := by
  cases s with
  | nil => simp
  | cons c after => simp [lowercase, lowercaseFrom_cons, piece_ne_nil]

end Text

namespace Locale

/-- Nothing but blanks stands before the first separator of the text, or in all of it. -/
def isNameless (s : List Char) : Bool := (Text.trimLeft s).head?.all isSeparator

/-- A text is nameless when all before its first separator is blank. -/
theorem isNameless_iff {s : List Char} :
    isNameless s = true ↔ ∀ c ∈ s.takeWhile (fun c => !isSeparator c), Text.isBlank c = true := by
  unfold isNameless Text.trimLeft
  induction s with
  | nil => simp
  | cons c rest ih =>
    by_cases hblank : Text.isBlank c = true
    · simp only [List.dropWhile_cons, hblank, if_true, List.takeWhile_cons,
        isSeparator_of_isBlank hblank, Bool.not_false, ih, List.forall_mem_cons, true_and]
    · by_cases hseparator : isSeparator c = true <;> simp [hblank, hseparator]

/-- The normal form is empty exactly when the text is nameless. -/
theorem normalize_eq_empty_iff {name : String} :
    normalize name = "" ↔ isNameless name.toList = true := by
  rw [isNameless_iff, ← Text.trim_eq_nil_iff, ← Text.lowercase_eq_nil_iff, ← String.toList_inj,
    toList_normalize]
  rfl

/-- Removing repetitions leaves nothing only of nothing. -/
theorem distinct_eq_nil_iff {locales : List String} : distinct locales = [] ↔ locales = [] := by
  simp [List.eq_nil_iff_forall_not_mem]

/-- There is nothing to try where no name has a normal form. -/
theorem chain_eq_nil_iff (forced detected : Option String) (default : String) :
    chain forced detected default = [] ↔
      (∀ name ∈ forced, normalize name = "") ∧ (∀ name ∈ detected, normalize name = "") ∧
        normalize default = "" := by
  rw [chain, distinct_eq_nil_iff]
  cases forced <;> cases detected <;> simp

end Locale

namespace Environment

/-- The variable has a value that is not blank and names no locale. -/
def Misnames (env : Environment) (name : String) : Prop :=
  ∃ value, env name = some value ∧ Text.isBlankText value = false ∧
    Locale.isNameless value.toList = true

/-- The variable has a value that is not blank, and no part of it between the commas names a
locale. -/
def ListsNothing (env : Environment) (name : String) : Prop :=
  ∃ value, env name = some value ∧ Text.isBlankText value = false ∧
    ∀ part ∈ Text.split ',' value.toList, Locale.isNameless part = true

end Environment

/-! ## The fields of a configuration -/

namespace Config

/-- A setting is a variable that is set and not blank. -/
theorem setting?_eq_some_iff {env : Environment} {name value : String} :
    setting? env name = some value ↔
      env name = some value ∧ Text.isBlankText value = false := by
  simp [setting?, Option.filter_eq_some_iff]

/-- A setting has an empty normal form exactly when the variable misnames. -/
theorem map_normalize_setting?_iff (env : Environment) (name : String) :
    (setting? env name).map Locale.normalize = some "" ↔ env.Misnames name := by
  unfold Environment.Misnames
  simp only [Option.map_eq_some_iff, setting?_eq_some_iff, Locale.normalize_eq_empty_iff, and_assoc]

/-- There is no default locale exactly when its variable misnames. -/
theorem defaultLocale_eq_empty_iff (env : Environment) :
    (ofEnvironment env).defaultLocale = "" ↔ env.Misnames "LOCALIZE_DEFAULT_LOCALE" := by
  rw [← map_normalize_setting?_iff]
  unfold ofEnvironment
  cases (setting? env "LOCALIZE_DEFAULT_LOCALE").map Locale.normalize with
  | none => simp [default]
  | some locale => simp

/-- An empty locale is forced exactly when its variable misnames. -/
theorem forcedLocale_eq_empty_iff (env : Environment) :
    (ofEnvironment env).forcedLocale = some "" ↔ env.Misnames "LOCALIZE_FORCE_LOCALE" :=
  map_normalize_setting?_iff env "LOCALIZE_FORCE_LOCALE"

/-- The default locale is in normal form. -/
theorem normalize_defaultLocale (env : Environment) :
    Locale.normalize (ofEnvironment env).defaultLocale = (ofEnvironment env).defaultLocale := by
  have hdefault : Locale.normalize default.defaultLocale = default.defaultLocale := by
    decide +kernel
  unfold ofEnvironment
  cases setting? env "LOCALIZE_DEFAULT_LOCALE" with
  | none => exact hdefault
  | some value => exact Locale.normalize_normalize value

/-- The locales of a list are the normal forms of its parts, but for the empty one. -/
theorem mem_localeList {value locale : String} :
    locale ∈ localeList value ↔ locale ≠ "" ∧
      ∃ part ∈ Text.split ',' value.toList, Locale.normalize (String.ofList part) = locale := by
  simp [localeList, and_comm]

/-- A list has no locales exactly when all its parts are nameless. -/
theorem localeList_eq_nil_iff {value : String} :
    localeList value = [] ↔
      ∀ part ∈ Text.split ',' value.toList, Locale.isNameless part = true := by
  have hpart : ∀ part : List Char,
      Locale.normalize (String.ofList part) = "" ↔ Locale.isNameless part = true := by
    intro part
    rw [Locale.normalize_eq_empty_iff, String.toList_ofList]
  simp [localeList, hpart]

/-- The locales are those listed, or else the default one. -/
theorem locales_ofEnvironment (env : Environment) :
    (ofEnvironment env).locales
      = ((setting? env "LOCALIZE_LOCALES").map localeList).getD
          [(ofEnvironment env).defaultLocale] := rfl

/-- The locales are in normal form. -/
theorem normalize_of_mem_locales {env : Environment} {locale : String}
    (h : locale ∈ (ofEnvironment env).locales) : Locale.normalize locale = locale := by
  rw [locales_ofEnvironment] at h
  cases hlist : setting? env "LOCALIZE_LOCALES" with
  | none =>
    rw [hlist] at h
    rw [List.mem_singleton.1 h, normalize_defaultLocale]
  | some value =>
    rw [hlist] at h
    obtain ⟨-, part, -, rfl⟩ := mem_localeList.1 h
    exact Locale.normalize_normalize _

/-- There are no locales exactly when the variable lists none. -/
theorem locales_eq_nil_iff (env : Environment) :
    (ofEnvironment env).locales = [] ↔ env.ListsNothing "LOCALIZE_LOCALES" := by
  have hlisted : env.ListsNothing "LOCALIZE_LOCALES" ↔
      ∃ value, setting? env "LOCALIZE_LOCALES" = some value ∧ localeList value = [] := by
    simp only [Environment.ListsNothing, setting?_eq_some_iff, localeList_eq_nil_iff, and_assoc]
  rw [hlisted, locales_ofEnvironment]
  cases setting? env "LOCALIZE_LOCALES" <;> simp

/-- Where no list is given, a default locale that is none is listed all the same. -/
theorem empty_mem_locales_iff (env : Environment) :
    "" ∈ (ofEnvironment env).locales ↔
      setting? env "LOCALIZE_LOCALES" = none ∧ env.Misnames "LOCALIZE_DEFAULT_LOCALE" := by
  rw [← defaultLocale_eq_empty_iff, locales_ofEnvironment]
  cases setting? env "LOCALIZE_LOCALES" with
  | none =>
    simp only [Option.map_none, Option.getD_none, List.mem_singleton, true_and]
    exact eq_comm
  | some value => simp [mem_localeList]

/-- There is nothing to try where all three names are missing. -/
theorem chain_eq_nil_iff (env : Environment) (detected : Option String) :
    Locale.chain (ofEnvironment env).forcedLocale detected (ofEnvironment env).defaultLocale = [] ↔
      (setting? env "LOCALIZE_FORCE_LOCALE" = none ∨ env.Misnames "LOCALIZE_FORCE_LOCALE") ∧
        (∀ name ∈ detected, Locale.normalize name = "") ∧
        env.Misnames "LOCALIZE_DEFAULT_LOCALE" := by
  have hforced : (∀ name ∈ (ofEnvironment env).forcedLocale, Locale.normalize name = "") ↔
      setting? env "LOCALIZE_FORCE_LOCALE" = none ∨ env.Misnames "LOCALIZE_FORCE_LOCALE" := by
    rw [← map_normalize_setting?_iff]
    unfold ofEnvironment
    cases setting? env "LOCALIZE_FORCE_LOCALE" <;> simp
  rw [Locale.chain_eq_nil_iff, hforced, normalize_defaultLocale, defaultLocale_eq_empty_iff]

end Config

/-! ## What is attempted -/

variable {σ : Type}

/-- A search only adds to the history. -/
theorem Speaker.search_extends {start history : List SearchStep} (h : start <+: history)
    (fallback : Bool) (locales : List String) :
    (search history fallback locales).Ends fun speaker => start <+: speaker.history := by
  induction locales generalizing history fallback with
  | nil => exact h.trans (List.prefix_append _ _)
  | cons locale rest ih =>
    refine (Fetching.ends_true (Draft.load locale)).bind ?_
    rintro (e | draft) -
    · exact ih (h.trans (List.prefix_append _ _)) _
    · exact h.trans (List.prefix_append _ _)

/-- A speaker tries a locale unless there is none to try. -/
theorem Speaker.start_attempts_iff (config : Config) (detected : Option String)
    (fetch : String → StateM σ Answer) (s : σ) :
    (∃ locale, SearchStep.requested locale ∈
        (((start config detected).run fetch).run s).1.history) ↔
      Locale.chain config.forcedLocale detected config.defaultLocale ≠ [] := by
  unfold start
  cases Locale.chain config.forcedLocale detected config.defaultLocale with
  | nil =>
    have hnone : (((search [] false []).run fetch).run s).1.history = [.exhausted] := rfl
    simp [hnone]
  | cons locale rest =>
    have hfirst : (search [] false (locale :: rest)).Ends
        fun speaker => [SearchStep.requested locale] <+: speaker.history := by
      refine (Fetching.ends_true (Draft.load locale)).bind ?_
      rintro (e | draft) -
      · exact search_extends (List.prefix_append [SearchStep.requested locale] _) _ _
      · exact List.prefix_append [SearchStep.requested locale] _
    have hmem := (hfirst.run fetch s).subset (List.mem_singleton_self _)
    exact iff_of_true ⟨locale, hmem⟩ (List.cons_ne_nil _ _)

/-- Nothing is wanted only of no names. -/
theorem Shelf.wanted_eq_nil_iff {names : List String} : wanted names = [] ↔ names = [] := by
  simp [wanted, Locale.distinct_eq_nil_iff]

/-- Normal forms are loaded as they are. -/
theorem Shelf.mem_wanted_of_normal {names : List String}
    (h : ∀ name ∈ names, Locale.normalize name = name) {locale : String} :
    locale ∈ wanted names ↔ locale ∈ names := by
  rw [mem_wanted, List.map_congr_left h, List.map_id']

/-- What a configuration from the environment leaves without a name, and what comes of it. The
default locale and the forced locale are empty exactly when their variables misname a locale. The
list is empty exactly when its variable lists nothing, and holds an empty name exactly when there is
no list and the default locale is misnamed. A speaker attempts some locale, whatever was detected
and whatever the source answers, unless the default is misnamed and no locale is forced or the
forced one is misnamed too. A shelf attempts no locale or the empty one exactly when that is what
the list says. -/
theorem ofEnvironment_names_locales_unless (env : Environment) :
    let config := Config.ofEnvironment env
    (config.defaultLocale = "" ↔ env.Misnames "LOCALIZE_DEFAULT_LOCALE") ∧
    (config.forcedLocale = some "" ↔ env.Misnames "LOCALIZE_FORCE_LOCALE") ∧
    (config.locales = [] ↔ env.ListsNothing "LOCALIZE_LOCALES") ∧
    ("" ∈ config.locales ↔
      Config.setting? env "LOCALIZE_LOCALES" = none ∧ env.Misnames "LOCALIZE_DEFAULT_LOCALE") ∧
    ((∀ (detected : Option String) (σ : Type) (fetch : String → StateM σ Answer) (s : σ),
        ∃ locale, SearchStep.requested locale ∈
          (((Speaker.start config detected).run fetch).run s).1.history) ↔
      ¬(env.Misnames "LOCALIZE_DEFAULT_LOCALE" ∧
        (Config.setting? env "LOCALIZE_FORCE_LOCALE" = none ∨
          env.Misnames "LOCALIZE_FORCE_LOCALE"))) ∧
    ∀ (σ : Type) (read : String → StateM σ (Except ReadFailure (List UInt8)))
      (schedule : List Nat) (s : σ),
      let shelf := ((Shelf.loadDirectory read schedule config).run s).1
      (shelf.locales = [] ↔ env.ListsNothing "LOCALIZE_LOCALES") ∧
        ("" ∈ shelf.locales ↔ Config.setting? env "LOCALIZE_LOCALES" = none ∧
          env.Misnames "LOCALIZE_DEFAULT_LOCALE") := by
  intro config
  refine ⟨Config.defaultLocale_eq_empty_iff env, Config.forcedLocale_eq_empty_iff env,
    Config.locales_eq_nil_iff env, Config.empty_mem_locales_iff env, ?_, ?_⟩
  · constructor
    · rintro hattempts ⟨hdefault, hforced⟩
      have hsome := hattempts none Unit (fun locale => pure (.error (.notFound locale))) ()
      rw [Speaker.start_attempts_iff] at hsome
      apply hsome
      exact (Config.chain_eq_nil_iff env none).2 ⟨hforced, by simp, hdefault⟩
    · intro hnamed detected σ fetch s
      rw [Speaker.start_attempts_iff]
      intro hnil
      obtain ⟨hforced, -, hdefault⟩ := (Config.chain_eq_nil_iff env detected).1 hnil
      exact hnamed ⟨hdefault, hforced⟩
  · intro σ read schedule s shelf
    have hlocales : shelf.locales = Shelf.wanted config.locales :=
      Shelf.locales_load _ schedule config.locales s
    rw [hlocales, Shelf.wanted_eq_nil_iff,
      Shelf.mem_wanted_of_normal fun _ => Config.normalize_of_mem_locales]
    exact ⟨Config.locales_eq_nil_iff env, Config.empty_mem_locales_iff env⟩

/-- Three variables that are set to what names nothing. -/
theorem ofEnvironment_misnames :
    let unnamed := Config.ofEnvironment fun name =>
      if name = "LOCALIZE_DEFAULT_LOCALE" then some "-US" else none
    let forced := Config.ofEnvironment fun name =>
      if name = "LOCALIZE_FORCE_LOCALE" then some "@euro" else none
    let listed := Config.ofEnvironment fun name =>
      if name = "LOCALIZE_LOCALES" then some ", ," else none
    unnamed.defaultLocale = "" ∧ unnamed.locales = [""] ∧
      Locale.chain unnamed.forcedLocale none unnamed.defaultLocale = [] ∧
      forced.forcedLocale = some "" ∧ listed.locales = [] := by
  decide +kernel

end Phrasebook
