import Phrasebook.Proofs.DistinctLocales

/-!
# The user's locale

A variable names no language when it is unset or when the normal form of its value is empty or that
of a portable locale, however the value is spelled. The first variable that does name one decides
(`detect_eq_some_iff`). What is found is in normal form and not empty, so a chain keeps it as it is,
and only the forced locale can stand before it (`chain_of_detected`).
-/

set_option autoImplicit false

namespace Phrasebook

/-- The variable is unset, or what it is set to names no language. -/
def Environment.NamesNoLanguage (env : Environment) (name : String) : Prop :=
  ∀ value, env name = some value → Locale.normalize value ∈ ["", "c", "posix"]

namespace Locale

/-! ## One variable -/

/-- A value names its normal form, unless this is empty or a portable locale. -/
theorem language?_eq_some_iff {value locale : String} :
    language? value = some locale ↔
      normalize value = locale ∧ locale ∉ ["", "c", "posix"] := by
  have htest : (normalize value).isEmpty = true ∨ normalize value = "c" ∨ normalize value = "posix"
      ↔ normalize value ∈ ["", "c", "posix"] := by
    simp
  unfold language?
  simp only [Bool.or_eq_true, beq_iff_eq, or_assoc, htest]
  split
  · next hnone =>
    refine iff_of_false (by simp) ?_
    rintro ⟨rfl, hlanguage⟩
    exact hlanguage hnone
  · next hlanguage =>
    rw [Option.some.injEq]
    constructor
    · rintro rfl
      exact ⟨rfl, hlanguage⟩
    · exact And.left

/-- A value names no language when its normal form is empty or a portable locale. -/
theorem language?_eq_none_iff {value : String} :
    language? value = none ↔ normalize value ∈ ["", "c", "posix"] := by
  rw [Option.eq_none_iff_forall_ne_some]
  constructor
  · intro h
    by_contra hlanguage
    exact h _ (language?_eq_some_iff.2 ⟨rfl, hlanguage⟩)
  · intro hnone locale hsome
    obtain ⟨rfl, hlanguage⟩ := language?_eq_some_iff.1 hsome
    exact hlanguage hnone

/-- No language comes of a variable exactly when it names none. -/
theorem bind_language?_eq_none_iff {env : Environment} {name : String} :
    (env name).bind language? = none ↔ env.NamesNoLanguage name := by
  unfold Environment.NamesNoLanguage
  cases env name with
  | none => simp
  | some value =>
    simp only [Option.bind_some, language?_eq_none_iff, Option.some.injEq]
    exact ⟨fun h _ heq => heq ▸ h, fun h => h value rfl⟩

/-! ## The variables in turn -/

/-- A locale is detected when a variable names it and none before that names any. -/
theorem detect_eq_some_iff {env : Environment} {locale : String} :
    detect env = some locale ↔
      ∃ before name behind value, variableNames = before ++ name :: behind ∧
        env name = some value ∧ normalize value = locale ∧ locale ∉ ["", "c", "posix"] ∧
        ∀ earlier ∈ before, env.NamesNoLanguage earlier := by
  unfold detect
  simp only [List.findSome?_eq_some_iff, bind_language?_eq_none_iff, Option.bind_eq_some_iff,
    language?_eq_some_iff]
  constructor
  · rintro ⟨before, name, behind, hnames, ⟨value, hvalue, hlocale, hlanguage⟩, hearlier⟩
    exact ⟨before, name, behind, value, hnames, hvalue, hlocale, hlanguage, hearlier⟩
  · rintro ⟨before, name, behind, value, hnames, hvalue, hlocale, hlanguage, hearlier⟩
    exact ⟨before, name, behind, hnames, ⟨value, hvalue, hlocale, hlanguage⟩, hearlier⟩

/-- Nothing is detected when no variable names a language. -/
theorem detect_eq_none_iff {env : Environment} :
    detect env = none ↔ ∀ name ∈ variableNames, env.NamesNoLanguage name := by
  unfold detect
  simp only [List.findSome?_eq_none_iff, bind_language?_eq_none_iff]

/-! ## The detected locale in a chain -/

/-- Before a locale that comes second or first, what stays of the first one is not the locale. -/
theorem eraseDups_toList_append (first : Option String) (locale : String) (rest : List String) :
    ∃ behind, (first.toList ++ locale :: rest).eraseDups
      = (first.filter (· ≠ locale)).toList ++ locale :: behind := by
  cases first with
  | none => exact ⟨_, List.eraseDups_cons⟩
  | some name =>
    rw [Option.toList_some, List.singleton_append, List.eraseDups_cons]
    by_cases hsame : name = locale
    · refine ⟨((locale :: rest).filter fun other => !other == locale).eraseDups, ?_⟩
      rw [hsame, Option.filter_some_neg (by simp)]
      rfl
    · have hkept : (locale :: rest).filter (fun other => !other == name)
          = locale :: rest.filter fun other => !other == name :=
        List.filter_cons_of_pos (by simpa using Ne.symm hsame)
      rw [hkept, List.eraseDups_cons, Option.filter_some_pos (by simpa using hsame)]
      exact ⟨_, rfl⟩

/-- A locale in normal form that is not empty stays in the chain as it is. Before it stands the
forced locale, unless that is empty or the same. -/
theorem chain_of_detected {locale : String} (hnormal : normalize locale = locale)
    (hne : locale ≠ "") (forced : Option String) (default : String) :
    ∃ behind, chain forced (some locale) default
      = ((forced.map normalize).filter (· ∉ ["", locale])).toList ++ locale :: behind := by
  have hcandidates :
      ([forced, some locale, some default].reduceOption.map normalize).filter (· ≠ "")
        = ((forced.map normalize).filter (· ≠ "")).toList
          ++ locale :: [normalize default].filter (· ≠ "") := by
    have hlocale : (normalize locale :: [normalize default]).filter (· ≠ "")
        = locale :: [normalize default].filter (· ≠ "") := by
      rw [hnormal]
      exact List.filter_cons_of_pos (by simpa using hne)
    have hnames : [forced, some locale, some default].reduceOption.map normalize
        = (forced.map normalize).toList ++ normalize locale :: [normalize default] := by
      cases forced <;> rfl
    rw [hnames, List.filter_append, hlocale, Option.toList_filter]
  have hfirst : ((forced.map normalize).filter (· ≠ "")).filter (· ≠ locale)
      = (forced.map normalize).filter (· ∉ ["", locale]) := by
    have htest : (fun name : String => decide (name ≠ "") && decide (name ≠ locale))
        = fun name => decide (name ∉ ["", locale]) := by
      funext name
      simp
    rw [Option.filter_filter, htest]
  obtain ⟨behind, hchain⟩ := eraseDups_toList_append ((forced.map normalize).filter (· ≠ "")) locale
    ([normalize default].filter (· ≠ ""))
  rw [hfirst] at hchain
  refine ⟨behind, ?_⟩
  rw [chain_eq_eraseDups, hcandidates, hchain]

/-! ## Detection -/

/-- The user's locale is what the first variable names that names a language: the normal form of its
value, which is neither empty nor that of a portable locale, while every variable before it is unset
or names none. There is no locale exactly when no variable names a language. A locale that is found
is in normal form; every chain has it as it is, and before it nothing but the forced locale in
normal form, unless that is empty or the same. -/
theorem detect_takes_first_language (env : Environment) :
    (∀ locale, detect env = some locale ↔
      ∃ before name behind value,
        ["LC_ALL", "LC_MESSAGES", "LANG"] = before ++ name :: behind ∧ env name = some value ∧
        normalize value = locale ∧ locale ∉ ["", "c", "posix"] ∧
        ∀ earlier ∈ before, env.NamesNoLanguage earlier) ∧
    (detect env = none ↔
      ∀ name ∈ ["LC_ALL", "LC_MESSAGES", "LANG"], env.NamesNoLanguage name) ∧
    ∀ locale, detect env = some locale → normalize locale = locale ∧
      ∀ forced default, ∃ behind, chain forced (some locale) default
        = ((forced.map normalize).filter (· ∉ ["", locale])).toList ++ locale :: behind := by
  refine ⟨fun locale => detect_eq_some_iff, detect_eq_none_iff, ?_⟩
  intro locale hdetect
  obtain ⟨_, _, _, value, -, -, hvalue, hlanguage, -⟩ := detect_eq_some_iff.1 hdetect
  have hnormal : normalize locale = locale := by
    rw [← hvalue, normalize_normalize]
  have hne : locale ≠ "" := by
    rintro rfl
    exact hlanguage List.mem_cons_self
  exact ⟨hnormal, chain_of_detected hnormal hne⟩

/-- Two variables that are set and name no language, and a third that does. -/
theorem detect_takes_first_language_portable :
    let env : Environment := fun name =>
      if name = "LC_ALL" then some " POSIX@x" else if name = "LC_MESSAGES" then some "-US"
      else if name = "LANG" then some "Tr_TR.UTF-8" else none
    env.NamesNoLanguage "LC_ALL" ∧ env.NamesNoLanguage "LC_MESSAGES" ∧ detect env = some "tr" ∧
      normalize "tr" = "tr" ∧
      (∃ behind, chain (some "DE-at") (some "tr") "en" = "de" :: "tr" :: behind) ∧
      ∃ behind, chain (some " TR") (some "tr") "en" = "tr" :: behind := by
  intro env
  obtain ⟨hsome, -, hfound⟩ := detect_takes_first_language env
  have hsilent : ∀ earlier ∈ ["LC_ALL", "LC_MESSAGES"], env.NamesNoLanguage earlier := by
    intro earlier hearlier value hvalue
    rcases List.mem_pair.1 hearlier with rfl | rfl <;> cases hvalue <;> decide +kernel
  have hdetect : detect env = some "tr" :=
    (hsome "tr").2 ⟨["LC_ALL", "LC_MESSAGES"], "LANG", [], "Tr_TR.UTF-8", rfl, rfl,
      by decide +kernel, by decide, hsilent⟩
  obtain ⟨hnormal, hchain⟩ := hfound "tr" hdetect
  refine ⟨hsilent _ (by simp), hsilent _ (by simp), hdetect, hnormal, ?_, ?_⟩
  · have hforced : ((some "DE-at").map normalize).filter (· ∉ ["", "tr"]) = some "de" := by
      decide +kernel
    have h := hchain (some "DE-at") "en"
    rwa [hforced] at h
  · have hforced : ((some " TR").map normalize).filter (· ∉ ["", "tr"]) = none := by
      decide +kernel
    have h := hchain (some " TR") "en"
    rwa [hforced] at h

end Locale

end Phrasebook
