import Phrasebook.CommandLine.Command
import Phrasebook.Proofs.Agreement

/-!
# The render command from end to end

Rendering on the command line goes through five layers: the pairs are read, the flags are laid over
the environment, the user's locale is detected, the chain of locales is searched, and a message of
the dictionary that was found is rendered. Each layer is brought to a form that does not mention the
others. The pairs come to a substitution that `PairsGive` describes (`values_of_pairs`), flags and
environment to one choice for each field (`chain_apply` and the lemmas before it), and the search to
the first locale that loads (`Speaker.search_settles`). `render_settles` puts them together.
-/

set_option autoImplicit false

namespace Phrasebook

/-! ## Pairs -/

namespace CommandLine

/-- The last of the pairs that start with the name and an equals sign gives the value. -/
def PairsGive (pairs : List String) (name value : String) : Prop :=
  '=' ∉ name.toList ∧ ∃ before behind, pairs = before ++ (name ++ "=" ++ value) :: behind ∧
    ∀ later ∈ behind, ∀ other, later ≠ name ++ "=" ++ other

/-- A pair is cut at its first equals sign. -/
theorem pair?_eq_ok_iff {pair name value : String} :
    pair? pair = .ok (name, value) ↔ pair = name ++ "=" ++ value ∧ '=' ∉ name.toList := by
  unfold pair?
  cases hcut : Text.cut? '=' pair.toList with
  | none =>
    rw [Text.cut?_eq_none_iff] at hcut
    constructor
    · intro h
      cases h
    · rintro ⟨rfl, -⟩
      simp at hcut
  | some parts =>
    obtain ⟨front, back⟩ := parts
    have htext : pair = String.ofList front ++ "=" ++ String.ofList back ∧ '=' ∉ front := by
      obtain ⟨hpair, hfront⟩ := Text.cut?_eq_some_iff.1 hcut
      refine ⟨String.toList_inj.1 ?_, hfront⟩
      simp [hpair]
    constructor
    · intro h
      simp only [Except.ok.injEq, Prod.mk.injEq] at h
      obtain ⟨rfl, rfl⟩ := h
      simpa using htext
    · rintro ⟨rfl, hname⟩
      have hsame : Text.cut? '=' (name ++ "=" ++ value).toList
          = some (name.toList, value.toList) := by
        rw [Text.cut?_eq_some_iff]
        exact ⟨by simp, hname⟩
      rw [hsame] at hcut
      cases hcut
      simp

/-- A pair without an equals sign is refused. -/
theorem pair?_of_notMem {pair : String} (h : '=' ∉ pair.toList) :
    pair? pair = .error (.malformedPair pair) := by
  rw [pair?, Text.cut?_eq_none_iff.2 h]

/-- A pair with an equals sign is accepted. -/
theorem exists_pair? {pair : String} (h : '=' ∈ pair.toList) : ∃ entry, pair? pair = .ok entry := by
  unfold pair?
  cases hcut : Text.cut? '=' pair.toList with
  | none => exact absurd h (Text.cut?_eq_none_iff.1 hcut)
  | some parts => exact ⟨_, rfl⟩

/-- The first pair that is none decides the failure. -/
theorem values_of_malformed {before : List String} (hbefore : ∀ pair ∈ before, '=' ∈ pair.toList)
    {pair : String} (hpair : '=' ∉ pair.toList) (rest : List String) :
    values (before ++ pair :: rest) = .error (.malformedPair pair) := by
  have hread : (before ++ pair :: rest).mapM pair? = .error (.malformedPair pair) := by
    induction before with
    | nil =>
      rw [List.nil_append, List.mapM_cons, pair?_of_notMem hpair]
      rfl
    | cons first before ih =>
      obtain ⟨entry, hentry⟩ := exists_pair? (hbefore first List.mem_cons_self)
      rw [List.cons_append, List.mapM_cons, hentry,
        ih fun pair h => hbefore pair (List.mem_cons_of_mem _ h)]
      rfl
  rw [values, hread]
  rfl

/-- The pair that spells an entry. -/
def spell (entry : String × String) : String := entry.1 ++ "=" ++ entry.2

/-- Pairs are read one by one, and each is spelled by what was read. -/
theorem exists_entries {pairs : List String} (h : ∀ pair ∈ pairs, '=' ∈ pair.toList) :
    ∃ entries, pairs.mapM pair? = .ok entries ∧ pairs = entries.map spell ∧
      ∀ entry ∈ entries, '=' ∉ entry.1.toList := by
  induction pairs with
  | nil => exact ⟨[], rfl, rfl, by simp⟩
  | cons pair pairs ih =>
    obtain ⟨entry, hentry⟩ := exists_pair? (h pair List.mem_cons_self)
    obtain ⟨hspelled, hname⟩ := pair?_eq_ok_iff.1 hentry
    obtain ⟨entries, hread, hpairs, hnames⟩ :=
      ih fun later hlater => h later (List.mem_cons_of_mem _ hlater)
    refine ⟨entry :: entries, ?_, ?_, ?_⟩
    · rw [List.mapM_cons, hentry, hread]
      rfl
    · rw [List.map_cons, ← hpairs, hspelled]
      rfl
    · rw [List.forall_mem_cons]
      exact ⟨hname, hnames⟩

/-- The name and the value are told apart by the first equals sign, in one way. -/
theorem spell_inj {name value : String} {entry : String × String} (hname : '=' ∉ name.toList)
    (hentry : '=' ∉ entry.1.toList) (h : spell entry = name ++ "=" ++ value) :
    entry = (name, value) := by
  have hread : pair? (spell entry) = .ok entry := pair?_eq_ok_iff.2 ⟨rfl, hentry⟩
  have hother : pair? (spell entry) = .ok (name, value) := pair?_eq_ok_iff.2 ⟨h, hname⟩
  exact Except.ok.inj (hread.symm.trans hother)

/-- In the map of the entries, the last of the pairs with a name counts. -/
theorem get?_ofList_iff_pairsGive {entries : List (String × String)}
    (hnames : ∀ entry ∈ entries, '=' ∉ entry.1.toList) (name value : String) :
    (KeyMap.ofList entries).get? name = some value ↔ PairsGive (entries.map spell) name value := by
  rw [KeyMap.get?_ofList_eq_some_iff]
  constructor
  · rintro ⟨before, behind, rfl, hbehind⟩
    have hname : '=' ∉ name.toList := hnames (name, value) (by simp)
    refine ⟨hname, before.map spell, behind.map spell, by simp [spell], ?_⟩
    intro later hlater other heq
    obtain ⟨entry, hentry, rfl⟩ := List.mem_map.1 hlater
    have hsame : entry = (name, other) := spell_inj hname (hnames entry (by simp [hentry])) heq
    exact hbehind entry hentry (congrArg Prod.fst hsame)
  · rintro ⟨hname, before, behind, hpairs, hbehind⟩
    obtain ⟨front, back, rfl, rfl, hback⟩ := List.map_eq_append_iff.1 hpairs
    obtain ⟨entry, rest, rfl, hentry, rfl⟩ := List.map_eq_cons_iff.1 hback
    have hsame : entry = (name, value) := spell_inj hname (hnames entry (by simp)) hentry
    refine ⟨front, rest, by rw [hsame], ?_⟩
    rintro later hlater rfl
    exact hbehind (spell later) (List.mem_map_of_mem hlater) later.2 rfl

/-- Pairs that all have an equals sign come to a substitution. -/
theorem values_of_pairs {pairs : List String} (h : ∀ pair ∈ pairs, '=' ∈ pair.toList) :
    ∃ given, values pairs = .ok given ∧
      ∀ name value, given name = some value ↔ PairsGive pairs name value := by
  obtain ⟨entries, hread, rfl, hnames⟩ := exists_entries h
  refine ⟨Substitution.ofMap (KeyMap.ofList entries), ?_, get?_ofList_iff_pairsGive hnames⟩
  rw [values, hread]
  rfl

end CommandLine

/-! ## Flags over the environment -/

/-- The chain brings its locales to normal form itself. -/
theorem Locale.chain_map_normalize (forced detected : Option String) (default : String) :
    chain (forced.map normalize) detected (normalize default) = chain forced detected default := by
  unfold chain
  cases forced <;> cases detected <;> simp

namespace CommandLine.Choices

variable (choices : Choices) (config : Config) (env : Environment)

/-- A chosen directory replaces that of the configuration. -/
theorem directory_apply :
    (choices.apply config).directory = choices.directory.getD config.directory := by
  obtain ⟨locale, defaultLocale, directory, encoding⟩ := choices
  cases locale <;> cases defaultLocale <;> cases directory <;> cases encoding <;> rfl

/-- A chosen encoding replaces that of the configuration. -/
theorem encoding_apply :
    (choices.apply config).encoding = choices.encoding.getD config.encoding := by
  obtain ⟨locale, defaultLocale, directory, encoding⟩ := choices
  cases locale <;> cases defaultLocale <;> cases directory <;> cases encoding <;> rfl

/-- A chosen locale is forced in normal form, before that of the configuration. -/
theorem forcedLocale_apply :
    (choices.apply config).forcedLocale
      = (choices.locale.map Locale.normalize).or config.forcedLocale := by
  obtain ⟨locale, defaultLocale, directory, encoding⟩ := choices
  cases locale <;> cases defaultLocale <;> cases directory <;> cases encoding <;> rfl

/-- A chosen default locale replaces that of the configuration, in normal form. -/
theorem defaultLocale_apply :
    (choices.apply config).defaultLocale
      = (choices.defaultLocale.map Locale.normalize).getD config.defaultLocale := by
  obtain ⟨locale, defaultLocale, directory, encoding⟩ := choices
  cases locale <;> cases defaultLocale <;> cases directory <;> cases encoding <;> rfl

/-- Where the dictionaries are: a flag goes before a variable, a variable before what holds where
nothing is said. -/
theorem source_apply :
    (choices.apply (Config.ofEnvironment env)).source
      = ⟨(choices.directory.or (Config.setting? env "LOCALIZE_DIR")).getD "locales",
          (choices.encoding.or (Config.setting? env "LOCALIZE_ENCODING")).getD "utf-8"⟩ := by
  rw [Config.source, directory_apply, encoding_apply, Option.getD_or, Option.getD_or]
  rfl

/-- The locales to try, by the same order of precedence. -/
theorem chain_apply (detected : Option String) :
    Locale.chain (choices.apply (Config.ofEnvironment env)).forcedLocale detected
        (choices.apply (Config.ofEnvironment env)).defaultLocale
      = Locale.chain (choices.locale.or (Config.setting? env "LOCALIZE_FORCE_LOCALE")) detected
          ((choices.defaultLocale.or (Config.setting? env "LOCALIZE_DEFAULT_LOCALE")).getD
            "en") := by
  have hforced : (choices.apply (Config.ofEnvironment env)).forcedLocale
      = (choices.locale.or (Config.setting? env "LOCALIZE_FORCE_LOCALE")).map
          Locale.normalize := by
    rw [forcedLocale_apply, Option.map_or]
    rfl
  have hdefault : (choices.apply (Config.ofEnvironment env)).defaultLocale
      = Locale.normalize ((choices.defaultLocale.or
          (Config.setting? env "LOCALIZE_DEFAULT_LOCALE")).getD "en") := by
    have hen : Locale.normalize "en" = "en" := by decide
    rw [defaultLocale_apply, Config.ofEnvironment]
    cases choices.defaultLocale with
    | some locale => rfl
    | none =>
      cases Config.setting? env "LOCALIZE_DEFAULT_LOCALE" with
      | some locale => rfl
      | none => exact hen.symm
  rw [hforced, hdefault, Locale.chain_map_normalize]

end CommandLine.Choices

/-! ## The command -/

namespace CommandLine

variable (files : String → Except ReadFailure (List UInt8)) (env : Environment) (key : String)

/-- What the command says when its search has ended with the speaker. -/
def reportOf (speaker : Speaker) (given : Substitution) (path : String) : Report :=
  if speaker.isReady then ⟨[speaker.render key given], none⟩ else ⟨[], some (.noDictionary path)⟩

/-- With files that only answer, the command says what comes of searching the chosen locales in the
chosen directory. -/
theorem render_of_values {pairs : List String} {given : Substitution}
    (hvalues : values pairs = .ok given) (choices : Choices) {directory : Directory}
    (hdirectory : (choices.apply (Config.ofEnvironment env)).source = directory)
    {candidates : List String}
    (hcandidates : Locale.chain (choices.apply (Config.ofEnvironment env)).forcedLocale
      (Locale.detect env) (choices.apply (Config.ofEnvironment env)).defaultLocale = candidates) :
    Id.run (Command.run files env (.render key pairs choices))
      = reportOf key ((Speaker.search [] false candidates).value
          fun locale => Id.run (directory.fetch files locale)) given directory.path := by
  subst hdirectory hcandidates
  have hspeaker : Id.run (Speaker.startInDirectory files
      (choices.apply (Config.ofEnvironment env)) env) = _ := Fetching.run_id _ _
  have hreport : Id.run (render files env key pairs choices)
      = reportOf key (Id.run (Speaker.startInDirectory files
          (choices.apply (Config.ofEnvironment env)) env)) given
          (choices.apply (Config.ofEnvironment env)).directory := by
    rw [render, hvalues]
    rfl
  exact hreport.trans (congrArg (reportOf key · given _) hspeaker)

/-- The rendering of a catalog is that of the template under the key. -/
theorem render_compile (draft : Draft) (given : Substitution) :
    draft.compile.1.render key given
      = ((draft.get? key).map fun template => template.compile.render given).getD "" := by
  have hget : draft.compile.1.get? key = (draft.get? key).map Template.compile :=
    Draft.get?_compileEntries draft.nodup_keys key
  rw [Catalog.render, Catalog.render?, hget, Option.map_map]
  rfl

/-- The render command from end to end. A pair without an equals sign is refused before anything
is loaded, and the first such pair is named. Otherwise the command tries the chain of the locale
that was chosen, the one detected and the default, in the directory and under the encoding that were
chosen, where a flag goes before a variable and a variable with a blank value counts for nothing. It
succeeds exactly when one of them loads; it then prints one line, the message that the first such
dictionary has under the key, rendered with the last value given for each name, and nothing for a
key that this dictionary lacks. If none loads, it prints nothing and names the directory. -/
theorem render_settles (pairs : List String) (choices : Choices) :
    (∀ {m : Type → Type} [Monad m] (read : String → m (Except ReadFailure (List UInt8)))
      (before : List String) (pair : String) (rest : List String),
      pairs = before ++ pair :: rest → (∀ earlier ∈ before, '=' ∈ earlier.toList) →
      '=' ∉ pair.toList →
        ∃ failure : Failure, failure.message = "Expected name=value, got '" ++ pair ++ "'" ∧
          Command.run read env (.render key pairs choices) = pure ⟨[], some failure⟩) ∧
    ((∀ pair ∈ pairs, '=' ∈ pair.toList) →
      let directory : Directory :=
        ⟨(choices.directory.or (Config.setting? env "LOCALIZE_DIR")).getD "locales",
          (choices.encoding.or (Config.setting? env "LOCALIZE_ENCODING")).getD "utf-8"⟩
      let candidates := Locale.chain
        (choices.locale.or (Config.setting? env "LOCALIZE_FORCE_LOCALE")) (Locale.detect env)
        ((choices.defaultLocale.or (Config.setting? env "LOCALIZE_DEFAULT_LOCALE")).getD "en")
      let loaded := fun locale => Id.run ((Draft.load locale).run (directory.fetch files))
      let report : Report := Id.run (Command.run files env (.render key pairs choices))
      (report.exitCode = 0 ↔ ∃ locale ∈ candidates, ∃ draft, loaded locale = .ok draft) ∧
      (∀ before locale rest draft, candidates = before ++ locale :: rest →
        (∀ earlier ∈ before, ∃ e, loaded earlier = .error e) → loaded locale = .ok draft →
          ∃ given : Substitution,
            (∀ name value, given name = some value ↔ PairsGive pairs name value) ∧
            report = ⟨[((draft.get? key).map fun template =>
              template.compile.render given).getD ""], none⟩) ∧
      ((∀ locale ∈ candidates, ∃ e, loaded locale = .error e) →
        ∃ failure : Failure,
          failure.message = "No dictionary could be loaded from " ++ directory.path ∧
            report = ⟨[], some failure⟩)) := by
  constructor
  · rintro m _ read before pair rest rfl hbefore hpair
    refine ⟨.malformedPair pair, rfl, ?_⟩
    show render read env key _ choices = _
    rw [render, values_of_malformed hbefore hpair]
  · intro hpairs directory candidates loaded report
    obtain ⟨given, hvalues, hgiven⟩ := values_of_pairs hpairs
    let answers : String → Answer := fun locale => Id.run (directory.fetch files locale)
    have hloaded : ∀ locale, (Draft.load locale).value answers = loaded locale :=
      fun locale => (Fetching.run_id _ _).symm
    have hreport : report = reportOf key ((Speaker.search [] false candidates).value answers) given
        directory.path :=
      render_of_values files env key hvalues choices (choices.source_apply env)
        (choices.chain_apply env (Locale.detect env))
    have hfirst : ∀ before locale rest draft, candidates = before ++ locale :: rest →
        (∀ earlier ∈ before, ∃ e, loaded earlier = .error e) → loaded locale = .ok draft →
          report = ⟨[draft.compile.1.render key given], none⟩ := by
      intro before locale rest draft hsplit hfail hok
      simp only [← hloaded] at hfail hok
      have hsearch := congrArg Prod.fst (Speaker.run_search_of_first hfail hok rest)
      rw [Fetching.run_recorded, ← hsplit] at hsearch
      exact hreport.trans (congrArg (reportOf key · given _) hsearch)
    have hnone : (∀ locale ∈ candidates, ∃ e, loaded locale = .error e) →
        report = ⟨[], some (.noDictionary directory.path)⟩ := by
      intro hfail
      simp only [← hloaded] at hfail
      have hsearch := congrArg Prod.fst (Speaker.run_search_of_none hfail)
      rw [Fetching.run_recorded] at hsearch
      exact hreport.trans (congrArg (reportOf key · given _) hsearch)
    refine ⟨?_, ?_, ?_⟩
    · -- The search ends in one of two ways, and the report tells which.
      rcases Speaker.search_settles answers candidates with
        ⟨before, locale, rest, draft, hsplit, hfail, hok, -⟩ | ⟨hfail, -⟩
      · simp only [Draft.loads_eq_false_iff, hloaded] at hfail hok
        rw [hfirst before locale rest draft hsplit hfail hok]
        exact iff_of_true rfl ⟨locale, by simp [hsplit], draft, hok⟩
      · simp only [Draft.loads_eq_false_iff, hloaded] at hfail
        rw [hnone hfail]
        refine iff_of_false (by simp [Report.exitCode]) ?_
        rintro ⟨locale, hmem, draft, hok⟩
        obtain ⟨e, he⟩ := hfail locale hmem
        rw [hok] at he
        cases he
    · intro before locale rest draft hsplit hfail hok
      refine ⟨given, hgiven, ?_⟩
      rw [hfirst before locale rest draft hsplit hfail hok, render_compile]
    · intro hfail
      exact ⟨_, rfl, hnone hfail⟩

/-- A blank variable, a forced locale without a file and a portable locale, behind which Russian is
found. The last of two names counts, an equals sign may stand in a value, and a key that only the
default locale has is not looked for there. -/
theorem render_settles_detected :
    let tree := FileTree.ofList [
      ("locales/ru.json", some (Text.Utf8.encode "\x7b\"hi\": [\"Hi,\", \"#$name\"]\x7d".toList)),
      ("locales/en.json", some (Text.Utf8.encode "\x7b\"bye\": [\"$Bye\"]\x7d".toList))]
    let env : Environment := fun name => KeyMap.findEntry name [("LOCALIZE_DIR", " "),
      ("LOCALIZE_FORCE_LOCALE", "de"), ("LC_ALL", "C"), ("LANG", "ru_RU.UTF-8")]
    let say := fun key pairs directory =>
      Id.run (Command.run tree.read env (.render key pairs ⟨none, none, directory, none⟩))
    say "hi" ["name=Eve", "name=a=b"] none = ⟨["Hi, a=b"], none⟩ ∧
    say "bye" [] none = ⟨[""], none⟩ ∧
    (∃ failure : Failure, failure.message = "Expected name=value, got 'oops'" ∧
      say "hi" ["name=Eve", "oops", "again"] none = ⟨[], some failure⟩) ∧
    (say "hi" [] (some "gone")).exitCode ≠ 0 ∧
    ∃ failure : Failure, failure.message = "No dictionary could be loaded from gone" ∧
      say "hi" [] (some "gone") = ⟨[], some failure⟩ := by
  intro tree env say
  let draft : Draft := KeyMap.ofList [("hi", ["Hi,", "#$name"])]
  have hdetected : Locale.detect env = some "ru" := by decide +kernel
  have hcandidates : Locale.chain (some "de") (Locale.detect env) "en"
      = ["de"] ++ "ru" :: ["en"] := by
    rw [hdetected]
    decide +kernel
  have hde : ∀ earlier ∈ ["de"], ∃ e, Id.run ((Draft.load earlier).run
      (Directory.fetch tree.read ⟨"locales", "utf-8"⟩)) = .error e := by
    rintro earlier hearlier
    rw [List.mem_singleton.1 hearlier]
    exact ⟨.notFound "locales/de.json", by decide +kernel⟩
  have hru : Id.run ((Draft.load "ru").run (Directory.fetch tree.read ⟨"locales", "utf-8"⟩))
      = .ok draft := by
    decide +kernel
  have hgone : ∀ locale ∈ ["de"] ++ "ru" :: ["en"], ∃ e, Id.run ((Draft.load locale).run
      (Directory.fetch tree.read ⟨"gone", "utf-8"⟩)) = .error e := by
    intro locale hmem
    refine ⟨.notFound ("gone/" ++ locale ++ ".json"), ?_⟩
    simp only [List.cons_append, List.nil_append, List.mem_cons, List.not_mem_nil,
      or_false] at hmem
    rcases hmem with rfl | rfl | rfl <;> decide +kernel
  refine ⟨?_, ?_, ?_, ?_⟩
  · obtain ⟨given, hgiven, hreport⟩ := ((render_settles tree.read env "hi" ["name=Eve", "name=a=b"]
      ⟨none, none, none, none⟩).2 (by decide +kernel)).2.1 ["de"] "ru" ["en"] draft hcandidates hde
      hru
    have hname : given "name" = some "a=b" :=
      (hgiven _ _).2 ⟨by decide +kernel, ["name=Eve"], [], rfl, by simp⟩
    have htemplate : draft.get? "hi" = some ["Hi,", "#$name"] := by decide +kernel
    have hmessage : Template.compile ["Hi,", "#$name"]
        = [.literal "Hi, ", .placeholder "name" false] := by decide +kernel
    have hline : Message.render [.literal "Hi, ", .placeholder "name" false] given = "Hi, a=b" := by
      simp [Message.render, Segment.render, hname]
    rw [htemplate, Option.map_some, hmessage, hline] at hreport
    exact hreport
  · obtain ⟨given, -, hreport⟩ := ((render_settles tree.read env "bye" []
      ⟨none, none, none, none⟩).2 (by simp)).2.1 ["de"] "ru" ["en"] draft hcandidates hde hru
    have htemplate : draft.get? "bye" = none := by decide +kernel
    rw [htemplate] at hreport
    exact hreport
  · exact (render_settles tree.read env "hi" _ ⟨none, none, none, none⟩).1 tree.read ["name=Eve"]
      "oops" ["again"] rfl (by decide +kernel) (by decide +kernel)
  · have h := (render_settles tree.read env "hi" [] ⟨none, none, some "gone", none⟩).2 (by simp)
    refine ⟨?_, h.2.2 (hcandidates ▸ hgone)⟩
    rw [Ne, h.1, not_exists]
    rintro locale ⟨hmem, draft, hok⟩
    obtain ⟨e, he⟩ := hgone locale (hcandidates ▸ hmem)
    exact absurd (hok.symm.trans he) (by simp)

end CommandLine

end Phrasebook
