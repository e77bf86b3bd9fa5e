import Phrasebook.Proofs.Asking
import Phrasebook.Proofs.DistinctLocales
import Phrasebook.Proofs.Paths
import Phrasebook.Speaker

/-!
# Names that reach a source

A name is checked before it is asked for, and the check lets through what can be a part of a file
name (`Locale.IsFileName`). Shelves and speakers bring their locales to normal form first, and a
normal form that passes the check consists of lowercase letters and digits
(`Locale.isCode_of_normalize_eq_self`): the characters that a separator, a path or another case
would need are gone by then and lowercasing does not bring them back. What a source does with a
name that has passed is settled by the name alone. A directory reads one path, which lies in the
directory, and a server is asked for one address below its base.
-/

set_option autoImplicit false

namespace Phrasebook

/-! ## Names -/

namespace Locale

/-- A name that can be a part of a file name: letters and digits of ASCII, hyphens and underscores,
and at least one of them. -/
def IsFileName (locale : String) : Prop :=
  locale ≠ "" ∧ ∀ c ∈ locale.toList, c.isAlphanum = true ∨ c = '-' ∨ c = '_'

/-- Whether a locale can name a dictionary can be decided. -/
instance (locale : String) : Decidable (IsFileName locale) :=
  @instDecidableAnd _ _ inferInstance (List.decidableBAll _ locale.toList)

/-- A name of lowercase letters and digits of ASCII, and of at least one of them. -/
def IsCode (locale : String) : Prop :=
  locale ≠ "" ∧ ∀ c ∈ locale.toList, c.isLower = true ∨ c.isDigit = true

/-- The characters of a name are ASCII letters and digits, the hyphen and the underscore. -/
theorem isNameChar_iff {c : Char} :
    isNameChar c = true ↔ c.isAlphanum = true ∨ c = '-' ∨ c = '_' := by
  simp only [isNameChar, Bool.or_eq_true, beq_iff_eq, or_assoc]

/-- A locale that can name a dictionary passes the check. -/
theorem check_of_isFileName {locale : String} (h : IsFileName locale) : check locale = .ok () := by
  have hfind : locale.toList.find? (fun c => !isNameChar c) = none := by
    rw [List.find?_eq_none]
    intro c hc
    simpa using isNameChar_iff.2 (h.2 c hc)
  rw [check, if_neg (by simpa using h.1), hfind]

/-- Any other locale is refused as invalid. -/
theorem check_of_not_isFileName {locale : String} (h : ¬IsFileName locale) :
    ∃ detail, check locale = .error (.invalidLocale detail) := by
  unfold check
  split
  · exact ⟨_, rfl⟩
  · next hne =>
    split
    · exact ⟨_, rfl⟩
    · next hfind =>
      refine absurd ⟨by simpa using hne, fun c hc => isNameChar_iff.1 ?_⟩ h
      simpa using List.find?_eq_none.1 hfind c hc

/-- A normal form that can be a part of a file name has lost its hyphens, its underscores and its
capital letters. -/
theorem isCode_of_normalize_eq_self {locale : String} (hnormal : normalize locale = locale)
    (h : IsFileName locale) : IsCode locale := by
  refine ⟨h.1, ?_⟩
  intro c hc
  have hmem : c ∈ normalizeChars locale.toList := by
    rw [← toList_normalize, hnormal]
    exact hc
  have hseparator : isSeparator c = false := isSeparator_of_mem_normalizeChars hmem
  have hupper : c.isUpper = false :=
    Text.isUpper_of_settled (Text.settled_of_mem_lowercase hmem)
  rcases h.2 c hc with halnum | rfl | rfl
  · have hkinds : (c.isUpper || c.isLower || c.isDigit) = true := halnum
    simpa [hupper] using hkinds
  · exact absurd hseparator (by decide)
  · exact absurd hseparator (by decide)

end Locale

/-! ## What is asked for -/

/-- Loading a locale that can name a dictionary asks for it, and for nothing else. -/
theorem Draft.load_of_isFileName {locale : String} (h : Locale.IsFileName locale) :
    Draft.load locale = .ask locale fun answer => .done (answer.bind Draft.ofText) := by
  rw [load, Locale.check_of_isFileName h]

/-- Loading any other locale asks for nothing. -/
theorem Draft.load_of_not_isFileName {locale : String} (h : ¬Locale.IsFileName locale) :
    ∃ detail, Draft.load locale = .done (.error (.invalidLocale detail)) := by
  obtain ⟨detail, hcheck⟩ := Locale.check_of_not_isFileName h
  exact ⟨detail, by rw [load, hcheck]⟩

/-- Loading asks only for what can name a dictionary. -/
theorem Draft.asks_load {P : String → Prop} {locale : String}
    (h : Locale.IsFileName locale → P locale) : (Draft.load locale).Asks P := by
  by_cases hname : Locale.IsFileName locale
  · rw [load_of_isFileName hname]
    exact ⟨h hname, fun answer => trivial⟩
  · obtain ⟨detail, hload⟩ := load_of_not_isFileName hname
    rw [hload]
    trivial

/-- A search asks only for those of its locales that can name a dictionary. -/
theorem Speaker.asks_search {P : String → Prop} {locales : List String}
    (h : ∀ locale ∈ locales, Locale.IsFileName locale → P locale) (history : List SearchStep)
    (fallback : Bool) : (search history fallback locales).Asks P := by
  induction locales generalizing history fallback with
  | nil => trivial
  | cons locale rest ih =>
    refine (Draft.asks_load (h locale List.mem_cons_self)).bind ?_
    intro result
    cases result with
    | ok draft => trivial
    | error e => exact ih (fun other hother => h other (List.mem_cons_of_mem _ hother)) _ _

variable {σ : Type}

/-- An accepted name is handed to the source as it is. -/
theorem Draft.run_load_of_isFileName {locale : String} (h : Locale.IsFileName locale)
    (fetch : String → StateM σ Answer) (s : σ) :
    ((Draft.load locale).run fetch).run s
      = (((fetch locale).run s).1.bind Draft.ofText, ((fetch locale).run s).2) := by
  rw [load_of_isFileName h]
  rfl

/-- Another name is refused, and the source stays as it is. -/
theorem Draft.run_load_of_not_isFileName {locale : String} (h : ¬Locale.IsFileName locale)
    (fetch : String → StateM σ Answer) (s : σ) :
    ∃ detail, ((Draft.load locale).run fetch).run s = (.error (.invalidLocale detail), s) := by
  obtain ⟨detail, hload⟩ := load_of_not_isFileName h
  exact ⟨detail, by rw [hload]; rfl⟩

/-- A shelf asks for codes only, whatever it is asked to load and whatever it is answered. -/
theorem Shelf.isCode_of_load (fetch : String → StateM σ Answer) (schedule : List Nat)
    (names : List String) (s : σ) :
    ∀ name ∈ ((load (watched fetch) schedule names).run ([], s)).2.1, Locale.IsCode name := by
  have hasks : ∀ program ∈ (wanted names).map loadOne, program.Asks Locale.IsCode := by
    intro program hprogram
    obtain ⟨locale, hlocale, rfl⟩ := List.mem_map.1 hprogram
    exact (Draft.asks_load (Locale.isCode_of_normalize_eq_self
      (normalize_of_mem_wanted hlocale))).bind fun result => trivial
  exact Pool.joinAll_keeps (keeps_watched Locale.IsCode fetch) schedule hasks
    (fun name hname => absurd hname List.not_mem_nil)

/-- A speaker asks for codes only, whatever it is configured to try and whatever it is answered. -/
theorem Speaker.isCode_of_start (fetch : String → StateM σ Answer) (config : Config)
    (detected : Option String) (s : σ) :
    ∀ name ∈ (((start config detected).run (watched fetch)).run ([], s)).2.1,
      Locale.IsCode name := by
  have hasks : (start config detected).Asks Locale.IsCode :=
    asks_search (fun locale hlocale => Locale.isCode_of_normalize_eq_self
      (Locale.normalize_of_mem_chain hlocale)) [] false
  exact hasks.run (keeps_watched Locale.IsCode fetch)
    (fun name hname => absurd hname List.not_mem_nil)

/-! ## What becomes of a name -/

namespace Directory

/-- The file of a locale that can name a dictionary is in no other directory. -/
theorem notMem_of_isFileName {locale : String} (h : Locale.IsFileName locale) :
    '/' ∉ (locale ++ ".json").toList := by
  intro hmem
  rw [String.toList_append, List.mem_append] at hmem
  rcases hmem with hmem | hmem
  · exact absurd (h.2 '/' hmem) (by decide)
  · exact absurd hmem (by decide)

/-- The path of a file in a directory. -/
structure IsPathOf (directory file path : String) : Prop where
  /-- The directory and the file, with a slash put between them unless there is one. -/
  spelled : path
    = directory ++ (if directory = "" ∨ directory.toList.getLast? = some '/' then "" else "/")
      ++ file
  /-- The file is one component, behind those of the directory. -/
  component : FileTree.names path = FileTree.names directory ++ [file]
  /-- What can be read under the path is a file of that name in the directory itself. -/
  inside : ∀ (tree : FileTree) (bytes : List UInt8), tree.read path = .ok bytes →
    ∃ place, tree.walk (FileTree.origin directory) (FileTree.names directory) = .ok (some place) ∧
      tree.node? (place ++ [file]) = some (.file bytes)

/-- The name of a dictionary file is longer than the names that lead elsewhere. -/
theorem fileName_ne (locale : String) {short : String} (h : short.length < 5) :
    locale ++ ".json" ≠ short := by
  rintro rfl
  rw [String.length_append] at h
  have hlength : ".json".length = 5 := by decide
  omega

/-- The path of a dictionary is that of its file in the directory. -/
theorem isPathOf_pathFor {locale : String} (h : Locale.IsFileName locale) (d : Directory) :
    IsPathOf d.path (locale ++ ".json") (d.pathFor locale) where
  spelled := join_of_notMem (notMem_of_isFileName h) d.path
  component := names_join (fileName_ne locale (by decide)) (notMem_of_isFileName h) d.path
  inside := fun _ _ hread => read_join (notMem_of_isFileName h) (fileName_ne locale (by decide))
    (fileName_ne locale (by decide)) (fileName_ne locale (by decide)) d.path hread

/-- Different locales have different paths. -/
theorem pathFor_inj {d : Directory} {locale other : String} (h : Locale.IsFileName locale)
    (hother : Locale.IsFileName other) (heq : d.pathFor locale = d.pathFor other) :
    locale = other := by
  rw [(isPathOf_pathFor h d).spelled, (isPathOf_pathFor hother d).spelled] at heq
  exact (String.append_left_inj _).1 ((String.append_right_inj _).1 heq)

/-- The paths that are read to answer for a locale. -/
theorem run_fetch_watched (read : String → StateM σ (Except ReadFailure (List UInt8)))
    (d : Directory) (locale : String) (paths : List String) (s : σ) :
    ((d.fetch (watched read) locale).run (paths, s)).2.1
      = paths ++ if isUtf8Label d.encoding then [d.pathFor locale] else [] := by
  unfold fetch
  split
  · rfl
  · exact (List.append_nil _).symm

end Directory

/-! ## Only safe names -/

/-- A shelf and a speaker ask any source for codes only, whatever names they are given. A dictionary
that is loaded by itself is refused a name that cannot be a part of a file name, before anything is
asked for. With another name a directory reads one path and no other, that of the file
`<locale>.json` in it, or none at all where its encoding is refused, and different names have
different paths. A server is asked for one address, which is its own without the slashes at the end,
a slash and the file. -/
theorem only_safe_names_reach_sources (s : σ) :
    (∀ (fetch : String → StateM σ Answer) (schedule : List Nat) (names : List String),
      ∀ name ∈ ((Shelf.load (watched fetch) schedule names).run ([], s)).2.1, Locale.IsCode name) ∧
    (∀ (fetch : String → StateM σ Answer) (config : Config) (detected : Option String),
      ∀ name ∈ (((Speaker.start config detected).run (watched fetch)).run ([], s)).2.1,
        Locale.IsCode name) ∧
    (∀ (read : String → StateM σ (Except ReadFailure (List UInt8))) (d : Directory)
        (locale : String),
      let run := ((Draft.load locale).run (watched (d.fetch (watched read)))).run ([], [], s)
      (¬Locale.IsFileName locale →
        ∃ detail, run = (.error (.invalidLocale detail), [], [], s)) ∧
      (Locale.IsFileName locale → run.2.1 = [locale] ∧
        run.2.2.1 = (if Directory.isUtf8Label d.encoding then [d.pathFor locale] else []) ∧
        Directory.IsPathOf d.path (locale ++ ".json") (d.pathFor locale) ∧
        ∀ other, Locale.IsFileName other → other ≠ locale →
          d.pathFor other ≠ d.pathFor locale)) ∧
    (∀ (charsets : Text.Charsets) (get : String → StateM σ (Option Reply))
        (address locale : String),
      let run := ((Draft.load locale).run
        ((Remote.ofAddress address).fetch charsets (watched get))).run ([], s)
      (¬Locale.IsFileName locale → ∃ detail, run = (.error (.invalidLocale detail), [], s)) ∧
      (Locale.IsFileName locale → ∃ base slashes,
        address = base ++ String.ofList slashes ∧ (∀ c ∈ slashes, c = '/') ∧
        base.toList.getLast? ≠ some '/' ∧ run.2.1 = [base ++ "/" ++ locale ++ ".json"])) := by
  refine ⟨fun fetch schedule names => Shelf.isCode_of_load fetch schedule names s,
    fun fetch config detected => Speaker.isCode_of_start fetch config detected s, ?_, ?_⟩
  · intro read d locale run
    refine ⟨fun hname => Draft.run_load_of_not_isFileName hname _ _, ?_⟩
    intro hname
    have hrun : run.2 = ([locale], ((d.fetch (watched read) locale).run ([], s)).2) :=
      congrArg Prod.snd (Draft.run_load_of_isFileName hname _ _)
    refine ⟨?_, ?_, Directory.isPathOf_pathFor hname d, ?_⟩
    · rw [hrun]
    · rw [hrun, Directory.run_fetch_watched, List.nil_append]
    · intro other hother hne heq
      exact hne (Directory.pathFor_inj hother hname heq)
  · intro charsets get address locale run
    refine ⟨fun hname => Draft.run_load_of_not_isFileName hname _ _, ?_⟩
    intro hname
    have hrun : run.2.1 = [(Remote.ofAddress address).urlFor locale] :=
      congrArg (Prod.fst ∘ Prod.snd) (Draft.run_load_of_isFileName hname _ _)
    obtain ⟨slashes, hslashes, haddress, hbase⟩ := Remote.base_ofAddress address
    exact ⟨(Remote.ofAddress address).base, slashes, haddress, hslashes, hbase, hrun⟩

/-- A shelf that is given a Kelvin sign and two paths, a directory that is asked to leave itself and
for a dictionary under two names, and a server whose address ends in slashes. -/
theorem only_safe_names_reach_sources_kelvin :
    let silence : String → StateM Unit Answer := fun _ => pure (.error (.io "silence"))
    let missing : String → StateM Unit (Except ReadFailure (List UInt8)) :=
      fun _ => pure (.error .notFound)
    let charsets : Text.Charsets := ⟨fun _ => none, fun _ => none⟩
    let gone : String → StateM Unit (Option Reply) := fun _ => pure none
    let directory : Directory := ⟨"/srv/", "UTF-8"⟩
    let asked := ((Shelf.load (watched silence) [3, 0] ["../etc", "\u212A-x", "e/n", "EN"]).run
      ([], ())).2.1
    let load := fun locale =>
      ((Draft.load locale).run (watched (directory.fetch (watched missing)))).run ([], [], ())
    let requested := (((Draft.load "en").run
      ((Remote.ofAddress "http://host//").fetch charsets (watched gone))).run ([], ())).2.1
    (asked = ["en", "k"] ∧ ∀ name ∈ asked, Locale.IsCode name) ∧
      (∃ detail, load "../etc" = (.error (.invalidLocale detail), [], [], ())) ∧
      ((load "zh-Hans").2.2.1 = ["/srv/zh-Hans.json"] ∧
        directory.pathFor "zh_Hans" ≠ directory.pathFor "zh-Hans") ∧
      (requested = ["http://host/en.json"] ∧ ∃ base slashes,
        "http://host//" = base ++ String.ofList slashes ∧ (∀ c ∈ slashes, c = '/') ∧
        base.toList.getLast? ≠ some '/' ∧ requested = [base ++ "/" ++ "en" ++ ".json"]) := by
  intro silence missing charsets gone directory asked load requested
  obtain ⟨hshelf, -, hdirectory, hremote⟩ := only_safe_names_reach_sources ()
  have hread := (hdirectory missing directory "zh-Hans").2 (by decide)
  refine ⟨⟨by decide +kernel, hshelf silence [3, 0] _⟩, ?_, ⟨?_, ?_⟩, by decide +kernel, ?_⟩
  · exact (hdirectory missing directory "../etc").1 (by decide)
  · exact hread.2.1.trans (by decide +kernel)
  · exact hread.2.2.2 "zh_Hans" (by decide) (by decide)
  · exact (hremote charsets gone "http://host//" "en").2 (by decide)

end Phrasebook
