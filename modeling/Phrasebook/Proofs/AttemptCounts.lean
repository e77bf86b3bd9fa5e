import Mathlib.Algebra.BigOperators.Ring.Finset
import Phrasebook.Proofs.Search
import Phrasebook.Proofs.ShelfLoading
import Phrasebook.Source.Memory

/-!
# How often a source is asked

A source in memory keeps two counts, the total and one for each name, and whoever uses it only ever
asks for one name after the other. So what a use leaves is known from the names that it asks for:
the total grows by their number (`Memory.total_afterAsking`) and the count of a name by its
repetitions among them (`Memory.of_afterAsking`). A shelf and a speaker ask for distinct names, each
of them once (`Attempts.AskedOnce`), and over any number of uses the counts of the names add up to
the total.
-/

set_option autoImplicit false

namespace Phrasebook

/-! ## What has been asked for -/

/-- Between the two counts each of the names, which are distinct, has been asked for once, and
nothing else has been asked for. -/
structure Attempts.AskedOnce (names : List String) (before after : Attempts) : Prop where
  nodup : names.Nodup
  total : after.total = before.total + names.length
  once : ∀ name ∈ names, after.of name = before.of name + 1
  others : ∀ name, name ∉ names → after.of name = before.of name

/-- A name that has no entry has not been asked for. -/
theorem Attempts.of_of_notMem {attempts : Attempts} {name : String}
    (h : name ∉ attempts.perLocale.keys) : attempts.of name = 0 := by
  rw [KeyMap.mem_keys_iff, KeyMap.contains, Bool.not_eq_true, Option.isSome_eq_false_iff,
    Option.isNone_iff_eq_none] at h
  rw [of, h]
  rfl

namespace Memory

open Fetching (afterAsking)

variable (memory : Memory) (attempts : Attempts)

/-- Counting does not change the answers. -/
theorem steady : Fetching.Steady memory.fetch memory.answer := fun _ _ => rfl

/-- A row of questions adds its length to the total. -/
theorem total_afterAsking (order : List String) :
    (afterAsking memory.fetch order attempts).total = attempts.total + order.length := by
  induction order generalizing attempts with
  | nil => rfl
  | cons locale order ih =>
    have hstep : ((memory.fetch locale).run attempts).2.total = attempts.total + 1 := rfl
    rw [Fetching.afterAsking_cons, ih, hstep, List.length_cons]
    omega

/-- A row of questions adds to a name as often as it asks for it. -/
theorem of_afterAsking (order : List String) (name : String) :
    (afterAsking memory.fetch order attempts).of name = attempts.of name + order.count name := by
  induction order generalizing attempts with
  | nil => rfl
  | cons locale order ih =>
    have hstep : ((memory.fetch locale).run attempts).2 = attempts.record locale := rfl
    rw [Fetching.afterAsking_cons, ih, hstep, Attempts.of_record, List.count_cons]
    by_cases hname : name = locale
    · simp only [hname, if_true, beq_self_eq_true]
      omega
    · have hne : (locale == name) = false := beq_false_of_ne (Ne.symm hname)
      simp only [hname, hne, if_false, Bool.false_eq_true, Nat.add_zero]

/-- Distinct names that are asked for in some order are asked for once each. -/
theorem askedOnce_afterAsking {names order : List String} (hnodup : names.Nodup)
    (h : order.Perm names) :
    Attempts.AskedOnce names attempts (afterAsking memory.fetch order attempts) where
  nodup := hnodup
  total := by rw [total_afterAsking, h.length_eq]
  once := by
    intro name hname
    rw [of_afterAsking, h.count_eq, List.count_eq_one_of_mem hnodup hname]
  others := by
    intro name hname
    rw [of_afterAsking, h.count_eq, List.count_eq_zero_of_not_mem hname, Nat.add_zero]

end Memory

/-! ## What a search asks for -/

namespace Speaker

variable {answers : String → Answer}

/-- A search asks for the locales up to the first that loads, those of them that can name a
dictionary. -/
theorem asked_search_of_first {before : List String} {locale : String} {draft : Draft}
    (hfail : ∀ earlier ∈ before, ∃ e, (Draft.load earlier).value answers = .error e)
    (hok : (Draft.load locale).value answers = .ok draft) (rest : List String) :
    (search [] false (before ++ locale :: rest)).asked answers
      = (before ++ [locale]).filter Locale.isAccepted := by
  have hrun := congrArg Prod.snd (run_search_of_first hfail hok rest)
  rwa [Fetching.run_recorded] at hrun

/-- Where none loads, it asks for all of them. -/
theorem asked_search_of_none {locales : List String}
    (hfail : ∀ locale ∈ locales, ∃ e, (Draft.load locale).value answers = .error e) :
    (search [] false locales).asked answers = locales.filter Locale.isAccepted := by
  have hrun := congrArg Prod.snd (run_search_of_none hfail)
  rwa [Fetching.run_recorded] at hrun

end Speaker

/-! ## Uses of one source -/

namespace Memory

open Fetching (afterAsking)

/-- What a source can be used for. -/
inductive Use where
  | fetch (locale : String)
  | load (locale : String)
  | shelf (schedule : List Nat) (names : List String)
  | speaker (config : Config) (detected : Option String)

variable (memory : Memory)

/-- The counts behind a use of the source. -/
def afterUse (attempts : Attempts) : Use → Attempts
  | .fetch locale => ((memory.fetch locale).run attempts).2
  | .load locale => (((Draft.load locale).run memory.fetch).run attempts).2
  | .shelf schedule names => ((Shelf.load memory.fetch schedule names).run attempts).2
  | .speaker config detected => (((Speaker.start config detected).run memory.fetch).run attempts).2

/-- The counts behind some uses, one after the other. -/
def afterUses (attempts : Attempts) (uses : List Use) : Attempts :=
  uses.foldl memory.afterUse attempts

/-- Whatever a source is used for, it is asked for some names in turn. -/
theorem exists_afterUse (attempts : Attempts) (use : Use) :
    ∃ order, memory.afterUse attempts use = afterAsking memory.fetch order attempts := by
  cases use with
  | fetch locale => exact ⟨[locale], rfl⟩
  | load locale => exact ⟨_, congrArg Prod.snd (Fetching.run_of_steady memory.steady _ _)⟩
  | shelf schedule names =>
    obtain ⟨order, -, hrun⟩ := Shelf.run_load_of_steady memory.steady schedule names attempts
    exact ⟨order, congrArg Prod.snd hrun⟩
  | speaker config detected =>
    exact ⟨_, congrArg Prod.snd (Fetching.run_of_steady memory.steady _ _)⟩

/-- Any number of uses comes to one row of questions. -/
theorem exists_afterUses (attempts : Attempts) (uses : List Use) :
    ∃ order, memory.afterUses attempts uses = afterAsking memory.fetch order attempts := by
  induction uses generalizing attempts with
  | nil => exact ⟨[], rfl⟩
  | cons use uses ih =>
    obtain ⟨first, hfirst⟩ := memory.exists_afterUse attempts use
    obtain ⟨rest, hrest⟩ := ih (memory.afterUse attempts use)
    refine ⟨first ++ rest, ?_⟩
    rw [Fetching.afterAsking_append, ← hfirst]
    exact hrest

/-- The counts of the names add up to the total. -/
theorem sum_of_afterAsking (order : List String) :
    let attempts := afterAsking memory.fetch order Attempts.none
    (attempts.perLocale.keys.map attempts.of).sum = attempts.total := by
  intro attempts
  have hof : attempts.of = fun name => order.count name := by
    funext name
    exact (memory.of_afterAsking Attempts.none order name).trans (Nat.zero_add _)
  have hkeys : ∀ name ∈ (order : Multiset String), name ∈ attempts.perLocale.keys.toFinset := by
    intro name hname
    rw [List.mem_toFinset]
    by_contra hnone
    have hzero : order.count name = 0 := by
      rw [← Attempts.of_of_notMem hnone, hof]
    exact List.count_eq_zero.1 hzero (Multiset.mem_coe.1 hname)
  calc (attempts.perLocale.keys.map attempts.of).sum
    _ = ∑ name ∈ attempts.perLocale.keys.toFinset, (order : Multiset String).count name := by
        rw [hof, ← List.sum_toFinset _ attempts.perLocale.nodup_keys]
        simp only [Multiset.coe_count]
    _ = order.length := Multiset.sum_count_eq_card hkeys
    _ = attempts.total := by
        rw [memory.total_afterAsking]
        exact (Nat.zero_add _).symm

/-- What the counts of a source in memory say. Loading a shelf asks, under any schedule, once for
each distinct normal form among its names that can name a dictionary, and for nothing else. Starting
a speaker asks in the same way for the locales of its chain up to the first that loads, and for all
of them if none does. Whatever a fresh source has been used for, the counts of the names add up to
the total. -/
theorem attempts_are_exact (attempts : Attempts) :
    (∀ schedule names,
      Attempts.AskedOnce ((names.map Locale.normalize).eraseDups.filter Locale.isAccepted) attempts
        ((Shelf.load memory.fetch schedule names).run attempts).2) ∧
    (∀ config detected,
      let candidates := Locale.chain config.forcedLocale detected config.defaultLocale
      let loaded := fun locale => (((Draft.load locale).run memory.fetch).run attempts).1
      let after := (((Speaker.start config detected).run memory.fetch).run attempts).2
      (∀ before locale rest draft, candidates = before ++ locale :: rest →
        (∀ earlier ∈ before, ∃ e, loaded earlier = .error e) → loaded locale = .ok draft →
          Attempts.AskedOnce ((before ++ [locale]).filter Locale.isAccepted) attempts after) ∧
      ((∀ candidate ∈ candidates, ∃ e, loaded candidate = .error e) →
        Attempts.AskedOnce (candidates.filter Locale.isAccepted) attempts after)) ∧
    ∀ uses,
      let counts := memory.afterUses Attempts.none uses
      (counts.perLocale.keys.map counts.of).sum = counts.total ∧
        ∀ name, name ∉ counts.perLocale.keys → counts.of name = 0 := by
  refine ⟨?_, ?_, ?_⟩
  · intro schedule names
    obtain ⟨order, hperm, hrun⟩ := Shelf.run_load_of_steady memory.steady schedule names attempts
    rw [hrun, ← Shelf.wanted_eq_eraseDups]
    exact memory.askedOnce_afterAsking attempts ((Locale.nodup_distinct _).filter _) hperm
  · intro config detected candidates loaded after
    have hnodup : candidates.Nodup := Locale.nodup_chain _ _ _
    have hloaded : ∀ locale, loaded locale = (Draft.load locale).value memory.answer := by
      intro locale
      exact congrArg Prod.fst (Fetching.run_of_steady memory.steady _ _)
    have hafter : after
        = afterAsking memory.fetch ((Speaker.search [] false candidates).asked memory.answer)
            attempts :=
      congrArg Prod.snd (Fetching.run_of_steady memory.steady (Speaker.start config detected) _)
    simp only [hloaded]
    constructor
    · intro before locale rest draft hsplit hfail hok
      rw [hsplit] at hnodup hafter
      rw [hafter, Speaker.asked_search_of_first hfail hok]
      have hpassed : (before ++ [locale]).Nodup := by
        rw [List.append_cons] at hnodup
        exact hnodup.of_append_left
      exact memory.askedOnce_afterAsking attempts (hpassed.filter _) (List.Perm.refl _)
    · intro hfail
      rw [hafter, Speaker.asked_search_of_none hfail]
      exact memory.askedOnce_afterAsking attempts (hnodup.filter _) (List.Perm.refl _)
  · intro uses counts
    obtain ⟨order, horder⟩ := memory.exists_afterUses Attempts.none uses
    have hcounts : counts = afterAsking memory.fetch order Attempts.none := horder
    rw [hcounts]
    exact ⟨memory.sum_of_afterAsking order, fun name => Attempts.of_of_notMem⟩

/-- A shelf that is given a locale twice and two names that name no dictionary, a speaker that
settles on its second locale, and four uses of a fresh source, one of which asks for nothing. -/
theorem attempts_are_exact_mixed :
    let memory : Memory := ⟨KeyMap.ofList [("en", "\x7b\x7d"), ("de", "[]")]⟩
    let attempts := Attempts.none.record "en"
    let config := Config.default.withForcedLocale (some "DE")
    let loaded :=
      ((Shelf.load memory.fetch [2, 0, 2] ["en-US", "", "\u00e9", "EN", "de"]).run attempts).2
    let started := (((Speaker.start config (some "@euro")).run memory.fetch).run attempts).2
    let counts := memory.afterUses Attempts.none
      [.fetch "..", .load "", .shelf [1] ["en", "EN"], .speaker Config.default (some "ru")]
    (Attempts.AskedOnce ["en", "de"] attempts loaded ∧ loaded.of "en" = 2) ∧
      Attempts.AskedOnce ["de", "en"] attempts started ∧
      (counts.perLocale.keys.map counts.of).sum = counts.total ∧ counts.total = 4 := by
  intro memory attempts config loaded started counts
  obtain ⟨hshelf, hspeaker, huses⟩ := memory.attempts_are_exact attempts
  have hnames : (["en-US", "", "\u00e9", "EN", "de"].map Locale.normalize).eraseDups.filter
      Locale.isAccepted = ["en", "de"] := by decide +kernel
  have hchain : Locale.chain config.forcedLocale (some "@euro") config.defaultLocale
      = ["de"] ++ "en" :: [] := by decide +kernel
  have hfail : ∀ earlier ∈ ["de"],
      ∃ e, (((Draft.load earlier).run memory.fetch).run attempts).1 = .error e := by
    intro earlier hearlier
    rw [List.mem_singleton.1 hearlier]
    exact ⟨.invalidShape "root must be an object", by decide +kernel⟩
  have hok : (((Draft.load "en").run memory.fetch).run attempts).1 = .ok KeyMap.empty := by
    decide +kernel
  have htried : (["de"] ++ ["en"]).filter Locale.isAccepted = ["de", "en"] := by decide +kernel
  refine ⟨⟨?_, by decide +kernel⟩, ?_, (huses _).1, by decide +kernel⟩
  · have h := hshelf [2, 0, 2] ["en-US", "", "\u00e9", "EN", "de"]
    rwa [hnames] at h
  · have h := (hspeaker config (some "@euro")).1 ["de"] "en" [] KeyMap.empty hchain hfail hok
    rwa [htried] at h

end Memory

end Phrasebook
