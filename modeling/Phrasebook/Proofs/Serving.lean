import Mathlib.Data.Set.Card
import Phrasebook.Proofs.ShelfInvariant
import Phrasebook.Web.Service

/-!
# What the service says of its shelf

The service looks a locale up as it is spelled in the request, and then brings it to normal form and
has the shelf look it up a second time. A normal form is its own normal form, so both look-ups find
the same dictionary (`Shelf.render_normalize`). Of the three responses there is one when the locale
is not ready (`rendering_of_not_isReady`), and the key decides between the other two
(`rendering_of_catalog?`). The list of locales reads the outcomes for one half of a status and the
catalogs for the other; on a well-formed shelf the two halves agree, and so the list foretells what
rendering in each locale comes to (`Status.agrees_ofOutcome`).
-/

set_option autoImplicit false

namespace Phrasebook

/-! ## Looking up twice -/

/-- A locale and its normal form have the same dictionary. -/
@[simp] theorem Shelf.catalog?_normalize (shelf : Shelf) (locale : String) :
    shelf.catalog? (Locale.normalize locale) = shelf.catalog? locale := by
  unfold Shelf.catalog?
  rw [Locale.normalize_normalize]

/-- A locale and its normal form give a message the same text. -/
theorem Shelf.render_normalize (shelf : Shelf) (locale key : String) (values : Substitution) :
    shelf.render (Locale.normalize locale) key values = shelf.render locale key values := by
  unfold Shelf.render
  rw [Shelf.catalog?_normalize]

/-- A locale that is not ready has no dictionary. -/
theorem Shelf.catalog?_of_not_isReady {shelf : Shelf} {locale : String}
    (h : shelf.isReady locale = false) : shelf.catalog? locale = none := by
  unfold Shelf.isReady at h
  exact Option.isNone_iff_eq_none.1 (Option.isSome_eq_false_iff.1 h)

/-- The outcome of a ready locale is listed under its normal form. -/
theorem Shelf.WellFormed.normalize_mem_locales {shelf : Shelf} (h : shelf.WellFormed)
    {locale : String} (hready : shelf.isReady locale = true) :
    Locale.normalize locale ∈ shelf.locales := by
  obtain ⟨outcome, houtcome, hlocale, -⟩ := (h.isReady_iff locale).1 hready
  exact Shelf.mem_locales.2 ⟨outcome, houtcome, hlocale⟩

/-- A map has as many names as entries. -/
theorem KeyMap.encard_contains {α : Type} (m : KeyMap α) :
    {key | m.contains key = true}.encard = m.size := by
  have hkeys : {key | m.contains key = true} = (m.keys.toFinset : Set String) := by
    ext key
    rw [Set.mem_ofPred_eq, ← KeyMap.mem_keys_iff, Finset.mem_coe, List.mem_toFinset]
  have hlength : m.keys.length = m.size := List.length_map _
  rw [hkeys, Set.encard_coe_eq_coe_finsetCard, List.toFinset_card_of_nodup m.nodup_keys, hlength]

namespace Web

/-! ## Rendering one message -/

/-- The response with a message, which names the locale that it was rendered in. -/
def Response.found (locale key rendered : String) : Response :=
  ⟨200, .json (.object [
    ("locale", .string locale), ("key", .string key), ("rendered", .string rendered)])⟩

/-- The response that there is no dictionary for the locale. -/
def Response.noLocale (locale : String) : Response :=
  ⟨404, .json (.object [("error", .string ("Locale '" ++ locale ++ "' is not loaded"))])⟩

/-- The response that the dictionary has no message for the key. -/
def Response.noKey (key : String) : Response :=
  ⟨404, .json (.object [("error", .string ("Unknown message key '" ++ key ++ "'"))])⟩

/-- The response to a request for one message. -/
abbrev rendering (shelf : Shelf) (locale key : String) (values : Substitution) : Response :=
  .ofRendering (renderMessage shelf locale key values)

/-- The two reasons for finding nothing are worded differently, whatever they name. -/
theorem noLocale_ne_noKey (locale key : String) : Response.noLocale locale ≠ .noKey key := by
  intro h
  have hwords :
      "Locale '" ++ locale ++ "' is not loaded" = "Unknown message key '" ++ key ++ "'" := by
    simpa [Response.noLocale, Response.noKey] using h
  have hfirst := congrArg (fun s : String => s.toList.head?) hwords
  simp at hfirst

/-- A locale that is not ready is named as it was spelled in the request. -/
theorem rendering_of_not_isReady {shelf : Shelf} {locale : String}
    (h : shelf.isReady locale = false) (key : String) (values : Substitution) :
    rendering shelf locale key values = .noLocale locale := by
  unfold rendering renderMessage
  rw [Shelf.catalog?_of_not_isReady h]
  rfl

/-- A dictionary has the message in the normal form of the locale, or has no such key. -/
theorem rendering_of_catalog? {shelf : Shelf} {locale : String} {catalog : Catalog}
    (h : shelf.catalog? locale = some catalog) (key : String) (values : Substitution) :
    rendering shelf locale key values
      = if catalog.contains key then
          .found (Locale.normalize locale) key (shelf.render locale key values)
        else .noKey key := by
  simp only [rendering, renderMessage, h, Shelf.render_normalize]
  split <;> rfl

/-- Where there is a dictionary, success is a matter of the key alone. -/
theorem status_rendering {shelf : Shelf} {locale : String} {catalog : Catalog}
    (h : shelf.catalog? locale = some catalog) (key : String) (values : Substitution) :
    (rendering shelf locale key values).status = 200 ↔ catalog.contains key = true := by
  rw [rendering_of_catalog? h]
  by_cases hkey : catalog.contains key = true
  · rw [if_pos hkey]
    exact iff_of_true rfl hkey
  · rw [if_neg hkey]
    exact iff_of_false (by simp [Response.noKey]) hkey

/-! ## Listing the locales -/

/-- What a status says of its locale is borne out by every message that is rendered in it. -/
structure Status.Agrees (shelf : Shelf) (status : Status) : Prop where
  /-- The locale is ready when rendering succeeds or fails for want of the key alone. -/
  ready : status.ready = true ↔ ∀ key values,
    (rendering shelf status.locale key values).status = 200 ∨
      rendering shelf status.locale key values = .noKey key
  /-- Otherwise nothing is ever rendered, for want of the locale. -/
  absent : status.ready = false ↔ ∀ key values,
    rendering shelf status.locale key values = .noLocale status.locale
  /-- As many keys are counted as can be rendered, whatever the values. -/
  messages : ∀ values,
    {key | (rendering shelf status.locale key values).status = 200}.encard = status.messages
  /-- An error is shown for the locales that are not ready. -/
  error : status.error.isSome = true ↔ status.ready = false

/-- The status of a ready locale agrees when it counts the messages of the dictionary and shows no
error. -/
theorem Status.agrees_of_ready {shelf : Shelf} {status : Status} {catalog : Catalog}
    (hcatalog : shelf.catalog? status.locale = some catalog) (hready : status.ready = true)
    (hmessages : status.messages = catalog.size) (herror : status.error = none) :
    status.Agrees shelf where
  ready := by
    refine ⟨fun _ key values => ?_, fun _ => hready⟩
    by_cases hkey : catalog.contains key = true
    · exact Or.inl ((status_rendering hcatalog key values).2 hkey)
    · right
      rw [rendering_of_catalog? hcatalog, if_neg hkey]
  absent := by
    constructor
    · intro habsent
      rw [hready] at habsent
      cases habsent
    · intro habsent
      have hanswer := rendering_of_catalog? hcatalog "" (Substitution.ofPairs [])
      rw [habsent] at hanswer
      split at hanswer
      · cases congrArg Response.status hanswer
      · exact absurd hanswer (noLocale_ne_noKey _ _)
  messages := by
    intro values
    simp only [status_rendering hcatalog]
    rw [hmessages, KeyMap.encard_contains]
  error := by
    rw [herror, hready]
    simp

/-- The status of a locale that is not ready agrees when it counts no messages and shows an
error. -/
theorem Status.agrees_of_absent {shelf : Shelf} {status : Status}
    (habsent : shelf.isReady status.locale = false) (hready : status.ready = false)
    (hmessages : status.messages = 0) (herror : status.error.isSome = true) :
    status.Agrees shelf where
  ready := by
    constructor
    · intro h
      rw [hready] at h
      cases h
    · intro h
      have hanswer := h "" (Substitution.ofPairs [])
      rw [rendering_of_not_isReady habsent] at hanswer
      rcases hanswer with hstatus | hkey
      · cases hstatus
      · exact absurd hkey (noLocale_ne_noKey _ _)
  absent := ⟨fun _ key values => rendering_of_not_isReady habsent key values, fun _ => hready⟩
  messages := by
    intro values
    rw [hmessages, Nat.cast_zero, Set.encard_eq_zero, Set.eq_empty_iff_forall_notMem]
    intro key hkey
    rw [Set.mem_ofPred_eq, rendering_of_not_isReady habsent] at hkey
    cases hkey
  error := ⟨fun _ => hready, fun _ => herror⟩

/-- On a well-formed shelf every status agrees: the outcome it is made of tells whether there is a
dictionary, and its other half is counted in that dictionary. -/
theorem Status.agrees_ofOutcome {shelf : Shelf} (h : shelf.WellFormed) {outcome : Outcome}
    (houtcome : outcome ∈ shelf.outcomes) : (Status.ofOutcome shelf outcome).Agrees shelf := by
  have hready : shelf.isReady outcome.locale = outcome.isOk := h.isReady_locale houtcome
  cases hok : outcome.isOk with
  | true =>
    rw [hok] at hready
    obtain ⟨catalog, hcatalog⟩ := Option.isSome_iff_exists.1 hready
    have herror : outcome.error = none := Option.isNone_iff_eq_none.1 hok
    refine Status.agrees_of_ready hcatalog hok ?_ ?_
    · unfold Status.ofOutcome
      rw [hcatalog]
      rfl
    · unfold Status.ofOutcome
      rw [herror]
      rfl
  | false =>
    rw [hok] at hready
    refine Status.agrees_of_absent hready hok ?_ ?_
    · unfold Status.ofOutcome
      rw [Shelf.catalog?_of_not_isReady hready]
      rfl
    · have herror : outcome.error.isSome = true := by
        unfold Outcome.isOk at hok
        simpa using hok
      unfold Status.ofOutcome
      simpa using herror

/-- Of every shelf that can be reached, a request for a message is answered with success exactly
when the locale, as it is spelled in the request, is ready and its dictionary has the key. The
response then carries the normal form of the locale, which is one of those listed, the key, and the
text that the shelf gives it. Otherwise nothing is found, and the response says why: for want of the
locale, named as it was spelled, or of the key alone. The list has an entry for each outcome, in
order, with the status of its locale, and each status agrees with that. -/
theorem reachable_is_served {shelf : Shelf} (h : shelf.Reachable) :
    (∀ locale key values,
      let response := rendering shelf locale key values
      let held := ∃ catalog, shelf.catalog? locale = some catalog ∧ catalog.contains key = true
      (response.status = 200 ↔ shelf.isReady locale = true ∧ held) ∧
      (response.status = 200 →
        response = .found (Locale.normalize locale) key (shelf.render locale key values) ∧
          Locale.normalize locale ∈ shelf.locales) ∧
      (response.status ≠ 200 → response.status = 404) ∧
      (shelf.isReady locale = false → response = .noLocale locale) ∧
      (shelf.isReady locale = true → ¬held → response = .noKey key)) ∧
    (∀ query, get shelf query .locales = ⟨200, .json (.array ((statuses shelf).map fun status =>
      .object [
        ("locale", .string status.locale),
        ("ready", .bool status.ready),
        ("messages", .number (.integer status.messages)),
        ("warnings", .number (.integer status.warnings)),
        ("error", (status.error.map Json.Value.string).getD .null)]))⟩) ∧
    (statuses shelf).map (·.locale) = shelf.outcomes.map (·.locale) ∧
    ∀ status ∈ statuses shelf, status.Agrees shelf := by
  have hwell : shelf.WellFormed := h.wellFormed
  refine ⟨?_, ?_, ?_, ?_⟩
  · intro locale key values response held
    cases hready : shelf.isReady locale with
    | false =>
      have hresponse : response = .noLocale locale := rendering_of_not_isReady hready key values
      simp [hresponse, Response.noLocale]
    | true =>
      obtain ⟨catalog, hcatalog⟩ := Option.isSome_iff_exists.1 hready
      have hlisted : Locale.normalize locale ∈ shelf.locales := hwell.normalize_mem_locales hready
      by_cases hkey : catalog.contains key = true
      · have hheld : held := ⟨catalog, hcatalog, hkey⟩
        have hresponse : response
            = .found (Locale.normalize locale) key (shelf.render locale key values) :=
          (rendering_of_catalog? hcatalog key values).trans (if_pos hkey)
        simp [hresponse, hheld, hlisted, Response.found]
      · have hheld : ¬held := by
          rintro ⟨other, hother, hcontains⟩
          rw [hcatalog] at hother
          exact hkey (Option.some.inj hother ▸ hcontains)
        have hresponse : response = .noKey key :=
          (rendering_of_catalog? hcatalog key values).trans (if_neg hkey)
        simp [hresponse, hheld, Response.noKey]
  · intro query
    have hentry : Status.toJson = fun status => .object [
        ("locale", .string status.locale),
        ("ready", .bool status.ready),
        ("messages", .number (.integer status.messages)),
        ("warnings", .number (.integer status.warnings)),
        ("error", (status.error.map Json.Value.string).getD .null)] := by
      funext status
      unfold Status.toJson
      cases status.error <;> rfl
    rw [get, hentry]
  · unfold statuses
    rw [List.map_map]
    rfl
  · intro status hstatus
    obtain ⟨outcome, houtcome, rfl⟩ := List.mem_map.1 hstatus
    exact Status.agrees_ofOutcome hwell houtcome

/-- A shelf with a dictionary under a normal form, a locale that failed, and one that was put there
under another spelling. A message of the first is asked for under a spelling that is not listed. -/
theorem reachable_is_served_respelled :
    let memory : Memory := ⟨KeyMap.ofList [("en", "\x7b\"hi\": [\"Hi,\", \"#$name\"]\x7d")]⟩
    let loaded := ((Shelf.load memory.fetch [1, 0] ["EN", "fr"]).run Attempts.none).1
    let shelf := loaded.insert "De-at" KeyMap.empty
    let values := Substitution.ofPairs [("name", "Eve")]
    shelf.Reachable ∧
      rendering shelf " en-GB" "hi" values = .found "en" "hi" "Hi, Eve" ∧
      "en" ∈ shelf.locales ∧
      rendering shelf "FR" "hi" values = .noLocale "FR" ∧
      rendering shelf "DE" "hi" values = .noKey "hi" ∧
      (statuses shelf).map (fun s => (s.locale, s.ready, s.messages, s.error))
        = [("en", true, 1, none), ("fr", false, 0, some "Dictionary not found: memory:fr.json"),
          ("de", true, 0, none)] ∧
      ∀ status ∈ statuses shelf, status.Agrees shelf := by
  intro memory loaded shelf values
  have hreach : shelf.Reachable :=
    (Shelf.Reachable.load memory.fetch [1, 0] ["EN", "fr"] Attempts.none).insert "De-at"
      KeyMap.empty
  obtain ⟨hanswers, -, -, hagrees⟩ := reachable_is_served hreach
  obtain ⟨-, hfound, -⟩ := hanswers " en-GB" "hi" values
  obtain ⟨hresponse, hlisted⟩ := hfound (by decide +kernel)
  obtain ⟨-, -, -, habsent, -⟩ := hanswers "FR" "hi" values
  obtain ⟨-, -, -, -, hkeyless⟩ := hanswers "DE" "hi" values
  have hlocale : Locale.normalize " en-GB" = "en" := by decide +kernel
  have hrendered : shelf.render " en-GB" "hi" values = "Hi, Eve" := by decide +kernel
  rw [hlocale, hrendered] at hresponse
  rw [hlocale] at hlisted
  refine ⟨hreach, hresponse, hlisted, habsent (by decide +kernel),
    hkeyless (by decide +kernel) ?_, by decide +kernel, hagrees⟩
  rintro ⟨catalog, hcatalog, hcontains⟩
  have hempty : shelf.catalog? "DE" = some KeyMap.empty := by decide +kernel
  rw [hempty] at hcatalog
  rw [← Option.some.inj hcatalog] at hcontains
  cases hcontains

end Web

end Phrasebook
