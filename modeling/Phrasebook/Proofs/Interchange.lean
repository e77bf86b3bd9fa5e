import Phrasebook.Proofs.Decoding
import Phrasebook.Proofs.SafeNames
import Phrasebook.Proofs.WideCharacters
import Phrasebook.Source.Memory

/-!
# Sources are interchangeable

The same text loads as the same draft from memory, from a directory and from a server, but for the
mark at its front: a server drops it, and the other two leave it to the reader of the document, who
refuses it. The sources differ on bytes that are no text. A directory fails on them. A server puts
replacement characters where the faults are (`Text.Utf8.Mends`). All this holds of a server that
does not announce another encoding, by a mark of UTF-16 or, where there is no mark, by a charset in
the content type (`Charsets.NamesNoOther`): those it follows. Each source comes down to what it
answers with (`loadFrom_of_answer`); what remains are the two readings of bytes.
-/

set_option autoImplicit false

namespace Phrasebook

/-! ## Marks -/

namespace Text

open Utf8

/-- The mark of UTF-8. -/
def utf8Mark : List UInt8 := [0xEF, 0xBB, 0xBF]

/-- The mark of UTF-16, in either order. -/
def utf16Mark (bigEndian : Bool) : List UInt8 := if bigEndian then [0xFE, 0xFF] else [0xFF, 0xFE]

/-- The bytes start with a mark of UTF-16. -/
def AnnouncesUtf16 (bytes : List UInt8) : Prop := ∃ bigEndian, utf16Mark bigEndian <+: bytes

/-- The bytes behind the mark of UTF-8, which may be missing. -/
def withoutMark : List UInt8 → List UInt8
  | 0xEF :: 0xBB :: 0xBF :: rest => rest
  | bytes => bytes

/-- The type names a charset that is known, and this is its encoding. -/
def Charsets.Names (charsets : Charsets) (type : Option String) (encoding : Encoding) : Prop :=
  ∃ value label, type = some value ∧ charsets.label? value = some label ∧
    charsets.encoding? label = some encoding

/-- The type names no charset, one that is not known, or UTF-8. -/
def Charsets.NamesNoOther (charsets : Charsets) (type : Option String) : Prop :=
  ∀ encoding, charsets.Names type encoding → encoding = .utf8

variable {bytes : List UInt8} {text : String} {encoding : Encoding}
variable {charsets : Charsets} {type : Option String}

/-- The encoding of a charset that is named is followed. -/
theorem Charsets.Names.encodingOf_eq (h : charsets.Names type encoding) :
    charsets.encodingOf type = encoding := by
  obtain ⟨value, label, rfl, hlabel, hencoding⟩ := h
  rw [Charsets.encodingOf, Option.bind_some, hlabel, Option.bind_some, hencoding, Option.getD_some]

/-- A type that names no other charset leaves documents in UTF-8. -/
theorem Charsets.NamesNoOther.encodingOf_eq (h : charsets.NamesNoOther type) :
    charsets.encodingOf type = .utf8 := by
  unfold Charsets.encodingOf
  cases hnamed : (type.bind charsets.label?).bind charsets.encoding? with
  | none => rfl
  | some encoding =>
    obtain ⟨label, hlabel, hencoding⟩ := Option.bind_eq_some_iff.1 hnamed
    obtain ⟨value, hvalue, hnames⟩ := Option.bind_eq_some_iff.1 hlabel
    exact h encoding ⟨value, label, hvalue, hnames, hencoding⟩

/-- Bytes without a mark are read in the encoding that they are said to be in. -/
theorem decodeAnnounced_of_unmarked (hutf8 : ¬utf8Mark <+: bytes) (hutf16 : ¬AnnouncesUtf16 bytes) :
    decodeAnnounced encoding bytes = encoding.decode bytes := by
  unfold decodeAnnounced
  split
  · exact absurd ⟨_, rfl⟩ hutf8
  · exact absurd ⟨false, _, rfl⟩ hutf16
  · exact absurd ⟨true, _, rfl⟩ hutf16
  · rfl

/-- The mark of UTF-8 is dropped from the front of bytes in UTF-8. It makes them that. -/
theorem decodeAnnounced_of_not_announcesUtf16 (hutf16 : ¬AnnouncesUtf16 bytes)
    (hutf8 : encoding = .utf8 ∨ utf8Mark <+: bytes) :
    decodeAnnounced encoding bytes = decodeLossy (withoutMark bytes) := by
  by_cases hmark : utf8Mark <+: bytes
  · obtain ⟨rest, rfl⟩ := hmark
    rfl
  · obtain rfl := hutf8.resolve_right hmark
    have hplain : withoutMark bytes = bytes := by
      unfold withoutMark
      split
      · exact absurd ⟨_, rfl⟩ hmark
      · rfl
    rw [decodeAnnounced_of_unmarked hmark hutf16, hplain]
    rfl

/-- A text does not start with a byte that no character starts with. -/
theorem head?_bytesOf_ne {b : UInt8} (hb : start b = .invalid) (text : String) :
    (bytesOf text).head? ≠ some b := by
  intro hhead
  obtain ⟨rest, hrest⟩ := List.head?_eq_some_iff.1 hhead
  have hdecode : decode (bytesOf text) = .ok text.toList := decode_bytesOf text
  rw [hrest, decode, decodeFrom, hb] at hdecode
  cases hdecode

/-- No text has bytes that announce UTF-16. -/
theorem not_announcesUtf16_bytesOf (text : String) : ¬AnnouncesUtf16 (bytesOf text) := by
  rintro ⟨bigEndian, rest, hrest⟩
  have hinvalid : start (utf16Mark bigEndian).head! = .invalid := by
    cases bigEndian <;> decide
  apply head?_bytesOf_ne hinvalid text
  rw [← hrest]
  cases bigEndian <;> rfl

/-- What is behind a mark of UTF-16 is read as UTF-16. -/
theorem decodeAnnounced_utf16Mark (bigEndian : Bool) (rest : List UInt8) :
    decodeAnnounced encoding (utf16Mark bigEndian ++ rest) = decodeUtf16 bigEndian rest := by
  cases bigEndian <;> rfl

/-- The mark in front of a text is that of UTF-8 in its bytes. -/
theorem bytesOf_mark_append (rest : String) :
    bytesOf ("\uFEFF" ++ rest) = 0xEF :: 0xBB :: 0xBF :: bytesOf rest := by
  unfold bytesOf
  rw [String.toList_append, List.flatMap_append]
  rfl

/-- A text without a mark has bytes without one. -/
theorem withoutMark_bytesOf (h : text.toList.head? ≠ some '\uFEFF') :
    withoutMark (bytesOf text) = bytesOf text := by
  unfold withoutMark
  split
  · next rest hrest =>
    have hread : decodeLossy (bytesOf text) = text.toList := decodeLossy_flatMap _
    have hmark : bytesOf text = String.utf8EncodeChar '\uFEFF' ++ rest := hrest
    rw [hmark, decodeLossy_utf8EncodeChar] at hread
    exact absurd (by rw [← hread]; rfl) h
  · rfl

/-- A text without a mark is read back from its bytes. -/
theorem decodeAnnounced_bytesOf (h : text.toList.head? ≠ some '\uFEFF') :
    decodeAnnounced .utf8 (bytesOf text) = text.toList := by
  rw [decodeAnnounced_of_not_announcesUtf16 (not_announcesUtf16_bytesOf text) (.inl rfl),
    withoutMark_bytesOf h]
  exact decodeLossy_flatMap _

/-- One mark is dropped, whatever the text behind it starts with. -/
theorem decodeAnnounced_bytesOf_mark (rest : String) :
    decodeAnnounced encoding (bytesOf ("\uFEFF" ++ rest)) = rest.toList := by
  rw [bytesOf_mark_append]
  exact decodeLossy_flatMap _

end Text

/-! ## Loading from a source -/

section Holds

variable {σ : Type}

/-- The file of the locale can be read and has the bytes, and the directory is said to be in
UTF-8. -/
structure Directory.Holds (read : String → StateM σ (Except ReadFailure (List UInt8)))
    (d : Directory) (s : σ) (locale : String) (bytes : List UInt8) : Prop where
  encoding : isUtf8Label d.encoding = true
  file : ((read (d.pathFor locale)).run s).1 = .ok bytes

/-- The server answers a request for the locale with the bytes, which it gives that type. -/
def Remote.Holds (get : String → StateM σ (Option Reply)) (remote : Remote) (s : σ)
    (locale : String) (type : Option String) (bytes : List UInt8) : Prop :=
  ((get (remote.urlFor locale)).run s).1 = some ⟨200, type, some bytes⟩

end Holds

namespace Draft

open Text Utf8

variable {σ : Type} {s : σ} {locale : String} {bytes : List UInt8} {text : String}
variable {read : String → StateM σ (Except ReadFailure (List UInt8))} {d : Directory}
variable {get : String → StateM σ (Option Reply)} {remote : Remote} {type : Option String}

/-- What loading a locale from a source comes to. -/
def loadFrom (fetch : String → StateM σ Answer) (s : σ) (locale : String) :
    Except LoadError Draft :=
  (((load locale).run fetch).run s).1

/-- What loading comes to is what is made of the answer of the source. -/
theorem loadFrom_of_answer (hlocale : Locale.IsFileName locale) {answer : Answer}
    (fetch : String → StateM σ Answer) (s : σ) (h : ((fetch locale).run s).1 = answer) :
    loadFrom fetch s locale = answer.bind ofText := by
  rw [loadFrom, run_load_of_isFileName hlocale, h]

/-- A text that is kept in memory is read as it is. -/
theorem loadFrom_memory (hlocale : Locale.IsFileName locale) {memory : Memory}
    (attempts : Attempts) (h : memory.texts.get? locale = some text) :
    loadFrom memory.fetch attempts locale = ofText text := by
  have hanswer : memory.answer locale = .ok text := by rw [Memory.answer, h]
  rw [loadFrom_of_answer hlocale memory.fetch attempts hanswer]
  rfl

/-- The bytes of a file are read by the strict reading. -/
theorem loadFrom_directory (hlocale : Locale.IsFileName locale) (h : d.Holds read s locale bytes) :
    loadFrom (d.fetch read) s locale = (d.answer locale (.ok bytes)).bind ofText := by
  apply loadFrom_of_answer hlocale
  unfold Directory.fetch
  rw [if_pos h.encoding, ← h.file]
  rfl

/-- The bytes of a text load as the text does. -/
theorem loadFrom_directory_of_text (hlocale : Locale.IsFileName locale)
    (h : d.Holds read s locale (bytesOf text)) :
    loadFrom (d.fetch read) s locale = ofText text := by
  rw [loadFrom_directory hlocale h, Directory.answer, decode_bytesOf]
  show ofText (String.ofList text.toList) = ofText text
  rw [String.ofList_toList]

/-- Bytes of no text cannot be loaded from a file. -/
theorem loadFrom_directory_of_no_text (hlocale : Locale.IsFileName locale)
    (h : d.Holds read s locale bytes) (hbytes : ∀ text, bytes ≠ bytesOf text) :
    ∃ detail, loadFrom (d.fetch read) s locale = .error (.io detail) := by
  obtain ⟨fault, hfault⟩ := forall_ne_bytesOf_iff.1 hbytes
  rw [loadFrom_directory hlocale h, Directory.answer, hfault]
  exact ⟨_, rfl⟩

/-- The bytes of a reply are read in the encoding that is announced with them. -/
theorem loadFrom_remote (charsets : Charsets) (hlocale : Locale.IsFileName locale)
    (h : remote.Holds get s locale type bytes) :
    loadFrom (remote.fetch charsets get) s locale
      = ofText (String.ofList (decodeAnnounced (charsets.encodingOf type) bytes)) := by
  have hanswer : ((remote.fetch charsets get locale).run s).1
      = .ok (String.ofList (decodeAnnounced (charsets.encodingOf type) bytes)) := by
    show remote.answer charsets locale ((get (remote.urlFor locale)).run s).1 = _
    rw [h]
    rfl
  rw [loadFrom_of_answer hlocale _ s hanswer]
  rfl

/-- The reader of documents does not pass over a mark. -/
theorem ofText_mark (rest : String) :
    ∃ detail, ofText ("\uFEFF" ++ rest) = .error (.invalidJson detail) := by
  have hread : Json.Value.ofText? ("\uFEFF" ++ rest) = none := by
    unfold Json.Value.ofText? Json.Tree.ofText?
    rw [String.toList_append]
    rfl
  rw [ofText, hread]
  exact ⟨_, rfl⟩

/-! ## All sources -/

/-- A text loads as the same draft from memory, from a directory and from a server that names no
other charset, except that a server drops one mark from its front, which the other two refuse. A
server may also give the text in UTF-16 behind a mark. On bytes of no text a directory fails. A
server then reads on with a replacement character for each fault, behind the mark of UTF-8 if there
is one. Behind a mark of UTF-16 it reads UTF-16, and bytes without a mark it reads in the encoding
of the charset that it names. No bytes and no type make it fail before the document is read. -/
theorem sources_interchange (hlocale : Locale.check locale = .ok ()) (s : σ)
    (read : String → StateM σ (Except ReadFailure (List UInt8))) (d : Directory)
    (charsets : Charsets) (get : String → StateM σ (Option Reply)) (remote : Remote) :
    (∀ text,
      (∀ (memory : Memory) (attempts : Attempts), memory.texts.get? locale = some text →
        loadFrom memory.fetch attempts locale = ofText text) ∧
      (d.Holds read s locale (bytesOf text) →
        loadFrom (d.fetch read) s locale = ofText text) ∧
      (∀ type, remote.Holds get s locale type (bytesOf text) → charsets.NamesNoOther type →
        text.toList.head? ≠ some '\uFEFF' →
          loadFrom (remote.fetch charsets get) s locale = ofText text) ∧
      (∀ type bigEndian,
        remote.Holds get s locale type (utf16Mark bigEndian ++ wideBytesOf bigEndian text) →
          loadFrom (remote.fetch charsets get) s locale = ofText text) ∧
      (∀ rest, text = "\uFEFF" ++ rest →
        (∃ detail, ofText text = .error (.invalidJson detail)) ∧
        ∀ type, remote.Holds get s locale type (bytesOf text) →
          loadFrom (remote.fetch charsets get) s locale = ofText rest)) ∧
    (∀ bytes,
      ((∀ text, bytes ≠ bytesOf text) → d.Holds read s locale bytes →
        ∃ detail, loadFrom (d.fetch read) s locale = .error (.io detail)) ∧
      ∀ type, remote.Holds get s locale type bytes →
        (¬AnnouncesUtf16 bytes → charsets.NamesNoOther type ∨ utf8Mark <+: bytes →
          ∃ text : String, Mends (withoutMark bytes) text.toList ∧
            loadFrom (remote.fetch charsets get) s locale = ofText text) ∧
        (∀ bigEndian rest, bytes = utf16Mark bigEndian ++ rest →
          loadFrom (remote.fetch charsets get) s locale
            = ofText (String.ofList (decodeUtf16 bigEndian rest))) ∧
        (¬AnnouncesUtf16 bytes → ¬utf8Mark <+: bytes →
          (∀ bigEndian, charsets.Names type (.utf16 bigEndian) →
            loadFrom (remote.fetch charsets get) s locale
              = ofText (String.ofList (decodeUtf16 bigEndian bytes))) ∧
          ∀ older, charsets.Names type (.older older) →
            loadFrom (remote.fetch charsets get) s locale
              = ofText (String.ofList (older bytes))) ∧
        ∃ text, loadFrom (remote.fetch charsets get) s locale = ofText text) := by
  have hname : Locale.IsFileName locale := by
    by_contra hname
    obtain ⟨detail, hcheck⟩ := Locale.check_of_not_isFileName hname
    rw [hcheck] at hlocale
    cases hlocale
  refine ⟨fun text => ⟨?_, ?_, ?_, ?_, ?_⟩, fun bytes => ⟨?_, fun type h => ⟨?_, ?_, ?_, ?_⟩⟩⟩
  · intro memory attempts h
    exact loadFrom_memory hname attempts h
  · exact loadFrom_directory_of_text hname
  · intro type h hcharset hmark
    rw [loadFrom_remote charsets hname h, hcharset.encodingOf_eq, decodeAnnounced_bytesOf hmark,
      String.ofList_toList]
  · intro type bigEndian h
    rw [loadFrom_remote charsets hname h, decodeAnnounced_utf16Mark, decodeUtf16_wideBytesOf,
      String.ofList_toList]
  · rintro rest rfl
    refine ⟨ofText_mark rest, ?_⟩
    intro type h
    rw [loadFrom_remote charsets hname h, decodeAnnounced_bytesOf_mark, String.ofList_toList]
  · intro hbytes h
    exact loadFrom_directory_of_no_text hname h hbytes
  · intro hutf16 hutf8
    have hencoding : charsets.encodingOf type = .utf8 ∨ utf8Mark <+: bytes :=
      hutf8.imp_left Charsets.NamesNoOther.encodingOf_eq
    refine ⟨String.ofList (decodeLossy (withoutMark bytes)), ?_, ?_⟩
    · rw [String.toList_ofList]
      exact mends_iff.2 rfl
    · rw [loadFrom_remote charsets hname h, decodeAnnounced_of_not_announcesUtf16 hutf16 hencoding]
  · rintro bigEndian rest rfl
    rw [loadFrom_remote charsets hname h, decodeAnnounced_utf16Mark]
  · intro hutf16 hutf8
    have hload := loadFrom_remote charsets hname h
    rw [decodeAnnounced_of_unmarked hutf8 hutf16] at hload
    constructor
    · intro bigEndian hnames
      rw [hload, hnames.encodingOf_eq]
      rfl
    · intro older hnames
      rw [hload, hnames.encodingOf_eq]
      rfl
  · exact ⟨_, loadFrom_remote charsets hname h⟩

/-- An empty document behind a mark in all three places, without a mark and in UTF-16 on a server,
bytes with a character that is cut short, and a text whose bytes are said to be in a charset that
has a character for every byte. -/
theorem sources_interchange_marked :
    let plain := "\x7b\x7d"
    let marked := "\uFEFF" ++ plain
    let broken : List UInt8 := [0x7B, 0xE2, 0x82, 0x7D]
    let wide : List UInt8 := utf16Mark true ++ [0x00, 0x7B, 0x00, 0x7D]
    let memory : Memory := ⟨KeyMap.ofList [("en", marked)]⟩
    let read := fun (bytes : List UInt8) (path : String) =>
      (pure ((FileTree.ofList [("texts/en.json", some bytes)]).read path) :
        StateM Unit (Except ReadFailure (List UInt8)))
    let get := fun (type : Option String) (bytes : List UInt8) (_ : String) =>
      (pure (some ⟨200, type, some bytes⟩) : StateM Unit (Option Reply))
    let charsets : Charsets :=
      ⟨fun value => if value = "text/json; charset=latin1" then some "latin1"
        else if value = "text/json; charset=utf-8" then some "utf-8" else none,
       fun label => if label = "latin1" then
          some (.older fun bytes => bytes.map fun b => Char.ofNat b.toNat)
        else if label = "utf-8" then some .utf8 else none⟩
    let utf8 := some "text/json; charset=utf-8"
    let latin := some "text/json; charset=latin1"
    let directory : Directory := ⟨"texts", "UTF-8"⟩
    let remote : Remote := Remote.ofAddress "http://host/"
    let served := fun type bytes => loadFrom (remote.fetch charsets (get type bytes)) () "en"
    (loadFrom memory.fetch .none "en" = ofText marked ∧
      loadFrom (directory.fetch (read (bytesOf marked))) () "en" = ofText marked ∧
      ∃ detail, ofText marked = .error (.invalidJson detail)) ∧
    (served latin (bytesOf marked) = ofText plain ∧ served utf8 (bytesOf plain) = ofText plain ∧
      served none (bytesOf plain) = ofText plain ∧
      served latin wide = ofText plain ∧
      served latin (bytesOf "[\"é\"]") = ofText "[\"Ã©\"]" ∧ ofText plain = .ok KeyMap.empty) ∧
    ((∃ detail, loadFrom (directory.fetch (read broken)) () "en" = .error (.io detail)) ∧
      ∃ text : String, Mends broken text.toList ∧ served utf8 broken = ofText text) := by
  intro plain marked broken wide memory read get charsets utf8 latin directory remote served
  have hlocale : Locale.check "en" = .ok () := by decide
  have hall := fun type bytes =>
    sources_interchange hlocale () (read bytes) directory charsets (get type bytes) remote
  have hutf8 : charsets.NamesNoOther utf8 := by
    rintro encoding ⟨value, label, hvalue, hlabel, hencoding⟩
    obtain rfl := Option.some.inj hvalue
    obtain rfl : "utf-8" = label := Option.some.inj hlabel
    exact (Option.some.inj hencoding).symm
  have hnone : charsets.NamesNoOther none := by
    rintro encoding ⟨value, label, hvalue, -⟩
    cases hvalue
  have hnames : charsets.Names latin (.older fun bytes => bytes.map fun b => Char.ofNat b.toNat) :=
    ⟨"text/json; charset=latin1", "latin1", rfl, rfl, rfl⟩
  obtain ⟨hmemory, hdirectory, -, -, hmark⟩ := (hall latin (bytesOf marked)).1 marked
  obtain ⟨hrefused, hremote⟩ := hmark plain rfl
  obtain ⟨-, -, hplain, -⟩ := (hall utf8 (bytesOf plain)).1 plain
  obtain ⟨-, -, huntyped, -⟩ := (hall none (bytesOf plain)).1 plain
  obtain ⟨-, -, -, hwide, -⟩ := (hall latin wide).1 plain
  obtain ⟨-, -, hlatin, -⟩ := ((hall latin (bytesOf "[\"é\"]")).2 _).2 latin rfl
  obtain ⟨hio, hbroken⟩ := (hall utf8 broken).2 broken
  have hfault : decode broken = .error ⟨some 2, 1⟩ := by decide
  have hutf16 : ¬AnnouncesUtf16 broken := by
    rintro ⟨bigEndian, rest, hrest⟩
    cases bigEndian <;> exact absurd (List.cons.inj hrest).1 (by decide)
  have hunmarked : ¬utf8Mark <+: bytesOf "[\"é\"]" := by decide
  have hwideBytes : utf16Mark true ++ wideBytesOf true plain = wide := by decide +kernel
  have hwideHeld : remote.Holds (get latin wide) () "en" latin
      (utf16Mark true ++ wideBytesOf true plain) := by
    rw [hwideBytes]
    rfl
  refine ⟨⟨hmemory memory .none (by decide), ?_, hrefused⟩, ⟨hremote latin rfl,
    hplain utf8 rfl hutf8 (by decide), huntyped none rfl hnone (by decide),
    hwide latin true hwideHeld,
    ((hlatin (not_announcesUtf16_bytesOf _) hunmarked).2 _ hnames).trans (by decide +kernel),
    by decide +kernel⟩, ?_, (hbroken utf8 rfl).1 hutf16 (.inl hutf8)⟩
  · exact hdirectory ⟨by decide +kernel, by decide +kernel⟩
  · exact hio (forall_ne_bytesOf_iff.2 ⟨_, hfault⟩) ⟨by decide +kernel, by decide +kernel⟩

/-- Six bytes that are no text and announce UTF-16: they load as an empty draft, and their reading
with replacement characters is no document. And the bytes of a text that are said to be in another
charset: they load as another draft than the text. -/
theorem announced_encodings_are_followed :
    let wide : List UInt8 := [0xFF, 0xFE, 0x7B, 0x00, 0x7D, 0x00]
    let text := "\x7b\"a\":[\"é\"]\x7d"
    let charsets : Charsets :=
      ⟨fun value => if value = "text/json; charset=latin1" then some "latin1" else none,
       fun label => if label = "latin1" then
          some (.older fun bytes => bytes.map fun b => Char.ofNat b.toNat) else none⟩
    let latin := some "text/json; charset=latin1"
    let get := fun (type : Option String) (bytes : List UInt8) (_ : String) =>
      (pure (some ⟨200, type, some bytes⟩) : StateM Unit (Option Reply))
    let remote : Remote := Remote.ofAddress "http://host"
    let served := fun type bytes => loadFrom (remote.fetch charsets (get type bytes)) () "en"
    Locale.check "en" = .ok () ∧
      (remote.Holds (get none wide) () "en" none wide ∧ (∀ text, wide ≠ bytesOf text) ∧
        served none wide = .ok KeyMap.empty ∧
        ∀ text : String, Mends (withoutMark wide) text.toList → served none wide ≠ ofText text) ∧
      remote.Holds (get latin (bytesOf text)) () "en" latin (bytesOf text) ∧
        text.toList.head? ≠ some '\uFEFF' ∧
        served latin (bytesOf text) = ofText "\x7b\"a\":[\"Ã©\"]\x7d" ∧
        served latin (bytesOf text) ≠ ofText text := by
  intro wide text charsets latin get remote served
  have hload : served none wide = .ok KeyMap.empty := by decide +kernel
  have hfault : decode wide = .error ⟨some 1, 0⟩ := by decide
  refine ⟨by decide, ⟨rfl, forall_ne_bytesOf_iff.2 ⟨_, hfault⟩, hload, ?_⟩, rfl, by decide,
    by decide +kernel, by decide +kernel⟩
  intro text hmends heq
  have htext : text.toList = decodeLossy wide := mends_iff.1 hmends
  have hread : ofText (String.ofList (decodeLossy wide))
      = .error (.invalidJson "not a JSON document") := by decide +kernel
  rw [← htext, String.ofList_toList, ← heq, hload] at hread
  cases hread

end Draft

end Phrasebook
