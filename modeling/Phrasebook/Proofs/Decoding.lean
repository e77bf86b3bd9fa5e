import Phrasebook.Proofs.CharacterBytes
import Phrasebook.Text.Utf16

/-!
# Texts and their bytes

Both readings of bytes give a text back from its own bytes, and no other bytes are read as a text by
the strict one (`decode_eq_ok_iff`). What the forgiving reading makes of other bytes is said without
it: `Mends` takes characters off the front as long as one is there, and where none is, it puts a
replacement character for the longest part that still begins one. `mends_iff` says that the reading
is this relation. `Begun` carries both proofs: the bytes that have been read of a pending character
begin some character and complete none.
-/

set_option autoImplicit false

namespace Phrasebook.Text.Utf8

/-- The bytes of a text, as the standard library gives them. -/
def bytesOf (text : String) : List UInt8 := text.toList.flatMap String.utf8EncodeChar

variable {c : Char} {b : UInt8} {bytes read : List UInt8} {p q : Pending}

/-! ## Pending characters -/

/-- Some bytes of a character have been read, and the character is still pending. -/
inductive Begun : List UInt8 → Pending → Prop
  | first {b : UInt8} {p : Pending} (h : start b = .more p) : Begun [b] p
  | more {read : List UInt8} {p q : Pending} {b : UInt8} (hread : Begun read p)
      (h : p.step b = .more q) : Begun (read ++ [b]) q

/-- Bytes behind those that were read complete the character when they complete what is pending. -/
theorem Begun.read?_append (h : Begun read p) (bytes : List UInt8) :
    Utf8.read? (read ++ bytes) = p.read? bytes := by
  induction h generalizing bytes with
  | first h => simp only [List.singleton_append, Utf8.read?, h]
  | @more read p q b _ h ih =>
    rw [List.append_assoc, List.singleton_append, ih, Pending.read?, h]

/-- The byte that completes the character leaves the bytes of that character behind. -/
theorem Begun.append_eq (hread : Begun read p) (h : p.step b = .char c) :
    read ++ [b] = String.utf8EncodeChar c := by
  rw [← read?_eq_some_iff, hread.read?_append, Pending.read?, h]
  rfl

/-- No front of the bytes that have been read is a character. -/
theorem Begun.read?_prefix (h : Begun read p) {front : List UInt8} (hfront : front <+: read) :
    Utf8.read? front = none := by
  induction h with
  | first h =>
    rcases List.prefix_cons_iff.1 hfront with rfl | ⟨rest, rfl, hrest⟩
    · rfl
    · rw [List.prefix_nil.1 hrest, Utf8.read?, h]
      rfl
  | @more read p q b hread h ih =>
    rcases List.prefix_concat_iff.1 hfront with rfl | hshort
    · rw [hread.read?_append, Pending.read?, h]
      rfl
    · exact ih hshort

/-- There is a byte that a pending character goes on with. -/
structure Pending.Open (p : Pending) : Prop where
  wanted : 1 ≤ p.wanted
  low : p.low ≤ p.high
  high : p.high < 256

/-- A first byte leaves a character open of which one byte is used. -/
theorem open_of_start (h : start b = .more p) : p.Open ∧ p.used = 1 := by
  by_cases h₁ : b.toNat < 0x80
  · rw [start_one h₁] at h
    cases h
  by_cases h₂ : 0xC2 ≤ b.toNat ∧ b.toNat ≤ 0xDF
  · rw [start_two h₂.1 h₂.2] at h
    cases h
    exact ⟨⟨by dsimp only; omega, by dsimp only; omega, by dsimp only; omega⟩, rfl⟩
  by_cases h₃ : 0xE0 ≤ b.toNat ∧ b.toNat ≤ 0xEF
  · rw [start_three h₃.1 h₃.2] at h
    cases h
    exact ⟨⟨by dsimp only; omega, by dsimp only; split <;> split <;> omega,
      by dsimp only; split <;> omega⟩, rfl⟩
  by_cases h₄ : 0xF0 ≤ b.toNat ∧ b.toNat ≤ 0xF4
  · rw [start_four h₄.1 h₄.2] at h
    cases h
    exact ⟨⟨by dsimp only; omega, by dsimp only; split <;> split <;> omega,
      by dsimp only; split <;> omega⟩, rfl⟩
  · rw [start_other (by omega)] at h
    cases h

/-- A character stays open behind a byte when two were wanted. -/
theorem Pending.open_next (b : UInt8) (h : 2 ≤ p.wanted) : (p.next b).Open where
  wanted := by dsimp only [next]; omega
  low := by dsimp only [next]; omega
  high := by dsimp only [next]; omega

/-- A byte that leaves the character pending is not the last one. -/
theorem Pending.step_eq_more (h : p.step b = .more q) : q = p.next b ∧ p.wanted ≠ 1 := by
  unfold step at h
  unfold next
  grind

/-- A character that has begun is open. -/
theorem Begun.isOpen (h : Begun read p) : p.Open := by
  induction h with
  | first h => exact (open_of_start h).1
  | @more read p q b hread h ih =>
    obtain ⟨rfl, hwanted⟩ := Pending.step_eq_more h
    have hmore : 1 ≤ p.wanted := ih.wanted
    exact Pending.open_next b (by omega)

/-- There is a byte that an open character can go on with. -/
theorem Pending.Open.exists_byte (h : p.Open) :
    ∃ b : UInt8, p.low ≤ b.toNat ∧ b.toNat ≤ p.high := by
  have hlow : p.low ≤ p.high := h.low
  have hhigh : p.high < 256 := h.high
  obtain ⟨b, hb⟩ := exists_toNat (n := p.low) (by omega)
  exact ⟨b, by omega, by omega⟩

/-- Every pending character can be completed. -/
theorem Pending.Open.exists_read? (h : p.Open) : ∃ bytes c, p.read? bytes = some c := by
  have hwanted : 1 ≤ p.wanted := h.wanted
  obtain ⟨b, hb⟩ := h.exists_byte
  induction hn : p.wanted - 1 generalizing p b with
  | zero => exact ⟨[b], _, (read?_one (by omega)).2 ⟨b, rfl, hb, rfl⟩⟩
  | succ n ih =>
    have hopen : (p.next b).Open := open_next b (by omega)
    have hnext : (p.next b).wanted - 1 = n := by
      dsimp only [next]
      omega
    obtain ⟨b', hb'⟩ := hopen.exists_byte
    obtain ⟨rest, c, hrest⟩ := ih hopen hopen.wanted b' hb' hnext
    exact ⟨b :: rest, c, (read?_more (by omega)).2 ⟨b, rest, rfl, hb, hrest⟩⟩

/-! ## The strict reading -/

/-- The strict reading takes the rest of a pending character and goes on behind it. -/
theorem decodeFrom_of_read? (h : p.read? bytes = some c) (index : Nat) (rest : List UInt8) :
    decodeFrom index (some p) (bytes ++ rest)
      = (decodeFrom (index + p.used + bytes.length) none rest).map (c :: ·) := by
  induction bytes generalizing p with
  | nil => cases h
  | cons b bytes ih =>
    rw [List.cons_append, decodeFrom]
    rcases Pending.step_of_read?_cons h with ⟨rfl, hstep⟩ | ⟨q, hstep, hq⟩
    · rw [hstep]
      rfl
    · rw [hstep]
      have hused : q.used = p.used + 1 := by rw [(Pending.step_eq_more hstep).1]; rfl
      have hindex : index + q.used + bytes.length = index + p.used + (b :: bytes).length := by
        rw [hused, List.length_cons]
        omega
      rw [← hindex]
      exact ih hq

/-- The strict reading takes the bytes of a character and goes on behind them. -/
theorem decodeFrom_utf8EncodeChar (c : Char) (index : Nat) (rest : List UInt8) :
    decodeFrom index none (String.utf8EncodeChar c ++ rest)
      = (decodeFrom (index + (String.utf8EncodeChar c).length) none rest).map (c :: ·) := by
  obtain ⟨b, bytes, hbytes, hstart⟩ := exists_start c
  rw [hbytes, List.cons_append, decodeFrom]
  rcases hstart with ⟨rfl, hstart⟩ | ⟨p, hstart, hread⟩
  · rw [hstart]
    rfl
  · rw [hstart]
    have hused : p.used = 1 := (open_of_start hstart).2
    have hindex : index + p.used + bytes.length = index + (b :: bytes).length := by
      rw [hused, List.length_cons]
      omega
    rw [← hindex]
    exact decodeFrom_of_read? hread index rest

/-- The strict reading gives characters back from their bytes. -/
theorem decodeFrom_flatMap (s : List Char) (index : Nat) :
    decodeFrom index none (s.flatMap String.utf8EncodeChar) = .ok s := by
  induction s generalizing index with
  | nil => rfl
  | cons c s ih =>
    rw [List.flatMap_cons, decodeFrom_utf8EncodeChar, ih]
    rfl

/-- A reading that puts a character in front has succeeded with the rest. -/
theorem exists_of_map_cons {e : Except Fault (List Char)} {s : List Char}
    (h : e.map (c :: ·) = .ok s) : ∃ rest, e = .ok rest ∧ s = c :: rest := by
  cases e with
  | error fault => cases h
  | ok rest =>
    cases h
    exact ⟨rest, rfl, rfl⟩

/-- What is read as a text is its bytes, behind those of a character that has begun as well. -/
theorem eq_flatMap_of_decodeFrom (bytes : List UInt8) :
    (∀ index s, decodeFrom index none bytes = .ok s → bytes = s.flatMap String.utf8EncodeChar) ∧
      ∀ index s read p, Begun read p → decodeFrom index (some p) bytes = .ok s →
        read ++ bytes = s.flatMap String.utf8EncodeChar := by
  induction bytes with
  | nil =>
    constructor
    · intro index s h
      cases h
      rfl
    · intro index s read p _ h
      cases h
  | cons b bytes ih =>
    constructor
    · intro index s h
      rw [decodeFrom] at h
      cases hstart : start b with
      | char c =>
        rw [hstart] at h
        obtain ⟨rest, hrest, rfl⟩ := exists_of_map_cons h
        rw [List.flatMap_cons, ← eq_utf8EncodeChar_of_start hstart, ← ih.1 _ _ hrest]
        rfl
      | more p =>
        rw [hstart] at h
        exact ih.2 _ _ _ _ (.first hstart) h
      | invalid =>
        rw [hstart] at h
        cases h
    · intro index s read p hread h
      rw [decodeFrom] at h
      cases hstep : p.step b with
      | char c =>
        rw [hstep] at h
        obtain ⟨rest, hrest, rfl⟩ := exists_of_map_cons h
        rw [List.flatMap_cons, ← hread.append_eq hstep, ← ih.1 _ _ hrest, List.append_assoc]
        rfl
      | more q =>
        rw [hstep] at h
        have hq := ih.2 _ _ _ _ (.more hread hstep) h
        rwa [List.append_assoc] at hq
      | invalid =>
        rw [hstep] at h
        cases h

/-- The strict reading gives a text for the bytes of that text and for no others. -/
theorem decode_eq_ok_iff {s : List Char} :
    decode bytes = .ok s ↔ bytes = s.flatMap String.utf8EncodeChar := by
  constructor
  · exact (eq_flatMap_of_decodeFrom bytes).1 0 s
  · rintro rfl
    exact decodeFrom_flatMap s 0

/-- The strict reading gives a text back from its bytes. -/
theorem decode_bytesOf (text : String) : decode (bytesOf text) = .ok text.toList :=
  decode_eq_ok_iff.2 rfl

/-- The strict reading finds a fault in the bytes of no text. -/
theorem forall_ne_bytesOf_iff :
    (∀ text, bytes ≠ bytesOf text) ↔ ∃ fault, decode bytes = .error fault := by
  constructor
  · intro h
    cases hdecode : decode bytes with
    | error fault => exact ⟨fault, rfl⟩
    | ok chars =>
      refine absurd ?_ (h (String.ofList chars))
      rw [decode_eq_ok_iff.1 hdecode, bytesOf, String.toList_ofList]
  · rintro ⟨fault, hfault⟩ text rfl
    rw [decode_bytesOf] at hfault
    cases hfault

/-! ## The forgiving reading -/

/-- The forgiving reading takes the rest of a pending character and goes on behind it. -/
theorem decodeLossyFrom_of_read? (h : p.read? bytes = some c) (rest : List UInt8) :
    decodeLossyFrom (some p) (bytes ++ rest) = c :: decodeLossy rest := by
  induction bytes generalizing p with
  | nil => cases h
  | cons b bytes ih =>
    rw [List.cons_append, decodeLossyFrom]
    rcases Pending.step_of_read?_cons h with ⟨rfl, hstep⟩ | ⟨q, hstep, hq⟩
    · rw [hstep]
      rfl
    · rw [hstep]
      exact ih hq

/-- The forgiving reading takes the bytes of a character and goes on behind them. -/
theorem decodeLossy_utf8EncodeChar (c : Char) (rest : List UInt8) :
    decodeLossy (String.utf8EncodeChar c ++ rest) = c :: decodeLossy rest := by
  obtain ⟨b, bytes, hbytes, hstart⟩ := exists_start c
  rw [hbytes, List.cons_append, decodeLossy, decodeLossyFrom]
  rcases hstart with ⟨rfl, hstart⟩ | ⟨p, hstart, hread⟩
  · rw [hstart]
    rfl
  · rw [hstart]
    exact decodeLossyFrom_of_read? hread rest

/-- The forgiving reading gives characters back from their bytes. -/
theorem decodeLossy_flatMap (s : List Char) :
    decodeLossy (s.flatMap String.utf8EncodeChar) = s := by
  induction s with
  | nil => rfl
  | cons c s ih => rw [List.flatMap_cons, decodeLossy_utf8EncodeChar, ih]

/-! ## Faults -/

/-- Some bytes that no character is at the front of, cut behind the longest part of them that still
begins a character, or behind their first byte if not even that begins one. -/
structure IsFault (part rest : List UInt8) : Prop where
  nonempty : part ≠ []
  begins : part.length = 1 ∨ ∃ c, part <+: String.utf8EncodeChar c
  longest : ∀ front c, front <+: part ++ rest → front <+: String.utf8EncodeChar c →
    front.length ≤ part.length
  noChar : ∀ c, ¬ String.utf8EncodeChar c <+: part ++ rest

/-- There is one place to cut. -/
theorem IsFault.unique {part rest part' rest' : List UInt8} (h : IsFault part rest)
    (h' : IsFault part' rest') (heq : part ++ rest = part' ++ rest') :
    part = part' ∧ rest = rest' := by
  have hle : ∀ {part rest part' rest' : List UInt8}, IsFault part rest → IsFault part' rest' →
      part ++ rest = part' ++ rest' → part.length ≤ part'.length := by
    intro part rest part' rest' h h' heq
    rcases h.begins with hone | ⟨c, hc⟩
    · have := List.length_pos_iff.2 h'.nonempty
      omega
    · exact h'.longest part c (heq ▸ List.prefix_append part rest) hc
  exact List.append_inj heq (Nat.le_antisymm (hle h h' heq) (hle h' h heq.symm))

/-- The reading of the bytes with a replacement character for each fault, without a reader. -/
inductive Mends : List UInt8 → List Char → Prop
  | nil : Mends [] []
  | char (c : Char) {rest : List UInt8} {text : List Char} (h : Mends rest text) :
      Mends (String.utf8EncodeChar c ++ rest) (c :: text)
  | fault {part rest : List UInt8} {text : List Char} (hfault : IsFault part rest)
      (h : Mends rest text) : Mends (part ++ rest) (replacement :: text)

/-- A byte that no character starts with is a fault by itself. -/
theorem isFault_of_start {rest : List UInt8} (h : start b = .invalid) : IsFault [b] rest := by
  have hnot : ∀ c more, String.utf8EncodeChar c ≠ b :: more := by
    intro c more heq
    have hread : read? (b :: more) = some c := read?_eq_some_iff.2 heq.symm
    rw [read?, h] at hread
    cases hread
  refine ⟨List.cons_ne_nil _ _, Or.inl rfl, ?_, ?_⟩
  · intro front c hfront hc
    rcases List.prefix_cons_iff.1 hfront with rfl | ⟨more, rfl, -⟩
    · exact Nat.zero_le _
    · obtain ⟨tail, htail⟩ := hc
      exact absurd htail.symm (hnot c _)
  · intro c hc
    rcases List.prefix_cons_iff.1 hc with hnil | ⟨more, heq, -⟩
    · exact utf8EncodeChar_ne_nil c hnil
    · exact hnot c more heq

/-- A character that has begun is a fault if the next byte, if any, does not go on with it. -/
theorem Begun.isFault (hread : Begun read p) {rest : List UInt8}
    (h : ∀ next ∈ rest.head?, p.step next = .invalid) : IsFault read rest := by
  have hlongest : ∀ front c, front <+: read ++ rest → front <+: String.utf8EncodeChar c →
      front.length ≤ read.length := by
    intro front c hfront hc
    by_contra hlong
    obtain ⟨more, rfl⟩ : read <+: front :=
      List.prefix_of_prefix_length_le (List.prefix_append read rest) hfront (by omega)
    obtain ⟨tail, htail⟩ := hc
    rcases (List.prefix_append_right_inj read).1 hfront with ⟨left, rfl⟩
    cases more with
    | nil => simp at hlong
    | cons next more =>
      have hc := read?_utf8EncodeChar c
      rw [← htail, List.append_assoc, hread.read?_append, List.cons_append, Pending.read?,
        h next rfl] at hc
      cases hc
  obtain ⟨tail, c, htail⟩ := hread.isOpen.exists_read?
  have hc : read ++ tail = String.utf8EncodeChar c := by
    rw [← read?_eq_some_iff, hread.read?_append]
    exact htail
  refine ⟨?_, Or.inr ⟨c, tail, hc⟩, hlongest, ?_⟩
  · cases hread <;> simp
  · intro c hc
    have hshort := hlongest _ c hc List.prefix_rfl
    have hfront : String.utf8EncodeChar c <+: read :=
      List.prefix_of_prefix_length_le hc (List.prefix_append read rest) hshort
    have hnone := hread.read?_prefix hfront
    rw [read?_utf8EncodeChar] at hnone
    cases hnone

/-- The first step of the reading takes a character or a fault, behind a character that has begun as
well. -/
theorem mends_decodeLossyFrom (bytes : List UInt8) :
    Mends bytes (decodeLossy bytes) ∧
      ∀ read p, Begun read p → Mends (read ++ bytes) (decodeLossyFrom (some p) bytes) := by
  induction bytes with
  | nil =>
    refine ⟨.nil, fun read p hread => ?_⟩
    exact .fault (hread.isFault (by simp)) .nil
  | cons b bytes ih =>
    have hnone : Mends (b :: bytes) (decodeLossy (b :: bytes)) := by
      rw [decodeLossy, decodeLossyFrom]
      cases hstart : start b with
      | char c =>
        have h : Mends ([b] ++ bytes) (c :: decodeLossy bytes) :=
          eq_utf8EncodeChar_of_start hstart ▸ Mends.char c ih.1
        exact h
      | more p => exact ih.2 [b] p (.first hstart)
      | invalid => exact Mends.fault (isFault_of_start hstart) ih.1
    refine ⟨hnone, fun read p hread => ?_⟩
    cases hstep : p.step b with
    | char c =>
      rw [decodeLossyFrom, hstep, ← List.singleton_append, ← List.append_assoc,
        hread.append_eq hstep]
      exact .char c ih.1
    | more q =>
      rw [decodeLossyFrom, hstep, ← List.singleton_append, ← List.append_assoc]
      exact ih.2 _ q (.more hread hstep)
    | invalid =>
      -- the byte that showed the fault is read once more, as a first byte
      have hagain : decodeLossyFrom (some p) (b :: bytes)
          = replacement :: decodeLossy (b :: bytes) := by
        rw [decodeLossyFrom, hstep]
        rfl
      rw [hagain]
      exact .fault (hread.isFault (by simpa using hstep)) hnone

/-- Bytes are mended in one way only. -/
theorem Mends.unique {text text' : List Char} (h : Mends bytes text) :
    ∀ {bytes'}, Mends bytes' text' → bytes = bytes' → text = text' := by
  induction h generalizing text' with
  | nil =>
    intro bytes' h' heq
    cases h' with
    | nil => rfl
    | char c _ => exact absurd (List.append_eq_nil_iff.1 heq.symm).1 (utf8EncodeChar_ne_nil c)
    | fault hfault _ => exact absurd (List.append_eq_nil_iff.1 heq.symm).1 hfault.nonempty
  | @char c rest text _ ih =>
    intro bytes' h' heq
    cases h' with
    | nil => exact absurd (List.append_eq_nil_iff.1 heq).1 (utf8EncodeChar_ne_nil c)
    | @char c' rest' text' h' =>
      have hread := congrArg decodeLossy heq
      rw [decodeLossy_utf8EncodeChar, decodeLossy_utf8EncodeChar] at hread
      obtain rfl : c = c' := (List.cons.inj hread).1
      rw [ih h' (List.append_cancel_left heq)]
    | fault hfault _ => exact absurd ⟨rest, heq⟩ (hfault.noChar c)
  | @fault part rest text hfault _ ih =>
    intro bytes' h' heq
    cases h' with
    | nil => exact absurd (List.append_eq_nil_iff.1 heq).1 hfault.nonempty
    | @char c rest' text' _ => exact absurd ⟨rest', heq.symm⟩ (hfault.noChar c)
    | fault hfault' h' => rw [ih h' (hfault.unique hfault' heq).2]

/-- The forgiving reading puts a replacement character for each fault and changes nothing else. -/
theorem mends_iff {text : List Char} : Mends bytes text ↔ text = decodeLossy bytes := by
  constructor
  · intro h
    exact h.unique (mends_decodeLossyFrom bytes).1 rfl
  · rintro rfl
    exact (mends_decodeLossyFrom bytes).1

end Phrasebook.Text.Utf8
