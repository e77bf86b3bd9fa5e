import Phrasebook.Proofs.Documents
import Phrasebook.Proofs.Interchange

/-!
# What keeps a dictionary from loading

A dictionary in a directory is loaded in stages. The name is looked at first, then the label of the
encoding, then what reading the file comes to, then the bytes and the document. `Fault.IsIn` says
what each of the six faults is, whether or not loading gets as far as looking for it, and
`Draft.settles_loadFrom_directory` goes through the stages once. As no two faults are both the first
(`Fault.IsFirst.unique`), what a load reports and which fault is the first decide each other. In a
tree of files, reading a file of a directory is a walk to the directory and one step more
(`Directory.read_join_eq`), so every way to fail has its place among the stages.
-/

set_option autoImplicit false

namespace Phrasebook

open Json Text.Utf8

/-- No bytes are those of two texts. -/
theorem Text.Utf8.bytesOf_inj {text other : String} (h : bytesOf text = bytesOf other) :
    text = other := by
  have hchars : Except.ok text.toList = decode (bytesOf other) := h ▸ (decode_bytesOf text).symm
  rw [decode_bytesOf] at hchars
  exact String.toList_inj.1 (Except.ok.inj hchars)

/-! ## Faults and their order -/

/-- What can keep a dictionary in a directory from loading. -/
inductive Fault where
  /-- The name cannot be that of a file. -/
  | name
  /-- Texts in the encoding of the directory cannot be read. -/
  | encoding
  /-- There is no such file. -/
  | missing
  /-- The file cannot be read, or its bytes are no text. -/
  | unreadable
  /-- The text is no document. -/
  | document
  /-- The document is no object. -/
  | shape
  deriving DecidableEq

/-- The fault that a failure reports. What can go wrong with a server is no fault of a directory. -/
def LoadError.fault? : LoadError → Option Fault
  | invalidLocale _ => some .name
  | unsupportedEncoding _ => some .encoding
  | notFound _ => some .missing
  | io _ => some .unreadable
  | invalidJson _ => some .document
  | invalidShape _ => some .shape
  | network _ => none
  | httpStatus _ _ => none

namespace Fault

/-- The stage at which the fault is looked for. -/
def stage : Fault → Nat
  | name => 0
  | encoding => 1
  | missing => 2
  | unreadable => 3
  | document => 4
  | shape => 5

/-- Every fault has a stage of its own. -/
theorem stage_inj {fault other : Fault} (h : fault.stage = other.stage) : fault = other := by
  revert h
  cases fault <;> cases other <;> decide

/-- The fault is there, where reading the file comes to the given result. -/
def IsIn (d : Directory) (locale : String) (result : Except ReadFailure (List UInt8)) :
    Fault → Prop
  | name => ¬Locale.IsFileName locale
  | encoding => d.encoding.toLower ≠ "utf-8" ∧ d.encoding.toLower ≠ "utf8"
  | missing => ∃ failure, result = .error failure ∧ failure.missing = true
  | unreadable =>
    (∃ failure, result = .error failure ∧ failure.missing = false) ∨
      ∃ bytes, result = .ok bytes ∧ ∀ text, bytes ≠ bytesOf text
  | document =>
    ∃ text, result = .ok (bytesOf text) ∧ ¬∃ tree, PaddedText tree text.toList ∧ tree.Representable
  | shape =>
    ∃ text tree, result = .ok (bytesOf text) ∧ PaddedText tree text.toList ∧ tree.Representable ∧
      ∀ members, tree ≠ .object members

/-- None of the faults is there that are looked for before a stage. -/
def Clear (present : Fault → Prop) (n : Nat) : Prop := ∀ fault, fault.stage < n → ¬present fault

/-- The fault is there, and none that is looked for before it. -/
structure IsFirst (present : Fault → Prop) (fault : Fault) : Prop where
  isIn : present fault
  clear : Clear present fault.stage

variable {present : Fault → Prop}

/-- Before the first stage nothing is looked for. -/
theorem clear_zero : Clear present 0 := fun _ h => absurd h (Nat.not_lt_zero _)

/-- A stage is passed when its fault is not there. -/
theorem Clear.pass {fault : Fault} (h : Clear present fault.stage) (hno : ¬present fault) :
    Clear present (fault.stage + 1) := by
  intro other hother
  rcases Nat.lt_succ_iff_lt_or_eq.1 hother with hlt | heq
  · exact h other hlt
  · exact stage_inj heq ▸ hno

/-- Behind the last stage there is no fault. -/
theorem Clear.not_present (h : Clear present (shape.stage + 1)) (fault : Fault) :
    ¬present fault := by
  apply h
  cases fault <;> decide

/-- Only one fault is the first. -/
theorem IsFirst.unique {fault other : Fault} (h : IsFirst present fault)
    (hother : IsFirst present other) : fault = other := by
  rcases Nat.lt_trichotomy fault.stage other.stage with hlt | heq | hlt
  · exact absurd h.isIn (hother.clear fault hlt)
  · exact stage_inj heq
  · exact absurd hother.isIn (h.clear other hlt)

/-! ## What it means that a fault is there -/

variable {d : Directory} {locale text : String} {result : Except ReadFailure (List UInt8)}

/-- The label of the directory is accepted exactly when it is not the fault. -/
theorem isUtf8Label_iff :
    Directory.isUtf8Label d.encoding = true ↔ ¬IsIn d locale result encoding := by
  rw [Directory.isUtf8Label, Bool.or_eq_true, beq_iff_eq, beq_iff_eq, IsIn]
  tauto

/-- A file that is there and can be read has a text. -/
theorem exists_text (hmissing : ¬IsIn d locale result missing)
    (hunreadable : ¬IsIn d locale result unreadable) : ∃ text, result = .ok (bytesOf text) := by
  cases result with
  | error failure =>
    cases hcause : failure.missing with
    | true => exact absurd ⟨failure, rfl, hcause⟩ hmissing
    | false => exact absurd (.inl ⟨failure, rfl, hcause⟩) hunreadable
  | ok bytes =>
    by_contra hno
    exact hunreadable (.inr ⟨bytes, rfl, fun text hbytes => hno ⟨text, congrArg _ hbytes⟩⟩)

/-! ## What a directory answers -/

/-- A missing file is answered with its path. -/
theorem answer_of_missing (h : IsIn d locale result missing) :
    d.answer locale result = .error (.notFound (d.pathFor locale)) := by
  obtain ⟨failure, rfl, hmissing⟩ := h
  rw [Directory.answer, LoadError.ofReadFailure, if_pos hmissing]

/-- A file that cannot be read as a text is answered with a failure to read it. -/
theorem answer_of_unreadable (h : IsIn d locale result unreadable) :
    ∃ detail, d.answer locale result = .error (.io detail) := by
  rcases h with ⟨failure, rfl, hmissing⟩ | ⟨bytes, rfl, hno⟩
  · rw [Directory.answer, LoadError.ofReadFailure, if_neg (by simp [hmissing])]
    exact ⟨_, rfl⟩
  · obtain ⟨fault, hfault⟩ := forall_ne_bytesOf_iff.1 hno
    rw [Directory.answer, hfault]
    exact ⟨_, rfl⟩

/-- The bytes of a text are answered with the text. -/
theorem answer_of_text : d.answer locale (.ok (bytesOf text)) = .ok text := by
  rw [Directory.answer, decode_bytesOf]
  exact congrArg Except.ok String.ofList_toList

/-! ## What is wrong with a text -/

/-- A text is at fault as a document when it is none that has a value. -/
theorem document_iff_of_text :
    IsIn d locale (.ok (bytesOf text)) document ↔
      ¬∃ tree, PaddedText tree text.toList ∧ tree.Representable := by
  constructor
  · rintro ⟨other, hother, hno⟩
    rwa [bytesOf_inj (Except.ok.inj hother)]
  · exact fun hno => ⟨text, rfl, hno⟩

/-- A text is at fault in its shape when it is a document with a value and no object. -/
theorem shape_iff_of_text :
    IsIn d locale (.ok (bytesOf text)) shape ↔
      ∃ tree, PaddedText tree text.toList ∧ tree.Representable ∧
        ∀ members, tree ≠ .object members := by
  constructor
  · rintro ⟨other, tree, hother, htree⟩
    rw [bytesOf_inj (Except.ok.inj hother)]
    exact ⟨tree, htree⟩
  · rintro ⟨tree, htree⟩
    exact ⟨text, tree, rfl, htree⟩

end Fault

/-! ## Reading a file of a directory in a tree -/

namespace FileTree

/-- What reading a place comes to. -/
def readAt (tree : FileTree) (place : Place) : Except ReadFailure (List UInt8) :=
  match tree.nodeAt place with
  | some (.file bytes) => .ok bytes
  | some .directory => .error .isDirectory
  | none => .error .notFound

/-- What reading a file below a place comes to. The place has to be a directory and the name one
that a file system takes; outside the tree there are no files. -/
def readBelow (tree : FileTree) (file : String) (place : Place) :
    Except ReadFailure (List UInt8) :=
  if tree.nodeAt place ≠ some .directory then .error .notDirectory
  else if maxNameBytes < file.utf8ByteSize then .error .nameTooLong
  else if place.isNone then .error .notFound
  else tree.readAt (place.map (· ++ [file]))

/-- The failures of a tree. Only one of them is that something is missing. -/
def failures : List ReadFailure := [.zeroByte, .nameTooLong, .notFound, .notDirectory, .isDirectory]

/-- Of the failures of a file tree only one says that the file is missing. -/
theorem missing_iff_of_mem_failures {failure : ReadFailure} (h : failure ∈ failures) :
    failure.missing = true ↔ failure = .notFound := by
  revert h
  revert failure
  decide

/-- A walk fails in one of these ways. -/
theorem mem_failures_of_walk {tree : FileTree} {place : Place} {names : List String}
    {failure : ReadFailure} (h : tree.walk place names = .error failure) : failure ∈ failures := by
  induction names generalizing place with
  | nil => cases h
  | cons name names ih =>
    rw [walk_cons] at h
    cases hstep : tree.advance place name with
    | ok next =>
      rw [hstep] at h
      exact ih h
    | error reason =>
      rw [hstep] at h
      obtain rfl : reason = failure := Except.error.inj h
      unfold advance at hstep
      repeat' split at hstep
      all_goals cases hstep
      all_goals decide

/-- Reading fails for want of a file exactly when the tree has none in that place. -/
theorem missing_iff_of_read {tree : FileTree} {path : String} {failure : ReadFailure}
    (h : tree.read path = .error failure) : failure.missing = true ↔ failure = .notFound := by
  apply missing_iff_of_mem_failures
  unfold read at h
  dsimp only at h
  repeat' split at h
  all_goals cases h
  all_goals first | exact mem_failures_of_walk ‹_› | decide

/-- A path that is not refused at once is read where the walk along it ends. -/
theorem read_eq_walk {path : String} (hzero : '\x00' ∉ path.toList)
    (hlength : path.utf8ByteSize ≤ maxPathBytes) (hne : path ≠ "") (tree : FileTree) :
    tree.read path = (tree.walk (origin path) (names path)).bind tree.readAt := by
  rw [read, if_neg (by simpa using hzero), if_neg (Nat.not_lt.2 hlength),
    if_neg (by simpa using hne)]
  unfold origin
  dsimp only
  split
  · next failure hwalk =>
    rw [hwalk]
    rfl
  · next place hwalk =>
    rw [hwalk]
    rfl

/-- The last step of a walk to a file. -/
theorem readBelow_eq_walk {file : String} (hdot : file ≠ ".") (hdots : file ≠ "..")
    (tree : FileTree) (place : Place) :
    (tree.walk place [file]).bind tree.readAt = tree.readBelow file place := by
  have hspecial : (!(file == "." || file == "..")) = true := by simp [hdot, hdots]
  have henter : enter place file = place.map (· ++ [file]) := by simp [enter, hdot, hdots]
  rw [walk_cons, advance, readBelow, hspecial, henter, Bool.true_and]
  split
  · rfl
  · split
    · rfl
    · split
      · rfl
      · split
        · next hnone =>
          -- There is nothing under the name, which is what reading it says.
          show Except.error ReadFailure.notFound = tree.readAt _
          rw [readAt, Option.isNone_iff_eq_none.1 hnone]
        · rfl

end FileTree

namespace Directory

/-- Reading a file of a directory walks to the directory and goes one step further, where the path
is not refused as a whole. -/
theorem read_join_eq {file : String} (h : '/' ∉ file.toList) (hne : file ≠ "") (hdot : file ≠ ".")
    (hdots : file ≠ "..") {directory : String}
    (hzero : '\x00' ∉ (join directory file).toList)
    (hlength : (join directory file).utf8ByteSize ≤ FileTree.maxPathBytes) (tree : FileTree) :
    tree.read (join directory file)
      = (tree.walk (FileTree.origin directory) (FileTree.names directory)).bind
          (tree.readBelow file) := by
  have hpath : join directory file ≠ "" := by
    rw [join_of_notMem h]
    intro hempty
    rw [String.append_eq_empty_iff] at hempty
    exact hne hempty.2
  rw [FileTree.read_eq_walk hzero hlength hpath, origin_join h, names_join hne h,
    FileTree.walk_append]
  cases tree.walk (FileTree.origin directory) (FileTree.names directory) with
  | error failure => rfl
  | ok place => exact FileTree.readBelow_eq_walk hdot hdots tree place

/-- A zero byte in the path of a dictionary is one in the directory. -/
theorem zero_mem_pathFor {locale : String} (h : Locale.IsFileName locale) (d : Directory) :
    '\x00' ∈ (d.pathFor locale).toList ↔ '\x00' ∈ d.path.toList := by
  have hlocale : '\x00' ∉ locale.toList := fun hmem => absurd (h.2 _ hmem) (by decide)
  rw [(isPathOf_pathFor h d).spelled]
  split <;> simp [hlocale]

/-- What reading the dictionary of a locale comes to, in the directory of a tree. -/
theorem read_pathFor {locale : String} (h : Locale.IsFileName locale) (d : Directory)
    (tree : FileTree) :
    tree.read (d.pathFor locale)
      = if '\x00' ∈ d.path.toList then .error .zeroByte
        else if FileTree.maxPathBytes < (d.pathFor locale).utf8ByteSize then .error .nameTooLong
        else (tree.walk (FileTree.origin d.path) (FileTree.names d.path)).bind
          (tree.readBelow (locale ++ ".json")) := by
  by_cases hzero : '\x00' ∈ d.path.toList
  · rw [if_pos hzero, FileTree.read, if_pos]
    simpa using (zero_mem_pathFor h d).2 hzero
  · have hpath : '\x00' ∉ (d.pathFor locale).toList := mt (zero_mem_pathFor h d).1 hzero
    rw [if_neg hzero]
    by_cases hlength : FileTree.maxPathBytes < (d.pathFor locale).utf8ByteSize
    · rw [if_pos hlength, FileTree.read, if_neg (by simpa using hpath), if_pos hlength]
    · rw [if_neg hlength]
      exact read_join_eq (notMem_of_isFileName h) (fileName_ne locale (by decide))
        (fileName_ne locale (by decide)) (fileName_ne locale (by decide)) hpath
        (Nat.le_of_not_lt hlength) tree

end Directory

/-! ## The stages of loading -/

namespace Draft

open Fault

variable {σ : Type} (read : String → StateM σ (Except ReadFailure (List UInt8))) (d : Directory)
variable (s : σ) {locale : String}

/-- A name that passes is followed by the label of the encoding, and that by reading the file. -/
theorem loadFrom_directory_of_isFileName (h : Locale.IsFileName locale) :
    loadFrom (d.fetch read) s locale
      = if Directory.isUtf8Label d.encoding then
          (d.answer locale ((read (d.pathFor locale)).run s).1).bind ofText
        else .error (.unsupportedEncoding d.encoding) := by
  rw [loadFrom_of_answer h (d.fetch read) s rfl]
  unfold Directory.fetch
  split
  · rfl
  · rfl

/-- Loading has come to its end: it reports the first fault that is there, or there is none and it
has the draft. -/
def Settles (present : Fault → Prop) (load : Except LoadError Draft) : Prop :=
  (∃ e fault, load = .error e ∧ e.fault? = some fault ∧ IsFirst present fault) ∨
    ∃ draft, load = .ok draft ∧ ∀ fault, ¬present fault

section Settles

variable {present : Fault → Prop} {load : Except LoadError Draft}

/-- The fault that is reported is the first one, and the first one is reported. -/
theorem Settles.error_iff (h : Settles present load) (fault : Fault) :
    (∃ e, load = .error e ∧ e.fault? = some fault) ↔ IsFirst present fault := by
  rcases h with ⟨e, first, rfl, he, hfirst⟩ | ⟨draft, rfl, hno⟩
  · constructor
    · rintro ⟨other, hother, hfault⟩
      cases hother
      exact Option.some.inj (he.symm.trans hfault) ▸ hfirst
    · intro hfault
      exact ⟨e, rfl, hfirst.unique hfault ▸ he⟩
  · constructor
    · rintro ⟨e, he, -⟩
      cases he
    · intro hfault
      exact absurd hfault.isIn (hno fault)

/-- Loading succeeds when there is nothing to report. -/
theorem Settles.ok_iff (h : Settles present load) :
    (∃ draft, load = .ok draft) ↔ ∀ fault, ¬present fault := by
  rcases h with ⟨e, first, rfl, -, hfirst⟩ | ⟨draft, rfl, hno⟩
  · constructor
    · rintro ⟨draft, hdraft⟩
      cases hdraft
    · intro hno
      exact absurd hfirst.isIn (hno first)
  · exact ⟨fun _ => hno, fun _ => ⟨draft, rfl⟩⟩

/-- Every failure reports a fault. -/
theorem Settles.exists_fault (h : Settles present load) {e : LoadError} (he : load = .error e) :
    ∃ fault, e.fault? = some fault := by
  rcases h with ⟨other, first, hother, hfirst, -⟩ | ⟨draft, hdraft, -⟩
  · rw [he] at hother
    exact ⟨first, Except.error.inj hother ▸ hfirst⟩
  · rw [he] at hdraft
    cases hdraft

end Settles

/-- The stages of a text that has been read. -/
theorem settles_ofText (text : String)
    (hread : Clear (IsIn d locale (.ok (bytesOf text))) Fault.document.stage) :
    Settles (IsIn d locale (.ok (bytesOf text))) (ofText text) := by
  by_cases hdocument : IsIn d locale (.ok (bytesOf text)) .document
  · exact .inl ⟨_, .document, ofText_of_no_document (document_iff_of_text.1 hdocument), rfl,
      hdocument, hread⟩
  have hparsed : Clear (IsIn d locale (.ok (bytesOf text))) Fault.shape.stage :=
    hread.pass hdocument
  obtain ⟨tree, htext, hrepresentable⟩ := not_not.1 (mt document_iff_of_text.2 hdocument)
  by_cases hobject : ∃ members, tree = .object members
  · obtain ⟨members, rfl⟩ := hobject
    obtain ⟨entries, -, hdraft⟩ := exists_ofText_of_object htext hrepresentable
    have hshape : ¬IsIn d locale (.ok (bytesOf text)) .shape := by
      intro hshape
      obtain ⟨other, hother, -, hno⟩ := shape_iff_of_text.1 hshape
      exact hno members (hother.unique htext)
    exact .inr ⟨_, hdraft, (hparsed.pass hshape).not_present⟩
  · have hno : ∀ members, tree ≠ .object members := fun members h => hobject ⟨members, h⟩
    exact .inl ⟨_, .shape, ofText_of_no_object htext hrepresentable hno, rfl,
      shape_iff_of_text.2 ⟨tree, htext, hrepresentable, hno⟩, hparsed⟩

/-- The stages of what reading the file comes to. -/
theorem settles_answer (locale : String) (result : Except ReadFailure (List UInt8))
    (hclear : Clear (IsIn d locale result) Fault.missing.stage) :
    Settles (IsIn d locale result) ((d.answer locale result).bind ofText) := by
  by_cases hmissing : IsIn d locale result .missing
  · rw [answer_of_missing hmissing]
    exact .inl ⟨_, .missing, rfl, rfl, hmissing, hclear⟩
  have hthere : Clear (IsIn d locale result) Fault.unreadable.stage := hclear.pass hmissing
  by_cases hunreadable : IsIn d locale result .unreadable
  · obtain ⟨detail, hanswer⟩ := answer_of_unreadable hunreadable
    rw [hanswer]
    exact .inl ⟨.io detail, .unreadable, rfl, rfl, hunreadable, hthere⟩
  · obtain ⟨text, rfl⟩ := exists_text hmissing hunreadable
    rw [answer_of_text]
    exact settles_ofText d text (hthere.pass hunreadable)

/-- All stages of loading. What the file comes to matters only once the name has passed. -/
theorem settles_loadFrom_directory {result : Except ReadFailure (List UInt8)}
    (hresult : Locale.IsFileName locale → ((read (d.pathFor locale)).run s).1 = result) :
    Settles (IsIn d locale result) (loadFrom (d.fetch read) s locale) := by
  by_cases hname : IsIn d locale result .name
  · obtain ⟨detail, hrun⟩ := run_load_of_not_isFileName hname (d.fetch read) s
    exact .inl ⟨.invalidLocale detail, .name, congrArg Prod.fst hrun, rfl, hname, clear_zero⟩
  have hnamed : Clear (IsIn d locale result) Fault.encoding.stage := clear_zero.pass hname
  have hlocale : Locale.IsFileName locale := not_not.1 hname
  rw [loadFrom_directory_of_isFileName read d s hlocale, hresult hlocale]
  by_cases hencoding : IsIn d locale result .encoding
  · rw [if_neg (mt isUtf8Label_iff.1 (not_not.2 hencoding))]
    exact .inl ⟨.unsupportedEncoding d.encoding, .encoding, rfl, rfl, hencoding, hnamed⟩
  · rw [if_pos (isUtf8Label_iff.2 hencoding)]
    exact settles_answer d locale result (hnamed.pass hencoding)

/-- Loading a dictionary from a directory looks for the faults one after the other and reports the
first that is there, whatever else is wrong; it reports nothing else, and it succeeds exactly when
there is none. A refused encoding is named as it was given, and a draft is that of the text in the
file. In a tree of files, reading the file fails for what is wrong with the path as a whole, then
for what the walk to the directory meets, then for what stands under the name, and of all this only
a missing entry counts as missing. -/
theorem loadFrom_directory_reports (locale : String) :
    let load : Except LoadError Draft := loadFrom (d.fetch read) s locale
    let path := d.path ++ (if d.path = "" ∨ d.path.toList.getLast? = some '/' then "" else "/")
      ++ (locale ++ ".json")
    let result := ((read path).run s).1
    (∀ fault, (∃ e, load = .error e ∧ e.fault? = some fault) ↔
      IsFirst (IsIn d locale result) fault) ∧
    (∀ e, load = .error e → ∃ fault, e.fault? = some fault) ∧
    ((∃ draft, load = .ok draft) ↔ ∀ fault, ¬IsIn d locale result fault) ∧
    (∀ label, load = .error (.unsupportedEncoding label) → label = d.encoding) ∧
    (∀ draft, load = .ok draft → ∃ text, result = .ok (bytesOf text) ∧ ofText text = .ok draft) ∧
    ∀ tree : FileTree, Locale.IsFileName locale →
      (tree.read path
        = if '\x00' ∈ d.path.toList then .error .zeroByte
          else if FileTree.maxPathBytes < path.utf8ByteSize then .error .nameTooLong
          else (tree.walk (FileTree.origin d.path) (FileTree.names d.path)).bind
            (tree.readBelow (locale ++ ".json"))) ∧
      ∀ failure, tree.read path = .error failure →
        (failure.missing = true ↔ failure = .notFound) := by
  intro load path result
  have hpath : Locale.IsFileName locale → d.pathFor locale = path := fun hname =>
    (Directory.isPathOf_pathFor hname d).spelled
  have hresult : Locale.IsFileName locale → ((read (d.pathFor locale)).run s).1 = result :=
    fun hname => by rw [hpath hname]
  have hsettles : Settles (IsIn d locale result) load :=
    settles_loadFrom_directory read d s hresult
  refine ⟨hsettles.error_iff, fun e he => hsettles.exists_fault he, hsettles.ok_iff, ?_, ?_, ?_⟩
  · intro label hload
    have hfirst : IsFirst (IsIn d locale result) .encoding :=
      (hsettles.error_iff .encoding).1 ⟨_, hload, rfl⟩
    have hname : Locale.IsFileName locale := not_not.1 (hfirst.clear .name Nat.zero_lt_one)
    have hrefused : load = .error (.unsupportedEncoding d.encoding) := by
      show loadFrom _ s locale = _
      rw [loadFrom_directory_of_isFileName read d s hname,
        if_neg (mt isUtf8Label_iff.1 (not_not.2 hfirst.isIn))]
    rw [hload] at hrefused
    cases hrefused
    rfl
  · intro draft hdraft
    have hno := hsettles.ok_iff.1 ⟨draft, hdraft⟩
    have hname : Locale.IsFileName locale := not_not.1 (hno .name)
    obtain ⟨text, htext⟩ := exists_text (hno .missing) (hno .unreadable)
    have hholds : d.Holds read s locale (bytesOf text) :=
      ⟨isUtf8Label_iff.2 (hno .encoding), (hresult hname).trans htext⟩
    exact ⟨text, htext, (loadFrom_directory_of_text hname hholds).symm.trans hdraft⟩
  · intro tree hname
    refine ⟨?_, fun failure => FileTree.missing_iff_of_read⟩
    rw [← hpath hname, Directory.read_pathFor hname]

/-- A tree with a dictionary, an array, half a document, bytes of no text and a directory in place
of a file, and a directory that is said to be in another encoding and one that is a file. -/
theorem loadFrom_directory_reports_staged :
    let tree := FileTree.ofList [("d/en.json", some (bytesOf "\x7b\x7d")),
      ("d/de.json", some (bytesOf "[]")), ("d/fr.json", some (bytesOf "\x7b")),
      ("d/ru.json", some [0xFF]), ("d/it.json", none)]
    let read := fun path => (pure (tree.read path) : StateM Unit (Except ReadFailure (List UInt8)))
    let load := fun (d : Directory) locale => loadFrom (d.fetch read) () locale
    let path := fun (d : Directory) (locale : String) =>
      d.path ++ (if d.path = "" ∨ d.path.toList.getLast? = some '/' then "" else "/")
        ++ (locale ++ ".json")
    let rows : List (Directory × String × LoadError × Fault) := [
      (⟨"d", "latin-1"⟩, "../es", .invalidLocale
        "'.' in locale '../es' is not allowed in a dictionary file name", .name),
      (⟨"d", "latin-1"⟩, "es", .unsupportedEncoding "latin-1", .encoding),
      (⟨"d", "UTF8"⟩, "es", .notFound "d/es.json", .missing),
      (⟨"d", "UTF8"⟩, "it", .io
        "Failed to read file 'd/it.json': Is a directory (os error 21)", .unreadable),
      (⟨"d/en.json/", "UTF8"⟩, "en", .io
        "Failed to read file 'd/en.json/en.json': Not a directory (os error 20)", .unreadable),
      (⟨"d", "UTF8"⟩, "ru", .io
        "'d/ru.json' is not valid UTF8: invalid utf-8 sequence of 1 bytes from index 0",
        .unreadable),
      (⟨"d", "UTF8"⟩, "fr", .invalidJson "not a JSON document", .document),
      (⟨"d", "UTF8"⟩, "de", .invalidShape "root must be an object", .shape)]
    (∀ row ∈ rows, load row.1 row.2.1 = .error row.2.2.1 ∧ row.2.2.1.fault? = some row.2.2.2 ∧
      IsFirst (IsIn row.1 row.2.1 (tree.read (path row.1 row.2.1))) row.2.2.2) ∧
    load ⟨"d", "UTF8"⟩ "en" = .ok KeyMap.empty ∧
    (∀ fault, ¬IsIn ⟨"d", "UTF8"⟩ "en" (tree.read (path ⟨"d", "UTF8"⟩ "en")) fault) ∧
    tree.read "d/en.json/en.json"
      = (tree.walk (FileTree.origin "d/en.json/") (FileTree.names "d/en.json/")).bind
        (tree.readBelow "en.json") := by
  intro tree read load path rows
  have hall := fun d locale => loadFrom_directory_reports read d () locale
  have hreported : ∀ row ∈ rows, load row.1 row.2.1 = .error row.2.2.1 ∧
      row.2.2.1.fault? = some row.2.2.2 := by
    decide +kernel
  have hdraft : load ⟨"d", "UTF8"⟩ "en" = .ok KeyMap.empty := by decide +kernel
  refine ⟨?_, hdraft, ?_, ?_⟩
  · intro row hrow
    obtain ⟨hload, hfault⟩ := hreported row hrow
    exact ⟨hload, hfault, ((hall row.1 row.2.1).1 row.2.2.2).1 ⟨_, hload, hfault⟩⟩
  · have hno : ∀ d locale draft, load d locale = .ok draft →
        ∀ fault, ¬IsIn d locale (tree.read (path d locale)) fault :=
      fun d locale draft h => (hall d locale).2.2.1.1 ⟨draft, h⟩
    exact hno _ _ _ hdraft
  · have hpath : path ⟨"d/en.json/", "UTF8"⟩ "en" = "d/en.json/en.json" := by decide
    have hread := ((hall ⟨"d/en.json/", "UTF8"⟩ "en").2.2.2.2.2 tree (by decide)).1
    rw [← hpath]
    exact hread.trans (by rw [if_neg (by decide), if_neg (by decide)]; rfl)

/-- Three documents in a file, two objects and an array, that are reported as no JSON: one has a
number beyond the largest double, one half a pair of surrogates, and one is nested too deep. -/
theorem loadFrom_directory_refuses_documents :
    let deep := String.ofList (List.replicate 128 '[' ++ List.replicate 128 ']')
    let read := fun text path =>
      (pure ((FileTree.ofList [("d/en.json", some (bytesOf text))]).read path) :
        StateM Unit (Except ReadFailure (List UInt8)))
    let load := fun text => loadFrom ((⟨"d", "utf-8"⟩ : Directory).fetch (read text)) () "en"
    (∀ text ∈ ["\x7b\"a\":[\"x\"],\"n\":1e999\x7d",
        "\x7b\"a\":[\"x\"],\"s\":\"\\ud800\"\x7d"],
      (∃ members, PaddedText (.object members) text.toList) ∧
        load text = .error (.invalidJson "not a JSON document")) ∧
    PaddedText (nested 127) deep.toList ∧
      load deep = .error (.invalidJson "not a JSON document") := by
  intro deep read load
  have hfile : ∀ bytes, (FileTree.ofList [("d/en.json", some bytes)]).read "d/en.json"
      = .ok bytes := by
    intro bytes
    have hnames : FileTree.names "d/en.json" = ["d", "en.json"] := by decide +kernel
    rw [FileTree.read_eq_walk (by decide) (by decide) (by decide), hnames, FileTree.ofList,
      List.map_singleton, hnames]
    rfl
  have hload : ∀ text, load text = ofText text := by
    intro text
    have hpath : (⟨"d", "utf-8"⟩ : Directory).pathFor "en" = "d/en.json" := by decide
    apply loadFrom_directory_of_text (by decide)
    exact ⟨by decide +kernel, by rw [hpath]; exact hfile (bytesOf text)⟩
  simp only [hload]
  refine ⟨?_, ofText_nested (Nat.le_refl Json.Value.maxDepth)⟩
  have hread : ∀ text ∈ ["\x7b\"a\":[\"x\"],\"n\":1e999\x7d",
      "\x7b\"a\":[\"x\"],\"s\":\"\\ud800\"\x7d"],
      (Tree.ofText? text.toList).any isObject = true ∧
        ofText text = .error (.invalidJson "not a JSON document") := by
    decide +kernel
  intro text htext
  obtain ⟨hdocument, hrefused⟩ := hread text htext
  obtain ⟨tree, htree, hobject⟩ := (Option.any_eq_true _ _).1 hdocument
  obtain ⟨members, rfl⟩ := exists_of_isObject hobject
  exact ⟨⟨members, Tree.ofText?_eq_some_iff.1 htree⟩, hrefused⟩

end Draft

end Phrasebook
