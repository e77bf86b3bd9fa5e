import Mathlib.Data.List.TakeWhile
import Phrasebook.Source.Directory
import Phrasebook.Source.Remote

/-!
# Paths below a directory

The path of a file of a directory is put together from the two names and taken apart again when the
file is read. A name without a slash adds one component to the path (`Directory.names_join`), and
as long as that is none of the two names that lead elsewhere, reading the path gives a file that
lies in the directory itself (`Directory.read_join`).
-/

set_option autoImplicit false

namespace Phrasebook

/-! ## Components of a path -/

namespace FileTree

/-- The empty path has no names. -/
@[simp] theorem names_empty : names "" = [] := rfl

/-- A slash divides the components of a path. -/
theorem names_append (before behind : String) :
    names (before ++ "/" ++ behind) = names before ++ names behind := by
  have hchars : (before ++ "/" ++ behind).toList = before.toList ++ '/' :: behind.toList := by simp
  rw [names, hchars, Text.split_append, List.filter_append, List.map_append]
  rfl

/-- A path without slashes is its one name. -/
theorem names_of_notMem {name : String} (hne : name ≠ "") (h : '/' ∉ name.toList) :
    names name = [name] := by
  have hkept : [name.toList].filter (!·.isEmpty) = [name.toList] :=
    List.filter_cons_of_pos (by simpa using hne)
  rw [names, Text.split_of_notMem h, hkept, List.map_singleton, String.ofList_toList]

end FileTree

namespace Directory

/-- A name without a slash is put behind the directory, and a slash between them unless there is
one. -/
theorem join_of_notMem {file : String} (h : '/' ∉ file.toList) (directory : String) :
    join directory file
      = directory ++ (if directory = "" ∨ directory.toList.getLast? = some '/' then "" else "/")
        ++ file := by
  have hrelative : ¬(file.toList.head? == some '/') = true := by
    rw [beq_iff_eq]
    exact fun hhead => h (List.mem_of_mem_head? hhead)
  rw [join, if_neg hrelative]
  simp only [Bool.or_eq_true, String.isEmpty_iff, beq_iff_eq]
  split
  · rw [String.append_empty]
  · rfl

/-- A name without a slash is the last component of its path. -/
theorem names_join {file : String} (hne : file ≠ "") (h : '/' ∉ file.toList) (directory : String) :
    FileTree.names (join directory file) = FileTree.names directory ++ [file] := by
  have hfile : FileTree.names file = [file] := FileTree.names_of_notMem hne h
  rw [join_of_notMem h]
  split
  · next hclosed =>
    rw [String.append_empty]
    rcases hclosed with rfl | hslash
    · rw [String.empty_append, hfile]
      rfl
    · -- The slash at the end of the directory divides as well as one that is put there.
      obtain ⟨front, hfront⟩ := List.getLast?_eq_some_iff.1 hslash
      have hdirectory : directory = String.ofList front ++ "/" ++ "" := by
        rw [String.append_empty, ← String.ofList_toList (s := directory), hfront]
        simp
      calc FileTree.names (directory ++ file)
          = FileTree.names (String.ofList front) ++ [file] := by
            rw [hdirectory, String.append_empty, FileTree.names_append, hfile]
        _ = FileTree.names directory ++ [file] := by
            rw [hdirectory, FileTree.names_append, FileTree.names_empty, List.append_nil]
  · rw [FileTree.names_append, hfile]

end Directory

/-! ## Reading a file of a directory -/

/-- Two steps of which the second succeeds have both succeeded. -/
theorem exists_of_bind_eq_ok {ε α β : Type} {x : Except ε α} {f : α → Except ε β} {b : β}
    (h : x.bind f = .ok b) : ∃ a, x = .ok a ∧ f a = .ok b := by
  cases x with
  | error e => exact absurd h (by simp [Except.bind])
  | ok a => exact ⟨a, rfl, h⟩

namespace FileTree

/-- Where one name leads from a place. -/
def advance (tree : FileTree) (place : Place) (name : String) : Except ReadFailure Place :=
  if tree.nodeAt place ≠ some .directory then .error .notDirectory
  else if maxNameBytes < name.utf8ByteSize then .error .nameTooLong
  else if !(name == "." || name == "..") && place.isNone then .error .notFound
  else if (tree.nodeAt (enter place name)).isNone then .error .notFound
  else .ok (enter place name)

/-- A walk takes one name and goes on. -/
theorem walk_cons (tree : FileTree) (place : Place) (name : String) (rest : List String) :
    tree.walk place (name :: rest)
      = (tree.advance place name).bind fun next => tree.walk next rest := by
  rw [walk, advance]
  dsimp only
  repeat' split
  all_goals rfl

/-- A walk over two rows of names is two walks. -/
theorem walk_append (tree : FileTree) (place : Place) (before behind : List String) :
    tree.walk place (before ++ behind)
      = (tree.walk place before).bind fun next => tree.walk next behind := by
  induction before generalizing place with
  | nil => rfl
  | cons name before ih =>
    rw [List.cons_append, walk_cons, walk_cons]
    cases tree.advance place name with
    | error failure => rfl
    | ok next => exact ih next

/-- A name that leads anywhere and is none of the two that lead elsewhere leads one step down. -/
theorem advance_eq_ok {tree : FileTree} {place next : Place} {name : String} (hdot : name ≠ ".")
    (hdots : name ≠ "..") (h : tree.advance place name = .ok next) :
    next = place.map (· ++ [name]) := by
  have henter : enter place name = place.map (· ++ [name]) := by simp [enter, hdot, hdots]
  unfold advance at h
  iterate 4
    split at h
    · exact absurd h (by simp)
  rw [← henter]
  exact (Except.ok.inj h).symm

/-- Where the walk along a path begins. -/
def origin (path : String) : Place := if path.toList.head? == some '/' then none else some []

/-- A path under which a file is read leads to that file. -/
theorem walk_of_read {tree : FileTree} {path : String} {bytes : List UInt8}
    (h : tree.read path = .ok bytes) :
    ∃ place, tree.walk (origin path) (names path) = .ok (some place) ∧
      tree.node? place = some (.file bytes) := by
  unfold read at h
  -- Paths that are refused before the walk.
  iterate 3
    split at h
    · exact absurd h (by simp)
  dsimp only at h
  split at h
  · exact absurd h (by simp)
  · next place hwalk =>
    split at h
    · next found hfile =>
      -- Outside the tree there are no files.
      cases place with
      | none => exact absurd hfile (by simp [nodeAt])
      | some place =>
        refine ⟨place, hwalk, ?_⟩
        rw [← Except.ok.inj h]
        exact hfile
    · exact absurd h (by simp)
    · exact absurd h (by simp)

end FileTree

namespace Directory

/-- A path below a directory starts where that of the directory does. -/
theorem origin_join {file : String} (h : '/' ∉ file.toList) (directory : String) :
    FileTree.origin (join directory file) = FileTree.origin directory := by
  have hhead : (join directory file).toList.head? = some '/' ↔
      directory.toList.head? = some '/' := by
    rw [join_of_notMem h]
    by_cases hempty : directory = ""
    · subst hempty
      simp only [true_or, if_true, String.append_empty, String.empty_append]
      exact ⟨fun hslash => absurd (List.mem_of_mem_head? hslash) h, fun hslash => by simp at hslash⟩
    · obtain ⟨c, rest, hchars⟩ : ∃ c rest, directory.toList = c :: rest :=
        List.exists_cons_of_ne_nil (by simpa using hempty)
      rw [String.append_assoc, String.toList_append, hchars, List.cons_append]
      rfl
  simp only [FileTree.origin, beq_iff_eq, hhead]

/-- What is read under the path of a name in a directory is a file of that name in the directory. -/
theorem read_join {file : String} (h : '/' ∉ file.toList) (hne : file ≠ "") (hdot : file ≠ ".")
    (hdots : file ≠ "..") (directory : String) {tree : FileTree} {bytes : List UInt8}
    (hread : tree.read (join directory file) = .ok bytes) :
    ∃ place, tree.walk (FileTree.origin directory) (FileTree.names directory) = .ok (some place) ∧
      tree.node? (place ++ [file]) = some (.file bytes) := by
  obtain ⟨last, hwalk, hfile⟩ := FileTree.walk_of_read hread
  rw [origin_join h, names_join hne h, FileTree.walk_append] at hwalk
  obtain ⟨place, hplace, hstep⟩ := exists_of_bind_eq_ok hwalk
  rw [FileTree.walk_cons] at hstep
  obtain ⟨next, hadvance, hnext⟩ := exists_of_bind_eq_ok hstep
  have hlast : some last = place.map (· ++ [file]) :=
    (Except.ok.inj hnext).symm.trans (FileTree.advance_eq_ok hdot hdots hadvance)
  obtain ⟨inside, rfl, hinside⟩ := Option.map_eq_some_iff.1 hlast.symm
  exact ⟨inside, hplace, hinside ▸ hfile⟩

end Directory

/-! ## Addresses below a base -/

/-- The base of a server is its address without the slashes at the end. -/
theorem Remote.base_ofAddress (address : String) :
    ∃ slashes : List Char, (∀ c ∈ slashes, c = '/') ∧
      address = (ofAddress address).base ++ String.ofList slashes ∧
      (ofAddress address).base.toList.getLast? ≠ some '/' := by
  refine ⟨(address.toList.reverse.takeWhile (· == '/')).reverse, ?_, ?_, ?_⟩
  · intro c hc
    have hslash := List.mem_takeWhile_imp (List.mem_reverse.1 hc)
    exact beq_iff_eq.1 hslash
  · rw [ofAddress, ← String.ofList_append, ← List.reverse_append, List.takeWhile_append_dropWhile,
      List.reverse_reverse, String.ofList_toList]
  · rw [ofAddress, String.toList_ofList, List.getLast?_reverse]
    intro hhead
    have hkept := List.head?_dropWhile_not (· == '/') address.toList.reverse
    rw [hhead] at hkept
    exact absurd hkept (by simp)

end Phrasebook
