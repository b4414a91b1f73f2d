/-
This file says that a scan registers what a directory holds, whatever the order of its listing.

The names of a listing are distinct, so there is one order by name, and it does not depend on the
order of the listing. In this order each entry gives its own programs or its own failure. The paths
of programs tell their folders apart, since no name holds a slash, so what one entry gives is found
in what all give by asking for its name.
-/

import Mathlib.Data.List.Nodup
import Mathlib.Data.List.Perm.Basic
import Telemetry.Program.Listing
import Telemetry.Proofs.Splitting

namespace Telemetry

namespace Program

/-! ### The order by name -/

section

variable {Entry : Type} {name : Entry → String} {entries others : List Entry}

theorem sortedByName_perm (name : Entry → String) (entries : List Entry) :
    (sortedByName name entries).Perm entries :=
  List.mergeSort_perm _ _

theorem sortedByName_pairwise (name : Entry → String) (entries : List Entry) :
    (sortedByName name entries).Pairwise fun left right => name left ≤ name right := by
  refine (List.pairwise_mergeSort ?_ ?_ _).imp of_decide_eq_true
  · intro first second third before after
    exact decide_eq_true (String.le_trans (of_decide_eq_true before) (of_decide_eq_true after))
  · intro first second
    rcases String.le_total (name first) (name second) with before | after
    · simp [before]
    · simp [after]

/-- With distinct names the order is strict. -/
theorem sortedByName_ascending (distinct : (entries.map name).Nodup) :
    (sortedByName name entries).Pairwise fun left right => name left < name right := by
  have different : ((sortedByName name entries).map name).Nodup :=
    ((sortedByName_perm name entries).map name).nodup_iff.mpr distinct
  refine ((sortedByName_pairwise name entries).and (List.pairwise_map.mp different)).imp ?_
  intro left right both
  exact String.not_le.mp fun after => both.2 (String.le_antisymm both.1 after)

/-- With distinct names there is one order by name. -/
theorem sortedByName_eq (distinct : (entries.map name).Nodup) (perm : entries.Perm others)
    (sorted : others.Pairwise fun left right => name left ≤ name right) :
    sortedByName name entries = others := by
  have same := (sortedByName_perm name entries).trans perm
  refine same.eq_of_pairwise ?_ (sortedByName_pairwise name entries) sorted
  intro left right here there before after
  have member := (sortedByName_perm name entries).mem_iff.mp here
  exact List.inj_on_of_nodup_map distinct member (perm.mem_iff.mpr there)
    (String.le_antisymm before after)

theorem sortedByName_congr (distinct : (entries.map name).Nodup) (perm : entries.Perm others) :
    sortedByName name entries = sortedByName name others :=
  sortedByName_eq distinct (perm.trans (sortedByName_perm name others).symm)
    (sortedByName_pairwise name others)

end

/-! ### Paths -/

theorem exists_joinPath (directory : String) :
    ∃ ahead, ∀ name, joinPath directory name = ahead ++ name := by
  unfold joinPath
  cases last : directory.toList.getLast? with
  | none => exact ⟨"", fun name => by simp⟩
  | some character =>
    by_cases slash : character = '/'
    · subst slash
      exact ⟨directory, fun _ => rfl⟩
    · refine ⟨directory ++ "/", fun name => ?_⟩
      split
      · contradiction
      · rename_i same
        exact absurd (Option.some.inj same) slash
      · rfl

/-- The path of a file is the one of its folder, a slash and the name. -/
theorem exists_pathIn (directory : String) :
    ∃ ahead, (∀ name, joinPath directory name = ahead ++ name) ∧
      ∀ folder file, folder ≠ "" ∧ '/' ∉ folder.toList →
        pathIn directory folder file = ahead ++ (folder ++ "/" ++ file) := by
  obtain ⟨ahead, joins⟩ := exists_joinPath directory
  refine ⟨ahead, joins, fun folder file component => ?_⟩
  have filled : folder.toList ≠ [] := fun empty => component.1 (String.toList_eq_nil_iff.mp empty)
  have last : (ahead ++ folder).toList.getLast? = some (folder.toList.getLast filled) := by
    rw [String.toList_append, List.getLast?_append_of_ne_nil _ filled,
      List.getLast?_eq_some_getLast filled]
  rw [pathIn, joins, joinPath, last]
  split
  · contradiction
  · rename_i slash
    exact absurd (Option.some.inj slash ▸ List.getLast_mem filled) component.2
  · simp only [String.append_assoc]

theorem joinPath_inj {directory folder other : String}
    (same : joinPath directory folder = joinPath directory other) : folder = other := by
  obtain ⟨ahead, joins⟩ := exists_joinPath directory
  rw [joins, joins] at same
  exact (String.append_right_inj ahead).mp same

/-- The path of a file tells its folder and its name. -/
theorem pathIn_inj {directory folder other file another : String}
    (first : folder ≠ "" ∧ '/' ∉ folder.toList) (second : other ≠ "" ∧ '/' ∉ other.toList)
    (same : pathIn directory folder file = pathIn directory other another) :
    folder = other ∧ file = another := by
  obtain ⟨ahead, -, paths⟩ := exists_pathIn directory
  rw [paths _ _ first, paths _ _ second] at same
  have rest := (String.append_right_inj ahead).mp same
  have cut : splitOnce '/' (folder ++ "/" ++ file) = some (folder, file) :=
    (splitOnce_eq_some_iff "/" rfl).mpr ⟨rfl, first.2⟩
  have own : splitOnce '/' (folder ++ "/" ++ file) = some (other, another) :=
    (splitOnce_eq_some_iff "/" rfl).mpr ⟨rest, second.2⟩
  exact Prod.mk.inj (Option.some.inj (cut.symm.trans own))

theorem liesIn_unique {directory folder other : String} {program : Program}
    (first : folder ≠ "" ∧ '/' ∉ folder.toList) (second : other ≠ "" ∧ '/' ∉ other.toList)
    (here : LiesIn directory folder program) (there : LiesIn directory other program) :
    folder = other := by
  obtain ⟨file, path⟩ := here
  obtain ⟨another, same⟩ := there
  exact (pathIn_inj first second (path.symm.trans same)).1

theorem isOf_unique {directory folder other : String} {failure : ScanFailure}
    (here : failure.isOf directory folder) (there : failure.isOf directory other) :
    folder = other := by
  cases failure with
  | badFolder name =>
    have first : name = folder := by simpa [ScanFailure.isOf] using here
    have second : name = other := by simpa [ScanFailure.isOf] using there
    exact first.symm.trans second
  | unreadable path =>
    have first : path = joinPath directory folder := by simpa [ScanFailure.isOf] using here
    have second : path = joinPath directory other := by simpa [ScanFailure.isOf] using there
    exact joinPath_inj (first.symm.trans second)

/-! ### The files of a folder -/

section

variable {path : String} {interval : Nat} {files others : List FileEntry}

theorem mem_ofFolder_iff {program : Program} :
    program ∈ ofFolder path interval files ↔
      ∃ file ∈ files, isProgram file = true ∧ ⟨joinPath path file.name, interval⟩ = program := by
  rw [ofFolder, List.mem_map]
  simp only [(sortedByName_perm _ _).mem_iff, List.mem_filter, and_assoc]
  rfl

/-- The order in which the files are listed makes no difference. -/
theorem ofFolder_congr (distinct : (files.map FileEntry.name).Nodup) (perm : files.Perm others) :
    ofFolder path interval files = ofFolder path interval others := by
  have fewer : ((files.filter isProgram).map FileEntry.name).Nodup :=
    distinct.sublist (List.filter_sublist.map _)
  have sorted := sortedByName_congr fewer (perm.filter isProgram)
  show List.map _ (sortedByName FileEntry.name (files.filter isProgram)) = List.map _ _
  rw [sorted]
  rfl

/-- Each file that can be executed is a program once, and no other one is. -/
theorem countP_ofFolder (distinct : (files.map FileEntry.name).Nodup) {file : FileEntry}
    (member : file ∈ files) :
    (ofFolder path interval files).countP (fun program => program.path = joinPath path file.name) =
      if isProgram file then 1 else 0 := by
  have same : ∀ other ∈ files.filter isProgram,
      (decide (joinPath path other.name = joinPath path file.name) = true ↔
        (other == file) = true) := by
    intro other listed
    rw [decide_eq_true_iff, beq_iff_eq]
    refine ⟨fun paths => ?_, fun same => same ▸ rfl⟩
    exact List.inj_on_of_nodup_map distinct (List.mem_of_mem_filter listed) member
      (joinPath_inj paths)
  have once : (files.filter isProgram).Nodup := (List.Nodup.of_map _ distinct).filter _
  calc (ofFolder path interval files).countP (fun program => program.path = joinPath path file.name)
      = (files.filter isProgram).countP
          (fun other => joinPath path other.name = joinPath path file.name) := by
        rw [ofFolder, List.countP_map]
        exact (sortedByName_perm _ _).countP_eq _
    _ = (files.filter isProgram).count file := List.countP_congr same
    _ = if isProgram file then 1 else 0 := by
        rw [once.count]
        simp [List.mem_filter, member]

/-- The programs of a folder stand in the order of their names. -/
theorem exists_names_ofFolder (listed : AreListed (files.map FileEntry.name)) :
    ∃ names : List String,
      (ofFolder path interval files).map Program.path = names.map (joinPath path) ∧
        (∀ name ∈ names, '/' ∉ name.toList) ∧ names.Pairwise (· < ·) := by
  have fewer : ((files.filter isProgram).map FileEntry.name).Nodup :=
    listed.distinct.sublist (List.filter_sublist.map _)
  refine ⟨(sortedByName FileEntry.name (files.filter isProgram)).map FileEntry.name, ?_, ?_, ?_⟩
  · rw [ofFolder, List.map_map, List.map_map]
    rfl
  · intro name member
    obtain ⟨file, among, rfl⟩ := List.mem_map.mp member
    have here := List.mem_of_mem_filter ((sortedByName_perm _ _).mem_iff.mp among)
    exact (listed.component _ (List.mem_map_of_mem here)).2
  · exact List.pairwise_map.mpr (sortedByName_ascending fewer)

end

/-! ### One entry -/

section

variable {directory : String} {folder other : FolderEntry}

/-- What an entry of a directory gives. -/
def ofEntry (directory : String) (folder : FolderEntry) : List Program × List ScanFailure :=
  addFolder directory ([], []) folder

theorem ofEntry_of_badFolder (number : uint64? folder.name = none) :
    ofEntry directory folder = ([], [.badFolder folder.name]) := by
  simp [ofEntry, addFolder, scanFolder, number]

theorem ofEntry_of_unreadable {seconds : Nat} (number : uint64? folder.name = some seconds)
    (unlisted : folder.files = none) :
    ofEntry directory folder = ([], [.unreadable (joinPath directory folder.name)]) := by
  simp [ofEntry, addFolder, scanFolder, number, unlisted]

theorem ofEntry_of_files {seconds : Nat} {files : List FileEntry}
    (number : uint64? folder.name = some seconds) (listed : folder.files = some files) :
    ofEntry directory folder =
      (ofFolder (joinPath directory folder.name) (seconds * second) files, []) := by
  simp [ofEntry, addFolder, scanFolder, number, listed]

/-- An entry is a folder with a number for a name, or it has one failure. -/
theorem ofEntry_cases (directory : String) (folder : FolderEntry) :
    (∃ seconds files, uint64? folder.name = some seconds ∧ folder.files = some files ∧
      ofEntry directory folder =
        (ofFolder (joinPath directory folder.name) (seconds * second) files, [])) ∨
    ∃ failure, failure.isOf directory folder.name = true ∧
      ofEntry directory folder = ([], [failure]) := by
  cases number : uint64? folder.name with
  | none => exact .inr ⟨_, by simp [ScanFailure.isOf], ofEntry_of_badFolder number⟩
  | some seconds =>
    cases listed : folder.files with
    | none => exact .inr ⟨_, by simp [ScanFailure.isOf], ofEntry_of_unreadable number listed⟩
    | some files => exact .inl ⟨seconds, files, rfl, rfl, ofEntry_of_files number listed⟩

theorem liesIn_of_mem {program : Program} (member : program ∈ (ofEntry directory folder).1) :
    LiesIn directory folder.name program := by
  rcases ofEntry_cases directory folder with ⟨_, _, _, _, gives⟩ | ⟨_, _, gives⟩
  · rw [gives] at member
    obtain ⟨file, _, _, rfl⟩ := mem_ofFolder_iff.mp member
    exact ⟨file.name, rfl⟩
  · rw [gives] at member
    cases member

theorem isOf_of_mem {failure : ScanFailure} (member : failure ∈ (ofEntry directory folder).2) :
    failure.isOf directory folder.name = true := by
  rcases ofEntry_cases directory folder with ⟨_, _, _, _, gives⟩ | ⟨_, isOf, gives⟩
  · rw [gives] at member
    cases member
  · rw [gives] at member
    exact List.mem_singleton.mp member ▸ isOf

/-- The order in which the files of an entry are listed makes no difference. -/
theorem ofEntry_congr
    (distinct : ∀ files ∈ folder.files, (files.map FileEntry.name).Nodup)
    (relists : folder.Relists other) : ofEntry directory other = ofEntry directory folder := by
  obtain ⟨name, listed⟩ := folder
  obtain ⟨_, relisted⟩ := other
  obtain ⟨rfl, files⟩ := relists
  dsimp only at files
  cases files with
  | none => rfl
  | some perm =>
    simp only [ofEntry, addFolder, scanFolder, ofFolder_congr (distinct _ rfl) perm]

end

/-! ### All entries -/

section

variable {directory : String} {folders others : List FolderEntry}

/-- What entries of a directory give, in their order. -/
def ofEntries (directory : String) (folders : List FolderEntry) : List Program × List ScanFailure :=
  let each := folders.map (ofEntry directory)
  (each.flatMap Prod.fst, each.flatMap Prod.snd)

theorem ofEntries_cons (directory : String) (folder : FolderEntry) (rest : List FolderEntry) :
    ofEntries directory (folder :: rest) =
      ((ofEntry directory folder).1 ++ (ofEntries directory rest).1,
        (ofEntry directory folder).2 ++ (ofEntries directory rest).2) := by
  simp [ofEntries]

theorem ofEntries_append (directory : String) (first second : List FolderEntry) :
    ofEntries directory (first ++ second) =
      ((ofEntries directory first).1 ++ (ofEntries directory second).1,
        (ofEntries directory first).2 ++ (ofEntries directory second).2) := by
  simp [ofEntries]

theorem mem_ofEntries_fst {program : Program} :
    program ∈ (ofEntries directory folders).1 ↔
      ∃ folder ∈ folders, program ∈ (ofEntry directory folder).1 := by
  simp [ofEntries]

theorem mem_ofEntries_snd {failure : ScanFailure} :
    failure ∈ (ofEntries directory folders).2 ↔
      ∃ folder ∈ folders, failure ∈ (ofEntry directory folder).2 := by
  simp [ofEntries]

theorem foldl_addFolder (directory : String) (folders : List FolderEntry)
    (found : List Program × List ScanFailure) :
    folders.foldl (addFolder directory) found =
      (found.1 ++ (ofEntries directory folders).1, found.2 ++ (ofEntries directory folders).2) := by
  induction folders generalizing found with
  | nil => simp [ofEntries]
  | cons folder rest inductionHypothesis =>
    have added : addFolder directory found folder =
        (found.1 ++ (ofEntry directory folder).1, found.2 ++ (ofEntry directory folder).2) := by
      rw [ofEntry, addFolder, addFolder]
      cases scanFolder directory folder <;> simp
    rw [List.foldl_cons, inductionHypothesis, added, ofEntries_cons]
    simp only [List.append_assoc]

/-- A scan gives what the entries give in the order of their names. -/
theorem scan_eq (directory : String) (folders : List FolderEntry) :
    scan directory (some folders) =
      ofEntries directory (sortedByName FolderEntry.name folders) := by
  rw [scan, foldl_addFolder]
  simp

theorem scan_singleton (directory : String) (folder : FolderEntry) :
    scan directory (some [folder]) = ofEntry directory folder := by
  rw [scan_eq, sortedByName, List.mergeSort_singleton, ofEntries_cons]
  simp [ofEntries]

/-- What other entries give does not belong to an entry. -/
theorem not_liesIn_of_mem {name : String} (component : name ≠ "" ∧ '/' ∉ name.toList)
    (listed : ∀ folder ∈ folders, folder.name ≠ "" ∧ '/' ∉ folder.name.toList)
    (absent : name ∉ folders.map FolderEntry.name) {program : Program}
    (member : program ∈ (ofEntries directory folders).1) : ¬LiesIn directory name program := by
  obtain ⟨folder, here, own⟩ := mem_ofEntries_fst.mp member
  intro lies
  have same := liesIn_unique component (listed folder here) lies (liesIn_of_mem own)
  exact absent (same ▸ List.mem_map_of_mem here)

theorem filter_isOf_of_absent (directory : String) {name : String}
    (absent : name ∉ folders.map FolderEntry.name) :
    (ofEntries directory folders).2.filter (ScanFailure.isOf directory name) = [] := by
  rw [List.filter_eq_nil_iff]
  intro failure member isOf
  obtain ⟨folder, here, own⟩ := mem_ofEntries_snd.mp member
  exact absent (isOf_unique isOf (isOf_of_mem own) ▸ List.mem_map_of_mem here)

/-- The programs stand in the order of their folders and, in a folder, of their names. -/
theorem exists_places (directory : String)
    (ascending : folders.Pairwise fun left right => left.name < right.name)
    (listed : ∀ folder ∈ folders, ∀ files ∈ folder.files, AreListed (files.map FileEntry.name)) :
    ∃ places : List (String × String),
      (ofEntries directory folders).1.map Program.path =
          places.map (fun place => pathIn directory place.1 place.2) ∧
        (∀ place ∈ places,
          place.1 ∈ folders.map FolderEntry.name ∧ '/' ∉ place.2.toList) ∧
        places.Pairwise fun first second =>
          first.1 < second.1 ∨ first.1 = second.1 ∧ first.2 < second.2 := by
  induction folders with
  | nil => exact ⟨[], rfl, nofun, .nil⟩
  | cons folder rest inductionHypothesis =>
    obtain ⟨first, later⟩ := List.pairwise_cons.mp ascending
    obtain ⟨places, paths, proper, sorted⟩ :=
      inductionHypothesis later fun other member => listed other (List.mem_cons_of_mem _ member)
    obtain ⟨names, own, plain, inOrder⟩ : ∃ names : List String,
        (ofEntry directory folder).1.map Program.path =
            names.map (pathIn directory folder.name) ∧
          (∀ name ∈ names, '/' ∉ name.toList) ∧ names.Pairwise (· < ·) := by
      rcases ofEntry_cases directory folder with ⟨_, files, _, here, gives⟩ | ⟨_, _, gives⟩
      · rw [gives]
        exact exists_names_ofFolder (listed folder List.mem_cons_self files here)
      · rw [gives]
        exact ⟨[], rfl, nofun, .nil⟩
    refine ⟨names.map (folder.name, ·) ++ places, ?_, ?_, ?_⟩
    · rw [ofEntries_cons, List.map_append, List.map_append, own, paths, List.map_map]
      rfl
    · intro place member
      rcases List.mem_append.mp member with here | there
      · obtain ⟨name, among, rfl⟩ := List.mem_map.mp here
        exact ⟨List.mem_cons_self, plain name among⟩
      · exact ⟨List.mem_cons_of_mem _ (proper place there).1, (proper place there).2⟩
    · refine List.pairwise_append.mpr ⟨?_, sorted, ?_⟩
      · exact List.pairwise_map.mpr (inOrder.imp fun less => .inr ⟨rfl, less⟩)
      · intro place here other there
        obtain ⟨name, _, rfl⟩ := List.mem_map.mp here
        obtain ⟨next, among, same⟩ := List.mem_map.mp (proper other there).1
        exact .inl (same ▸ first next among)

end

/-! ### The whole directory -/

variable {directory : String} {listing : Listing} {folder : FolderEntry}

theorem mem_sortedFolders :
    folder ∈ sortedByName FolderEntry.name listing.folders ↔ folder ∈ listing.folders :=
  (sortedByName_perm _ _).mem_iff

theorem component_of_mem (member : folder ∈ listing.folders) :
    folder.name ≠ "" ∧ '/' ∉ folder.name.toList :=
  listing.names.component _ (List.mem_map_of_mem member)

/-- Without an entry everything is found but what this entry gives, and the rest does not belong to
it. -/
theorem exists_rest (directory : String) (member : folder ∈ listing.folders) :
    ∃ earlier later : List Program × List ScanFailure,
      scan directory (some listing.folders) =
          (earlier.1 ++ (ofEntry directory folder).1 ++ later.1,
            earlier.2 ++ (ofEntry directory folder).2 ++ later.2) ∧
        scan directory (some (listing.folders.erase folder)) =
          (earlier.1 ++ later.1, earlier.2 ++ later.2) ∧
        (∀ program ∈ earlier.1 ++ later.1, ¬LiesIn directory folder.name program) ∧
        (earlier.2 ++ later.2).filter (ScanFailure.isOf directory folder.name) = [] := by
  obtain ⟨before, after, whole⟩ := List.append_of_mem (mem_sortedFolders.mpr member)
  have perm : listing.folders.Perm (folder :: (before ++ after)) :=
    (whole ▸ sortedByName_perm FolderEntry.name listing.folders).symm.trans List.perm_middle
  have others : (listing.folders.erase folder).Perm (before ++ after) := by
    have erased := perm.erase folder
    rwa [List.erase_cons_head] at erased
  have distinct := (perm.map FolderEntry.name).nodup_iff.mp listing.names.distinct
  obtain ⟨absent, fewer⟩ := List.nodup_cons.mp distinct
  have sorted : (before ++ after).Pairwise fun left right => left.name ≤ right.name := by
    refine (sortedByName_pairwise FolderEntry.name listing.folders).sublist ?_
    rw [whole]
    exact (List.sublist_cons_self folder after).append_left before
  have without := sortedByName_eq ((others.map _).nodup_iff.mpr fewer) others sorted
  have rest : scan directory (some (listing.folders.erase folder)) =
      ofEntries directory (before ++ after) := by rw [scan_eq, without]
  have proper (other : FolderEntry) (there : other ∈ before ++ after) :
      other.name ≠ "" ∧ '/' ∉ other.name.toList :=
    component_of_mem (perm.mem_iff.mpr (List.mem_cons_of_mem _ there))
  refine ⟨ofEntries directory before, ofEntries directory after, ?_, ?_, ?_, ?_⟩
  · rw [scan_eq, whole, ofEntries_append, ofEntries_cons, List.append_assoc, List.append_assoc]
  · rw [rest, ofEntries_append]
  · intro program among
    refine not_liesIn_of_mem (component_of_mem member) proper absent ?_
    rwa [ofEntries_append]
  · have none := filter_isOf_of_absent directory absent
    rwa [ofEntries_append] at none

/-- What a scan finds of an entry is what the entry gives. -/
theorem own_of_mem (directory : String) (member : folder ∈ listing.folders) :
    (∀ program ∈ (scan directory (some listing.folders)).1,
        LiesIn directory folder.name program → program ∈ (ofEntry directory folder).1) ∧
      (scan directory (some listing.folders)).2.filter
          (ScanFailure.isOf directory folder.name) = (ofEntry directory folder).2 ∧
      ∀ file, (scan directory (some listing.folders)).1.countP
          (fun program => program.path = pathIn directory folder.name file) =
        (ofEntry directory folder).1.countP
          (fun program => program.path = pathIn directory folder.name file) := by
  obtain ⟨earlier, later, found, -, alien, faultless⟩ := exists_rest directory member
  rw [found]
  refine ⟨fun program among lies => ?_, ?_, fun file => ?_⟩
  · rw [List.append_assoc, List.mem_append, List.mem_append] at among
    rcases among with there | here | there
    · exact absurd lies (alien program (List.mem_append_left _ there))
    · exact here
    · exact absurd lies (alien program (List.mem_append_right _ there))
  · have own : (ofEntry directory folder).2.filter (ScanFailure.isOf directory folder.name) =
        (ofEntry directory folder).2 := List.filter_eq_self.mpr fun _ => isOf_of_mem
    rw [List.filter_append, List.append_eq_nil_iff] at faultless
    rw [List.filter_append, List.filter_append, faultless.1, faultless.2, own]
    simp
  · have nowhere : (earlier.1 ++ later.1).countP
        (fun program => program.path = pathIn directory folder.name file) = 0 :=
      List.countP_eq_zero.mpr fun program among path =>
        alien program among ⟨file, of_decide_eq_true path⟩
    rw [List.countP_append] at nowhere
    rw [List.countP_append, List.countP_append]
    omega

/-- Each entry meets its fate. -/
theorem fate_of_mem (directory : String) (member : folder ∈ listing.folders) :
    Fate directory (scan directory (some listing.folders)) folder := by
  obtain ⟨programs, failures, counted⟩ := own_of_mem directory member
  cases number : uint64? folder.name with
  | none =>
    rw [ofEntry_of_badFolder number] at programs failures
    exact .badFolder number failures fun program among lies => nomatch programs program among lies
  | some seconds =>
    cases listed : folder.files with
    | none =>
      rw [ofEntry_of_unreadable number listed] at programs failures
      exact .unreadable number listed failures
        fun program among lies => nomatch programs program among lies
    | some files =>
      rw [ofEntry_of_files number listed] at programs failures counted
      refine .registered number listed (fun file among => ?_) (fun program among lies => ?_)
        failures
      · rw [counted]
        exact countP_ofFolder (listing.files folder member files listed).distinct among
      · obtain ⟨file, here, _, rfl⟩ := mem_ofFolder_iff.mp (programs program among lies)
        exact ⟨rfl, file, here, rfl⟩

/-- What partners have in common is the same along two lists of partners. -/
theorem map_eq_of_forall₂ {Related : FolderEntry → FolderEntry → Prop} {Result : Type}
    {value : FolderEntry → Result} {folders others : List FolderEntry}
    (pairs : List.Forall₂ Related folders others)
    (same : ∀ folder, ∀ other ∈ others, Related folder other → value folder = value other) :
    folders.map value = others.map value := by
  induction pairs with
  | nil => rfl
  | cons related _ inductionHypothesis =>
    rw [List.map_cons, List.map_cons, same _ _ List.mem_cons_self related,
      inductionHypothesis fun folder other member => same folder other
        (List.mem_cons_of_mem _ member)]

/-- In whatever order the directory is listed, the same is found. -/
theorem scan_of_relists (directory : String) {other : Listing} (relists : listing.Relists other) :
    scan directory (some other.folders) = scan directory (some listing.folders) := by
  obtain ⟨shuffled, perm, same⟩ := relists
  -- The partners of the sorted entries of `other` are the entries of `listing` in the same order.
  obtain ⟨sorted, pairs, among⟩ := List.perm_comp_forall₂
    (sortedByName_perm FolderEntry.name other.folders)
    (List.Forall₂.flip (R := flip FolderEntry.Relists) same)
  have names := map_eq_of_forall₂ pairs fun _ _ _ relists => relists.name
  have inOrder : sorted.Pairwise fun left right => left.name ≤ right.name := by
    have ordered := List.pairwise_map.mpr (sortedByName_pairwise FolderEntry.name other.folders)
    rw [names] at ordered
    exact List.pairwise_map.mp ordered
  have whole := perm.trans among.symm
  have each : (sortedByName FolderEntry.name other.folders).map (ofEntry directory) =
      sorted.map (ofEntry directory) := by
    refine map_eq_of_forall₂ pairs fun relisted folder member relists => ?_
    exact ofEntry_congr (fun files listed =>
      (listing.files folder (whole.mem_iff.mpr member) files listed).distinct) relists
  rw [scan_eq, scan_eq, sortedByName_eq listing.names.distinct whole inOrder, ofEntries, each]
  rfl

/-- A scan registers what a directory holds. -/
theorem scan_registers (directory : String) (listing : Listing) :
    Registers directory listing (scan directory (some listing.folders)) where
  fates _ member := fate_of_mem directory member
  programs program member := by
    rw [scan_eq] at member
    obtain ⟨folder, here, own⟩ := mem_ofEntries_fst.mp member
    exact ⟨folder, mem_sortedFolders.mp here, liesIn_of_mem own⟩
  failures failure member := by
    rw [scan_eq] at member
    obtain ⟨folder, here, own⟩ := mem_ofEntries_snd.mp member
    exact ⟨folder, mem_sortedFolders.mp here, isOf_of_mem own⟩
  ordered := by
    rw [scan_eq]
    obtain ⟨places, paths, proper, sorted⟩ :=
      exists_places directory (sortedByName_ascending listing.names.distinct)
        fun folder here => listing.files folder (mem_sortedFolders.mp here)
    refine ⟨places, paths, fun place there => ?_, sorted⟩
    obtain ⟨folder, here, same⟩ := List.mem_map.mp (proper place there).1
    exact ⟨List.mem_map.mpr ⟨folder, mem_sortedFolders.mp here, same⟩, (proper place there).2⟩
  anyOrder _ relists := scan_of_relists directory relists
  apart folder member := by
    obtain ⟨earlier, later, found, rest, -, -⟩ := exists_rest directory member
    refine ⟨earlier, later, ?_, rest⟩
    rwa [scan_singleton]

example :
    scan "bin" (some
      [⟨"tools", some []⟩, ⟨"9", none⟩,
        ⟨"5", some [⟨"second", true, 0o755⟩, ⟨"notes", true, 0o644⟩, ⟨"first", true, 0o100⟩]⟩]) =
      ([⟨"bin/5/first", 5 * second⟩, ⟨"bin/5/second", 5 * second⟩],
        [.unreadable "bin/9", .badFolder "tools"]) := by
  cbv

end Program

end Telemetry
