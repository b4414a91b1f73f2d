/-
This file holds what a scan of a directory has to find, said of each entry of the directory alone.

A system lists the entries of a folder in an order of its own, each name once. An entry of the
directory is either a folder whose programs are registered, or one failure is reported for it, and
never both. What belongs to an entry is told from the paths of the programs and from what the
failures name.
-/

import Mathlib.Data.List.Forall2
import Telemetry.Program.Directory

namespace Telemetry

/-! ### Listings -/

/-- Names as a system lists them: none of them twice, and each one a component of a path. -/
structure AreListed (names : List String) : Prop where
  distinct : names.Nodup
  component : ∀ name ∈ names, name ≠ "" ∧ '/' ∉ name.toList

/-- The entries of a directory, in an order in which a system lists them. -/
structure Listing where
  folders : List FolderEntry
  names : AreListed (folders.map FolderEntry.name)
  files : ∀ folder ∈ folders, ∀ files ∈ folder.files, AreListed (files.map FileEntry.name)

/-- The same entry of a directory, with what is in it in any order. -/
structure FolderEntry.Relists (folder other : FolderEntry) : Prop where
  name : other.name = folder.name
  files : Option.Rel List.Perm folder.files other.files

/-- The same directory, with its entries and what is in each of them in any order. -/
def Listing.Relists (listing other : Listing) : Prop :=
  ∃ shuffled, listing.folders.Perm shuffled ∧
    List.Forall₂ FolderEntry.Relists shuffled other.folders

/-! ### What belongs to an entry -/

/-- Whether a failure is one that an entry of a directory can have. -/
def ScanFailure.isOf (directory folder : String) (failure : ScanFailure) : Bool :=
  failure = .badFolder folder || failure = .unreadable (Program.joinPath directory folder)

namespace Program

/-- Whether an entry of a folder is a program: a file that anybody may execute. -/
def isProgram (file : FileEntry) : Bool := file.isFile && isExecutable file.mode

/-- The path of a file in a folder of a directory. -/
def pathIn (directory folder file : String) : String := joinPath (joinPath directory folder) file

/-- The path of a program leads through an entry of a directory. -/
def LiesIn (directory folder : String) (program : Program) : Prop :=
  ∃ file, program.path = pathIn directory folder file

/-- What becomes of an entry of a directory. -/
inductive Fate (directory : String) (found : List Program × List ScanFailure)
    (folder : FolderEntry) : Prop where
  /-- Every file in the folder that can be executed is a program once, every other one never, and
  these are all programs in the folder. -/
  | registered {seconds : Nat} {files : List FileEntry}
      (number : uint64? folder.name = some seconds) (listed : folder.files = some files)
      (once : ∀ file ∈ files,
        found.1.countP (fun program => program.path = pathIn directory folder.name file.name) =
          if isProgram file then 1 else 0)
      (others : ∀ program ∈ found.1, LiesIn directory folder.name program →
        program.interval = seconds * second ∧
          ∃ file ∈ files, program.path = pathIn directory folder.name file.name)
      (faultless : found.2.filter (ScanFailure.isOf directory folder.name) = [])
  | badFolder (number : uint64? folder.name = none)
      (reported : found.2.filter (ScanFailure.isOf directory folder.name) =
        [.badFolder folder.name])
      (none : ∀ program ∈ found.1, ¬LiesIn directory folder.name program)
  | unreadable {seconds : Nat} (number : uint64? folder.name = some seconds)
      (unlisted : folder.files = none)
      (reported : found.2.filter (ScanFailure.isOf directory folder.name) =
        [.unreadable (joinPath directory folder.name)])
      (none : ∀ program ∈ found.1, ¬LiesIn directory folder.name program)

/-- What was found is what the entries of a directory hold. -/
structure Registers (directory : String) (listing : Listing)
    (found : List Program × List ScanFailure) : Prop where
  fates : ∀ folder ∈ listing.folders, Fate directory found folder
  /-- Every program and every failure belongs to an entry. -/
  programs : ∀ program ∈ found.1, ∃ folder ∈ listing.folders, LiesIn directory folder.name program
  failures : ∀ failure ∈ found.2, ∃ folder ∈ listing.folders, failure.isOf directory folder.name
  /-- The programs stand in the order of their folders and, in a folder, of their names. -/
  ordered : ∃ places : List (String × String),
    found.1.map Program.path = places.map (fun place => pathIn directory place.1 place.2) ∧
      (∀ place ∈ places,
        place.1 ∈ listing.folders.map FolderEntry.name ∧ '/' ∉ place.2.toList) ∧
      places.Pairwise fun first second =>
        first.1 < second.1 ∨ first.1 = second.1 ∧ first.2 < second.2
  /-- In whatever order the directory is listed, the same is found. -/
  anyOrder : ∀ other, listing.Relists other → scan directory (some other.folders) = found
  /-- Without one of the entries everything is found but what this entry gives alone. -/
  apart : ∀ folder ∈ listing.folders, ∃ earlier later : List Program × List ScanFailure,
    let alone := scan directory (some [folder])
    found = (earlier.1 ++ alone.1 ++ later.1, earlier.2 ++ alone.2 ++ later.2) ∧
      scan directory (some (listing.folders.erase folder)) =
        (earlier.1 ++ later.1, earlier.2 ++ later.2)

end Program

end Telemetry
