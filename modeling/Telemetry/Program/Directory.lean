/-
This file finds the external programs in a directory.

The folders of the directory are named for the time between two starts of the programs in them, in
seconds. Every executable file of such a folder is a program. A folder whose name is no number, and
one that cannot be listed, are reported and do not touch the others. Folders and files are taken in
the order of their names, whatever the order in which the system lists them.
-/

import Telemetry.Program.Basic
import Telemetry.Text.Integer

namespace Telemetry

/-- A file or another entry in a folder, as the scan sees it. -/
structure FileEntry where
  name : String
  /-- Whether the entry itself is a file: a link to a file is none. -/
  isFile : Bool
  /-- The permission bits. -/
  mode : Nat
  deriving DecidableEq, Repr

/-- An entry of the directory: its name, and what is in it if it can be listed. -/
structure FolderEntry where
  name : String
  files : Option (List FileEntry)
  deriving DecidableEq, Repr

/-- Why a part of the directory is not registered. -/
inductive ScanFailure where
  /-- The name of a folder is no number of seconds. -/
  | badFolder (name : String)
  | unreadable (path : String)
  deriving DecidableEq, Repr

namespace Program

/-- The path of an entry of a directory. -/
def joinPath (directory name : String) : String :=
  match directory.toList.getLast? with
  | none => name
  | some '/' => directory ++ name
  | some _ => directory ++ "/" ++ name

/-- Whether anybody may execute a file with these permission bits. -/
def isExecutable (mode : Nat) : Bool := mode % 2 == 1 || mode / 8 % 2 == 1 || mode / 64 % 2 == 1

/-- Things in the order of their names. -/
def sortedByName {Entry : Type} (name : Entry → String) (entries : List Entry) : List Entry :=
  entries.mergeSort fun left right => decide (name left ≤ name right)

/-- The programs among the entries of a folder, with the folder's interval. -/
def ofFolder (path : String) (interval : Nat) (files : List FileEntry) : List Program :=
  (sortedByName FileEntry.name (files.filter fun file => file.isFile && isExecutable file.mode)).map
    fun file => ⟨joinPath path file.name, interval⟩

/-- The programs in one folder of the directory. -/
def scanFolder (directory : String) (folder : FolderEntry) : Except ScanFailure (List Program) :=
  match uint64? folder.name with
  | none => .error (.badFolder folder.name)
  | some seconds =>
    match folder.files with
    | none => .error (.unreadable (joinPath directory folder.name))
    | some files => .ok (ofFolder (joinPath directory folder.name) (seconds * second) files)

/-- Adds what a folder holds to what was found so far. -/
def addFolder (directory : String) (found : List Program × List ScanFailure)
    (folder : FolderEntry) : List Program × List ScanFailure :=
  match scanFolder directory folder with
  | .ok programs => (found.1 ++ programs, found.2)
  | .error failure => (found.1, found.2 ++ [failure])

/-- The programs of a directory, and what could not be registered. The directory itself may be
impossible to list. -/
def scan (directory : String) (folders : Option (List FolderEntry)) :
    List Program × List ScanFailure :=
  match folders with
  | none => ([], [.unreadable directory])
  | some folders => (sortedByName FolderEntry.name folders).foldl (addFolder directory) ([], [])

end Program

end Telemetry
