/-
This file holds trees of files as a value.

A tree lists what stands at each path below one root: a file with its permission bits and its
content, a folder, or a link to another path. A path is resolved component by component. A link is
replaced by its target, and after forty links the path is given up, so that links in a circle lead
nowhere.
-/

import Telemetry.Program.Directory

namespace Telemetry

/-- What stands at a path. -/
inductive Node where
  | file (mode : Nat) (content : Bytes)
  | folder
  | link (target : String)
  deriving DecidableEq, Repr

/-- A tree: what stands at each path, given by the names that lead there from the root. -/
structure Tree where
  nodes : List (List String × Node)
  deriving DecidableEq, Repr

namespace Tree

/-- What stands at a path without looking through links. The root is a folder. -/
def node? (tree : Tree) (path : List String) : Option Node :=
  if path = [] then some .folder
  else (tree.nodes.find? fun entry => entry.1 = path).map (·.2)

/-- Puts a folder at every path that leads to a given one, where nothing stands yet. -/
def withFolders (tree : Tree) (path : List String) : Tree :=
  (List.range path.length).foldl (fun tree length =>
    if (tree.node? (path.take length)).isSome then tree
    else ⟨tree.nodes ++ [(path.take length, .folder)]⟩) tree

/-- Puts something at a path, and folders on the way to it. -/
def put (tree : Tree) (path : List String) (node : Node) : Tree :=
  let grown := tree.withFolders path
  ⟨grown.nodes.filter (fun entry => entry.1 ≠ path) ++ [(path, node)]⟩

/-- The components of a path. -/
def components (path : String) : List String := pieces '/' path

/-- The names on a path that stays below the root. -/
def names (path : String) : List String :=
  (components path).filter fun name => name ≠ "" ∧ name ≠ "."

/-- Follows components from a folder. Links are looked through `links` times at most. -/
def follow (tree : Tree) (links : Nat) (folder : List String) : List String → Option (List String)
  | [] => some folder
  | "" :: rest => tree.follow links folder rest
  | "." :: rest => tree.follow links folder rest
  | ".." :: rest => if folder = [] then none else tree.follow links folder.dropLast rest
  | name :: rest =>
    let path := folder ++ [name]
    match tree.node? path with
    | none => none
    | some .folder => tree.follow links path rest
    | some (.file _ _) => if rest = [] then some path else none
    | some (.link target) =>
      match links with
      | 0 => none
      | links + 1 =>
        if target.toList.head? = some '/' then none
        else tree.follow links folder (components target ++ rest)
  termination_by rest => (links, rest.length)

/-- Where a path leads, if it leads anywhere. An empty path leads nowhere, and neither does one that
leaves the tree. -/
def resolve? (tree : Tree) (path : String) : Option (List String) :=
  if path = "" || path.toList.head? = some '/' then none else tree.follow 40 [] (components path)

/-- The names in a folder. -/
def namesIn (tree : Tree) (folder : List String) : List String :=
  tree.nodes.filterMap fun entry =>
    if entry.1.dropLast = folder then entry.1.getLast? else none

/-- The content of a file. -/
def read? (tree : Tree) (path : String) : Option Bytes :=
  match (tree.resolve? path).bind tree.node? with
  | some (.file _ content) => some content
  | _ => none

/-- An entry of a folder as a scan sees it. -/
def fileEntry (tree : Tree) (folder : List String) (name : String) : FileEntry :=
  match tree.node? (folder ++ [name]) with
  | some (.file mode _) => ⟨name, true, mode⟩
  | _ => ⟨name, false, 0⟩

/-- What is in a folder, if the path leads to one. -/
def filesIn? (tree : Tree) (path : Option (List String)) : Option (List FileEntry) :=
  match path with
  | none => none
  | some folder =>
    match tree.node? folder with
    | some .folder => some ((tree.namesIn folder).map (tree.fileEntry folder))
    | _ => none

/-- The entries of a directory as a scan sees them. -/
def folders? (tree : Tree) (path : String) : Option (List FolderEntry) :=
  match tree.resolve? path with
  | none => none
  | some folder =>
    match tree.node? folder with
    | some .folder =>
      some ((tree.namesIn folder).map fun name =>
        ⟨name, tree.filesIn? (tree.follow 40 folder [name])⟩)
    | _ => none

end Tree

end Telemetry
