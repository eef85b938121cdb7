import Gameshelf.Disk.FileName

/-!
The disk as a value: a tree of files, links and directories. A directory is the list of its entries;
what a listing shows never depends on their order there. Everything on it may be read and written: who may
not is no part of a disk, and only a scan is told of directories that it may not list.
-/

namespace Gameshelf

open Encoding

/-- What a name can stand for. A link holds the path it leads to, in bytes as it is written; special
files hold nothing. -/
inductive Node where
  | file (content : Bytes)
  | link (target : Bytes)
  | special
  | directory (entries : List (FileName × Node))

/-- The names that lead from the root of the disk to an entry, no links among them. -/
abbrev Place := List FileName

namespace Node

/-- The node at a place below a node. -/
def at? : Node → Place → Option Node
  | node, [] => some node
  | .directory entries, name :: rest =>
    match entries.lookup name with
    | some node => node.at? rest
    | none => none
  | _, _ :: _ => none

/-- Entries with one of them put in; an entry of that name is replaced where it stands. -/
def putEntry (name : FileName) (node : Node) : List (FileName × Node) → List (FileName × Node)
  | [] => [(name, node)]
  | (first, old) :: rest =>
    if first = name then (name, node) :: rest else (first, old) :: putEntry name node rest

/-- Entries without those of a name. -/
def dropEntry (name : FileName) (entries : List (FileName × Node)) : List (FileName × Node) :=
  entries.filter (·.1 != name)

/-- Changes the node at a place below a node. `change` gets what stands there, and may leave nothing. -/
def modify (change : Option Node → Option Node) : Place → Option Node → Option Node
  | [], node => change node
  | name :: rest, some (.directory entries) =>
    match modify change rest (entries.lookup name) with
    | some node => some (.directory (putEntry name node entries))
    | none => some (.directory (dropEntry name entries))
  | _ :: _, node => node

def isDirectory : Node → Bool
  | .directory _ => true
  | _ => false

end Node

/-- A disk and where on it the program stands. -/
structure Disk where
  root : Node
  here : Place

namespace Disk

def at? (disk : Disk) (place : Place) : Option Node :=
  disk.root.at? place

/-- A disk with a node put at a place. The directory that is to hold it must be there. -/
def put (disk : Disk) (place : Place) (node : Node) : Disk :=
  { disk with root := (Node.modify (fun _ => some node) place (some disk.root)).getD disk.root }

def erase (disk : Disk) (place : Place) : Disk :=
  { disk with root := (Node.modify (fun _ => none) place (some disk.root)).getD disk.root }

end Disk

end Gameshelf
