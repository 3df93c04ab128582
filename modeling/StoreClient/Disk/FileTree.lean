-- A disk as a value: the directories and files below a root, and a plan of which of the
-- coming steps fail.
import StoreClient.Disk.Basic

namespace StoreClient

/-- What stands at a place of a file tree. -/
inductive Entry where
  | directory
  | file (data : ByteArray)
  /-- The data file of a store, with the rows of its catalog. -/
  | store (rows : List CatalogRow)
deriving Inhabited

namespace Entry

def isDirectory : Entry → Bool
  | directory => true
  | _ => false

end Entry

/-- A place: the names of the directories down to it, and its own name. -/
abbrev Place := List String

/-- A tree of files, and the place of the directory in which relative paths begin. The root
itself is always there and has no entry. There are no links, so a path leads where its parts say;
and to read the data file of a store leaves the tree as it is. -/
structure FileTree where
  entries : List (Place × Entry)
  working : Place
deriving Inhabited

namespace FileTree

/-! ## Places -/

def entry? (t : FileTree) (place : Place) : Option Entry :=
  if place.isEmpty then some .directory else t.entries.lookup place

def isDirectory (t : FileTree) (place : Place) : Bool := (t.entry? place).any Entry.isDirectory

/-- A name of a file: not too long, and without a zero character. -/
def isUsable (name : String) : Bool := name.utf8ByteSize ≤ 255 && !name.toList.contains '\x00'

/-- The place that some parts lead to from a directory. All but the last place on the way must
be directories. -/
def follow? (t : FileTree) : Place → List PathPart → Option Place
  | place, [] => some place
  | place, part :: rest =>
    if !t.isDirectory place then none
    else
      match part with
      | .here => t.follow? place rest
      | .up => t.follow? place.dropLast rest
      | .name name => if isUsable name then t.follow? (place ++ [name]) rest else none

def start (t : FileTree) (p : Path) : Place := if p.isRooted then [] else t.working

/-- The place of a path. -/
def place? (t : FileTree) (p : Path) : Option Place :=
  if p.parts.isEmpty && !p.isRooted then none else t.follow? (t.start p) p.parts

/-- What stands at a path. -/
def at? (t : FileTree) (p : Path) : Option Entry :=
  match (t.place? p).bind t.entry? with
  | some entry => if p.isDirectory && !entry.isDirectory then none else some entry
  | none => none

/-! ## Changes -/

def insert (t : FileTree) (place : Place) (entry : Entry) : FileTree :=
  { t with entries := (place, entry) :: t.entries.filter fun e => e.1 ≠ place }

def erase (t : FileTree) (place : Place) : FileTree :=
  { t with entries := t.entries.filter fun e => e.1 ≠ place }

/-- Makes the directories that are missing on the way down some parts, and gives the tree also
where a part is in the way. -/
def makeDirectories (t : FileTree) : Place → List PathPart → Bool × FileTree
  | _, [] => (true, t)
  | place, .here :: rest => t.makeDirectories place rest
  | place, .up :: rest => t.makeDirectories place.dropLast rest
  | place, .name name :: rest =>
    let next := place ++ [name]
    match t.entry? next with
    | some .directory => t.makeDirectories next rest
    | some _ => (false, t)
    | none =>
      if isUsable name then (t.insert next .directory).makeDirectories next rest else (false, t)

/-- The place at which a file may be written: its directory is there and it is no directory. -/
def filePlace? (t : FileTree) (p : Path) : Option Place :=
  if p.isDirectory then none
  else
    match t.place? p with
    | some place =>
      if t.isDirectory place || !t.isDirectory place.dropLast then none else some place
    | none => none

/-- The tree after a step, and whether the step could be taken. -/
def after (t : FileTree) : DiskStep → Bool × FileTree
  | .makeDirectories p => t.makeDirectories (t.start p) p.parts
  | .openEmpty p =>
    match t.filePlace? p with
    | some place => (true, t.insert place (.file ByteArray.empty))
    | none => (false, t)
  | .write p data =>
    match t.filePlace? p with
    | some place => (true, t.insert place (.file data))
    | none => (false, t)
  | .rename source target =>
    match t.filePlace? source, t.filePlace? target with
    | some old, some new =>
      match t.entry? old with
      | some entry => (true, (t.erase old).insert new entry)
      | none => (false, t)
    | _, _ => (false, t)
  | .remove p =>
    match t.filePlace? p with
    | some place => if (t.entry? place).isSome then (true, t.erase place) else (false, t)
    | none => (false, t)
  | .openDirectory p => ((t.at? p).any Entry.isDirectory, t)
  | .syncFile _ | .syncDirectory _ => (true, t)

/-- The tree after a step that fails when part of it is done: some of the directories are made,
or some of the data is written. -/
def afterPart (t : FileTree) (done : Nat) : DiskStep → FileTree
  | .makeDirectories p => (t.makeDirectories (t.start p) (p.parts.take done)).2
  | .write p data => (t.after (.write p (data.extract 0 (min done data.size)))).2
  | _ => t

/-! ## Files -/

/-- The paths of all files below the working directory. -/
def files (t : FileTree) : List Place :=
  t.entries.filterMap fun (place, entry) =>
    if entry.isDirectory || place.take t.working.length ≠ t.working then none
    else some (place.drop t.working.length)

end FileTree

/-! ## The disk of a file tree -/

/-- A file tree with the plan of which coming steps fail: for each step in turn nothing, or how
much of it is done when it fails. Steps beyond the plan do not fail by plan. -/
structure PlannedDisk where
  tree : FileTree
  plan : List (Option Nat)

namespace PlannedDisk

/-- A disk no step of which fails by plan. -/
def ofTree (tree : FileTree) : PlannedDisk := ⟨tree, []⟩

def step (s : DiskStep) (d : PlannedDisk) : Bool × PlannedDisk :=
  match d.plan with
  | some done :: rest => (false, ⟨d.tree.afterPart done s, rest⟩)
  | none :: rest =>
    let (isTaken, tree) := d.tree.after s
    (isTaken, ⟨tree, rest⟩)
  | [] =>
    let (isTaken, tree) := d.tree.after s
    (isTaken, ⟨tree, []⟩)

end PlannedDisk

instance : Disk (StateM PlannedDisk) where
  read p := fun d => (match d.tree.at? p with
    | some (.file data) => some data
    | _ => none, d)
  isThere p := fun d => ((d.tree.at? p).isSome, d)
  dataFile p := fun d => (match d.tree.at? p with
    | some (.file _) => .unreadable
    | some (.store rows) => .catalog rows
    | _ => .unopened, d)
  step s := fun d => d.step s

end StoreClient
