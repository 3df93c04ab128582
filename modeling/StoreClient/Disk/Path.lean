-- Paths by their parts. Repeated slashes and single dots count for nothing, a dot at the
-- start of a path apart; what a path means is left to the tree of files.

namespace StoreClient

/-- A part of a path. -/
inductive PathPart where
  /-- The dot at the start of a path. -/
  | here
  | up
  | name (name : String)
deriving DecidableEq, Repr

/-- A path: whether it starts at the root, its parts, and whether only a directory can stand at
it, as after a slash at the end. -/
structure Path where
  isRooted : Bool
  parts : List PathPart
  isDirectory : Bool
deriving DecidableEq, Repr, Inhabited

namespace Path

/-! ## From text and back -/

/-- The text between slashes. -/
def pieces : List Char → List (List Char)
  | [] => [[]]
  | c :: rest =>
    match pieces rest with
    | piece :: others => if c = '/' then [] :: piece :: others else (c :: piece) :: others
    | [] => [[c]]

/-- The part that a piece of text stands for, unless it counts for nothing. -/
def partOf? (isFirst : Bool) (piece : List Char) : Option PathPart :=
  match piece with
  | [] => none
  | ['.'] => if isFirst then some .here else none
  | ['.', '.'] => some .up
  | cs => some (.name (String.ofList cs))

def ofText (text : String) : Path :=
  match pieces text.toList with
  | [] => ⟨false, [], false⟩
  | first :: rest =>
    let isRooted := first.isEmpty && !rest.isEmpty
    let last := rest.getLast?.getD first
    { isRooted, parts := (partOf? true first).toList ++ rest.filterMap (partOf? false),
      isDirectory := !rest.isEmpty && (last = [] || last = ['.']) }

def partText : PathPart → String
  | .here => "."
  | .up => ".."
  | .name name => name

/-- The shortest text of a path. -/
def text (p : Path) : String :=
  (if p.isRooted then "/" else "") ++ "/".intercalate (p.parts.map partText)

/-! ## Names -/

/-- The name of the file at a path, if the path ends in a name. -/
def fileName? (p : Path) : Option String :=
  match p.parts.getLast? with
  | some (.name name) => some name
  | _ => none

/-- What follows the last dot of a file name; a dot at its start does not count. -/
def extension? (p : Path) : Option String :=
  match p.fileName? with
  | none => none
  | some name =>
    let backwards := name.toList.reverse
    match backwards.dropWhile (· ≠ '.') with
    | _ :: _ :: _ => some (String.ofList (backwards.takeWhile (· ≠ '.')).reverse)
    | _ => none

/-- Whether the path has one of some extensions, in capitals or not. -/
def hasExtension (p : Path) (extensions : List String) : Bool :=
  match p.extension? with
  | some e => extensions.contains (String.ofList (e.toList.map Char.toLower))
  | none => false

/-- The directory around a path; nothing for a bare name, and nothing around the root. -/
def parent? (p : Path) : Option Path :=
  match p.parts with
  | [] => none
  | parts =>
    if parts.length = 1 && !p.isRooted then none
    else some ⟨p.isRooted, parts.dropLast, false⟩

/-- The path of another file in the same directory. -/
def withFileName (p : Path) (name : String) : Path :=
  ⟨p.isRooted, p.parts.dropLast ++ [.name name], false⟩

end Path

end StoreClient
