-- What a program asks of a disk: reading files, and single steps that change it. A program
-- that writes is a series of steps each of which may fail.
import StoreClient.Catalog.Basic
import StoreClient.Disk.Path

namespace StoreClient

/-- A step that changes a disk, or makes a change last. -/
inductive DiskStep where
  /-- Makes a directory and those around it, where they are missing. -/
  | makeDirectories (path : Path)
  /-- Opens a file for writing; it is empty then. -/
  | openEmpty (path : Path)
  /-- Writes into the file that has been opened at a path. -/
  | write (path : Path) (data : ByteArray)
  /-- Makes what has been written to a file last. -/
  | syncFile (path : Path)
  /-- Gives a file another path; a file that is there already is replaced. -/
  | rename (source target : Path)
  | remove (path : Path)
  | openDirectory (path : Path)
  /-- Makes the names in a directory last. -/
  | syncDirectory (path : Path)

/-- What stands at the path of a data file. -/
inductive DataFile where
  /-- Nothing that could be opened. -/
  | unopened
  /-- No data file, or one without a catalog. -/
  | unreadable
  | catalog (rows : List CatalogRow)

/-- A monad in which a disk can be asked. -/
class Disk (m : Type → Type) where
  /-- The bytes of a file, if there is one that can be read. -/
  read : Path → m (Option ByteArray)
  /-- Whether there is a file or a directory. -/
  isThere : Path → m Bool
  dataFile : Path → m DataFile
  /-- Takes a step; whether it was taken. A step that fails may have been taken in part. -/
  step : DiskStep → m Bool

/-- The text of a file, if there is one that can be read. -/
def Disk.readText {m : Type → Type} [Monad m] [Disk m] (path : Path) : m (Option String) := do
  match ← Disk.read path with
  | some data => pure (String.fromUTF8? data)
  | none => pure none

end StoreClient
