-- Writing a file so that readers never see half of it: the data goes into a file beside
-- the target, which then takes the target's name.
import StoreClient.Disk.Basic

namespace StoreClient

/-- Why a file is not written. -/
inductive WriteFault where
  /-- The path names no file. -/
  | noFileName
  | failed
deriving DecidableEq, Repr

namespace Disk

variable {m : Type → Type} [Monad m] [Disk m]

/-- The steps in order, up to the first that fails. -/
def steps : List DiskStep → m Bool
  | [] => pure true
  | s :: rest => do
    if ← step s then steps rest else pure false

/-- The file beside a file into which its data goes first. -/
def stagePath (path : Path) (fileName : String) : Path :=
  path.withFileName ("." ++ fileName ++ ".tmp")

/-- Writes a file by way of a file beside it. What is left of that file when a step fails is
removed. -/
def writeStaged (path stage : Path) (data : ByteArray) : m Bool := do
  if ← steps [.openEmpty stage, .write stage data, .syncFile stage, .rename stage path] then
    pure true
  else
    let _ ← step (.remove stage)
    pure false

/-- Writes a file, together with the directories around it. -/
def writeFile (path : Path) (data : ByteArray) : m (Except WriteFault Unit) := do
  let parent := path.parent?
  if !(← steps (parent.toList.map .makeDirectories)) then pure (.error .failed)
  else
    match path.fileName? with
    | none => pure (.error .noFileName)
    | some name =>
      if !(← writeStaged path (stagePath path name) data) then pure (.error .failed)
      else if ← steps (parent.toList.flatMap fun p => [.openDirectory p, .syncDirectory p]) then
        pure (.ok ())
      else pure (.error .failed)

end Disk

end StoreClient
