-- The command line. Files of the system take the place of the disk, and events are logged to
-- standard error.
import StoreClient.Log.Printer
import StoreClient.Run.Program
import StoreClient.Sqlite.Catalog

namespace StoreClient

namespace Files

/-- The text by which the system knows a path. -/
def pathText (p : Path) : String :=
  if p.isDirectory && !p.parts.isEmpty then p.text ++ "/" else p.text

/-- Whether an action succeeds. -/
def attempt (action : IO Unit) : IO Bool := do
  try
    action
    pure true
  catch _ => pure false

def read (p : Path) : IO (Option ByteArray) := do
  try pure (some (← IO.FS.readBinFile (pathText p))) catch _ => pure none

def isThere (p : Path) : IO Bool := attempt (discard (IO.FS.realPath (pathText p)))

/-- Takes a step. The system has no step of its own for making a change last; an opened file is
flushed when it is written. -/
def step : DiskStep → IO Unit
  | .makeDirectories p => IO.FS.createDirAll (pathText p)
  | .openEmpty p => discard (IO.FS.Handle.mk (pathText p) .write)
  | .write p data => do
    let file ← IO.FS.Handle.mk (pathText p) .write
    file.write data
    file.flush
  | .rename source target => IO.FS.rename (pathText source) (pathText target)
  | .remove p => IO.FS.removeFile (pathText p)
  | .openDirectory p => discard (IO.FS.realPath (pathText p))
  | .syncFile _ | .syncDirectory _ => pure ()

end Files

instance : Disk IO where
  read := Files.read
  isThere := Files.isThere
  dataFile p := do
    match ← Files.read p with
    | none => pure .unopened
    | some data =>
      match Sqlite.catalog? data with
      | some rows => pure (.catalog rows)
      | none => pure .unreadable
  step s := Files.attempt (Files.step s)

/-- The variable of the environment that holds the filter of logged events. -/
def filterVariable : String := "RUST_LOG"

/-- Prints what a run shows; gives its exit code. -/
def Outcome.print (o : Outcome) : IO UInt32 := do
  for e in o.events do
    IO.eprintln (if o.layout = .json then e.jsonLine else e.plainLine)
  IO.print o.output
  match o.error with
  | some message => IO.eprintln ("error: " ++ message)
  | none => if o.exit ≠ 0 then IO.eprint Program.usage
  pure o.exit.toUInt32

end StoreClient

def main (arguments : List String) : IO UInt32 := do
  let outcome : StoreClient.Outcome ←
    StoreClient.Program.run arguments (← IO.getEnv StoreClient.filterVariable)
  outcome.print
