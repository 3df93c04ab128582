-- Logged events as lines of text.
import StoreClient.Json.Printer
import StoreClient.Log.Basic

namespace StoreClient

namespace Event

/-- The event as a line of JSON. -/
def jsonLine (e : Event) : String :=
  (Json.object
    [("level", .text e.level.name), ("fields", .object e.fields),
     ("target", .text e.origin)]).compactText

/-- The event as a line to be read. -/
def plainLine (e : Event) : String :=
  let details := e.fields.map fun (key, value) => key ++ ": " ++ value.compactText
  e.level.name ++ " " ++ e.origin ++ ": " ++ ", ".intercalate details

end Event

end StoreClient
