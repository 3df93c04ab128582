-- What a run logs: events, each with a level, the part of the program that it comes from, a
-- name and some details.
import StoreClient.Json.Basic

namespace StoreClient

/-- How much an event matters. -/
inductive LogLevel where
  | error
  | warn
  | info
  | debug
  | trace
deriving DecidableEq, Repr, Inhabited

namespace LogLevel

def all : List LogLevel := [error, warn, info, debug, trace]

def name : LogLevel → String
  | error => "ERROR"
  | warn => "WARN"
  | info => "INFO"
  | debug => "DEBUG"
  | trace => "TRACE"

/-- The number of the level: the less an event matters, the higher. -/
def rank : LogLevel → Nat
  | error => 1
  | warn => 2
  | info => 3
  | debug => 4
  | trace => 5

end LogLevel

structure Event where
  level : LogLevel
  /-- The part of the program. -/
  origin : String
  name : String
  details : List (String × Json)
deriving Inhabited

namespace Event

/-- The keys under which the event is logged. -/
def keys (e : Event) : List String := "event" :: e.details.map (·.1)

/-- The details together with the name of the event. -/
def fields (e : Event) : List (String × Json) := ("event", .text e.name) :: e.details

end Event

end StoreClient
