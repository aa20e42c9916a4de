/-!
# Levels and sources of log events

## Main definitions

* `LogLevel`: how severe an event is; `LogLevel.ofName?` reads the name of a level.
* `LogSource`: which part of the program an event comes from.
-/

namespace PushdownLexer

/-- How severe an event is, the least severe first. -/
inductive LogLevel where
  | trace
  | debug
  | info
  | warn
  | error
  deriving DecidableEq, Repr, Inhabited

namespace LogLevel

/-- All levels, the least severe first. -/
def all : List LogLevel := [trace, debug, info, warn, error]

/-- The place of a level among all of them. -/
def rank : LogLevel → Nat
  | trace => 0
  | debug => 1
  | info => 2
  | warn => 3
  | error => 4

/-- The name of a level. -/
def name : LogLevel → String
  | trace => "trace"
  | debug => "debug"
  | info => "info"
  | warn => "warn"
  | error => "error"

/-- The name of a level in capitals. -/
def capitals (l : LogLevel) : String := l.name.map Char.toUpper

/-- The level that is used if none is asked for. -/
def standard : LogLevel := warn

/-- The level with a name, in small letters or capitals; "silent" names the most severe one. -/
def ofName? (s : String) : Option LogLevel :=
  let s := s.map Char.toLower
  if s = "silent" then some error else all.find? (·.name = s)

end LogLevel

/-- A part of the program that events come from. -/
inductive LogSource where
  | scanner
  | api
  | cli
  deriving DecidableEq, Repr, Inhabited

namespace LogSource

/-- All parts. -/
def all : List LogSource := [scanner, api, cli]

/-- The name of a part. -/
def name : LogSource → String
  | scanner => "scanner"
  | api => "api"
  | cli => "cli"

/-- The name under which the events of a part are logged. -/
def target (p : LogSource) : String := "stacklex::" ++ p.name

end LogSource

end PushdownLexer
