import PushdownLexer.Log.Filter
import PushdownLexer.Scan.Settings

/-!
# Settings of the program

## Main definitions

* `TokenFormat`: how tokens are written.
* `Settings`: all that a settings file can say.
* `RunSettings`: what a run is told.
-/

namespace PushdownLexer

/-- How tokens are written. -/
inductive TokenFormat where
  /-- One line for each token. -/
  | text
  /-- A JSON array. -/
  | json
  deriving DecidableEq, Repr, Inhabited

namespace TokenFormat

/-- All formats. -/
def all : List TokenFormat := [text, json]

/-- The name of a format. -/
def name : TokenFormat → String
  | text => "text"
  | json => "json"

/-- The name of a format in a log entry. -/
def title : TokenFormat → String
  | text => "Text"
  | json => "Json"

/-- The format with a name. -/
def ofName? (s : String) : Option TokenFormat := all.find? (·.name = s)

end TokenFormat

/-- All that a settings file can say. -/
structure Settings where
  scan : ScanSettings := {}
  logLevel : Option LogLevel := none
  scannerLogLevel : Option LogLevel := none
  apiLogLevel : Option LogLevel := none
  format : TokenFormat := .text
  showSource : Bool := false
  deriving DecidableEq, Repr, Inhabited

/-- What a run is told. -/
structure RunSettings where
  scan : ScanSettings := {}
  showSource : Bool := false
  deriving DecidableEq, Repr, Inhabited

/-- What the settings tell a run. -/
def Settings.run (s : Settings) : RunSettings := ⟨s.scan, s.showSource⟩

/-- The run for which it is a failure if the text ends in a state that was entered and not left. -/
def RunSettings.strict (r : RunSettings) : RunSettings :=
  { r with scan := { r.scan with strict := true } }

end PushdownLexer
