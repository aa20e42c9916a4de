import PushdownLexer.Log.Level
import PushdownLexer.Scan.Event
import PushdownLexer.Text.Quoted

/-!
# Log entries

An entry of the log is an event of one of the parts of the program. It is written on a line: the
level, what happened, and what is known about it.

## Main definitions

* `LogEntry`: the entries.
* `LogEntry.source`, `LogEntry.level`: where an entry comes from, and how severe it is.
* `LogEntry.line`: the written form.
-/

namespace PushdownLexer

/-- An entry of the log. -/
inductive LogEntry where
  /-- The program begins with a file; `format` is the form of its output. -/
  | programStarted (file format : String)
  | readingSource (path : String)
  | tokenizationStarted (bytes : Nat)
  | tokenizationCompleted (tokens length : Nat)
  | scan (event : ScanEvent)
  deriving DecidableEq, Repr, Inhabited

namespace LogEntry

/-- Where an entry comes from. -/
def source : LogEntry → LogSource
  | programStarted .. => .cli
  | readingSource _ | tokenizationStarted _ | tokenizationCompleted .. => .api
  | scan _ => .scanner

/-- How severe an entry is. -/
def level : LogEntry → LogLevel
  | programStarted .. | readingSource _ => .debug
  | tokenizationStarted _ | tokenizationCompleted .. => .info
  | scan (.matched ..) => .trace
  | scan (.failed _) => .warn
  | scan (.started ..) | scan (.left ..) | scan (.entered ..) | scan (.finished ..) => .debug

/-- What happened. -/
def message : LogEntry → String
  | programStarted .. => "Starting"
  | readingSource _ => "Reading source"
  | tokenizationStarted _ => "Starting tokenization"
  | tokenizationCompleted .. => "Tokenization completed"
  | scan (.started ..) => "Starting scan"
  | scan (.matched ..) => "Rule matched"
  | scan (.left ..) => "Popped state"
  | scan (.entered ..) => "Pushed state"
  | scan (.failed f) => f.message
  | scan (.finished ..) => "Scan finished"

/-- What is known about it, by name. -/
def fields : LogEntry → List (String × String)
  | programStarted file format => [("file", file), ("format", format)]
  | readingSource path => [("path", path)]
  | tokenizationStarted bytes => [("bytes", toString bytes)]
  | tokenizationCompleted tokens length =>
    [("tokens", toString tokens), ("position", toString length)]
  | scan (.started length state states) =>
    [("len", toString length), ("state", state), ("states", toString states)]
  | scan (.matched state offset length pattern hasToken) =>
    [("state", state), ("position", toString offset), ("len", toString length),
     ("pattern", quoted pattern), ("emitted", if hasToken then "true" else "false")]
  | scan (.left state active) => [("from", state), ("to", active)]
  | scan (.entered state depth) => [("to", state), ("depth", toString depth)]
  | scan (.failed f) => [("kind", f.kind)]
  | scan (.finished tokens length state) =>
    [("tokens", toString tokens), ("position", toString length), ("state", state)]

/-- The names of its fields, the message among them. -/
def fieldNames (e : LogEntry) : List String := "message" :: e.fields.map (·.1)

/-- A character of a message; controls that could steer a terminal are shown. -/
def messageChar (c : Char) : List Char :=
  if c = '\x1B' ∨ c = '\x07' ∨ c = '\x08' ∨ c = '\x0C' ∨ c = '\x7F' then
    ['\\', 'x', Nat.digitChar (c.toNat / 16), Nat.digitChar (c.toNat % 16)]
  else if 0x80 ≤ c.toNat ∧ c.toNat ≤ 0x9F then codePointEscape c
  else [c]

/-- The name of a level in five columns. -/
def levelColumn (l : LogLevel) : String :=
  let name := l.capitals
  String.ofList (List.replicate (5 - name.length) ' ') ++ name

/-- The written form of an entry. -/
def line (e : LogEntry) : String :=
  let message := String.ofList (e.message.toList.flatMap messageChar)
  " ".intercalate
    (levelColumn e.level :: message :: e.fields.map fun (name, value) => name ++ "=" ++ value)

end LogEntry

end PushdownLexer
