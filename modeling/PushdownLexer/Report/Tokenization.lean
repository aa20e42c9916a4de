import PushdownLexer.Assembly.Dialect
import PushdownLexer.Log.Entry
import PushdownLexer.Report.Failure
import PushdownLexer.Settings.Decode

/-!
# Tokenizing sources and loading settings

The operations of the program, with the log entries that they make.

## Main definitions

* `Tokenization`, `tokenizeSource`: tokenize a source.
* `sourceText`: the text of a file.
* `loadSettings`: the settings in a file.
-/

namespace PushdownLexer

/-- The end of a tokenization: its result, and the log in order. -/
structure Tokenization where
  result : Except Failure (Scanned Assembly.Kind)
  log : List LogEntry

/-- Tokenize a source. -/
def tokenizeSource (settings : RunSettings) (source : List Char) : Tokenization :=
  let outcome := Assembly.scanSource settings.scan source
  let log := .tokenizationStarted (byteLength source) :: outcome.events.map .scan
  match outcome.result with
  | .ok out => ⟨.ok out, log ++ [.tokenizationCompleted out.tokens.length out.length]⟩
  | .error f => ⟨.error (.scan f), log⟩

/-- The text of a file, from its bytes. -/
def sourceText (path : String) (content : Except ReadFault ByteArray) : Except Failure String :=
  match content with
  | .error fault => .error (.io path fault.message)
  | .ok bytes =>
    match String.fromUTF8? bytes with
    | some text => .ok text
    | none => .error (.io path ReadFault.notText.message)

/-- The settings in a file, from its bytes. -/
def loadSettings (path : String) (content : Except ReadFault ByteArray) :
    Except Failure Settings := do
  match Settings.ofDocument? (← sourceText path content) with
  | some settings => return settings
  | none => .error (.settings (path ++ ": not a settings document"))

end PushdownLexer
