import PushdownLexer.Assembly.Kind
import PushdownLexer.Assembly.Number
import PushdownLexer.Scan.Machine

/-!
# The assembly dialect

The dialect has two states: `root` for instructions and `string` for the inside of a quoted text.
The order of the rules matters: numbers with a base come before plain ones, and labels before bare
words.

## Main definitions

* `Assembly.instructionRules`, `Assembly.quotationRules`: the rules of the two states.
* `Assembly.rulebook`: the rules of both.
* `Assembly.scanSource`: scan a text of the dialect.
-/

namespace PushdownLexer.Assembly

/-- The state of instructions. -/
def instructions : String := "root"

/-- The state inside a quoted text. -/
def quotation : String := "string"

/-- A text without its first `n` bytes, if it has so many and a character ends there. -/
def dropBytes? (n : Nat) (text : List Char) : Option (List Char) :=
  (splitAtByte? n text).map (·.2)

/-- No token. -/
def none? (_ : String) : Option Kind := none

/-- A line end. -/
def newline? (_ : String) : Option Kind := some .newline

/-- An arrow. -/
def arrow? (_ : String) : Option Kind := some .arrow

/-- A bare word. -/
def symbol? (matched : String) : Option Kind := some (.symbol matched)

/-- The inside of a quoted text. -/
def text? (matched : String) : Option Kind := some (.text matched)

/-- A number without a mark of its base. -/
def decimal? (matched : String) : Option Kind := some (.number (parseDigits matched.toList 10))

/-- A number with the mark of its base in front. -/
def marked? (base : Nat) (matched : String) : Option Kind :=
  (dropBytes? 2 matched.toList).map fun digits => .number (parseDigits digits base)

/-- A label, from the word with its colon. -/
def label? (matched : String) : Option Kind :=
  let cs := matched.toList
  if cs.getLast? = some ':' then some (.label (String.ofList cs.dropLast)) else none

/-- The name of a macro, from the word with its sign. -/
def macroName? (matched : String) : Option Kind :=
  match matched.toList with
  | '@' :: name => some (.macroName (String.ofList name))
  | _ => none

/-- The rules for instructions. -/
def instructionRules : Except ScanFault (List (Rule Kind)) := do
  return [
    ← Rule.ofPattern "\\n" .stay newline?,
    ← Rule.ofPattern "[^\\S\\n]+" .stay none?,
    ← Rule.ofPattern ";[^\\n]*" .stay none?,
    ← Rule.ofPattern "0x[0-9a-fA-F]+" .stay (marked? 16),
    ← Rule.ofPattern "0b[01]+" .stay (marked? 2),
    ← Rule.ofPattern "[0-9]+" .stay decimal?,
    ← Rule.ofPattern "->" .stay arrow?,
    ← Rule.ofPattern "\"" (.enter quotation) none?,
    ← Rule.ofPattern "[a-zA-Z_]+:" .stay label?,
    ← Rule.ofPattern "@[a-zA-Z_]+" .stay macroName?,
    ← Rule.ofPattern "[a-zA-Z_]+" .stay symbol?]

/-- The rules for the inside of a quoted text. -/
def quotationRules : Except ScanFault (List (Rule Kind)) := do
  return [
    ← Rule.ofPattern "[^\"]+" .stay text?,
    ← Rule.ofPattern "\"" .leave none?]

/-- The rules of the dialect. -/
def rulebook : Except ScanFault (Rulebook Kind) := do
  return (Rulebook.empty.insert instructions (← instructionRules)).insert quotation
    (← quotationRules)

/-- Scan a text of the dialect. -/
def scanSource (settings : ScanSettings) (text : List Char) : ScanOutcome Kind :=
  match rulebook with
  | .ok book => scan book settings text
  | .error f => ⟨.error f, []⟩

end PushdownLexer.Assembly
