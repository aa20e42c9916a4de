import PushdownLexer.CharClass.Blank
import PushdownLexer.CharClass.Recent
import PushdownLexer.Log.Filter
import PushdownLexer.Pattern.Basic
import PushdownLexer.Text.Bytes

/-!
# Written lists of log directives

The filter of the log may be written as a list with commas. A directive is a level, a target, or
both as in `target=level`; a target may be followed by brackets with the name of a span, by a field
in braces within the brackets, or by both, as in `target[span{field=value}]=level`. Events lie in no
span and their fields have no known values, so directives that ask for either hold of no event.

## Main definitions

* `LogDirective.ofText`: read a directive.
* `LogFilter.ofDirectives`: the filter of a written list.
-/

namespace PushdownLexer

namespace LogDirective

/-- The value of a number without leading signs but one plus. -/
def number? (s : List Char) : Option Nat :=
  let digits := match s with
    | '+' :: rest => rest
    | s => s
  if !digits.isEmpty && digits.all Char.isDigit then
    some (digits.foldl (fun n c => n * 10 + (c.toNat - '0'.toNat)) 0)
  else none

/-- A level: its name in small letters or capitals, or its number from the most severe one. The
inner `none` stands for no events. -/
def level? (s : List Char) : Option (Option LogLevel) :=
  match number? s with
  | some 0 => some none
  | some 1 => some (some .error)
  | some 2 => some (some .warn)
  | some 3 => some (some .info)
  | some 4 => some (some .debug)
  | some 5 => some (some .trace)
  | some _ => none
  | none =>
    let s := String.ofList (s.map Char.toLower)
    if s = "off" then some none else (LogLevel.all.find? (·.name = s)).map some

/-- Why a part of a written list is no directive. -/
inductive Fault where
  | malformed
  | unknownLevel
  | invalidValue
  | wordEdgeInValue
  deriving DecidableEq, Repr, Inhabited

/-- The wording of a fault. -/
def Fault.message : Fault → String
  | malformed => "invalid filter directive"
  | unknownLevel =>
    "error parsing level filter: expected one of \"off\", \"error\", \"warn\", \"info\", " ++
      "\"debug\", \"trace\", or a number 0-5"
  | invalidValue => "invalid field filter: error building NFA"
  | wordEdgeInValue =>
    "invalid field filter: unsupported regex feature for DFAs: cannot build DFAs for regexes " ++
      "with Unicode word boundaries; switch to ASCII word boundaries, or heuristically enable " ++
      "Unicode word boundaries or use a different regex engine"

/-- Whether a level or the name of a target can begin with a character. -/
def isStart (c : Char) : Bool :=
  c == '-' || c == ':' || c == '_' || CharClass.isAlphanumeric c

/-- A text without the blanks at both ends. -/
def trim (s : List Char) : List Char :=
  ((s.dropWhile CharClass.isBlank).reverse.dropWhile CharClass.isBlank).reverse

/-- The characters between two places of a text. -/
def piece (text : List Char) (start stop : Nat) : List Char := (slice? text start stop).getD []

/-- The level written from a place on; if nothing is written there, all events are meant. -/
def levelFrom (text : List Char) (start : Nat) : Except Fault (Option LogLevel) :=
  match piece text start (byteLength text) with
  | [] => .ok (some .trace)
  | s =>
    match level? s with
    | some level => .ok level
    | none => .error .unknownLevel

/-- The level after the brackets. Its place is `start`, and `rest` is what stands there. -/
def levelAfterBrackets (text : List Char) (start : Nat) (rest : List Char) :
    Except Fault (Option LogLevel) :=
  match rest with
  | [] => .ok (some .trace)
  | '=' :: _ => levelFrom text (start + 1)
  | _ => .error .malformed

/-- Whether a text is a whole number with digits alone, after a sign perhaps. -/
def isExponent (s : List Char) : Bool :=
  let digits := match s with
    | '+' :: rest | '-' :: rest => rest
    | s => s
  !digits.isEmpty && digits.all Char.isDigit

/-- Whether a text is a number without a sign: decimal digits, with a point among them perhaps and
an exponent after them perhaps, or the name of what is no finite number. -/
def isNumber (s : List Char) : Bool :=
  let small := s.map Char.toLower
  let (whole, rest) := (small.takeWhile Char.isDigit, small.dropWhile Char.isDigit)
  let (fraction, rest) := match rest with
    | '.' :: rest => (rest.takeWhile Char.isDigit, rest.dropWhile Char.isDigit)
    | rest => ([], rest)
  let isFinite := match rest with
    | [] => true
    | 'e' :: exponent => isExponent exponent
    | _ => false
  (!(whole ++ fraction).isEmpty && isFinite) ||
    ["inf", "infinity", "nan"].contains (String.ofList small)

/-- Check that a value of a field is a number or a pattern. The edges of words in a pattern are
those of ASCII words. A number without a plus in front is a pattern too. -/
def checkValue (s : List Char) : Except Fault Unit :=
  if s.head? = some '+' && isNumber s.tail then .ok ()
  else
    match Pattern.ofText? s with
    | .error _ => .error .invalidValue
    | .ok p => if p.expr.asksAboutWords then .error .wordEdgeInValue else .ok ()

/-- The name of a field, `none` if a value is asked for. -/
def fieldName (s : List Char) : Except Fault (Option String) :=
  if s.isEmpty then .error .malformed
  else
    match s.dropWhile (· != '=') with
    | [] => .ok (some (String.ofList s))
    | _ :: value => (checkValue (value.takeWhile (· != '='))).map fun _ => none

/-- A directive with brackets. What stands in them begins at `start` and reads `rest`. The result is
`none` for a directive that holds of no event. -/
def ofBrackets (text : List Char) (target : String) (start : Nat) (rest : List Char) :
    Except Fault (Option LogDirective) := do
  let span := rest.takeWhile fun c => c != ']' && c != '\x7b'
  let start := start + byteLength span
  match rest.drop span.length with
  | ']' :: rest =>
    let _ ← levelAfterBrackets text (start + 1) rest
    return none
  | '\x7b' :: rest =>
    let length := byteLength (rest.takeWhile (· != '\x7d'))
    match rest.dropWhile (· != '\x7d') with
    | '\x7d' :: rest =>
      let field ← fieldName (piece text (start + 1) (start + 1 + length))
      match rest with
      | ']' :: rest =>
        let level ← levelAfterBrackets text (start + length + 3) rest
        return if span.isEmpty then field.map fun name => ⟨target, some name, level⟩ else none
      | _ => .error .malformed
    | _ => .error .malformed
  | _ => .error .malformed

/-- A directive. Blanks around it do not change how it is divided, but its pieces are taken from the
text as it stands, at the places that they would have without the blanks in front. The result is
`none` for a directive that holds of no event. -/
def ofText (text : List Char) : Except Fault (Option LogDirective) := do
  match trim text with
  | '[' :: rest => ofBrackets text "" 1 rest
  | c :: rest =>
    if !isStart c then .error .malformed
    else
      let name := (c :: rest).takeWhile fun c => c != '=' && c != '['
      let stop := byteLength name
      let target := String.ofList (piece text 0 stop)
      match (c :: rest).drop name.length with
      | [] =>
        match level? text with
        | some level => return some ⟨"", none, level⟩
        | none => return some ⟨String.ofList text, none, some .trace⟩
      | '[' :: rest => ofBrackets text target (stop + 1) rest
      | _ => return some ⟨target, none, ← levelFrom text (stop + 1)⟩
  | [] => .error .malformed

end LogDirective

/-- The parts of a text between commas. -/
def splitCommas : List Char → List (List Char)
  | [] => [[]]
  | ',' :: text => [] :: splitCommas text
  | c :: text =>
    match splitCommas text with
    | [] => [[c]]
    | part :: parts => (c :: part) :: parts

/-- The filter of a written list of directives that hold of events. A list without any
directive lets the most severe events pass. -/
def LogFilter.ofParts (parts : List (List Char)) : LogFilter :=
  match parts.filterMap fun p => (LogDirective.ofText p).toOption with
  | [] => ⟨[⟨"", none, some .error⟩]⟩
  | directives => ⟨directives.filterMap id⟩

/-- The complaints about the parts of a written list that are no directives. -/
def LogFilter.complaints : List (List Char) → List String
  | [] => []
  | part :: parts =>
    match LogDirective.ofText part with
    | .ok _ => complaints parts
    | .error fault =>
      ("ignoring `" ++ String.ofList part ++ "`: " ++ fault.message) :: complaints parts

/-- The filter of a written list, with the complaints about its parts. -/
def LogFilter.ofDirectives (s : String) : LogFilter × List String :=
  let parts := (splitCommas s.toList).filter (!·.isEmpty)
  (ofParts parts, complaints parts)

end PushdownLexer
