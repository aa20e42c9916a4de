import PushdownLexer.CharClass.Recent
import PushdownLexer.Pattern.Named
import PushdownLexer.Pattern.Property
import PushdownLexer.Pattern.Reader.Basic

/-!
# The constructs of a pattern

Each construct of a pattern (a part of a sequence, a bracket, a list of flags, a group name, a
count, an escape) takes the characters that belong to it.

## Main definitions

* `Reader.sequenceChar`, `Reader.bracketChar`: a part of a sequence, an item in brackets.
* `Reader.flagChar`, `Reader.groupNameChar`: what follows `(?`.
* `Reader.countLeastChar`, `Reader.countMostChar`: the numbers of a repetition.
* `Reader.escapeChar`: what follows a backslash.
-/

namespace PushdownLexer

namespace Reader

/-- Where a line starts, under the flags. -/
def startLook (flags : Flags) : Look :=
  if flags.multiLine then .lineStart flags.crlf else .textStart

/-- Where a line ends, under the flags. -/
def endLook (flags : Flags) : Look :=
  if flags.multiLine then .lineEnd flags.crlf else .textEnd

/-- What a dot matches, under the flags. -/
def dotSet (flags : Flags) : CharSet :=
  if flags.dotAll then CharSet.all
  else if flags.crlf then (CharSet.ofList ['\n', '\r']).complement
  else (CharSet.ofList ['\n']).complement

/-- Read the first character of a part of a sequence. -/
def sequenceChar (r : Reader) (c : Char) : Except PatternError Reader :=
  match c with
  | '(' => .ok (r.goto .opened)
  | ')' => r.closeGroup
  | '|' => .ok r.closeBranch
  | '[' => .ok r.openBracket
  | '?' => r.startRepeat (.repeated 0 (some 1))
  | '*' => r.startRepeat (.repeated 0 none)
  | '+' => r.startRepeat (.repeated 1 none)
  | '{' => r.startRepeat (.countLeast none false)
  | '\\' => .ok (r.goto (.escape .sequence))
  | '^' => r.pushAtom (.look (startLook r.flags))
  | '$' => r.pushAtom (.look (endLook r.flags))
  | '.' =>
    if r.flags.unicode then .ok (r.push ⟨Expr.ofSet (dotSet r.flags), 0, true⟩)
    else .error .invalidUtf8
  | c => r.pushAtom (.char c false)

/-- Read the first character of an item in brackets. -/
def bracketChar (r : Reader) (c : Char) : Except PatternError Reader :=
  match c with
  | '[' => .ok (r.goto (.bracketForm ['[']))
  | ']' => r.closeBracket
  | '\\' => .ok (r.goto (.escape .bracket))
  | c =>
    if (SetOp.ofChar? c).isSome then .ok (r.goto (.bracketPair c))
    else .ok (r.goto (.bracketItem (.char c false)))

/-- Pass over a blank or the start of a comment in a verbose pattern, or read on with `go`. -/
def skipping (go : Reader → Char → Except PatternError Reader) (r : Reader) (c : Char) :
    Except PatternError Reader :=
  if r.flags.verbose && r.mode.skipsBlanks && CharClass.isBlank c then
    .ok (r.goto r.mode.afterBlank)
  else if r.flags.verbose && r.mode.skipsBlanks && c == '#' then
    .ok r.startComment
  else go r c

/-- Read a character after an item in brackets. -/
def bracketItemChar (atom : Atom) (r : Reader) (c : Char) : Except PatternError Reader :=
  if c = '-' then .ok (r.goto (.bracketHyphen atom false))
  else do (← r.addItem atom).bracketChar c

/-- The code of the character that a range begins with. -/
def rangeLow (flags : Flags) : Atom → Except PatternError Nat
  | .char low byte => bracketCode flags low byte
  | _ => .error .badRange

/-- Read the first character of the end of a range. -/
def bracketRangeChar (low : Nat) (r : Reader) (c : Char) : Except PatternError Reader :=
  if c = '\\' then .ok (r.goto (.escape (.rangeEnd low)))
  else r.deliver (.rangeEnd low) (.char c false)

/-- Read a character after an item in brackets and a hyphen. -/
def bracketHyphenChar (atom : Atom) (spaced : Bool) (r : Reader) (c : Char) :
    Except PatternError Reader := do
  if c = ']' then
    (← (← r.addItem atom).addItem (.char '-' false)).closeBracket
  else if c = '-' then
    let r ← r.addItem atom
    if spaced then return r.goto (.bracketHyphen (.char '-' false) false)
    else return (r.mapBracket (·.startOp r.flags .diff)).goto .bracket
  else r.bracketRangeChar (← rangeLow r.flags atom) c

/-- Read a character at the front of a bracket. -/
def bracketFrontChar (hyphen : Bool) (r : Reader) (c : Char) : Except PatternError Reader :=
  if c = '-' then do return (← r.addItem (.char c false)).goto (.bracketFront true)
  else if c = ']' && !hyphen then r.addItem (.char c false)
  else r.bracketChar c

/-- The flags with one of them turned on or off. -/
def setFlag? (flags : Flags) (on : Bool) : Char → Option Flags
  | 'i' => some { flags with ignoreCase := on }
  | 'm' => some { flags with multiLine := on }
  | 's' => some { flags with dotAll := on }
  | 'U' => some { flags with swapGreed := on }
  | 'u' => some { flags with unicode := on }
  | 'R' => some { flags with crlf := on }
  | 'x' => some { flags with verbose := on }
  | _ => none

/-- Read a character of a list of flags. -/
def flagChar (read : List Char) (off : Bool) (made : Flags) (r : Reader) (c : Char) :
    Except PatternError Reader :=
  if c = ':' || c = ')' then
    if read.head? = some '-' then .error .danglingNegation
    else if c = ':' then .ok (r.openGroup none made)
    else if read.isEmpty then .error .missingOperand
    else .ok { r.push ⟨.empty, 0, false⟩ with flags := made }
  else if c = '-' then
    if read.contains c then .error .repeatedFlag else .ok (r.goto (.flags (c :: read) true made))
  else
    match setFlag? made (!off) c with
    | none => .error .unknownFlag
    | some made =>
      if read.contains c then .error .repeatedFlag
      else .ok (r.goto (.flags (c :: read) off made))

/-- Read a character of a group name. -/
def groupNameChar (read : List Char) (r : Reader) (c : Char) : Except PatternError Reader :=
  if c = '>' then
    let name := read.reverse
    if name.isEmpty then .error .badGroupName
    else if r.names.contains name then .error (.duplicateGroupName (String.ofList name))
    else .ok { r.openCapture with names := name :: r.names }
  else if (if read.isEmpty then CharClass.isNameStart c else CharClass.isNameRest c) then
    .ok (r.goto (.groupName (c :: read)))
  else .error .badGroupName

/-- The value of a decimal digit. -/
def decimalValue? (c : Char) : Option Nat :=
  if '0' ≤ c && c ≤ '9' then some (c.toNat - '0'.toNat) else none

/-- The value of a hexadecimal digit. -/
def hexValue? (c : Char) : Option Nat :=
  if '0' ≤ c && c ≤ '9' then some (c.toNat - '0'.toNat)
  else if 'a' ≤ c && c ≤ 'f' then some (c.toNat - 'a'.toNat + 10)
  else if 'A' ≤ c && c ≤ 'F' then some (c.toNat - 'A'.toNat + 10)
  else none

/-- Read a digit of a count after its value so far; counts have 32 bits. -/
def countDigit (value : Option Nat) (spaced : Bool) (c : Char) : Except PatternError Nat :=
  match decimalValue? c with
  | some d =>
    let n := value.getD 0 * 10 + d
    if spaced || 0xFFFFFFFF < n then .error .badCount else .ok n
  | none => .error .badCount

/-- Read a character of the first number of a count. -/
def countLeastChar (value : Option Nat) (spaced : Bool) (r : Reader) (c : Char) :
    Except PatternError Reader :=
  if CharClass.isBlank c then .ok (r.goto (.countLeast value value.isSome))
  else
    match c, value with
    | ',', some least => .ok (r.goto (.countComma least))
    | '}', some n => .ok (r.goto (.counted n (some n)))
    | c, value => do return r.goto (.countLeast (some (← countDigit value spaced c)) false)

/-- Read a character of the second number of a count. -/
def countMostChar (least : Nat) (value : Option Nat) (spaced : Bool) (r : Reader) (c : Char) :
    Except PatternError Reader :=
  if CharClass.isBlank c then .ok (r.goto (.countMost least value value.isSome))
  else
    match c, value with
    | '}', some most =>
      if most < least then .error .reversedCount else .ok (r.goto (.counted least (some most)))
    | c, value => do return r.goto (.countMost least (some (← countDigit value spaced c)) false)

/-- The characters that a backslash makes plain: ASCII, but no letter, digit or angle. -/
def isPlainEscape (c : Char) : Bool :=
  c.toNat < 0x80 && !c.isAlphanum && c != '<' && c != '>'

/-- What a backslash and one character stand for, if no more belongs to it. -/
def simpleEscape? (flags : Flags) (c : Char) : Option Atom :=
  let ascii := !flags.unicode
  match c with
  | 'a' => some (.char '\x07' false)
  | 'f' => some (.char '\x0C' false)
  | 't' => some (.char '\t' false)
  | 'n' => some (.char '\n' false)
  | 'r' => some (.char '\r' false)
  | 'v' => some (.char '\x0B' false)
  | 'A' => some (.look .textStart)
  | 'z' => some (.look .textEnd)
  | 'B' => some (.look (.word .same ascii))
  | '<' => some (.look (.word .start ascii))
  | '>' => some (.look (.word .stop ascii))
  | c => if isPlainEscape c then some (.char c false) else none

/-- The set that a letter names after a backslash, the capital letter naming the rest. -/
def letterSet? (flags : Flags) (c : Char) : Option (Except PatternError CharSet) :=
  match NamedSet.letter? flags.unicode c with
  | some s => some (.ok s)
  | none =>
    if c.isUpper then (NamedSet.letter? flags.unicode c.toLower).map (flags.negate true) else none

/-- Read the character after a backslash. -/
def escapeChar (site : Site) (r : Reader) (c : Char) : Except PatternError Reader :=
  match letterSet? r.flags c with
  | some s => do r.deliver site (.set (← s))
  | none =>
    if c.isDigit then .error .backReference
    else
      match c with
      | 'x' => .ok (r.goto (.hex site 2))
      | 'u' => .ok (r.goto (.hex site 4))
      | 'U' => .ok (r.goto (.hex site 8))
      | 'p' => .ok (r.goto (.property site false))
      | 'P' => .ok (r.goto (.property site true))
      | 'b' =>
        if site = .sequence then .ok (r.goto .wordEdge) else .error .notAllowedInBracket
      | c =>
        match simpleEscape? r.flags c with
        | some atom => r.deliver site atom
        | none => .error (.unknownEscape c)

/-- Hand over the character with a code. -/
def deliverCode (site : Site) (byte : Bool) (r : Reader) (code : Nat) :
    Except PatternError Reader :=
  if code.isValidChar then r.deliver site (.char (Char.ofNat code) byte) else .error .badCodePoint

/-- Read a hexadecimal digit. -/
def hexDigitsChar (site : Site) (digits left value : Nat) (r : Reader) (c : Char) :
    Except PatternError Reader :=
  match hexValue? c with
  | none => .error .badCodePoint
  | some d =>
    let value := value * 16 + d
    if left ≤ 1 then r.deliverCode site (digits = 2) value
    else .ok (r.goto (.hexDigits site digits (left - 1) value))

/-- Read a hexadecimal digit in braces. -/
def hexBraceChar (site : Site) (value : Option Nat) (r : Reader) (c : Char) :
    Except PatternError Reader :=
  match c, value with
  | '}', some code => r.deliverCode site false code
  | c, value =>
    match hexValue? c with
    | none => .error .badCodePoint
    | some d => .ok (r.goto (.hexBrace site (some (value.getD 0 * 16 + d))))

/-- Hand over the set of a property. -/
def deliverProperty (site : Site) (negated : Bool) (r : Reader) (name : List Char) :
    Except PatternError Reader := do
  if !r.flags.unicode then .error .needsUnicode
  else
    match Property.ofText? name with
    | none => .error .unknownProperty
    | some p => r.deliver site (.set (← r.flags.negate (negated != p.negated) (r.flags.fold p.chars)))

/-- The condition on words with a name. -/
def wordEdgeNamed? (name : List Char) : Option WordEdge :=
  if name = "start".toList then some .start
  else if name = "end".toList then some .stop
  else if name = "start-half".toList then some .startHalf
  else if name = "end-half".toList then some .stopHalf
  else none

/-- Whether a character can stand in the name of a word edge. -/
def isWordEdgeChar (c : Char) : Bool := c.isAlpha || c = '-'

end Reader

end PushdownLexer
