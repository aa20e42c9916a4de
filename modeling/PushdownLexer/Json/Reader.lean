import PushdownLexer.Json.Value

/-!
# Reading JSON

A document is read one character at a time, what is open being kept on a stack. The grammar is the
strict one: no comments, no comma before a closing bracket, no control characters in strings,
nothing but blanks around the document.

## Main definitions

* `JsonReader.step`: read one character.
* `JsonValue.ofDocument?`: the value of a document.
-/

namespace PushdownLexer

/-- Where a number is. -/
inductive NumberStage where
  | minus
  | zero
  | digits
  | point
  | fraction
  | exponent
  | exponentSign
  | exponentDigits
  deriving DecidableEq, Repr, Inhabited

/-- The stage of a number after one more character. -/
def NumberStage.next? : NumberStage → Char → Option NumberStage
  | minus, c => if c = '0' then some zero else if c.isDigit then some digits else none
  | zero, c =>
    if c = '.' then some point else if c = 'e' ∨ c = 'E' then some exponent else none
  | digits, c =>
    if c.isDigit then some digits
    else if c = '.' then some point
    else if c = 'e' ∨ c = 'E' then some exponent
    else none
  | point, c => if c.isDigit then some fraction else none
  | fraction, c =>
    if c.isDigit then some fraction else if c = 'e' ∨ c = 'E' then some exponent else none
  | exponent, c =>
    if c.isDigit then some exponentDigits
    else if c = '+' ∨ c = '-' then some exponentSign
    else none
  | exponentSign, c => if c.isDigit then some exponentDigits else none
  | exponentDigits, c => if c.isDigit then some exponentDigits else none

/-- Whether a number may end. -/
def NumberStage.complete : NumberStage → Bool
  | zero | digits | fraction | exponentDigits => true
  | minus | point | exponent | exponentSign => false

/-- A string that is being read: its characters, the last one first, whether all of them are
characters, and the first half of a surrogate pair whose second half may follow. -/
structure TextReader where
  read : List Char := []
  whole : Bool := true
  half : Option Nat := none
  deriving DecidableEq, Repr, Inhabited

namespace TextReader

/-- No second half has followed. -/
def settle (t : TextReader) : TextReader :=
  if t.half.isSome then { t with whole := false, half := none } else t

/-- Read a character. -/
def push (t : TextReader) (c : Char) : TextReader :=
  let t := t.settle
  { t with read := c :: t.read }

/-- Read a code of 16 bits. -/
def pushCode (t : TextReader) (code : Nat) : TextReader :=
  if 0xD800 ≤ code ∧ code < 0xDC00 then { t.settle with half := some code }
  else if 0xDC00 ≤ code ∧ code < 0xE000 then
    match t.half with
    | some high =>
      let c := Char.ofNat (0x10000 + (high - 0xD800) * 0x400 + (code - 0xDC00))
      { t with read := c :: t.read, half := none }
    | none => { t with whole := false }
  else t.push (Char.ofNat code)

/-- The string that was read. -/
def finish (t : TextReader) : JsonText :=
  let t := t.settle
  ⟨if t.whole then some (String.ofList t.read.reverse) else none⟩

end TextReader

/-- An open array or object, with what was read of it, the last one first. -/
inductive JsonFrame where
  | array (items : List JsonValue)
  | object (fields : List (JsonText × JsonValue)) (name : JsonText)

/-- What the next character belongs to. -/
inductive JsonMode where
  /-- A value; an array that has just been opened may be closed instead. -/
  | value (first : Bool)
  /-- The name of a field; an object that has just been opened may be closed instead. -/
  | name (fields : List (JsonText × JsonValue)) (first : Bool)
  /-- The colon after a name. -/
  | colon (fields : List (JsonText × JsonValue)) (name : JsonText)
  /-- What comes after a value. -/
  | after
  /-- A string, `name` telling the fields before it if it is the name of a field. -/
  | text (name : Option (List (JsonText × JsonValue))) (t : TextReader)
  /-- A string after a backslash. -/
  | escape (name : Option (List (JsonText × JsonValue))) (t : TextReader)
  /-- A string in the hexadecimal digits of an escape. -/
  | hex (name : Option (List (JsonText × JsonValue))) (t : TextReader) (left code : Nat)
  /-- A number, the last character first. -/
  | number (stage : NumberStage) (read : List Char)
  /-- The rest of a word that stands for a value. -/
  | word (left : List Char) (value : JsonValue)
  /-- Nothing but blanks. -/
  | done (value : JsonValue)

/-- What has been read of a document. -/
structure JsonReader where
  frames : List JsonFrame := []
  mode : JsonMode := .value false

namespace JsonReader

/-- Blanks between the parts of a document. -/
def isSpace (c : Char) : Bool := c == ' ' || c == '\n' || c == '\t' || c == '\r'

/-- Go on in another mode. -/
def goto (r : JsonReader) (mode : JsonMode) : JsonReader := { r with mode }

/-- A value has been read. -/
def complete (frames : List JsonFrame) (v : JsonValue) : JsonReader :=
  match frames with
  | [] => ⟨[], .done v⟩
  | .array items :: outer => ⟨.array (v :: items) :: outer, .after⟩
  | .object fields name :: outer => ⟨.object ((name, v) :: fields) ⟨none⟩ :: outer, .after⟩

/-- Begin a value. -/
def startValue? (r : JsonReader) (c : Char) : Option JsonReader :=
  match c with
  | '[' => some ⟨.array [] :: r.frames, .value true⟩
  | '\x7b' => some (r.goto (.name [] true))
  | '"' => some (r.goto (.text none {}))
  | '-' => some (r.goto (.number .minus [c]))
  | '0' => some (r.goto (.number .zero [c]))
  | 't' => some (r.goto (.word "rue".toList (.bool true)))
  | 'f' => some (r.goto (.word "alse".toList (.bool false)))
  | 'n' => some (r.goto (.word "ull".toList .null))
  | c => if c.isDigit then some (r.goto (.number .digits [c])) else none

/-- Read a character after a value. -/
def afterValue? (r : JsonReader) (c : Char) : Option JsonReader :=
  if isSpace c then some r
  else
    match r.frames, c with
    | .array _ :: _, ',' => some (r.goto (.value false))
    | .array items :: outer, ']' => some (complete outer (.array items.reverse))
    | .object fields _ :: outer, ',' => some ⟨outer, .name fields false⟩
    | .object fields _ :: outer, '\x7d' => some (complete outer (.object fields.reverse))
    | _, _ => none

/-- A string has been read. -/
def finishText (r : JsonReader) (name : Option (List (JsonText × JsonValue))) (s : JsonText) :
    JsonReader :=
  match name with
  | some fields => r.goto (.colon fields s)
  | none => complete r.frames (.text s)

/-- The character that a backslash and another character stand for. -/
def escaped? : Char → Option Char
  | '"' => some '"'
  | '\\' => some '\\'
  | '/' => some '/'
  | 'b' => some '\x08'
  | 'f' => some '\x0C'
  | 'n' => some '\n'
  | 'r' => some '\r'
  | 't' => some '\t'
  | _ => none

/-- The value of a hexadecimal digit. -/
def hexDigit? (c : Char) : Option Nat :=
  if '0' ≤ c ∧ c ≤ '9' then some (c.toNat - '0'.toNat)
  else if 'a' ≤ c ∧ c ≤ 'f' then some (c.toNat - 'a'.toNat + 10)
  else if 'A' ≤ c ∧ c ≤ 'F' then some (c.toNat - 'A'.toNat + 10)
  else none

/-- Read one character. -/
def step (r : JsonReader) (c : Char) : Option JsonReader :=
  match r.mode with
  | .value first =>
    if isSpace c then some r
    else
      match first, r.frames, c with
      | true, .array _ :: outer, ']' => some (complete outer (.array []))
      | _, _, c => r.startValue? c
  | .name fields first =>
    if isSpace c then some r
    else
      match c with
      | '"' => some (r.goto (.text (some fields) {}))
      | '\x7d' => if first then some (complete r.frames (.object [])) else none
      | _ => none
  | .colon fields name =>
    if isSpace c then some r
    else if c = ':' then some ⟨.object fields name :: r.frames, .value false⟩
    else none
  | .after => r.afterValue? c
  | .text name t =>
    match c with
    | '"' => some (r.finishText name t.finish)
    | '\\' => some (r.goto (.escape name t))
    | c => if c.toNat < 0x20 then none else some (r.goto (.text name (t.push c)))
  | .escape name t =>
    if c = 'u' then some (r.goto (.hex name t 4 0))
    else (escaped? c).map fun c => r.goto (.text name (t.push c))
  | .hex name t left code =>
    (hexDigit? c).map fun d =>
      let code := code * 16 + d
      if left ≤ 1 then r.goto (.text name (t.pushCode code))
      else r.goto (.hex name t (left - 1) code)
  | .number stage read =>
    match stage.next? c with
    | some stage => some (r.goto (.number stage (c :: read)))
    | none =>
      if stage.complete then
        match complete r.frames (.number read.reverse) with
        | ⟨frames, .done v⟩ => if isSpace c then some ⟨frames, .done v⟩ else none
        | r => r.afterValue? c
      else none
  | .word left v =>
    match left with
    | [] => none
    | [d] => if c = d then some (complete r.frames v) else none
    | d :: left => if c = d then some (r.goto (.word left v)) else none
  | .done _ => if isSpace c then some r else none

/-- The value that was read. -/
def finish? (r : JsonReader) : Option JsonValue :=
  match r.mode, r.frames with
  | .done v, _ => some v
  | .number stage read, [] => if stage.complete then some (.number read.reverse) else none
  | _, _ => none

end JsonReader

/-- The value of a document. -/
def JsonValue.ofDocument? (text : List Char) : Option JsonValue :=
  (text.foldlM JsonReader.step {}).bind JsonReader.finish?

end PushdownLexer
