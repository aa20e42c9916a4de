import PushdownLexer.Json.Value

/-!
# Printing JSON

A document is printed with one item or field on a line and two blanks for each level, empty arrays
and objects on one line.

## Main definitions

* `JsonValue.pretty`: the printed form of a value.
-/

namespace PushdownLexer

/-- Four hexadecimal digits of a code below 256. -/
def controlDigits (n : Nat) : List Char :=
  ['0', '0', Nat.digitChar (n / 16), Nat.digitChar (n % 16)]

/-- A character of a string of a document. -/
def jsonChar (c : Char) : List Char :=
  match c with
  | '"' => ['\\', '"']
  | '\\' => ['\\', '\\']
  | '\x08' => ['\\', 'b']
  | '\x0C' => ['\\', 'f']
  | '\n' => ['\\', 'n']
  | '\r' => ['\\', 'r']
  | '\t' => ['\\', 't']
  | c => if c.toNat < 0x20 then '\\' :: 'u' :: controlDigits c.toNat else [c]

/-- A string between its quotes. -/
def jsonString (s : String) : String :=
  String.ofList ('"' :: s.toList.flatMap jsonChar ++ ['"'])

/-- A line end and the blanks of a level. -/
def lineBreak (level : Nat) : String := "\n" ++ String.ofList (List.replicate (2 * level) ' ')

namespace JsonValue

mutual

/-- A value that stands at a level. -/
def prettyAt (level : Nat) : JsonValue → String
  | null => "null"
  | bool true => "true"
  | bool false => "false"
  | number digits => String.ofList digits
  | text s => jsonString (s.text?.getD "")
  | array [] => "[]"
  | array (item :: items) =>
    "[" ++ lineBreak (level + 1) ++ prettyAt (level + 1) item ++ prettyItems (level + 1) items ++
      lineBreak level ++ "]"
  | object [] => "\x7b\x7d"
  | object ((name, value) :: fields) =>
    "\x7b" ++ lineBreak (level + 1) ++ jsonString (name.text?.getD "") ++ ": " ++
      prettyAt (level + 1) value ++ prettyFields (level + 1) fields ++ lineBreak level ++ "\x7d"

/-- The items of an array after the first one. -/
def prettyItems (level : Nat) : List JsonValue → String
  | [] => ""
  | item :: items => "," ++ lineBreak level ++ prettyAt level item ++ prettyItems level items

/-- The fields of an object after the first one. -/
def prettyFields (level : Nat) : List (JsonText × JsonValue) → String
  | [] => ""
  | (name, value) :: fields =>
    "," ++ lineBreak level ++ jsonString (name.text?.getD "") ++ ": " ++ prettyAt level value ++
      prettyFields level fields

end

/-- The printed form of a value. -/
def pretty (v : JsonValue) : String := v.prettyAt 0

end JsonValue

end PushdownLexer
