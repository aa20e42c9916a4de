import PushdownLexer.CharClass.Hidden

/-!
# Quoted texts

A quoted text stands between double quotes. Quotes, backslashes and the usual controls are written
with a backslash, other characters that do not show by themselves by their code point.

## Main definitions

* `quoted`: the quoted form of a text.
-/

namespace PushdownLexer

/-- A number in hexadecimal digits, the letters small. -/
def hexadecimal (n : Nat) : List Char := Nat.toDigits 16 n

/-- A character by its code point. -/
def codePointEscape (c : Char) : List Char := "\\u\x7b".toList ++ hexadecimal c.toNat ++ ['\x7d']

/-- The form of a character in a quoted text. -/
def quotedChar (c : Char) : List Char :=
  match c with
  | '\x00' => ['\\', '0']
  | '\t' => ['\\', 't']
  | '\r' => ['\\', 'r']
  | '\n' => ['\\', 'n']
  | '"' => ['\\', '"']
  | '\\' => ['\\', '\\']
  | c => if CharClass.isHidden c then codePointEscape c else [c]

/-- The quoted form of a text. -/
def quoted (text : String) : String :=
  String.ofList ('"' :: text.toList.flatMap quotedChar ++ ['"'])

end PushdownLexer
