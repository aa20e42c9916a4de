import PushdownLexer.CharClass.Blank
import PushdownLexer.CharClass.Word

/-!
# Sets of characters with a name

Patterns name sets by a letter after a backslash, and by a word between colons in brackets.

## Main definitions

* `NamedSet.letter?`: the set of `\d`, `\s` or `\w`.
* `NamedSet.bracketForms`: the sets such as `[:alpha:]`.
-/

namespace PushdownLexer.NamedSet

/-- The ASCII letters. -/
def asciiLetter : CharSet := ⟨[(0x41, 0x5A), (0x61, 0x7A)]⟩

/-- The ASCII digits. -/
def asciiDigit : CharSet := ⟨[(0x30, 0x39)]⟩

/-- The ASCII blanks and line ends. -/
def asciiBlank : CharSet := ⟨[(0x09, 0x0D), (0x20, 0x20)]⟩

/-- The ASCII letters and digits and the underscore. -/
def asciiWord : CharSet := ⟨[(0x30, 0x39), (0x41, 0x5A), (0x5F, 0x5F), (0x61, 0x7A)]⟩

/-- The set that a small letter names after a backslash. -/
def letter? (unicode : Bool) : Char → Option CharSet
  | 'd' => some (if unicode then CharClass.digit else asciiDigit)
  | 's' => some (if unicode then CharClass.blank else asciiBlank)
  | 'w' => some (if unicode then CharClass.word else asciiWord)
  | _ => none

/-- The sets with a name between colons. -/
def bracketNames : List (String × CharSet) :=
  [("alnum", ⟨[(0x30, 0x39), (0x41, 0x5A), (0x61, 0x7A)]⟩),
   ("alpha", asciiLetter),
   ("ascii", ⟨[(0, 0x7F)]⟩),
   ("blank", ⟨[(0x09, 0x09), (0x20, 0x20)]⟩),
   ("cntrl", ⟨[(0, 0x1F), (0x7F, 0x7F)]⟩),
   ("digit", asciiDigit),
   ("graph", ⟨[(0x21, 0x7E)]⟩),
   ("lower", ⟨[(0x61, 0x7A)]⟩),
   ("print", ⟨[(0x20, 0x7E)]⟩),
   ("punct", ⟨[(0x21, 0x2F), (0x3A, 0x40), (0x5B, 0x60), (0x7B, 0x7E)]⟩),
   ("space", asciiBlank),
   ("upper", ⟨[(0x41, 0x5A)]⟩),
   ("word", asciiWord),
   ("xdigit", ⟨[(0x30, 0x39), (0x41, 0x46), (0x61, 0x66)]⟩)]

/-- A written form such as `[:alpha:]` or `[:^alpha:]`: its characters, whether it is negated, and
the set. -/
structure BracketForm where
  text : List Char
  negated : Bool
  set : CharSet

/-- All written forms of the sets with a name between colons. -/
def bracketForms : List BracketForm :=
  bracketNames.flatMap fun (name, set) =>
    [⟨"[:".toList ++ name.toList ++ ":]".toList, false, set⟩,
     ⟨"[:^".toList ++ name.toList ++ ":]".toList, true, set⟩]

end PushdownLexer.NamedSet
