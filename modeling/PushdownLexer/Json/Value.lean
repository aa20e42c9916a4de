/-!
# JSON values

## Main definitions

* `JsonText`: a string of a document, which may name half a character.
* `JsonValue`: values, with the fields of objects as they stand in the document.
-/

namespace PushdownLexer

/-- A string of a document. Escapes can name one half of a surrogate pair alone, which is no
character; such a string has no text. -/
structure JsonText where
  text? : Option String
  deriving DecidableEq, Repr, Inhabited

/-- A value of a document. Numbers keep their digits, objects all their fields in order. -/
inductive JsonValue where
  | null
  | bool (b : Bool)
  | number (digits : List Char)
  | text (s : JsonText)
  | array (items : List JsonValue)
  | object (fields : List (JsonText × JsonValue))
  deriving Repr, Inhabited

namespace JsonValue

/-- A string as a value. -/
def ofText (s : String) : JsonValue := text ⟨some s⟩

/-- An integer as a value. -/
def ofInt (n : Int) : JsonValue := number (toString n).toList

/-- A natural number as a value. -/
def ofNat (n : Nat) : JsonValue := number (toString n).toList

/-- An object with the given fields. -/
def ofFields (fields : List (String × JsonValue)) : JsonValue :=
  object (fields.map fun (name, value) => (⟨some name⟩, value))

end JsonValue

end PushdownLexer
