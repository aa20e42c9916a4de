import PushdownLexer.CharClass.Age
import PushdownLexer.CharClass.Boundary
import PushdownLexer.CharClass.Property
import PushdownLexer.CharClass.Script

/-!
# Properties in patterns

A pattern names a property of characters between braces: a property that holds or not, a general
category or a script by itself, or a property together with one of its values, as in `sc=Greek` or
`age:3.0`. With `!=` in between, all other characters are meant.

## Main definitions

* `Property.normalName`: what is left of a name when case and separators do not matter.
* `Property.ofText?`: the property that a text stands for.
-/

namespace PushdownLexer

/-- A property of characters: the characters that have it, and whether all others are meant. -/
structure Property where
  chars : CharSet
  negated : Bool := false
  deriving DecidableEq, Repr

namespace Property

/-- The ASCII characters of a name in lower case, without blanks, hyphens and underscores. -/
def nameChars (cs : List Char) : List Char :=
  (cs.filter fun c => c.toNat < 0x80 && c != ' ' && c != '-' && c != '_').map Char.toLower

/-- What is left of a name when case and separators do not matter. A leading "is" counts for
nothing, except in "isc", which is a name of its own. -/
def normalName (cs : List Char) : String :=
  match cs with
  | i :: s :: rest =>
    if i.toLower = 'i' && s.toLower = 's' then
      if nameChars rest = ['c'] then "isc" else String.ofList (nameChars rest)
    else String.ofList (nameChars cs)
  | _ => String.ofList (nameChars cs)

/-- The characters that a name without a value stands for. -/
def chars? (name : String) : Option CharSet :=
  (CharClass.find? CharClass.categories name).orElse fun _ =>
    (CharClass.find? CharClass.properties name).orElse fun _ =>
      CharClass.find? CharClass.scripts name

/-- The characters for which a property has a value. -/
def charsWithValue? (name value : String) : Option CharSet :=
  match name with
  | "gc" | "generalcategory" => CharClass.find? CharClass.categories value
  | "sc" | "script" => CharClass.find? CharClass.scripts value
  | "scx" | "scriptextensions" => CharClass.find? CharClass.scriptExtensions value
  | "age" => CharClass.find? CharClass.ages value
  | "gcb" | "graphemeclusterbreak" => CharClass.find? CharClass.graphemeBreaks value
  | "wb" | "wordbreak" => CharClass.find? CharClass.wordBreaks value
  | "sb" | "sentencebreak" => CharClass.find? CharClass.sentenceBreaks value
  | _ => none

/-- Cut a text at the first place where `separator` stands. -/
def cutAt? (separator : List Char) : List Char → Option (List Char × List Char)
  | [] => none
  | c :: rest =>
    if separator.isPrefixOf (c :: rest) then some ([], (c :: rest).drop separator.length)
    else (cutAt? separator rest).map fun (before, after) => (c :: before, after)

/-- The property that the text between the braces of `\p` stands for. -/
def ofText? (text : List Char) : Option Property :=
  match cutAt? "!=".toList text with
  | some (name, value) =>
    (charsWithValue? (normalName name) (normalName value)).map (Property.mk · true)
  | none =>
    match (cutAt? [':'] text).orElse fun _ => cutAt? ['='] text with
    | some (name, value) =>
      (charsWithValue? (normalName name) (normalName value)).map (Property.mk · false)
    | none => (chars? (normalName text)).map (Property.mk · false)

end Property

end PushdownLexer
