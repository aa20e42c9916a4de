import PushdownLexer.Json.Value

/-!
# Kinds of tokens of the assembly dialect

## Main definitions

* `Assembly.Kind`: the kinds, with what each token says.
* `Assembly.Kind.render`: a kind on an output line.
* `Assembly.Kind.toJson`: a kind as a JSON value.
-/

namespace PushdownLexer.Assembly

/-- The kind of a token. -/
inductive Kind where
  | newline
  /-- `->` -/
  | arrow
  /-- A word before a colon, without the colon. -/
  | label (name : String)
  /-- A bare word. -/
  | symbol (name : String)
  /-- A word after `@`, without the sign. -/
  | macroName (name : String)
  /-- Text between double quotes. -/
  | text (body : String)
  | number (value : Int)
  deriving DecidableEq, Repr, Inhabited

namespace Kind

/-- The short name of a kind. -/
def name : Kind → String
  | newline => "newline"
  | arrow => "arrow"
  | label _ => "label"
  | symbol _ => "symbol"
  | macroName _ => "macro"
  | text _ => "string"
  | number _ => "number"

/-- A kind on an output line. The body of a text is written as it is. -/
def render : Kind → String
  | newline => "NEWLINE"
  | arrow => "ARROW"
  | label name => "LABEL " ++ name ++ ":"
  | symbol name => "SYMBOL " ++ name
  | macroName name => "MACRO " ++ name
  | text body => "STRING \"" ++ body ++ "\""
  | number value => "NUMBER " ++ toString value

/-- A JSON object with the type of a kind and its value, if it has one. -/
def tagged (type : String) (value : Option JsonValue) : JsonValue :=
  .ofFields (("type", .ofText type) :: (value.map fun v => ("value", v)).toList)

/-- A kind as a JSON value. -/
def toJson : Kind → JsonValue
  | newline => tagged "Newline" none
  | arrow => tagged "Arrow" none
  | label name => tagged "Label" (some (.ofText name))
  | symbol name => tagged "Symbol" (some (.ofText name))
  | macroName name => tagged "Macro" (some (.ofText name))
  | text body => tagged "Str" (some (.ofText body))
  | number value => tagged "Number" (some (.ofInt value))

end Kind

end PushdownLexer.Assembly
