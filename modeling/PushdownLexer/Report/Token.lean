import PushdownLexer.Assembly.Kind
import PushdownLexer.Scan.Token

/-!
# Records of tokens

## Main definitions

* `TokenRecord`: a token with its place, for output.
* `TokenRecord.toJson`: a record as a JSON value.
-/

namespace PushdownLexer

/-- A token of the assembly dialect with its place. -/
structure TokenRecord where
  kind : String
  text : String
  token : Assembly.Kind
  line : Nat
  column : Nat
  offset : Nat
  length : Nat
  deriving DecidableEq, Repr, Inhabited

namespace TokenRecord

/-- The record of a token. -/
def ofToken (t : Token Assembly.Kind) : TokenRecord :=
  ⟨t.kind.name, t.kind.render, t.kind, t.span.start.line, t.span.start.column,
    t.span.start.offset, t.span.length⟩

/-- A record as a JSON value. -/
def toJson (r : TokenRecord) : JsonValue :=
  .ofFields [
    ("kind", .ofText r.kind),
    ("text", .ofText r.text),
    ("token", r.token.toJson),
    ("line", .ofNat r.line),
    ("column", .ofNat r.column),
    ("offset", .ofNat r.offset),
    ("len", .ofNat r.length)]

end TokenRecord

end PushdownLexer
