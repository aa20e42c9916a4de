import PushdownLexer.Pattern.Basic
import PushdownLexer.Scan.Cursor
import PushdownLexer.Scan.Token
import PushdownLexer.Text.Quoted

/-!
# Rules

A rule tells what to do where its pattern matches: which token to make of the matched text, if any,
and whether a state is entered or left.

## Main definitions

* `Directive`: what becomes of the nested states.
* `Rule`, `Rule.ofPattern`: a rule, and how one is made from a pattern.
* `Rule.apply`: apply a rule at a cursor.
-/

namespace PushdownLexer

/-- What a match does to the nested states. -/
inductive Directive where
  | stay
  | leave
  | enter (state : String)
  deriving DecidableEq, Repr, Inhabited

/-- A directive, as it is shown for inspection. -/
def Directive.render : Directive → String
  | stay => "Stay"
  | leave => "Pop"
  | enter state => "Push(" ++ quoted state ++ ")"

/-- A rule that makes tokens of kind `κ`. -/
structure Rule (κ : Type) where
  /-- The pattern as it was given. -/
  source : String
  /-- The pattern that is searched, `source` in a group at the start of the text. -/
  pattern : Pattern
  directive : Directive
  /-- The kind of the token for a matched text, if there is to be one. -/
  kind? : String → Option κ

/-- A match of a rule. -/
structure Match (κ : Type) where
  /-- The cursor after the match. -/
  cursor : Cursor
  token : Option (Token κ)
  directive : Directive
  /-- By how many bytes the cursor has moved. -/
  length : Nat

namespace Rule

variable {κ : Type}

/-- A pattern put into a group after the condition that the text starts there. -/
def anchor (pattern : List Char) : List Char := "^(?:".toList ++ pattern ++ [')']

/-- The rule for a pattern, unless the pattern is invalid. -/
def ofPattern (source : String) (directive : Directive) (kind? : String → Option κ) :
    Except ScanFault (Rule κ) :=
  match Pattern.ofText? (anchor source.toList) with
  | .ok pattern => .ok ⟨source, pattern, directive, kind?⟩
  | .error e => .error (.badPattern source e.message)

/-- Apply a rule at a cursor. The cursor moves to the end of the leftmost match in the text after
it, and the token is made of the matched text. -/
def apply (r : Rule κ) (c : Cursor) : Except ScanFault (Option (Match κ)) :=
  match r.pattern.find? c.rest with
  | none => .ok none
  | some (skipped, count) =>
    let matched := (c.rest.drop skipped).take count
    let length := byteLength (c.rest.take (skipped + count))
    match c.moveBy length with
    | .error f => .error f
    | .ok moved =>
      let token := (r.kind? (String.ofList matched)).map (⟨·, ⟨c.place, moved.place⟩⟩)
      .ok (some ⟨moved, token, r.directive, length⟩)

/-- A rule, as it is shown for inspection. -/
def render (r : Rule κ) : String :=
  "Rule \x7b pattern: " ++ quoted r.source ++ ", next: " ++ r.directive.render ++ ", .. \x7d"

theorem moveBy_of_apply {r : Rule κ} {c : Cursor} {m : Match κ}
    (h : r.apply c = .ok (some m)) : c.moveBy m.length = .ok m.cursor := by
  unfold apply at h
  split at h
  · cases h
  · dsimp only at h
    split at h
    · cases h
    · rename_i hm
      cases h
      exact hm

end Rule

end PushdownLexer
