import PushdownLexer.CharSet
import PushdownLexer.Pattern.Look
import PushdownLexer.Text.Bytes

/-!
# Pattern expressions

The expression of a pattern, in a simplified form that its builders keep: neighbouring literals are
one literal, sequences and alternations are not nested in themselves, alternatives that are all
single characters or all sets are one set, and a beginning that all alternatives share stands in
front of them once.

## Main definitions

* `Expr`: expressions.
* `Expr.sequence`, `Expr.alternation`, `Expr.repetition`: the builders.
* `Expr.minLength`: the least length of a match.
-/

namespace PushdownLexer

/-- A pattern expression. Alternatives are tried in order, so the first one that leads to a match
wins; a greedy repetition tries one more round first, the other kind tries to leave first. -/
inductive Expr where
  | empty
  | literal (cs : List Char)
  | set (s : CharSet)
  | look (l : Look)
  | group (index : Nat) (body : Expr)
  /-- From `least` up to `most` rounds, without a bound if `most` is `none`. -/
  | rounds (body : Expr) (least : Nat) (most : Option Nat) (greedy : Bool)
  | cat (first second : Expr)
  | alt (first second : Expr)
  deriving DecidableEq, Repr, Inhabited

namespace Expr

/-- The parts of a sequence. -/
def factors : Expr → List Expr
  | cat a b => factors a ++ factors b
  | empty => []
  | e => [e]

/-- The alternatives of an alternation. -/
def choices : Expr → List Expr
  | alt a b => choices a ++ choices b
  | e => [e]

/-- A set, as a literal if it has one member. -/
def ofSet (s : CharSet) : Expr :=
  match s.single? with
  | some c => literal [c]
  | none => set s

/-- Join neighbouring literals. -/
def joinLiterals : List Expr → List Expr
  | [] => []
  | e :: rest =>
    match e, joinLiterals rest with
    | literal cs, literal ds :: tail => literal (cs ++ ds) :: tail
    | e, tail => e :: tail

/-- The sequence of the given parts. -/
def ofFactors : List Expr → Expr
  | [] => empty
  | [e] => e
  | e :: rest => cat e (ofFactors rest)

/-- The alternation of the given alternatives. -/
def ofChoices : List Expr → Expr
  | [] => set CharSet.empty
  | [e] => e
  | e :: rest => alt e (ofChoices rest)

/-- One expression after the other. -/
def sequence (es : List Expr) : Expr := ofFactors (joinLiterals (es.flatMap factors))

/-- The set of the characters, if each alternative is a single character. -/
def singleChars? : List Expr → Option CharSet
  | [] => some CharSet.empty
  | literal [c] :: rest => (singleChars? rest).map (·.add c.toNat c.toNat)
  | _ => none

/-- The union of the sets, if each alternative is a set. -/
def allSets? : List Expr → Option CharSet
  | [] => some CharSet.empty
  | set s :: rest => (allSets? rest).map s.union
  | _ => none

/-- The longest beginning that two lists share. -/
def sharedStart : List Expr → List Expr → List Expr
  | a :: as, b :: bs => if a = b then a :: sharedStart as bs else []
  | _, _ => []

/-- The longest beginning that all of the lists share. -/
def sharedStartAll : List (List Expr) → List Expr
  | [] => []
  | first :: rest => rest.foldl sharedStart first

/-- The number of constructors of an expression. -/
def size : Expr → Nat
  | group _ e | rounds e _ _ _ => size e + 1
  | cat a b | alt a b => size a + size b + 1
  | _ => 1

/-- Whether a condition on words of any alphabet occurs. -/
def asksAboutWords : Expr → Bool
  | look (.word _ ascii) => !ascii
  | group _ e | rounds e _ _ _ => asksAboutWords e
  | cat a b | alt a b => asksAboutWords a || asksAboutWords b
  | _ => false

/-- One alternative after the other, in order of preference; `depth` bounds how often a shared
beginning is taken out. -/
def alternationWithin : Nat → List Expr → Expr
  | 0, es => ofChoices es
  | depth + 1, es =>
    let cs := es.flatMap choices
    match cs with
    | [e] => e
    | _ =>
      match singleChars? cs, allSets? cs with
      | some s, _ | none, some s => ofSet s
      | none, none =>
        let parts := cs.map factors
        let shared := if parts.all (1 < ·.length) then sharedStartAll parts else []
        if shared.isEmpty then ofChoices cs
        else
          sequence (shared ++
            [alternationWithin depth (parts.map fun p => sequence (p.drop shared.length))])

/-- One alternative after the other, in order of preference. -/
def alternation (es : List Expr) : Expr :=
  alternationWithin (size (ofChoices es) + 1) es

/-- Whether every match is empty. -/
def onlyEmpty : Expr → Bool
  | empty | look _ => true
  | literal _ | set _ => false
  | group _ e => onlyEmpty e
  | rounds e _ _ _ => onlyEmpty e
  | cat a b | alt a b => onlyEmpty a && onlyEmpty b

/-- `least` to `most` rounds of an expression. One round of an expression that matches only the
empty text is as good as many. -/
def repetition (e : Expr) (least : Nat) (most : Option Nat) (greedy : Bool) : Expr :=
  let least' := if e.onlyEmpty then min least 1 else least
  let most' := if e.onlyEmpty then some ((most.map (min · 1)).getD 1) else most
  if most' = some 0 then empty
  else if least' = 1 ∧ most' = some 1 then e
  else rounds e least' most' greedy

/-- The least length of a match, `none` if the expression matches nothing. -/
def minLength : Expr → Option Nat
  | empty | look _ => some 0
  | literal cs => some cs.length
  | set s => if s.isEmpty then none else some 1
  | group _ e => minLength e
  | rounds e least _ _ => (minLength e).map (least * ·)
  | cat a b => (minLength a).bind fun m => (minLength b).map (m + ·)
  | alt a b => (minLength a).bind fun m => (minLength b).map (min m ·)

end Expr

end PushdownLexer
