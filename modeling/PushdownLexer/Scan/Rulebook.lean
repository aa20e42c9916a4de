import PushdownLexer.Scan.Rule

/-!
# Rulebooks

A rulebook gives states their rules, in the order in which they are tried.

## Main definitions

* `Rulebook`: the states and their rules.
* `Rulebook.insert`: give a state rules, in place of those it had.
* `Rulebook.get?`: the rules of a state.
* `Rulebook.names`: the states with rules, in the order of their names.
-/

namespace PushdownLexer

/-- The rules of states. -/
structure Rulebook (κ : Type) where
  entries : List (String × List (Rule κ))

namespace Rulebook

variable {κ : Type}

/-- The rulebook without states. -/
def empty : Rulebook κ := ⟨[]⟩

/-- Give a state rules, in place of those it had. -/
def insert (b : Rulebook κ) (state : String) (rules : List (Rule κ)) : Rulebook κ :=
  ⟨(state, rules) :: b.entries.filter (·.1 != state)⟩

/-- Give several states rules, one after the other. -/
def insertMany (b : Rulebook κ) (entries : List (String × List (Rule κ))) : Rulebook κ :=
  entries.foldl (fun b e => b.insert e.1 e.2) b

/-- The rules of a state, if it has any. -/
def get? (b : Rulebook κ) (state : String) : Option (List (Rule κ)) := b.entries.lookup state

/-- Whether a state has rules. -/
def contains (b : Rulebook κ) (state : String) : Bool := (b.get? state).isSome

/-- The number of states with rules. -/
def size (b : Rulebook κ) : Nat := b.entries.length

/-- Whether no state has rules. -/
def isEmpty (b : Rulebook κ) : Bool := b.entries.isEmpty

/-- The states with rules, in the order of their names by code points. -/
def names (b : Rulebook κ) : List String :=
  (b.entries.map (·.1)).mergeSort fun s t => decide (s ≤ t)

/-- The rules of a state that is asked for at a place. -/
def lookUp (b : Rulebook κ) (state : String) (place : Position) :
    Except ScanFault (List (Rule κ)) :=
  match b.get? state with
  | some rules => .ok rules
  | none => .error (.noSuchState place state)

/-- A rulebook of at most one state, as it is shown for inspection; the order of several states is
not fixed. -/
def render? (b : Rulebook κ) : Option String :=
  match b.entries with
  | [] => some "\x7b\x7d"
  | [(state, rules)] =>
    some ("\x7b" ++ quoted state ++ ": [" ++ ", ".intercalate (rules.map Rule.render) ++ "]\x7d")
  | _ => none

theorem get?_insert (b : Rulebook κ) (state other : String) (rules : List (Rule κ)) :
    (b.insert state rules).get? other = if other = state then some rules else b.get? other := by
  unfold insert get?
  rw [List.lookup_cons]
  by_cases h : other = state
  · simp [h]
  · have hb : (other == state) = false := by simpa using h
    rw [hb, if_neg h]
    induction b.entries with
    | nil => rfl
    | cons e es ih =>
      obtain ⟨name, rs⟩ := e
      by_cases hn : name = state
      · subst hn
        have : (other == name) = false := hb
        simp [List.lookup_cons, this, ih]
      · simp only [List.filter_cons, bne_iff_ne, ne_eq, hn, not_false_eq_true, if_true,
          List.lookup_cons, ih]

end Rulebook

end PushdownLexer
