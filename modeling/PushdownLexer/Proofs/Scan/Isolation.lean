import PushdownLexer.Proofs.Scan.Guard
import PushdownLexer.Proofs.Scan.Lockstep

/-!
# Only the rules of active states matter

A scan selects from the rules of the active state. Of the other states it asks at most whether they
have rules at all, when they are entered. So two rulebooks that have rules for the same states, and
the same rules for those that become active in a scan, give it the same result.

## Main definitions

* `ActiveIn`: the states that become active in a scan.

## Main statements

* `scan_of_active_rules`: the rules of other states do not matter.
-/

namespace PushdownLexer

variable {κ : Type} {book book' : Rulebook κ} {settings : ScanSettings} {text : List Char}
  {state : String} {rules : List (Rule κ)}

/-- Somewhere on the way of the scan of `text` the state is active. -/
def ActiveIn (book : Rulebook κ) (settings : ScanSettings) (text : List Char) (state : String) :
    Prop :=
  ∃ moves m, Reached book settings text moves m ∧ m.nesting.active = state

theorem Rulebook.mirrors_of_active (hnames : ∀ state, book'.contains state = book.contains state)
    (hactive : ∀ state, ActiveIn book settings text state → book'.get? state = book.get? state) :
    Mirrors Eq book book' settings text where
  alike _ _ := Rule.alike_of_eq
  contains := hnames
  rules moves m hm :=
    ⟨m.rules, (hactive _ ⟨moves, m, hm, rfl⟩).trans hm.consistent.rules, List.forall₂_refl _⟩

theorem Rulebook.contains_insert (book : Rulebook κ) (state other : String)
    (rules : List (Rule κ)) :
    (book.insert state rules).contains other = (other == state || book.contains other) := by
  rw [contains, contains, get?_insert]
  split <;> simp_all

/-- Rulebooks with the same states, and the same rules for the states that become active in a scan,
give this scan the same result. In particular, other rules may be given to a state that never
becomes active. -/
theorem scan_of_active_rules (book : Rulebook κ) (settings : ScanSettings) (text : List Char) :
    (∀ book' : Rulebook κ, (∀ state, book'.contains state = book.contains state) →
      (∀ state, ActiveIn book settings text state → book'.get? state = book.get? state) →
        (scan book' settings text).result = (scan book settings text).result) ∧
    ∀ state rules, book.contains state = true → ¬ ActiveIn book settings text state →
      (scan (book.insert state rules) settings text).result =
        (scan book settings text).result := by
  have hisolated : ∀ book' : Rulebook κ,
      (∀ state, book'.contains state = book.contains state) →
      (∀ state, ActiveIn book settings text state → book'.get? state = book.get? state) →
        (scan book' settings text).result = (scan book settings text).result := by
    intro book' hnames hactive
    have hmirrors := Rulebook.mirrors_of_active hnames hactive
    exact (hmirrors.suffices.resultsAlike fun _ _ _ => hmirrors).eq
  refine ⟨hisolated, fun state rules hstate hidle => hisolated _ (fun other => ?_) ?_⟩
  · by_cases hother : other = state
    · rw [Rulebook.contains_insert, hother, hstate, Bool.or_true]
    · rw [Rulebook.contains_insert, beq_false_of_ne hother, Bool.false_or]
  · intro other hother
    rw [Rulebook.get?_insert, if_neg]
    rintro rfl
    exact hidle hother

/-- A letter alone is scanned without entering the state for brackets. -/
theorem active_of_letter (h : ActiveIn brackets {} ['a'] state) :
    state = "root" ∨ state = "word" := by
  obtain ⟨moves, m, hm, rfl⟩ := h
  have hfree := hm.freeScan_add 0
  generalize moves.length = n at hfree
  match n with
  | 0 =>
    have hstep : freeScan brackets {} ['a'] 0 = .goOn _ := rfl
    cases hstep.symm.trans hfree
    exact .inl rfl
  | 1 =>
    have hstep : freeScan brackets {} ['a'] 1 = .goOn _ := rfl
    cases hstep.symm.trans hfree
    exact .inr rfl
  | 2 =>
    have hstep : freeScan brackets {} ['a'] 2 = .goOn _ := rfl
    cases hstep.symm.trans hfree
    exact .inr rfl
  | n + 3 =>
    have hend : freeScan brackets {} ['a'] 3 = .halt _ := rfl
    have hstays := freeScan_add_of_halt hend n
    rw [Nat.add_comm 3 n] at hstays
    cases hstays.symm.trans hfree

/-- The rulebook `brackets` in another order, with other rules for the state for brackets. -/
def letteredInside : Rulebook String where
  entries := [
    ("word", [⟨"a", atCursor (.literal ['a']), .stay, some⟩]),
    ("inner", [⟨"a", atCursor (.literal ['a']), .leave, some⟩]),
    ("root", [
      ⟨"\\(", atCursor (.literal ['(']), .enter "inner", fun _ => none⟩,
      ⟨"", atCursor .empty, .enter "word", fun _ => none⟩])]

/-- The other rules do not matter for a letter alone; nor does it if brackets have no rules. -/
theorem letter_isolated :
    (scan letteredInside {} ['a']).result = .ok ⟨[⟨"a", ⟨⟨1, 1, 0⟩, ⟨1, 2, 1⟩⟩⟩], 1, "word"⟩ ∧
      (scan (brackets.insert "inner" []) {} ['a']).result =
        .ok ⟨[⟨"a", ⟨⟨1, 1, 0⟩, ⟨1, 2, 1⟩⟩⟩], 1, "word"⟩ := by
  have hscan : (scan brackets {} ['a']).result =
      .ok ⟨[⟨"a", ⟨⟨1, 1, 0⟩, ⟨1, 2, 1⟩⟩⟩], 1, "word"⟩ := result_of_iterate (n := 3) rfl rfl
  rw [← hscan]
  constructor
  · refine (scan_of_active_rules brackets {} ['a']).1 letteredInside (fun state => ?_) ?_
    · simp only [Rulebook.contains, Rulebook.get?, brackets, letteredInside, List.lookup_cons,
        List.lookup_nil]
      grind
    · intro state hstate
      obtain rfl | rfl := active_of_letter hstate <;> rfl
  · refine (scan_of_active_rules brackets {} ['a']).2 "inner" [] rfl fun hinner => ?_
    obtain h | h := active_of_letter hinner <;> exact absurd h (by decide)

end PushdownLexer
