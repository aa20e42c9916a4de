import PushdownLexer.Proofs.Scan.Lockstep

/-!
# More rules and more states

A rulebook is extended by rules that come after those of a state, and by further states. The scan
with the extended rulebook makes the same moves, since a rule that comes later is not looked at
where an earlier one matches, however long its match would be. So all results stay but those that
tell of a lack of rules; there the extended rulebook may go on where the other one fails.

## Main definitions

* `Rulebook.Extends`: one rulebook extends another one.

## Main statements

* `scan_of_extends`: the scan with the extended rulebook follows the other one, and comes to the
  same result unless that one lacks rules.
-/

namespace PushdownLexer

variable {κ : Type} {book book' : Rulebook κ} {settings : ScanSettings} {text : List Char}
  {moves : List (Move κ)} {m m' : Machine κ} {rule : Rule κ} {found : Match κ} {stalled : Nat}

/-- The states of `book` have rules in `book'` too: the same ones first, then perhaps more. -/
def Rulebook.Extends (book' book : Rulebook κ) : Prop :=
  ∀ state rules, book.get? state = some rules → ∃ more, book'.get? state = some (rules ++ more)

theorem Rulebook.Extends.suffices (h : book'.Extends book) :
    Suffices Eq book book' settings text where
  alike _ _ := Rule.alike_of_eq
  contains state hstate := by
    obtain ⟨rules, hrules⟩ := contains_iff.1 hstate
    obtain ⟨more, hmore⟩ := h state rules hrules
    exact contains_iff.2 ⟨_, hmore⟩
  rules moves m hm := by
    obtain ⟨more, hmore⟩ := h _ _ hm.consistent.rules
    exact ⟨_, hmore, m.rules, List.prefix_append _ _, List.forall₂_refl _⟩

/-- Where the one machine applies a match, the other one applies the very same. -/
theorem Machine.Abreast.applies_same (h : m.Abreast m') (hrules : Begins Eq m.rules m'.rules)
    (happlies : m.Applies rule found stalled) : m'.Applies rule found stalled := by
  obtain ⟨rule', found', happlies', hmove, -⟩ :=
    h.applies (fun _ _ => Rule.alike_of_eq) hrules happlies
  have hsame := hmove.eq
  simp only [Move.mk.injEq] at hsame
  obtain ⟨-, rfl, rfl⟩ := hsame
  exact happlies'

/-- The scan with the extended rulebook makes the moves of the other one. -/
theorem Rulebook.Extends.reached (h : book'.Extends book)
    (hm : Reached book settings text moves m) :
    ∃ m', Reached book' settings text moves m' ∧ m.Abreast m' ∧ m'.tokens = m.tokens ∧
      Begins Eq m.rules m'.rules := by
  obtain ⟨moves', m', hm', habreast, hmoves⟩ := h.suffices.reached hm
  obtain rfl := Move.eq_of_forall₂ hmoves
  have htokens : m'.tokens = m.tokens := hm'.tokens_eq.trans hm.tokens_eq.symm
  exact ⟨m', hm', habreast, htokens, h.suffices.begins hm hm' habreast⟩

/-- The scan with an extended rulebook comes to the same result, unless the scan with the other one
fails for a lack of rules. In any case it makes the moves of that one as far as they go: it comes to
the same places, in the same states and with the same tokens, and applies there the same matches, up
to the match after which that one fails. -/
theorem scan_of_extends (hextends : book'.Extends book) (settings : ScanSettings)
    (text : List Char) :
    ((∀ f, (scan book settings text).result = .error f → f.lacksRules = false) →
      (scan book' settings text).result = (scan book settings text).result) ∧
    ∀ moves m, Reached book settings text moves m →
      ∃ m', Reached book' settings text moves m' ∧
        m'.cursor = m.cursor ∧ m'.nesting = m.nesting ∧ m'.stalled = m.stalled ∧
        m'.tokens = m.tokens ∧
        ∀ rule found stalled, m.Applies rule found stalled → m'.Applies rule found stalled := by
  refine ⟨fun hlacks => ?_, fun moves m hm => ?_⟩
  · apply ResultsAlike.eq
    apply hextends.suffices.resultsAlike
    intro f hf hlacksRules
    rw [hlacks f hf] at hlacksRules
    cases hlacksRules
  · obtain ⟨m', hm', habreast, htokens, hrules⟩ := hextends.reached hm
    exact ⟨m', hm', habreast.cursor, habreast.nesting, habreast.stalled, htokens,
      fun _ _ _ happlies => habreast.applies_same hrules happlies⟩

/-- The rules of `brackets`, with rules for letters after them, and with a further state. -/
def letteredBrackets : Rulebook String where
  entries := [
    ("other", []),
    ("word", [
      ⟨"a", atCursor (.literal ['a']), .stay, some⟩,
      ⟨"b", atCursor (.literal ['b']), .stay, some⟩]),
    ("root", [
      ⟨"\\(", atCursor (.literal ['(']), .enter "inner", fun _ => none⟩,
      ⟨"", atCursor .empty, .enter "word", fun _ => none⟩,
      ⟨"a", atCursor (.literal ['a']), .stay, some⟩]),
    ("inner", [
      ⟨"\\(", atCursor (.literal ['(']), .enter "inner", fun _ => none⟩,
      ⟨"", atCursor .empty, .leave, fun _ => none⟩,
      ⟨"a", atCursor (.literal ['a']), .enter "other", fun _ => none⟩])]

theorem letteredBrackets_extends : letteredBrackets.Extends brackets := by
  intro state rules h
  obtain ⟨before, after, hentries, -⟩ := List.lookup_eq_some_iff.1 h
  have hmem : (state, rules) ∈ brackets.entries := by
    rw [hentries]
    exact List.mem_append_right _ List.mem_cons_self
  simp only [brackets, List.mem_cons, Prod.mk.injEq, List.not_mem_nil, or_false] at hmem
  obtain ⟨rfl, rfl⟩ | ⟨rfl, rfl⟩ | ⟨rfl, rfl⟩ := hmem
  · exact ⟨_, rfl⟩
  · exact ⟨_, rfl⟩
  · exact ⟨[⟨"b", atCursor (.literal ['b']), .stay, some⟩], rfl⟩

/-- The letter after two brackets is scanned as with fewer rules, although two of the new rules
would match it without leaving the brackets. With another letter, which the fewer rules do not
match, the scans part only there. -/
theorem letteredBrackets_scan :
    (scan letteredBrackets {} ['(', '(', 'a']).result =
        .ok ⟨[⟨"a", ⟨⟨1, 3, 2⟩, ⟨1, 4, 3⟩⟩⟩], 3, "word"⟩ ∧
      (scan brackets {} ['(', 'b']).result = .error (.noRule ⟨1, 2, 1⟩ "word" "b") ∧
      (scan letteredBrackets {} ['(', 'b']).result =
        .ok ⟨[⟨"b", ⟨⟨1, 2, 1⟩, ⟨1, 3, 2⟩⟩⟩], 2, "word"⟩ ∧
      ∃ moves m, Reached letteredBrackets {} ['(', 'b'] moves m ∧
        moves.map Move.length = [0, 0, 1] ∧ m.nesting.toList = ["root", "word"] := by
  refine ⟨?_, ?_, ?_, ?_⟩
  · have hscan : (scan brackets {} ['(', '(', 'a']).result =
        .ok ⟨[⟨"a", ⟨⟨1, 3, 2⟩, ⟨1, 4, 3⟩⟩⟩], 3, "word"⟩ := result_of_iterate (n := 7) rfl rfl
    rw [← hscan]
    refine (scan_of_extends letteredBrackets_extends {} ['(', '(', 'a']).1 fun f hf => ?_
    rw [hscan] at hf
    cases hf
  · exact result_of_iterate (n := 4) rfl rfl
  · exact result_of_iterate (n := 5) rfl rfl
  · have start : Reached brackets {} ['(', 'b'] [] _ := .start rfl
    have inside := start.next ⟨rfl, rfl, rfl⟩ (.enter rfl (by decide))
    have word := (inside.next ⟨rfl, rfl, rfl⟩ (.leave rfl rfl)).next ⟨rfl, rfl, rfl⟩
      (.enter rfl (by decide))
    obtain ⟨m, hm, -, hnesting, -⟩ :=
      (scan_of_extends letteredBrackets_extends {} ['(', 'b']).2 _ _ word
    exact ⟨_, m, hm, rfl, by rw [hnesting]; rfl⟩

end PushdownLexer
