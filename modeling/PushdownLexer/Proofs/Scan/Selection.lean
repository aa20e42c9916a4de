import PushdownLexer.Proofs.Text.Place
import PushdownLexer.Scan.Machine

/-!
# Which rule is applied

Applying a rule never fails: where a match ends, a character ends. So the selection of a rule never
fails either; it gives the first rule of the list whose pattern is found, or none if there is no
such rule.

## Main statements

* `Rule.apply_eq_none_iff`, `Rule.apply_eq_some_iff`: what applying a rule gives.
* `select?_eq_none_iff`, `select?_eq_some_iff`: what the selection gives.
-/

namespace PushdownLexer

variable {κ : Type} {rules : List (Rule κ)} {rule : Rule κ} {c : Cursor} {found : Match κ}

namespace Rule

/-- The match of a rule whose pattern is found after `skipped` characters, `count` characters
long. -/
def matchAt (r : Rule κ) (c : Cursor) (skipped count : Nat) : Match κ :=
  let passed := c.rest.take (skipped + count)
  let moved : Cursor := ⟨c.text, c.rest.drop (skipped + count), c.place.afterAll passed⟩
  let matched := String.ofList ((c.rest.drop skipped).take count)
  ⟨moved, (r.kind? matched).map (⟨·, ⟨c.place, moved.place⟩⟩), r.directive, byteLength passed⟩

theorem apply_eq (r : Rule κ) (c : Cursor) :
    r.apply c = .ok ((r.pattern.find? c.rest).map fun p => r.matchAt c p.1 p.2) := by
  unfold apply
  cases r.pattern.find? c.rest with
  | none => rfl
  | some p => simp [Cursor.moveBy_take, matchAt]

theorem apply_eq_none_iff : rule.apply c = .ok none ↔ rule.pattern.find? c.rest = none := by
  simp [apply_eq]

theorem apply_eq_some_iff :
    rule.apply c = .ok (some found) ↔
      ∃ skipped count, rule.pattern.find? c.rest = some (skipped, count) ∧
        found = rule.matchAt c skipped count := by
  simp [apply_eq, eq_comm]

/-- A match says what its rule says about the nested states. -/
theorem directive_of_apply (h : rule.apply c = .ok (some found)) :
    found.directive = rule.directive := by
  obtain ⟨skipped, count, -, rfl⟩ := apply_eq_some_iff.1 h
  rfl

/-- A token reaches from where its match started to where it ended. -/
theorem span_of_apply {token : Token κ} (h : rule.apply c = .ok (some found))
    (ht : found.token = some token) : token.span = ⟨c.place, found.cursor.place⟩ := by
  obtain ⟨skipped, count, -, rfl⟩ := apply_eq_some_iff.1 h
  obtain ⟨kind, -, rfl⟩ := Option.map_eq_some_iff.1 ht
  rfl

/-- The token of a match at the cursor stands for the text that its kind was made of. -/
theorem lexeme?_matchAt {text : List Char} {count : Nat} {token : Token κ} (hc : c.Within text)
    (ht : (rule.matchAt c 0 count).token = some token) :
    token.lexeme? text = some (c.rest.take count) ∧
      rule.kind? (String.ofList (c.rest.take count)) = some token.kind := by
  obtain ⟨kind, hkind, rfl⟩ := Option.map_eq_some_iff.1 ht
  obtain ⟨passed, htext, hplace⟩ := hc.passed
  have hrest : text = passed ++ c.rest.take count ++ c.rest.drop count := by
    rw [List.append_assoc, List.take_append_drop, ← htext]
  simp only [List.drop_zero, Nat.zero_add] at hkind ⊢
  refine ⟨?_, hkind⟩
  have hstart : c.place.offset = byteLength passed := by
    rw [hplace, Position.offset_afterAll_origin]
  rw [Token.lexeme?, Span.text?, Position.offset_afterAll, hstart]
  conv_lhs => rw [hrest]
  exact slice?_append _ _ _

end Rule

/-- The selection never fails, and gives what the first rule with a match gives. -/
theorem select?_eq (rules : List (Rule κ)) (c : Cursor) :
    select? rules c = .ok (rules.findSome? fun r =>
      (r.pattern.find? c.rest).map fun p => (r, r.matchAt c p.1 p.2)) := by
  induction rules with
  | nil => rfl
  | cons r rules ih =>
    rw [select?, Rule.apply_eq, List.findSome?_cons]
    cases r.pattern.find? c.rest with
    | none => exact ih
    | some p => rfl

theorem select?_cases (rules : List (Rule κ)) (c : Cursor) :
    select? rules c = .ok none ∨ ∃ rule found, select? rules c = .ok (some (rule, found)) := by
  rw [select?_eq]
  cases rules.findSome? _ with
  | none => exact .inl rfl
  | some p => exact .inr ⟨p.1, p.2, rfl⟩

theorem select?_eq_none_iff :
    select? rules c = .ok none ↔ ∀ r ∈ rules, r.pattern.find? c.rest = none := by
  simp [select?_eq, List.findSome?_eq_none_iff]

/-- The selected rule is the first one whose pattern is found. -/
theorem select?_eq_some_iff :
    select? rules c = .ok (some (rule, found)) ↔
      rule.apply c = .ok (some found) ∧
        ∃ before after, rules = before ++ rule :: after ∧
          ∀ r ∈ before, r.pattern.find? c.rest = none := by
  simp only [select?_eq, Except.ok.injEq, List.findSome?_eq_some_iff, Option.map_eq_some_iff,
    Option.map_eq_none_iff, Prod.mk.injEq, Rule.apply_eq]
  constructor
  · rintro ⟨before, r, after, hrules, ⟨p, hp, rfl, hfound⟩, hbefore⟩
    exact ⟨⟨p, hp, hfound⟩, before, after, hrules, hbefore⟩
  · rintro ⟨⟨p, hp, hfound⟩, before, after, hrules, hbefore⟩
    exact ⟨before, rule, after, hrules, ⟨p, hp, rfl, hfound⟩, hbefore⟩

end PushdownLexer
