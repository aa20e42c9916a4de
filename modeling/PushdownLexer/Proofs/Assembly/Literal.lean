import PushdownLexer.Proofs.Assembly.Layout

/-!
# The values of number literals

A literal is a run of digits, with the mark of their base in front unless the base is ten. Its
token has the sum that the digits stand for as its value, or the largest number where the sum is
larger: no step on the way wraps around, and none is cut down while the sum still fits.

## Main definitions

* `Assembly.isDigitIn`: the digits in a base.

## Main statements

* `Assembly.digitValue?_eq`: the characters that have a value are the digits.
* `Assembly.values_of_literals`: the values of runs of digits, and of the literals in a text.
-/

namespace PushdownLexer.Assembly

variable {base : Nat} {c : Char} {k : Kind} {v : Int} {x : List Char}

/-- Whether a character is a digit in a base: an ASCII digit or letter of less weight. -/
def isDigitIn (base : Nat) (c : Char) : Bool := c.isAlphanum && digitWeight c < base

/-- The digits are the characters that have a value, which is their weight. -/
theorem digitValue?_eq (base : Nat) (c : Char) :
    digitValue? base c = if isDigitIn base c then some (digitWeight c) else none := by
  have hdigit : c.isAlphanum ↔ 0x30 ≤ c.toNat ∧ c.toNat ≤ 0x39 ∨
      0x41 ≤ c.toNat ∧ c.toNat ≤ 0x5A ∨ 0x61 ≤ c.toNat ∧ c.toNat ≤ 0x7A := by
    rw [Char.isAlphanum, Bool.or_eq_true, isAlpha_iff, isDigit_iff, or_comm]
  simp only [isDigitIn, Bool.and_eq_true, hdigit, decide_eq_true_eq, digitWeight, digitValue?,
    isDigit_iff, isLower_iff, le_iff_toNat, Option.filter]
  grind

theorem isSome_digitValue?_iff : (digitValue? base c).isSome ↔ isDigitIn base c := by
  rw [digitValue?_eq]
  split <;> simp_all

theorem Base.isDigitIn_of_isDigit {base : Base} (h : base.isDigit c) : isDigitIn base.radix c := by
  rw [← isSome_digitValue?_iff]
  cases base with
  | binary => exact isSome_of_isBit h
  | decimal => exact isSome_of_isDigit h
  | hexadecimal => exact isSome_of_isHexDigit h

theorem maxNumber_nonneg : 0 ≤ maxNumber := by decide

/-- The text of a number is the mark of a base and digits in this base. -/
theorem Spelt.exists_digits (h : Spelt (.number v) x) :
    ∃ (base : Base) (run : List Char), x = base.mark ++ run ∧ run ≠ [] ∧
      (∀ c ∈ run, isDigitIn base.radix c) ∧ v = min (numeral base.radix run : Int) maxNumber := by
  generalize hk : Kind.number v = k at h
  cases h with
  | number base hne hrun =>
    cases hk
    exact ⟨base, _, rfl, hne, fun c hc => Base.isDigitIn_of_isDigit (hrun c hc), rfl⟩
  | _ => cases hk

/-- Reading digits, however many and in either case, gives the sum that they stand for, cut down
once to the largest number; so the value is not negative. Each number that a scan gives is the
value, in this sense, of the digits of its token in the base that their mark tells. -/
theorem values_of_literals :
    (∀ base digits, (∀ c ∈ digits, isDigitIn base c) →
      parseDigits digits base = min (numeral base digits : Int) maxNumber ∧
        0 ≤ parseDigits digits base ∧ parseDigits digits base ≤ maxNumber) ∧
      ∀ text out, (scanSource {} text).result = .ok out →
        ∀ token ∈ out.tokens, ∀ v, token.kind = .number v →
          ∃ (base : Base) (run : List Char), token.lexeme? text = some (base.mark ++ run) ∧
            run ≠ [] ∧ (∀ c ∈ run, isDigitIn base.radix c) ∧
            v = min (numeral base.radix run : Int) maxNumber := by
  refine ⟨fun base digits hdigits => ?_, fun text out h token htoken v hv => ?_⟩
  · have hvalue := parseDigits_eq fun c hc => isSome_digitValue?_iff.2 (hdigits c hc)
    rw [hvalue]
    exact ⟨rfl, le_min (Int.natCast_nonneg _) maxNumber_nonneg, min_le_right _ _⟩
  · rw [scanSource_eq, result_scan] at h
    obtain ⟨x, hx, hspelt⟩ := spelt_of_read h token htoken
    rw [hv] at hspelt
    obtain ⟨base, run, rfl, hrun⟩ := hspelt.exists_digits
    exact ⟨base, run, hx, hrun⟩

/-- The largest digit in both cases, one more than the largest number, and a literal in a text. -/
theorem values_of_largest :
    parseDigits ['0', 'z', 'Z'] 36 = 1295 ∧
      parseDigits "9223372036854775808".toList 10 = maxNumber ∧
      ∃ out, (scanSource {} ['0', 'x', 'f', 'F']).result = .ok out ∧
        out.tokens.map Token.kind = [.number 255] ∧
        ∀ token ∈ out.tokens, ∃ (base : Base) (run : List Char),
          token.lexeme? ['0', 'x', 'f', 'F'] = some (base.mark ++ run) ∧
            (255 : Int) = min (numeral base.radix run : Int) maxNumber := by
  have hletters :=
    (values_of_literals.1 36 ['0', 'z', 'Z'] (List.all_eq_true.1 (by decide))).1
  have hlarge :=
    (values_of_literals.1 10 "9223372036854775808".toList (List.all_eq_true.1 (by decide))).1
  have hscan : (scanSource {} ['0', 'x', 'f', 'F']).result =
      .ok ⟨[⟨.number 255, ⟨⟨1, 1, 0⟩, ⟨1, 5, 4⟩⟩⟩], 4, "root"⟩ := by
    have hfront : front? .instructions ['0', 'x', 'f', 'F'] =
        some ⟨4, some (number 16 ['f', 'F']), .stay⟩ := by decide
    rw [scanSource_eq, result_scan, read, readFrom_of_eq_some hfront]
    exact congrArg _ (readFrom_of_eq_none rfl)
  refine ⟨hletters.trans (by decide), hlarge.trans (by decide), _, hscan, rfl, ?_⟩
  intro token htoken
  have hkind : token.kind = .number 255 := by simp_all
  obtain ⟨base, run, hlexeme, -, -, hvalue⟩ :=
    values_of_literals.2 _ _ hscan token htoken 255 hkind
  exact ⟨base, run, hlexeme, hvalue⟩

end PushdownLexer.Assembly
