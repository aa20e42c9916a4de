import Mathlib.Data.List.Basic
import Mathlib.Data.List.Induction
import Mathlib.Data.Nat.Digits.Defs
import Mathlib.Tactic.Linarith
import PushdownLexer.Assembly.Number

/-!
# The values of numbers

A run of digits stands for a sum of powers of its base. Reading it digit by digit, with each step
cut down to the largest number, gives this sum, cut down once.

## Main definitions

* `Assembly.isHexDigit`, `Assembly.isBit`: the digits in the bases 16 and 2.
* `Assembly.numeral`: the sum that a run of digits stands for.

## Main statements

* `Assembly.parseDigits_eq`: reading a run of digits gives its numeral, as far as there is room.
-/

namespace PushdownLexer.Assembly

variable {base : Nat} {c d : Char} {digits : List Char}

/-- A digit in base 16. -/
def isHexDigit (c : Char) : Bool := c.isDigit || ('A' ≤ c && c ≤ 'F') || ('a' ≤ c && c ≤ 'f')

/-- A digit in base 2. -/
def isBit (c : Char) : Bool := c == '0' || c == '1'

/-- The weight of a digit; letters of both cases follow the digit nine. -/
def digitWeight (c : Char) : Nat :=
  if c.isDigit then c.toNat - '0'.toNat
  else if c.isLower then c.toNat - 'a'.toNat + 10
  else c.toNat - 'A'.toNat + 10

/-- The sum that a run of digits stands for; the last digit counts the ones. -/
def numeral (base : Nat) (digits : List Char) : Nat :=
  Nat.ofDigits base (digits.reverse.map digitWeight)

/-! ## Digits -/

theorem le_iff_toNat : c ≤ d ↔ c.toNat ≤ d.toNat := by
  simp [Char.le_def, UInt32.le_iff_toNat_le]

theorem isDigit_iff : c.isDigit ↔ 0x30 ≤ c.toNat ∧ c.toNat ≤ 0x39 := by
  simp [Char.isDigit, UInt32.le_iff_toNat_le]

theorem isLower_iff : c.isLower ↔ 0x61 ≤ c.toNat ∧ c.toNat ≤ 0x7A := by
  change (decide (c.val ≥ 'a'.val) && decide (c.val ≤ 'z'.val)) = true ↔ _
  simp [UInt32.le_iff_toNat_le]

theorem digitValue?_eq_of_isSome (h : (digitValue? base c).isSome) :
    digitValue? base c = some (digitWeight c) := by
  simp only [digitValue?, digitWeight, isDigit_iff, isLower_iff, le_iff_toNat] at h ⊢
  split_ifs at h ⊢ <;> simp_all [Option.filter]

theorem isSome_of_isDigit (h : c.isDigit) : (digitValue? 10 c).isSome := by
  rw [isDigit_iff] at h
  simp only [digitValue?, Option.filter, le_iff_toNat]
  grind

theorem isSome_of_isHexDigit (h : isHexDigit c) : (digitValue? 16 c).isSome := by
  simp only [isHexDigit, isDigit_iff, le_iff_toNat, Bool.or_eq_true, Bool.and_eq_true,
    decide_eq_true_eq] at h
  simp only [digitValue?, Option.filter, le_iff_toNat]
  grind

theorem isSome_of_isBit (h : isBit c) : (digitValue? 2 c).isSome := by
  simp only [isBit, Bool.or_eq_true, beq_iff_eq] at h
  rcases h with rfl | rfl <;> rfl

/-! ## Cutting down -/

theorem saturate_of_nonneg {n : Int} (h : 0 ≤ n) : saturate n = min n maxNumber := by
  simp only [saturate, maxNumber]
  omega

/-- One more digit after a value that is cut down gives the next value, cut down. -/
theorem pushDigit_min (base n digit : Nat) :
    pushDigit base (min n maxNumber) digit = min ((n * base + digit : Nat) : Int) maxNumber := by
  have hmax : (0 : Int) ≤ maxNumber := by decide
  have hvalue : (0 : Int) ≤ min (n : Int) maxNumber := le_min (Int.natCast_nonneg n) hmax
  have hproduct : 0 ≤ min (n : Int) maxNumber * base := mul_nonneg hvalue (Int.natCast_nonneg base)
  rw [pushDigit, saturate_of_nonneg hproduct, saturate_of_nonneg (by omega), Nat.cast_add,
    Nat.cast_mul]
  rcases le_total (n : Int) maxNumber with hle | hle
  · rw [min_eq_left hle]
    omega
  · rw [min_eq_right hle]
    rcases Nat.eq_zero_or_pos base with rfl | hbase
    · simp [hmax]
    · -- Both values were too large before the digit and are so after it.
      have hcut : maxNumber ≤ maxNumber * base := by nlinarith
      have hsum : maxNumber ≤ n * base := by nlinarith
      omega

theorem foldl_pushDigit (base : Nat) (values : List Nat) :
    values.foldl (pushDigit base) 0 =
      min ((Nat.ofDigits base values.reverse : Nat) : Int) maxNumber := by
  induction values using List.reverseRecOn with
  | nil => rfl
  | append_singleton values v ih =>
    rw [List.foldl_append, ih, List.foldl_cons, List.foldl_nil, pushDigit_min, List.reverse_append,
      List.reverse_singleton, List.singleton_append, Nat.ofDigits_cons, Nat.add_comm,
      Nat.mul_comm]

/-- Reading a run of digits gives its numeral, cut down to the largest number. -/
theorem parseDigits_eq (h : ∀ c ∈ digits, (digitValue? base c).isSome) :
    parseDigits digits base = min (numeral base digits : Int) maxNumber := by
  have hvalues : digits.filterMap (digitValue? base) = digits.map digitWeight := by
    rw [← List.filterMap_eq_map]
    exact List.filterMap_congr fun c hc => digitValue?_eq_of_isSome (h c hc)
  rw [parseDigits, hvalues, foldl_pushDigit, numeral, List.map_reverse]

end PushdownLexer.Assembly
