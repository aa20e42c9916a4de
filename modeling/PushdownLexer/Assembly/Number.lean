/-!
# Numbers of the assembly dialect

A number is a run of digits in some base. Its value has 63 bits and a sign; larger values are cut
down to the largest one.

## Main definitions

* `Assembly.digitValue?`: the value of a digit in a base.
* `Assembly.parseDigits`: the value of a run of digits.
-/

namespace PushdownLexer.Assembly

/-- The largest value of a number. -/
def maxNumber : Int := 0x7FFFFFFFFFFFFFFF

/-- The value nearest to `n` that a number can have. -/
def saturate (n : Int) : Int := max (-maxNumber - 1) (min n maxNumber)

/-- The value of a digit in a base of at most 36; letters of both cases follow the digit nine. -/
def digitValue? (base : Nat) (c : Char) : Option Nat :=
  let value? :=
    if '0' ≤ c ∧ c ≤ '9' then some (c.toNat - '0'.toNat)
    else if 'a' ≤ c ∧ c ≤ 'z' then some (c.toNat - 'a'.toNat + 10)
    else if 'A' ≤ c ∧ c ≤ 'Z' then some (c.toNat - 'A'.toNat + 10)
    else none
  value?.filter (· < base)

/-- The value after one more digit, each operation being cut down to the largest number. -/
def pushDigit (base : Nat) (value : Int) (digit : Nat) : Int :=
  saturate (saturate (value * base) + digit)

/-- The value of a run of digits, other characters being passed over. -/
def parseDigits (digits : List Char) (base : Nat) : Int :=
  (digits.filterMap (digitValue? base)).foldl (pushDigit base) 0

end PushdownLexer.Assembly
