import PushdownLexer.CharSet

/-!
# Sets of characters as sequences of byte ranges

In UTF-8 a character is one byte to four. The characters of a set are those whose bytes lie, one by
one, in the ranges of one of a number of sequences.

## Main definitions

* `ByteRange`: the bytes between two bounds.
* `CharSet.byteSequences`: the sequences of a set, in increasing order.
-/

namespace PushdownLexer

/-- The bytes from `lo` to `hi`. -/
structure ByteRange where
  lo : Nat
  hi : Nat
  deriving DecidableEq, Repr

/-- The bytes of the character with code point `n`. -/
def utf8Bytes (n : Nat) : List Nat :=
  if n < 0x80 then [n]
  else if n < 0x800 then [0xC0 + n / 64, 0x80 + n % 64]
  else if n < 0x10000 then [0xE0 + n / 4096, 0x80 + n / 64 % 64, 0x80 + n % 64]
  else [0xF0 + n / 262144, 0x80 + n / 4096 % 64, 0x80 + n / 64 % 64, 0x80 + n % 64]

/-- Cut a range of code points so that, with regard to each of the block sizes, a part lies in one
block or covers whole blocks. The sizes come in increasing order. -/
def alignedParts : List Nat → Nat → Nat → List (Nat × Nat)
  | [], lo, hi => [(lo, hi)]
  | size :: sizes, lo, hi =>
    if lo / size = hi / size then [(lo, hi)]
    else
      let start := (lo + size - 1) / size * size
      let stop := (hi + 1) / size * size
      let front := if lo < start then [(lo, start - 1)] else []
      let back := if stop ≤ hi then [(stop, hi)] else []
      front ++ (if start < stop then alignedParts sizes start (stop - 1) else []) ++ back

/-- The code points of the characters with one byte, two, three and four, without the surrogates,
and for each length the number of characters that share all bytes but the last one, two and
three. -/
def lengthClasses : List ((Nat × Nat) × List Nat) :=
  [((0, 0x7F), []), ((0x80, 0x7FF), [64]), ((0x800, 0xD7FF), [64, 4096]),
   ((0xE000, 0xFFFF), [64, 4096]), ((0x10000, CharSet.maxCode), [64, 4096, 262144])]

/-- The sequences for the characters of a range. -/
def byteSequencesOfRange (r : Nat × Nat) : List (List ByteRange) :=
  lengthClasses.flatMap fun (codes, sizes) =>
    match CharSet.meet? r codes with
    | none => []
    | some (lo, hi) =>
      (alignedParts sizes lo hi).map fun p =>
        (utf8Bytes p.1).zipWith ByteRange.mk (utf8Bytes p.2)

/-- The sequences of byte ranges for the characters of a set, in increasing order. -/
def CharSet.byteSequences (s : CharSet) : List (List ByteRange) :=
  s.ranges.flatMap byteSequencesOfRange

end PushdownLexer
