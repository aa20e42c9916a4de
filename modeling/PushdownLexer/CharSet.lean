/-!
# Sets of characters

A set of characters is kept as closed ranges of code points in increasing order, no two of which
overlap or touch. Equal sets therefore have equal ranges.

## Main definitions

* `CharSet.contains`: membership of a character.
* `CharSet.union`, `CharSet.inter`, `CharSet.diff`, `CharSet.symmDiff`, `CharSet.complement`.
* `CharSet.single?`: the only member of a set with one member.
* `CharSet.ofText`: the set that a text such as `41-5A C0-D6 100-12E/2` stands for.
-/

namespace PushdownLexer

/-- A set of code points, as closed ranges in increasing order that neither overlap nor touch. -/
structure CharSet where
  ranges : List (Nat × Nat)
  deriving DecidableEq, Repr, Inhabited

namespace CharSet

/-- The largest code point. -/
def maxCode : Nat := 0x10FFFF

/-- The set without members. -/
def empty : CharSet := ⟨[]⟩

/-- The code points from `lo` to `hi`. -/
def ofRange (lo hi : Nat) : CharSet := ⟨[(lo, hi)]⟩

/-- The set with the one member `c`. -/
def single (c : Char) : CharSet := ofRange c.toNat c.toNat

/-- All characters. -/
def all : CharSet := ofRange 0 maxCode

/-- Whether the code point `n` is in the set. -/
def containsCode (s : CharSet) (n : Nat) : Bool :=
  s.ranges.any fun r => r.1 ≤ n && n ≤ r.2

/-- Whether the character `c` is in the set. -/
def contains (s : CharSet) (c : Char) : Bool := s.containsCode c.toNat

/-- Whether the set has no members. -/
def isEmpty (s : CharSet) : Bool := s.ranges.isEmpty

/-- Whether all members are below `bound`. -/
def below (s : CharSet) (bound : Nat) : Bool := s.ranges.all fun r => r.2 < bound

/-- Put the range from `lo` to `hi` into ordered ranges, joined with those that it meets. -/
def addRange (lo hi : Nat) : List (Nat × Nat) → List (Nat × Nat)
  | [] => [(lo, hi)]
  | (a, b) :: rest =>
    if hi + 1 < a then (lo, hi) :: (a, b) :: rest
    else if b + 1 < lo then (a, b) :: addRange lo hi rest
    else addRange (min lo a) (max hi b) rest

/-- The set together with the code points from `lo` to `hi`. -/
def add (s : CharSet) (lo hi : Nat) : CharSet := ⟨addRange lo hi s.ranges⟩

/-- The members of either set. -/
def union (s t : CharSet) : CharSet :=
  ⟨s.ranges.foldr (fun r acc => addRange r.1 r.2 acc) t.ranges⟩

/-- The code point of the character after the one with code point `n`. -/
def codeAfter (n : Nat) : Nat := if n = 0xD7FF then 0xE000 else n + 1

/-- The code point of the character before the one with code point `n`. -/
def codeBefore (n : Nat) : Nat := if n = 0xE000 then 0xD7FF else n - 1

/-- The range between one that ends at `hi` and one that starts at `lo`. Two ranges that meet around
the surrogates have the two characters there for their gap. -/
def gap (hi lo : Nat) : Nat × Nat :=
  (min (codeAfter hi) (codeBefore lo), max (codeAfter hi) (codeBefore lo))

/-- The ranges between the given ones, after `last` and up to `top`. -/
def gapsAfter (top last : Nat) : List (Nat × Nat) → List (Nat × Nat)
  | [] => if last < top then [(codeAfter last, top)] else []
  | (lo, hi) :: rest => gap last lo :: gapsAfter top hi rest

/-- The ranges around and between the given ones, up to `top`. -/
def gaps (top : Nat) : List (Nat × Nat) → List (Nat × Nat)
  | [] => [(0, top)]
  | (lo, hi) :: rest => (if 0 < lo then [(0, codeBefore lo)] else []) ++ gapsAfter top hi rest

/-- The code points up to `top` that are not in the set. -/
def complementBelow (s : CharSet) (top : Nat) : CharSet := ⟨gaps top s.ranges⟩

/-- The code points that are not in the set. -/
def complement (s : CharSet) : CharSet := s.complementBelow maxCode

/-- What two ranges share. -/
def meet? (r t : Nat × Nat) : Option (Nat × Nat) :=
  if max r.1 t.1 ≤ min r.2 t.2 then some (max r.1 t.1, min r.2 t.2) else none

/-- The members of both sets. -/
def inter (s t : CharSet) : CharSet := ⟨s.ranges.flatMap fun r => t.ranges.filterMap (meet? r)⟩

/-- What is left of the range from `lo` to `hi` without the given ones. -/
def cut (lo hi : Nat) : List (Nat × Nat) → List (Nat × Nat)
  | [] => [(lo, hi)]
  | (a, b) :: rest =>
    if hi < a then [(lo, hi)]
    else if b < lo then cut lo hi rest
    else
      (if lo < a then [(lo, codeBefore a)] else []) ++
        (if b < hi then cut (codeAfter b) hi rest else [])

/-- The members of `s` that are not in `t`. -/
def diff (s t : CharSet) : CharSet := ⟨s.ranges.flatMap fun r => cut r.1 r.2 t.ranges⟩

/-- The members of exactly one of the sets. -/
def symmDiff (s t : CharSet) : CharSet := (s.union t).diff (s.inter t)

/-- The only member of a set that has just one. -/
def single? (s : CharSet) : Option Char :=
  match s.ranges with
  | [(lo, hi)] => if lo = hi then some (Char.ofNat lo) else none
  | _ => none

/-- The set of the characters of a list. -/
def ofList (cs : List Char) : CharSet :=
  cs.foldl (fun s c => s.add c.toNat c.toNat) empty

/-- Join each range with the ones after it that it meets; the ranges come by increasing start. -/
def joinFrom (lo hi : Nat) : List (Nat × Nat) → List (Nat × Nat)
  | [] => [(lo, hi)]
  | (a, b) :: rest =>
    if a ≤ hi + 1 then joinFrom lo (max hi b) rest else (lo, hi) :: joinFrom a b rest

/-- The members of any of the sets. -/
def unionAll (sets : List CharSet) : CharSet :=
  match (sets.flatMap ranges).mergeSort fun a b => a.1 ≤ b.1 with
  | [] => empty
  | (lo, hi) :: rest => ⟨joinFrom lo hi rest⟩

/-- The value of a hexadecimal digit, the letters being capitals. -/
def hexDigit (c : Char) : Nat :=
  if c.isDigit then c.toNat - '0'.toNat else c.toNat - 'A'.toNat + 10

/-- The value of a hexadecimal number. -/
def hexNumber (digits : String) : Nat := digits.foldl (fun n c => n * 16 + hexDigit c) 0

/-- The ranges that one item of a written set stands for: `lo`, `lo-hi`, or `lo-hi/step` for every
code point from `lo` to `hi` in steps of `step`. -/
def rangesOfItem (item : String) : List (Nat × Nat) :=
  match (item.splitOn "/").map (·.splitOn "-") with
  | [[lo]] => [(hexNumber lo, hexNumber lo)]
  | [[lo, hi]] => [(hexNumber lo, hexNumber hi)]
  | [[lo, hi], [step]] =>
    let (lo, hi, step) := (hexNumber lo, hexNumber hi, hexNumber step)
    (List.range ((hi - lo) / step + 1)).map fun i => (lo + i * step, lo + i * step)
  | _ => []

/-- The set written as items in increasing order and in hexadecimal, with blanks and line ends
between them. -/
def ofText (text : String) : CharSet :=
  let items := (text.map fun c => if c = '\n' then ' ' else c).splitOn " "
  ⟨(items.filter (!·.isEmpty)).flatMap rangesOfItem⟩

end CharSet

end PushdownLexer
