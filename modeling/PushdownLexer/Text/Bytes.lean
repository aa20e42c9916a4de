/-!
# Lengths in bytes

A text is a list of characters. Its places are counted in bytes of its UTF-8 form, so only some
numbers are places between two characters.

## Main definitions

* `byteLength`: the length of a text.
* `splitAtByte?`: cut a text at a place between two characters.
* `takeBytes`: the longest beginning within a number of bytes.
* `slice?`: the text between two places.
-/

namespace PushdownLexer

/-- The number of bytes of a text. -/
def byteLength : List Char → Nat
  | [] => 0
  | c :: text => c.utf8Size + byteLength text

/-- Cut a text after `n` bytes, if that is a place between two characters or an end. -/
def splitAtByte? : Nat → List Char → Option (List Char × List Char)
  | 0, text => some ([], text)
  | _ + 1, [] => none
  | n + 1, c :: text =>
    if c.utf8Size ≤ n + 1 then
      (splitAtByte? (n + 1 - c.utf8Size) text).map fun (before, after) => (c :: before, after)
    else none

/-- The longest beginning of a text with at most `n` bytes. -/
def takeBytes (n : Nat) : List Char → List Char
  | [] => []
  | c :: text => if c.utf8Size ≤ n then c :: takeBytes (n - c.utf8Size) text else []

/-- The part of a text from the byte `start` to the byte `stop`, if both are places between two
characters and come in this order. -/
def slice? (text : List Char) (start stop : Nat) : Option (List Char) := do
  if stop < start then none
  else
    let (_, after) ← splitAtByte? start text
    let (part, _) ← splitAtByte? (stop - start) after
    return part

@[simp] theorem byteLength_nil : byteLength [] = 0 := rfl

@[simp] theorem byteLength_cons (c : Char) (text : List Char) :
    byteLength (c :: text) = c.utf8Size + byteLength text := rfl

theorem byteLength_append (s t : List Char) :
    byteLength (s ++ t) = byteLength s + byteLength t := by
  induction s with
  | nil => simp
  | cons c s ih => simp [ih, Nat.add_assoc]

/-- Cutting a text loses nothing. -/
theorem append_of_splitAtByte? {n : Nat} {text before after : List Char}
    (h : splitAtByte? n text = some (before, after)) : before ++ after = text := by
  fun_induction splitAtByte? n text generalizing before after with
  | case1 => simp_all
  | case2 => simp at h
  | case3 n c text _ ih =>
    obtain ⟨⟨b, a⟩, hs, he⟩ := Option.map_eq_some_iff.1 h
    cases he
    simp [ih hs]
  | case4 => simp at h

/-- The part in front of a cut has as many bytes as asked for. -/
theorem byteLength_of_splitAtByte? {n : Nat} {text before after : List Char}
    (h : splitAtByte? n text = some (before, after)) : byteLength before = n := by
  fun_induction splitAtByte? n text generalizing before after with
  | case1 => simp_all
  | case2 => simp at h
  | case3 n c text _ ih =>
    obtain ⟨⟨b, a⟩, hs, he⟩ := Option.map_eq_some_iff.1 h
    cases he
    simp [ih hs]
    omega
  | case4 => simp at h

/-- A beginning of a text can be cut off by its length. -/
theorem splitAtByte?_append (s t : List Char) :
    splitAtByte? (byteLength s) (s ++ t) = some (s, t) := by
  induction s with
  | nil => simp [splitAtByte?]
  | cons c s ih =>
    obtain ⟨k, hk⟩ : ∃ k, byteLength (c :: s) = k + 1 :=
      ⟨byteLength (c :: s) - 1, by have := c.utf8Size_pos; simp; omega⟩
    have hle : c.utf8Size ≤ k + 1 := by rw [← hk]; simp
    have hsub : k + 1 - c.utf8Size = byteLength s := by rw [← hk]; simp
    rw [hk, List.cons_append, splitAtByte?, if_pos hle, hsub, ih]
    rfl

end PushdownLexer
