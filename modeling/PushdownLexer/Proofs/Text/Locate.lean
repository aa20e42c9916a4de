import Mathlib.Order.Bounds.Basic
import PushdownLexer.Proofs.Text.Lines

/-!
# The position of an offset

An offset can point anywhere. Its position is that of the last place between two characters at or
before it, and tells how many line feeds come before that place and how many characters after the
last of them. Positions come in the order of their places, so a line and a column tell which place
it is.

## Main definitions

* `IsBoundary`: an offset is a place between two characters, or an end of the text.
* `Position.Before`: a position comes before another one by its line and column.

## Main statements

* `Position.isGreatest_ofOffset`: the offset of a position is the place that was asked for.
* `Position.before_ofOffset`: the positions of places come in the order of the places.
* `position_of_offset`: what the position of an offset is.
-/

namespace PushdownLexer

variable {text before after part s t : List Char} {m n : Nat} {p q : Position}

/-! ## Places between characters -/

/-- An offset is a place between two characters of a text, or one of its ends. -/
def IsBoundary (text : List Char) (n : Nat) : Prop :=
  ∃ before after, text = before ++ after ∧ byteLength before = n

theorem isBoundary_iff : IsBoundary text n ↔ (splitAtByte? n text).isSome := by
  rw [Option.isSome_iff_exists]
  constructor
  · rintro ⟨before, after, rfl, rfl⟩
    exact ⟨_, splitAtByte?_append before after⟩
  · rintro ⟨⟨before, after⟩, hsplit⟩
    exact ⟨before, after, (append_of_splitAtByte? hsplit).symm, byteLength_of_splitAtByte? hsplit⟩

instance (text : List Char) (n : Nat) : Decidable (IsBoundary text n) :=
  decidable_of_iff _ isBoundary_iff.symm

theorem IsBoundary.le (h : IsBoundary text n) : n ≤ byteLength text := by
  obtain ⟨before, after, rfl, rfl⟩ := h
  rw [byteLength_append]
  omega

theorem byteLength_takeBytes_le (n : Nat) (text : List Char) :
    byteLength (takeBytes n text) ≤ n := by
  fun_induction takeBytes n text with
  | case1 => exact Nat.zero_le _
  | case2 n c text hle ih =>
    rw [byteLength_cons]
    omega
  | case3 => exact Nat.zero_le _

/-- A beginning with no more bytes than asked for is a beginning of the longest one. -/
theorem prefix_takeBytes (h : byteLength before ≤ n) :
    before <+: takeBytes n (before ++ after) := by
  induction before generalizing n with
  | nil => exact List.nil_prefix
  | cons c before ih =>
    rw [byteLength_cons] at h
    rw [List.cons_append, takeBytes, if_pos (by omega)]
    exact List.cons_prefix_cons.2 ⟨rfl, ih (by omega)⟩

theorem byteLength_le_of_isPrefix (h : s <+: t) : byteLength s ≤ byteLength t := by
  obtain ⟨rest, rfl⟩ := h
  rw [byteLength_append]
  omega

/-- Of two beginnings of a text, one with no more bytes is a beginning of the other one. -/
theorem prefix_of_byteLength_le (hs : s <+: text) (ht : t <+: text)
    (h : byteLength s ≤ byteLength t) : s <+: t := by
  obtain hst | hts := List.prefix_or_prefix_of_prefix hs ht
  · exact hst
  · have hlength : byteLength t = byteLength s := le_antisymm (byteLength_le_of_isPrefix hts) h
    obtain ⟨rest, rfl⟩ := hs
    obtain ⟨rest', hrest⟩ := ht
    exact (append_inj_of_byteLength hrest hlength).1 ▸ List.prefix_rfl

/-- The longest beginning reaches to the last place within the number of bytes. -/
theorem isGreatest_takeBytes (text : List Char) (n : Nat) :
    IsGreatest {m | IsBoundary text m ∧ m ≤ min n (byteLength text)}
      (byteLength (takeBytes n text)) := by
  obtain ⟨after, htext⟩ := takeBytes_isPrefix n text
  have hboundary : IsBoundary text (byteLength (takeBytes n text)) := ⟨_, after, htext.symm, rfl⟩
  refine ⟨⟨hboundary, le_min (byteLength_takeBytes_le n text) hboundary.le⟩, ?_⟩
  rintro m ⟨⟨before, after, rfl, rfl⟩, hm⟩
  exact byteLength_le_of_isPrefix (prefix_takeBytes (hm.trans (min_le_left _ _)))

namespace Position

/-! ## The order of positions -/

/-- A position comes before another one: on an earlier line, or on the same line in an earlier
column. -/
def Before (p q : Position) : Prop := p.line < q.line ∨ p.line = q.line ∧ p.column < q.column

theorem Before.trans {r : Position} (hpq : p.Before q) (hqr : q.Before r) : p.Before r := by
  unfold Before at *
  omega

theorem Before.ne (h : p.Before q) : ¬ (p.line = q.line ∧ p.column = q.column) := by
  unfold Before at h
  omega

theorem before_after (p : Position) (c : Char) : p.Before (p.after c) := by
  unfold Before after
  split <;> simp

/-- Counting on leads to a later position. -/
theorem before_afterAll (h : part ≠ []) (p : Position) : p.Before (p.afterAll part) := by
  induction part generalizing p with
  | nil => exact absurd rfl h
  | cons c part ih =>
    rw [afterAll_cons]
    by_cases hpart : part = []
    · rw [hpart]
      exact before_after p c
    · exact (before_after p c).trans (ih hpart _)

/-! ## Positions of offsets -/

/-- The position of an offset is that of the last place at or before it. -/
theorem isGreatest_ofOffset (text : List Char) (n : Nat) :
    IsGreatest {m | IsBoundary text m ∧ m ≤ min n (byteLength text)} (ofOffset text n).offset := by
  rw [ofOffset, offset_afterAll_origin]
  exact isGreatest_takeBytes text n

/-- What is before the position of an offset: whole lines, and then a part of one line. -/
theorem exists_line_ofOffset (text : List Char) (n : Nat) :
    ∃ before part after, text = before ++ part ++ after ∧
      byteLength (before ++ part) = (ofOffset text n).offset ∧
      (before = [] ∨ before.getLast? = some '\n') ∧ '\n' ∉ part ∧
      (ofOffset text n).line = 1 + (before ++ part).count '\n' ∧
      (ofOffset text n).column = 1 + part.length := by
  obtain ⟨after, htext⟩ := takeBytes_isPrefix n text
  obtain ⟨before, part, hpassed, hbefore, hpart⟩ := exists_lineStart (takeBytes n text)
  refine ⟨before, part, after, by rw [← hpassed, htext], ?_, hbefore, hpart, ?_, ?_⟩
  · rw [ofOffset, offset_afterAll_origin, hpassed]
  · rw [ofOffset, line_afterAll, hpassed, origin]
  · rw [ofOffset, hpassed, column_of_lineStart hbefore hpart, Nat.add_comm]

/-- The positions of places come in the order of the places. -/
theorem before_ofOffset (hm : IsBoundary text m) (hn : IsBoundary text n) (hlt : m < n) :
    (ofOffset text m).Before (ofOffset text n) := by
  obtain ⟨before, after, rfl, rfl⟩ := hm
  obtain ⟨before', after', htext, rfl⟩ := hn
  obtain ⟨part, rfl⟩ := prefix_of_byteLength_le ⟨after, rfl⟩ ⟨after', htext.symm⟩ hlt.le
  have hpart : part ≠ [] := by
    rintro rfl
    simp at hlt
  rw [ofOffset_append, htext, ofOffset_append, afterAll_append]
  exact before_afterAll hpart _

end Position

/-- The position of an offset has the offset of the last place between two characters that is not
after it. Its line counts the line feeds before this place, and its column the characters between
the last of them, or the start of the text, and this place. The positions of places come in the
order of the places, so no two places have the same line and column. -/
theorem position_of_offset (text : List Char) (n : Nat) :
    IsGreatest {m | IsBoundary text m ∧ m ≤ min n (byteLength text)}
        (Position.ofOffset text n).offset ∧
      (∃ before part after, text = before ++ part ++ after ∧
        byteLength (before ++ part) = (Position.ofOffset text n).offset ∧
        (before = [] ∨ before.getLast? = some '\n') ∧ '\n' ∉ part ∧
        (Position.ofOffset text n).line = 1 + (before ++ part).count '\n' ∧
        (Position.ofOffset text n).column = 1 + part.length) ∧
      ∀ o₁ o₂, IsBoundary text o₁ → IsBoundary text o₂ →
        (o₁ < o₂ → (Position.ofOffset text o₁).Before (Position.ofOffset text o₂)) ∧
        ((Position.ofOffset text o₁).line = (Position.ofOffset text o₂).line →
          (Position.ofOffset text o₁).column = (Position.ofOffset text o₂).column → o₁ = o₂) := by
  refine ⟨Position.isGreatest_ofOffset text n, Position.exists_line_ofOffset text n, ?_⟩
  intro o₁ o₂ h₁ h₂
  refine ⟨Position.before_ofOffset h₁ h₂, fun hline hcolumn => ?_⟩
  rcases Nat.lt_trichotomy o₁ o₂ with hlt | heq | hlt
  · exact absurd ⟨hline, hcolumn⟩ (Position.before_ofOffset h₁ h₂ hlt).ne
  · exact heq
  · exact absurd ⟨hline.symm, hcolumn.symm⟩ (Position.before_ofOffset h₂ h₁ hlt).ne

/-- A character of three bytes, a line end, and a character of two bytes. -/
def wideLines : List Char := ['中', '\n', 'é']

/-- The last byte of the first character is inside of it, so its position is that of the start; the
ends of the two characters are on different lines. -/
theorem position_in_wideLines :
    IsGreatest {m | IsBoundary wideLines m ∧ m ≤ min 2 (byteLength wideLines)} 0 ∧
      IsBoundary wideLines 3 ∧ IsBoundary wideLines 6 ∧
      (Position.ofOffset wideLines 3).Before (Position.ofOffset wideLines 6) ∧
      Position.ofOffset wideLines 6 = ⟨2, 2, 6⟩ := by
  obtain ⟨hgreatest, -, horder⟩ := position_of_offset wideLines 2
  have hthree : IsBoundary wideLines 3 := by decide
  have hsix : IsBoundary wideLines 6 := by decide
  exact ⟨hgreatest, hthree, hsix, (horder 3 6 hthree hsix).1 (by decide), rfl⟩

end PushdownLexer
