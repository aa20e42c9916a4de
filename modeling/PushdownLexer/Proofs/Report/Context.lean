import Mathlib.Data.List.TakeDrop
import PushdownLexer.Proofs.Text.Lines
import PushdownLexer.Proofs.Text.Place
import PushdownLexer.Report.Context

/-!
# The source around a place points at it

What is shown around a place are whole lines between two rule lines, each behind its number. All
numbers are brought to one width, that of the last of them, so that the lines begin in one column
and the caret, which is moved by as many characters as the column of the place says, comes to stand
under the character at the place.

## Main definitions

* `numberedLines`: lines with their numbers.
* `PointsAt`: the shown lines point at a place on a line.

## Main statements

* `IsLine.getElem?_sourceLines`: the lines of a source are those that are shown.
* `sourceContext?_of_getElem?`: the source around a place on a line that there is.
* `IsLine.exists_pointsAt`: the source around a place on a line points at it.
-/

namespace PushdownLexer

variable {source text before after part more : List Char} {texts : List (List Char)} {c : Char}
  {width number line column m n : Nat}

/-! ## The lines of a source -/

theorem splitLines_ne_nil (h : text ≠ []) : splitLines text ≠ [] := by
  fun_cases splitLines text <;> simp_all

theorem sourceLines_lineFeed (text : List Char) :
    sourceLines ('\n' :: text) = [] :: sourceLines text := by
  cases text with
  | nil => rfl
  | cons c text =>
    simp only [sourceLines, splitLines, List.getLast?_cons_cons, List.isEmpty_cons, Bool.false_or]
    split <;> rfl

/-- The carriage return of a line end is not on a line. -/
theorem sourceLines_return (h : ['\n'] <+: text) :
    sourceLines ('\r' :: text) = sourceLines text := by
  obtain ⟨text, rfl⟩ := h
  simp only [sourceLines, splitLines, List.singleton_append, List.getLast?_cons_cons,
    List.isEmpty_cons]

theorem splitLines_cons (hc : c ≠ '\n') (hreturn : ¬ (c = '\r' ∧ ['\n'] <+: text)) :
    splitLines (c :: text) = (c :: (splitLines text).headD []) :: (splitLines text).tail := by
  rw [splitLines]
  · cases splitLines text <;> rfl
  · exact hc
  · rintro text' rfl rfl
    exact hreturn ⟨rfl, text', rfl⟩

/-- A character that no line end begins with is put before the first line. -/
theorem sourceLines_cons (hc : c ≠ '\n') (hreturn : ¬ (c = '\r' ∧ ['\n'] <+: text)) :
    ∃ first others, sourceLines text = first :: others ∧
      sourceLines (c :: text) = (c :: first) :: others := by
  cases text with
  | nil => exact ⟨[], [], rfl, by simp [sourceLines, splitLines_cons hc hreturn, splitLines, hc]⟩
  | cons d text =>
    obtain ⟨first, others, hlines⟩ :=
      List.exists_cons_of_ne_nil (splitLines_ne_nil (List.cons_ne_nil d text))
    simp only [sourceLines, splitLines_cons hc hreturn, hlines, List.getLast?_cons_cons,
      List.isEmpty_cons, Bool.false_or]
    split
    · exact ⟨first, others ++ [[]], rfl, rfl⟩
    · exact ⟨first, others, rfl, rfl⟩

/-- The lines of a text that is cut after a line end are those of its parts. -/
theorem sourceLines_append (h : before = [] ∨ before.getLast? = some '\n') (rest : List Char) :
    ∃ lines, lines.length = before.count '\n' ∧
      sourceLines (before ++ rest) = lines ++ sourceLines rest := by
  induction before with
  | nil => exact ⟨[], rfl, rfl⟩
  | cons c before ih =>
    by_cases hc : c = '\n'
    · have hlast : before = [] ∨ before.getLast? = some '\n' := by
        cases before with
        | nil => exact .inl rfl
        | cons d before => simpa [List.getLast?_cons_cons] using h
      obtain ⟨lines, hlength, hlines⟩ := ih hlast
      refine ⟨[] :: lines, by simp [hc, hlength], ?_⟩
      rw [hc, List.cons_append, sourceLines_lineFeed, hlines, List.cons_append]
    · have hlast : before.getLast? = some '\n' := by
        cases before with
        | nil => simp [hc] at h
        | cons d before => simpa [List.getLast?_cons_cons] using h
      obtain ⟨lines, hlength, hlines⟩ := ih (.inr hlast)
      by_cases hreturn : c = '\r' ∧ ['\n'] <+: before ++ rest
      · refine ⟨lines, by simp [hlength, hc], ?_⟩
        rw [hreturn.1, List.cons_append, sourceLines_return hreturn.2, hlines]
      · obtain ⟨first, others, hrest, hcons⟩ := sourceLines_cons hc hreturn
        have hmem : '\n' ∈ before := List.mem_of_getLast? hlast
        obtain ⟨line, lines, rfl⟩ :=
          List.exists_cons_of_length_pos (hlength ▸ List.count_pos_iff.2 hmem)
        rw [hrest, List.cons_append] at hlines
        obtain ⟨rfl, rfl⟩ := List.cons.inj hlines
        exact ⟨(c :: first) :: lines, by simpa [hc] using hlength, hcons⟩

/-- A text without line feeds is one line. -/
theorem sourceLines_of_notMem (h : '\n' ∉ text) : sourceLines text = [text] := by
  induction text with
  | nil => rfl
  | cons c text ih =>
    rw [List.mem_cons, not_or] at h
    have hfeed : ¬ ['\n'] <+: text := fun hp => h.2 (hp.subset (List.mem_singleton_self _))
    obtain ⟨first, others, hlines, hcons⟩ :=
      sourceLines_cons (Ne.symm h.1) (fun hreturn => hfeed hreturn.2)
    rw [ih h.2] at hlines
    cases hlines
    exact hcons

/-- A text has one line more than line feeds. -/
theorem length_sourceLines (source : List Char) :
    (sourceLines source).length = source.count '\n' + 1 := by
  obtain ⟨before, part, rfl, hbefore, hpart⟩ := exists_lineStart source
  obtain ⟨lines, hlength, hlines⟩ := sourceLines_append hbefore part
  rw [hlines, sourceLines_of_notMem hpart, List.length_append, hlength, List.count_append,
    List.count_eq_zero.2 hpart]
  rfl

/-- The first line of a text ends where its first line end begins. -/
theorem sourceLines_of_ends (htext : '\n' ∉ text) (hends : EndsLine text after) :
    (sourceLines (text ++ after)).head? = some text := by
  induction text with
  | nil =>
    cases hends with
    | last => rfl
    | returnFeed rest =>
      exact congrArg List.head? ((sourceLines_return ⟨rest, rfl⟩).trans (sourceLines_lineFeed rest))
    | feed rest => exact congrArg List.head? (sourceLines_lineFeed rest)
  | cons c text ih =>
    rw [List.mem_cons, not_or] at htext
    obtain ⟨first, others, hrest, hcons⟩ :=
      sourceLines_cons (Ne.symm htext.1) (hends.not_return htext.2)
    have hfirst : some first = some text := by
      rw [← ih htext.2 hends.tail, hrest, List.head?_cons]
    rw [List.cons_append, hcons, List.head?_cons, Option.some.inj hfirst]

/-- The line of a text with a number is the one that is shown with this number. -/
theorem IsLine.getElem?_sourceLines (h : IsLine source number before text after) :
    (sourceLines source)[number - 1]? = some text := by
  obtain ⟨lines, hlength, hlines⟩ := sourceLines_append h.begins (text ++ after)
  have hfirst := sourceLines_of_ends h.single h.ends
  rw [h.source_eq, h.number_eq, List.append_assoc, hlines, Nat.add_sub_cancel, ← hlength,
    List.getElem?_append_right le_rfl, Nat.sub_self, ← List.head?_eq_getElem?, hfirst]

theorem not_mem_of_mem_splitLines (h : text ∈ splitLines source) : '\n' ∉ text := by
  fun_induction splitLines source generalizing text <;> grind

/-- No line has a line feed. -/
theorem not_mem_of_mem_sourceLines (h : text ∈ sourceLines source) : '\n' ∉ text := by
  unfold sourceLines at h
  split at h
  · obtain h | h := List.mem_append.1 h
    · exact not_mem_of_mem_splitLines h
    · simp [List.mem_singleton.1 h]
  · exact not_mem_of_mem_splitLines h

/-! ## Numbers of one width -/

/-- A number in front of a line, up to where the line begins. -/
def gutter (width number : Nat) : List Char :=
  padLeft width (toString number).toList ++ " | ".toList

theorem numberedLine_eq (width number : Nat) (text : List Char) :
    numberedLine width number text = gutter width number ++ text ++ ['\n'] := rfl

theorem length_toString_pos (n : Nat) : 0 < (toString n).length := by
  rw [Nat.toString_eq_repr, ← String.length_toList, Nat.toList_repr]
  exact Nat.length_toDigits_pos

theorem toList_toString_ne_nil (n : Nat) : (toString n).toList ≠ [] :=
  List.ne_nil_of_length_pos (length_toString_pos n)

theorem isDigit_of_mem_toString (h : c ∈ (toString n).toList) : c.isDigit = true := by
  rw [Nat.toString_eq_repr, Nat.toList_repr] at h
  exact Nat.isDigit_of_mem_toDigits (by decide) le_rfl h

/-- A number has no more digits than a larger one. -/
theorem length_toString_le (h : m ≤ n) : (toString m).length ≤ (toString n).length := by
  have hpower := (Nat.length_repr_le_iff (length_toString_pos n)).1 le_rfl
  exact (Nat.length_repr_le_iff (length_toString_pos n)).2 (h.trans_lt hpower)

/-- Where all numbers are brought to the width of the last one, all lines begin in one column. -/
theorem length_gutter (h : (toString number).length ≤ width) :
    (gutter width number).length = width + 3 := by
  simp only [gutter, padLeft, List.length_append, List.length_replicate, String.length_toList,
    Nat.sub_add_cancel h]
  rfl

/-- The caret is under the place that is as many characters behind the gutter as the column says. -/
theorem idxOf_caretLine (width column : Nat) :
    (caretLine width column).idxOf '^' = width + 3 + (column - 1) := by
  have hnone : '^' ∉
      List.replicate width ' ' ++ " | ".toList ++ List.replicate (column - 1) ' ' := by
    simp
  rw [caretLine, List.idxOf_append_of_notMem hnone]
  simp only [List.length_append, List.length_replicate]
  rfl

/-! ## Lines of output -/

/-- A line of output ends in a line feed and has no other. -/
def IsOutputLine (l : List Char) : Prop := ∃ body, '\n' ∉ body ∧ l = body ++ ['\n']

theorem isOutputLine_ruleLine (width : Nat) : IsOutputLine (ruleLine width) :=
  ⟨List.replicate (width + 1) '-' ++ "|--".toList, by simp, by simp [ruleLine]⟩

theorem isOutputLine_caretLine (width column : Nat) : IsOutputLine (caretLine width column) :=
  ⟨List.replicate width ' ' ++ " | ".toList ++ List.replicate (column - 1) ' ' ++ ['^'],
    by simp, by simp [caretLine]⟩

theorem notMem_gutter (width number : Nat) : '\n' ∉ gutter width number := by
  have hdigits : '\n' ∉ (toString number).toList := fun h =>
    absurd (isDigit_of_mem_toString h) (by decide)
  simp only [gutter, padLeft, List.mem_append, hdigits]
  simp

theorem isOutputLine_numberedLine (h : '\n' ∉ text) :
    IsOutputLine (numberedLine width number text) :=
  ⟨gutter width number ++ text, by simp [h, notMem_gutter], numberedLine_eq width number text⟩

/-- The digits that a line begins with, behind blanks. -/
def leadingDigits (l : List Char) : List Char := (l.dropWhile (· == ' ')).takeWhile Char.isDigit

/-- Nothing that a line says can be taken for a part of its number. -/
theorem leadingDigits_numberedLine (width number : Nat) (text : List Char) :
    leadingDigits (numberedLine width number text) = (toString number).toList := by
  obtain ⟨d, digits, hdigits⟩ : ∃ d digits, (toString number).toList = d :: digits :=
    List.exists_cons_of_length_pos (length_toString_pos number)
  have hall : ∀ c ∈ d :: digits, c.isDigit = true := fun c hc =>
    isDigit_of_mem_toString (hdigits ▸ hc)
  have hblank : d ≠ ' ' := by
    rintro rfl
    exact absurd (hall ' ' List.mem_cons_self) (by decide)
  simp only [leadingDigits, numberedLine, padLeft, List.append_assoc, hdigits]
  rw [List.dropWhile_append_of_pos (by simp), List.cons_append,
    List.dropWhile_cons_of_neg (by simpa using hblank), ← List.cons_append,
    List.takeWhile_append_of_pos hall]
  exact List.append_nil _

theorem leadingDigits_caretLine (width column : Nat) :
    leadingDigits (caretLine width column) = [] := by
  simp only [leadingDigits, caretLine, List.append_assoc]
  rw [List.dropWhile_append_of_pos (by simp)]
  rfl

theorem leadingDigits_ruleLine (width : Nat) : leadingDigits (ruleLine width) = [] := rfl

theorem ruleLine_ne_caretLine (width m n : Nat) : ruleLine width ≠ caretLine m n := by
  intro h
  have hhead := congrArg List.head? h
  cases m <;> simp [ruleLine, caretLine, List.replicate_succ] at hhead

/-- A line with a number begins with a digit, whatever stands behind it. -/
theorem ne_numberedLine {l : List Char} (h : leadingDigits l = []) (width number : Nat)
    (text : List Char) : l ≠ numberedLine width number text := by
  intro hl
  rw [hl, leadingDigits_numberedLine] at h
  exact toList_toString_ne_nil number h

/-- Lines that are shown with different numbers are not the same. -/
theorem number_eq_of_numberedLine_eq {s t : List Char} {w w' : Nat}
    (h : numberedLine w m s = numberedLine w' n t) : m = n := by
  have hdigits := congrArg leadingDigits h
  rw [leadingDigits_numberedLine, leadingDigits_numberedLine, Nat.toString_eq_repr,
    Nat.toString_eq_repr, Nat.toList_repr, Nat.toList_repr] at hdigits
  simpa using congrArg (Nat.ofDigitChars 10 · 0) hdigits

/-! ## The shown lines -/

/-- Lines with their numbers, from number `number` on. -/
def numberedLines (width number : Nat) (texts : List (List Char)) : List (List Char) :=
  (texts.zipIdx number).map fun (text, n) => numberedLine width n text

theorem exists_of_mem_numberedLines {l : List Char} (h : l ∈ numberedLines width number texts) :
    ∃ n, ∃ text ∈ texts, number ≤ n ∧ n < number + texts.length ∧
      l = numberedLine width n text := by
  obtain ⟨⟨text, n⟩, hmem, rfl⟩ := List.mem_map.1 h
  obtain ⟨hle, hlt, htext⟩ := List.mem_zipIdx hmem
  exact ⟨n, text, htext ▸ List.getElem_mem _, hle, hlt, rfl⟩

theorem shownLines_append (width line column number : Nat) (above below : List (List Char)) :
    shownLines width line column number (above ++ below) =
      shownLines width line column number above ++
        shownLines width line column (number + above.length) below := by
  induction above generalizing number with
  | nil => rfl
  | cons text above ih =>
    simp only [List.cons_append, shownLines, ih, List.length_cons, List.append_assoc,
      Nat.add_assoc, Nat.add_comm 1]

/-- Lines that do not have the number of the place are shown without a caret. -/
theorem shownLines_of_outside (h : line < number ∨ number + texts.length ≤ line) :
    shownLines width line column number texts = (numberedLines width number texts).flatten := by
  induction texts generalizing number with
  | nil => rfl
  | cons text texts ih =>
    rw [List.length_cons] at h
    rw [shownLines, if_neg (by omega), ih (by omega), List.append_nil]
    rfl

/-- The number of the first line that is shown around a line. -/
def firstShown (line : Nat) : Nat := max (line - margin) 1

/-- The number of the last line that is shown around a line. -/
def lastShown (source : List Char) (line : Nat) : Nat :=
  min (line + margin) (sourceLines source).length

/-- The width that all numbers around a line are brought to. -/
def shownWidth (source : List Char) (line : Nat) : Nat := (toString (lastShown source line)).length

/-- The lines that are shown before a line, with their numbers, after a rule line. -/
def linesAbove (source : List Char) (line : Nat) : List (List Char) :=
  let first := firstShown line
  let width := shownWidth source line
  ruleLine width ::
    numberedLines width first (((sourceLines source).drop (first - 1)).take (line - first))

/-- The lines that are shown after a line, with their numbers, before a rule line. -/
def linesBelow (source : List Char) (line : Nat) : List (List Char) :=
  let width := shownWidth source line
  numberedLines width (line + 1)
      (((sourceLines source).drop line).take (lastShown source line - line)) ++
    [ruleLine width]

/-- The lines with numbers from `first` to `last`, around the one with number `line`. -/
theorem take_drop_around {first last : Nat} (h : texts[line - 1]? = some text) (hfirst : 1 ≤ first)
    (hle : first ≤ line) (hlast : line ≤ last) :
    (texts.drop (first - 1)).take (last + 1 - first) =
      (texts.drop (first - 1)).take (line - first) ++
        text :: (texts.drop line).take (last - line) := by
  have hlength : last + 1 - first = (line - first) + ((last - line) + 1) := by omega
  have hskip : first - 1 + (line - first) = line - 1 := by omega
  have hdrop : texts.drop (line - 1) = text :: texts.drop line := by
    obtain ⟨hlt, rfl⟩ := List.getElem?_eq_some_iff.1 h
    rw [List.drop_eq_getElem_cons hlt, Nat.sub_add_cancel (hfirst.trans hle)]
  rw [hlength, List.take_add, List.drop_drop, hskip, hdrop, List.take_succ_cons]

/-- Around a line that there is, the lines before and after it are shown with their numbers, and the
caret in a line of its own right after it. -/
theorem sourceContext?_of_getElem? (hline : 1 ≤ line)
    (h : (sourceLines source)[line - 1]? = some text) (column : Nat) :
    sourceContext? source line column =
      some (linesAbove source line ++ numberedLine (shownWidth source line) line text ::
        caretLine (shownWidth source line) column :: linesBelow source line).flatten := by
  have hlt : line - 1 < (sourceLines source).length := (List.getElem?_eq_some_iff.1 h).1
  obtain ⟨hfirst, hle⟩ : 1 ≤ firstShown line ∧ firstShown line ≤ line := by
    unfold firstShown
    omega
  have hlast : line ≤ lastShown source line := by
    unfold lastShown
    omega
  have habove : firstShown line +
      (((sourceLines source).drop (firstShown line - 1)).take (line - firstShown line)).length =
        line := by
    rw [List.length_take, List.length_drop]
    omega
  have hinside : ¬ (line = 0 ∨ (sourceLines source).length < line) := by omega
  rw [sourceContext?, if_neg hinside]
  change some (ruleLine (shownWidth source line) ++
    shownLines (shownWidth source line) line column (firstShown line)
      (((sourceLines source).drop (firstShown line - 1)).take
        (lastShown source line + 1 - firstShown line)) ++ ruleLine (shownWidth source line)) = _
  rw [take_drop_around h hfirst hle hlast, shownLines_append, habove, shownLines, if_pos rfl,
    shownLines_of_outside (.inr habove.le), shownLines_of_outside (.inl (Nat.lt_succ_self line))]
  simp [linesAbove, linesBelow]

/-! ## Pointing at a place -/

/-- The lines that are shown around a place on the line `text`, which comes after `before` in its
source: `above`, the line with its number, the line with the caret, and `below`. -/
structure PointsAt (place : Position) (before text : List Char) (width : Nat)
    (above below : List (List Char)) : Prop where
  /-- Every line that is written ends where the next one begins. -/
  lines : ∀ l ∈ above ++ numberedLine width place.line text ::
    caretLine width place.column :: below, IsOutputLine l
  /-- No other line has the number of the line. -/
  number : ∀ l ∈ above ++ below, ∀ w t, l ≠ numberedLine w place.line t
  /-- No other line is one with a caret. -/
  caret : ∀ l ∈ above ++ numberedLine width place.line text :: below, ∀ w n, l ≠ caretLine w n
  /-- The caret is under the character of the line that is at the place. -/
  under {part more : List Char} {c : Char} (htext : text = part ++ c :: more)
    (hoffset : place.offset = byteLength (before ++ part)) :
    ∃ lead, numberedLine width place.line text = lead ++ c :: more ++ ['\n'] ∧
      (caretLine width place.column).idxOf '^' = lead.length
  /-- The caret is right after the line, if no character of the line is at the place. -/
  past (hnone : ∀ part c more, text = part ++ c :: more →
      place.offset ≠ byteLength (before ++ part)) :
    ∃ lead, numberedLine width place.line text = lead ++ ['\n'] ∧
      (caretLine width place.column).idxOf '^' = lead.length

/-- The lines around a line are rule lines, or lines of the source with other numbers. -/
theorem eq_ruleLine_or_numberedLine {l : List Char}
    (h : l ∈ linesAbove source line ++ linesBelow source line) :
    l = ruleLine (shownWidth source line) ∨
      ∃ n, ∃ text ∈ sourceLines source, n ≠ line ∧
        l = numberedLine (shownWidth source line) n text := by
  obtain habove | hbelow := List.mem_append.1 h
  · obtain hrule | hnumbered := List.mem_cons.1 habove
    · exact .inl hrule
    · obtain ⟨n, text, htext, hle, hlt, hl⟩ := exists_of_mem_numberedLines hnumbered
      have hlength := List.length_take_le (line - firstShown line)
        ((sourceLines source).drop (firstShown line - 1))
      exact .inr ⟨n, text, List.mem_of_mem_drop (List.mem_of_mem_take htext), by omega, hl⟩
  · obtain hnumbered | hrule := List.mem_append.1 hbelow
    · obtain ⟨n, text, htext, hle, -, hl⟩ := exists_of_mem_numberedLines hnumbered
      exact .inr ⟨n, text, List.mem_of_mem_drop (List.mem_of_mem_take htext), by omega, hl⟩
    · exact .inl (List.mem_singleton.1 hrule)

theorem isOutputLine_of_mem {l : List Char}
    (h : l ∈ linesAbove source line ++ linesBelow source line) : IsOutputLine l := by
  obtain hl | ⟨n, text, htext, -, hl⟩ := eq_ruleLine_or_numberedLine h
  · exact hl ▸ isOutputLine_ruleLine _
  · exact hl ▸ isOutputLine_numberedLine (not_mem_of_mem_sourceLines htext)

theorem ne_caretLine_of_mem {l : List Char}
    (h : l ∈ linesAbove source line ++ linesBelow source line) (w n : Nat) :
    l ≠ caretLine w n := by
  obtain hl | ⟨m, text, -, -, hl⟩ := eq_ruleLine_or_numberedLine h
  · exact hl ▸ ruleLine_ne_caretLine _ w n
  · exact hl ▸ (ne_numberedLine (leadingDigits_caretLine w n) _ m text).symm

/-- Every number is shown in the width of the last one. -/
theorem length_toString_le_shownWidth (hlt : line - 1 < (sourceLines source).length) :
    (toString line).length ≤ shownWidth source line := by
  apply length_toString_le
  unfold lastShown
  omega

/-- The source around a place points at it, if the column of the place says how many characters of
the line are before it. -/
theorem IsLine.exists_pointsAt {place : Position}
    (h : IsLine source place.line before (part ++ more) after)
    (hoffset : place.offset = byteLength (before ++ part))
    (hcolumn : place.column = part.length + 1) :
    ∃ width above below,
      sourceContext? source place.line place.column =
        some (above ++ numberedLine width place.line (part ++ more) ::
          caretLine width place.column :: below).flatten ∧
      PointsAt place before (part ++ more) width above below := by
  have hline : 1 ≤ place.line := h.number_eq ▸ Nat.le_add_left _ _
  have hshown := h.getElem?_sourceLines
  have hcaret : (caretLine (shownWidth source place.line) place.column).idxOf '^' =
      (gutter (shownWidth source place.line) place.line ++ part).length := by
    rw [idxOf_caretLine, hcolumn, List.length_append, length_gutter
      (length_toString_le_shownWidth (List.getElem?_eq_some_iff.1 hshown).1), Nat.add_sub_cancel]
  refine ⟨shownWidth source place.line, linesAbove source place.line,
    linesBelow source place.line, sourceContext?_of_getElem? hline hshown place.column, ?_⟩
  constructor
  case lines =>
    intro l hl
    rw [List.mem_append, List.mem_cons, List.mem_cons] at hl
    obtain hl | hl | hl | hl := hl
    · exact isOutputLine_of_mem (List.mem_append_left _ hl)
    · exact hl ▸ isOutputLine_numberedLine h.single
    · exact hl ▸ isOutputLine_caretLine _ _
    · exact isOutputLine_of_mem (List.mem_append_right _ hl)
  case number =>
    intro l hl w t heq
    obtain hrule | ⟨n, s, -, hn, hnumbered⟩ := eq_ruleLine_or_numberedLine hl
    · exact ne_numberedLine (leadingDigits_ruleLine _) _ _ _ (hrule.symm.trans heq)
    · exact hn (number_eq_of_numberedLine_eq (hnumbered.symm.trans heq))
  case caret =>
    intro l hl w n
    rw [List.mem_append, List.mem_cons] at hl
    obtain hl | hl | hl := hl
    · exact ne_caretLine_of_mem (List.mem_append_left _ hl) w n
    · exact hl ▸ (ne_numberedLine (leadingDigits_caretLine w n) _ _ _).symm
    · exact ne_caretLine_of_mem (List.mem_append_right _ hl) w n
  case under =>
    intro part' more' c htext hpart
    -- The place cuts the line in one way, so this is the cut that its column tells of.
    have hlength : byteLength part = byteLength part' := by
      rw [hoffset, byteLength_append, byteLength_append] at hpart
      exact Nat.add_left_cancel hpart
    obtain ⟨rfl, rfl⟩ := append_inj_of_byteLength htext hlength
    refine ⟨_, ?_, hcaret⟩
    simp only [numberedLine_eq, List.append_assoc]
  case past =>
    intro hnone
    have hmore : more = [] := by
      cases more with
      | nil => rfl
      | cons c more => exact absurd hoffset (hnone part c more rfl)
    refine ⟨_, ?_, hcaret⟩
    simp only [numberedLine_eq, hmore, List.append_nil]

end PushdownLexer
