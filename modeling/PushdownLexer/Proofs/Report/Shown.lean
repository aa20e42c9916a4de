import PushdownLexer.Proofs.Report.Context

/-!
# What is shown of a source

Around a line that there is, the lines from two before it to two after it are shown, as far as there
are such lines. Which lines a source has is told by its line feeds: one more than these, also if it
is empty or ends in a line feed. So the window is cut at the first and at the last line, and every
number in it is the number of a line.

## Main definitions

* `outputLines`: lines with their numbers, the caret after one of them, between two rule lines.
* `Shows`: what is shown of a source around a place.

## Main statements

* `isLine_of_window`: the lines in the window are those of the source with their numbers.
* `sourceContext?_shows`: when the source around a place can be shown, and what is shown.
-/

namespace PushdownLexer

variable {source text : List Char} {texts : List (List Char)} {width line column i n : Nat}

/-- The lines of output around a place: between two rule lines the lines `above`, the line `text`
itself, the caret in a line of its own, and the lines `below`. -/
def outputLines (line column width : Nat) (above : List (List Char)) (text : List Char)
    (below : List (List Char)) : List (List Char) :=
  ruleLine width :: numberedLines width (max 1 (line - 2)) above ++
    numberedLine width line text :: caretLine width column ::
      numberedLines width (line + 1) below ++ [ruleLine width]

/-- What is shown around a place, if `above`, `text` and `below` are the lines in the window. -/
structure Shows (source : List Char) (line column width : Nat) (above : List (List Char))
    (text : List Char) (below : List (List Char)) (context : List Char) : Prop where
  context_eq : context = (outputLines line column width above text below).flatten
  /-- Each line of the output ends where the next one begins. -/
  output : ∀ l ∈ outputLines line column width above text below, IsOutputLine l
  /-- The window begins two lines before the line, or with the first line of the source. -/
  first : max 1 (line - 2) + above.length = line
  /-- It ends two lines after the line, or with the last line of the source. -/
  last : line + below.length = min (line + 2) (source.count '\n' + 1)
  /-- The lines in the window are those of the source, each with its own number. -/
  lines : ∀ i shown, (above ++ text :: below)[i]? = some shown →
    (sourceLines source)[max 1 (line - 2) + i - 1]? = some shown ∧
      ∃ before after, IsLine source (max 1 (line - 2) + i) before shown after
  /-- The last number fills its gutter. -/
  width_eq : width = (toString (min (line + 2) (source.count '\n' + 1))).length
  /-- All gutters are as wide as that of the last number. -/
  aligned : ∀ n ≤ min (line + 2) (source.count '\n' + 1), (gutter width n).length = width + 3
  /-- There is one caret, under the character at the column, if there is one. -/
  caret : (caretLine width column).count '^' = 1 ∧ ∀ c, text[column - 1]? = some c →
    (numberedLine width line text)[(caretLine width column).idxOf '^']? = some c

/-! ## The window -/

theorem lastShown_eq (source : List Char) (line : Nat) :
    lastShown source line = min (line + 2) (source.count '\n' + 1) := by
  rw [lastShown, length_sourceLines]
  rfl

theorem firstShown_eq (line : Nat) : firstShown line = max 1 (line - 2) := max_comm _ _

/-- A line of the source is the one that is shown with its number. -/
theorem isLine_of_getElem? (h : (sourceLines source)[n]? = some text) :
    ∃ before after, IsLine source (n + 1) before text after := by
  have hn : n ≤ source.count '\n' := by
    obtain ⟨hlt, -⟩ := List.getElem?_eq_some_iff.1 h
    rw [length_sourceLines] at hlt
    omega
  obtain ⟨before, shown, after, hline⟩ := exists_isLine_of_le hn
  have hshown := hline.getElem?_sourceLines
  rw [Nat.add_sub_cancel, h] at hshown
  cases hshown
  exact ⟨before, after, hline⟩

/-- The lines in a window that begins with number `n` are those of the source with these numbers. -/
theorem isLine_of_window {first length : Nat} (hfirst : 1 ≤ first)
    (h : (((sourceLines source).drop (first - 1)).take length)[i]? = some text) :
    (sourceLines source)[first + i - 1]? = some text ∧
      ∃ before after, IsLine source (first + i) before text after := by
  have hshown : (sourceLines source)[first + i - 1]? = some text := by
    rw [List.getElem?_take, List.getElem?_drop] at h
    split_ifs at h
    rwa [show first - 1 + i = first + i - 1 by omega] at h
  have hline := isLine_of_getElem? hshown
  rw [Nat.sub_add_cancel (by omega)] at hline
  exact ⟨hshown, hline⟩

theorem isOutputLine_of_mem_numberedLines {l : List Char} (htexts : ∀ text ∈ texts, '\n' ∉ text)
    (h : l ∈ numberedLines width n texts) : IsOutputLine l := by
  obtain ⟨m, text, htext, -, -, hl⟩ := exists_of_mem_numberedLines h
  rw [hl]
  exact isOutputLine_numberedLine (htexts text htext)

theorem isOutputLine_of_mem_outputLines {above below : List (List Char)} (htext : '\n' ∉ text)
    (habove : ∀ text ∈ above, '\n' ∉ text) (hbelow : ∀ text ∈ below, '\n' ∉ text) :
    ∀ l ∈ outputLines line column width above text below, IsOutputLine l := by
  intro l hl
  obtain hl | hl | hl | hl | hl | hl := by
    simpa only [outputLines, List.cons_append, List.append_assoc, List.nil_append, List.mem_append,
      List.mem_cons, List.not_mem_nil, or_false] using hl
  · rw [hl]
    exact isOutputLine_ruleLine width
  · exact isOutputLine_of_mem_numberedLines habove hl
  · rw [hl]
    exact isOutputLine_numberedLine htext
  · rw [hl]
    exact isOutputLine_caretLine width column
  · exact isOutputLine_of_mem_numberedLines hbelow hl
  · rw [hl]
    exact isOutputLine_ruleLine width

/-! ## The caret -/

theorem count_caretLine (width column : Nat) : (caretLine width column).count '^' = 1 := by
  simp [caretLine, List.count_replicate]

/-- The caret is as far from the margin as the character at its column. -/
theorem getElem?_numberedLine {c : Char} (hwidth : (gutter width n).length = width + 3)
    (h : text[column - 1]? = some c) :
    (numberedLine width n text)[(caretLine width column).idxOf '^']? = some c := by
  have hlt : column - 1 < text.length := (List.getElem?_eq_some_iff.1 h).1
  rw [idxOf_caretLine, ← hwidth, numberedLine_eq, List.append_assoc,
    List.getElem?_append_right (Nat.le_add_right _ _), Nat.add_sub_cancel_left,
    List.getElem?_append_left hlt, h]

/-! ## The source around a place -/

/-- Around a line that there is, its window is shown. -/
theorem exists_shows_of_getElem? (hline : 1 ≤ line)
    (h : (sourceLines source)[line - 1]? = some text) (column : Nat) :
    ∃ context width above below, sourceContext? source line column = some context ∧
      Shows source line column width above text below context := by
  have hcount : line ≤ source.count '\n' + 1 := by
    obtain ⟨hlt, -⟩ := List.getElem?_eq_some_iff.1 h
    rw [length_sourceLines] at hlt
    omega
  have haligned : ∀ n ≤ min (line + 2) (source.count '\n' + 1),
      (gutter (shownWidth source line) n).length = shownWidth source line + 3 := by
    intro n hn
    rw [← lastShown_eq] at hn
    exact length_gutter (length_toString_le hn)
  have hlast : line ≤ lastShown source line := by
    rw [lastShown_eq]
    omega
  have hfirst : 1 ≤ max 1 (line - 2) ∧ max 1 (line - 2) ≤ line := by omega
  have hwindow := take_drop_around h hfirst.1 hfirst.2 hlast
  refine ⟨_, shownWidth source line,
    ((sourceLines source).drop (max 1 (line - 2) - 1)).take (line - max 1 (line - 2)),
    ((sourceLines source).drop line).take (lastShown source line - line),
    sourceContext?_of_getElem? hline h column, ?_⟩
  constructor
  case context_eq =>
    simp only [outputLines, linesAbove, linesBelow, firstShown_eq, List.cons_append,
      List.append_assoc]
  case first =>
    rw [List.length_take, List.length_drop, length_sourceLines]
    omega
  case last =>
    rw [List.length_take, List.length_drop, length_sourceLines, lastShown_eq]
    omega
  case lines =>
    intro i shown hshown
    rw [← hwindow] at hshown
    exact isLine_of_window (by omega) hshown
  case output =>
    exact isOutputLine_of_mem_outputLines (not_mem_of_mem_sourceLines (List.mem_of_getElem? h))
      (fun t ht => not_mem_of_mem_sourceLines (List.mem_of_mem_drop (List.mem_of_mem_take ht)))
      (fun t ht => not_mem_of_mem_sourceLines (List.mem_of_mem_drop (List.mem_of_mem_take ht)))
  case width_eq => rw [shownWidth, lastShown_eq]
  case aligned => exact haligned
  case caret =>
    refine ⟨count_caretLine _ _, fun c hc => getElem?_numberedLine (haligned line ?_) hc⟩
    omega

theorem sourceContext?_eq_none_iff :
    sourceContext? source line column = none ↔
      ¬ (1 ≤ line ∧ line ≤ source.count '\n' + 1) := by
  rw [sourceContext?, length_sourceLines]
  split_ifs with hout
  · simp only [true_iff]
    omega
  · simp only [false_iff]
    omega

/-- The source around a place can be shown if and only if its line has a number from one to one more
than the line feeds of the source. Then the lines from two before it to two after it are shown, as
far as there are such lines, each once and behind its number, and the caret right after the line. -/
theorem sourceContext?_shows (source : List Char) (line column : Nat) :
    ((∃ context, sourceContext? source line column = some context) ↔
        1 ≤ line ∧ line ≤ source.count '\n' + 1) ∧
      ∀ context, sourceContext? source line column = some context →
        ∃ width above text below, Shows source line column width above text below context := by
  constructor
  · rw [← Option.ne_none_iff_exists', ne_eq, sourceContext?_eq_none_iff, not_not]
  · intro context hcontext
    obtain ⟨hline, hle⟩ : 1 ≤ line ∧ line ≤ source.count '\n' + 1 := by
      by_contra hout
      cases hcontext.symm.trans (sourceContext?_eq_none_iff.2 hout)
    have hlt : line - 1 < (sourceLines source).length := by
      rw [length_sourceLines]
      omega
    obtain ⟨_, width, above, below, hcontext', hshows⟩ :=
      exists_shows_of_getElem? hline (List.getElem?_eq_getElem hlt) column
    cases hcontext'.symm.trans hcontext
    exact ⟨width, above, _, below, hshows⟩

-- The window is cut at the empty line after the last line feed, and a return is not shown.
example : sourceContext? "\r\nab\r\n\n".toList 3 2 =
    some "--|--\n1 | \n2 | ab\n3 | \n  |  ^\n4 | \n--|--\n".toList := by decide

end PushdownLexer
