import PushdownLexer.Proofs.Text.Shift

/-!
# The line of a place

A place counts line feeds and the characters after the last one. A line of a text, on the other
hand, is what stands between two line ends, and the carriage return of a line end is not a part of
it. The two agree at every place that is not inside of a line end: there the column of the place
tells how many characters of the line are before it.

## Main definitions

* `IsLine`: a part of a text is one of its lines.

## Main statements

* `exists_isLine_of_le`: a text has one line more than line feeds.
* `exists_isLine`: every place that is not inside of a line end is on a line of its number.
-/

namespace PushdownLexer

variable {before text after rest passed part : List Char} {c : Char}

/-- What a line can have after it: nothing, or a line end. A carriage return right before a line
feed belongs to the line end. -/
inductive EndsLine (text : List Char) : List Char → Prop where
  | last : EndsLine text []
  | returnFeed (rest : List Char) : EndsLine text ('\r' :: '\n' :: rest)
  | feed (rest : List Char) (hlast : text.getLast? ≠ some '\r') : EndsLine text ('\n' :: rest)

/-- The line of a text with number `number` is `text`, between `before` and `after`. -/
structure IsLine (source : List Char) (number : Nat) (before text after : List Char) : Prop where
  source_eq : source = before ++ text ++ after
  number_eq : number = before.count '\n' + 1
  begins : before = [] ∨ before.getLast? = some '\n'
  single : '\n' ∉ text
  ends : EndsLine text after

/-! ## Columns -/

namespace Position

/-- Line and column after a part depend on those before it. -/
theorem afterAll_congr {p q : Position} (hline : q.line = p.line) (hcolumn : q.column = p.column)
    (part : List Char) :
    (q.afterAll part).line = (p.afterAll part).line ∧
      (q.afterAll part).column = (p.afterAll part).column := by
  induction part generalizing p q with
  | nil => exact ⟨hline, hcolumn⟩
  | cons c part ih =>
    refine ih ?_ ?_ <;> simp only [after] <;> split_ifs <;> simp [hline, hcolumn]

theorem column_afterAll (h : '\n' ∉ part) (p : Position) :
    (p.afterAll part).column = p.column + part.length := by
  induction part generalizing p with
  | nil => rfl
  | cons c part ih =>
    rw [List.mem_cons, not_or] at h
    rw [afterAll_cons, ih h.2, after, if_neg (Ne.symm h.1), List.length_cons]
    exact Nat.add_right_comm _ _ _

/-- The column of a place counts the characters of its line that are before it. -/
theorem column_of_lineStart (hbefore : before = [] ∨ before.getLast? = some '\n')
    (hpart : '\n' ∉ part) : (origin.afterAll (before ++ part)).column = part.length + 1 := by
  have hcolumn : (origin.afterAll before).column = 1 := by
    obtain rfl | hlast := hbefore
    · rfl
    · rw [afterAll_of_getLast? hlast]
  rw [afterAll_append, column_afterAll hpart, hcolumn, Nat.add_comm]

end Position

/-! ## Beginnings and ends of lines -/

/-- Every text ends with a part of one line. -/
theorem exists_lineStart (passed : List Char) :
    ∃ before part, passed = before ++ part ∧ (before = [] ∨ before.getLast? = some '\n') ∧
      '\n' ∉ part := by
  induction passed using List.reverseRecOn with
  | nil => exact ⟨[], [], rfl, .inl rfl, List.not_mem_nil⟩
  | append_singleton passed c ih =>
    obtain ⟨before, part, hpassed, hbefore, hpart⟩ := ih
    by_cases hc : c = '\n'
    · exact ⟨passed ++ [c], [], (List.append_nil _).symm, .inr (by simp [hc]), List.not_mem_nil⟩
    · refine ⟨before, part ++ [c], by rw [hpassed, List.append_assoc], hbefore, ?_⟩
      simp [hpart, Ne.symm hc]

/-- There is a place for each number of line feeds up to that of the text where a line begins. -/
theorem exists_lineStart_of_le {source : List Char} {n : Nat} (h : n ≤ source.count '\n') :
    ∃ before rest, source = before ++ rest ∧ before.count '\n' = n ∧
      (before = [] ∨ before.getLast? = some '\n') := by
  induction source generalizing n with
  | nil => exact ⟨[], [], rfl, (Nat.le_zero.1 h).symm, .inl rfl⟩
  | cons c source ih =>
    cases n with
    | zero => exact ⟨[], c :: source, rfl, rfl, .inl rfl⟩
    | succ n =>
      by_cases hc : c = '\n'
      · subst hc
        obtain ⟨before, rest, rfl, hcount, hbefore⟩ := ih (n := n) (by simpa using h)
        refine ⟨'\n' :: before, rest, rfl, by simp [hcount], .inr ?_⟩
        obtain rfl | hlast := hbefore
        · rfl
        · simp [List.getLast?_cons, hlast]
      · obtain ⟨before, rest, rfl, hcount, hbefore⟩ := ih (n := n + 1) (by simpa [hc] using h)
        obtain rfl | hlast := hbefore
        · simp at hcount
        · refine ⟨c :: before, rest, rfl, by simp [hcount, hc], .inr ?_⟩
          simp [List.getLast?_cons, hlast]

namespace EndsLine

/-- Which line it is that ends matters only if a line feed alone ends it. -/
theorem imp {text' : List Char} (h : EndsLine text after)
    (hfeed : ['\n'] <+: after → text.getLast? ≠ some '\r' → text'.getLast? ≠ some '\r') :
    EndsLine text' after := by
  cases h with
  | last => exact .last
  | returnFeed rest => exact .returnFeed rest
  | feed rest hlast => exact .feed rest (hfeed ⟨rest, rfl⟩ hlast)

theorem append (h : EndsLine text after)
    (hcut : ¬ (part.getLast? = some '\r' ∧ ['\n'] <+: text ++ after)) :
    EndsLine (part ++ text) after := by
  refine h.imp fun hfeed hlast => ?_
  cases text with
  | nil => simpa using fun hreturn => hcut ⟨hreturn, hfeed⟩
  | cons d text => simpa [List.getLast?_append] using hlast

theorem tail (h : EndsLine (c :: text) after) : EndsLine text after := by
  refine h.imp fun _ hlast => ?_
  cases text with
  | nil => simp
  | cons d text => rwa [List.getLast?_cons_cons] at hlast

/-- No line end begins inside of a line. -/
theorem not_return (h : EndsLine (c :: text) after) (htext : '\n' ∉ text) :
    ¬ (c = '\r' ∧ ['\n'] <+: text ++ after) := by
  rintro ⟨rfl, hfeed⟩
  cases text with
  | nil =>
    cases h with
    | last => simp at hfeed
    | returnFeed rest => simp at hfeed
    | feed rest hlast => exact hlast rfl
  | cons d text => simp_all [List.cons_prefix_cons]

theorem eq_of_cons (h : EndsLine text (c :: after)) : c = '\r' ∨ c = '\n' := by
  cases h with
  | returnFeed rest => exact .inl rfl
  | feed rest hlast => exact .inr rfl

end EndsLine

/-- Every text begins with a part of one line, up to the line end. -/
theorem exists_lineEnd (rest : List Char) :
    ∃ text after, rest = text ++ after ∧ '\n' ∉ text ∧ EndsLine text after := by
  induction rest with
  | nil => exact ⟨[], [], rfl, List.not_mem_nil, .last⟩
  | cons c rest ih =>
    obtain ⟨text, after, hrest, htext, hends⟩ := ih
    by_cases hc : c = '\n'
    · subst hc
      exact ⟨[], '\n' :: rest, rfl, List.not_mem_nil, .feed rest (by simp)⟩
    · by_cases hreturn : c = '\r' ∧ ['\n'] <+: rest
      · obtain ⟨rfl, rest, rfl⟩ := hreturn
        exact ⟨[], '\r' :: '\n' :: rest, rfl, List.not_mem_nil, .returnFeed rest⟩
      · have hcut : ¬ ([c].getLast? = some '\r' ∧ ['\n'] <+: text ++ after) := by
          simpa [← hrest] using hreturn
        refine ⟨c :: text, after, by rw [hrest, List.cons_append], ?_, hends.append hcut⟩
        simp [htext, Ne.symm hc]

/-- A text has a line with each number up to one more than its line feeds. -/
theorem exists_isLine_of_le {source : List Char} {n : Nat} (h : n ≤ source.count '\n') :
    ∃ before text after, IsLine source (n + 1) before text after := by
  obtain ⟨before, rest, hsource, hcount, hbegins⟩ := exists_lineStart_of_le h
  obtain ⟨text, after, rfl, htext, hends⟩ := exists_lineEnd rest
  refine ⟨before, text, after, ?_, by rw [hcount], hbegins, htext, hends⟩
  rw [hsource, List.append_assoc]

/-- A place that is not inside of a line end is on the line with its number, and its column tells
how much of the line is before it. -/
theorem exists_isLine (hcut : ¬ (passed.getLast? = some '\r' ∧ ['\n'] <+: rest)) :
    ∃ before part more after, passed = before ++ part ∧ rest = more ++ after ∧
      IsLine (passed ++ rest) (Position.origin.afterAll passed).line before (part ++ more) after ∧
      (Position.origin.afterAll passed).column = part.length + 1 := by
  obtain ⟨before, part, rfl, hbefore, hpart⟩ := exists_lineStart passed
  obtain ⟨more, after, rfl, hmore, hends⟩ := exists_lineEnd rest
  refine ⟨before, part, more, after, rfl, rfl, ?_, Position.column_of_lineStart hbefore hpart⟩
  refine ⟨by simp only [List.append_assoc], ?_, hbefore, by simp [hpart, hmore],
    hends.append fun h => hcut ⟨?_, h.2⟩⟩
  · rw [Position.line_afterAll, List.count_append, List.count_eq_zero.2 hpart, Position.origin]
    exact Nat.add_comm _ _
  · rw [List.getLast?_append, h.1, Option.some_or]

end PushdownLexer
