import PushdownLexer.Proofs.Assembly.Output
import PushdownLexer.Proofs.Report.Context
import PushdownLexer.Proofs.Report.Tokenization

/-!
# The lines of an output

Each token is written with a line end after it. What is written ends in a letter, a digit, a colon
or a double quote, so that the line end is not joined with anything before it, and the lines of an
output are those of what is written for one token after the other. A word or a number has no line
feed. The body of a quoted text may have some, and as it is written as it is, its token fills as
many lines more. So an output has one line for each token if and only if no quoted text has a line
feed.

## Main definitions

* `EndsPlain`: a text does not end in a part of a line end.

## Main statements

* `splitLines_append_lineFeed`: a line end after a text ends its last line.
* `Assembly.Kind.WellFormed.length_splitLines`: how many lines a kind is written on.
* `lines_of_output`: the lines of an output, and when each token has its own.
-/

namespace PushdownLexer

variable {text rest : List Char} {c : Char}

/-! ## Lines -/

/-- A text that ends in a character which no line end has. -/
def EndsPlain (text : List Char) : Prop := ∃ c, text.getLast? = some c ∧ c ≠ '\n' ∧ c ≠ '\r'

theorem EndsPlain.ne_nil (h : EndsPlain text) : text ≠ [] := by
  rintro rfl
  obtain ⟨c, hlast, -⟩ := h
  simp at hlast

theorem splitLines_return (h : ['\n'] <+: text) : splitLines ('\r' :: text) = splitLines text := by
  obtain ⟨text, rfl⟩ := h
  rfl

/-- A line end after a text ends its last line. -/
theorem splitLines_append_lineFeed (h : EndsPlain text) (rest : List Char) :
    splitLines (text ++ '\n' :: rest) = splitLines text ++ splitLines rest := by
  induction text with
  | nil => exact absurd rfl h.ne_nil
  | cons c text ih =>
    cases text with
    | nil =>
      obtain ⟨d, hlast, hfeed, hreturn⟩ := h
      obtain rfl : c = d := Option.some.inj hlast
      rw [List.singleton_append, splitLines_cons hfeed (fun hr => hreturn hr.1),
        splitLines_cons hfeed (fun hr => hreturn hr.1)]
      rfl
    | cons d text =>
      have htail : EndsPlain (d :: text) := by
        simpa only [EndsPlain, List.getLast?_cons_cons] using h
      have hlines := ih htail
      by_cases hc : c = '\n'
      · subst hc
        exact congrArg ([] :: ·) hlines
      · by_cases hreturn : c = '\r' ∧ ['\n'] <+: d :: text
        · obtain ⟨rfl, more, hmore⟩ := hreturn
          have hmore' : ['\n'] ++ (more ++ '\n' :: rest) = d :: text ++ '\n' :: rest := by
            rw [← List.append_assoc, hmore]
          rw [splitLines_return ⟨more, hmore⟩, ← hlines]
          exact splitLines_return ⟨_, hmore'⟩
        · have hreturn' : ¬ (c = '\r' ∧ ['\n'] <+: d :: text ++ '\n' :: rest) := by
            simpa [List.cons_prefix_cons] using hreturn
          obtain ⟨first, others, hsplit⟩ :=
            List.exists_cons_of_ne_nil (splitLines_ne_nil htail.ne_nil)
          rw [List.cons_append, splitLines_cons hc hreturn', hlines, splitLines_cons hc hreturn,
            hsplit]
          rfl

theorem splitLines_eq_sourceLines (h : EndsPlain text) : splitLines text = sourceLines text := by
  obtain ⟨c, hlast, hfeed, -⟩ := h
  cases text with
  | nil => simp at hlast
  | cons d text => simp [sourceLines, hlast, hfeed]

theorem EndsPlain.length_splitLines (h : EndsPlain text) :
    (splitLines text).length = text.count '\n' + 1 := by
  rw [splitLines_eq_sourceLines h, length_sourceLines]

theorem EndsPlain.splitLines_eq_singleton_iff (h : EndsPlain text) :
    splitLines text = [text] ↔ '\n' ∉ text := by
  constructor
  · intro hlines
    have hlength := h.length_splitLines
    rw [hlines, List.length_singleton] at hlength
    exact List.count_eq_zero.1 (by omega)
  · intro hnone
    rw [splitLines_eq_sourceLines h, sourceLines_of_notMem hnone]

/-! ## The lines of a kind -/

namespace Assembly

variable {k : Kind} {ks : List Kind}

/-- No quoted text has a line feed. -/
def Kind.OneLine (k : Kind) : Prop := ∀ body, k = .text body → '\n' ∉ body.toList

namespace Kind.WellFormed

theorem endsPlain_of_mem {p : Char → Bool} {front word : List Char} (hword : word ≠ [])
    (hp : ∀ c ∈ word, p c) (hfeed : p '\n' = false) (hreturn : p '\r' = false) :
    EndsPlain (front ++ word) := by
  have hlast := hp _ (List.getLast_mem hword)
  refine ⟨word.getLast hword, ?_, ?_, ?_⟩
  · rw [List.getLast?_append_of_ne_nil _ hword, List.getLast?_eq_some_getLast hword]
  · rintro heq
    simp [heq, hfeed] at hlast
  · rintro heq
    simp [heq, hreturn] at hlast

theorem endsPlain (hk : k.WellFormed) : EndsPlain k.render.toList := by
  cases k with
  | newline => exact ⟨'E', rfl, by decide, by decide⟩
  | arrow => exact ⟨'W', rfl, by decide, by decide⟩
  | label name =>
    rw [render, String.toList_append]
    exact ⟨':', List.getLast?_concat, by decide, by decide⟩
  | text body =>
    rw [render, String.toList_append]
    exact ⟨'"', List.getLast?_concat, by decide, by decide⟩
  | symbol name | macroName name =>
    rw [render, String.toList_append]
    exact endsPlain_of_mem hk.1 hk.2 rfl rfl
  | number value =>
    rw [render, String.toList_append]
    refine endsPlain_of_mem ?_ hk.toString_spec.1 rfl rfl
    rw [toList_toString_of_nonneg hk.1]
    exact Nat.toDigits_ne_nil

/-- Of the kinds that a token can have, only a quoted text can have line feeds. -/
theorem notMem_render_iff (hk : k.WellFormed) : '\n' ∉ k.render.toList ↔ k.OneLine := by
  cases k with
  | newline | arrow => simp [render, OneLine]
  | label name | symbol name | macroName name =>
    have hname : '\n' ∉ name.toList := fun h => absurd (hk.2 _ h) (by decide)
    simp [render, OneLine, hname]
  | text body => simp [render, OneLine]
  | number value =>
    have hvalue : '\n' ∉ (toString value).toList := fun h =>
      absurd (hk.toString_spec.1 _ h) (by decide)
    simpa [render, OneLine] using hvalue

/-- A kind has a line of its own and one more for each of its line feeds. -/
theorem length_splitLines (hk : k.WellFormed) :
    (splitLines k.render.toList).length = k.render.toList.count '\n' + 1 :=
  hk.endsPlain.length_splitLines

end Kind.WellFormed

/-! ## The lines of all kinds -/

theorem splitLines_lines (hks : ∀ k ∈ ks, k.WellFormed) :
    splitLines (ks.flatMap Kind.line) = ks.flatMap fun k => splitLines k.render.toList := by
  induction ks with
  | nil => rfl
  | cons k ks ih =>
    obtain ⟨hk, hks⟩ := List.forall_mem_cons.1 hks
    rw [List.flatMap_cons, List.flatMap_cons, ← ih hks, Kind.line, List.append_assoc,
      List.singleton_append, splitLines_append_lineFeed hk.endsPlain]

/-- There is a line for each kind, and one more for each line feed. -/
theorem length_lines (hks : ∀ k ∈ ks, k.WellFormed) :
    (splitLines (ks.flatMap Kind.line)).length =
      ks.length + (ks.map fun k => k.render.toList.count '\n').sum := by
  rw [splitLines_lines hks]
  induction ks with
  | nil => rfl
  | cons k ks ih =>
    obtain ⟨hk, hks⟩ := List.forall_mem_cons.1 hks
    rw [List.flatMap_cons, List.length_append, ih hks, hk.length_splitLines, List.length_cons,
      List.map_cons, List.sum_cons]
    omega

/-- There are as many lines as kinds if and only if no kind has a line feed. -/
theorem length_lines_eq_iff (hks : ∀ k ∈ ks, k.WellFormed) :
    (splitLines (ks.flatMap Kind.line)).length = ks.length ↔ ∀ k ∈ ks, k.OneLine := by
  rw [length_lines hks, Nat.add_eq_left, List.sum_eq_zero_iff_forall_eq_nat, List.forall_mem_map]
  refine forall₂_congr fun k hk => ?_
  rw [List.count_eq_zero, (hks k hk).notMem_render_iff]

/-- Then each kind has its own line. -/
theorem splitLines_lines_eq_map_iff (hks : ∀ k ∈ ks, k.WellFormed) :
    splitLines (ks.flatMap Kind.line) = ks.map (fun k => k.render.toList) ↔
      ∀ k ∈ ks, k.OneLine := by
  constructor
  · intro hlines
    rw [← length_lines_eq_iff hks, hlines, List.length_map]
  · intro hone
    have hsplit : ∀ k ∈ ks, splitLines k.render.toList = [k.render.toList] := fun k hk =>
      (hks k hk).endsPlain.splitLines_eq_singleton_iff.2
        ((hks k hk).notMem_render_iff.2 (hone k hk))
    rw [splitLines_lines hks, List.flatMap_congr hsplit, List.map_eq_flatMap]

end Assembly

/-- The text output of a tokenization has a line for each token, and one more for each line feed in
a quoted text. It has as many lines as tokens, each being what is written for its token, if and only
if no quoted text has a line feed. -/
theorem lines_of_output {run : RunSettings} {source : List Char} {out : Scanned Assembly.Kind}
    (h : (tokenizeSource run source).result = .ok out) :
    let lines := splitLines (TokenFormat.text.write out.tokens).toList
    lines.length = out.tokens.length +
        (out.tokens.map fun t => t.kind.render.toList.count '\n').sum ∧
      (lines.length = out.tokens.length ↔
        ∀ t ∈ out.tokens, ∀ body, t.kind = .text body → '\n' ∉ body.toList) ∧
      (lines = out.tokens.map (fun t => t.kind.render.toList) ↔
        ∀ t ∈ out.tokens, ∀ body, t.kind = .text body → '\n' ∉ body.toList) := by
  intro lines
  rw [result_tokenizeSource, mapError_eq_ok_iff] at h
  have hkinds := Assembly.wellFormed_of_scanSource h
  have hlines : lines = splitLines ((out.tokens.map Token.kind).flatMap Assembly.Kind.line) := by
    rw [← Assembly.toList_write]
  have hone : (∀ k ∈ out.tokens.map Token.kind, k.OneLine) ↔
      ∀ t ∈ out.tokens, ∀ body, t.kind = .text body → '\n' ∉ body.toList :=
    List.forall_mem_map
  refine ⟨?_, ?_, ?_⟩
  · rw [hlines, Assembly.length_lines hkinds, List.length_map, List.map_map]
    rfl
  · rw [hlines, ← hone, ← Assembly.length_lines_eq_iff hkinds, List.length_map]
  · rw [hlines, ← hone, ← Assembly.splitLines_lines_eq_map_iff hkinds, List.map_map]
    rfl

/-- A quoted text in one line has its own line, and one in two lines has two of them. -/
theorem lines_of_quoted :
    (∃ out, (tokenizeSource {} ['"', 'a', '"', '\n']).result = .ok out ∧
      splitLines (TokenFormat.text.write out.tokens).toList =
        ["STRING \"a\"".toList, "NEWLINE".toList]) ∧
    ∃ out, (tokenizeSource {} ['"', 'a', '\n', 'b', '"']).result = .ok out ∧
      out.tokens.length = 1 ∧
      (splitLines (TokenFormat.text.write out.tokens).toList).length = 2 := by
  have hone : (tokenizeSource {} ['"', 'a', '"', '\n']).result =
      .ok ⟨[⟨.text "a", ⟨⟨1, 2, 1⟩, ⟨1, 3, 2⟩⟩⟩, ⟨.newline, ⟨⟨1, 4, 3⟩, ⟨2, 1, 4⟩⟩⟩], 4, "root"⟩ := by
    rw [result_tokenizeSource, mapError_eq_ok_iff, Assembly.scanSource_eq]
    exact result_of_iterate (n := 5) rfl rfl
  have htwo : (tokenizeSource {} ['"', 'a', '\n', 'b', '"']).result =
      .ok ⟨[⟨.text "a\nb", ⟨⟨1, 2, 1⟩, ⟨2, 2, 4⟩⟩⟩], 5, "root"⟩ := by
    rw [result_tokenizeSource, mapError_eq_ok_iff, Assembly.scanSource_eq]
    exact result_of_iterate (n := 4) rfl rfl
  refine ⟨⟨_, hone, ?_⟩, _, htwo, rfl, ?_⟩
  · have hbodies : ∀ t ∈ [Token.mk (Assembly.Kind.text "a") ⟨⟨1, 2, 1⟩, ⟨1, 3, 2⟩⟩,
        ⟨.newline, ⟨⟨1, 4, 3⟩, ⟨2, 1, 4⟩⟩⟩], ∀ body, t.kind = .text body → '\n' ∉ body.toList := by
      simp
    exact (lines_of_output hone).2.2.2 hbodies
  · exact (lines_of_output htwo).1

end PushdownLexer
