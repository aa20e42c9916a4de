import PushdownLexer.Command.Run
import PushdownLexer.Proofs.Assembly.RoundTrip

/-!
# Output that can be read back

Each kind is written on a line of its own, and the body of a quoted text as it is, so that it may
fill several lines which look like those of other kinds. It is still known where it ends: it has no
double quote. In the same way, a word ends where the letters do, and a number where its digits do,
and what a line is about is told by its first two letters. So no line of a well-formed kind begins
with the one of another kind, and the kinds are read off the output one by one.

## Main definitions

* `Assembly.Kind.line`: a kind on its output line.

## Main statements

* `Assembly.eq_of_line_append`: the first line of an output gives its kind and the other lines.
* `Assembly.prefix_of_lines`: a beginning of an output gives a beginning of the kinds.
* `Assembly.kinds_of_output`: scans with the same output have the same kinds.
-/

namespace PushdownLexer.Assembly

open Machine

/-- A kind on an output line, with the line end. -/
def Kind.line (k : Kind) : List Char := k.render.toList ++ ['\n']

variable {k k' : Kind} {ks ks' : List Kind} {rest rest' : List Char} {settings : ScanSettings}
  {text : List Char} {m : Machine Kind}

/-! ## One line -/

/-- A word ends where a mark follows that it does not have. -/
theorem eq_of_word_append {p : Char → Bool} {mark : Char} {s s' : String} (hmark : p mark = false)
    (hs : ∀ c ∈ s.toList, p c) (hs' : ∀ c ∈ s'.toList, p c)
    (h : s.toList ++ mark :: rest = s'.toList ++ mark :: rest') : s = s' ∧ rest = rest' := by
  have hstop (rest : List Char) : ∀ c ∈ (mark :: rest).head?, p c = false := by simpa using hmark
  have hword : s.toList = s'.toList := by
    rw [← takeWhile_run hs (hstop rest), h, takeWhile_run hs' (hstop rest')]
  rw [hword, List.append_cancel_left_eq, List.cons.injEq] at h
  exact ⟨String.toList_inj.1 hword, h.2⟩

theorem toList_toString_of_nonneg {value : Int} (h : 0 ≤ value) :
    (toString value).toList = Nat.toDigits 10 value.toNat := by
  obtain ⟨n, rfl⟩ := Int.eq_ofNat_of_zero_le h
  change (Nat.repr n).toList = _
  rw [Nat.repr, String.toList_ofList, Int.toNat_natCast]

/-- A number is written with its digits, which give it back. -/
theorem Kind.WellFormed.toString_spec {value : Int} (h : (number value).WellFormed) :
    (∀ c ∈ (toString value).toList, c.isDigit) ∧
      Assembly.number 10 (toString value).toList = .number value := by
  rw [toList_toString_of_nonneg h.1]
  have hvalue : Assembly.number Base.decimal.radix _ = .number value := number_toDigits h.1 h.2
  exact ⟨(toDigits_spec .decimal _).1, hvalue⟩

/-- The first line of an output gives its kind and the other lines. -/
theorem eq_of_line_append (hk : k.WellFormed) (hk' : k'.WellFormed)
    (h : k.line ++ rest = k'.line ++ rest') : k = k' ∧ rest = rest' := by
  -- The first two letters tell the kinds of lines apart.
  cases k <;> cases k' <;>
    simp only [Kind.line, Kind.render, String.toList_append, String.reduceToList, List.cons_append,
      List.nil_append, List.append_assoc, List.cons.injEq, Char.reduceEq, Char.isValue, true_and,
      false_and, and_false] at h
  case newline.newline => exact ⟨rfl, h⟩
  case arrow.arrow => exact ⟨rfl, h⟩
  case label.label =>
    obtain ⟨hname, hrest⟩ := eq_of_word_append rfl hk.2 hk'.2 h
    exact ⟨congrArg _ hname, (List.cons.inj hrest).2⟩
  case symbol.symbol =>
    obtain ⟨hname, hrest⟩ := eq_of_word_append rfl hk.2 hk'.2 h
    exact ⟨congrArg _ hname, hrest⟩
  case macroName.macroName =>
    obtain ⟨hname, hrest⟩ := eq_of_word_append rfl hk.2 hk'.2 h
    exact ⟨congrArg _ hname, hrest⟩
  case text.text =>
    have hbody {s : String} (hs : (Kind.text s).WellFormed) : ∀ c ∈ s.toList, (c != '"') = true :=
      fun c hc => bne_iff_ne.2 fun hquote => hs.2 (hquote ▸ hc)
    obtain ⟨hbodies, hrest⟩ :=
      eq_of_word_append (p := (· != '"')) rfl (hbody hk) (hbody hk') h
    exact ⟨congrArg _ hbodies, (List.cons.inj hrest).2⟩
  case number.number =>
    obtain ⟨hdigits, hrest⟩ := eq_of_word_append rfl hk.toString_spec.1 hk'.toString_spec.1 h
    refine ⟨?_, hrest⟩
    rw [← hk.toString_spec.2, hdigits, hk'.toString_spec.2]

/-! ## All lines -/

/-- A beginning of an output gives a beginning of the kinds. -/
theorem prefix_of_lines (hks : ∀ k ∈ ks, k.WellFormed) (hks' : ∀ k ∈ ks', k.WellFormed)
    (h : ks.flatMap Kind.line <+: ks'.flatMap Kind.line) : ks <+: ks' := by
  induction ks generalizing ks' with
  | nil => exact List.nil_prefix
  | cons k ks ih =>
    obtain ⟨hk, hks⟩ := List.forall_mem_cons.1 hks
    obtain ⟨others, hlines⟩ := h
    cases ks' with
    | nil => simp [Kind.line] at hlines
    | cons k' ks' =>
      obtain ⟨hk', hmore⟩ := List.forall_mem_cons.1 hks'
      rw [List.flatMap_cons, List.flatMap_cons, List.append_assoc] at hlines
      obtain ⟨rfl, hrest⟩ := eq_of_line_append hk hk' hlines
      exact (List.prefix_cons_inj k).2 (ih hks hmore ⟨others, hrest⟩)

/-- The body of a text with a double quote would not be told from other lines. -/
example : [Kind.text "a\"\nARROW\nSTRING \"b"].flatMap Kind.line =
    [Kind.text "a", .arrow, .text "b"].flatMap Kind.line := by decide

theorem toList_write (tokens : List (Token Kind)) :
    (TokenFormat.text.write tokens).toList = (tokens.map Token.kind).flatMap Kind.line := by
  rw [TokenFormat.write, String.toList_join, List.flatMap_map, List.flatMap_map]
  exact List.flatMap_congr fun token _ => by rw [String.toList_append]; rfl

/-! ## The kinds of a scan -/

theorem Lexeme.wellFormed_of_token {mode : Mode} {l : Lexeme} {token : Token Kind}
    {place : Position} (hl : front? mode text = some l) (h : l.token? place text = some token) :
    token.kind.WellFormed := by
  obtain ⟨k, hk, rfl⟩ := Option.map_eq_some_iff.1 h
  obtain ⟨k', hk', hspelt⟩ | ⟨hnone, -⟩ := front?_cases hl
  · cases hk.symm.trans hk'
    exact hspelt.wellFormed
  · cases hk.symm.trans hnone

/-- A scan makes tokens of well-formed kinds only. -/
theorem wellFormed_of_reached {moves : List (Move Kind)}
    (h : Reached dialect settings text moves m) :
    ∀ token ∈ m.tokens, token.kind.WellFormed := by
  induction h with
  | start hstart =>
    obtain ⟨rules, -, rfl⟩ := eq_initial_of_start hstart
    simp [initial]
  | @next moves m t rule found stalled hm happlies hfollows ih =>
    obtain ⟨mode, hmode⟩ := inMode_of_reached hm
    obtain ⟨l, hl, rfl, -⟩ := hmode.exists_front? happlies
    obtain ⟨-, -, htokens, -⟩ := hfollows.frame
    rw [htokens]
    intro token htoken
    obtain hnew | hold := List.mem_append.1 htoken
    · exact Lexeme.wellFormed_of_token hl (Option.mem_toList.1 hnew)
    · exact ih token hold

theorem wellFormed_of_scanSource {out : Scanned Kind}
    (h : (scanSource settings text).result = .ok out) :
    ∀ k ∈ out.tokens.map Token.kind, k.WellFormed := by
  rw [scanSource_eq] at h
  obtain ⟨moves, last, hlast, -, -, -, rfl⟩ := exists_finished_of_scan h
  simpa using wellFormed_of_reached hlast

/-- Two scans that succeed have the same output if and only if they have the same kinds, whatever
texts and settings they have. If the output of one begins with the other's, so do its kinds. -/
theorem kinds_of_output {settings settings' : ScanSettings} {text text' : List Char}
    {out out' : Scanned Kind} (h : (scanSource settings text).result = .ok out)
    (h' : (scanSource settings' text').result = .ok out') :
    (TokenFormat.text.write out.tokens = TokenFormat.text.write out'.tokens ↔
        out.tokens.map Token.kind = out'.tokens.map Token.kind) ∧
      ((TokenFormat.text.write out.tokens).toList <+: (TokenFormat.text.write out'.tokens).toList ↔
        out.tokens.map Token.kind <+: out'.tokens.map Token.kind) := by
  have hkinds := wellFormed_of_scanSource h
  have hkinds' := wellFormed_of_scanSource h'
  rw [← String.toList_inj, toList_write, toList_write]
  refine ⟨⟨fun heq => ?_, fun heq => by rw [heq]⟩,
    ⟨prefix_of_lines hkinds hkinds', fun hbegins => ?_⟩⟩
  · have hle := prefix_of_lines hkinds hkinds' (heq ▸ List.prefix_rfl)
    have hge := prefix_of_lines hkinds' hkinds (heq ▸ List.prefix_rfl)
    exact hle.eq_of_length_le hge.length_le
  · obtain ⟨more, hmore⟩ := hbegins
    rw [← hmore, List.flatMap_append]
    exact List.prefix_append _ _

/-- A number has one output in all bases, and a text whose body looks like a line has its own. -/
theorem kinds_of_output_one :
    (∃ out out', (scanSource {} ['0', 'b', '1']).result = .ok out ∧
      (scanSource {} ['1']).result = .ok out' ∧
      TokenFormat.text.write out.tokens = TokenFormat.text.write out'.tokens ∧
      out.tokens.map Token.kind = [.number 1]) ∧
    ∃ out out', (scanSource {} ['"', '\n', '-', '>', '"']).result = .ok out ∧
      (scanSource {} ['\n', '-', '>']).result = .ok out' ∧
      TokenFormat.text.write out.tokens ≠ TokenFormat.text.write out'.tokens := by
  have hbits : (scanSource {} ['0', 'b', '1']).result =
      .ok ⟨[⟨.number 1, ⟨⟨1, 1, 0⟩, ⟨1, 4, 3⟩⟩⟩], 3, "root"⟩ := by
    rw [scanSource_eq]
    exact result_of_iterate (n := 2) rfl rfl
  have hdecimal : (scanSource {} ['1']).result =
      .ok ⟨[⟨.number 1, ⟨⟨1, 1, 0⟩, ⟨1, 2, 1⟩⟩⟩], 1, "root"⟩ := by
    rw [scanSource_eq]
    exact result_of_iterate (n := 2) rfl rfl
  have hquoted : (scanSource {} ['"', '\n', '-', '>', '"']).result =
      .ok ⟨[⟨.text "\n->", ⟨⟨1, 2, 1⟩, ⟨2, 3, 4⟩⟩⟩], 5, "root"⟩ := by
    rw [scanSource_eq]
    exact result_of_iterate (n := 4) rfl rfl
  have hlines : (scanSource {} ['\n', '-', '>']).result =
      .ok ⟨[⟨.newline, ⟨⟨1, 1, 0⟩, ⟨2, 1, 1⟩⟩⟩, ⟨.arrow, ⟨⟨2, 1, 1⟩, ⟨2, 3, 3⟩⟩⟩], 3, "root"⟩ := by
    rw [scanSource_eq]
    exact result_of_iterate (n := 3) rfl rfl
  refine ⟨⟨_, _, hbits, hdecimal, (kinds_of_output hbits hdecimal).1.2 rfl, rfl⟩,
    _, _, hquoted, hlines, fun heq => ?_⟩
  have hkinds := (kinds_of_output hquoted hlines).1.1 heq
  simp at hkinds

end PushdownLexer.Assembly
