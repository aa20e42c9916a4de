import PushdownLexer.Proofs.Assembly.Lexeme

/-!
# How tokens are written

A lexeme of the dialect makes a token, which is written in the form of its kind: a sign, a word, a
run of digits, the body of a quoted text. Or it makes none, and is a run of blanks, a comment or a
double quote.

## Main definitions

* `Assembly.Base`: the bases that numbers are written in.
* `Assembly.Spelt`: the text of a token of some kind.
* `Assembly.Trivia`: the text of a lexeme without a token.

## Main statements

* `Assembly.front?_cases`: what a lexeme is made of.
-/

namespace PushdownLexer.Assembly

/-- A base that numbers are written in. -/
inductive Base where
  | binary
  | decimal
  | hexadecimal
  deriving DecidableEq, Repr

namespace Base

/-- The number of digits of a base. -/
def radix : Base → Nat
  | binary => 2
  | decimal => 10
  | hexadecimal => 16

/-- What stands in front of the digits. -/
def mark : Base → List Char
  | binary => ['0', 'b']
  | decimal => []
  | hexadecimal => ['0', 'x']

/-- Whether a character is a digit of a base. -/
def isDigit : Base → Char → Bool
  | binary => isBit
  | decimal => Char.isDigit
  | hexadecimal => isHexDigit

end Base

/-- The text of a token of some kind. -/
inductive Spelt : Kind → List Char → Prop where
  | newline : Spelt .newline ['\n']
  | arrow : Spelt .arrow ['-', '>']
  | label {name : List Char} (hne : name ≠ []) (hname : ∀ c ∈ name, isLetter c) :
      Spelt (.label (String.ofList name)) (name ++ [':'])
  | symbol {name : List Char} (hne : name ≠ []) (hname : ∀ c ∈ name, isLetter c) :
      Spelt (.symbol (String.ofList name)) name
  | macroName {name : List Char} (hne : name ≠ []) (hname : ∀ c ∈ name, isLetter c) :
      Spelt (.macroName (String.ofList name)) ('@' :: name)
  | text {body : List Char} (hne : body ≠ []) (hbody : '"' ∉ body) :
      Spelt (.text (String.ofList body)) body
  | number (base : Base) {run : List Char} (hne : run ≠ []) (hrun : ∀ c ∈ run, base.isDigit c) :
      Spelt (number base.radix run) (base.mark ++ run)

/-- What stands between tokens, in front of `rest`: blanks, a comment, or a double quote. -/
inductive Trivia : List Char → List Char → Prop where
  | blanks {run rest : List Char} (hrun : ∀ c ∈ run, isBlank c) : Trivia run rest
  /-- A comment goes on to the end of its line. -/
  | comment {body rest : List Char} (hbody : '\n' ∉ body) (hend : rest = [] ∨ ['\n'] <+: rest) :
      Trivia (';' :: body) rest
  | quote {rest : List Char} : Trivia ['"'] rest

variable {k : Kind} {text x : List Char} {mode : Mode} {l : Lexeme}

/-! ## Lexemes -/

theorem forall_mem_takeWhile (p : Char → Bool) (text : List Char) :
    ∀ c ∈ text.takeWhile p, p c :=
  fun c hc => List.all_eq_true.1 List.all_takeWhile c hc

theorem take_of_prefix {cs : List Char} {n : Nat} (h : cs <+: text) (hn : cs.length = n) :
    text.take n = cs := by
  rw [← hn, ← List.prefix_iff_eq_take.1 h]

/-- A run of digits after the mark of their base. -/
theorem spelt_number (base : Base) (hmark : base.mark <+: text)
    (hrun : (text.drop base.mark.length).takeWhile base.isDigit ≠ []) :
    Spelt (number base.radix ((text.drop base.mark.length).takeWhile base.isDigit))
      (text.take
        (base.mark.length + ((text.drop base.mark.length).takeWhile base.isDigit).length)) := by
  rw [take_mark_run hmark]
  exact .number base hrun (forall_mem_takeWhile _ _)

/-- After the rest of a line comes its end, or nothing. -/
theorem dropWhile_line (text : List Char) :
    text.dropWhile (· != '\n') = [] ∨ ['\n'] <+: text.dropWhile (· != '\n') := by
  have hhead := List.head?_dropWhile_not (· != '\n') text
  cases hdrop : text.dropWhile (· != '\n') with
  | nil => exact .inl rfl
  | cons c cs =>
    rw [hdrop, List.head?_cons] at hhead
    have hc : c = '\n' := by simpa using hhead
    exact .inr ⟨cs, by rw [hc]; rfl⟩

theorem trivia_comment (h : [';'] <+: text) :
    Trivia (text.take (1 + ((text.drop 1).takeWhile (· != '\n')).length))
      (text.drop (1 + ((text.drop 1).takeWhile (· != '\n')).length)) := by
  obtain ⟨rest, rfl⟩ := h
  have hlength : 1 + (rest.takeWhile (· != '\n')).length =
      (rest.takeWhile (· != '\n')).length + 1 := Nat.add_comm _ _
  simp only [List.singleton_append, List.drop_succ_cons, List.drop_zero, hlength,
    List.take_succ_cons, take_takeWhile, drop_takeWhile]
  exact .comment (fun hmem => by simpa using forall_mem_takeWhile _ _ _ hmem)
    (dropWhile_line rest)

theorem spelt_label (hne : text.takeWhile isLetter ≠ []) (h : [':'] <+: text.dropWhile isLetter) :
    Spelt (.label (String.ofList (text.takeWhile isLetter)))
      (text.take ((text.takeWhile isLetter).length + 1)) := by
  rw [take_run_mark h]
  exact .label hne (forall_mem_takeWhile _ _)

/-- A lexeme of instructions makes a token of its form, or it makes none. -/
theorem instruction?_cases (hl : instruction? text = some l) :
    (∃ k, l.kind? = some k ∧ Spelt k (text.take l.length)) ∨
      l.kind? = none ∧ Trivia (text.take l.length) (text.drop l.length) := by
  revert hl
  fun_cases instruction? text <;> rintro ⟨⟩ <;> dsimp only
  case case1 hnewline =>
    refine .inl ⟨_, rfl, ?_⟩
    have htake : text.take 1 = ['\n'] := take_of_prefix hnewline rfl
    rw [htake]
    exact .newline
  case case2 =>
    refine .inr ⟨rfl, ?_⟩
    rw [take_takeWhile]
    exact .blanks (forall_mem_takeWhile _ _)
  case case3 hcomment => exact .inr ⟨rfl, trivia_comment hcomment⟩
  case case4 hhex => exact .inl ⟨_, rfl, spelt_number .hexadecimal hhex.1 hhex.2⟩
  case case5 hbits => exact .inl ⟨_, rfl, spelt_number .binary hbits.1 hbits.2⟩
  case case6 hdigits =>
    have hspelt := spelt_number .decimal List.nil_prefix hdigits
    rw [Base.mark, List.length_nil, Nat.zero_add] at hspelt
    exact .inl ⟨_, rfl, hspelt⟩
  case case7 harrow =>
    refine .inl ⟨_, rfl, ?_⟩
    have htake : text.take 2 = ['-', '>'] := take_of_prefix harrow rfl
    rw [htake]
    exact .arrow
  case case8 hquote =>
    refine .inr ⟨rfl, ?_⟩
    have htake : text.take 1 = ['"'] := take_of_prefix hquote rfl
    rw [htake]
    exact .quote
  case case9 hword hcolon => exact .inl ⟨_, rfl, spelt_label hword hcolon⟩
  case case10 hword _ =>
    refine .inl ⟨_, rfl, ?_⟩
    rw [take_takeWhile]
    exact .symbol hword (forall_mem_takeWhile _ _)
  case case11 hname =>
    refine .inl ⟨_, rfl, ?_⟩
    have htake := take_mark_run hname.1 isLetter
    rw [List.length_singleton] at htake
    rw [htake]
    exact .macroName hname.2 (forall_mem_takeWhile _ _)

/-- A lexeme inside a quoted text is all of its body, or the double quote after it. -/
theorem quoted?_cases (hl : quoted? text = some l) :
    (∃ k, l.kind? = some k ∧ Spelt k (text.take l.length)) ∨
      l.kind? = none ∧ Trivia (text.take l.length) (text.drop l.length) := by
  revert hl
  fun_cases quoted? text <;> rintro ⟨⟩ <;> dsimp only
  case case1 hbody =>
    refine .inl ⟨_, rfl, ?_⟩
    rw [take_takeWhile]
    exact .text hbody fun hmem => by simpa using forall_mem_takeWhile _ _ _ hmem
  case case2 hquote =>
    refine .inr ⟨rfl, ?_⟩
    have htake : text.take 1 = ['"'] := take_of_prefix hquote rfl
    rw [htake]
    exact .quote

/-- A lexeme makes a token of its form, or it makes none. -/
theorem front?_cases (hl : front? mode text = some l) :
    (∃ k, l.kind? = some k ∧ Spelt k (text.take l.length)) ∨
      l.kind? = none ∧ Trivia (text.take l.length) (text.drop l.length) := by
  cases mode with
  | instructions => exact instruction?_cases hl
  | quotation => exact quoted?_cases hl

end PushdownLexer.Assembly
