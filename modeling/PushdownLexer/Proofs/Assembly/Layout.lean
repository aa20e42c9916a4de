import PushdownLexer.Proofs.Assembly.Reference
import PushdownLexer.Proofs.Assembly.Spelling

/-!
# How a text of the dialect is laid out

A text that can be scanned is made of the texts of its tokens and of the gaps around them. A token
says what its text says, and a gap has nothing but blanks, comments and double quotes in it.

## Main definitions

* `Assembly.Gap`: the text between two tokens.
* `Assembly.Laid`: a text is made of gaps and the texts of tokens, in turns.

## Main statements

* `Assembly.laid_of_readFrom`: what is read is laid out.
* `Assembly.spelt_of_read`: the text of a token that is read is that of its kind.
* `Assembly.laid_of_scanSource`: a text that is scanned is made of its tokens and gaps.
-/

namespace PushdownLexer.Assembly

open Machine

/-- A gap between tokens, in front of `rest`. -/
inductive Gap (rest : List Char) : List Char → Prop where
  | nil : Gap rest []
  | cons {x gap : List Char} (hx : Trivia x (gap ++ rest)) (hgap : Gap rest gap) :
      Gap rest (x ++ gap)

/-- A text that starts at `place` is made of gaps and the texts of tokens, in turns. -/
inductive Laid : Position → List Char → List (Token Kind) → Prop where
  | last {place : Position} {gap : List Char} (hgap : Gap [] gap) : Laid place gap []
  | token {place : Position} {gap x rest : List Char} {k : Kind} {tokens : List (Token Kind)}
      (hgap : Gap (x ++ rest) gap) (hx : Spelt k x)
      (hrest : Laid (place.afterAll (gap ++ x)) rest tokens) :
      Laid place (gap ++ x ++ rest)
        (⟨k, ⟨place.afterAll gap, place.afterAll (gap ++ x)⟩⟩ :: tokens)

variable {place : Position} {text x rest : List Char} {tokens : List (Token Kind)} {k : Kind}
  {mode : Mode} {out : Scanned Kind}

namespace Laid

theorem cons_token (hx : Spelt k x) (h : Laid (place.afterAll x) rest tokens) :
    Laid place (x ++ rest) (⟨k, ⟨place, place.afterAll x⟩⟩ :: tokens) :=
  .token .nil hx h

/-- What stands in front of the first gap is part of it. -/
theorem trivia (hx : Trivia x rest) (h : Laid (place.afterAll x) rest tokens) :
    Laid place (x ++ rest) tokens := by
  cases h with
  | last hgap => exact .last (.cons (by rwa [List.append_nil]) hgap)
  | @token _ gap y rest k tokens hgap hy hrest =>
    rw [← Position.afterAll_append, ← List.append_assoc] at hrest
    have hx' : Trivia x (gap ++ (y ++ rest)) := by rwa [← List.append_assoc]
    have hlaid := Laid.token (.cons hx' hgap) hy hrest
    simpa only [Position.afterAll_append, List.append_assoc] using hlaid

/-- The text of each token is that of its kind. -/
theorem spelt_of_mem (h : Laid place text tokens) (passed : List Char)
    (hplace : place = Position.origin.afterAll passed) :
    ∀ token ∈ tokens, ∃ x, token.lexeme? (passed ++ text) = some x ∧ Spelt token.kind x := by
  induction h generalizing passed with
  | last hgap => simp
  | @token place gap x rest k tokens hgap hx hrest ih =>
    subst hplace
    have htext : passed ++ (gap ++ x ++ rest) = passed ++ gap ++ x ++ rest := by simp
    have hplace : (Position.origin.afterAll passed).afterAll (gap ++ x) =
        Position.origin.afterAll (passed ++ gap ++ x) := by simp [Position.afterAll_append]
    refine List.forall_mem_cons.2 ⟨⟨x, ?_, hx⟩, ?_⟩
    · have hslice := slice?_append (passed ++ gap) x rest
      simpa [htext, Token.lexeme?, Span.text?, Position.offset_afterAll, Position.origin,
        byteLength_append, Nat.add_assoc] using hslice
    · have := ih _ hplace
      simpa [List.append_assoc] using this

end Laid

/-- What is read is laid out. -/
theorem laid_of_readFrom (h : readFrom mode place text = .ok out) : Laid place text out.tokens := by
  induction mode, place, text using readFrom.induct generalizing out with
  | case1 mode place text l hl ih =>
    obtain ⟨out', hout', rfl⟩ := exists_of_readFrom_eq_ok hl h
    have hrest := ih hout'
    rw [Lexeme.token?]
    obtain ⟨k, hk, hspelt⟩ | ⟨hk, htrivia⟩ := front?_cases hl
    · have hlaid := hrest.cons_token hspelt
      rw [List.take_append_drop] at hlaid
      rw [hk]
      exact hlaid
    · have hlaid := hrest.trivia htrivia
      rw [List.take_append_drop] at hlaid
      rw [hk]
      exact hlaid
  | case2 mode place hnone =>
    rw [readFrom_of_eq_none hnone, if_pos rfl] at h
    cases h
    exact .last .nil
  | case3 mode place text hnone htext =>
    rw [readFrom_of_eq_none hnone, if_neg htext] at h
    cases h

/-- The text of each token that is read is that of its kind. -/
theorem spelt_of_read (h : read text = .ok out) :
    ∀ token ∈ out.tokens, ∃ x, token.lexeme? text = some x ∧ Spelt token.kind x :=
  (laid_of_readFrom h).spelt_of_mem [] rfl

/-- A text that is scanned is made of gaps and the texts of its tokens, in turns. A token stands for
the text of its span, which is written in the form of its kind. -/
theorem laid_of_scanSource (h : (scanSource {} text).result = .ok out) :
    Laid .origin text out.tokens ∧
      ∀ token ∈ out.tokens, ∃ x, token.lexeme? text = some x ∧ Spelt token.kind x := by
  rw [scanSource_eq, result_scan] at h
  exact ⟨laid_of_readFrom h, spelt_of_read h⟩

/-- A number and a comment on a line, and a quoted text on the next one. -/
def commentedLine : List Char := ['0', 'b', '1', ' ', ';', '\n', '"', 'a', '"']

theorem laid_of_commentedLine :
    ∃ out, (scanSource {} commentedLine).result = .ok out ∧
      out.tokens.map Token.kind = [.number 1, .newline, .text "a"] ∧
      Laid .origin commentedLine out.tokens ∧
      ∀ token ∈ out.tokens, ∃ x, token.lexeme? commentedLine = some x ∧ Spelt token.kind x := by
  have hscan : (scanSource {} commentedLine).result =
      .ok ⟨[⟨.number 1, ⟨⟨1, 1, 0⟩, ⟨1, 4, 3⟩⟩⟩, ⟨.newline, ⟨⟨1, 6, 5⟩, ⟨2, 1, 6⟩⟩⟩,
        ⟨.text "a", ⟨⟨2, 2, 7⟩, ⟨2, 3, 8⟩⟩⟩], 9, "root"⟩ := by
    have start : Reached dialect {} commentedLine [] _ := .start rfl
    rw [scanSource_eq, start.scan_eq, run_of_iterate (n := 8) rfl]
    rfl
  obtain ⟨hlaid, htokens⟩ := laid_of_scanSource hscan
  exact ⟨_, hscan, rfl, hlaid, htokens⟩

end PushdownLexer.Assembly
