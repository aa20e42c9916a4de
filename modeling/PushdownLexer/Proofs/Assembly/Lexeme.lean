import PushdownLexer.Proofs.Assembly.Number
import PushdownLexer.Proofs.Assembly.Table
import PushdownLexer.Proofs.Scan.Selection

/-!
# The lexemes of the dialect

Which rule of the dialect applies, and how far it reaches, can be told from the characters at the
cursor without any pattern: by what a text begins with, and by its longest beginning of characters
of one kind.

## Main definitions

* `Assembly.Mode`: the two states of the dialect.
* `Assembly.Lexeme`: a beginning of a text, with what it means.
* `Assembly.front?`: the lexeme that a text begins with.

## Main statements

* `Assembly.select?_eq_front?`: the selected match is the one of the lexeme at the cursor.
* `Assembly.begins_of_front?`: no lexeme is empty, and only the double quote turns to another state.
-/

namespace PushdownLexer.Assembly

/-- The states of the dialect. -/
inductive Mode where
  | instructions
  | quotation
  deriving DecidableEq, Repr

namespace Mode

/-- The name of a state. -/
def state : Mode → String
  | instructions => "root"
  | quotation => "string"

/-- The rules of a state. -/
def rules : Mode → List (Rule Kind)
  | instructions => instructionTable
  | quotation => quotationTable

/-- What the double quote does in a state. -/
def turn : Mode → Directive
  | instructions => .enter "string"
  | quotation => .leave

/-- The state that a directive leads to. -/
def after : Mode → Directive → Mode
  | mode, .stay => mode
  | _, .leave => instructions
  | _, .enter _ => quotation

end Mode

/-- A beginning of a text, with what it means. -/
structure Lexeme where
  /-- The number of its characters. -/
  length : Nat
  /-- The kind of its token, if it makes one. -/
  kind? : Option Kind
  directive : Directive
  deriving DecidableEq, Repr

/-- The kind of a number, which is cut down to the largest one. -/
def number (base : Nat) (run : List Char) : Kind := .number (min (numeral base run) maxNumber)

/-- The lexeme that instructions begin with. -/
def instruction? (text : List Char) : Option Lexeme :=
  let blankRun := text.takeWhile isBlank
  let hexRun := (text.drop 2).takeWhile isHexDigit
  let bitRun := (text.drop 2).takeWhile isBit
  let digitRun := text.takeWhile Char.isDigit
  let word := text.takeWhile isLetter
  let name := (text.drop 1).takeWhile isLetter
  if ['\n'] <+: text then some ⟨1, some .newline, .stay⟩
  else if blankRun ≠ [] then some ⟨blankRun.length, none, .stay⟩
  else if [';'] <+: text then
    some ⟨1 + ((text.drop 1).takeWhile (· != '\n')).length, none, .stay⟩
  else if ['0', 'x'] <+: text ∧ hexRun ≠ [] then
    some ⟨2 + hexRun.length, some (number 16 hexRun), .stay⟩
  else if ['0', 'b'] <+: text ∧ bitRun ≠ [] then
    some ⟨2 + bitRun.length, some (number 2 bitRun), .stay⟩
  else if digitRun ≠ [] then some ⟨digitRun.length, some (number 10 digitRun), .stay⟩
  else if ['-', '>'] <+: text then some ⟨2, some .arrow, .stay⟩
  else if ['"'] <+: text then some ⟨1, none, .enter "string"⟩
  else if word ≠ [] then
    if [':'] <+: text.dropWhile isLetter then
      some ⟨word.length + 1, some (.label (String.ofList word)), .stay⟩
    else some ⟨word.length, some (.symbol (String.ofList word)), .stay⟩
  else if ['@'] <+: text ∧ name ≠ [] then
    some ⟨1 + name.length, some (.macroName (String.ofList name)), .stay⟩
  else none

/-- The lexeme that the inside of a quoted text begins with. -/
def quoted? (text : List Char) : Option Lexeme :=
  let body := text.takeWhile (· != '"')
  if body ≠ [] then some ⟨body.length, some (.text (String.ofList body)), .stay⟩
  else if ['"'] <+: text then some ⟨1, none, .leave⟩
  else none

/-- The lexeme that a text begins with. -/
def front? : Mode → List Char → Option Lexeme
  | .instructions, text => instruction? text
  | .quotation, text => quoted? text

namespace Lexeme

/-- Where the lexeme ends that `text`, which starts at `place`, begins with. -/
def stop (l : Lexeme) (place : Position) (text : List Char) : Position :=
  place.afterAll (text.take l.length)

/-- The token of a lexeme, if it makes one. -/
def token? (l : Lexeme) (place : Position) (text : List Char) : Option (Token Kind) :=
  l.kind?.map (⟨·, ⟨place, l.stop place text⟩⟩)

/-- The match of a lexeme at a cursor. -/
def matchAt (l : Lexeme) (c : Cursor) : Match Kind :=
  ⟨⟨c.text, c.rest.drop l.length, l.stop c.place c.rest⟩, l.token? c.place c.rest, l.directive,
    byteLength (c.rest.take l.length)⟩

end Lexeme

variable {c : Cursor} {text : List Char} {l : Lexeme} {mode : Mode}

/-! ## Beginnings of texts -/

theorem take_takeWhile (p : Char → Bool) (text : List Char) :
    text.take (text.takeWhile p).length = text.takeWhile p :=
  (List.prefix_iff_eq_take.1 (List.takeWhile_prefix p)).symm

theorem drop_takeWhile (p : Char → Bool) (text : List Char) :
    text.drop (text.takeWhile p).length = text.dropWhile p := by
  calc text.drop (text.takeWhile p).length
      = (text.takeWhile p ++ text.dropWhile p).drop (text.takeWhile p).length := by
        rw [List.takeWhile_append_dropWhile]
    _ = text.dropWhile p := List.drop_left

/-- A text that begins with `cs` begins with `cs` and a run after it. -/
theorem take_mark_run {cs : List Char} (h : cs <+: text) (p : Char → Bool) :
    text.take (cs.length + ((text.drop cs.length).takeWhile p).length) =
      cs ++ (text.drop cs.length).takeWhile p := by
  obtain ⟨rest, rfl⟩ := h
  rw [List.take_length_add_append, List.drop_left, take_takeWhile]

/-- A text whose run is followed by `m` begins with the run and `m`. -/
theorem take_run_mark {p : Char → Bool} {m : Char} (h : [m] <+: text.dropWhile p) :
    text.take ((text.takeWhile p).length + 1) = text.takeWhile p ++ [m] := by
  obtain ⟨rest, hrest⟩ := h
  have htext := List.takeWhile_append_dropWhile (p := p) (l := text)
  rw [← hrest] at htext
  nth_rewrite 2 [← htext]
  simp [List.take_length_add_append]

/-! ## Kinds of tokens -/

section Kinds

variable {base : Nat} {p : Char → Bool} (hp : ∀ {d}, p d → (digitValue? base d).isSome)

include hp in
theorem parseDigits_takeWhile :
    .number (parseDigits (text.takeWhile p) base) = number base (text.takeWhile p) := by
  rw [number, parseDigits_eq fun d hd => hp (List.all_eq_true.1 List.all_takeWhile d hd)]

include hp in
/-- The mark of a base is passed over. -/
theorem marked?_take {m : Char} (hlength : byteLength ['0', m] = 2) (h : ['0', m] <+: text) :
    marked? base (String.ofList (text.take (2 + ((text.drop 2).takeWhile p).length))) =
      some (number base ((text.drop 2).takeWhile p)) := by
  have htake := take_mark_run h p
  simp only [List.length_cons, List.length_nil, Nat.reduceAdd] at htake
  rw [htake, marked?, dropBytes?, String.toList_ofList, ← hlength, splitAtByte?_append, hlength,
    ← parseDigits_takeWhile hp]
  rfl

theorem decimal?_takeWhile :
    decimal? (String.ofList (text.takeWhile Char.isDigit)) =
      some (number 10 (text.takeWhile Char.isDigit)) := by
  rw [decimal?, String.toList_ofList, ← parseDigits_takeWhile isSome_of_isDigit]

theorem label?_take (h : [':'] <+: text.dropWhile isLetter) :
    label? (String.ofList (text.take ((text.takeWhile isLetter).length + 1))) =
      some (.label (String.ofList (text.takeWhile isLetter))) := by
  simp [take_run_mark h, label?]

theorem macroName?_take (h : ['@'] <+: text) (p : Char → Bool) :
    macroName? (String.ofList (text.take (1 + ((text.drop 1).takeWhile p).length))) =
      some (.macroName (String.ofList ((text.drop 1).takeWhile p))) := by
  have htake := take_mark_run h p
  rw [List.length_singleton] at htake
  rw [htake, macroName?, String.toList_ofList]
  rfl

end Kinds

/-! ## Selection -/

/-- The match of the first rule whose pattern is found. -/
def firstMatch? (rules : List (Rule Kind)) (c : Cursor) : Option (Match Kind) :=
  rules.findSome? fun r => (r.pattern.find? c.rest).map fun p => r.matchAt c p.1 p.2

theorem select?_map_snd (rules : List (Rule Kind)) (c : Cursor) :
    (select? rules c).map (Option.map Prod.snd) = .ok (firstMatch? rules c) := by
  rw [select?_eq, firstMatch?]
  simp [Except.map, List.map_findSome?, Function.comp_def]

/-- The first rule is compared with the first case of a description, and the other rules with the
other cases. -/
theorem firstMatch?_cons {source : String} {e : Expr} {d : Directive} {kind? : String → Option Kind}
    {rules : List (Rule Kind)} {P : Prop} [Decidable P] {n : Nat} {k : Option Kind}
    {others : Option Lexeme}
    (hfind : (atCursor e).find? c.rest = if P then some (0, n) else none)
    (hkind : P → kind? (String.ofList (c.rest.take n)) = k)
    (hothers : ¬ P → firstMatch? rules c = others.map (·.matchAt c)) :
    firstMatch? (rule source e d kind? :: rules) c =
      (if P then some ⟨n, k, d⟩ else others).map (·.matchAt c) := by
  simp only [firstMatch?, List.findSome?_cons, rule, hfind]
  by_cases hP : P
  · simp [hP, ← hkind hP, Rule.matchAt, Lexeme.matchAt, Lexeme.stop, Lexeme.token?]
  · simp only [hP, if_false, Option.map_none]
    exact hothers hP

theorem firstMatch?_quotation (c : Cursor) :
    firstMatch? quotationTable c = (quoted? c.rest).map (·.matchAt c) := by
  refine firstMatch?_cons (find?_run (contains_allBut _)) (fun _ => ?_) fun _ => ?_
  · rw [take_takeWhile, text?]
  · exact firstMatch?_cons find?_literal (fun _ => rfl) fun _ => rfl

theorem firstMatch?_instructions (c : Cursor) :
    firstMatch? instructionTable c = (instruction? c.rest).map (·.matchAt c) := by
  refine firstMatch?_cons find?_literal (fun _ => rfl) fun _ => ?_
  refine firstMatch?_cons (find?_run contains_blanks) (fun _ => rfl) fun _ => ?_
  refine firstMatch?_cons (find?_literal_optionalRun (contains_allBut _) rfl) (fun _ => rfl)
    fun _ => ?_
  refine firstMatch?_cons (find?_literal_run contains_hexDigits)
    (fun h => marked?_take isSome_of_isHexDigit rfl h.1) fun _ => ?_
  refine firstMatch?_cons (find?_literal_run contains_bits)
    (fun h => marked?_take isSome_of_isBit rfl h.1) fun _ => ?_
  refine firstMatch?_cons (find?_run contains_digits) (fun _ => ?_) fun _ => ?_
  · rw [take_takeWhile, decimal?_takeWhile]
  refine firstMatch?_cons find?_literal (fun _ => rfl) fun _ => ?_
  refine firstMatch?_cons find?_literal (fun _ => rfl) fun _ => ?_
  have hword : ['@'] <+: c.rest → c.rest.takeWhile isLetter = [] := by
    rintro ⟨rest, hrest⟩
    rw [← hrest]
    rfl
  -- The rule for macros stands between those for labels and bare words, and applies to no word.
  have hsymbol : firstMatch? [rule "[a-zA-Z_]+" (.run letters) .stay symbol?] c =
      (if c.rest.takeWhile isLetter ≠ [] then
        some (⟨(c.rest.takeWhile isLetter).length,
          some (.symbol (String.ofList (c.rest.takeWhile isLetter))), .stay⟩ : Lexeme)
      else none).map (·.matchAt c) :=
    firstMatch?_cons (find?_run contains_letters) (fun _ => by rw [take_takeWhile, symbol?])
      fun _ => rfl
  refine (firstMatch?_cons (find?_run_literal contains_letters (by decide))
    (fun h => label?_take h.2) fun _ => firstMatch?_cons (find?_literal_run contains_letters)
    (fun h => macroName?_take h.1 _) fun _ => hsymbol).trans ?_
  congr 1
  split_ifs <;> simp_all

theorem select?_eq_front? (mode : Mode) (c : Cursor) :
    (select? mode.rules c).map (Option.map Prod.snd) =
      .ok ((front? mode c.rest).map (·.matchAt c)) := by
  rw [select?_map_snd]
  cases mode with
  | instructions => exact congrArg _ (firstMatch?_instructions c)
  | quotation => exact congrArg _ (firstMatch?_quotation c)

/-! ## Lexemes -/

theorem front?_nil (mode : Mode) : front? mode [] = none := by cases mode <;> rfl

/-- The double quote turns to the other state. -/
theorem front?_quote (mode : Mode) (h : ['"'] <+: text) :
    front? mode text = some ⟨1, none, mode.turn⟩ := by
  obtain ⟨rest, rfl⟩ := h
  cases mode <;> rfl

/-- What holds of the lexeme that a text begins with. -/
structure Lexeme.Begins (text : List Char) (l : Lexeme) : Prop where
  /-- No lexeme is empty. -/
  pos : 0 < l.length
  le : l.length ≤ text.length
  /-- Only the double quote turns to another state. -/
  stay : ¬ ['"'] <+: text → l.directive = .stay

theorem length_takeWhile_le (p : Char → Bool) (text : List Char) :
    (text.takeWhile p).length ≤ text.length := (List.takeWhile_prefix p).length_le

theorem length_takeWhile_add (p : Char → Bool) (text : List Char) :
    (text.takeWhile p).length + (text.dropWhile p).length = text.length := by
  rw [← List.length_append, List.takeWhile_append_dropWhile]

theorem begins_of_front? (h : front? mode text = some l) : l.Begins text := by
  revert h
  cases mode with
  | instructions =>
    change instruction? text = some l → _
    fun_cases instruction? text <;> rintro ⟨⟩ <;> constructor <;>
      grind [List.length_pos_iff, List.IsPrefix.length_le, length_takeWhile_le,
        length_takeWhile_add]
  | quotation =>
    change quoted? text = some l → _
    fun_cases quoted? text <;> rintro ⟨⟩ <;> constructor <;>
      grind [List.length_pos_iff, List.IsPrefix.length_le, length_takeWhile_le]

end PushdownLexer.Assembly
