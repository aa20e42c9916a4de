import PushdownLexer.Proofs.Assembly.Reference
import PushdownLexer.Proofs.Scan.Checked

/-!
# No operation of a scan fails

On texts of fewer than `2 ^ 63` bytes and with room for fewer than `2 ^ 63` states, the operations
of a scan succeed as long as the actions of its rules do. Those of the dialect succeed on every text
that their rules match: the only part that one of them cuts off is the mark of a base, and its two
characters have one byte each.

## Main definitions

* `Assembly.perform`: the actions of the dialect, which fail where a mark cannot be cut off.

## Main statements

* `Assembly.accepts_perform`: they do not.
* `scan_succeeds`: the operations of a scan succeed.
-/

namespace PushdownLexer

namespace Assembly

open Checked

variable {source : String} {e : Expr} {directive : Directive} {kind? : String → Option Kind}
  {set : CharSet} {p : Char → Bool} {base : Nat} {mark : Char} {r : Rule Kind}

/-- A number with the mark of its base in front, unless two bytes cannot be cut off. -/
def performMarked (base : Nat) (matched : String) : Option (Option Kind) :=
  (dropBytes? 2 matched.toList).map fun digits => some (.number (parseDigits digits base))

/-- The actions of the dialect. -/
def perform (r : Rule Kind) (matched : String) : Option (Option Kind) :=
  if r.source = "0x[0-9a-fA-F]+" then performMarked 16 matched
  else if r.source = "0b[01]+" then performMarked 2 matched
  else some (r.kind? matched)

theorem accepts_of_ne (hhex : r.source ≠ "0x[0-9a-fA-F]+") (hbin : r.source ≠ "0b[01]+") :
    Accepts perform r := by
  intro left skipped count _
  rw [perform, if_neg hhex, if_neg hbin]

/-- A match of a rule for numbers with a base begins with the mark of the base. -/
theorem performMarked_eq (hset : set.contains = p) (hp : ∀ {d}, p d → (digitValue? base d).isSome)
    (hmark : byteLength ['0', mark] = 2) {left : List Char} {skipped count : Nat}
    (hfind : (atCursor (.cat (.literal ['0', mark]) (.run set))).find? left =
      some (skipped, count)) :
    performMarked base (String.ofList ((left.drop skipped).take count)) =
      some (marked? base (String.ofList ((left.drop skipped).take count))) := by
  rw [find?_literal_run hset] at hfind
  split at hfind
  · rename_i hbegin
    cases hfind
    obtain ⟨digits, hdigits, -⟩ := Option.map_eq_some_iff.1 (marked?_take hp hmark hbegin.1)
    simp only [performMarked, marked?, List.drop_zero, List.length_cons, List.length_nil,
      Nat.zero_add, Nat.reduceAdd, hdigits, Option.map_some]
  · cases hfind

/-- The actions of the dialect refuse no text that their rules match. -/
theorem accepts_perform (mode : Mode) : ∀ r ∈ mode.rules, Accepts perform r := by
  cases mode with
  | instructions =>
    simp only [Mode.rules, instructionTable, List.forall_mem_cons]
    refine ⟨?_, ?_, ?_, fun _ _ _ hfind => ?hex, fun _ _ _ hfind => ?binary, ?_, ?_, ?_, ?_, ?_, ?_,
      List.forall_mem_nil _⟩
    case hex => exact performMarked_eq contains_hexDigits isSome_of_isHexDigit rfl hfind
    case binary => exact performMarked_eq contains_bits isSome_of_isBit rfl hfind
    all_goals exact accepts_of_ne (by decide) (by decide)
  | quotation =>
    simp only [Mode.rules, quotationTable, List.forall_mem_cons]
    refine ⟨?_, ?_, List.forall_mem_nil _⟩
    all_goals exact accepts_of_ne (by decide) (by decide)

theorem accepts_of_get? {state : String} {rules : List (Rule Kind)}
    (h : dialect.get? state = some rules) : ∀ r ∈ rules, Accepts perform r := by
  obtain ⟨mode, -, rfl⟩ := get?_eq_some_iff.1 h
  exact accepts_perform mode

end Assembly

open Assembly

/-- On a text of fewer than `2 ^ 63` bytes and with room for fewer than `2 ^ 63` states, no operation
of a scan fails, as long as its actions refuse no text that their rules match. So no part is cut out
of the text with an end outside of it or inside of a character, and nothing is counted beyond the
largest word: lines and columns are bounded by the offset at every place that is passed, and the
stall count by twice the room for states. The ranges of the tokens that a scan gives have a length,
and their texts can be cut out. The actions of the dialect are such actions. -/
theorem scan_succeeds {κ : Type} (act : Rule κ → String → Option (Option κ)) (book : Rulebook κ)
    (settings : ScanSettings) (text : List Char) (htext : byteLength text < 2 ^ 63)
    (hdepth : settings.maxDepth < 2 ^ 63)
    (hbook : ∀ state rules, book.get? state = some rules → ∀ r ∈ rules, Checked.Accepts act r) :
    (∃ n, Checked.scan act book settings n text = some (scan book settings text)) ∧
      (∀ moves m, Reached book settings text moves m →
        (∀ passed left, m.cursor.rest = passed ++ left →
          (m.cursor.place.afterAll passed).fits ∧
            (m.cursor.place.afterAll passed).line + (m.cursor.place.afterAll passed).column ≤
              (m.cursor.place.afterAll passed).offset + 2) ∧
        m.stalled ≤ 2 * max 1 settings.maxDepth) ∧
      (∀ out, (scan book settings text).result = .ok out → ∀ token ∈ out.tokens,
        token.span.length? = some token.span.length ∧
          ∃ lexeme, token.lexeme? text = some lexeme ∧ byteLength lexeme = token.span.length) ∧
      (∀ state rules, dialect.get? state = some rules → ∀ r ∈ rules, Checked.Accepts perform r) ∧
      ∃ n, Checked.scan perform dialect settings n text = some (scanSource settings text) := by
  have hbytes : byteLength text + 2 ≤ maxWord := by
    rw [maxWord]
    omega
  have hstalls : settings.mostStalls < maxWord := by
    rw [ScanSettings.mostStalls, maxWord]
    omega
  refine ⟨Checked.exists_scan_eq hbook hbytes hstalls, ?_, ?_, ?_, ?_⟩
  · intro moves m hm
    exact ⟨fun passed left hrest => hm.consistent.cursor.place_le hrest hbytes, hm.stalled_le⟩
  · exact fun out hout token htoken => lexeme?_of_mem hout htoken
  · exact fun state rules => accepts_of_get?
  · rw [scanSource_eq]
    exact Checked.exists_scan_eq (fun _ _ => accepts_of_get?) hbytes hstalls

/-- A number in front of a comment with a character of two bytes. -/
def wideComment : List Char := ['0', 'x', 'F', ';', 'é']

/-- All operations succeed, and the text of the number can be cut out. -/
theorem scan_of_wideComment :
    byteLength wideComment < 2 ^ 63 ∧
      (∃ n, Checked.scan perform dialect {} n wideComment = some (scan dialect {} wideComment)) ∧
      (scan dialect {} wideComment).result =
        .ok ⟨[⟨.number 15, ⟨⟨1, 1, 0⟩, ⟨1, 4, 3⟩⟩⟩], 6, "root"⟩ ∧
      ∃ lexeme, Token.lexeme? ⟨Kind.number 15, ⟨⟨1, 1, 0⟩, ⟨1, 4, 3⟩⟩⟩ wideComment =
        some lexeme ∧ byteLength lexeme = 3 := by
  have hbytes : byteLength wideComment < 2 ^ 63 := by decide
  have hscan : (scan dialect {} wideComment).result =
      .ok ⟨[⟨.number 15, ⟨⟨1, 1, 0⟩, ⟨1, 4, 3⟩⟩⟩], 6, "root"⟩ := by
    have hend : readFrom .instructions ⟨1, 6, 6⟩ [] = .ok ⟨[], 6, "root"⟩ := readFrom_of_eq_none rfl
    have hcomment : readFrom .instructions ⟨1, 4, 3⟩ [';', 'é'] = .ok ⟨[], 6, "root"⟩ :=
      (readFrom_of_eq_some (l := ⟨2, none, .stay⟩) (by decide)).trans (congrArg _ hend)
    rw [result_scan]
    exact (readFrom_of_eq_some (l := ⟨3, some (.number 15), .stay⟩) (by decide)).trans
      (congrArg _ hcomment)
  obtain ⟨hchecked, -, htokens, -⟩ := scan_succeeds perform dialect {} wideComment hbytes
    (by decide) fun _ _ => accepts_of_get?
  exact ⟨hbytes, hchecked, hscan, (htokens _ hscan _ (List.mem_singleton_self _)).2⟩

end PushdownLexer
