import Mathlib.Tactic.Common
import PushdownLexer.Assembly.Dialect
import PushdownLexer.Proofs.Assembly.Number
import PushdownLexer.Proofs.Pattern.Threads

/-!
# The rules of the dialect, read

The patterns of the dialect are literals, runs of characters of a set, and both one after the other.
They are all valid, so the rules of the dialect are those of `Assembly.dialect`.

## Main definitions

* `Assembly.isBlank`, `Assembly.isLetter`: the characters that blanks and words are made of.
* `Assembly.dialect`: the rules of the dialect, with their patterns as expressions.

## Main statements

* `Assembly.rulebook_eq`, `Assembly.scanSource_eq`: these are the rules that a text is scanned with.
-/

namespace PushdownLexer.Assembly

/-! ## Characters -/

/-- White space other than a line feed. -/
def isBlank (c : Char) : Bool := CharClass.isBlank c && c != '\n'

/-- An ASCII letter or the underscore. -/
def isLetter (c : Char) : Bool := c.isAlpha || c == '_'

def blanks : CharSet :=
  ⟨[(0x9, 0x9), (0xB, 0xD), (0x20, 0x20), (0x85, 0x85), (0xA0, 0xA0), (0x1680, 0x1680),
    (0x2000, 0x200A), (0x2028, 0x2029), (0x202F, 0x202F), (0x205F, 0x205F), (0x3000, 0x3000)]⟩

def letters : CharSet := ⟨[(0x41, 0x5A), (0x5F, 0x5F), (0x61, 0x7A)]⟩

def digits : CharSet := ⟨[(0x30, 0x39)]⟩

def hexDigits : CharSet := ⟨[(0x30, 0x39), (0x41, 0x46), (0x61, 0x66)]⟩

def bits : CharSet := ⟨[(0x30, 0x31)]⟩

/-- All characters but one. -/
def allBut (c : Char) : CharSet := (CharSet.single c).complement

theorem eq_iff_toNat {c d : Char} : c = d ↔ c.toNat = d.toNat := Char.toNat_inj.symm

theorem isAlpha_iff {c : Char} :
    c.isAlpha ↔ 0x41 ≤ c.toNat ∧ c.toNat ≤ 0x5A ∨ 0x61 ≤ c.toNat ∧ c.toNat ≤ 0x7A := by
  change (decide (c.val ≥ 'A'.val ∧ c.val ≤ 'Z'.val) || c.isLower) = true ↔ _
  rw [Bool.or_eq_true, isLower_iff]
  simp [UInt32.le_iff_toNat_le]

theorem contains_iff {ranges : List (Nat × Nat)} {c : Char} :
    (CharSet.mk ranges).contains c ↔ ∃ r ∈ ranges, r.1 ≤ c.toNat ∧ c.toNat ≤ r.2 := by
  simp [CharSet.contains, CharSet.containsCode]

theorem contains_blanks : blanks.contains = isBlank := by
  funext c
  rw [Bool.eq_iff_iff, blanks, contains_iff]
  simp [isBlank, CharClass.isBlank, CharClass.blank, contains_iff, eq_iff_toNat]
  omega

theorem contains_letters : letters.contains = isLetter := by
  funext c
  rw [Bool.eq_iff_iff, letters, contains_iff]
  simp [isLetter, isAlpha_iff, eq_iff_toNat]
  omega

theorem contains_digits : digits.contains = Char.isDigit := by
  funext c
  rw [Bool.eq_iff_iff, digits, contains_iff, isDigit_iff]
  simp

theorem contains_hexDigits : hexDigits.contains = isHexDigit := by
  funext c
  rw [Bool.eq_iff_iff, hexDigits, contains_iff]
  simp [isHexDigit, isDigit_iff, le_iff_toNat]
  omega

theorem contains_bits : bits.contains = isBit := by
  funext c
  rw [Bool.eq_iff_iff, bits, contains_iff]
  simp [isBit, eq_iff_toNat]
  omega

/-- The complement of one character reaches up to it and goes on after it. No character is lost
around the surrogates, which are none. -/
theorem contains_allBut (c : Char) : (allBut c).contains = (· != c) := by
  funext d
  have hc : c.toNat.isValidChar := c.valid
  have hd : d.toNat.isValidChar := d.valid
  rw [Bool.eq_iff_iff, bne_iff_ne, Ne, eq_iff_toNat]
  simp only [allBut, CharSet.single, CharSet.ofRange, CharSet.complement, CharSet.complementBelow,
    CharSet.gaps, CharSet.gapsAfter, CharSet.contains, CharSet.containsCode, CharSet.codeBefore,
    CharSet.codeAfter, CharSet.maxCode, List.any_append, Bool.or_eq_true, Nat.isValidChar] at *
  grind

/-! ## Rules -/

/-- A rule whose pattern, written as `source`, is searched only at the cursor. -/
def rule (source : String) (e : Expr) (directive : Directive) (kind? : String → Option Kind) :
    Rule Kind :=
  ⟨source, atCursor e, directive, kind?⟩

/-- The rules for instructions, in the order in which they are tried. -/
def instructionTable : List (Rule Kind) := [
  rule "\\n" (.literal ['\n']) .stay newline?,
  rule "[^\\S\\n]+" (.run blanks) .stay none?,
  rule ";[^\\n]*" (.cat (.literal [';']) (.optionalRun (allBut '\n'))) .stay none?,
  rule "0x[0-9a-fA-F]+" (.cat (.literal ['0', 'x']) (.run hexDigits)) .stay (marked? 16),
  rule "0b[01]+" (.cat (.literal ['0', 'b']) (.run bits)) .stay (marked? 2),
  rule "[0-9]+" (.run digits) .stay decimal?,
  rule "->" (.literal ['-', '>']) .stay arrow?,
  rule "\"" (.literal ['"']) (.enter quotation) none?,
  rule "[a-zA-Z_]+:" (.cat (.run letters) (.literal [':'])) .stay label?,
  rule "@[a-zA-Z_]+" (.cat (.literal ['@']) (.run letters)) .stay macroName?,
  rule "[a-zA-Z_]+" (.run letters) .stay symbol?]

/-- The rules for the inside of a quoted text, in the order in which they are tried. -/
def quotationTable : List (Rule Kind) := [
  rule "[^\"]+" (.run (allBut '"')) .stay text?,
  rule "\"" (.literal ['"']) .leave none?]

/-- The rules of the dialect. -/
def dialect : Rulebook Kind where
  entries := [(quotation, quotationTable), (instructions, instructionTable)]

-- Both sides are closed; the depth is that of reading the longest pattern.
set_option maxRecDepth 10000 in
theorem instructionRules_eq : instructionRules = .ok instructionTable := rfl

set_option maxRecDepth 10000 in
theorem quotationRules_eq : quotationRules = .ok quotationTable := rfl

/-- All patterns of the dialect are valid, and these are its rules. -/
theorem rulebook_eq : rulebook = .ok dialect := by
  rw [rulebook, instructionRules_eq, quotationRules_eq]
  rfl

theorem scanSource_eq (settings : ScanSettings) (text : List Char) :
    scanSource settings text = scan dialect settings text := by
  rw [scanSource, rulebook_eq]

end PushdownLexer.Assembly
