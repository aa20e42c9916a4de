import PushdownLexer.Pattern.Bracket
import PushdownLexer.Pattern.Expr

/-!
# What has been read of a pattern

A pattern is read one character at a time. What is open (groups, brackets, a half-read escape) is
kept in the reader.

## Main definitions

* `Piece`: a part of a sequence.
* `Mode`: what the next character belongs to.
* `Reader`: what has been read so far.
* `Reader.pushAtom`, `Reader.openGroup`, `Reader.closeGroup`, `Reader.openBracket`,
  `Reader.closeBracket`, `Reader.closeRepeat`: what can become of the parts.
-/

namespace PushdownLexer

/-- A part of a sequence: its expression, how deeply it is nested, and whether it can be
repeated. -/
structure Piece where
  expr : Expr
  depth : Nat := 0
  operand : Bool := true
  deriving DecidableEq, Repr, Inhabited

/-- Parts of a sequence, the last one first, as one part. -/
def Piece.sequence (pieces : List Piece) : Piece :=
  match pieces with
  | [piece] => piece
  | _ =>
    ⟨Expr.sequence (pieces.reverse.map (·.expr)),
      if pieces.isEmpty then 0 else (pieces.map (·.depth)).foldl max 0 + 1, true⟩

/-- Alternatives, the last one first, as one part. -/
def Piece.alternation (pieces : List Piece) : Piece :=
  match pieces with
  | [piece] => piece
  | _ =>
    ⟨Expr.alternation (pieces.reverse.map (·.expr)), (pieces.map (·.depth)).foldl max 0 + 1, true⟩

/-- An open group: the flags to go back to, its number if it has one, and what stands before it. -/
structure OpenGroup where
  flags : Flags
  index : Option Nat
  pieces : List Piece
  branches : List Piece
  deriving DecidableEq, Repr, Inhabited

/-- What an escape or a plain character stands for. A byte is a character written by two
hexadecimal digits. -/
inductive Atom where
  | char (c : Char) (byte : Bool)
  | set (s : CharSet)
  | look (l : Look)
  deriving DecidableEq, Repr, Inhabited

/-- Where an escape stands: in a sequence, in brackets, or at the end of a range in brackets. -/
inductive Site where
  | sequence
  | bracket
  | rangeEnd (low : Nat)
  deriving DecidableEq, Repr, Inhabited

/-- What the next character belongs to. -/
inductive Mode where
  /-- The next part of a sequence. -/
  | sequence
  /-- After `(`. -/
  | opened
  /-- After `(?`. -/
  | openedMark
  /-- After `(?P`. -/
  | openedP
  /-- After `(?<`. -/
  | openedAngle
  /-- A group name, the last character first. -/
  | groupName (read : List Char)
  /-- Flags after `(?`: the ones read, whether they are being turned off, and the flags they
  make. -/
  | flags (read : List Char) (off : Bool) (made : Flags)
  /-- After a repetition operator; `?` right here makes it prefer fewer rounds. -/
  | repeated (least : Nat) (most : Option Nat)
  /-- After the closing brace of a count. -/
  | counted (least : Nat) (most : Option Nat)
  /-- The first number of a count, and whether a blank has followed it. -/
  | countLeast (value : Option Nat) (spaced : Bool)
  /-- After the comma of a count. -/
  | countComma (least : Nat)
  /-- The second number of a count. -/
  | countMost (least : Nat) (value : Option Nat) (spaced : Bool)
  /-- After a backslash. -/
  | escape (site : Site)
  /-- After `\x`, `\u` or `\U`, which take so many digits or braces. -/
  | hex (site : Site) (digits : Nat)
  /-- Hexadecimal digits, of which `left` are missing. -/
  | hexDigits (site : Site) (digits left value : Nat)
  /-- Hexadecimal digits in braces. -/
  | hexBrace (site : Site) (value : Option Nat)
  /-- After `\p` or `\P`. -/
  | property (site : Site) (negated : Bool)
  /-- A property in braces, the last character first. -/
  | propertyName (site : Site) (negated : Bool) (read : List Char)
  /-- After `\b`. -/
  | wordEdge
  /-- After `\b` and an opening brace. -/
  | wordEdgeBrace
  /-- The name of a word edge in braces, the last character first. -/
  | wordEdgeName (read : List Char)
  /-- After `[`. -/
  | bracketOpened
  /-- At the front of a bracket, where `-` and, before it, `]` are plain. -/
  | bracketFront (hyphen : Bool)
  /-- The next item of a bracket. -/
  | bracket
  /-- After a character that is an operation if it is doubled. -/
  | bracketPair (c : Char)
  /-- After an item of a bracket, which `-` may make the start of a range. -/
  | bracketItem (atom : Atom)
  /-- After an item and `-`, and whether a blank has followed. -/
  | bracketHyphen (atom : Atom) (spaced : Bool)
  /-- After an item, `-` and the beginning of a comment, and whether the line has ended. -/
  | bracketRemark (atom : Atom) (ended : Bool)
  /-- The end of a range that begins at `low`. -/
  | bracketRange (low : Nat)
  /-- The beginning of a form such as `[:alpha:]` in brackets. -/
  | bracketForm (read : List Char)
  deriving DecidableEq, Repr, Inhabited

/-- Whether blanks and comments are passed over in verbose patterns. -/
def Mode.skipsBlanks : Mode → Bool
  | openedMark | openedP | openedAngle | groupName _ | flags .. | repeated .. | escape _ | wordEdge
  | bracketPair _ | bracketRemark .. | bracketForm _ => false
  | _ => true

/-- A mode once a blank has been passed over. -/
def Mode.afterBlank : Mode → Mode
  | bracketHyphen atom _ => bracketHyphen atom true
  | mode => mode

/-- What has been read of a pattern. Lists have their last element first. -/
structure Reader where
  flags : Flags := {}
  /-- The open groups. -/
  groups : List OpenGroup := []
  /-- The sequence being read. -/
  pieces : List Piece := []
  /-- The alternatives before that sequence. -/
  branches : List Piece := []
  /-- The open brackets. -/
  brackets : List Bracket := []
  /-- The names of groups. -/
  names : List (List Char) := []
  /-- The number of groups that capture. -/
  captures : Nat := 0
  /-- Whether a comment is being read. -/
  comment : Bool := false
  mode : Mode := .sequence
  deriving DecidableEq, Repr, Inhabited

namespace Reader

/-- How deeply a pattern may be nested. -/
def maxDepth : Nat := 250

/-- Go on in another mode. -/
def goto (r : Reader) (mode : Mode) : Reader := { r with mode }

/-- Begin a comment. The first character in it that is no blank decides whether the hyphen before it
makes a range. -/
def startComment (r : Reader) : Reader :=
  match r.mode with
  | .bracketHyphen atom _ => r.goto (.bracketRemark atom false)
  | _ => { r with comment := true }

/-- Add a part to the sequence. -/
def push (r : Reader) (piece : Piece) : Reader :=
  { r with pieces := piece :: r.pieces, mode := .sequence }

/-- The expression of a plain character. -/
def charExpr (flags : Flags) (c : Char) : Expr := Expr.ofSet (flags.fold (CharSet.single c))

/-- Add what an escape or a character stands for to the sequence. -/
def pushAtom (r : Reader) : Atom → Except PatternError Reader
  | .char c byte =>
    if byte && !r.flags.unicode && 0x7F < c.toNat then .error .invalidUtf8
    else .ok (r.push ⟨charExpr r.flags c, 0, true⟩)
  | .set s => .ok (r.push ⟨Expr.ofSet s, 0, true⟩)
  | .look l => .ok (r.push ⟨.look l, 0, true⟩)

/-- The code of a character in brackets; without Unicode support only ASCII characters have one. -/
def bracketCode (flags : Flags) (c : Char) (byte : Bool) : Except PatternError Nat :=
  if flags.unicode || c.toNat < 0x80 then .ok c.toNat
  else .error (if byte then .invalidUtf8 else .needsUnicode)

/-- The set of an item in brackets. -/
def itemSet (flags : Flags) : Atom → Except PatternError CharSet
  | .char c byte => do
    let code ← bracketCode flags c byte
    return CharSet.ofRange code code
  | .set s => .ok s
  | .look _ => .error .notAllowedInBracket

/-- Change the innermost bracket. -/
def mapBracket (r : Reader) (f : Bracket → Bracket) : Reader :=
  match r.brackets with
  | [] => r
  | b :: rest => { r with brackets := f b :: rest }

/-- Add an item to the innermost bracket. -/
def addItem (r : Reader) (atom : Atom) : Except PatternError Reader := do
  let s ← itemSet r.flags atom
  return (r.mapBracket (·.addItem s 0)).goto .bracket

/-- Hand over what an escape stands for. -/
def deliver (r : Reader) (site : Site) (atom : Atom) : Except PatternError Reader :=
  match site, atom with
  | .sequence, atom => r.pushAtom atom
  | .bracket, .look _ => .error .notAllowedInBracket
  | .bracket, atom => .ok (r.goto (.bracketItem atom))
  | .rangeEnd low, .char c byte => do
    let high ← bracketCode r.flags c byte
    if high < low then .error .badRange
    else return (r.mapBracket (·.addItem (CharSet.ofRange low high) 0)).goto .bracket
  | .rangeEnd _, _ => .error .badRange

/-- Open a bracket. -/
def openBracket (r : Reader) : Reader :=
  { r with brackets := {} :: r.brackets, mode := .bracketOpened }

/-- Close the innermost bracket. -/
def closeBracket (r : Reader) : Except PatternError Reader :=
  match r.brackets with
  | [] => .error .unclosedBracket
  | b :: outer => do
    let (s, depth) ← b.close r.flags
    let r := { r with brackets := outer }
    if outer.isEmpty then return r.push ⟨Expr.ofSet s, depth, true⟩
    else return (r.mapBracket (·.addItem s depth)).goto .bracket

/-- Open a group with the flags `flags` inside. -/
def openGroup (r : Reader) (index : Option Nat) (flags : Flags) : Reader :=
  { r with
    flags
    groups := ⟨r.flags, index, r.pieces, r.branches⟩ :: r.groups
    pieces := []
    branches := []
    mode := .sequence }

/-- Open a group that captures. -/
def openCapture (r : Reader) : Reader :=
  { r.openGroup (some (r.captures + 1)) r.flags with captures := r.captures + 1 }

/-- All that was read since the innermost open group began. -/
def body (r : Reader) : Piece := Piece.alternation (Piece.sequence r.pieces :: r.branches)

/-- Close the innermost group. -/
def closeGroup (r : Reader) : Except PatternError Reader :=
  match r.groups with
  | [] => .error .unopenedGroup
  | g :: outer =>
    let body := r.body
    let expr := match g.index with
      | some i => .group i body.expr
      | none => body.expr
    .ok { r with
      flags := g.flags
      groups := outer
      pieces := ⟨expr, body.depth + 1, true⟩ :: g.pieces
      branches := g.branches
      mode := .sequence }

/-- End an alternative. -/
def closeBranch (r : Reader) : Reader :=
  { r with branches := Piece.sequence r.pieces :: r.branches, pieces := [] }

/-- Begin a repetition of the last part. -/
def startRepeat (r : Reader) (mode : Mode) : Except PatternError Reader :=
  match r.pieces with
  | piece :: _ => if piece.operand then .ok (r.goto mode) else .error .missingOperand
  | [] => .error .missingOperand

/-- Repeat the last part. -/
def closeRepeat (r : Reader) (least : Nat) (most : Option Nat) (greedy : Bool) : Reader :=
  match r.pieces with
  | piece :: rest =>
    let expr := Expr.repetition piece.expr least most (greedy != r.flags.swapGreed)
    { r with pieces := ⟨expr, piece.depth + 1, true⟩ :: rest, mode := .sequence }
  | [] => r.goto .sequence

end Reader

end PushdownLexer
