import Mathlib.Data.List.Basic
import PushdownLexer.Proofs.Pattern.Closing
import PushdownLexer.Proofs.Pattern.Reading
import PushdownLexer.Proofs.Pattern.Threads
import PushdownLexer.Scan.Rule

/-!
# Putting a pattern into a group

A rule searches its pattern in a group, after the condition that the text starts there. A pattern
that can be read on its own is read in the group just as it is without: the readers differ by the
group that is open at the outermost level. So the expression is the one of the pattern, after the
condition, and the search is the search for the pattern at the start of the text.

## Main definitions

* `Reader.inGroup`, `Reader.Parts.within`: the reader in the group, and the parts inside of it.
* `Reader.Reads`, `Piece.Fits`: a text is read to its end, and the whole is within the limits.
* `Reader.Plain`: all parts are simplified.

## Main statements

* `Reader.expr_anchor`: the expression of a pattern in the group.
* `Rule.find?_ofPattern`: a rule finds what its pattern finds at the start.
-/

namespace PushdownLexer

/-- A whole pattern is within the limits. -/
def Piece.Fits (whole : Piece) : Prop :=
  whole.depth ≤ Reader.maxDepth ∧ whole.expr.hasRoom = true

namespace Reader

variable {r s : Reader} {p : List Char}

/-! ## Reading inside of the group -/

/-- The condition that the text starts. -/
def caret : Piece := ⟨.look .textStart, 0, true⟩

/-- The group that a rule puts its pattern into. -/
def anchorGroup : OpenGroup := ⟨{}, none, [caret], []⟩

/-- The reader once the group has been opened. -/
def inGroup : Reader := ({} : Reader).withParts ⟨[anchorGroup], [], []⟩

/-- The same parts inside of the group. -/
def Parts.within (k : Parts) : Parts := { k with groups := k.groups ++ [anchorGroup] }

theorem respects_within : Respects fun j k => k = j.within where
  head? := by
    rintro j _ rfl
    rfl
  push := by
    rintro r _ piece rfl -
    rfl
  openGroup := by
    rintro r _ index flags rfl
    rfl
  closeGroup := by
    rintro r _ rfl
    cases hgroups : r.groups with
    | nil =>
      have hfail : r.closeGroup = .error .unopenedGroup := by simp [closeGroup, hgroups]
      rw [hfail]
      exact .unopened _
    | cons g outer =>
      have hwithin : (r.withParts r.parts.within).groups = g :: (outer ++ [anchorGroup]) := by
        simp only [withParts, parts, Parts.within, hgroups, List.cons_append]
      simp only [closeGroup, hgroups, hwithin]
      exact .ok rfl rfl
  closeBranch := by
    rintro r _ rfl
    rfl
  closeRepeat := by
    rintro r _ least most greedy rfl
    cases hpieces : r.pieces <;> simp [Parts.within, closeRepeat, withParts, parts, goto, hpieces]

theorem feedAll_append (s t : List Char) :
    r.feedAll (s ++ t) = (do (← r.feedAll s).feedAll t) :=
  List.foldlM_append

theorem feedAll_singleton (c : Char) : r.feedAll [c] = r.step c := by
  simp [feedAll]

theorem feedAll_anchor (p : List Char) :
    feedAll {} (Rule.anchor p) = inGroup.feedAll (p ++ [')']) := by
  have hopen : feedAll {} "^(?:".toList = .ok inGroup := rfl
  change feedAll {} ("^(?:".toList ++ p ++ [')']) = _
  rw [List.append_assoc, feedAll_append, hopen]
  rfl

/-- A pattern is read in the group as it is read on its own. -/
theorem feedAll_anchor_of_eq_ok (hr : feedAll {} p = .ok r) :
    feedAll {} (Rule.anchor p) = (r.withParts r.parts.within).step ')' := by
  obtain ⟨_, hfeed, rfl⟩ := (respects_within.feedAll (r := {}) rfl p).exists_of_eq_ok hr
  have hfeed' : inGroup.feedAll p = .ok (r.withParts r.parts.within) := hfeed
  rw [feedAll_anchor, feedAll_append, hfeed']
  exact feedAll_singleton ')'

theorem settle_within (hs : r.settle = .ok s) :
    (r.withParts r.parts.within).settle = .ok (s.withParts s.parts.within) := by
  obtain ⟨_, hsettle, rfl⟩ := (respects_within.settle rfl).exists_of_eq_ok hs
  exact hsettle

/-- Settling concerns the last part of the sequence. -/
theorem frame_settle (hs : r.settle = .ok s) : s.groups = r.groups ∧ s.branches = r.branches := by
  unfold settle at hs
  cases hmode : r.mode <;> simp only [hmode, reduceCtorEq] at hs
  case sequence | wordEdge =>
    cases hs
    exact ⟨rfl, rfl⟩
  case repeated | counted =>
    cases hs
    unfold closeRepeat
    split <;> exact ⟨rfl, rfl⟩

/-- The reader once the group has been closed around what `s` has read. -/
def closed (s : Reader) : Reader :=
  { s with
    flags := {}
    groups := []
    pieces := [⟨s.body.expr, s.body.depth + 1, true⟩, caret]
    branches := []
    mode := .sequence }

theorem closeGroup_within (hgroups : s.groups = []) :
    (s.withParts s.parts.within).closeGroup = .ok s.closed := by
  rw [Parts.within, parts, hgroups]
  rfl

/-- After a pattern that can be read on its own, the group is closed, unless the closing parenthesis
is part of a comment. -/
theorem eq_closed_of_feedAll_anchor {t : Reader} (hr : feedAll {} p = .ok r)
    (hs : r.settle = .ok s) (hgroups : s.groups = []) (ht : feedAll {} (Rule.anchor p) = .ok t)
    (hopen : t.groups = []) : t = s.closed := by
  rw [feedAll_anchor_of_eq_ok hr] at ht
  cases hcomment : r.comment with
  | true =>
    rw [step, if_pos (by exact hcomment)] at ht
    cases ht
    simp [withParts, Parts.within] at hopen
  | false =>
    rw [step_close (by exact hcomment) (settle_within hs), closeGroup_within hgroups] at ht
    cases ht
    rfl

/-! ## Reading to the end -/

/-- Reading the text comes to its end with the reader `s`, outside of all groups. -/
def Reads (p : List Char) (s : Reader) : Prop :=
  ∃ r, feedAll {} p = .ok r ∧ r.settle = .ok s ∧ s.groups = []

theorem finish_eq_ok_iff {e : Expr} :
    r.finish = .ok e ↔ ∃ s, r.settle = .ok s ∧ s.groups = [] ∧ s.body.Fits ∧ s.body.expr = e := by
  unfold finish
  cases r.settle with
  | error f => simp [Bind.bind, Except.bind]
  | ok s =>
    simp only [Bind.bind, Except.bind, pure, Except.pure, Piece.Fits]
    split_ifs with hopen hdeep hlarge
    · have hgroups : s.groups ≠ [] := by simpa using hopen
      simp [hgroups]
    · have hdepth : ¬ s.body.depth ≤ maxDepth := by omega
      simp [hdepth]
    · have hroom : s.body.expr.hasRoom = false := by simpa using hlarge
      simp [hroom]
    · have hgroups : s.groups = [] := by simpa using hopen
      have hdepth : s.body.depth ≤ maxDepth := by omega
      have hroom : s.body.expr.hasRoom = true := by simpa using hlarge
      simp [hgroups, hdepth, hroom]

theorem ofPattern?_eq_ok_iff {e : Expr} :
    Expr.ofPattern? p = .ok e ↔ ∃ s, Reads p s ∧ s.body.Fits ∧ s.body.expr = e := by
  unfold Expr.ofPattern? Reads
  cases feedAll {} p with
  | error f => simp [Bind.bind, Except.bind]
  | ok r =>
    change r.finish = .ok e ↔ _
    rw [finish_eq_ok_iff]
    simp [and_assoc]

/-! ## Simplified parts -/

/-- All parts of the sequences that are being read are simplified. -/
def Plain (k : Parts) : Prop :=
  (∀ piece ∈ k.pieces, piece.expr.Simplified) ∧
    ∀ g ∈ k.groups, ∀ piece ∈ g.pieces, piece.expr.Simplified

theorem simplified_body (h : Plain r.parts) : r.body.expr.Simplified := by
  have hsequence : (Piece.sequence r.pieces).expr.Simplified := by
    unfold Piece.sequence
    split
    · rename_i piece hpieces
      exact h.1 piece (by simp [parts, hpieces])
    · exact Expr.simplified_sequence _
  unfold body
  cases hbranches : r.branches with
  | nil => exact hsequence
  | cons b bs => exact Expr.simplified_alternation (by simp)

theorem keeps_plain : Keeps Plain where
  push piece h hpiece := ⟨List.forall_mem_cons.2 ⟨hpiece, h.1⟩, h.2⟩
  openGroup index flags h := ⟨by simp [openGroup, parts], List.forall_mem_cons.2 ⟨h.1, h.2⟩⟩
  closeGroup := by
    intro r s h hs
    obtain ⟨g, outer, piece, hgroups, hparts, hpiece⟩ := parts_of_closeGroup hs
    have hg := h.2
    simp only [parts, hgroups, List.forall_mem_cons] at hg
    rw [hparts]
    refine ⟨List.forall_mem_cons.2 ⟨?_, hg.1⟩, hg.2⟩
    obtain hbody | ⟨index, hbody⟩ := hpiece
    · rw [hbody]
      exact simplified_body h
    · rw [hbody]
      rfl
  closeBranch h := ⟨by simp [closeBranch, parts], h.2⟩
  closeRepeat := by
    intro r least most greedy h
    unfold closeRepeat
    split
    · rename_i piece rest hpieces
      have hp := h.1
      simp only [parts, hpieces, List.forall_mem_cons] at hp
      exact ⟨List.forall_mem_cons.2 ⟨Expr.simplified_repetition hp.1 _ _ _, hp.2⟩, h.2⟩
    · exact h

/-- A pattern that can be read to its end is simplified. -/
theorem Reads.simplified (hs : Reads p s) : s.body.expr.Simplified := by
  obtain ⟨r, hr, hrs, -⟩ := hs
  have hstart : Plain ({} : Reader).parts := by simp [Plain, parts]
  exact simplified_body (keeps_plain.settle (keeps_plain.feedAll hstart hr) hrs)

/-! ## The expression of the pattern in the group -/

theorem exists_settle_of_ofPattern? {own : Expr} (hown : Expr.ofPattern? p = .ok own) :
    ∃ r s, feedAll {} p = .ok r ∧ r.settle = .ok s ∧ s.groups = [] ∧ s.body.expr = own := by
  obtain ⟨s, ⟨r, hr, hs, hgroups⟩, -, hexpr⟩ := ofPattern?_eq_ok_iff.1 hown
  exact ⟨r, s, hr, hs, hgroups, hexpr⟩

/-- A pattern that can be read on its own is simplified. -/
theorem simplified_of_ofPattern? {own : Expr} (hown : Expr.ofPattern? p = .ok own) :
    own.Simplified := by
  obtain ⟨s, hs, -, rfl⟩ := ofPattern?_eq_ok_iff.1 hown
  exact hs.simplified

/-- The expression of a pattern in the group is the one of the pattern, after the condition. -/
theorem expr_anchor {own whole : Expr} (hown : Expr.ofPattern? p = .ok own)
    (hwhole : Expr.ofPattern? (Rule.anchor p) = .ok whole) :
    whole = Expr.sequence [.look .textStart, own] := by
  obtain ⟨r, s, hr, hs, hgroups, rfl⟩ := exists_settle_of_ofPattern? hown
  obtain ⟨t, u, ht, hu, hopen, rfl⟩ := exists_settle_of_ofPattern? hwhole
  have hclosed := eq_closed_of_feedAll_anchor hr hs hgroups ht ((frame_settle hu).1 ▸ hopen)
  rw [hclosed] at hu
  cases hu
  rfl

end Reader

/-! ## The search -/

theorem Pattern.ofText?_eq_ok_iff {p : List Char} {pattern : Pattern} :
    Pattern.ofText? p = .ok pattern ↔
      ∃ expr, Expr.ofPattern? p = .ok expr ∧ pattern = { expr } := by
  unfold Pattern.ofText?
  cases Expr.ofPattern? p <;> simp [Except.map, eq_comm]

theorem find?_sequence_textStart {e : Expr} (he : e.Simplified) (text : List Char) :
    (Expr.sequence [.look .textStart, e]).toNode.find? text =
      (e.toNode.matchLength? none text).map (0, ·) := by
  rw [Expr.sequence_look_singleton he]
  split_ifs with hempty
  · subst hempty
    change (matchThreads none [[.look .textStart]] 0 none text).map (0, ·) =
      (matchThreads none [[.empty]] 0 none text).map (0, ·)
    rw [matchThreads_textStart, matchThreads_empty]
  · exact find?_atCursor e

namespace Rule

variable {κ : Type} {source : String} {directive : Directive} {kind? : String → Option κ}
  {rule : Rule κ} {own : Pattern}

theorem ofText?_of_ofPattern (hrule : ofPattern source directive kind? = .ok rule) :
    Pattern.ofText? (anchor source.toList) = .ok rule.pattern ∧
      rule = ⟨source, rule.pattern, directive, kind?⟩ := by
  unfold ofPattern at hrule
  cases hp : Pattern.ofText? (anchor source.toList) with
  | error e => simp [hp] at hrule
  | ok pattern =>
    simp only [hp, Except.ok.injEq] at hrule
    subst hrule
    exact ⟨rfl, rfl⟩

/-- The rule of a pattern that can be read on its own has the expression of the pattern, after the
condition that the text starts, and it finds what the pattern finds at the start of the text. -/
theorem find?_ofPattern (hrule : ofPattern source directive kind? = .ok rule)
    (hown : Pattern.ofText? source.toList = .ok own) :
    rule.pattern.expr = Expr.sequence [.look .textStart, own.expr] ∧
      ∀ text, rule.pattern.find? text = (own.find? text).filter (·.1 = 0) := by
  obtain ⟨hpattern, -⟩ := ofText?_of_ofPattern hrule
  obtain ⟨expr, hexpr, rfl⟩ := Pattern.ofText?_eq_ok_iff.1 hown
  obtain ⟨whole, hwhole, hpattern⟩ := Pattern.ofText?_eq_ok_iff.1 hpattern
  rw [hpattern]
  obtain rfl := Reader.expr_anchor hexpr hwhole
  refine ⟨rfl, fun text => ?_⟩
  have hsimplified := Reader.simplified_of_ofPattern? hexpr
  exact (find?_sequence_textStart hsimplified text).trans (Node.filter_find? _ text).symm

/-- Two alternatives, a bracket with a parenthesis in it, and a repetition that prefers fewer
rounds. -/
theorem find?_ofPattern_alternatives :
    let expr := Expr.alt (.literal ['a'])
      (.cat (.literal [')']) (.rounds (.literal ['b']) 1 none false))
    ofPattern "a|[)]b+?" .stay some = .ok ⟨"a|[)]b+?", atCursor expr, .stay, some⟩ ∧
      Pattern.ofText? "a|[)]b+?".toList = .ok { expr } ∧
      ∀ text, (atCursor expr).find? text = (Pattern.find? { expr } text).filter (·.1 = 0) := by
  intro expr
  have hrule : ofPattern "a|[)]b+?" .stay some = .ok ⟨"a|[)]b+?", atCursor expr, .stay, some⟩ := rfl
  have hown : Pattern.ofText? "a|[)]b+?".toList = .ok { expr } := rfl
  exact ⟨hrule, hown, (find?_ofPattern hrule hown).2⟩

end Rule
end PushdownLexer
