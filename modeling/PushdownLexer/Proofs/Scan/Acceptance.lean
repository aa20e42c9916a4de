import PushdownLexer.Proofs.Pattern.Closing
import PushdownLexer.Proofs.Scan.Enclosing

/-!
# Which patterns make a rule

A rule reads its pattern in a group only. What it accepts are the patterns that are valid by
themselves, as long as the group ends at the parenthesis that is put behind the pattern: a pattern
may close the group before, or end in a comment that the parenthesis becomes part of. Besides, the
group takes two levels and some room, which decides for patterns next to the limits.

## Main definitions

* `Piece.anchored`: what the group makes of a part.
* `Rule.Groupable`: a pattern is as good inside of a group as it is by itself.

## Main statements

* `Reader.reads_anchor_iff`: what is read in the group is what is read by itself, unless it ends in
  a comment.
* `Rule.accepts_iff_valid`: a groupable pattern makes a rule just if it is valid.
-/

namespace PushdownLexer

/-- A part in a group, after the condition that the text starts. -/
def Piece.anchored (whole : Piece) : Piece :=
  Piece.sequence [⟨whole.expr, whole.depth + 1, true⟩, Reader.caret]

namespace Reader

variable {r s t : Reader} {p : List Char}

theorem Reads.eq (hs : Reads p s) (ht : Reads p t) : s = t := by
  obtain ⟨r, hr, hrs, -⟩ := hs
  obtain ⟨u, hu, hut, -⟩ := ht
  cases hr.symm.trans hu
  cases hrs.symm.trans hut
  rfl

theorem comment_settle (hs : r.settle = .ok s) : s.comment = r.comment := by
  unfold settle at hs
  cases hmode : r.mode <;> simp only [hmode, reduceCtorEq] at hs
  case sequence | wordEdge =>
    cases hs
    rfl
  case repeated | counted =>
    cases hs
    unfold closeRepeat
    split <;> rfl

/-- A text that fails by itself fails in the group for the same reason. -/
theorem exists_feedAll_of_anchor (hclosed : feedAll {} p ≠ .error .unopenedGroup)
    (ht : feedAll {} (Rule.anchor p) = .ok t) : ∃ r, feedAll {} p = .ok r := by
  cases hr : feedAll {} p with
  | ok r => exact ⟨r, rfl⟩
  | error e =>
    have he : e ≠ .unopenedGroup := by
      rintro rfl
      exact hclosed hr
    have hwithin : inGroup.feedAll p = .error e :=
      (respects_within.feedAll (r := {}) rfl p).eq_error hr he
    rw [feedAll_anchor, feedAll_append, hwithin] at ht
    cases ht

/-- If no group is open after the last parenthesis, it finds none to close without the group around
the pattern. -/
theorem step_eq_unopened_of_anchor (ht : (r.withParts r.parts.within).step ')' = .ok t)
    (hopen : t.groups = []) : r.step ')' = .error .unopenedGroup := by
  have hlift := respects_within.step (r := r) rfl ')'
  cases hstep : r.step ')' with
  | ok s =>
    obtain ⟨_, hs, rfl⟩ := hlift.exists_of_eq_ok hstep
    cases ht.symm.trans hs
    simp [withParts, Parts.within] at hopen
  | error e =>
    by_cases he : e = .unopenedGroup
    · rw [he]
    · cases ht.symm.trans (hlift.eq_error hstep he)

/-- Unless a pattern closes a group that it has not opened, it can be read in the group just if it
can be read by itself and does not end in a comment. -/
theorem reads_anchor_iff (hclosed : feedAll {} p ≠ .error .unopenedGroup) :
    Reads (Rule.anchor p) t ↔ ∃ s, Reads p s ∧ s.comment = false ∧ t = s.closed := by
  constructor
  · rintro ⟨u, hu, hut, hopen⟩
    have hopen' : u.groups = [] := (frame_settle hut).1 ▸ hopen
    obtain ⟨r, hr⟩ := exists_feedAll_of_anchor hclosed hu
    have hstep := step_eq_unopened_of_anchor (feedAll_anchor_of_eq_ok hr ▸ hu) hopen'
    obtain ⟨hcomment, s, hs, hgroups⟩ :=
      (step_eq_unopened_iff (formed_feedAll (r := {}) trivial hr)).1 hstep
    obtain rfl := eq_closed_of_feedAll_anchor hr hs hgroups hu hopen'
    cases hut
    exact ⟨s, ⟨r, hr, hs, hgroups⟩, (comment_settle hs).trans hcomment, rfl⟩
  · rintro ⟨s, ⟨r, hr, hs, hgroups⟩, hcomment, rfl⟩
    have hcomment' : (r.withParts r.parts.within).comment = false :=
      (comment_settle hs).symm.trans hcomment
    refine ⟨s.closed, ?_, rfl, rfl⟩
    rw [feedAll_anchor_of_eq_ok hr, step_close hcomment' (settle_within hs),
      closeGroup_within hgroups]

/-- A pattern that is whole in the group before the last parenthesis fails at it. -/
theorem not_reads_anchor (hwhole : ∀ r, inGroup.feedAll p = .ok r → r.Whole) :
    ¬ Reads (Rule.anchor p) t := by
  rintro ⟨u, hu, -⟩
  rw [feedAll_anchor, feedAll_append] at hu
  cases hr : inGroup.feedAll p with
  | error e =>
    rw [hr] at hu
    cases hu
  | ok r =>
    have hstep := (step_eq_unopened_iff (formed_feedAll (r := inGroup) trivial hr)).2 (hwhole r hr)
    rw [hr] at hu
    change r.feedAll [')'] = .ok u at hu
    rw [feedAll_singleton, hstep] at hu
    cases hu

end Reader

theorem Pattern.exists_ofText?_iff {p : List Char} :
    (∃ pattern, Pattern.ofText? p = .ok pattern) ↔ ∃ s, Reader.Reads p s ∧ s.body.Fits := by
  simp [Pattern.ofText?_eq_ok_iff, Reader.ofPattern?_eq_ok_iff]

theorem Expr.footprintBound_look_singleton_le {e : Expr} (he : e.Simplified) (l : Look) :
    (Expr.sequence [.look l, e]).footprintBound ≤ e.footprintBound + 192 := by
  rw [Expr.sequence_look_singleton he]
  split_ifs
  · simp [Expr.footprintBound]
  · simp only [Expr.footprintBound]
    omega

theorem Expr.hasRoom_of_footprintBound {e : Expr}
    (h : e.footprintBound + 1024 ≤ Footprint.maxBytes) : e.hasRoom = true := by
  simp [Expr.hasRoom, h]

namespace Piece

variable {whole : Piece}

theorem depth_anchored (whole : Piece) : whole.anchored.depth = whole.depth + 2 := by
  simp [anchored, sequence, Reader.caret]

theorem expr_anchored (whole : Piece) :
    whole.anchored.expr = Expr.sequence [.look .textStart, whole.expr] := rfl

/-- A part that is not next to the limits is within them, with the group around it as well. -/
theorem fits_anchored_of_small (he : whole.expr.Simplified)
    (hdepth : whole.depth + 2 ≤ Reader.maxDepth)
    (hroom : whole.expr.footprintBound + 1216 ≤ Footprint.maxBytes) :
    whole.Fits ∧ whole.anchored.Fits := by
  have hbound := Expr.footprintBound_look_singleton_le he .textStart
  refine ⟨⟨by omega, Expr.hasRoom_of_footprintBound (by omega)⟩, ?_, ?_⟩
  · rwa [depth_anchored]
  · rw [expr_anchored]
    exact Expr.hasRoom_of_footprintBound (by omega)

end Piece

namespace Rule

variable {κ : Type} {source : String} {directive : Directive} {kind? : String → Option κ}
  {p : List Char}

theorem exists_ofPattern_iff_anchor :
    (∃ rule, ofPattern source directive kind? = .ok rule) ↔
      ∃ pattern, Pattern.ofText? (anchor source.toList) = .ok pattern := by
  unfold ofPattern
  cases Pattern.ofText? (anchor source.toList) <;> simp

theorem unopenedGroup_of_feedAll (h : Reader.feedAll {} p = .error .unopenedGroup) :
    Pattern.ofText? p = .error .unopenedGroup := by
  simp [Pattern.ofText?, Expr.ofPattern?, h, Bind.bind, Except.bind, Except.map]

/-- A pattern that closes no group that it has not opened makes a rule just if it can be read to its
end, which is in no comment, and is within the limits with the group around it. -/
theorem exists_ofPattern_iff (hclosed : Pattern.ofText? source.toList ≠ .error .unopenedGroup) :
    (∃ rule, ofPattern source directive kind? = .ok rule) ↔
      ∃ s, Reader.Reads source.toList s ∧ s.comment = false ∧ s.body.anchored.Fits := by
  have hread := mt unopenedGroup_of_feedAll hclosed
  rw [exists_ofPattern_iff_anchor, Pattern.exists_ofText?_iff]
  constructor
  · rintro ⟨t, ht, hfits⟩
    obtain ⟨s, hs, hcomment, rfl⟩ := (Reader.reads_anchor_iff hread).1 ht
    exact ⟨s, hs, hcomment, hfits⟩
  · rintro ⟨s, hs, hcomment, hfits⟩
    exact ⟨s.closed, (Reader.reads_anchor_iff hread).2 ⟨s, hs, hcomment, rfl⟩, hfits⟩

theorem badPattern_of_ofPattern {f : ScanFault} (h : ofPattern source directive kind? = .error f) :
    ∃ message, f = .badPattern source message := by
  unfold ofPattern at h
  split at h
  · cases h
  · cases h
    exact ⟨_, rfl⟩

/-- A pattern is as good inside of a group as it is by itself. If it closes a group that it has not
opened, it leaves nothing open in its place, so that the last parenthesis closes nothing either. It
does not end in a comment, and the limits judge it alike with the group and without. -/
structure Groupable (p : List Char) : Prop where
  closed : Pattern.ofText? p = .error .unopenedGroup →
    ∀ r, Reader.inGroup.feedAll p = .ok r → r.Whole
  ended : ∀ s, Reader.Reads p s → s.comment = false
  limits : ∀ s, Reader.Reads p s → (s.body.anchored.Fits ↔ s.body.Fits)

/-- A pattern that is not next to the limits is groupable, if it does not end in a comment. -/
theorem Groupable.of_small {s : Reader} (hs : Reader.Reads p s) (hcomment : s.comment = false)
    (hdepth : s.body.depth + 2 ≤ Reader.maxDepth)
    (hroom : s.body.expr.footprintBound + 1216 ≤ Footprint.maxBytes) : Groupable p := by
  obtain ⟨hown, hanchored⟩ := Piece.fits_anchored_of_small hs.simplified hdepth hroom
  refine ⟨fun hclosed => ?_, fun t ht => ?_, fun t ht => ?_⟩
  · obtain ⟨pattern, hpattern⟩ := Pattern.exists_ofText?_iff.2 ⟨s, hs, hown⟩
    cases hclosed.symm.trans hpattern
  · rwa [← hs.eq ht]
  · rw [← hs.eq ht]
    exact iff_of_true hanchored hown

/-- A groupable pattern makes a rule just if it is valid by itself. If it is not, the failure
carries the pattern as it was given. -/
theorem accepts_iff_valid (h : Groupable source.toList) :
    ((∃ rule, ofPattern source directive kind? = .ok rule) ↔
      ∃ own, Pattern.ofText? source.toList = .ok own) ∧
    ((∀ own, Pattern.ofText? source.toList ≠ .ok own) →
      ∃ message, ofPattern source directive kind? = .error (.badPattern source message)) := by
  have hiff : (∃ rule, ofPattern source directive kind? = .ok rule) ↔
      ∃ own, Pattern.ofText? source.toList = .ok own := by
    by_cases hclosed : Pattern.ofText? source.toList = .error .unopenedGroup
    · refine iff_of_false ?_ (by simp [hclosed])
      rw [exists_ofPattern_iff_anchor, Pattern.exists_ofText?_iff]
      rintro ⟨t, ht, -⟩
      exact Reader.not_reads_anchor (h.closed hclosed) ht
    · rw [exists_ofPattern_iff hclosed, Pattern.exists_ofText?_iff]
      refine exists_congr fun s => and_congr_right fun hs => ?_
      rw [and_iff_right (h.ended s hs), h.limits s hs]
  refine ⟨hiff, fun hinvalid => ?_⟩
  cases hrule : ofPattern source directive kind? with
  | ok rule =>
    obtain ⟨own, hown⟩ := hiff.1 ⟨rule, hrule⟩
    exact absurd hown (hinvalid own)
  | error f =>
    obtain ⟨message, rfl⟩ := badPattern_of_ofPattern hrule
    exact ⟨message, rfl⟩

/-- A valid pattern with a parenthesis in brackets, a pattern with a group that is not closed, and
one with a group that is not opened. -/
theorem accepts_iff_valid_of_groups :
    (Groupable "a|[)]b+?".toList ∧ ∃ rule, ofPattern "a|[)]b+?" .stay some = .ok rule) ∧
      (Groupable "(unclosed".toList ∧
        ∃ message, ofPattern "(unclosed" .stay some = .error (.badPattern "(unclosed" message)) ∧
      Groupable "a)b".toList ∧
        ∃ message, ofPattern "a)b" .stay some = .error (.badPattern "a)b" message) := by
  have hvalid : Groupable "a|[)]b+?".toList :=
    .of_small ⟨_, rfl, rfl, rfl⟩ rfl (by decide) (by decide)
  have hunread (s : Reader) : ¬ Reader.Reads "(unclosed".toList s := by
    rintro ⟨r, hr, hs, hgroups⟩
    cases hr
    cases hs
    cases hgroups
  have hunclosed : Groupable "(unclosed".toList :=
    ⟨nofun, fun s hs => (hunread s hs).elim, fun s hs => (hunread s hs).elim⟩
  have hunopened : Groupable "a)b".toList := by
    refine ⟨fun _ r hr => ?_, fun s => ?_, fun s => ?_⟩
    · cases hr
      exact ⟨rfl, _, rfl, rfl⟩
    all_goals rintro ⟨r, hr, -⟩
    all_goals cases hr
  refine ⟨⟨hvalid, ?_⟩, ⟨hunclosed, ?_⟩, hunopened, ?_⟩
  · exact (accepts_iff_valid hvalid).1.2 ⟨_, rfl⟩
  · exact (accepts_iff_valid hunclosed).2 nofun
  · exact (accepts_iff_valid hunopened).2 nofun

-- A group is closed and another one opened, and a comment takes the parenthesis.
example :
    (ofPattern "a)|(?:b" .stay (some : String → Option String)).isOk = true ∧
      (Pattern.ofText? "a)|(?:b".toList).isOk = false ∧
      (ofPattern "(?x)a#c" .stay (some : String → Option String)).isOk = false ∧
      (Pattern.ofText? "(?x)a#c".toList).isOk = true := ⟨rfl, rfl, rfl, rfl⟩

end Rule
end PushdownLexer
