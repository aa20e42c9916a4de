import PushdownLexer.Proofs.Scan.Coverage
import PushdownLexer.Proofs.Scan.Enclosing

/-!
# Rules match at the cursor

The condition that the text starts stands in front of the group that a pattern is put into. It holds
a match at the cursor as long as all alternatives of the pattern are inside of that group. A pattern
may close the group and open another one, and an alternative that stands between both is searched in
all of the text that is left.

## Main definitions

* `Reader.Tied`: the condition begins the outermost sequence, or there are alternatives to it.
* `Rule.Enclosed`: no alternative of a pattern stands outside of the group.

## Main statements

* `Rule.enclosed_of_ofText?`: a pattern that can be read on its own is enclosed.
* `Rule.anchored_of_ofPattern`: the pattern of a rule is anchored, if it is enclosed.
* `Rule.token_of_ofPattern`: its tokens are made of the text at the cursor.
-/

namespace PushdownLexer

/-! ## The outermost sequence -/

namespace Reader

variable {r s : Reader}

/-- The condition that the text starts begins a sequence, or there are alternatives to it. -/
def Begun (pieces branches : List Piece) : Prop := branches ≠ [] ∨ pieces.getLast? = some caret

/-- The sequence outside of all groups begins with the condition that the text starts, or there are
alternatives to it. What can still be repeated comes after the condition. -/
def Tied (k : Parts) : Prop :=
  match k.groups.getLast? with
  | some g => Begun g.pieces g.branches
  | none => Begun k.pieces.tail k.branches

theorem Begun.cons {piece : Piece} {pieces branches : List Piece} (h : Begun pieces branches) :
    Begun (piece :: pieces) branches := by
  refine h.imp_right fun h => ?_
  rw [List.getLast?_cons, h]
  rfl

theorem Begun.of_tail {pieces branches : List Piece} (h : Begun pieces.tail branches) :
    Begun pieces branches := by
  cases pieces with
  | nil => exact h
  | cons piece pieces => exact h.cons

theorem keeps_tied : Keeps Tied where
  push := by
    intro r piece h _
    unfold Tied at h ⊢
    simp only [push, parts] at h ⊢
    split
    · simpa [*] using h
    · simp [*] at h
      exact h.of_tail
  openGroup := by
    intro r index flags h
    unfold Tied at h ⊢
    simp only [openGroup, parts, List.getLast?_cons] at h ⊢
    cases hg : r.groups.getLast? with
    | none =>
      rw [hg] at h
      exact h.of_tail
    | some g =>
      rw [hg] at h
      exact h
  closeGroup := by
    intro r s h hs
    obtain ⟨g, outer, piece, hgroups, hparts, -⟩ := parts_of_closeGroup hs
    rw [hparts]
    unfold Tied at h ⊢
    simp only [parts, hgroups, List.getLast?_cons] at h ⊢
    cases hg : outer.getLast? with
    | none =>
      rw [hg] at h
      exact h
    | some outermost =>
      rw [hg] at h
      exact h
  closeBranch := by
    intro r h
    unfold Tied at h ⊢
    simp only [closeBranch, parts] at h ⊢
    split at h
    · exact h
    · -- what was read outside of all groups is an alternative from now on
      exact .inl (List.cons_ne_nil _ _)
  closeRepeat := by
    intro r least most greedy h
    unfold closeRepeat
    split
    · -- the condition is not the last part, so it is not repeated
      rename_i piece rest hpieces
      simpa only [Tied, parts, hpieces, List.tail_cons] using h
    · exact h

theorem anchored_sequence (es : List Expr) :
    (Expr.sequence (.look .textStart :: es)).toNode.anchored = true := by
  rw [Expr.sequence_look]
  cases Expr.joinLiterals (es.flatMap Expr.factors) <;> rfl

/-- Without alternatives to the outermost sequence, the condition begins the whole pattern. -/
theorem anchored_body (h : Tied r.parts) (hgroups : r.groups = []) (hbranches : r.branches = []) :
    r.body.expr.toNode.anchored = true := by
  simp only [Tied, parts, hgroups, List.getLast?_nil, Begun, hbranches, ne_eq, not_true_eq_false,
    false_or] at h
  obtain ⟨front, hfront⟩ := List.getLast?_eq_some_iff.1 h
  have hpieces : ∃ piece, r.pieces = piece :: (front ++ [caret]) := by
    cases hp : r.pieces with
    | nil => simp [hp] at hfront
    | cons piece rest => exact ⟨piece, by rw [← hfront, hp]; rfl⟩
  obtain ⟨piece, hpieces⟩ := hpieces
  have hbody : r.body = Piece.sequence r.pieces := by rw [body, hbranches]; rfl
  rw [hbody, hpieces, Piece.sequence]
  · simp only [List.reverse_cons, List.reverse_append, List.reverse_nil, List.nil_append,
      List.cons_append, List.map_cons]
    exact anchored_sequence _
  · simp

end Reader

namespace Rule

variable {κ : Type} {source : String} {directive : Directive} {kind? : String → Option κ}
  {rule : Rule κ} {p : List Char}

/-- No alternative of a pattern stands outside of the group that the pattern is put into. -/
def Enclosed (p : List Char) : Prop :=
  ∀ r, Reader.feedAll {} (anchor p) = .ok r → r.groups = [] → r.branches = []

/-- The alternatives of a pattern that can be read on its own are inside of the group. -/
theorem enclosed_of_ofText? {own : Pattern} (hown : Pattern.ofText? p = .ok own) : Enclosed p := by
  intro t ht hopen
  obtain ⟨expr, hexpr, -⟩ := Pattern.ofText?_eq_ok_iff.1 hown
  obtain ⟨r, s, hr, hs, hgroups, -⟩ := Reader.exists_settle_of_ofPattern? hexpr
  rw [Reader.eq_closed_of_feedAll_anchor hr hs hgroups ht hopen]
  rfl

/-- The condition begins an enclosed pattern. -/
theorem anchored_of_ofPattern (hrule : ofPattern source directive kind? = .ok rule)
    (hsource : Enclosed source.toList) : rule.pattern.node.anchored = true := by
  obtain ⟨hpattern, -⟩ := ofText?_of_ofPattern hrule
  obtain ⟨expr, hexpr, hnode⟩ := Pattern.ofText?_eq_ok_iff.1 hpattern
  obtain ⟨r, s, hr, hs, hgroups, rfl⟩ := Reader.exists_settle_of_ofPattern? hexpr
  rw [hnode]
  have htied : Reader.Tied s.parts := by
    have hstart : Reader.Tied (({} : Reader).withParts ⟨[Reader.anchorGroup], [], []⟩).parts :=
      .inr rfl
    rw [Reader.feedAll_anchor] at hr
    exact Reader.keeps_tied.settle (Reader.keeps_tied.feedAll hstart hr) hs
  obtain ⟨hgroups', hbranches⟩ := Reader.frame_settle hs
  exact Reader.anchored_body htied hgroups
    (hbranches.trans (hsource r hr (hgroups'.symm.trans hgroups)))

theorem eq_matchAt_of_apply {c : Cursor} {found : Match κ}
    (hrule : rule.pattern.node.anchored = true)
    (hfound : rule.apply c = .ok (some found)) : ∃ count, found = rule.matchAt c 0 count := by
  obtain ⟨skipped, count, hfind, rfl⟩ := apply_eq_some_iff.1 hfound
  rw [Pattern.find?, Node.find?, if_pos hrule] at hfind
  obtain ⟨length, -, hlength⟩ := Option.map_eq_some_iff.1 hfind
  cases hlength
  exact ⟨count, rfl⟩

/-- Where a rule with an enclosed pattern matches, its token, if it makes one, is made of the text
at the cursor, as long as the match. So in every scan, the kind of a token of the rule is made of
the text that the token stands for. -/
theorem token_of_ofPattern (hrule : ofPattern source directive kind? = .ok rule)
    (hsource : Enclosed source.toList) :
    (∀ c found, rule.apply c = .ok (some found) →
      ∃ matched, slice? c.rest 0 found.length = some matched ∧
        found.token = (kind? (String.ofList matched)).map (⟨·, ⟨c.place, found.cursor.place⟩⟩)) ∧
      ∀ book settings text moves m, Reached book settings text moves m →
        ∀ v ∈ moves, v.rule = rule → ∀ token, v.token? = some token →
          ∃ matched, token.lexeme? text = some matched ∧
            kind? (String.ofList matched) = some token.kind := by
  have hanchored := anchored_of_ofPattern hrule hsource
  obtain ⟨-, hrule'⟩ := ofText?_of_ofPattern hrule
  have hkind : rule.kind? = kind? := by rw [hrule']
  constructor
  · intro c found hfound
    obtain ⟨count, rfl⟩ := eq_matchAt_of_apply hanchored hfound
    refine ⟨c.rest.take count, ?_, ?_⟩
    · have hslice := slice?_append [] (c.rest.take count) (c.rest.drop count)
      simpa [matchAt] using hslice
    · simp [matchAt, hkind]
  · intro book settings text moves m hm v hv hvrule token ht
    obtain ⟨hwithin, hfound⟩ := hm.moves_applied v hv
    rw [hvrule] at hfound
    obtain ⟨count, hcount⟩ := eq_matchAt_of_apply hanchored hfound
    rw [Move.token?, hcount] at ht
    obtain ⟨hlexeme, hkind'⟩ := lexeme?_matchAt hwithin ht
    exact ⟨_, hlexeme, hkind ▸ hkind'⟩

/-- A pattern that closes the group and opens another one, without an alternative in between. -/
theorem token_of_reopened :
    ∃ rule found, ofPattern "a)(?:b" .stay some = .ok rule ∧ Enclosed "a)(?:b".toList ∧
      rule.apply (.ofText ['a', 'b', 'c']) = .ok (some found) ∧
      ∃ matched, slice? ['a', 'b', 'c'] 0 found.length = some matched ∧
        found.token =
          (some (String.ofList matched)).map (⟨·, ⟨.origin, found.cursor.place⟩⟩) := by
  have hrule : ofPattern "a)(?:b" .stay some =
      .ok ⟨"a)(?:b", atCursor (.literal ['a', 'b']), .stay, some⟩ := rfl
  have hsource : Enclosed "a)(?:b".toList := by
    intro r hr _
    cases hr
    rfl
  exact ⟨_, _, hrule, hsource, rfl, (token_of_ofPattern hrule hsource).1 (.ofText _) _ rfl⟩

-- With an alternative in between, all of the text that is left is searched.
example :
    (ofPattern "a)|(?:b" .stay some).bind (·.apply (.ofText ['x', 'b'])) =
      .ok (some ⟨⟨['x', 'b'], [], ⟨1, 3, 2⟩⟩, some ⟨"b", ⟨⟨1, 1, 0⟩, ⟨1, 3, 2⟩⟩⟩, .stay, 2⟩) := rfl

end Rule
end PushdownLexer
