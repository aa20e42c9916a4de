import PushdownLexer.Pattern.Reader.Step
import PushdownLexer.Proofs.Pattern.Simplified

/-!
# Reading and the parts of a pattern

What a reader does next is decided by everything but the parts that it has put together, except for
the closing of a group and for a repetition, which look at the last part. So a relation on parts has
to be shown for the few ways in which parts are put together only; reading a text keeps it.

## Main definitions

* `Reader.Parts`, `Reader.parts`, `Reader.withParts`: the parts, and a reader with other ones.
* `Reader.Lifts`: reading goes on or fails with the other parts as well.
* `Reader.Respects`, `Reader.Keeps`: a relation, or a property, that putting parts together keeps.

## Main statements

* `Reader.Respects.feedAll`, `Reader.Respects.settle`: reading a text keeps the relation.
* `Reader.Keeps.feedAll`, `Reader.Keeps.settle`: reading a text keeps the property.
-/

namespace PushdownLexer

namespace Reader

/-- The parts of a pattern that have been put together so far. Lists have their last element
first. -/
structure Parts where
  /-- The open groups. -/
  groups : List OpenGroup
  /-- The sequence being read. -/
  pieces : List Piece
  /-- The alternatives before that sequence. -/
  branches : List Piece

/-- The parts that a reader has put together. -/
def parts (r : Reader) : Parts := ⟨r.groups, r.pieces, r.branches⟩

/-- The reader with other parts. -/
def withParts (r : Reader) (k : Parts) : Reader :=
  { r with groups := k.groups, pieces := k.pieces, branches := k.branches }

variable {r : Reader} {k : Parts} {R : Parts → Parts → Prop} {α : Type}

@[simp] theorem flags_withParts : (r.withParts k).flags = r.flags := rfl
@[simp] theorem brackets_withParts : (r.withParts k).brackets = r.brackets := rfl
@[simp] theorem mode_withParts : (r.withParts k).mode = r.mode := rfl

theorem mapBracket_withParts (f : Bracket → Bracket) :
    (r.withParts k).mapBracket f = (r.mapBracket f).withParts k := by
  cases hb : r.brackets <;> simp [mapBracket, withParts, hb]

theorem parts_mapBracket (f : Bracket → Bracket) : (r.mapBracket f).parts = r.parts := by
  unfold mapBracket
  split <;> rfl

theorem startComment_withParts : (r.withParts k).startComment = r.startComment.withParts k := by
  cases hm : r.mode <;> simp [startComment, withParts, goto, hm]

theorem parts_startComment : r.startComment.parts = r.parts := by
  unfold startComment
  split <;> rfl

/-- A repetition changes the sequence only. -/
theorem closeRepeat_withParts (least : Nat) (most : Option Nat) (greedy : Bool) :
    (r.withParts k).closeRepeat least most greedy =
      (r.closeRepeat least most greedy).withParts
        ((r.withParts k).closeRepeat least most greedy).parts := by
  unfold closeRepeat
  cases r.pieces <;> cases hk : k.pieces <;> simp [withParts, parts, goto, hk]

/-- Closing a group makes one part of what was read in it. -/
theorem parts_of_closeGroup {s : Reader} (h : r.closeGroup = .ok s) :
    ∃ g outer piece, r.groups = g :: outer ∧ s.parts = ⟨outer, piece :: g.pieces, g.branches⟩ ∧
      (piece.expr = r.body.expr ∨ ∃ index, piece.expr = .group index r.body.expr) := by
  unfold closeGroup at h
  split at h
  · cases h
  · rename_i g outer hgroups
    cases h
    refine ⟨g, outer, _, hgroups, rfl, ?_⟩
    cases g.index with
    | none => exact .inl rfl
    | some index => exact .inr ⟨index, rfl⟩

theorem startRepeat_eq (r : Reader) (mode : Mode) :
    r.startRepeat mode =
      if r.pieces.head?.any (·.operand) then .ok (r.goto mode) else .error .missingOperand := by
  unfold startRepeat
  cases r.pieces <;> rfl

/-- What reading comes to with two readers that differ in their parts only. If it goes on with one
of them, it goes on with the other one, and the parts are related. If it fails, it fails for the same
reason, unless the one has no open group to close where the other one may have one. -/
inductive Lifts (R : Parts → Parts → Prop) :
    Except PatternError Reader → Except PatternError Reader → Prop where
  | goOn {r : Reader} {k : Parts} (h : R r.parts k) : Lifts R (.ok r) (.ok (r.withParts k))
  | fail (e : PatternError) : Lifts R (.error e) (.error e)
  | unopened (y : Except PatternError Reader) : Lifts R (.error .unopenedGroup) y

namespace Lifts

variable {x y : Except PatternError Reader} {f g : Reader → Except PatternError Reader}

theorem error {e : PatternError} : Lifts R (.error e) (.error e) := .fail e

theorem ok {s : Reader} (h : R r.parts s.parts) (hs : s = r.withParts s.parts) :
    Lifts R (.ok r) (.ok s) := by
  rw [hs]
  exact .goOn h

theorem exists_of_eq_ok (h : Lifts R x y) (hx : x = .ok r) :
    ∃ k, y = .ok (r.withParts k) ∧ R r.parts k := by
  cases h with
  | goOn h =>
    cases hx
    exact ⟨_, rfl, h⟩
  | fail | unopened => cases hx

theorem eq_error (h : Lifts R x y) {e : PatternError} (hx : x = .error e)
    (he : e ≠ .unopenedGroup) : y = .error e := by
  cases h with
  | goOn => cases hx
  | fail => exact hx
  | unopened =>
    cases hx
    exact absurd rfl he

/-- Whether a condition holds is the same for both. -/
theorem ite {x' y' : Except PatternError Reader} {p : Prop} [Decidable p]
    (hx : Lifts R x x') (hy : Lifts R y y') :
    Lifts R (if p then x else y) (if p then x' else y') := by
  by_cases hp : p
  · rwa [if_pos hp, if_pos hp]
  · rwa [if_neg hp, if_neg hp]

theorem bind (h : Lifts R x y)
    (hf : ∀ r k, R r.parts k → Lifts R (f r) (g (r.withParts k))) :
    Lifts R (x >>= f) (y >>= g) := by
  cases h with
  | goOn h => exact hf _ _ h
  | fail e => exact .fail e
  | unopened y => exact .unopened _

theorem bind_left {x : Except PatternError α} {f g : α → Except PatternError Reader}
    (h : ∀ a, Lifts R (f a) (g a)) : Lifts R (x >>= f) (x >>= g) := by
  cases x with
  | error e => exact error
  | ok a => exact h a

theorem foldlM {f : Reader → α → Except PatternError Reader}
    (hf : ∀ r k a, R r.parts k → Lifts R (f r a) (f (r.withParts k) a)) (h : R r.parts k)
    (as : List α) : Lifts R (as.foldlM f r) (as.foldlM f (r.withParts k)) := by
  induction as generalizing r k with
  | nil => exact ok h rfl
  | cons a as ih => exact (hf r k a h).bind fun r k h => ih h

theorem mapBracket (h : R r.parts k) (f : Bracket → Bracket) (mode : Mode) :
    Lifts R (.ok ((r.mapBracket f).goto mode))
      (.ok (((r.withParts k).mapBracket f).goto mode)) := by
  have hmap : R (r.mapBracket f).parts k := by rwa [parts_mapBracket]
  rw [mapBracket_withParts]
  exact ok hmap rfl

theorem startComment (h : R r.parts k) :
    Lifts R (.ok r.startComment) (.ok (r.withParts k).startComment) := by
  have hcomment : R r.startComment.parts k := by rwa [parts_startComment]
  rw [startComment_withParts]
  exact ok hcomment rfl

theorem addItem (h : R r.parts k) (a : Atom) : Lifts R (r.addItem a) ((r.withParts k).addItem a) :=
  bind_left fun _ => mapBracket h _ _

theorem skipping {go : Reader → Char → Except PatternError Reader} (h : R r.parts k) (c : Char)
    (hgo : Lifts R (go r c) (go (r.withParts k) c)) :
    Lifts R (Reader.skipping go r c) (Reader.skipping go (r.withParts k) c) :=
  .ite (.ok h rfl) (.ite (.startComment h) hgo)

theorem countLeastChar (h : R r.parts k) (value : Option Nat) (spaced : Bool) (c : Char) :
    Lifts R (r.countLeastChar value spaced c) ((r.withParts k).countLeastChar value spaced c) := by
  refine .ite (.ok h rfl) ?_
  split
  · exact .ok h rfl
  · exact .ok h rfl
  · exact .bind_left fun n => .ok h rfl

theorem countMostChar (h : R r.parts k) (least : Nat) (value : Option Nat) (spaced : Bool)
    (c : Char) :
    Lifts R (r.countMostChar least value spaced c)
      ((r.withParts k).countMostChar least value spaced c) := by
  refine .ite (.ok h rfl) ?_
  split
  · exact .ite .error (.ok h rfl)
  · exact .bind_left fun n => .ok h rfl

end Lifts

/-- A relation on parts that holds on however the parts grow and are put together. -/
structure Respects (R : Parts → Parts → Prop) : Prop where
  head? : ∀ {j k}, R j k → j.pieces.head? = k.pieces.head?
  push : ∀ {r : Reader} {k} (piece : Piece), R r.parts k →
    piece.expr.Simplified → R (r.push piece).parts ((r.withParts k).push piece).parts
  openGroup : ∀ {r : Reader} {k} (index flags), R r.parts k →
    R (r.openGroup index flags).parts ((r.withParts k).openGroup index flags).parts
  closeGroup : ∀ {r : Reader} {k}, R r.parts k → Lifts R r.closeGroup (r.withParts k).closeGroup
  closeBranch : ∀ {r : Reader} {k}, R r.parts k →
    R r.closeBranch.parts (r.withParts k).closeBranch.parts
  closeRepeat : ∀ {r : Reader} {k} (least most greedy), R r.parts k →
    R (r.closeRepeat least most greedy).parts ((r.withParts k).closeRepeat least most greedy).parts

namespace Respects

variable (hR : Respects R)

include hR

theorem pushAtom (h : R r.parts k) (a : Atom) :
    Lifts R (r.pushAtom a) ((r.withParts k).pushAtom a) := by
  cases a with
  | char c byte => exact .ite .error (.ok (hR.push ⟨_, _, _⟩ h (Expr.simplified_ofSet _)) rfl)
  | set s => exact .ok (hR.push _ h (Expr.simplified_ofSet _)) rfl
  | look l => exact .ok (hR.push ⟨_, _, _⟩ h rfl) rfl

theorem deliver (h : R r.parts k) (site : Site) (a : Atom) :
    Lifts R (r.deliver site a) ((r.withParts k).deliver site a) := by
  cases site with
  | sequence => exact hR.pushAtom h a
  | bracket =>
    cases a with
    | char | set => exact .ok h rfl
    | look => exact .error
  | rangeEnd low =>
    cases a with
    | char c byte => exact .bind_left fun high => .ite .error (.mapBracket h _ _)
    | set | look => exact .error

theorem closeBracket (h : R r.parts k) : Lifts R r.closeBracket (r.withParts k).closeBracket := by
  simp only [Reader.closeBracket, flags_withParts, brackets_withParts]
  split
  · exact .error
  · rename_i b outer _
    have houter : R { r with brackets := outer }.parts k := h
    refine .bind_left fun (s, depth) => .ite ?_ ?_
    · exact .ok (hR.push ⟨_, _, _⟩ houter (Expr.simplified_ofSet _)) rfl
    · exact .mapBracket houter _ _

theorem startRepeat (h : R r.parts k) (mode : Mode) :
    Lifts R (r.startRepeat mode) ((r.withParts k).startRepeat mode) := by
  have hhead : (r.withParts k).pieces.head? = r.pieces.head? := (hR.head? h).symm
  rw [startRepeat_eq, startRepeat_eq, hhead]
  exact .ite (.ok h rfl) .error

theorem sequenceChar (h : R r.parts k) (c : Char) :
    Lifts R (r.sequenceChar c) ((r.withParts k).sequenceChar c) := by
  unfold Reader.sequenceChar
  split
  · exact .ok h rfl
  · exact hR.closeGroup h
  · exact .ok (hR.closeBranch h) rfl
  · exact .ok h rfl
  · exact hR.startRepeat h _
  · exact hR.startRepeat h _
  · exact hR.startRepeat h _
  · exact hR.startRepeat h _
  · exact .ok h rfl
  · exact hR.pushAtom h _
  · exact hR.pushAtom h _
  · exact .ite (.ok (hR.push ⟨_, _, _⟩ h (Expr.simplified_ofSet _)) rfl) .error
  · exact hR.pushAtom h _

/-! ## Brackets -/

theorem bracketChar (h : R r.parts k) (c : Char) :
    Lifts R (r.bracketChar c) ((r.withParts k).bracketChar c) := by
  unfold Reader.bracketChar
  split
  · exact .ok h rfl
  · exact hR.closeBracket h
  · exact .ok h rfl
  · exact .ite (.ok h rfl) (.ok h rfl)

theorem bracketItemChar (h : R r.parts k) (atom : Atom) (c : Char) :
    Lifts R (r.bracketItemChar atom c) ((r.withParts k).bracketItemChar atom c) :=
  .ite (.ok h rfl) ((Lifts.addItem h atom).bind fun _ _ h => hR.bracketChar h c)

theorem bracketRangeChar (h : R r.parts k) (low : Nat) (c : Char) :
    Lifts R (r.bracketRangeChar low c) ((r.withParts k).bracketRangeChar low c) :=
  .ite (.ok h rfl) (hR.deliver h _ _)

theorem bracketHyphenChar (h : R r.parts k) (atom : Atom) (spaced : Bool) (c : Char) :
    Lifts R (r.bracketHyphenChar atom spaced c)
      ((r.withParts k).bracketHyphenChar atom spaced c) := by
  refine .ite ?_ (.ite ?_ ?_)
  · refine (Lifts.addItem h atom).bind fun r k h => ?_
    exact (Lifts.addItem h _).bind fun r k h => hR.closeBracket h
  · exact (Lifts.addItem h atom).bind fun r k h => .ite (.ok h rfl) (.mapBracket h _ _)
  · exact .bind_left fun low => hR.bracketRangeChar h low c

theorem bracketFrontChar (h : R r.parts k) (hyphen : Bool) (c : Char) :
    Lifts R (r.bracketFrontChar hyphen c) ((r.withParts k).bracketFrontChar hyphen c) := by
  refine .ite ?_ (.ite ?_ ?_)
  · exact (Lifts.addItem h _).bind fun r k h => .ok h rfl
  · exact .addItem h _
  · exact hR.bracketChar h c

/-! ## Groups -/

theorem openCapture (h : R r.parts k) : R r.openCapture.parts (r.withParts k).openCapture.parts :=
  hR.openGroup _ r.flags h

theorem flagChar (h : R r.parts k) (read : List Char) (off : Bool) (made : Flags) (c : Char) :
    Lifts R (r.flagChar read off made c) ((r.withParts k).flagChar read off made c) := by
  refine .ite (.ite .error (.ite ?_ (.ite .error ?_))) (.ite (.ite .error (.ok h rfl)) ?_)
  · exact .ok (hR.openGroup none made h) rfl
  · exact .ok (hR.push ⟨_, _, _⟩ h rfl) rfl
  · split
    · exact .error
    · exact .ite .error (.ok h rfl)

theorem groupNameChar (h : R r.parts k) (read : List Char) (c : Char) :
    Lifts R (r.groupNameChar read c) ((r.withParts k).groupNameChar read c) := by
  refine .ite (.ite .error (.ite .error ?_)) (.ite (.ok h rfl) .error)
  exact .ok (hR.openCapture h) rfl

/-! ## Escapes -/

theorem escapeChar (h : R r.parts k) (site : Site) (c : Char) :
    Lifts R (r.escapeChar site c) ((r.withParts k).escapeChar site c) := by
  simp only [Reader.escapeChar, flags_withParts]
  split
  · exact .bind_left fun s => hR.deliver h site _
  · refine .ite .error ?_
    split
    · exact .ok h rfl
    · exact .ok h rfl
    · exact .ok h rfl
    · exact .ok h rfl
    · exact .ok h rfl
    · exact .ite (.ok h rfl) .error
    · split
      · exact hR.deliver h site _
      · exact .error

theorem deliverCode (h : R r.parts k) (site : Site) (byte : Bool) (code : Nat) :
    Lifts R (r.deliverCode site byte code) ((r.withParts k).deliverCode site byte code) :=
  .ite (hR.deliver h site _) .error

theorem hexDigitsChar (h : R r.parts k) (site : Site) (digits left value : Nat) (c : Char) :
    Lifts R (r.hexDigitsChar site digits left value c)
      ((r.withParts k).hexDigitsChar site digits left value c) := by
  unfold Reader.hexDigitsChar
  split
  · exact .error
  · exact .ite (hR.deliverCode h _ _ _) (.ok h rfl)

theorem hexBraceChar (h : R r.parts k) (site : Site) (value : Option Nat) (c : Char) :
    Lifts R (r.hexBraceChar site value c) ((r.withParts k).hexBraceChar site value c) := by
  unfold Reader.hexBraceChar
  split
  · exact hR.deliverCode h _ _ _
  · split
    · exact .error
    · exact .ok h rfl

theorem deliverProperty (h : R r.parts k) (site : Site) (negated : Bool) (name : List Char) :
    Lifts R (r.deliverProperty site negated name)
      ((r.withParts k).deliverProperty site negated name) := by
  refine .ite .error ?_
  split
  · exact .error
  · exact .bind_left fun s => hR.deliver h site _

/-! ## Characters -/

theorem closeRepeat_ok (h : R r.parts k) (least : Nat) (most : Option Nat) (greedy : Bool) :
    Lifts R (.ok (r.closeRepeat least most greedy))
      (.ok ((r.withParts k).closeRepeat least most greedy)) :=
  .ok (hR.closeRepeat _ _ _ h) (closeRepeat_withParts _ _ _)

theorem skipping_closeRepeat (h : R r.parts k) (least : Nat) (most : Option Nat) (c : Char) :
    Lifts R (skipping Reader.sequenceChar (r.closeRepeat least most true) c)
      (skipping Reader.sequenceChar ((r.withParts k).closeRepeat least most true) c) := by
  have hrepeat := hR.closeRepeat least most true h
  rw [closeRepeat_withParts]
  exact .skipping hrepeat c (hR.sequenceChar hrepeat c)

theorem modeChar (h : R r.parts k) (c : Char) :
    Lifts R (r.modeChar c) ((r.withParts k).modeChar c) := by
  have hword {edge : WordEdge} :
      Lifts R (r.pushAtom (.look (.word edge (!r.flags.unicode))))
        ((r.withParts k).pushAtom (.look (.word edge (!(r.withParts k).flags.unicode)))) :=
    hR.pushAtom h _
  simp only [Reader.modeChar, mode_withParts]
  split
  · exact hR.sequenceChar h c
  · exact .ite (.ok h rfl) (hR.sequenceChar (hR.openCapture h) c)
  · split
    · exact .error
    · exact .error
    · exact .ok h rfl
    · exact .ok h rfl
    · exact hR.flagChar h _ _ _ c
  · exact .ite (.ok h rfl) .error
  · exact .ite .error (hR.groupNameChar h [] c)
  · exact hR.groupNameChar h _ c
  · exact hR.flagChar h _ _ _ c
  · exact .ite (hR.closeRepeat_ok h _ _ _) (hR.skipping_closeRepeat h _ _ c)
  · exact .ite (hR.closeRepeat_ok h _ _ _) (hR.skipping_closeRepeat h _ _ c)
  · exact .countLeastChar h _ _ c
  · exact .ite (.ok h rfl) (.countMostChar h _ _ _ c)
  · exact .countMostChar h _ _ _ c
  · exact hR.escapeChar h _ c
  · exact .ite (.ok h rfl) (hR.hexDigitsChar h _ _ _ _ c)
  · exact hR.hexDigitsChar h _ _ _ _ c
  · exact hR.hexBraceChar h _ _ c
  · exact .ite (.ok h rfl) (hR.deliverProperty h _ _ _)
  · exact .ite (hR.deliverProperty h _ _ _) (.ok h rfl)
  · exact .ite (.ok h rfl) (hword.bind fun _ _ h => .skipping h c (hR.sequenceChar h c))
  · exact .ite (.ok h rfl) (hword.bind fun _ _ h => .countLeastChar h _ _ c)
  · refine .ite (.ok h rfl) ?_
    split
    · exact hword
    · exact .error
  · exact .ite (.mapBracket h _ _) (hR.bracketFrontChar h _ c)
  · exact hR.bracketFrontChar h _ c
  · exact hR.bracketChar h c
  · split
    · rename_i p _ _ op _
      have hitem : R (r.goto (.bracketItem (.char p false))).parts k := h
      exact .ite (.mapBracket h _ _) (.skipping hitem c (hR.bracketItemChar hitem _ c))
    · exact .error
  · exact hR.bracketItemChar h _ c
  · exact hR.bracketHyphenChar h _ _ c
  · exact hR.bracketRangeChar h _ c
  · exact hR.bracketChar h c
  · exact hR.bracketChar h c

theorem plainStep (h : R r.parts k) (c : Char) :
    Lifts R (r.plainStep c) ((r.withParts k).plainStep c) :=
  .skipping h c (hR.modeChar h c)

theorem bracketFormStep (h : R r.parts k) (read : List Char) (c : Char) :
    Lifts R (r.bracketFormStep read c) ((r.withParts k).bracketFormStep read c) := by
  simp only [Reader.bracketFormStep, flags_withParts]
  split
  · exact .bind_left fun s => .mapBracket h _ _
  · refine .ite (.ok h rfl) ?_
    have hopen : R r.openBracket.parts k := h
    exact (Lifts.foldlM (fun _ _ a h => hR.plainStep h a) hopen _).bind
      fun _ _ h => hR.plainStep h c

theorem bracketRemarkStep (h : R r.parts k) (atom : Atom) (ended : Bool) (c : Char) :
    Lifts R (r.bracketRemarkStep atom ended c)
      ((r.withParts k).bracketRemarkStep atom ended c) := by
  have hgo (r : Reader) (k : Parts) (h : R r.parts k) :
      Lifts R (if ended then r.plainStep c else pure { r with comment := true })
        (if ended then (r.withParts k).plainStep c
          else pure { r.withParts k with comment := true }) :=
    .ite (hR.plainStep h c) (.ok h rfl)
  refine .ite (.ok h rfl) (.ite ?_ ?_)
  · exact (Lifts.addItem h atom).bind fun r k h => hgo _ k h
  · exact .bind_left fun low => hgo _ k h

/-- A character does the same to readers whose parts are related, and the parts stay related. -/
theorem step (h : R r.parts k) (c : Char) : Lifts R (r.step c) ((r.withParts k).step c) := by
  refine .ite (.ok h rfl) ?_
  rw [mode_withParts]
  split
  · exact hR.bracketFormStep h _ c
  · exact hR.bracketRemarkStep h _ _ c
  · exact hR.plainStep h c

theorem feedAll (h : R r.parts k) (text : List Char) :
    Lifts R (r.feedAll text) ((r.withParts k).feedAll text) :=
  .foldlM (fun _ _ c h => hR.step h c) h text

theorem settle (h : R r.parts k) : Lifts R r.settle (r.withParts k).settle := by
  unfold Reader.settle
  rw [mode_withParts]
  split
  · exact .ok h rfl
  · exact hR.closeRepeat_ok h _ _ _
  · exact hR.closeRepeat_ok h _ _ _
  · exact hR.pushAtom h _
  all_goals exact .error

end Respects

/-! ## Properties of the parts -/

/-- A property of parts that holds on however the parts grow and are put together. -/
structure Keeps (P : Parts → Prop) : Prop where
  push : ∀ {r : Reader} (piece : Piece), P r.parts → piece.expr.Simplified → P (r.push piece).parts
  openGroup : ∀ {r : Reader} (index flags), P r.parts → P (r.openGroup index flags).parts
  closeGroup : ∀ {r s : Reader}, P r.parts → r.closeGroup = .ok s → P s.parts
  closeBranch : ∀ {r : Reader}, P r.parts → P r.closeBranch.parts
  closeRepeat : ∀ {r : Reader} (least most greedy), P r.parts →
    P (r.closeRepeat least most greedy).parts

namespace Keeps

variable {P : Parts → Prop} {s : Reader}

theorem respects (hP : Keeps P) : Respects fun j k => k = j ∧ P j where
  head? := by
    rintro j _ ⟨rfl, -⟩
    rfl
  push := by
    rintro r _ piece ⟨rfl, h⟩ hpiece
    exact ⟨rfl, hP.push piece h hpiece⟩
  openGroup := by
    rintro r _ index flags ⟨rfl, h⟩
    exact ⟨rfl, hP.openGroup index flags h⟩
  closeGroup := by
    rintro r _ ⟨rfl, h⟩
    change Lifts _ r.closeGroup r.closeGroup
    cases hs : r.closeGroup with
    | error e => exact .error
    | ok s => exact .ok ⟨rfl, hP.closeGroup h hs⟩ rfl
  closeBranch := by
    rintro r _ ⟨rfl, h⟩
    exact ⟨rfl, hP.closeBranch h⟩
  closeRepeat := by
    rintro r _ least most greedy ⟨rfl, h⟩
    exact ⟨rfl, hP.closeRepeat least most greedy h⟩

theorem feedAll (hP : Keeps P) (h : P r.parts) {text : List Char} (hs : r.feedAll text = .ok s) :
    P s.parts := by
  obtain ⟨_, -, -, hs⟩ := (hP.respects.feedAll ⟨rfl, h⟩ text).exists_of_eq_ok hs
  exact hs

theorem settle (hP : Keeps P) (h : P r.parts) (hs : r.settle = .ok s) : P s.parts := by
  obtain ⟨_, -, -, hs⟩ := (hP.respects.settle ⟨rfl, h⟩).exists_of_eq_ok hs
  exact hs

end Keeps
end Reader
end PushdownLexer
