import Mathlib.Data.List.Infix
import PushdownLexer.Pattern.Reader.Step

/-!
# What a closing parenthesis closes

A closing parenthesis needs an open group only where the part before it is whole. Where a name, a
count, an escape or a bracket is being read, it belongs to that or is an error of another kind. So
reading fails for want of an open group just where the text could have ended as well.

What makes this more than a look at the modes is the beginning of a form such as `[:alpha:]`, which
is read again if it turns out to be none. Then it begins a bracket, and none of its characters ends
the bracket.

## Main definitions

* `Gives`: a property of the result, where a failure has another cause than a missing group.
* `Reader.Formed`: what has been read of a form is the beginning of one.
* `Reader.Whole`: the text can end here, outside of all groups.

## Main statements

* `Reader.formed_feedAll`: every reader that reading a text leads to is formed.
* `Reader.step_eq_unopened_iff`: no group is there to be closed just where the text can end.
-/

namespace PushdownLexer

/-- The result has the property `P`, or there is none, and the cause is another one than that a
group is closed that is not open. -/
def Gives {α : Type} (P : α → Prop) : Except PatternError α → Prop
  | .ok a => P a
  | .error e => e ≠ .unopenedGroup

namespace Gives

variable {α β : Type} {P : α → Prop} {Q : β → Prop} {x y : Except PatternError α}

theorem ok {a : α} (h : P a) : Gives P (.ok a) := h

theorem error {e : PatternError} (h : e ≠ .unopenedGroup) : Gives P (.error e) := h

theorem ite {p : Prop} [Decidable p] (hx : Gives P x) (hy : Gives P y) :
    Gives P (if p then x else y) := by
  by_cases hp : p
  · rwa [if_pos hp]
  · rwa [if_neg hp]

theorem bind {f : α → Except PatternError β} (h : Gives P x) (hf : ∀ a, P a → Gives Q (f a)) :
    Gives Q (x >>= f) := by
  cases x with
  | error e => exact h
  | ok a => exact hf a h

theorem foldlM {f : α → β → Except PatternError α} {bs : List β}
    (hf : ∀ a b, P a → b ∈ bs → Gives P (f a b)) {a : α} (h : P a) : Gives P (bs.foldlM f a) := by
  induction bs generalizing a with
  | nil => exact h
  | cons b bs ih =>
    have hhead : Gives P (f a b) := hf a b h List.mem_cons_self
    exact hhead.bind fun a h => ih (fun a b' h hb => hf a b' h (List.mem_cons_of_mem b hb)) h

end Gives

theorem gives_negate (flags : Flags) (negated : Bool) (s : CharSet) :
    Gives (fun _ => True) (flags.negate negated s) :=
  .ite (.ok trivial) (.ite (.ok trivial) (.error nofun))

theorem Bracket.gives_close (b : Bracket) (flags : Flags) :
    Gives (fun _ => True) (b.close flags) :=
  (gives_negate flags _ _).bind fun _ _ => .ok trivial

namespace Reader

variable {r s : Reader} {c : Char}

/-- What has been read of a form is the beginning of one, and not yet all of it. -/
def Formed (r : Reader) : Prop :=
  match r.mode with
  | .bracketForm read => ∃ form ∈ NamedSet.bracketForms, read <+: form.text.dropLast
  | _ => True

/-- The text can end here: nothing is half read, and no group and no comment is open. -/
def Whole (r : Reader) : Prop := r.comment = false ∧ ∃ s, r.settle = .ok s ∧ s.groups = []

/-! ## The values of items and counts -/

theorem gives_bracketCode (flags : Flags) (c : Char) (byte : Bool) :
    Gives (fun _ => True) (bracketCode flags c byte) := by
  refine .ite (.ok trivial) (.error ?_)
  cases byte <;> nofun

theorem gives_itemSet (flags : Flags) (a : Atom) : Gives (fun _ => True) (itemSet flags a) := by
  cases a with
  | char c byte => exact (gives_bracketCode flags c byte).bind fun _ _ => .ok trivial
  | set s => exact .ok trivial
  | look l => exact .error nofun

theorem gives_rangeLow (flags : Flags) (a : Atom) : Gives (fun _ => True) (rangeLow flags a) := by
  cases a with
  | char c byte => exact gives_bracketCode flags c byte
  | set | look => exact .error nofun

theorem gives_countDigit (value : Option Nat) (spaced : Bool) (c : Char) :
    Gives (fun _ => True) (countDigit value spaced c) := by
  unfold countDigit
  split
  · exact .ite (.error nofun) (.ok trivial)
  · exact .error nofun

/-! ## Parts and brackets -/

theorem formed_pushAtom (r : Reader) (a : Atom) : Gives Formed (r.pushAtom a) := by
  cases a with
  | char c byte => exact .ite (.error nofun) (.ok trivial)
  | set | look => exact .ok trivial

theorem formed_addItem (r : Reader) (a : Atom) : Gives Formed (r.addItem a) :=
  (gives_itemSet r.flags a).bind fun _ _ => .ok trivial

theorem formed_deliver (r : Reader) (site : Site) (a : Atom) : Gives Formed (r.deliver site a) := by
  cases site with
  | sequence => exact formed_pushAtom r a
  | bracket =>
    cases a with
    | char | set => exact .ok trivial
    | look => exact .error nofun
  | rangeEnd low =>
    cases a with
    | char c byte =>
      exact (gives_bracketCode r.flags c byte).bind fun _ _ => .ite (.error nofun) (.ok trivial)
    | set | look => exact .error nofun

theorem formed_closeBracket (r : Reader) : Gives Formed r.closeBracket := by
  unfold closeBracket
  split
  · exact .error nofun
  · exact (Bracket.gives_close _ _).bind fun _ _ => .ite (.ok trivial) (.ok trivial)

theorem formed_startRepeat (r : Reader) {mode : Mode} (h : Formed (r.goto mode)) :
    Gives Formed (r.startRepeat mode) := by
  unfold startRepeat
  split
  · exact .ite (.ok h) (.error nofun)
  · exact .error nofun

theorem formed_sequenceChar (h : Formed r) (hc : c ≠ ')') : Gives Formed (r.sequenceChar c) := by
  unfold sequenceChar
  split
  · exact .ok trivial
  · exact absurd rfl hc
  · exact .ok h
  · exact .ok trivial
  · exact formed_startRepeat r trivial
  · exact formed_startRepeat r trivial
  · exact formed_startRepeat r trivial
  · exact formed_startRepeat r trivial
  · exact .ok trivial
  · exact formed_pushAtom r _
  · exact formed_pushAtom r _
  · exact .ite (.ok trivial) (.error nofun)
  · exact formed_pushAtom r _

/-- A group has just been opened, so it can be closed. -/
theorem formed_openCapture (r : Reader) (c : Char) :
    Gives Formed (r.openCapture.sequenceChar c) := by
  by_cases hc : c = ')'
  · subst hc
    exact .ok trivial
  · exact formed_sequenceChar trivial hc

theorem formed_bracketChar (r : Reader) (c : Char) : Gives Formed (r.bracketChar c) := by
  have hform : ∃ form ∈ NamedSet.bracketForms, ['['] <+: form.text.dropLast := by decide
  unfold bracketChar
  split
  · exact .ok hform
  · exact formed_closeBracket r
  · exact .ok trivial
  · exact .ite (.ok trivial) (.ok trivial)

theorem formed_bracketItemChar (atom : Atom) (r : Reader) (c : Char) :
    Gives Formed (r.bracketItemChar atom c) :=
  .ite (.ok trivial) ((formed_addItem r atom).bind fun r _ => formed_bracketChar r c)

theorem formed_bracketRangeChar (low : Nat) (r : Reader) (c : Char) :
    Gives Formed (r.bracketRangeChar low c) :=
  .ite (.ok trivial) (formed_deliver r _ _)

theorem formed_bracketHyphenChar (atom : Atom) (spaced : Bool) (r : Reader) (c : Char) :
    Gives Formed (r.bracketHyphenChar atom spaced c) := by
  refine .ite ?_ (.ite ?_ ?_)
  · refine (formed_addItem r atom).bind fun r _ => ?_
    exact (formed_addItem r _).bind fun r _ => formed_closeBracket r
  · exact (formed_addItem r atom).bind fun r _ => .ite (.ok trivial) (.ok trivial)
  · exact (gives_rangeLow r.flags atom).bind fun low _ => formed_bracketRangeChar low r c

theorem formed_bracketFrontChar (hyphen : Bool) (r : Reader) (c : Char) :
    Gives Formed (r.bracketFrontChar hyphen c) := by
  refine .ite ?_ (.ite ?_ ?_)
  · exact (formed_addItem r _).bind fun _ _ => .ok trivial
  · exact formed_addItem r _
  · exact formed_bracketChar r c

/-! ## Groups, counts and escapes -/

theorem formed_flagChar (read : List Char) (off : Bool) (made : Flags) (r : Reader) (c : Char) :
    Gives Formed (r.flagChar read off made c) := by
  refine .ite (.ite (.error nofun) (.ite (.ok trivial) (.ite (.error nofun) (.ok trivial))))
    (.ite (.ite (.error nofun) (.ok trivial)) ?_)
  split
  · exact .error nofun
  · exact .ite (.error nofun) (.ok trivial)

theorem formed_groupNameChar (read : List Char) (r : Reader) (c : Char) :
    Gives Formed (r.groupNameChar read c) :=
  .ite (.ite (.error nofun) (.ite (.error nofun) (.ok trivial)))
    (.ite (.ok trivial) (.error nofun))

theorem formed_countLeastChar (value : Option Nat) (spaced : Bool) (r : Reader) (c : Char) :
    Gives Formed (r.countLeastChar value spaced c) := by
  refine .ite (.ok trivial) ?_
  split
  · exact .ok trivial
  · exact .ok trivial
  · exact (gives_countDigit value spaced c).bind fun _ _ => .ok trivial

theorem formed_countMostChar (least : Nat) (value : Option Nat) (spaced : Bool) (r : Reader)
    (c : Char) : Gives Formed (r.countMostChar least value spaced c) := by
  refine .ite (.ok trivial) ?_
  split
  · exact .ite (.error nofun) (.ok trivial)
  · exact (gives_countDigit value spaced c).bind fun _ _ => .ok trivial

theorem gives_letterSet {flags : Flags} {s : Except PatternError CharSet}
    (hs : letterSet? flags c = some s) : Gives (fun _ => True) s := by
  unfold letterSet? at hs
  split at hs
  · cases hs
    exact .ok trivial
  · split_ifs at hs
    obtain ⟨s, -, rfl⟩ := Option.map_eq_some_iff.1 hs
    exact gives_negate flags true s

theorem formed_escapeChar (site : Site) (r : Reader) (c : Char) :
    Gives Formed (r.escapeChar site c) := by
  unfold escapeChar
  split
  · rename_i s hs
    exact (gives_letterSet hs).bind fun s _ => formed_deliver r site _
  · refine .ite (.error nofun) ?_
    split
    · exact .ok trivial
    · exact .ok trivial
    · exact .ok trivial
    · exact .ok trivial
    · exact .ok trivial
    · exact .ite (.ok trivial) (.error nofun)
    · split
      · exact formed_deliver r site _
      · exact .error nofun

theorem formed_deliverCode (site : Site) (byte : Bool) (r : Reader) (code : Nat) :
    Gives Formed (r.deliverCode site byte code) :=
  .ite (formed_deliver r site _) (.error nofun)

theorem formed_hexDigitsChar (site : Site) (digits left value : Nat) (r : Reader) (c : Char) :
    Gives Formed (r.hexDigitsChar site digits left value c) := by
  unfold hexDigitsChar
  split
  · exact .error nofun
  · exact .ite (formed_deliverCode site _ r _) (.ok trivial)

theorem formed_hexBraceChar (site : Site) (value : Option Nat) (r : Reader) (c : Char) :
    Gives Formed (r.hexBraceChar site value c) := by
  unfold hexBraceChar
  split
  · exact formed_deliverCode site false r _
  · split
    · exact .error nofun
    · exact .ok trivial

theorem formed_deliverProperty (site : Site) (negated : Bool) (r : Reader) (name : List Char) :
    Gives Formed (r.deliverProperty site negated name) := by
  refine .ite (.error nofun) ?_
  split
  · exact .error nofun
  · exact (gives_negate r.flags _ _).bind fun s _ => formed_deliver r site _

/-! ## Characters -/

theorem formed_skipping {go : Reader → Char → Except PatternError Reader} (h : Formed r)
    (hgo : Gives Formed (go r c)) : Gives Formed (skipping go r c) := by
  refine .ite (.ok ?_) (.ite (.ok ?_) hgo)
  · cases hmode : r.mode <;> simp_all [Formed, Mode.afterBlank, goto]
  · cases hmode : r.mode <;> simp_all [Formed, startComment, goto]

theorem formed_closeRepeat (r : Reader) (least : Nat) (most : Option Nat) (greedy : Bool) :
    Formed (r.closeRepeat least most greedy) := by
  unfold closeRepeat
  split <;> trivial

theorem formed_modeChar (h : Formed r) (hc : c = ')' → ∀ s, r.settle ≠ .ok s) :
    Gives Formed (r.modeChar c) := by
  have hword {edge : WordEdge} :
      Gives Formed (r.pushAtom (.look (.word edge (!r.flags.unicode)))) := formed_pushAtom r _
  -- where the text may end, `hc` says that the character is no closing parenthesis
  unfold settle at hc
  unfold modeChar
  split
  all_goals rename_i hmode
  all_goals simp only [hmode] at hc
  · exact formed_sequenceChar h fun h => hc h _ rfl
  · exact .ite (.ok trivial) (formed_openCapture r c)
  · split
    · exact .error nofun
    · exact .error nofun
    · exact .ok trivial
    · exact .ok trivial
    · exact formed_flagChar [] false r.flags r c
  · exact .ite (.ok trivial) (.error nofun)
  · exact .ite (.error nofun) (formed_groupNameChar [] r c)
  · exact formed_groupNameChar _ r c
  · exact formed_flagChar _ _ _ r c
  · have hrepeat := formed_closeRepeat r
    refine .ite (.ok (hrepeat _ _ _)) (formed_skipping (hrepeat _ _ _) ?_)
    exact formed_sequenceChar (hrepeat _ _ _) fun h => hc h _ rfl
  · have hrepeat := formed_closeRepeat r
    refine .ite (.ok (hrepeat _ _ _)) (formed_skipping (hrepeat _ _ _) ?_)
    exact formed_sequenceChar (hrepeat _ _ _) fun h => hc h _ rfl
  · exact formed_countLeastChar _ _ r c
  · exact .ite (.ok trivial) (formed_countMostChar _ _ _ r c)
  · exact formed_countMostChar _ _ _ r c
  · exact formed_escapeChar _ r c
  · exact .ite (.ok trivial) (formed_hexDigitsChar _ _ _ _ r c)
  · exact formed_hexDigitsChar _ _ _ _ r c
  · exact formed_hexBraceChar _ _ r c
  · exact .ite (.ok trivial) (formed_deliverProperty _ _ r _)
  · exact .ite (formed_deliverProperty _ _ r _) (.ok trivial)
  · refine .ite (.ok trivial) (hword.bind fun s hs => formed_skipping hs ?_)
    exact formed_sequenceChar hs fun h => hc h _ rfl
  · exact .ite (.ok trivial) (hword.bind fun s _ => formed_countLeastChar _ _ s c)
  · refine .ite (.ok trivial) ?_
    split
    · exact hword
    · exact .error nofun
  · exact .ite (.ok trivial) (formed_bracketFrontChar _ r c)
  · exact formed_bracketFrontChar _ r c
  · exact formed_bracketChar r c
  · split
    · exact .ite (.ok trivial) (formed_skipping trivial (formed_bracketItemChar _ _ c))
    · exact .error nofun
  · exact formed_bracketItemChar _ r c
  · exact formed_bracketHyphenChar _ _ r c
  · exact formed_bracketRangeChar _ r c
  · exact formed_bracketChar r c
  · exact formed_bracketChar r c

theorem formed_plainStep (h : Formed r) (hc : c = ')' → ∀ s, r.settle ≠ .ok s) :
    Gives Formed (r.plainStep c) :=
  formed_skipping h (formed_modeChar h hc)

/-! ## Forms in brackets -/

/-- A bracket is open, and nothing that is doubled or escaped has begun in it. -/
def Inside (r : Reader) : Prop :=
  match r.mode with
  | .bracketOpened | .bracketFront _ | .bracketItem _ => True
  | _ => False

theorem Inside.formed (h : Inside r) : Formed r := by
  unfold Inside at h
  unfold Formed
  split at h <;> simp_all

theorem Inside.settle_ne (h : Inside r) (s : Reader) : r.settle ≠ .ok s := by
  unfold Inside at h
  unfold settle
  split at h <;> simp_all

/-- Whether a character is an item of a bracket by itself, wherever it stands in it. -/
def isItem (c : Char) : Bool := !"[]\\-&~".toList.contains c

theorem isItem_of_mem_form {form : NamedSet.BracketForm} (hform : form ∈ NamedSet.bracketForms)
    (hc : c ∈ form.text.dropLast.drop 1) : isItem c = true := by
  have hall : NamedSet.bracketForms.all (fun form => (form.text.dropLast.drop 1).all isItem) := rfl
  exact List.all_eq_true.1 (List.all_eq_true.1 hall form hform) c hc

theorem inside_skipping {go : Reader → Char → Except PatternError Reader} (h : Inside r)
    (hgo : Gives Inside (go r c)) : Gives Inside (skipping go r c) := by
  refine .ite (.ok ?_) (.ite (.ok ?_) hgo)
  · cases hmode : r.mode <;> simp_all [Inside, Mode.afterBlank, goto]
  · cases hmode : r.mode <;> simp_all [Inside, startComment]

theorem inside_bracketChar (r : Reader) (hc : isItem c = true) :
    Gives Inside (r.bracketChar c) := by
  have hop : SetOp.ofChar? c = none := by
    unfold SetOp.ofChar?
    split <;> first | rfl | exact absurd hc (by decide)
  unfold bracketChar
  split
  · exact absurd hc (by decide)
  · exact absurd hc (by decide)
  · exact absurd hc (by decide)
  · rw [hop]
    exact .ok trivial

theorem inside_bracketFrontChar (hyphen : Bool) (r : Reader) (hc : isItem c = true) :
    Gives Inside (r.bracketFrontChar hyphen c) := by
  have hhyphen : c ≠ '-' := by
    rintro rfl
    exact absurd hc (by decide)
  have hclose : c ≠ ']' := by
    rintro rfl
    exact absurd hc (by decide)
  rw [bracketFrontChar, if_neg hhyphen, if_neg (by simp [hclose])]
  exact inside_bracketChar r hc

theorem inside_plainStep (h : Inside r) (hc : isItem c = true) : Gives Inside (r.plainStep c) := by
  refine inside_skipping h ?_
  cases hmode : r.mode <;> simp only [Inside, hmode] at h
  case bracketOpened =>
    simp only [modeChar, hmode]
    exact .ite (.ok trivial) (inside_bracketFrontChar false r hc)
  case bracketFront hyphen =>
    simp only [modeChar, hmode]
    exact inside_bracketFrontChar hyphen r hc
  case bracketItem atom =>
    have hhyphen : c ≠ '-' := by
      rintro rfl
      exact absurd hc (by decide)
    simp only [modeChar, hmode, bracketItemChar, if_neg hhyphen]
    exact (formed_addItem r atom).bind fun r _ => inside_bracketChar r hc

/-- The beginning of a form is the beginning of a bracket as well. -/
theorem inside_foldlM {form : NamedSet.BracketForm} {read : List Char}
    (hform : form ∈ NamedSet.bracketForms) (hread : read <+: form.text.dropLast) (r : Reader) :
    Gives Inside ((read.drop 1).foldlM plainStep r.openBracket) := by
  refine .foldlM (fun r c h hc => inside_plainStep h ?_) trivial
  exact isItem_of_mem_form hform ((hread.drop 1).subset hc)

theorem prefix_dropLast {read text : List Char} (h : read <+: text) (hne : read ≠ text) :
    read <+: text.dropLast := by
  obtain rfl | ⟨front, c, rfl⟩ := text.eq_nil_or_concat'
  · exact h
  · obtain heq | hfront := List.prefix_concat_iff.1 h
    · exact absurd heq hne
    · rwa [List.dropLast_concat]

theorem formed_bracketFormStep (h : Formed r) {read : List Char}
    (hmode : r.mode = .bracketForm read) (c : Char) : Gives Formed (r.bracketFormStep read c) := by
  have hread : ∃ form ∈ NamedSet.bracketForms, read <+: form.text.dropLast := by
    simpa only [Formed, hmode] using h
  simp only [bracketFormStep]
  split
  · exact (gives_negate r.flags _ _).bind fun _ _ => .ok trivial
  · rename_i hnone
    split_ifs with hany
    · -- the text begins a form, and as none was found, it is not all of one
      obtain ⟨form, hform, hprefix⟩ := List.any_eq_true.1 hany
      have hne : form.text ≠ read ++ [c] := by simpa using List.find?_eq_none.1 hnone form hform
      exact .ok ⟨form, hform, prefix_dropLast (List.isPrefixOf_iff_prefix.1 hprefix) hne.symm⟩
    · obtain ⟨form, hform, hprefix⟩ := hread
      exact (inside_foldlM hform hprefix r).bind fun s hs =>
        formed_plainStep hs.formed fun _ => hs.settle_ne

theorem formed_bracketRemarkStep (atom : Atom) (ended : Bool) (r : Reader) (c : Char) :
    Gives Formed (r.bracketRemarkStep atom ended c) := by
  have hgo (s : Reader) (hs : Formed s) (hsettle : s.settle = .error .unclosedBracket) :
      Gives Formed (if ended then s.plainStep c else pure { s with comment := true }) :=
    .ite (formed_plainStep hs fun _ => by simp [hsettle]) (.ok hs)
  refine .ite (.ok trivial) (.ite ?_ ?_)
  · exact (formed_addItem r atom).bind fun s _ => hgo _ trivial rfl
  · exact (gives_rangeLow r.flags atom).bind fun low _ => hgo _ trivial rfl

theorem formed_step (h : Formed r) (hc : c = ')' → ∀ s, r.settle ≠ .ok s) :
    Gives Formed (r.step c) := by
  refine .ite (.ok h) ?_
  split
  · rename_i read hmode
    exact formed_bracketFormStep h hmode c
  · exact formed_bracketRemarkStep _ _ r c
  · exact formed_plainStep h hc

/-! ## The closing parenthesis -/

/-- A closing parenthesis settles what was being read. -/
theorem step_close (hcomment : r.comment = false) (hs : r.settle = .ok s) :
    r.step ')' = s.closeGroup := by
  have hskipping (t : Reader) (go : Reader → Char → Except PatternError Reader) :
      skipping go t ')' = go t ')' := by
    have hblank : CharClass.isBlank ')' = false := by decide
    simp [skipping, hblank]
  unfold settle at hs
  rw [step, if_neg (by simp [hcomment])]
  cases hmode : r.mode <;> simp only [hmode, reduceCtorEq] at hs
  all_goals simp only [plainStep, hskipping, modeChar, hmode]
  case sequence | repeated | counted =>
    cases hs
    rfl
  case wordEdge =>
    rw [hs]
    rfl

theorem formed_closeGroup (hs : r.closeGroup = .ok s) : Formed s := by
  unfold closeGroup at hs
  split at hs
  · cases hs
  · cases hs
    trivial

theorem formed_of_step (h : Formed r) (hs : r.step c = .ok s) : Formed s := by
  by_cases hsettle : c = ')' ∧ ∃ t, r.settle = .ok t
  · obtain ⟨rfl, t, ht⟩ := hsettle
    cases hcomment : r.comment with
    | true =>
      rw [step, if_pos hcomment] at hs
      cases hs
      exact h
    | false =>
      rw [step_close hcomment ht] at hs
      exact formed_closeGroup hs
  · have hstep : Gives Formed (r.step c) := formed_step h fun hc t ht => hsettle ⟨hc, t, ht⟩
    rwa [hs] at hstep

/-- Every reader that reading a text leads to is formed. -/
theorem formed_feedAll (h : Formed r) {text : List Char} (hs : r.feedAll text = .ok s) :
    Formed s := by
  induction text generalizing r with
  | nil =>
    cases hs
    exact h
  | cons c text ih =>
    rw [feedAll, List.foldlM_cons] at hs
    cases ht : r.step c with
    | error e => simp [ht, Bind.bind, Except.bind] at hs
    | ok t =>
      rw [ht] at hs
      exact ih (formed_of_step h ht) hs

/-- A closing parenthesis finds no group to close just where the text can end. -/
theorem step_eq_unopened_iff (h : Formed r) : r.step ')' = .error .unopenedGroup ↔ r.Whole := by
  constructor
  · intro hclose
    have hcomment : r.comment = false := by
      by_contra hcomment
      rw [step, if_pos (by simpa using hcomment)] at hclose
      cases hclose
    refine ⟨hcomment, ?_⟩
    cases hs : r.settle with
    | error e =>
      have hstep : Gives Formed (r.step ')') := formed_step h fun _ s => by simp [hs]
      rw [hclose] at hstep
      exact absurd rfl hstep
    | ok s =>
      rw [step_close hcomment hs] at hclose
      refine ⟨s, rfl, ?_⟩
      unfold closeGroup at hclose
      split at hclose
      · assumption
      · cases hclose
  · rintro ⟨hcomment, s, hs, hgroups⟩
    rw [step_close hcomment hs, closeGroup, hgroups]

end Reader
end PushdownLexer
