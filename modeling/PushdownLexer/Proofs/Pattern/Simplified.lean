import Mathlib.Data.List.Basic
import PushdownLexer.Pattern.Expr

/-!
# Simplified expressions

The builders of expressions keep them simplified: what they build is not changed by being put into a
sequence of its own. So a group may be opened and closed around an expression without changing it.

## Main definitions

* `Expr.Simplified`: a sequence of the expression alone is the expression.
* `Expr.IsFactor`, `Expr.Joined`: what the parts of a simplified sequence are like.

## Main statements

* `Expr.simplified_sequence`, `Expr.simplified_alternation`, `Expr.simplified_repetition`: what the
  builders build is simplified.
-/

namespace PushdownLexer

namespace Expr

/-- A sequence of this expression alone is the expression. -/
def Simplified (e : Expr) : Prop := sequence [e] = e

/-- An expression that is neither empty nor a sequence. -/
def IsFactor (e : Expr) : Prop := factors e = [e]

/-- No literal comes right after another one. -/
def Joined : List Expr → Prop
  | literal _ :: literal _ :: _ => False
  | _ :: es => Joined es
  | [] => True

variable {e e' : Expr} {es : List Expr}

theorem isFactor_of_mem_factors (h : e ∈ factors e') : IsFactor e := by
  fun_induction factors e' with
  | case1 a b iha ihb => exact (List.mem_append.1 h).elim iha ihb
  | case2 => cases h
  | case3 e' hcat hempty =>
    rw [List.mem_singleton] at h
    rw [h, IsFactor, factors]
    · exact hcat
    · exact hempty

theorem isFactor_of_mem_joinLiterals (h : ∀ e ∈ es, IsFactor e) :
    ∀ e ∈ joinLiterals es, IsFactor e := by
  fun_induction joinLiterals es with
  | case1 => exact h
  | case2 rest cs ds tail hrest ih =>
    have hrest' := ih (List.forall_mem_cons.1 h).2
    rw [hrest] at hrest'
    exact List.forall_mem_cons.2 ⟨rfl, (List.forall_mem_cons.1 hrest').2⟩
  | case3 e rest hno ih =>
    exact List.forall_mem_cons.2 ⟨(List.forall_mem_cons.1 h).1, ih (List.forall_mem_cons.1 h).2⟩

theorem joined_joinLiterals (es : List Expr) : Joined (joinLiterals es) := by
  fun_induction joinLiterals es with
  | case1 => trivial
  | case2 rest cs ds tail hrest ih =>
    rw [hrest] at ih
    cases tail with
    | nil => trivial
    | cons a tail => cases a <;> exact ih
  | case3 e rest hno ih =>
    rw [Joined]
    · exact ih
    · rintro cs ds tail ⟨⟩
      grind

theorem joinLiterals_of_joined (h : Joined es) : joinLiterals es = es := by
  fun_induction Joined es with
  | case1 => exact h.elim
  | case2 e es hno ih =>
    rw [joinLiterals, ih h]
    grind
  | case3 => rfl

theorem factors_ofFactors (h : ∀ e ∈ es, IsFactor e) : factors (ofFactors es) = es := by
  fun_induction ofFactors es with
  | case1 => rfl
  | case2 e => exact h e (List.mem_singleton_self e)
  | case3 e rest hrest ih =>
    obtain ⟨he, hes⟩ := List.forall_mem_cons.1 h
    rw [factors, he, ih hes, List.singleton_append]

theorem simplified_sequence (es : List Expr) : (sequence es).Simplified := by
  have hfactors : ∀ e ∈ joinLiterals (es.flatMap factors), IsFactor e :=
    isFactor_of_mem_joinLiterals fun e he => by
      obtain ⟨a, -, ha⟩ := List.mem_flatMap.1 he
      exact isFactor_of_mem_factors ha
  rw [Simplified, sequence, List.flatMap_singleton, sequence, factors_ofFactors hfactors,
    joinLiterals_of_joined (joined_joinLiterals _)]

/-- A condition is joined with nothing that comes after it. -/
theorem sequence_look (l : Look) (es : List Expr) :
    sequence (look l :: es) = ofFactors (look l :: joinLiterals (es.flatMap factors)) := rfl

/-- A condition in front of a simplified expression. -/
theorem sequence_look_singleton (h : e.Simplified) (l : Look) :
    sequence [look l, e] = if e = empty then look l else cat (look l) e := by
  rw [Simplified, sequence, List.flatMap_singleton] at h
  rw [sequence_look, List.flatMap_singleton]
  split_ifs with hempty
  · rw [hempty]
    rfl
  · cases hfactors : joinLiterals (factors e) with
    | nil =>
      rw [hfactors] at h
      exact absurd h.symm hempty
    | cons a as =>
      rw [← hfactors, ofFactors, h]
      simp [hfactors]

theorem simplified_ofSet (s : CharSet) : (ofSet s).Simplified := by
  unfold Expr.ofSet
  split <;> rfl

theorem simplified_repetition (h : e.Simplified) (least : Nat) (most : Option Nat) (greedy : Bool) :
    (repetition e least most greedy).Simplified := by
  unfold repetition
  extract_lets
  split_ifs
  · rfl
  · exact h
  · rfl

theorem choices_ne_nil (e : Expr) : choices e ≠ [] := by
  induction e <;> simp_all [choices]

theorem length_le_length_flatMap_choices (es : List Expr) :
    es.length ≤ (es.flatMap choices).length := by
  induction es with
  | nil => simp
  | cons e es ih =>
    have := List.length_pos_iff.2 (choices_ne_nil e)
    rw [List.flatMap_cons, List.length_append, List.length_cons]
    omega

theorem simplified_ofChoices (h : 2 ≤ es.length) : (ofChoices es).Simplified := by
  match es, h with
  | _ :: _ :: _, _ => rfl

theorem simplified_alternation (h : 2 ≤ es.length) : (alternation es).Simplified := by
  have hcs := Nat.le_trans h (length_le_length_flatMap_choices es)
  unfold alternation
  rw [alternationWithin]
  split
  · rename_i e hcs'
    rw [hcs', List.length_singleton] at hcs
    omega
  · split
    · exact simplified_ofSet _
    · exact simplified_ofSet _
    · extract_lets parts shared
      split_ifs
      · exact simplified_ofChoices hcs
      · exact simplified_sequence _

end Expr
end PushdownLexer
