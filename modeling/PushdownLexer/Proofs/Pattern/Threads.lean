import Mathlib.Data.List.Basic
import PushdownLexer.Pattern.Basic

/-!
# What threads match

Threads are followed place by place. For a single thread that begins with a character, with a
literal, or with a loop over a set, the places can be passed at once: a literal passes its own
length, and a loop passes all characters of its set that are there, if nothing in the set can be
what comes after the loop.

## Main statements

* `Frontier.ofThreads_char`, `Frontier.ofThreads_loop`: what a thread waits for at a place.
* `matchThreads_literal`, `matchThreads_loop`, `matchThreads_loop_last`: what it matches in a text.
* `Node.filter_find?`: what a search finds at the start is the preferred match there.
* `find?_atCursor`: a search that is tied to the cursor is a match there.
-/

namespace PushdownLexer

variable {before : Option Char} {rest : Thread} {id body next : Nat} {set other : CharSet}
  {count : Nat} {best : Option Nat} {c : Char} {text cs : List Char} {p : Place}

namespace Frontier

/-- A thread that begins with a character waits for it. -/
theorem ofThreads_char : ofThreads p [.char id set :: rest] = ⟨{id}, [⟨set, rest⟩], false⟩ := by
  simp [ofThreads, Thread.follow, Node.enter, visit, start, wait]

/-- A loop over a set waits for one more round first, and what comes after it is followed next. -/
theorem ofThreads_loop (hid : id ≠ body) :
    ofThreads p [.loop id true (.char body set) :: rest] =
      Thread.follow p rest
        ⟨insert body {id}, [⟨set, .loop id true (.char body set) :: rest⟩], false⟩ := by
  simp [ofThreads, Thread.follow, Node.enter, visit, start, wait, hid]

theorem ofThreads_loop_last (hid : id ≠ body) :
    ofThreads p [[.loop id true (.char body set)]] =
      ⟨insert body {id}, [⟨set, [.loop id true (.char body set)]⟩], true⟩ := by
  rw [ofThreads_loop hid]
  rfl

theorem ofThreads_loop_char (hid : id ≠ body) (hnext : next ≠ id) (hnext' : next ≠ body) :
    ofThreads p [.loop id true (.char body set) :: .char next other :: rest] =
      ⟨insert next (insert body {id}),
        [⟨other, rest⟩, ⟨set, .loop id true (.char body set) :: .char next other :: rest⟩],
        false⟩ := by
  rw [ofThreads_loop hid]
  simp [Thread.follow, Node.enter, visit, wait, hnext.symm, hnext'.symm]

end Frontier

/-! ## Equations for the front of a thread -/

/-- A thread with nothing left to match has come to its end. -/
theorem matchThreads_nil : matchThreads before [[]] count best text = some count := by
  cases text <;> rfl

theorem matchThreads_cat (a b : Node) :
    matchThreads before [.cat a b :: rest] count best text =
      matchThreads before [a :: b :: rest] count best text := by
  cases text <;> rfl

theorem matchThreads_empty :
    matchThreads before [.empty :: rest] count best text =
      matchThreads before [rest] count best text := by
  cases text <;> rfl

theorem matchThreads_textStart :
    matchThreads none [.look .textStart :: rest] count best text =
      matchThreads none [rest] count best text := by
  cases text <;> rfl

theorem matchThreads_char_nil :
    matchThreads before [.char id set :: rest] count best [] = best := by
  simp [matchThreads, Frontier.ofThreads_char]

theorem matchThreads_char_cons :
    matchThreads before [.char id set :: rest] count best (c :: text) =
      if set.contains c then matchThreads (some c) [rest] (count + 1) best text else best := by
  by_cases hc : set.contains c <;>
    simp [matchThreads, Frontier.ofThreads_char, Frontier.after, hc]

/-- A character does not ask what comes before it. -/
theorem matchThreads_char_congr (before before' : Option Char) :
    matchThreads before [.char id set :: rest] count best text =
      matchThreads before' [.char id set :: rest] count best text := by
  cases text with
  | nil => simp only [matchThreads_char_nil]
  | cons c text => simp only [matchThreads_char_cons]

/-! ## Literals -/

theorem CharSet.contains_single {c d : Char} : (CharSet.single c).contains d ↔ c = d := by
  have hcode : c = d ↔ c.toNat = d.toNat := ⟨congrArg _, Char.ext ∘ UInt32.toNat_inj.1⟩
  simp [single, ofRange, contains, containsCode, hcode]
  omega

/-- A literal matches itself. -/
theorem matchThreads_literal (n : Nat) :
    matchThreads before [((Expr.literal cs).number n).1 :: rest] count best text =
      if cs <+: text then
        matchThreads (cs.foldl (fun _ c => some c) before) [rest] (count + cs.length) best
          (text.drop cs.length)
      else best := by
  rw [Expr.number]
  fun_induction Node.ofLiteral cs n generalizing before count text with
  | case1 n => simp [matchThreads_empty]
  | case2 c n =>
    cases text with
    | nil => simp [matchThreads_char_nil]
    | cons d text =>
      rw [matchThreads_char_cons]
      by_cases hcd : c = d <;> simp [CharSet.contains_single, List.cons_prefix_cons, hcd]
  | case3 c cs n _ tail m htail ih =>
    rw [htail] at ih
    rw [matchThreads_cat]
    cases text with
    | nil => simp [matchThreads_char_nil]
    | cons d text =>
      rw [matchThreads_char_cons, ih]
      by_cases hcd : c = d <;>
        simp [CharSet.contains_single, List.cons_prefix_cons, hcd, Nat.add_assoc, Nat.add_comm 1]

/-! ## Loops over a set -/

/-- A loop at the end of a thread matches all characters of its set. -/
theorem matchThreads_loop_last (hid : id ≠ body) :
    matchThreads before [[.loop id true (.char body set)]] count best text =
      some (count + (text.takeWhile set.contains).length) := by
  induction text generalizing before count best with
  | nil => simp [matchThreads, Frontier.ofThreads_loop_last hid]
  | cons c text ih =>
    by_cases hc : set.contains c
    · simp [matchThreads, Frontier.ofThreads_loop_last hid, Frontier.after, hc, ih]
      omega
    · simp [matchThreads, Frontier.ofThreads_loop_last hid, Frontier.after, hc]

/-- A loop before a character that is not in its set passes all characters of its set. -/
theorem matchThreads_loop (hid : id ≠ body) (hnext : next ≠ id) (hnext' : next ≠ body)
    (hother : ∀ c, other.contains c → ¬ set.contains c) :
    matchThreads before [.loop id true (.char body set) :: .char next other :: rest] count best
        text =
      matchThreads before [.char next other :: rest] (count + (text.takeWhile set.contains).length)
        best (text.dropWhile set.contains) := by
  induction text generalizing before count with
  | nil =>
    simp [matchThreads, Frontier.ofThreads_loop_char hid hnext hnext', Frontier.ofThreads_char]
  | cons c text ih =>
    by_cases hc : set.contains c
    · have hc' : ¬ other.contains c := fun h => hother c h hc
      simp only [matchThreads, Frontier.ofThreads_loop_char hid hnext hnext', Frontier.after, hc,
        hc', List.foldl_cons, List.foldl_nil, ih, List.takeWhile_cons, List.dropWhile_cons,
        List.length_cons, if_true, if_false, Bool.false_eq_true]
      rw [matchThreads_char_congr (some c) before, Nat.add_right_comm, Nat.add_assoc]
    · by_cases hc' : other.contains c <;>
        simp [matchThreads, Frontier.ofThreads_loop_char hid hnext hnext', Frontier.after, hc, hc',
          matchThreads_char_cons]

/-! ## Expressions -/

/-- The expression of one character of a set or more. -/
def Expr.run (set : CharSet) : Expr := .rounds (.set set) 1 none true

/-- The expression of any number of characters of a set. -/
def Expr.optionalRun (set : CharSet) : Expr := .rounds (.set set) 0 none true

theorem matchThreads_run (n : Nat) :
    matchThreads before [((Expr.run set).number n).1 :: rest] count best text =
      matchThreads before [.char (n + 1) set :: .loop n true (.char (n + 1) set) :: rest] count best
        text := by
  change matchThreads before [.cat .empty (.cat _ _) :: rest] count best text = _
  rw [matchThreads_cat, matchThreads_empty, matchThreads_cat]

theorem matchThreads_run_last (n : Nat) :
    matchThreads before [[((Expr.run set).number n).1]] count best text =
      if text.takeWhile set.contains = [] then best
      else some (count + (text.takeWhile set.contains).length) := by
  rw [matchThreads_run]
  cases text with
  | nil => simp [matchThreads_char_nil]
  | cons c text =>
    by_cases hc : set.contains c
    · simp [matchThreads_char_cons, matchThreads_loop_last, hc, Nat.add_assoc, Nat.add_comm 1]
    · simp [matchThreads_char_cons, hc]

/-- A run before a character that is not in its set passes all characters of its set. -/
theorem matchThreads_run_char {n : Nat} (hnext : n + 1 < next)
    (hother : ∀ c, other.contains c → ¬ set.contains c) :
    matchThreads before [((Expr.run set).number n).1 :: .char next other :: rest] count best text =
      if text.takeWhile set.contains = [] then best
      else
        matchThreads before [.char next other :: rest]
          (count + (text.takeWhile set.contains).length) best (text.dropWhile set.contains) := by
  rw [matchThreads_run]
  cases text with
  | nil => simp [matchThreads_char_nil]
  | cons c text =>
    rw [matchThreads_char_cons]
    by_cases hc : set.contains c
    · rw [if_pos hc, matchThreads_loop (by omega) (by omega) (by omega) hother,
        matchThreads_char_congr _ before]
      simp [hc, Nat.add_assoc, Nat.add_comm 1]
    · simp [hc]

theorem matchThreads_optionalRun_last (hset : set.isEmpty = false) (n : Nat) :
    matchThreads before [[((Expr.optionalRun set).number n).1]] count best text =
      some (count + (text.takeWhile set.contains).length) := by
  have hnode : ((Expr.optionalRun set).number n).1 = .loop n true (.char (n + 1) set) := by
    simp [Expr.optionalRun, Expr.number, Expr.minLength, hset, Node.zeroOrMore]
  rw [hnode, matchThreads_loop_last (by omega)]

/-! ## Searching -/

namespace Node

variable {node : Node} {skipped : Nat}

theorem le_of_findFrom? {found : Nat × Nat} (h : node.findFrom? before skipped text = some found) :
    skipped ≤ found.1 := by
  induction text generalizing before skipped with
  | nil =>
    obtain ⟨length, -, rfl⟩ := Option.map_eq_some_iff.1 h
    exact Nat.le_refl _
  | cons c text ih =>
    unfold findFrom? at h
    split at h
    · cases h
      exact Nat.le_refl _
    · have := ih h
      omega

/-- A match that starts where the text starts is the preferred match there. -/
theorem filter_find? (node : Node) (text : List Char) :
    (node.find? text).filter (·.1 = 0) = (node.matchLength? none text).map (0, ·) := by
  have hmap (length? : Option Nat) : (length?.map fun n => (0, n)).filter (·.1 = 0) =
      length?.map fun n => (0, n) := by
    cases length? <;> rfl
  unfold find?
  split_ifs
  · exact hmap _
  · cases text with
    | nil => exact hmap _
    | cons c text =>
      unfold findFrom?
      cases hlength : node.matchLength? none (c :: text) with
      | some length => rfl
      | none =>
        refine Option.filter_eq_none_iff.2 fun found hfound => ?_
        have := le_of_findFrom? hfound
        simp
        omega

end Node

/-! ## Searching at the cursor -/

/-- A pattern that is searched only at the cursor. -/
def atCursor (e : Expr) : Pattern := { expr := .cat (.look .textStart) e }

theorem find?_atCursor (e : Expr) :
    (atCursor e).find? text = (matchThreads none [[e.toNode]] 0 none text).map (0, ·) := by
  change ((matchThreads none [[.cat (.look .textStart) e.toNode]] 0 none text).map (0, ·)) = _
  rw [matchThreads_cat, matchThreads_textStart]

theorem find?_literal :
    (atCursor (.literal cs)).find? text = if cs <+: text then some (0, cs.length) else none := by
  rw [find?_atCursor, Expr.toNode, matchThreads_literal]
  split_ifs <;> simp [matchThreads_nil]

section Runs

variable {p : Char → Bool} (hp : set.contains = p)

include hp

theorem find?_run :
    (atCursor (.run set)).find? text =
      if text.takeWhile p ≠ [] then some (0, (text.takeWhile p).length) else none := by
  rw [find?_atCursor, Expr.toNode, matchThreads_run_last, hp]
  split_ifs <;> simp_all

theorem find?_literal_run :
    (atCursor (.cat (.literal cs) (.run set))).find? text =
      if cs <+: text ∧ (text.drop cs.length).takeWhile p ≠ [] then
        some (0, cs.length + ((text.drop cs.length).takeWhile p).length)
      else none := by
  rw [find?_atCursor, Expr.toNode, Expr.number, matchThreads_cat, matchThreads_literal]
  split_ifs with hcs <;> simp_all [matchThreads_run_last]

theorem find?_literal_optionalRun (hset : set.isEmpty = false) :
    (atCursor (.cat (.literal cs) (.optionalRun set))).find? text =
      if cs <+: text then some (0, cs.length + ((text.drop cs.length).takeWhile p).length)
      else none := by
  rw [find?_atCursor, Expr.toNode, Expr.number, matchThreads_cat, matchThreads_literal]
  split_ifs <;> simp [matchThreads_optionalRun_last hset, hp]

theorem find?_run_literal (hc : ¬ p c) :
    (atCursor (.cat (.run set) (.literal [c]))).find? text =
      if text.takeWhile p ≠ [] ∧ [c] <+: text.dropWhile p then
        some (0, (text.takeWhile p).length + 1)
      else none := by
  subst hp
  have hother : ∀ d, (CharSet.single c).contains d → ¬ set.contains d := by
    intro d hd
    rwa [← CharSet.contains_single.1 hd]
  have hchar : ∀ n, .char n (CharSet.single c) = ((Expr.literal [c]).number n).1 := fun _ => rfl
  rw [find?_atCursor, Expr.toNode, Expr.number, matchThreads_cat, ← hchar,
    matchThreads_run_char (by exact Nat.lt_succ_self 1) hother, hchar, matchThreads_literal]
  split_ifs <;> simp_all [matchThreads_nil]

end Runs

end PushdownLexer
