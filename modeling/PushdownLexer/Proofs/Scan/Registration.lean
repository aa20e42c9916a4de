import Mathlib.Data.List.Induction
import Mathlib.Data.List.Sort
import Mathlib.Data.String.Basic
import PushdownLexer.Proofs.Scan.Reached

/-!
# Rulebooks by their registrations

A rulebook is made by giving states their rules, one after the other. A state keeps the rules that
it was given last, and its name is kept once, so that what a rulebook answers tells nothing of the
order in which the states came or of rules that were replaced. A scan asks a rulebook for the rules
of states only, and for the number of states to log it. So it does not depend on the order either.

## Main definitions

* `Rulebook.GivenLast`: the rules that a state was given last.
* `Rulebook.Distinct`: no name is kept twice.

## Main statements

* `Rulebook.get?_insertMany_empty`: a state has the rules that it was given last.
* `Rulebook.pairwise_names`: the names come in order, each of them once.
* `scan_of_get?_eq`: a scan depends on the rules of the states only.
* `answers_of_registrations`: rulebooks with the same last registrations are alike.
-/

namespace PushdownLexer

variable {κ : Type} {book book' : Rulebook κ} {settings : ScanSettings} {text : List Char}
  {state : String} {rules : List (Rule κ)} {entries entries' : List (String × List (Rule κ))}

namespace Rulebook

/-! ## The last registration -/

/-- Of all entries with the name of a state, the last one gives it these rules. -/
def GivenLast (entries : List (String × List (Rule κ))) (state : String) (rules : List (Rule κ)) :
    Prop :=
  ∃ before after, entries = before ++ (state, rules) :: after ∧ state ∉ after.map Prod.fst

theorem insertMany_append (book : Rulebook κ) (entries more : List (String × List (Rule κ))) :
    (book.insertMany entries).insertMany more = book.insertMany (entries ++ more) :=
  List.foldl_append.symm

theorem insertMany_concat (book : Rulebook κ) (entries : List (String × List (Rule κ)))
    (entry : String × List (Rule κ)) :
    book.insertMany (entries ++ [entry]) = (book.insertMany entries).insert entry.1 entry.2 :=
  List.foldl_concat ..

theorem not_givenLast_nil : ¬ GivenLast [] state rules := by
  rintro ⟨before, after, h, -⟩
  simp at h

/-- One more registration replaces those of the same state. -/
theorem givenLast_concat {other : String} {others : List (Rule κ)} :
    GivenLast (entries ++ [(other, others)]) state rules ↔
      if state = other then rules = others else GivenLast entries state rules := by
  constructor
  · rintro ⟨before, after, h, hafter⟩
    induction after using List.reverseRecOn with
    | nil =>
      obtain ⟨-, hlast⟩ := List.append_inj' h rfl
      cases hlast
      rw [if_pos rfl]
    | append_singleton after last _ =>
      rw [← List.cons_append, ← List.append_assoc] at h
      obtain ⟨rfl, hlast⟩ := List.append_inj' h rfl
      cases hlast
      simp only [List.map_append, List.mem_append, not_or, List.map_cons, List.map_nil,
        List.mem_singleton] at hafter
      rw [if_neg hafter.2]
      exact ⟨before, after, rfl, hafter.1⟩
  · intro h
    split_ifs at h with hstate
    · exact ⟨entries, [], by rw [hstate, h], List.not_mem_nil⟩
    · obtain ⟨before, after, rfl, hafter⟩ := h
      exact ⟨before, after ++ [(other, others)], by simp, by simp [hafter, hstate]⟩

/-- A state has the rules that it was given last. -/
theorem get?_insertMany_empty :
    (empty.insertMany entries).get? state = some rules ↔ GivenLast entries state rules := by
  induction entries using List.reverseRecOn with
  | nil => simp [not_givenLast_nil, insertMany, get?, empty]
  | append_singleton entries entry ih =>
    obtain ⟨other, others⟩ := entry
    rw [insertMany_concat, get?_insert, givenLast_concat, ← ih]
    split_ifs <;> simp [eq_comm]

/-- The states that have rules are those that were given some. -/
theorem contains_insertMany_empty :
    (empty.insertMany entries).contains state = true ↔ state ∈ entries.map Prod.fst := by
  induction entries using List.reverseRecOn with
  | nil => simp [insertMany, contains, get?, empty]
  | append_singleton entries entry ih =>
    rw [insertMany_concat, contains, get?_insert, List.map_append, List.mem_append, ← ih]
    split_ifs with h <;> simp [h, contains]

theorem get?_insertMany_eq_none_iff :
    (empty.insertMany entries).get? state = none ↔ state ∉ entries.map Prod.fst := by
  rw [← contains_insertMany_empty, contains, Option.not_isSome_iff_eq_none]

/-- With the same last registrations, all states have the same rules. -/
theorem get?_eq_of_givenLast
    (hlast : ∀ state rules, GivenLast entries' state rules ↔ GivenLast entries state rules)
    (state : String) :
    (empty.insertMany entries').get? state = (empty.insertMany entries).get? state := by
  ext rules
  rw [get?_insertMany_empty, hlast, get?_insertMany_empty]

/-! ## Names -/

/-- No name is kept twice. -/
def Distinct (book : Rulebook κ) : Prop := (book.entries.map Prod.fst).Nodup

theorem Distinct.insert (h : book.Distinct) (state : String) (rules : List (Rule κ)) :
    (book.insert state rules).Distinct := by
  have hothers : ((book.entries.filter (·.1 != state)).map Prod.fst).Nodup :=
    List.Nodup.sublist (List.filter_sublist.map _) h
  exact List.nodup_cons.2 ⟨by simp, hothers⟩

theorem distinct_insertMany_empty (entries : List (String × List (Rule κ))) :
    (empty.insertMany entries).Distinct := by
  induction entries using List.reverseRecOn with
  | nil => exact List.nodup_nil
  | append_singleton entries entry ih =>
    rw [insertMany_concat]
    exact ih.insert _ _

theorem mem_names : state ∈ book.names ↔ book.contains state = true := by
  rw [names, List.mem_mergeSort, contains, get?]
  induction book.entries with
  | nil => simp
  | cons entry entries ih =>
    rw [List.map_cons, List.mem_cons, ih, List.lookup_cons]
    split <;> simp_all

/-- The names come in order, each of them once. -/
theorem pairwise_names (h : book.Distinct) : book.names.Pairwise (· < ·) := by
  have hle : book.names.Pairwise (fun s t => decide (s ≤ t)) := by
    refine List.pairwise_mergeSort (fun s t u hst htu => ?_) (fun s t => ?_) _
    · simp only [decide_eq_true_eq] at hst htu ⊢
      exact hst.trans htu
    · simpa using le_total s t
  have hne : book.names.Nodup := (List.mergeSort_perm _ _).nodup_iff.2 h
  exact hle.imp₂ (fun _ _ hle hne => lt_of_le_of_ne (of_decide_eq_true hle) hne) hne

theorem size_eq (book : Rulebook κ) : book.size = book.names.length := by
  rw [size, names, List.length_mergeSort, List.length_map]

/-- Rulebooks that have rules for the same states have the same names. -/
theorem names_eq (h : book.Distinct) (h' : book'.Distinct)
    (hcontains : ∀ state, book'.contains state = book.contains state) :
    book'.names = book.names :=
  (pairwise_names h').eq_of_mem_iff (pairwise_names h) fun state => by
    rw [mem_names, mem_names, hcontains]

theorem lookUp_eq (h : ∀ state, book'.get? state = book.get? state) :
    book'.lookUp = book.lookUp := by
  funext state place
  rw [lookUp, lookUp, h]

end Rulebook

/-! ## Scans -/

namespace Machine

theorem step_eq_of_get?_eq (h : ∀ state, book'.get? state = book.get? state) (m : Machine κ) :
    m.step book' settings = m.step book settings := by
  have hleave : leave book' = leave book := by
    funext m
    rw [leave, leave, Rulebook.lookUp_eq h]
  have henter : enter book' = enter book := by
    funext m state
    rw [enter, enter, Rulebook.lookUp_eq h]
  have hfollow : follow book' = follow book := by
    funext m d
    cases d <;> simp only [follow, hleave, henter]
  rw [step, step, hfollow]

theorem run_eq_of_get?_eq (h : ∀ state, book'.get? state = book.get? state) (m : Machine κ) :
    m.run book' settings = m.run book settings := by
  fun_induction run book settings m with
  | case1 m o hstep => exact run_of_halt ((step_eq_of_get?_eq h m).trans hstep)
  | case2 m t hstep ih => rw [run_of_goOn ((step_eq_of_get?_eq h m).trans hstep), ih]

end Machine

/-- A scan, with its events, depends on the rules of the states and on the number of states. -/
theorem scan_of_get?_eq (h : ∀ state, book'.get? state = book.get? state)
    (hsize : book'.size = book.size) (settings : ScanSettings) (text : List Char) :
    scan book' settings text = scan book settings text := by
  rw [scan, scan, Machine.start, Machine.start, Rulebook.lookUp_eq h, hsize]
  simp only [Machine.run_eq_of_get?_eq h]

/-- What a rulebook answers is told by the last registrations: the rules of a state are those that
it was given last, and the names are those of all states that were given some, in order and each
once. So rulebooks with the same last registrations answer alike and give every scan the same
outcome, whatever order the states came in, whatever was replaced, and whether all registrations
were made at once or some of them later, on top of a rulebook that was there. -/
theorem answers_of_registrations (entries more : List (String × List (Rule κ))) :
    let book := (Rulebook.empty.insertMany entries).insertMany more
    (∀ state rules, book.get? state = some rules ↔
        Rulebook.GivenLast (entries ++ more) state rules) ∧
      (∀ state, book.get? state = none ↔ state ∉ (entries ++ more).map Prod.fst) ∧
      (∀ state, book.contains state = true ↔ state ∈ (entries ++ more).map Prod.fst) ∧
      book.names.Pairwise (· < ·) ∧
      (∀ state, state ∈ book.names ↔ state ∈ (entries ++ more).map Prod.fst) ∧
      book.size = book.names.length ∧
      ∀ entries' more' : List (String × List (Rule κ)),
        (∀ state rules, Rulebook.GivenLast (entries' ++ more') state rules ↔
          Rulebook.GivenLast (entries ++ more) state rules) →
        let book' := (Rulebook.empty.insertMany entries').insertMany more'
        (∀ state, book'.get? state = book.get? state) ∧
          (∀ state, book'.contains state = book.contains state) ∧
          book'.names = book.names ∧ book'.size = book.size ∧
          ∀ settings text, scan book' settings text = scan book settings text := by
  simp only [Rulebook.insertMany_append]
  refine ⟨fun state rules => Rulebook.get?_insertMany_empty,
    fun state => Rulebook.get?_insertMany_eq_none_iff,
    fun state => Rulebook.contains_insertMany_empty,
    Rulebook.pairwise_names (Rulebook.distinct_insertMany_empty _),
    fun state => Rulebook.mem_names.trans Rulebook.contains_insertMany_empty,
    Rulebook.size_eq _, fun entries' more' hlast => ?_⟩
  have hget := Rulebook.get?_eq_of_givenLast hlast
  have hcontains (state : String) : (Rulebook.empty.insertMany (entries' ++ more')).contains state =
      (Rulebook.empty.insertMany (entries ++ more)).contains state := by
    rw [Rulebook.contains, Rulebook.contains, hget]
  have hnames : (Rulebook.empty.insertMany (entries' ++ more')).names =
      (Rulebook.empty.insertMany (entries ++ more)).names :=
    Rulebook.names_eq (Rulebook.distinct_insertMany_empty _) (Rulebook.distinct_insertMany_empty _)
      hcontains
  have hsize : (Rulebook.empty.insertMany (entries' ++ more')).size =
      (Rulebook.empty.insertMany (entries ++ more)).size := by
    rw [Rulebook.size_eq, Rulebook.size_eq, hnames]
  exact ⟨hget, hcontains, hnames, hsize, scan_of_get?_eq hget hsize⟩

/-- The rules of `brackets`, given in reverse order to a rulebook that had others for two of the
states. -/
theorem answers_of_replaced :
    (∀ state rules,
      Rulebook.GivenLast ([("word", []), ("inner", [])] ++ brackets.entries.reverse) state rules ↔
        Rulebook.GivenLast (brackets.entries ++ []) state rules) ∧
      let book := (Rulebook.empty.insertMany [("word", []), ("inner", [])]).insertMany
        brackets.entries.reverse
      book.size = 3 ∧
        (scan book {} ['(', '(', 'a']).result =
          .ok ⟨[⟨"a", ⟨⟨1, 3, 2⟩, ⟨1, 4, 3⟩⟩⟩], 3, "word"⟩ := by
  have hlast : ∀ state rules,
      Rulebook.GivenLast ([("word", []), ("inner", [])] ++ brackets.entries.reverse) state rules ↔
        Rulebook.GivenLast (brackets.entries ++ []) state rules := by
    intro state rules
    rw [← Rulebook.get?_insertMany_empty, ← Rulebook.get?_insertMany_empty]
    simp only [Rulebook.insertMany, brackets, List.reverse_cons, List.reverse_nil, List.nil_append,
      List.cons_append, List.append_nil, List.foldl_cons, List.foldl_nil, Rulebook.get?_insert]
    grind
  obtain ⟨-, -, -, -, -, -, halike⟩ := answers_of_registrations brackets.entries []
  obtain ⟨-, -, -, hsize, hscan⟩ := halike _ _ hlast
  refine ⟨hlast, hsize, ?_⟩
  rw [hscan]
  exact result_of_iterate (n := 7) rfl rfl

end PushdownLexer
