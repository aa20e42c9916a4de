import Mathlib.Data.List.Nodup
import PushdownLexer.Proofs.Assembly.Table
import PushdownLexer.Proofs.Scan.Order

/-!
# Which rules for instructions overlap

Two rules of a state overlap if there is a text at whose start both patterns are found. The order
of rules that do not overlap does not matter: whichever of them is tried first, the same rule is
selected. What a pattern of the dialect begins with tells that three pairs of rules for instructions
overlap and no others: a number with a base begins with a plain one, in two ways, and a label begins
with a bare word.

## Main definitions

* `Assembly.lead`: sets of characters that every match of an expression begins with.
* `Assembly.overlaps`: the pairs of patterns that overlap.
* `Assembly.KeepsOrder`: rules in an order that keeps the one of rules that overlap.

## Main statements

* `Assembly.apart_or_overlap`: no other rules overlap.
* `Assembly.scan_of_reordered`: the orders of the rules for instructions under which every text is
  scanned alike.
-/

namespace PushdownLexer.Assembly

variable {set : CharSet} {cs text : List Char} {c : Char} {rules : List (Rule Kind)}

/-! ## What a match begins with -/

/-- No range of the one set meets one of the other. -/
def disjoint (s t : CharSet) : Bool :=
  s.ranges.all fun r => t.ranges.all fun r' => r.2 < r'.1 || r'.2 < r.1

theorem not_contains_of_disjoint {s t : CharSet} (h : disjoint s t) (hs : s.contains c) :
    ¬ t.contains c := by
  intro ht
  simp only [CharSet.contains, CharSet.containsCode, List.any_eq_true, Bool.and_eq_true,
    decide_eq_true_eq] at hs ht
  obtain ⟨r, hr, hlo, hhi⟩ := hs
  obtain ⟨r', hr', hlo', hhi'⟩ := ht
  have hranges := List.all_eq_true.1 (List.all_eq_true.1 h r hr) r' hr'
  simp only [Bool.or_eq_true, decide_eq_true_eq] at hranges
  omega

/-- The first characters of a text are in these sets, one by one. -/
def StartsIn : List CharSet → List Char → Prop
  | [], _ => True
  | _ :: _, [] => False
  | s :: sets, c :: text => s.contains c ∧ StartsIn sets text

/-- No text starts in the sets of both lists. -/
def clash : List CharSet → List CharSet → Bool
  | s :: sets, t :: sets' => disjoint s t || clash sets sets'
  | _, _ => false

theorem not_startsIn_of_clash {sets sets' : List CharSet} (h : clash sets sets')
    (hsets : StartsIn sets text) : ¬ StartsIn sets' text := by
  fun_induction clash sets sets' generalizing text with
  | case1 s sets t sets' ih =>
    cases text with
    | nil => exact absurd hsets id
    | cons c text =>
      intro hsets'
      obtain hst | hrest := (Bool.or_eq_true _ _).mp h
      · exact not_contains_of_disjoint hst hsets.1 hsets'.1
      · exact ih hrest hsets.2 hsets'.2
  | case2 => cases h

/-- Sets that the first characters of a match are in. Conditions match no characters. -/
def lead : Expr → List CharSet
  | .literal cs => cs.map CharSet.single
  | .rounds (.set s) (_ + 1) _ _ => [s]
  | .cat (.look _) e => lead e
  | .cat e _ => lead e
  | _ => []

theorem startsIn_literal (h : cs <+: text) : StartsIn (cs.map CharSet.single) text := by
  induction cs generalizing text with
  | nil => trivial
  | cons c cs ih =>
    obtain ⟨rest, rfl⟩ := h
    exact ⟨CharSet.contains_single.2 rfl, ih (List.prefix_append _ _)⟩

theorem startsIn_run (h : text.takeWhile set.contains ≠ []) : StartsIn [set] text := by
  cases text with
  | nil => exact absurd rfl h
  | cons c text =>
    refine ⟨?_, trivial⟩
    by_contra hc
    exact h (List.takeWhile_cons_of_neg hc)

/-- Where the pattern of the rule is found, the text starts in the sets of its expression. -/
def Leads (r : Rule Kind) : Prop := ∀ text, r.isFound text → StartsIn (lead r.pattern.expr) text

section Leads

variable {source : String} {directive : Directive} {kind? : String → Option Kind} {e : Expr}

theorem leads_rule {P : List Char → Prop} [DecidablePred P] {found : List Char → Nat × Nat}
    (hfind : ∀ text, (atCursor e).find? text = if P text then some (found text) else none)
    (h : ∀ text, P text → StartsIn (lead e) text) : Leads (rule source e directive kind?) := by
  intro text hfound
  change ((atCursor e).find? text).isSome at hfound
  rw [hfind] at hfound
  refine h text ?_
  by_contra hP
  simp [hP] at hfound

theorem leads_literal : Leads (rule source (.literal cs) directive kind?) :=
  leads_rule (fun _ => find?_literal) fun _ h => startsIn_literal h

theorem leads_run : Leads (rule source (.run set) directive kind?) :=
  leads_rule (fun _ => find?_run rfl) fun _ h => startsIn_run h

theorem leads_literal_run :
    Leads (rule source (.cat (.literal cs) (.run set)) directive kind?) :=
  leads_rule (fun _ => find?_literal_run rfl) fun _ h => startsIn_literal h.1

theorem leads_literal_optionalRun (hset : set.isEmpty = false) :
    Leads (rule source (.cat (.literal cs) (.optionalRun set)) directive kind?) :=
  leads_rule (fun _ => find?_literal_optionalRun rfl hset) fun _ h => startsIn_literal h

theorem leads_run_literal (hc : ¬ set.contains c) :
    Leads (rule source (.cat (.run set) (.literal [c])) directive kind?) :=
  leads_rule (fun _ => find?_run_literal rfl hc) fun _ h => startsIn_run h.1

end Leads

theorem leads_of_mem : ∀ r ∈ instructionTable, Leads r := by
  simp only [instructionTable, List.forall_mem_cons, List.not_mem_nil, false_imp_iff,
    implies_true, and_true]
  exact ⟨leads_literal, leads_run, leads_literal_optionalRun rfl, leads_literal_run,
    leads_literal_run, leads_run, leads_literal, leads_literal, leads_run_literal (by decide),
    leads_literal_run, leads_run⟩

/-! ## Overlapping rules -/

/-- Patterns that are found in a common text, in the order of their rules. -/
def overlaps : List (String × String) := [
  ("0x[0-9a-fA-F]+", "[0-9]+"),
  ("0b[01]+", "[0-9]+"),
  ("[a-zA-Z_]+:", "[a-zA-Z_]+")]

theorem apart_of_clash {r r' : Rule Kind} (hr : Leads r) (hr' : Leads r')
    (h : clash (lead r.pattern.expr) (lead r'.pattern.expr)) : r.Apart r' :=
  fun text hfound hfound' => not_startsIn_of_clash h (hr text hfound) (hr' text hfound')

/-- No other rules overlap. -/
theorem apart_or_overlap :
    instructionTable.Pairwise fun r r' => r.Apart r' ∨ (r.source, r'.source) ∈ overlaps := by
  have hclash : instructionTable.Pairwise fun r r' =>
      clash (lead r.pattern.expr) (lead r'.pattern.expr) ∨ (r.source, r'.source) ∈ overlaps := by
    decide
  refine hclash.imp_of_mem fun hr hr' h => h.imp_left ?_
  exact apart_of_clash (leads_of_mem _ hr) (leads_of_mem _ hr')

/-! ## Reordered rules -/

/-- The rules stand in an order that keeps the one of rules that overlap. -/
def KeepsOrder (rules : List (Rule Kind)) : Prop :=
  ∀ p ∈ overlaps, [p.1, p.2].Sublist (rules.map Rule.source)

theorem nodup_sources : (instructionTable.map Rule.source).Nodup := by decide

theorem sublist_of_sources {r r' : Rule Kind} (hrules : rules ⊆ instructionTable)
    (hr : r ∈ instructionTable) (hr' : r' ∈ instructionTable)
    (h : [r.source, r'.source].Sublist (rules.map Rule.source)) : [r, r'].Sublist rules := by
  obtain ⟨l, hl, hsources⟩ := List.sublist_map_iff.1 h
  have hlength : l.length = 2 := by simpa using (congrArg List.length hsources).symm
  obtain ⟨s, s', rfl⟩ := List.length_eq_two.1 hlength
  simp only [List.map_cons, List.map_nil, List.cons.injEq, and_true] at hsources
  have hs := hrules (hl.subset List.mem_cons_self)
  have hs' := hrules (hl.subset (List.mem_cons_of_mem _ List.mem_cons_self))
  rwa [List.inj_on_of_nodup_map nodup_sources hr hs hsources.1,
    List.inj_on_of_nodup_map nodup_sources hr' hs' hsources.2]

/-- Rules in such an order select alike. -/
theorem selectAlike_of_keepsOrder (hperm : rules.Perm instructionTable) (h : KeepsOrder rules) :
    SelectAlike instructionTable rules := by
  refine select?_of_perm hperm (List.Nodup.of_map _ nodup_sources) (apart_or_overlap.imp_of_mem ?_)
  intro r r' hr hr' hoverlap
  exact hoverlap.imp_right fun hmem => sublist_of_sources hperm.subset hr hr' (h _ hmem)

/-- The rules of the dialect, with other rules for instructions. -/
def withInstructions (rules : List (Rule Kind)) : Rulebook Kind :=
  (Rulebook.empty.insert instructions rules).insert quotation quotationTable

theorem selectsAlike_withInstructions (h : SelectAlike instructionTable rules) :
    dialect.SelectsAlike (withInstructions rules) := by
  have hdialect : dialect = withInstructions instructionTable := rfl
  intro state
  simp only [hdialect, withInstructions, Rulebook.get?_insert]
  by_cases hquotation : state = quotation
  · simp only [if_pos hquotation]
    exact .some fun _ => rfl
  · by_cases hinstructions : state = instructions
    · simp only [if_neg hquotation, if_pos hinstructions]
      exact .some h
    · simp only [if_neg hquotation, if_neg hinstructions]
      exact .none

/-- If a rule that stays in its state is selected at the start of a text and makes a token, then
this token is the first one. -/
theorem head?_tokens {book : Rulebook Kind} {r : Rule Kind} {n : Nat} {token : Token Kind}
    {out : Scanned Kind} (hrules : book.get? "root" = some rules)
    (hselect : select? rules (Cursor.ofText text) =
      .ok (some (r, r.matchAt (Cursor.ofText text) 0 n)))
    (hmoved : byteLength (text.take n) ≠ 0) (hstay : r.directive = .stay)
    (htoken : (r.matchAt (Cursor.ofText text) 0 n).token = some token)
    (h : (scan book {} text).result = .ok out) : out.tokens.head? = some token := by
  have start : Reached book {} text [] _ := .start (Machine.start_eq_initial hrules)
  have hmore : (Cursor.ofText text).atEnd = false := by
    rw [Cursor.atEnd_eq_false_iff]
    rintro hnil
    change text = [] at hnil
    simp [hnil] at hmoved
  have happlies : (Machine.initial book {} text rules).Applies r
      (r.matchAt (Cursor.ofText text) 0 n) 0 := by
    refine ⟨hmore, hselect, ?_⟩
    rw [Machine.countStalls?, if_neg]
    simpa [Rule.matchAt, Cursor.ofText] using hmoved
  have hfollows : Machine.Follows book
      ((Machine.initial book {} text rules).moveOn r (r.matchAt (Cursor.ofText text) 0 n) 0)
      (r.matchAt (Cursor.ofText text) 0 n).directive
      ((Machine.initial book {} text rules).moveOn r (r.matchAt (Cursor.ofText text) 0 n) 0) := by
    change Machine.Follows book _ r.directive _
    rw [hstay]
    exact .stay
  rw [(start.next happlies hfollows).scan_eq] at h
  obtain ⟨rest, hrest⟩ := Machine.prefix_of_run h
  rw [← hrest]
  simp [Machine.moveOn, htoken, Machine.initial]

/-- If two rules are found at the start of a text, and the second one would make a token that is not
the first one of a scan, then the first rule stands before the second one. -/
theorem sublist_of_result {r r' : Rule Kind} {n : Nat} {token : Token Kind} {out : Scanned Kind}
    (hperm : rules.Perm instructionTable)
    (hfound : instructionTable.filter (·.isFound text) = [r, r'])
    (hfind : r'.pattern.find? text = some (0, n)) (hstay : r'.directive = .stay)
    (hmoved : byteLength (text.take n) ≠ 0)
    (htoken : (r'.matchAt (Cursor.ofText text) 0 n).token = some token)
    (hresult : (scan (withInstructions rules) {} text).result = .ok out)
    (hne : out.tokens.head? ≠ some token) :
    [r.source, r'.source].Sublist (rules.map Rule.source) := by
  have hfilter : (rules.filter (·.isFound text)).Perm [r, r'] := hfound ▸ hperm.filter _
  obtain ⟨s, s', hsome⟩ := List.length_eq_two.1 hfilter.length_eq
  rw [hsome] at hfilter
  have hs : s = r ∨ s = r' := by simpa using hfilter.subset List.mem_cons_self
  obtain rfl | rfl := hs
  · have hs' : [s'] = [r'] := List.perm_singleton.1 hfilter.cons_inv
    have hkept : [s, r'].Sublist rules := by
      rw [← hs', ← hsome]
      exact List.filter_sublist
    exact hkept.map Rule.source
  · -- Were the second rule to come first, it would be selected.
    have hselect : select? rules (Cursor.ofText text) =
        .ok (some (s, s.matchAt (Cursor.ofText text) 0 n)) := by
      have hrest : (Cursor.ofText text).rest = text := rfl
      rw [select?_eq_find?, ← List.head?_filter, hrest, hsome]
      simp [hfind]
    exact absurd (head?_tokens rfl hselect hmoved hstay htoken hresult) hne

/-- Rules with the results of those of the dialect keep the order of rules that overlap. -/
theorem keepsOrder_of_result (hperm : rules.Perm instructionTable)
    (h : ∀ text, (scan (withInstructions rules) {} text).result = (scan dialect {} text).result) :
    KeepsOrder rules := by
  have hhex : (scan dialect {} ['0', 'x', '0']).result =
    .ok ⟨[⟨.number 0, ⟨⟨1, 1, 0⟩, ⟨1, 4, 3⟩⟩⟩], 3, "root"⟩ := result_of_iterate (n := 2) rfl rfl
  have hbits : (scan dialect {} ['0', 'b', '0']).result =
    .ok ⟨[⟨.number 0, ⟨⟨1, 1, 0⟩, ⟨1, 4, 3⟩⟩⟩], 3, "root"⟩ := result_of_iterate (n := 2) rfl rfl
  have hlabel : (scan dialect {} ['a', ':']).result =
    .ok ⟨[⟨.label "a", ⟨⟨1, 1, 0⟩, ⟨1, 3, 2⟩⟩⟩], 2, "root"⟩ := result_of_iterate (n := 2) rfl rfl
  simp only [KeepsOrder, overlaps, List.forall_mem_cons, List.not_mem_nil, false_imp_iff,
    implies_true, and_true]
  -- The rule for plain numbers would take the zero, and the one for bare words the word.
  refine ⟨?_, ?_, ?_⟩
  · exact sublist_of_result (n := 1) hperm rfl rfl rfl (by decide) rfl ((h _).trans hhex)
      (by decide)
  · exact sublist_of_result (n := 1) hperm rfl rfl rfl (by decide) rfl ((h _).trans hbits)
      (by decide)
  · exact sublist_of_result (n := 1) hperm rfl rfl rfl (by decide) rfl ((h _).trans hlabel)
      (by decide)

/-- Scans with the rules for instructions in another order are the same, with the same events, if
the order of rules that overlap is kept: numbers with a base stand before plain ones, and labels
before bare words. In any other order, the result of some scan is another one. -/
theorem scan_of_reordered {table quoted rules : List (Rule Kind)}
    (htable : instructionRules = .ok table) (hquoted : quotationRules = .ok quoted)
    (hperm : rules.Perm table) :
    (["0x[0-9a-fA-F]+", "[0-9]+"].Sublist (rules.map Rule.source) →
      ["0b[01]+", "[0-9]+"].Sublist (rules.map Rule.source) →
      ["[a-zA-Z_]+:", "[a-zA-Z_]+"].Sublist (rules.map Rule.source) →
        ∀ settings source,
          scan ((Rulebook.empty.insert instructions rules).insert quotation quoted) settings source =
            scanSource settings source) ∧
      ((∀ source,
        (scan ((Rulebook.empty.insert instructions rules).insert quotation quoted) {} source).result =
          (scanSource {} source).result) →
        ["0x[0-9a-fA-F]+", "[0-9]+"].Sublist (rules.map Rule.source) ∧
          ["0b[01]+", "[0-9]+"].Sublist (rules.map Rule.source) ∧
          ["[a-zA-Z_]+:", "[a-zA-Z_]+"].Sublist (rules.map Rule.source)) := by
  cases htable.symm.trans instructionRules_eq
  cases hquoted.symm.trans quotationRules_eq
  simp only [scanSource_eq]
  constructor
  · intro hhex hbits hlabel settings source
    have hkeeps : KeepsOrder rules := by simpa [KeepsOrder, overlaps] using ⟨hhex, hbits, hlabel⟩
    exact scan_of_selectsAlike
      (selectsAlike_withInstructions (selectAlike_of_keepsOrder hperm hkeeps)) rfl
  · intro h
    simpa [KeepsOrder, overlaps] using keepsOrder_of_result hperm h

/-- White space and comments may be tried last, but the whole order may not be turned round. -/
theorem scan_of_blanks_last :
    (∀ settings source,
      scan (withInstructions (instructionTable.drop 3 ++ instructionTable.take 3)) settings source =
        scanSource settings source) ∧
      ¬ ∀ source, (scan (withInstructions instructionTable.reverse) {} source).result =
        (scanSource {} source).result := by
  have hperm : (instructionTable.drop 3 ++ instructionTable.take 3).Perm instructionTable :=
    List.perm_append_comm.trans (List.take_append_drop 3 instructionTable ▸ .rfl)
  constructor
  · exact (scan_of_reordered instructionRules_eq quotationRules_eq hperm).1
      (by decide) (by decide) (by decide)
  · intro h
    obtain ⟨hhex, -⟩ := (scan_of_reordered instructionRules_eq quotationRules_eq
      instructionTable.reverse_perm).2 h
    exact absurd hhex (by decide)

end PushdownLexer.Assembly
