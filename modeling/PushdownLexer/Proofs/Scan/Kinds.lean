import PushdownLexer.Proofs.Scan.Lockstep

/-!
# What rules make of a text does not direct the scan

A rule gives a kind to the text that it has matched, or none. Whatever it does, the scan goes on in
the same way: whether a token was made is asked neither where matches of length zero are counted nor
anywhere else. So rulebooks with the same patterns and directives pass over the same text, or fail
with the same fault. If the kinds of the one come from those of the other by a function, so do the
tokens.

## Main definitions

* `Rulebook.Related`: rulebooks with related rules for the same states.
* `Rule.Maps`: a rule whose kinds come from those of another one.
* `Scanned.map`: what a scan gives, with other kinds.

## Main statements

* `scan_of_alike`: kinds are not looked at.
-/

namespace PushdownLexer

variable {κ κ' : Type} {P : Rule κ → Rule κ' → Prop} {book : Rulebook κ} {book' : Rulebook κ'}
  {settings : ScanSettings} {text : List Char} {g : κ → κ'}

/-- What a scan gives, with other kinds. -/
def Scanned.map (g : κ → κ') (out : Scanned κ) : Scanned κ' where
  tokens := out.tokens.map (Token.map g)
  length := out.length
  state := out.state

/-- The second rule gives the kinds that the first one gives, after `g`. -/
structure Rule.Maps (g : κ → κ') (r : Rule κ) (r' : Rule κ') : Prop extends r.Alike r' where
  kind : ∀ matched, r'.kind? matched = (r.kind? matched).map g

namespace ResultsAlike

variable {result : Except ScanFault (Scanned κ)} {result' : Except ScanFault (Scanned κ')}
  (h : ResultsAlike P result result')

include h

theorem eq_error_iff (f : ScanFault) : result = .error f ↔ result' = .error f := by
  cases h <;> simp

theorem exists_ok {out : Scanned κ} (hout : result = .ok out) :
    ∃ out', result' = .ok out' ∧ out'.length = out.length ∧ out'.state = out.state := by
  cases h with
  | error f => cases hout
  | ok hmoves =>
    cases hout
    exact ⟨_, rfl, rfl, rfl⟩

end ResultsAlike

theorem Move.Alike.token?_eq {v : Move κ} {v' : Move κ'} (h : Move.Alike (Rule.Maps g) v v') :
    v'.token? = v.token?.map (Token.map g) := by
  obtain ⟨skipped, count, hfound, hfound'⟩ := h.found
  simp only [token?, hfound, hfound', Rule.matchAt, h.rule.kind, Option.map_map]
  rfl

theorem Move.tokens_of_forall₂ {moves : List (Move κ)} {moves' : List (Move κ')}
    (h : List.Forall₂ (Move.Alike (Rule.Maps g)) moves moves') :
    moves'.filterMap Move.token? = (moves.filterMap Move.token?).map (Token.map g) := by
  induction h with
  | nil => rfl
  | @cons v v' moves moves' hv _ ih =>
    rw [List.filterMap_cons, List.filterMap_cons, hv.token?_eq, ih]
    cases v.token? <;> rfl

theorem ResultsAlike.eq_map {result : Except ScanFault (Scanned κ)}
    {result' : Except ScanFault (Scanned κ')} (h : ResultsAlike (Rule.Maps g) result result') :
    result' = result.map (Scanned.map g) := by
  cases h with
  | error f => rfl
  | ok hmoves =>
    rw [Move.tokens_of_forall₂ hmoves]
    rfl

/-- The same states have rules in both rulebooks, which are related one by one. -/
def Rulebook.Related (P : Rule κ → Rule κ' → Prop) (book : Rulebook κ) (book' : Rulebook κ') :
    Prop :=
  ∀ state, Option.Rel (List.Forall₂ P) (book.get? state) (book'.get? state)

theorem Rulebook.Related.mirrors (hP : ∀ r r', P r r' → r.Alike r') (h : Related P book book') :
    Mirrors P book book' settings text where
  alike := hP
  contains state := by
    have hstate := h state
    unfold contains
    generalize book.get? state = rules, book'.get? state = rules' at hstate
    cases hstate <;> rfl
  rules moves m hm := by
    have hactive := h m.nesting.active
    rw [hm.consistent.rules] at hactive
    generalize book'.get? m.nesting.active = rules' at hactive
    cases hactive with
    | some hrules => exact ⟨_, rfl, hrules⟩

theorem Rulebook.Related.resultsAlike (hP : ∀ r r', P r r' → r.Alike r')
    (h : Related P book book') :
    ResultsAlike P (scan book settings text).result (scan book' settings text).result :=
  (h.mirrors hP).suffices.resultsAlike fun _ _ _ => h.mirrors hP

/-- Scans with rulebooks that differ in the kinds of tokens only fail with the same fault, or both
succeed, at the same length and in the same state. If the kinds of the second rulebook are those of
the first one after `g`, then so are its tokens, in the same order and at the same places. -/
theorem scan_of_alike (h : Rulebook.Related Rule.Alike book book') (settings : ScanSettings)
    (text : List Char) :
    (∀ f, (scan book settings text).result = .error f ↔
      (scan book' settings text).result = .error f) ∧
    (∀ out, (scan book settings text).result = .ok out →
      ∃ out', (scan book' settings text).result = .ok out' ∧
        out'.length = out.length ∧ out'.state = out.state) ∧
    ∀ g : κ → κ', Rulebook.Related (Rule.Maps g) book book' →
      (scan book' settings text).result =
        (scan book settings text).result.map (Scanned.map g) := by
  have halike : ResultsAlike Rule.Alike (scan book settings text).result
      (scan book' settings text).result := h.resultsAlike fun _ _ => id
  exact ⟨halike.eq_error_iff, fun out => halike.exists_ok,
    fun g hmaps => (hmaps.resultsAlike fun _ _ hr => hr.toAlike).eq_map⟩

/-- Rules for letters and for brackets around nothing; what becomes of letters is left open. -/
def lettersBy (kind? : String → Option κ) : Rulebook κ where
  entries := [
    ("root", [
      ⟨"\\(", atCursor (.literal ['(']), .enter "inner", fun _ => none⟩,
      ⟨"a", atCursor (.literal ['a']), .stay, kind?⟩]),
    ("inner", [⟨"\\)", atCursor (.literal [')']), .leave, fun _ => none⟩])]

/-- Rules that differ in what becomes of letters are related if the rules for letters are. -/
theorem lettersBy_related {kind? : String → Option κ} {kind?' : String → Option κ'}
    (hbracket : ∀ source pattern directive, P ⟨source, pattern, directive, fun _ => none⟩
      ⟨source, pattern, directive, fun _ => none⟩)
    (hletter : P ⟨"a", atCursor (.literal ['a']), .stay, kind?⟩
      ⟨"a", atCursor (.literal ['a']), .stay, kind?'⟩) :
    Rulebook.Related P (lettersBy kind?) (lettersBy kind?') := by
  intro state
  simp only [Rulebook.get?, lettersBy, List.lookup_cons, List.lookup_nil]
  split
  · exact .some (.cons (hbracket ..) (.cons hletter .nil))
  · split
    · exact .some (.cons (hbracket ..) .nil)
    · exact .none

theorem lettersBy_alike (kind? : String → Option κ) (kind?' : String → Option κ') :
    Rulebook.Related Rule.Alike (lettersBy kind?) (lettersBy kind?') :=
  lettersBy_related (fun _ _ _ => ⟨rfl, rfl, rfl⟩) ⟨rfl, rfl, rfl⟩

theorem lettersBy_maps (kind? : String → Option κ) (g : κ → κ') :
    Rulebook.Related (Rule.Maps g) (lettersBy kind?) (lettersBy fun s => (kind? s).map g) :=
  lettersBy_related (fun _ _ _ => ⟨⟨rfl, rfl, rfl⟩, fun _ => rfl⟩)
    ⟨⟨rfl, rfl, rfl⟩, fun _ => rfl⟩

/-- The number of bytes of a letter may be its kind, or it may have no kind and give no token. -/
theorem letters_numbered :
    (scan (lettersBy some) {} ['(', ')', 'a']).result =
        .ok ⟨[⟨"a", ⟨⟨1, 3, 2⟩, ⟨1, 4, 3⟩⟩⟩], 3, "root"⟩ ∧
      (scan (lettersBy fun s => (some s).map String.utf8ByteSize) {} ['(', ')', 'a']).result =
        .ok ⟨[⟨1, ⟨⟨1, 3, 2⟩, ⟨1, 4, 3⟩⟩⟩], 3, "root"⟩ ∧
      (scan (lettersBy fun _ => (none : Option Unit)) {} ['(', 'a']).result =
        .error (.noRule ⟨1, 2, 1⟩ "inner" "a") := by
  have hscan : (scan (lettersBy some) {} ['(', ')', 'a']).result =
      .ok ⟨[⟨"a", ⟨⟨1, 3, 2⟩, ⟨1, 4, 3⟩⟩⟩], 3, "root"⟩ := result_of_iterate (n := 4) rfl rfl
  refine ⟨hscan, ?_, ?_⟩
  · have hmapped := (scan_of_alike (lettersBy_alike some _) {} ['(', ')', 'a']).2.2 _
      (lettersBy_maps some String.utf8ByteSize)
    rw [hmapped, hscan]
    rfl
  · refine ((scan_of_alike (lettersBy_alike some _) {} ['(', 'a']).1 _).1 ?_
    exact result_of_iterate (n := 2) rfl rfl

end PushdownLexer
