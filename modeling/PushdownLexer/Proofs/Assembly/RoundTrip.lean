import PushdownLexer.Proofs.Assembly.Layout

/-!
# Writing tokens and reading them back

Kinds can be written one after the other, with a space between two of them: no lexeme reaches beyond
the space after it, and none is taken for one that an earlier rule makes. So reading the source
gives the kinds back, however each one is written.

## Main definitions

* `Assembly.Kind.WellFormed`, `Assembly.Kind.spell`: the kinds that have a text, and a text of each.
* `Assembly.source`: the source that kinds are written as.

## Main statements

* `Assembly.Kind.WellFormed.spelt_spell`, `Assembly.Spelt.wellFormed`: the well-formed kinds are
  those that have a text.
* `Assembly.front?_spelt`: a text in front of a space is a lexeme.
* `Assembly.kinds_of_source`: a scan gives the kinds of a source back.
-/

namespace PushdownLexer.Assembly

open Machine

namespace Kind

/-- The kinds that a token can have. -/
def WellFormed : Kind → Prop
  | newline | arrow => True
  | label name | symbol name | macroName name => name.toList ≠ [] ∧ ∀ c ∈ name.toList, isLetter c
  | text body => body.toList ≠ [] ∧ '"' ∉ body.toList
  | number value => 0 ≤ value ∧ value ≤ maxNumber

/-- The text of a kind; a number is written in the base `base`. -/
def spell (base : Base) : Kind → List Char
  | newline => ['\n']
  | arrow => ['-', '>']
  | label name => name.toList ++ [':']
  | symbol name => name.toList
  | macroName name => '@' :: name.toList
  | text body => body.toList
  | number value => base.mark ++ Nat.toDigits base.radix value.toNat

/-- The text `x` of a kind as it stands in a source: a quoted text has double quotes around it. -/
def enclose (x : List Char) : Kind → List Char
  | text _ => '"' :: (x ++ ['"'])
  | _ => x

end Kind

variable {k : Kind} {base : Base} {x rest text : List Char} {place : Position} {c : Char}

/-! ## Digits -/

theorem numeral_concat (base : Nat) (digits : List Char) (d : Char) :
    numeral base (digits ++ [d]) = numeral base digits * base + digitWeight d := by
  rw [numeral, numeral, List.reverse_concat, List.map_cons, Nat.ofDigits_cons, Nat.mul_comm,
    Nat.add_comm]

theorem digitWeight_digitChar {d : Nat} (hd : d < 16) : digitWeight d.digitChar = d := by
  decide +revert

theorem isDigit_digitChar {d : Nat} (hd : d < base.radix) : base.isDigit d.digitChar := by
  cases base with
  | binary => decide +revert
  | decimal => decide +revert
  | hexadecimal => decide +revert

theorem radix_bounds (base : Base) : 1 < base.radix ∧ base.radix ≤ 16 := by
  cases base <;> decide

theorem toDigits_spec (base : Base) (n : Nat) :
    (∀ c ∈ Nat.toDigits base.radix n, base.isDigit c) ∧
      numeral base.radix (Nat.toDigits base.radix n) = n := by
  obtain ⟨hbase, hbase'⟩ := radix_bounds base
  induction n using Nat.strongRecOn with
  | ind n ih =>
    rw [Nat.toDigits_eq_if hbase]
    split_ifs with hn
    · constructor
      · simpa using isDigit_digitChar hn
      · have hweight := digitWeight_digitChar (Nat.lt_of_lt_of_le hn hbase')
        simpa [numeral] using hweight
    · have hmod : n % base.radix < base.radix := Nat.mod_lt _ (by omega)
      obtain ⟨hdigits, hvalue⟩ := ih (n / base.radix) (Nat.div_lt_self (by omega) hbase)
      constructor
      · rw [List.forall_mem_append]
        exact ⟨hdigits, by simpa using isDigit_digitChar hmod⟩
      · rw [numeral_concat, hvalue, digitWeight_digitChar (by omega), Nat.div_add_mod']

theorem number_toDigits {v : Int} (hv : 0 ≤ v) (hv' : v ≤ maxNumber) :
    number base.radix (Nat.toDigits base.radix v.toNat) = .number v := by
  rw [number, (toDigits_spec base _).2, Int.toNat_of_nonneg hv, min_eq_left hv']

/-! ## Well-formed kinds -/

/-- A well-formed kind has a text. -/
theorem Kind.WellFormed.spelt_spell (hk : k.WellFormed) (base : Base) : Spelt k (k.spell base) := by
  cases k with
  | newline => exact .newline
  | arrow => exact .arrow
  | label name =>
    have hspelt := Spelt.label hk.1 hk.2
    rwa [String.ofList_toList] at hspelt
  | symbol name =>
    have hspelt := Spelt.symbol hk.1 hk.2
    rwa [String.ofList_toList] at hspelt
  | macroName name =>
    have hspelt := Spelt.macroName hk.1 hk.2
    rwa [String.ofList_toList] at hspelt
  | text body =>
    have hspelt := Spelt.text hk.1 hk.2
    rwa [String.ofList_toList] at hspelt
  | number value =>
    have hspelt := Spelt.number base Nat.toDigits_ne_nil (toDigits_spec base value.toNat).1
    rwa [number_toDigits hk.1 hk.2] at hspelt

/-- A kind that has a text is well-formed. -/
theorem Spelt.wellFormed (h : Spelt k x) : k.WellFormed := by
  cases h with
  | newline | arrow => trivial
  | label hne hname | symbol hne hname | macroName hne hname | text hne hname =>
    simpa [Kind.WellFormed] using ⟨hne, hname⟩
  | number base hne hrun =>
    have hmax : (0 : Int) ≤ maxNumber := by decide
    exact ⟨le_min (Int.natCast_nonneg _) hmax, min_le_right _ _⟩

/-! ## Reading a text back -/

/-- The rest of a text begins with a space, or there is none. -/
def Apart (rest : List Char) : Prop := ∀ c ∈ rest.head?, c = ' '

theorem apart_nil : Apart [] := by simp [Apart]

theorem apart_space (text : List Char) : Apart ([' '] ++ text) := by simp [Apart]

section Runs

variable {p : Char → Bool} (hx : ∀ c ∈ x, p c)

include hx

theorem takeWhile_run (hrest : ∀ c ∈ rest.head?, p c = false) : (x ++ rest).takeWhile p = x := by
  rw [List.takeWhile_append_of_pos hx]
  cases rest <;> simp_all

theorem dropWhile_run (hrest : ∀ c ∈ rest.head?, p c = false) : (x ++ rest).dropWhile p = rest := by
  rw [List.dropWhile_append_of_pos hx]
  cases rest <;> simp_all

omit hx in
theorem Apart.head? (hrest : Apart rest) (hp : p ' ' = false) : ∀ c ∈ rest.head?, p c = false := by
  intro c hc
  rw [hrest c hc, hp]

end Runs

theorem isBlank_eq_false_of_isLetter (h : isLetter c) : isBlank c = false := by
  rw [← contains_letters, letters, contains_iff] at h
  rw [← contains_blanks, Bool.eq_false_iff, blanks, Ne, contains_iff]
  simp at h ⊢
  omega

theorem isDigit_eq_false_of_isLetter (h : isLetter c) : c.isDigit = false := by
  rw [← contains_letters, letters, contains_iff] at h
  rw [Bool.eq_false_iff, Ne, isDigit_iff]
  simp at h
  omega

theorem isBlank_eq_false_of_isDigit (h : c.isDigit) : isBlank c = false := by
  rw [isDigit_iff] at h
  rw [← contains_blanks, Bool.eq_false_iff, blanks, Ne, contains_iff]
  simp
  omega

/-- A word is a label or a symbol, by what comes after it. -/
theorem instruction?_word (hne : x ≠ []) (hx : ∀ c ∈ x, isLetter c)
    (hrest : ∀ c ∈ rest.head?, isLetter c = false) :
    instruction? (x ++ rest) =
      if [':'] <+: rest then some ⟨x.length + 1, some (.label (String.ofList x)), .stay⟩
      else some ⟨x.length, some (.symbol (String.ofList x)), .stay⟩ := by
  have htake := takeWhile_run hx hrest
  have hdrop := dropWhile_run hx hrest
  obtain ⟨c, cs, rfl⟩ := List.exists_cons_of_ne_nil hne
  have hc := hx c List.mem_cons_self
  have hblank := isBlank_eq_false_of_isLetter hc
  have hdigit := isDigit_eq_false_of_isLetter hc
  have hfirst : ∀ d, isLetter d = false → ¬ d = c := by
    rintro d hd rfl
    simp [hc] at hd
  -- No earlier rule applies, since none begins with a letter.
  rw [List.cons_append] at htake hdrop ⊢
  simp [instruction?, List.cons_prefix_cons, hblank, hdigit, htake, hdrop, hfirst '\n' rfl,
    hfirst ';' rfl, hfirst '0' rfl, hfirst '-' rfl, hfirst '"' rfl]

/-- The digits of a number are all there are, and their mark is not taken for another number. -/
theorem instruction?_number (base : Base) {run : List Char} (hne : run ≠ [])
    (hrun : ∀ c ∈ run, base.isDigit c) (hrest : Apart rest) :
    instruction? (base.mark ++ run ++ rest) =
      some ⟨(base.mark ++ run).length, some (number base.radix run), .stay⟩ := by
  have htake := takeWhile_run hrun (hrest.head? (by cases base <;> rfl))
  have hblank : isBlank '0' = false := rfl
  cases base with
  | binary =>
    change (run ++ rest).takeWhile isBit = run at htake
    change instruction? ('0' :: 'b' :: (run ++ rest)) = some ⟨run.length + 2, _, _⟩
    simp [instruction?, List.cons_prefix_cons, hblank, htake, hne, Base.radix, Nat.add_comm]
  | hexadecimal =>
    change (run ++ rest).takeWhile isHexDigit = run at htake
    change instruction? ('0' :: 'x' :: (run ++ rest)) = some ⟨run.length + 2, _, _⟩
    simp [instruction?, List.cons_prefix_cons, hblank, htake, hne, Base.radix, Nat.add_comm]
  | decimal =>
    change (run ++ rest).takeWhile Char.isDigit = run at htake
    change instruction? (run ++ rest) = some ⟨run.length, _, _⟩
    obtain ⟨d, ds, rfl⟩ := List.exists_cons_of_ne_nil hne
    have hd : d.isDigit := hrun d List.mem_cons_self
    have hfirst : ∀ c, c.isDigit = false → ¬ c = d := by
      rintro c hc rfl
      simp [hd] at hc
    -- Neither `x` nor `b` comes second, since they are no digits.
    have hmark : ∀ c, c.isDigit = false → c ≠ ' ' → ¬ [c] <+: ds ++ rest := by
      rintro c hc hspace ⟨more, hmore⟩
      cases ds with
      | nil => exact hspace (hrest c (by rw [← List.nil_append rest, ← hmore]; rfl))
      | cons e es =>
        have he : e.isDigit := hrun e (by simp)
        rw [← (List.cons.inj hmore).1] at he
        simp [hc] at he
    rw [List.cons_append] at htake ⊢
    simp [instruction?, List.cons_prefix_cons, htake, isBlank_eq_false_of_isDigit hd,
      hfirst '\n' rfl, hfirst ';' rfl, hmark 'x' rfl, hmark 'b' rfl, Base.radix]

/-- A text in front of a space is the lexeme of its kind. -/
theorem front?_spelt (hx : Spelt k x) (hk : ∀ body, k ≠ .text body) (hrest : Apart rest) :
    front? .instructions (x ++ rest) = some ⟨x.length, some k, .stay⟩ := by
  rw [front?]
  cases hx with
  | newline => rfl
  | arrow => rfl
  | label hne hname =>
    rw [List.append_assoc, instruction?_word hne hname (by simp; rfl)]
    simp
  | symbol hne hname =>
    have hcolon : ¬ [':'] <+: rest := by
      rintro ⟨more, rfl⟩
      simpa using hrest ':'
    rw [instruction?_word hne hname (hrest.head? rfl), if_neg hcolon]
  | macroName hne hname =>
    have htake := takeWhile_run hname (hrest.head? rfl)
    have hblank : isBlank '@' = false := rfl
    have hletter : isLetter '@' = false := rfl
    simp [instruction?, List.cons_prefix_cons, hblank, hletter, htake, hne, Nat.add_comm]
  | text => exact absurd rfl (hk _)
  | number base hne hrun => exact instruction?_number base hne hrun hrest

theorem front?_body {body : List Char} (hne : body ≠ []) (hbody : '"' ∉ body) (rest : List Char) :
    front? .quotation (body ++ (['"'] ++ rest)) =
      some ⟨body.length, some (.text (String.ofList body)), .stay⟩ := by
  have htake : (body ++ (['"'] ++ rest)).takeWhile (· != '"') = body :=
    takeWhile_run (by grind) (by simp)
  rw [front?, quoted?, htake, if_pos hne]

/-- What reading gives if the text begins with the lexeme `x`. -/
theorem readFrom_append {mode : Mode} {kind? : Option Kind} {d : Directive}
    (hl : front? mode (x ++ rest) = some ⟨x.length, kind?, d⟩) (place : Position) :
    readFrom mode place (x ++ rest) =
      (readFrom (mode.after d) (place.afterAll x) rest).map
        (prepend (kind?.map (⟨·, ⟨place, place.afterAll x⟩⟩)).toList) := by
  rw [readFrom_of_eq_some hl, List.drop_left, Lexeme.token?, Lexeme.stop, List.take_left]

/-- A quoted text is read in three lexemes, of which the body makes a token. -/
theorem readFrom_quoted {body : List Char} (hne : body ≠ []) (hbody : '"' ∉ body)
    (rest : List Char) (place : Position) :
    ∃ token, token.kind = .text (String.ofList body) ∧
      readFrom .instructions place (['"'] ++ (body ++ (['"'] ++ rest))) =
        (readFrom .instructions (place.afterAll (['"'] ++ body ++ ['"'])) rest).map
          (prepend [token]) := by
  have hopen : front? .instructions (['"'] ++ (body ++ (['"'] ++ rest))) = some ⟨1, none, _⟩ :=
    front?_quote .instructions ⟨_, rfl⟩
  have hbody : front? (Mode.after .instructions Mode.instructions.turn) _ = _ :=
    front?_body hne hbody rest
  have hclose : front? (Mode.after (Mode.after .instructions Mode.instructions.turn) .stay)
      (['"'] ++ rest) = some ⟨1, none, _⟩ :=
    front?_quote .quotation ⟨_, rfl⟩
  rw [readFrom_append hopen, readFrom_append hbody, readFrom_append hclose, map_prepend,
    map_prepend, ← Position.afterAll_append, ← Position.afterAll_append]
  exact ⟨_, rfl, rfl⟩

/-- Reading gives one token for the text of a kind. -/
theorem readFrom_enclose (hx : Spelt k x) (hrest : Apart rest) (place : Position) :
    ∃ token, token.kind = k ∧
      readFrom .instructions place (k.enclose x ++ rest) =
        (readFrom .instructions (place.afterAll (k.enclose x)) rest).map (prepend [token]) := by
  by_cases hk : ∀ body, k ≠ .text body
  · have henclose : k.enclose x = x := by
      cases k <;> first | rfl | exact absurd rfl (hk _)
    rw [henclose, readFrom_append (front?_spelt hx hk hrest)]
    exact ⟨_, rfl, rfl⟩
  · push Not at hk
    obtain ⟨s, rfl⟩ := hk
    cases hx with
    | text hne hbody =>
      have htext := readFrom_quoted hne hbody rest place
      simpa [Kind.enclose] using htext

/-! ## Reading a list of texts back -/

/-- The source that kinds with these texts are written as, with a space between two of them. -/
def source (items : List (Kind × List Char)) : List Char :=
  [' '].intercalate (items.map fun p => p.1.enclose p.2)

theorem exists_cons_of_enclose (hx : Spelt k x) :
    ∃ c cs, k.enclose x = c :: cs ∧ isBlank c = false := by
  cases hx with
  | newline | arrow | macroName => exact ⟨_, _, rfl, rfl⟩
  | text => exact ⟨'"', _, rfl, rfl⟩
  | label hne hname | symbol hne hname =>
    obtain ⟨c, cs, rfl⟩ := List.exists_cons_of_ne_nil hne
    exact ⟨c, _, rfl, isBlank_eq_false_of_isLetter (hname c List.mem_cons_self)⟩
  | number base hne hrun =>
    obtain ⟨c, cs, rfl⟩ := List.exists_cons_of_ne_nil hne
    cases base with
    | binary | hexadecimal => exact ⟨'0', _, rfl, rfl⟩
    | decimal => exact ⟨c, _, rfl, isBlank_eq_false_of_isDigit (hrun c List.mem_cons_self)⟩

/-- No source begins with a blank. -/
theorem head?_source {items : List (Kind × List Char)} (h : ∀ p ∈ items, Spelt p.1 p.2) :
    ∀ c ∈ (source items).head?, isBlank c = false := by
  cases items with
  | nil => simp [source]
  | cons p items =>
    obtain ⟨c, cs, hcons, hblank⟩ := exists_cons_of_enclose (h p List.mem_cons_self)
    simpa [source, hcons] using hblank

/-- A space makes no token. -/
theorem readFrom_space (htext : ∀ c ∈ text.head?, isBlank c = false) (place : Position) :
    readFrom .instructions place ([' '] ++ text) =
      (readFrom .instructions (place.afterAll [' ']) text).map (prepend []) := by
  have hrun : ([' '] ++ text).takeWhile isBlank = [' '] := takeWhile_run (by simp; rfl) htext
  have hfront : front? .instructions ([' '] ++ text) = some ⟨1, none, .stay⟩ := by
    rw [front?, instruction?, hrun]
    simp [List.cons_prefix_cons]
  rw [readFrom_append hfront]
  rfl

/-- Reading gives a list of kinds back from a source that it is written as. -/
theorem exists_readFrom_source (items : List (Kind × List Char)) (h : ∀ p ∈ items, Spelt p.1 p.2)
    (place : Position) :
    ∃ out, readFrom .instructions place (source items) = .ok out ∧ out.state = "root" ∧
      out.tokens.map Token.kind = items.map Prod.fst := by
  have hnil (place : Position) :
      readFrom .instructions place [] = .ok ⟨[], place.offset, "root"⟩ := readFrom_of_eq_none rfl
  induction items generalizing place with
  | nil => exact ⟨_, hnil place, rfl, rfl⟩
  | cons p items ih =>
    obtain ⟨hp, hitems⟩ := List.forall_mem_cons.1 h
    cases items with
    | nil =>
      obtain ⟨token, htoken, hread⟩ := readFrom_enclose hp apart_nil place
      have hsource : source [p] = p.1.enclose p.2 ++ [] := by simp [source]
      rw [hsource, hread, hnil]
      exact ⟨_, rfl, rfl, by simp [prepend, htoken]⟩
    | cons q items =>
      have hsource : source (p :: q :: items) =
          p.1.enclose p.2 ++ ([' '] ++ source (q :: items)) := by simp [source]
      obtain ⟨token, htoken, hread⟩ :=
        readFrom_enclose hp (apart_space (source (q :: items))) place
      obtain ⟨out, hout, hstate, hkinds⟩ :=
        ih hitems ((place.afterAll (p.1.enclose p.2)).afterAll [' '])
      rw [hsource, hread, readFrom_space (head?_source hitems), hout]
      exact ⟨_, rfl, hstate, by simp [prepend, htoken, hkinds]⟩

/-- Kinds that are written one after the other, each in one of its forms and with a space between
two of them, are given back by a scan, which ends outside of quoted texts. The kinds that can be
written are the well-formed ones, those of numbers in every base, and no scan gives other ones. -/
theorem kinds_of_source :
    (∀ items : List (Kind × List Char), (∀ p ∈ items, Spelt p.1 p.2) →
      ∃ out, (scanSource {} (source items)).result = .ok out ∧ out.state = "root" ∧
        out.tokens.map Token.kind = items.map Prod.fst) ∧
      (∀ k : Kind, k.WellFormed ↔ ∀ base, Spelt k (k.spell base)) ∧
      ∀ text out, (scanSource {} text).result = .ok out →
        ∀ token ∈ out.tokens, token.kind.WellFormed := by
  refine ⟨?_, ?_, ?_⟩
  · intro items h
    rw [scanSource_eq, result_scan]
    exact exists_readFrom_source items h .origin
  · exact fun k => ⟨Kind.WellFormed.spelt_spell, fun h => (h .decimal).wellFormed⟩
  · intro text out h token htoken
    rw [scanSource_eq, result_scan] at h
    obtain ⟨x, -, hx⟩ := spelt_of_read h token htoken
    exact hx.wellFormed

/-- A number whose digits are of both cases, a text with a comment sign in it, and words. -/
theorem kinds_of_mixed :
    ∃ out, (scanSource {} "0xFf \"a ;\" b: @x".toList).result = .ok out ∧ out.state = "root" ∧
      out.tokens.map Token.kind = [.number 255, .text "a ;", .label "b", .macroName "x"] := by
  have hspelt : ∀ p ∈ [(Kind.number 255, ['0', 'x', 'F', 'f']), (.text "a ;", ['a', ' ', ';']),
      (.label "b", ['b', ':']), (.macroName "x", ['@', 'x'])], Spelt p.1 p.2 := by
    simp only [List.forall_mem_cons]
    refine ⟨?_, ?_, ?_, ?_, by simp⟩
    · exact @Spelt.number .hexadecimal ['F', 'f'] (by simp) (List.all_eq_true.1 rfl)
    · exact @Spelt.text ['a', ' ', ';'] (by simp) (by decide)
    · exact @Spelt.label ['b'] (by simp) (List.all_eq_true.1 rfl)
    · exact @Spelt.macroName ['x'] (by simp) (List.all_eq_true.1 rfl)
  exact kinds_of_source.1 _ hspelt

end PushdownLexer.Assembly
