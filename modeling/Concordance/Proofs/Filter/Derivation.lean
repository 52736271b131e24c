import Concordance.Proofs.Filter.Grammar

/-! Filter texts are read exactly as they derive from their grammar: each reader takes what its
rule gives, and what is read is what the derivation stands for. -/

namespace Concordance.Filter

open Text (skip isSpacing)
open Grammar

section Inversion

variable {cs r : List Char} {ts : List Derivation}

theorem derives_word (t : Terminal) {w : List Char} (language : t.language = exactly w) :
    grammar.Derives (.terminal t) cs ts r ↔ ts = [.leaf t w] ∧ skip cs = w ++ r :=
  derives_exactly tight language

theorem derives_bare : grammar.Derives (.terminal .bare) cs ts r ↔
    ∃ s, ts = [.leaf .bare s] ∧ Reader.bare? (skip cs) = some (s, r) :=
  Reader.scans_bare.derives_iff tight

theorem derives_field : grammar.Derives (.terminal .field) cs ts r ↔
    ∃ s, ts = [.leaf .field s] ∧ Text.name? Reader.isFieldChar (skip cs) = some (s, r) :=
  (scans_nameOf Reader.isFieldChar).derives_iff tight

theorem derives_quoted : grammar.Derives (.terminal .quoted) cs ts r ↔
    ∃ s u, skip cs = '"' :: u ∧ Quoted.inside? '"' u = some (s, r) ∧
      ts = [.leaf .quoted ('"' :: s ++ ['"'])] := by
  rw [derives_terminal tight, show grammar.language .quoted = quotedBy '"' from rfl]
  simp only [lexeme_quotedBy (show '"' ≠ '\\' by decide)]
  constructor
  · rintro ⟨_, rfl, s, u, text, read, rfl⟩
    exact ⟨s, u, text, read, rfl⟩
  · rintro ⟨s, u, text, read, rfl⟩
    exact ⟨_, rfl, s, u, text, read, rfl⟩

end Inversion

namespace Reader

theorem range?_iff {cs r low high : List Char} : range? cs = some ((low, high), r) ↔
    ∃ b c d, bare? cs = some (low, b) ∧ skip b = 'T' :: 'O' :: c ∧
      bare? (skip c) = some (high, d) ∧ skip d = ']' :: r := by
  constructor
  · intro read
    simp only [range?, Option.bind_eq_bind, Option.bind_eq_some_iff, Prod.exists] at read
    obtain ⟨low, b, first, read⟩ := read
    split at read
    · next c word =>
      simp only [Option.bind_eq_some_iff, Prod.exists] at read
      obtain ⟨high, d, second, read⟩ := read
      split at read
      · next closed =>
        cases read
        exact ⟨b, c, d, first, word, second, closed⟩
      · cases read
    · cases read
  · rintro ⟨b, c, d, first, word, second, closed⟩
    simp [range?, first, word, second, closed]

end Reader

section Rules

variable {cs r : List Char} {ts : List Derivation}

theorem rule_eq (n : Nonterminal) : grammar.rule n = n.rule := rfl

theorem derives_sign : grammar.Derives (.optional (.terminal .required)) cs ts r ↔
    ts = [.leaf .required ['+']] ∧ skip cs = '+' :: r ∨ ts = [] ∧ r = cs := by
  rw [derives_optional, derives_word .required rfl]
  rfl

theorem derives_term : grammar.Derives (.nonterminal .term) cs ts r ↔
    ∃ us, ts = [.node .term us] ∧ (grammar.Derives (.terminal .quoted) cs us r ∨
      grammar.Derives (.terminal .bare) cs us r) := by
  simp only [derives_nonterminal, rule_eq, Nonterminal.rule, derives_either]

theorem eats_term : grammar.Eats (.nonterminal .term) :=
  .nonterminal (.either (eats_terminal tight .quoted) (eats_terminal tight .bare))

theorem derives_value : grammar.Derives (.nonterminal .value) cs ts r ↔
    ∃ us, ts = [.node .value us] ∧ (grammar.Derives Nonterminal.listed cs us r ∨
      grammar.Derives Nonterminal.range cs us r ∨
      grammar.Derives (.nonterminal .term) cs us r) := by
  simp only [derives_nonterminal, rule_eq, Nonterminal.rule, derives_either]

theorem derives_listed : grammar.Derives Nonterminal.listed cs ts r ↔
    ∃ m us n, skip cs = '(' :: m ∧ grammar.Derives (.some (.nonterminal .term)) m us n ∧
      skip n = ')' :: r ∧
      ts = .leaf .openParenthesis ['('] :: (us ++ [.leaf .closeParenthesis [')']]) := by
  simp only [Nonterminal.listed, Rule.all, derives_seq, derives_word .openParenthesis rfl,
    derives_word .closeParenthesis rfl]
  constructor
  · rintro ⟨_, m, _, ⟨rfl, opened⟩, ⟨us, n, _, terms, ⟨rfl, closed⟩, rfl⟩, rfl⟩
    exact ⟨m, us, n, opened, terms, closed, rfl⟩
  · rintro ⟨m, us, n, opened, terms, closed, rfl⟩
    exact ⟨_, m, _, ⟨rfl, opened⟩, ⟨us, n, _, terms, ⟨rfl, closed⟩, rfl⟩, rfl⟩

theorem derives_range : grammar.Derives Nonterminal.range cs ts r ↔
    ∃ a low high, skip cs = '[' :: a ∧ Reader.range? (skip a) = some ((low, high), r) ∧
      ts = [.leaf .openBracket ['['], .leaf .bare low, .leaf .upTo ['T', 'O'], .leaf .bare high,
        .leaf .closeBracket [']']] := by
  simp only [Nonterminal.range, Rule.all, derives_seq, derives_word .openBracket rfl, derives_bare,
    derives_word .upTo rfl, derives_word .closeBracket rfl, Reader.range?_iff]
  constructor
  · rintro ⟨_, a, _, ⟨rfl, opened⟩, ⟨_, b, _, ⟨low, rfl, first⟩, ⟨_, c, _, ⟨rfl, word⟩,
      ⟨_, d, _, ⟨high, rfl, second⟩, ⟨rfl, closed⟩, rfl⟩, rfl⟩, rfl⟩, rfl⟩
    exact ⟨a, low, high, opened, ⟨b, c, d, first, word, second, closed⟩, rfl⟩
  · rintro ⟨a, low, high, opened, ⟨b, c, d, first, word, second, closed⟩, rfl⟩
    exact ⟨_, a, _, ⟨rfl, opened⟩, ⟨_, b, _, ⟨low, rfl, first⟩, ⟨_, c, _, ⟨rfl, word⟩,
      ⟨_, d, _, ⟨high, rfl, second⟩, ⟨rfl, closed⟩, rfl⟩, rfl⟩, rfl⟩, rfl⟩

theorem derives_clause : grammar.Derives (.nonterminal .clause) cs ts r ↔
    ∃ signs a name b c vs, grammar.Derives (.optional (.terminal .required)) cs signs a ∧
      Text.name? Reader.isFieldChar (skip a) = some (name, b) ∧ skip b = ':' :: c ∧
      grammar.Derives (.nonterminal .value) c vs r ∧
      ts = [.node .clause (signs ++ .leaf .field name :: .leaf .colon [':'] :: vs)] := by
  rw [derives_nonterminal, rule_eq, Nonterminal.rule]
  simp only [Rule.all, derives_seq, derives_field, derives_word .colon rfl]
  constructor
  · rintro ⟨_, rfl, signs, a, _, sign, ⟨_, b, _, ⟨name, rfl, named⟩, ⟨_, c, vs, ⟨rfl, colon⟩, value,
      rfl⟩, rfl⟩, rfl⟩
    exact ⟨signs, a, name, b, c, vs, sign, named, colon, value, rfl⟩
  · rintro ⟨signs, a, name, b, c, vs, sign, named, colon, value, rfl⟩
    exact ⟨_, rfl, signs, a, _, sign, ⟨_, b, _, ⟨name, rfl, named⟩, ⟨_, c, vs, ⟨rfl, colon⟩, value,
      rfl⟩, rfl⟩, rfl⟩

end Rules

namespace Reader

variable {cs r : List Char}

theorem bare?_of_stop {c : Char} (cs : List Char) (stop : isBareChar c = false)
    (other : c ≠ '\\') : bare? (c :: cs) = none := by
  have stopped : bareRun (c :: cs) = ([], c :: cs) := by
    apply bareRun_of_stop
    rintro _ ⟨rfl⟩
    exact ⟨stop, other⟩
  unfold bare?
  split
  · rfl
  · rw [stopped]

theorem term?_of_stop {c : Char} (cs : List Char) (stop : isBareChar c = false)
    (other : c ≠ '\\') (unquoted : c ≠ '"') : term? (c :: cs) = none := by
  unfold term?
  split
  · next same =>
    cases same
    exact absurd rfl unquoted
  · rw [bare?_of_stop cs stop other]
    rfl

theorem term?_iff {x : Term} : term? (skip cs) = some (x, r) ↔
    ∃ t, grammar.Derives (.nonterminal .term) cs [t] r ∧ Derivation.term t = x := by
  constructor
  · intro read
    unfold term? at read
    split at read
    · next u text =>
      obtain ⟨⟨s, m⟩, inside, same⟩ := Option.map_eq_some_iff.mp read
      cases same
      have quoted := derives_quoted.mpr ⟨s, u, text, inside, rfl⟩
      exact ⟨_, derives_term.mpr ⟨_, rfl, .inl quoted⟩, by simp [Derivation.term]⟩
    · obtain ⟨⟨s, m⟩, found, same⟩ := Option.map_eq_some_iff.mp read
      cases same
      have bare := derives_bare.mpr ⟨s, rfl, found⟩
      exact ⟨_, derives_term.mpr ⟨_, rfl, .inr bare⟩, rfl⟩
  · rintro ⟨t, derived, rfl⟩
    obtain ⟨us, same, quoted | bare⟩ := derives_term.mp derived
    · obtain ⟨s, u, text, inside, rfl⟩ := derives_quoted.mp quoted
      cases same
      simp [text, term?, inside, Derivation.term]
    · obtain ⟨s, rfl, found⟩ := derives_bare.mp bare
      cases same
      unfold term?
      split
      · next rest text =>
        rw [text, bare?_of_stop rest rfl (by decide)] at found
        cases found
      · rw [found]
        rfl

theorem term?_of_derives {ts : List Derivation}
    (derived : grammar.Derives (.nonterminal .term) cs ts r) :
    ∃ t, ts = [t] ∧ term? (skip cs) = some (Derivation.term t, r) := by
  obtain ⟨us, rfl, -⟩ := derives_nonterminal.mp derived
  exact ⟨_, rfl, term?_iff.mpr ⟨_, derived, rfl⟩⟩

theorem terms?_sound {n : Nat} {xs : List Term} (read : terms? n (skip cs) = some (xs, r)) :
    ∃ ts m, grammar.Derives (.some (.nonterminal .term)) cs ts m ∧ skip m = ')' :: r ∧
      ts.map Derivation.term = xs := by
  induction n generalizing cs xs with
  | zero => cases read
  | succ n ih =>
    simp only [terms?, Option.bind_eq_bind, Option.bind_eq_some_iff, Prod.exists] at read
    obtain ⟨x, m, first, read⟩ := read
    obtain ⟨t, derived, rfl⟩ := term?_iff.mp first
    split at read
    · next closed =>
      cases read
      exact ⟨[t] ++ [], m, .seq derived .done, closed, rfl⟩
    · simp only [Option.bind_eq_some_iff, Prod.exists] at read
      obtain ⟨others, rest, later, read⟩ := read
      cases read
      obtain ⟨ts, k, terms, closed, rfl⟩ := ih later
      obtain ⟨us, l, vs, second, more, rfl⟩ := derives_seq.mp terms
      exact ⟨[t] ++ (us ++ vs), k, .seq derived (.more second more), closed, rfl⟩

theorem terms?_complete {ts : List Derivation} {m : List Char} {n : Nat}
    (derived : grammar.Derives (.some (.nonterminal .term)) cs ts m) (closed : skip m = ')' :: r)
    (fuel : ts.length ≤ n) : terms? n (skip cs) = some (ts.map Derivation.term, r) := by
  induction n generalizing cs ts with
  | zero =>
    obtain ⟨us, k, vs, first, -, rfl⟩ := derives_seq.mp derived
    obtain ⟨t, rfl, -⟩ := term?_of_derives first
    cases fuel
  | succ n ih =>
    obtain ⟨us, k, vs, first, others, rfl⟩ := derives_seq.mp derived
    obtain ⟨t, rfl, read⟩ := term?_of_derives first
    rw [terms?, read]
    rcases derives_many.mp others with ⟨rfl, rfl⟩ | ⟨us, l, ws, second, more, rfl⟩
    · simp [closed]
    · have later := ih (.seq second more) (Nat.le_of_succ_le_succ fuel)
      obtain ⟨u, -, next⟩ := term?_of_derives second
      simp only [Option.bind_eq_bind, Option.bind_some]
      split
      · next stop =>
        rw [stop, term?_of_stop _ rfl (by decide) (by decide)] at next
        cases next
      · rw [later]
        rfl

theorem value?_derived {v : List String × Bool} (read : value? (skip cs) = some (v, r)) :
    ∃ t, grammar.Derives (.nonterminal .value) cs [t] r ∧ Derivation.values t = v := by
  unfold value? at read
  split at read
  · next a opened =>
    simp only [Option.bind_eq_bind, Option.bind_eq_some_iff, Prod.exists] at read
    obtain ⟨xs, b, terms, read⟩ := read
    cases read
    obtain ⟨ts, m, derived, closed, rfl⟩ := terms?_sound terms
    have listed := derives_listed.mpr ⟨a, ts, m, opened, derived, closed, rfl⟩
    refine ⟨_, derives_value.mpr ⟨_, rfl, .inl listed⟩, ?_⟩
    simp [Derivation.values, Derivation.enclosed]
  · next a opened =>
    simp only [Option.bind_eq_bind, Option.bind_eq_some_iff, Prod.exists] at read
    obtain ⟨low, high, b, found, read⟩ := read
    cases read
    have range := derives_range.mpr ⟨a, low, high, opened, found, rfl⟩
    exact ⟨_, derives_value.mpr ⟨_, rfl, .inr (.inl range)⟩, rfl⟩
  · simp only [Option.bind_eq_bind, Option.bind_eq_some_iff, Prod.exists] at read
    obtain ⟨x, b, found, read⟩ := read
    cases read
    obtain ⟨t, derived, rfl⟩ := term?_iff.mp found
    obtain ⟨us, same, -⟩ := derives_nonterminal.mp derived
    cases same
    exact ⟨_, derives_value.mpr ⟨_, rfl, .inr (.inr derived)⟩, rfl⟩

theorem value?_of_derives {t : Derivation}
    (derived : grammar.Derives (.nonterminal .value) cs [t] r) :
    value? (skip cs) = some (Derivation.values t, r) := by
  obtain ⟨us, same, listed | range | single⟩ := derives_value.mp derived
  · obtain ⟨m, ts, n, opened, terms, closed, rfl⟩ := derives_listed.mp listed
    cases same
    have fuel : ts.length ≤ m.length.succ := by
      have long := eats_term.length_many terms.many_of_some
      have short := Text.length_skip_le m
      omega
    rw [opened, value?, terms?_complete terms closed fuel]
    simp [Derivation.values, Derivation.enclosed]
  · obtain ⟨a, low, high, opened, found, rfl⟩ := derives_range.mp range
    cases same
    rw [opened, value?, found]
    rfl
  · obtain ⟨u, rfl, found⟩ := term?_of_derives single
    cases same
    obtain ⟨us, same, -⟩ := derives_nonterminal.mp single
    cases same
    unfold value?
    split
    · next a opened =>
      rw [opened, term?_of_stop _ rfl (by decide) (by decide)] at found
      cases found
    · next a opened =>
      rw [opened, term?_of_stop _ rfl (by decide) (by decide)] at found
      cases found
    · rw [found]
      rfl

theorem clause?_parts {c : Clause} : clause? cs = some (c, r) ↔
    ∃ name b d vs isRange, Text.name? isFieldChar (skip (required cs).2) = some (name, b) ∧
      skip b = ':' :: d ∧ value? (skip d) = some ((vs, isRange), r) ∧
      c = ⟨String.ofList name, vs, (required cs).1, isRange⟩ := by
  constructor
  · intro read
    simp only [clause?, Option.bind_eq_bind, Option.bind_eq_some_iff, Prod.exists] at read
    obtain ⟨name, b, named, read⟩ := read
    split at read
    · next d colon =>
      simp only [Option.bind_eq_some_iff, Prod.exists] at read
      obtain ⟨vs, isRange, e, found, read⟩ := read
      cases read
      exact ⟨name, b, d, vs, isRange, named, colon, found, rfl⟩
    · cases read
  · rintro ⟨name, b, d, vs, isRange, named, colon, found, rfl⟩
    simp [clause?, named, colon, found]

theorem required_of_name {more : Char → Bool} {name : List Char}
    (named : Text.name? more cs = some (name, r)) : required cs = (false, cs) := by
  unfold required
  split
  · cases named
  · rfl

theorem clause?_iff {c : Clause} : clause? (skip cs) = some (c, r) ↔
    ∃ t, grammar.Derives (.nonterminal .clause) cs [t] r ∧ Derivation.clause t = c := by
  rw [clause?_parts]
  constructor
  · rintro ⟨name, b, d, vs, isRange, named, colon, found, rfl⟩
    obtain ⟨v, value, same⟩ := value?_derived found
    unfold required at named ⊢
    split at named
    · next a sign =>
      have signed := derives_sign.mpr (.inl ⟨rfl, sign⟩)
      refine ⟨_, derives_clause.mpr ⟨_, a, name, b, d, [v], signed, named, colon, value, rfl⟩, ?_⟩
      simp [Derivation.clause, same]
    · rw [Text.skip_skip] at named
      have unsigned : grammar.Derives (.optional (.terminal .required)) cs [] cs :=
        derives_sign.mpr (.inr ⟨rfl, rfl⟩)
      refine ⟨_,
        derives_clause.mpr ⟨_, cs, name, b, d, [v], unsigned, named, colon, value, rfl⟩, ?_⟩
      simp [Derivation.clause, same]
  · rintro ⟨t, derived, rfl⟩
    obtain ⟨signs, a, name, b, d, vs, sign, named, colon, value, same⟩ := derives_clause.mp derived
    cases same
    obtain ⟨us, rfl, -⟩ := derives_value.mp value
    have found := value?_of_derives value
    rcases derives_sign.mp sign with ⟨rfl, signed⟩ | ⟨rfl, rfl⟩
    · rw [signed]
      exact ⟨name, b, d, _, _, named, colon, found, rfl⟩
    · rw [required_of_name named]
      exact ⟨name, b, d, _, _, by rwa [Text.skip_skip], colon, found, rfl⟩

/-! ### Texts -/

theorem clauses?_sound {n : Nat} {clauses : List Clause} (read : clauses? n cs = some clauses) :
    ∃ ts r, grammar.Derives (.many (.nonterminal .clause)) cs ts r ∧ (∀ c ∈ r, isSpacing c) ∧
      ts.map Derivation.clause = clauses := by
  induction n generalizing cs clauses with
  | zero => cases read
  | succ n ih =>
    unfold clauses? at read
    split at read
    · next blank =>
      cases read
      exact ⟨[], cs, .done, List.dropWhile_eq_nil_iff.mp blank, rfl⟩
    · simp only [Option.bind_eq_bind, Option.bind_eq_some_iff, Prod.exists] at read
      obtain ⟨c, m, first, others, later, read⟩ := read
      cases read
      obtain ⟨t, derived, rfl⟩ := clause?_iff.mp first
      obtain ⟨ts, r, more, blank, rfl⟩ := ih later
      exact ⟨[t] ++ ts, r, .more derived more, blank, rfl⟩

theorem clauses?_complete {ts : List Derivation}
    (derived : grammar.Derives (.many (.nonterminal .clause)) cs ts r)
    (blank : ∀ c ∈ r, isSpacing c) {n : Nat} (fuel : ts.length < n) :
    clauses? n cs = some (ts.map Derivation.clause) := by
  induction n generalizing cs ts with
  | zero => cases fuel
  | succ n ih =>
    unfold clauses?
    rcases derives_many.mp derived with ⟨rfl, rfl⟩ | ⟨us, m, vs, first, others, rfl⟩
    · have none_left : skip r = [] := List.dropWhile_eq_nil_iff.mpr blank
      rw [none_left]
      rfl
    · obtain ⟨us, rfl, -⟩ := derives_nonterminal.mp first
      have read := clause?_iff.mpr ⟨_, first, rfl⟩
      have later := ih others (Nat.lt_of_succ_lt_succ fuel)
      split
      · next none_left =>
        rw [none_left] at read
        cases read
      · rw [read]
        simp [later]

end Reader

theorem eats_clause : grammar.Eats (.nonterminal .clause) := by
  have field := eats_terminal tight .field
  exact .nonterminal (.seq_right (.seq_left field))

theorem parse_eq_ok_iff {text : String} {clauses : List Clause} :
    parse text = .ok clauses ↔
      ∃ t, grammar.Parses .start (Text.trim text.toList) t ∧ Derivation.clauses t = clauses := by
  unfold parse
  dsimp only
  generalize Text.trim text.toList = cs
  constructor
  · intro read
    split at read
    · next found =>
      cases read
      obtain ⟨ts, r, derived, blank, rfl⟩ := Reader.clauses?_sound found
      exact ⟨.node .start ts, ⟨r, derives_nonterminal.mpr ⟨ts, rfl, derived⟩, blank⟩, rfl⟩
    · cases read
  · rintro ⟨t, ⟨r, derived, blank⟩, rfl⟩
    obtain ⟨ts, same, clauses⟩ := derives_nonterminal.mp derived
    cases same
    have fuel := eats_clause.length_many clauses
    have short := Text.length_skip_le cs
    rw [Reader.clauses?_complete clauses blank (by omega)]
    rfl

theorem error_of_parse {text : String} {e : Error} (failed : parse text = .error e) :
    e = ⟨String.ofList (Text.trim text.toList)⟩ := by
  unfold parse at failed
  dsimp only at failed
  split at failed
  · cases failed
  · cases failed
    rfl

/-- Every text is read as the clauses that any derivation of it stands for, and a text without a
derivation is no filter. -/
theorem parse_derivation (text : String) :
    (∀ clauses, parse text = .ok clauses ↔
        ∃ t, grammar.Parses .start (Text.trim text.toList) t ∧ Derivation.clauses t = clauses) ∧
      (∀ t u, grammar.Parses .start (Text.trim text.toList) t →
        grammar.Parses .start (Text.trim text.toList) u →
          Derivation.clauses t = Derivation.clauses u) ∧
      (∀ e, parse text = .error e ↔ e = ⟨String.ofList (Text.trim text.toList)⟩ ∧
        ∀ t, ¬grammar.Parses .start (Text.trim text.toList) t) ∧
      (Text.trim text.toList = [] → parse text = .ok []) := by
  refine ⟨fun clauses => parse_eq_ok_iff, ?_, fun e => ⟨fun failed => ?_, ?_⟩, fun blank => ?_⟩
  · intro t u first second
    have read := parse_eq_ok_iff.mpr ⟨t, first, rfl⟩
    have again := parse_eq_ok_iff.mpr ⟨u, second, rfl⟩
    exact Except.ok.inj (read.symm.trans again)
  · refine ⟨error_of_parse failed, fun t parses => ?_⟩
    rw [parse_eq_ok_iff.mpr ⟨t, parses, rfl⟩] at failed
    cases failed
  · rintro ⟨rfl, none_left⟩
    cases found : parse text with
    | ok clauses =>
      obtain ⟨t, parses, -⟩ := parse_eq_ok_iff.mp found
      exact absurd parses (none_left t)
    | error e => rw [error_of_parse found]
  · have nothing : grammar.Derives (.nonterminal .start) [] [.node .start []] [] :=
      .nonterminal .done
    exact parse_eq_ok_iff.mpr ⟨_, ⟨[], by rwa [blank], List.forall_mem_nil _⟩, rfl⟩

/-- Clauses without a blank between them, bare words that are words of the language, an escaped
blank as a bound; and a range without an end, which is no filter. -/
theorem parse_derivation_adjacent :
    (∃ t, grammar.Parses .start (Text.trim
        " genre:a+b +x.y:(OR \"OR\" TO)OR:[TO TO \\ ]TO:\"\\\"\"\n".toList) t ∧
      Derivation.clauses t = [⟨"genre", ["a+b"], false, false⟩,
        ⟨"x.y", ["OR", "TO"], true, false⟩, ⟨"OR", ["TO", "\\ "], false, true⟩,
        ⟨"TO", ["\\\""], false, false⟩]) ∧
      ∀ t, ¬grammar.Parses .start (Text.trim "year:[1900 TO]".toList) t := by
  have read : parse " genre:a+b +x.y:(OR \"OR\" TO)OR:[TO TO \\ ]TO:\"\\\"\"\n" =
      .ok [⟨"genre", ["a+b"], false, false⟩, ⟨"x.y", ["OR", "TO"], true, false⟩,
        ⟨"OR", ["TO", "\\ "], false, true⟩, ⟨"TO", ["\\\""], false, false⟩] := by
    decide +kernel
  have refused : parse "year:[1900 TO]" = .error ⟨"year:[1900 TO]"⟩ := by
    decide +kernel
  exact ⟨((parse_derivation _).1 _).mp read, (((parse_derivation _).2.2.1 _).mp refused).2⟩

end Concordance.Filter
