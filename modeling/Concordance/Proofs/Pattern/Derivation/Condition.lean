import Concordance.Proofs.Pattern.Grammar

/-! Conditions are read exactly as they derive from the grammar of patterns. A rule leaves open how
far a chain goes; the reader goes on as long as the text does, so what derives is read as a whole
where nothing follows that would go on. -/

namespace Concordance.Pattern

open Text (skip isSpacing isNameChar)
open Grammar
open Reader

/-! ### Terminals -/

section Lexemes

variable {cs s r : List Char}

theorem lexeme_string : Lexeme Terminal.string.language cs s r ↔
    ∃ q t u, (q = '"' ∨ q = '\'') ∧ cs = q :: u ∧ Quoted.inside? q u = some (t, r) ∧
      s = q :: t ++ [q] := by
  have apart : ∀ s ∈ quotedBy '"', ∀ t ∈ quotedBy '\'',
      ∃ c d, s.head? = some c ∧ t.head? = some d ∧ c ≠ d := by
    intro s hs t ht
    obtain ⟨v, -, rfl⟩ := mem_quotedBy.mp hs
    obtain ⟨w, -, rfl⟩ := mem_quotedBy.mp ht
    exact ⟨'"', '\'', rfl, rfl, by decide⟩
  rw [Terminal.language, lexeme_add apart, lexeme_quotedBy (by decide), lexeme_quotedBy (by decide)]
  constructor
  · rintro (⟨t, u, read⟩ | ⟨t, u, read⟩)
    · exact ⟨_, t, u, .inl rfl, read⟩
    · exact ⟨_, t, u, .inr rfl, read⟩
  · rintro ⟨q, t, u, rfl | rfl, read⟩
    · exact .inl ⟨t, u, read⟩
    · exact .inr ⟨t, u, read⟩

theorem unquoted_quoted (q : Char) (t : List Char) :
    Derivation.unquoted (q :: t ++ [q]) = String.ofList (Quoted.unescape q t) := by
  simp [Derivation.unquoted, Quoted.unquote?]

theorem literal?_iff {v : List Char} : Quoted.literal? cs = some (v, r) ↔
    ∃ s, Lexeme Terminal.string.language cs s r ∧ Derivation.unquoted s = String.ofList v := by
  simp only [lexeme_string]
  constructor
  · intro read
    unfold Quoted.literal? at read
    split at read
    · next u =>
      simp only [Option.map_eq_some_iff, Prod.mk.injEq, Prod.exists] at read
      obtain ⟨t, _, inside, rfl, rfl⟩ := read
      exact ⟨_, ⟨_, t, u, .inl rfl, rfl, inside, rfl⟩, unquoted_quoted _ t⟩
    · next u =>
      simp only [Option.map_eq_some_iff, Prod.mk.injEq, Prod.exists] at read
      obtain ⟨t, _, inside, rfl, rfl⟩ := read
      exact ⟨_, ⟨_, t, u, .inr rfl, rfl, inside, rfl⟩, unquoted_quoted _ t⟩
    · cases read
  · rintro ⟨_, ⟨q, t, u, quote, rfl, inside, rfl⟩, same⟩
    rw [unquoted_quoted, String.ofList_inj] at same
    rcases quote with rfl | rfl
    · simp [Quoted.literal?, inside, same]
    · simp [Quoted.literal?, inside, same]

theorem lexeme_comparison : Lexeme Terminal.comparison.language cs s r ↔
    comparison? cs = some (String.ofList s, r) := by
  rw [Terminal.language, lexeme_exactly_add (by decide)]
  constructor
  · rintro (⟨rfl, rfl⟩ | ⟨rfl, rfl⟩) <;> rfl
  · intro read
    unfold comparison? at read
    split at read
    · rw [Option.some.injEq, Prod.mk.injEq] at read
      obtain ⟨operator, rfl⟩ := read
      exact .inl ⟨String.ofList_inj.mp operator.symm, rfl⟩
    · rw [Option.some.injEq, Prod.mk.injEq] at read
      obtain ⟨operator, rfl⟩ := read
      exact .inr ⟨String.ofList_inj.mp operator.symm, rfl⟩
    · cases read

theorem count?_eq (cs : List Char) : count? cs =
    if (cs.takeWhile Char.isDigit).isEmpty then none
    else some (cs.takeWhile Char.isDigit, cs.dropWhile Char.isDigit) := by
  unfold count?
  rw [List.span_eq_takeWhile_dropWhile]
  cases cs.takeWhile Char.isDigit <;> rfl

end Lexemes

theorem tight : grammar.IsTight := by
  intro t s mem
  cases t with
  | name | tagName =>
    obtain ⟨c, cs, start, -, rfl⟩ := mem_nameOf.mp mem
    exact ⟨c, rfl, Text.isSpacing_of_isNameStart start⟩
  | count =>
    obtain ⟨filled, digits⟩ := mem_digits.mp mem
    obtain ⟨c, cs, rfl⟩ := List.exists_cons_of_ne_nil filled
    exact ⟨c, rfl, isSpacing_of_isDigit (digits c List.mem_cons_self)⟩
  | string =>
    rcases mem with mem | mem
    · obtain ⟨t, -, rfl⟩ := mem_quotedBy.mp mem
      exact ⟨'"', rfl, rfl⟩
    · obtain ⟨t, -, rfl⟩ := mem_quotedBy.mp mem
      exact ⟨'\'', rfl, rfl⟩
  | disjunction | conjunction | comparison =>
    rcases mem with mem | mem
    · rw [mem_exactly.mp mem]
      exact ⟨_, rfl, rfl⟩
    · rw [mem_exactly.mp mem]
      exact ⟨_, rfl, rfl⟩
  | _ =>
    rw [mem_exactly.mp mem]
    exact ⟨_, rfl, rfl⟩

section Terminals

variable {cs r : List Char} {ts : List Derivation}

theorem derives_word (t : Terminal) {w : List Char} (language : t.language = exactly w) :
    grammar.Derives (.terminal t) cs ts r ↔ ts = [.leaf t w] ∧ skip cs = w ++ r :=
  derives_exactly tight language

theorem derives_name : grammar.Derives (.terminal .name) cs ts r ↔
    ∃ s, ts = [.leaf .name s] ∧ Text.name? isNameChar (skip cs) = some (s, r) :=
  (scans_nameOf isNameChar).derives_iff tight

theorem derives_tagName : grammar.Derives (.terminal .tagName) cs ts r ↔
    ∃ s, ts = [.leaf .tagName s] ∧ Text.name? isTagChar (skip cs) = some (s, r) :=
  (scans_nameOf isTagChar).derives_iff tight

theorem derives_count : grammar.Derives (.terminal .count) cs ts r ↔
    ∃ s, ts = [.leaf .count s] ∧ count? (skip cs) = some (s, r) :=
  (scans_digits count?_eq).derives_iff tight

theorem derives_comparison : grammar.Derives (.terminal .comparison) cs ts r ↔
    ∃ s, ts = [.leaf .comparison s] ∧ comparison? (skip cs) = some (String.ofList s, r) := by
  rw [derives_terminal tight]
  simp only [show grammar.language .comparison = Terminal.comparison.language from rfl,
    lexeme_comparison]

theorem derives_string : grammar.Derives (.terminal .string) cs ts r ↔
    ∃ s, ts = [.leaf .string s] ∧ Lexeme Terminal.string.language (skip cs) s r :=
  derives_terminal tight

end Terminals

/-! ### Conditions -/

theorem rule_eq (n : Nonterminal) : grammar.rule n = n.rule := rfl

namespace Reader

variable {cs r : List Char}

theorem derives_constraint {ts : List Derivation} :
    grammar.Derives (.nonterminal .constraint) cs ts r ↔
    ∃ name b operator c value, Text.name? isNameChar (skip cs) = some (name, b) ∧
      comparison? (skip b) = some (String.ofList operator, c) ∧
      Lexeme Terminal.string.language (skip c) value r ∧
      ts = [.node .constraint
        [.leaf .name name, .leaf .comparison operator, .leaf .string value]] := by
  rw [derives_nonterminal, rule_eq, Nonterminal.rule]
  simp only [Rule.all, derives_seq, derives_name, derives_comparison, derives_string]
  constructor
  · rintro ⟨_, rfl, _, b, _, ⟨name, rfl, named⟩, ⟨_, c, _, ⟨operator, rfl, compared⟩,
      ⟨value, rfl, quoted⟩, rfl⟩, rfl⟩
    exact ⟨name, b, operator, c, value, named, compared, quoted, rfl⟩
  · rintro ⟨name, b, operator, c, value, named, compared, quoted, rfl⟩
    exact ⟨_, rfl, _, b, _, ⟨name, rfl, named⟩, ⟨_, c, _, ⟨operator, rfl, compared⟩,
      ⟨value, rfl, quoted⟩, rfl⟩, rfl⟩

theorem attribute?_iff {a : Attribute} : attribute? (skip cs) = some (a, r) ↔
    ∃ t, grammar.Derives (.nonterminal .constraint) cs [t] r ∧
      Derivation.condition t = .attribute a := by
  simp only [derives_constraint]
  constructor
  · intro read
    simp only [attribute?, Option.bind_eq_bind, Option.bind_eq_some_iff, Prod.exists,
      Option.some.injEq, Prod.mk.injEq] at read
    obtain ⟨name, b, named, operator, c, compared, value, _, valued, rfl, rfl⟩ := read
    obtain ⟨s, quoted, same⟩ := literal?_iff.mp valued
    refine ⟨_, ⟨name, b, operator.toList, c, s, named, ?_, quoted, rfl⟩, ?_⟩
    · rwa [String.ofList_toList]
    · simp [Derivation.condition, same]
  · rintro ⟨t, ⟨name, b, operator, c, s, named, compared, quoted, same⟩, meaning⟩
    cases same
    simp only [Derivation.condition, Condition.attribute.injEq] at meaning
    have valued := literal?_iff.mpr
      ⟨s, quoted, (String.ofList_toList (s := Derivation.unquoted s)).symm⟩
    simp [attribute?, named, compared, valued, ← meaning]

namespace Level

def operator : Level → Terminal
  | conjunction => .conjunction
  | disjunction => .disjunction

def operand : Level → Nonterminal
  | conjunction => .unary
  | disjunction => .conjunction

def chain : Level → Nonterminal
  | conjunction => .conjunction
  | disjunction => .disjunction

def others (j : Level) : Rule Nonterminal Terminal :=
  .many (.seq (.terminal j.operator) (.nonterminal j.operand))

def depth : Level → Nat
  | conjunction => 1
  | disjunction => 2

variable (j : Level)

theorem mark?_iff : j.mark? cs = some r ↔ ∃ s, Lexeme j.operator.language cs s r := by
  cases j with
  | conjunction =>
    simp only [mark?, operator, Terminal.language, lexeme_exactly_add (show '&' ≠ 'A' by decide)]
    constructor
    · intro read
      unfold conjunctionMark? at read
      split at read
      · cases read
        exact ⟨_, .inl ⟨rfl, rfl⟩⟩
      · cases read
        exact ⟨_, .inr ⟨rfl, rfl⟩⟩
      · cases read
    · rintro ⟨s, ⟨rfl, rfl⟩ | ⟨rfl, rfl⟩⟩ <;> rfl
  | disjunction =>
    simp only [mark?, operator, Terminal.language, lexeme_exactly_add (show '|' ≠ 'O' by decide)]
    constructor
    · intro read
      unfold disjunctionMark? at read
      split at read
      · cases read
        exact ⟨_, .inl ⟨rfl, rfl⟩⟩
      · cases read
        exact ⟨_, .inr ⟨rfl, rfl⟩⟩
      · cases read
    · rintro ⟨s, ⟨rfl, rfl⟩ | ⟨rfl, rfl⟩⟩ <;> rfl

theorem derives_chain {ts : List Derivation} : grammar.Derives (.nonterminal j.chain) cs ts r ↔
    ∃ us m vs, grammar.Derives (.nonterminal j.operand) cs us m ∧ grammar.Derives j.others m vs r ∧
      ts = [.node j.chain (us ++ vs)] := by
  have rule : grammar.rule j.chain =
      .seq (.nonterminal j.operand) j.others := by cases j <;> rfl
  rw [derives_nonterminal, rule]
  simp only [derives_seq]
  constructor
  · rintro ⟨_, rfl, us, m, vs, first, others, rfl⟩
    exact ⟨us, m, vs, first, others, rfl⟩
  · rintro ⟨us, m, vs, first, others, rfl⟩
    exact ⟨_, rfl, us, m, vs, first, others, rfl⟩

theorem derives_others {ts : List Derivation} : grammar.Derives j.others cs ts r ↔
    ts = [] ∧ r = cs ∨ ∃ s a us m vs, Lexeme j.operator.language (skip cs) s a ∧
      grammar.Derives (.nonterminal j.operand) a us m ∧ grammar.Derives j.others m vs r ∧
      ts = .leaf j.operator s :: (us ++ vs) := by
  rw [others, derives_many]
  simp only [derives_seq, derives_terminal tight]
  refine or_congr_right ?_
  constructor
  · rintro ⟨_, m, vs, ⟨_, a, us, ⟨s, rfl, lexeme⟩, operand, rfl⟩, more, rfl⟩
    exact ⟨s, a, us, m, vs, lexeme, operand, more, rfl⟩
  · rintro ⟨s, a, us, m, vs, lexeme, operand, more, rfl⟩
    exact ⟨_, m, vs, ⟨_, a, us, ⟨s, rfl, lexeme⟩, operand, rfl⟩, more, rfl⟩

end Level

theorem derives_unary {ts : List Derivation} : grammar.Derives (.nonterminal .unary) cs ts r ↔
    ∃ us, ts = [.node .unary us] ∧
      ((∃ a vs, skip cs = '!' :: a ∧ grammar.Derives (.nonterminal .unary) a vs r ∧
          us = .leaf .negation ['!'] :: vs) ∨
        (∃ a vs b, skip cs = '(' :: a ∧ grammar.Derives (.nonterminal .condition) a vs b ∧
          skip b = ')' :: r ∧
          us = .leaf .openParenthesis ['('] :: (vs ++ [.leaf .closeParenthesis [')']])) ∨
        grammar.Derives (.nonterminal .constraint) cs us r) := by
  rw [derives_nonterminal, rule_eq, Nonterminal.rule]
  simp only [Rule.all, derives_either, derives_seq, derives_word .negation rfl,
    derives_word .openParenthesis rfl, derives_word .closeParenthesis rfl]
  constructor
  · rintro ⟨us, rfl, ⟨_, a, vs, ⟨rfl, mark⟩, operand, rfl⟩ |
      ⟨_, a, _, ⟨rfl, opened⟩, ⟨vs, b, _, inner, ⟨rfl, closed⟩, rfl⟩, rfl⟩ | constraint⟩
    · exact ⟨_, rfl, .inl ⟨a, vs, mark, operand, rfl⟩⟩
    · exact ⟨_, rfl, .inr (.inl ⟨a, vs, b, opened, inner, closed, rfl⟩)⟩
    · exact ⟨_, rfl, .inr (.inr constraint)⟩
  · rintro ⟨us, rfl, ⟨a, vs, mark, operand, rfl⟩ | ⟨a, vs, b, opened, inner, closed, rfl⟩ |
      constraint⟩
    · exact ⟨_, rfl, .inl ⟨_, a, vs, ⟨rfl, mark⟩, operand, rfl⟩⟩
    · exact ⟨_, rfl, .inr (.inl
        ⟨_, a, _, ⟨rfl, opened⟩, ⟨vs, b, _, inner, ⟨rfl, closed⟩, rfl⟩, rfl⟩)⟩
    · exact ⟨_, rfl, .inr (.inr constraint)⟩

theorem derives_condition {ts : List Derivation} :
    grammar.Derives (.nonterminal .condition) cs ts r ↔
      ∃ us, ts = [.node .condition us] ∧ grammar.Derives (.nonterminal .disjunction) cs us r :=
  derives_nonterminal

/-! ### Meaning -/

section Meaning

variable {t : Derivation} {ts us : List Derivation}

theorem conditions_append :
    Derivation.conditions (ts ++ us) = Derivation.conditions ts ++ Derivation.conditions us := by
  induction ts with
  | nil => rfl
  | cons t ts ih => cases t <;> simp [Derivation.conditions, ih]

theorem conditions_single {n : Nonterminal} (derived : grammar.Derives (.nonterminal n) cs ts r) :
    ∃ t, ts = [t] ∧ Derivation.conditions ts = [Derivation.condition t] := by
  obtain ⟨us, rfl, -⟩ := derives_nonterminal.mp derived
  exact ⟨_, rfl, rfl⟩

theorem condition_negation {s : List Char} {c : Condition}
    (single : Derivation.conditions ts = [c]) :
    Derivation.condition (.node .unary (.leaf .negation s :: ts)) = .negation c := by
  rw [Derivation.condition, single]
  rfl

theorem condition_parenthesized {s u : List Char} {c : Condition}
    (single : Derivation.conditions ts = [c]) :
    Derivation.condition (.node .unary (.leaf .openParenthesis s ::
      (ts ++ [.leaf .closeParenthesis u]))) = c := by
  have inner : Derivation.conditions (.leaf .openParenthesis s ::
      (ts ++ [.leaf .closeParenthesis u])) = [c] := by
    rw [Derivation.conditions, conditions_append, single]
    rfl
  rw [Derivation.condition, inner]
  · rfl
  · nofun

theorem condition_operand {n : Nonterminal} :
    Derivation.condition (.node .unary [.node n ts]) = Derivation.condition (.node n ts) := rfl

theorem condition_condition {n : Nonterminal} :
    Derivation.condition (.node .condition [.node n ts]) = Derivation.condition (.node n ts) := rfl

theorem condition_chain (j : Level) :
    Derivation.condition (.node j.chain ts) = chained j.op (Derivation.conditions ts) := by
  cases j <;> simp [Level.chain, Level.op, Derivation.condition]

end Meaning

/-! ### What is read of a condition derives -/

structure Derived (n : Nat) : Prop where
  unary : ∀ {cs c r}, unary n (skip cs) = some (c, r) →
    ∃ t, grammar.Derives (.nonterminal .unary) cs [t] r ∧ Derivation.condition t = c
  whole : ∀ (j : Level) {cs c r}, j.whole n (skip cs) = some (c, r) →
    ∃ t, grammar.Derives (.nonterminal j.chain) cs [t] r ∧ Derivation.condition t = c
  more : ∀ (j : Level) {left cs c r}, j.more n left cs = some (c, r) →
    ∃ ts, grammar.Derives j.others cs ts r ∧
      (Derivation.conditions ts).foldl (.binary j.op) left = c

theorem Derived.one {n : Nat} (h : Derived n) (j : Level) {c : Condition}
    (read : j.one n (skip cs) = some (c, r)) :
    ∃ t, grammar.Derives (.nonterminal j.operand) cs [t] r ∧ Derivation.conditions [t] = [c] := by
  have found : ∃ t, grammar.Derives (.nonterminal j.operand) cs [t] r ∧
      Derivation.condition t = c := by
    cases j with
    | conjunction => exact h.unary read
    | disjunction => exact h.whole .conjunction read
  obtain ⟨t, derived, rfl⟩ := found
  obtain ⟨_, ⟨⟩, single⟩ := conditions_single derived
  exact ⟨t, derived, single⟩

theorem unary_derived {n : Nat} (h : Derived n) {c : Condition}
    (read : unary (n + 1) (skip cs) = some (c, r)) :
    ∃ t, grammar.Derives (.nonterminal .unary) cs [t] r ∧ Derivation.condition t = c := by
  rw [unary.eq_def] at read
  dsimp only at read
  split at read
  · next a mark =>
    simp only [Option.bind_eq_bind, Option.bind_eq_some_iff, Prod.exists, Option.some.injEq,
      Prod.mk.injEq] at read
    obtain ⟨e, _, read, rfl, rfl⟩ := read
    obtain ⟨t, operand, rfl⟩ := h.unary read
    obtain ⟨_, ⟨⟩, single⟩ := conditions_single operand
    exact ⟨_, derives_unary.mpr ⟨_, rfl, .inl ⟨a, _, mark, operand, rfl⟩⟩,
      condition_negation single⟩
  · next a opened =>
    simp only [Option.bind_eq_bind, Option.bind_eq_some_iff, Prod.exists] at read
    obtain ⟨e, b, read, closed⟩ := read
    obtain ⟨t, inner, rfl⟩ := h.whole .disjunction read
    split at closed
    · next closing =>
      cases closed
      obtain ⟨us, same, -⟩ := derives_nonterminal.mp inner
      cases same
      have condition := derives_condition.mpr ⟨_, rfl, inner⟩
      exact ⟨_, derives_unary.mpr ⟨_, rfl, .inr (.inl ⟨a, _, b, opened, condition, closing, rfl⟩)⟩,
        condition_parenthesized rfl⟩
    · cases closed
  · simp only [Option.bind_eq_bind, Option.bind_eq_some_iff, Prod.exists, Option.some.injEq,
      Prod.mk.injEq] at read
    obtain ⟨a, _, read, rfl, rfl⟩ := read
    obtain ⟨t, constraint, meaning⟩ := attribute?_iff.mp read
    obtain ⟨us, same, -⟩ := derives_nonterminal.mp constraint
    cases same
    exact ⟨_, derives_unary.mpr ⟨_, rfl, .inr (.inr constraint)⟩, condition_operand.trans meaning⟩

theorem derived (n : Nat) : Derived n := by
  induction n with
  | zero =>
    refine ⟨fun read => ?_, fun j => ?_, fun j => ?_⟩
    · exact absurd read (by simp [unary])
    · cases j <;> simp [Level.whole, conjunction, disjunction]
    · cases j <;> simp [Level.more, conjuncts, disjuncts]
  | succ n ih =>
    refine ⟨unary_derived ih, fun j {cs c r} read => ?_, fun j {left cs c r} read => ?_⟩
    · rw [Level.whole_succ, Option.bind_eq_some_iff] at read
      obtain ⟨⟨e, m⟩, one, more⟩ := read
      obtain ⟨t, operand, single⟩ := ih.one j one
      obtain ⟨ts, others, rfl⟩ := ih.more j more
      refine ⟨_, j.derives_chain.mpr ⟨_, m, ts, operand, others, rfl⟩, ?_⟩
      rw [condition_chain, conditions_append, single]
      rfl
    · rw [Level.more_succ] at read
      split at read
      · next a marked =>
        rw [Option.bind_eq_some_iff] at read
        obtain ⟨⟨e, m⟩, one, more⟩ := read
        obtain ⟨s, lexeme⟩ := j.mark?_iff.mp marked
        obtain ⟨t, operand, single⟩ := ih.one j one
        obtain ⟨ts, others, rfl⟩ := ih.more j more
        refine ⟨_, j.derives_others.mpr (.inr ⟨s, a, _, m, ts, lexeme, operand, others, rfl⟩), ?_⟩
        rw [Derivation.conditions, conditions_append, single]
        rfl
      · cases read
        exact ⟨[], j.derives_others.mpr (.inl ⟨rfl, rfl⟩), rfl⟩

/-! ### What derives as a condition is read -/

theorem eats_unary : grammar.Eats (.nonterminal .unary) := by
  have constraint : grammar.Eats (.nonterminal .constraint) :=
    .nonterminal (.seq_left (eats_terminal tight .name))
  exact .nonterminal (.either (.seq_left (eats_terminal tight .negation))
    (.either (.seq_left (eats_terminal tight .openParenthesis)) constraint))

theorem eats_operand (j : Level) : grammar.Eats (.nonterminal j.operand) := by
  cases j with
  | conjunction => exact eats_unary
  | disjunction => exact .nonterminal (.seq_left eats_unary)

theorem Level.mark?_of_ends (j : Level) (ends : j.Ends cs) : j.mark? (skip cs) = none := by
  cases j <;> exact ends

theorem Level.ends_of_close (j : Level) {c : Char} (text : skip cs = c :: r)
    (close : c = ')' ∨ c = ']') : j.Ends cs := by
  rcases close with rfl | rfl <;> cases j <;> simp [Ends, text, conjunctionMark?, disjunctionMark?]

theorem endsBelow_others (j : Level) {ts : List Derivation}
    (derived : grammar.Derives j.others cs ts r) (below : j.EndsBelow r) : j.EndsBelow cs := by
  rcases j.derives_others.mp derived with ⟨-, rfl⟩ | ⟨s, a, us, m, vs, lexeme, -, -, -⟩
  · exact below
  · rintro rfl
    have marked : disjunctionMark? (skip cs) = some a := Level.disjunction.mark?_iff.mpr ⟨s, lexeme⟩
    unfold disjunctionMark? at marked
    split at marked
    · next text => simp [Level.Ends, text, conjunctionMark?]
    · next text => simp [Level.Ends, text, conjunctionMark?]
    · cases marked

/-- What the readers of conditions take within a bound on their steps. A chain is taken as a whole
where nothing goes on that would belong to it. -/
structure Complete (n : Nat) : Prop where
  unary : ∀ {cs t r}, grammar.Derives (.nonterminal .unary) cs [t] r →
    3 * (skip cs).length ≤ n → unary n (skip cs) = some (Derivation.condition t, r)
  whole : ∀ (j : Level) {cs t r}, grammar.Derives (.nonterminal j.chain) cs [t] r →
    j.Ends r → j.EndsBelow r → 3 * (skip cs).length + j.depth ≤ n →
      j.whole n (skip cs) = some (Derivation.condition t, r)
  more : ∀ (j : Level) (left : Condition) {cs ts r}, grammar.Derives j.others cs ts r →
    j.Ends r → j.EndsBelow r → 3 * (skip cs).length + j.depth ≤ n →
      j.more n left cs = some ((Derivation.conditions ts).foldl (.binary j.op) left, r)

theorem Complete.one {n : Nat} (h : Complete n) (j : Level) {ts : List Derivation}
    (derived : grammar.Derives (.nonterminal j.operand) cs ts r) (below : j.EndsBelow r)
    (bound : 3 * (skip cs).length + j.depth ≤ n + 1) :
    ∃ c, Derivation.conditions ts = [c] ∧ j.one n (skip cs) = some (c, r) := by
  obtain ⟨t, rfl, single⟩ := conditions_single derived
  refine ⟨_, single, ?_⟩
  cases j with
  | conjunction => exact h.unary derived (Nat.le_of_succ_le_succ bound)
  | disjunction =>
    exact h.whole .conjunction derived (below rfl) nofun (Nat.le_of_succ_le_succ bound)

theorem unary_complete {n : Nat} (h : Complete n) {t : Derivation}
    (derived : grammar.Derives (.nonterminal .unary) cs [t] r)
    (bound : 3 * (skip cs).length ≤ n + 1) :
    unary (n + 1) (skip cs) = some (Derivation.condition t, r) := by
  obtain ⟨us, same, ⟨a, vs, mark, operand, rfl⟩ | ⟨a, vs, b, opened, inner, closed, rfl⟩ |
    constraint⟩ := derives_unary.mp derived
  · cases same
    obtain ⟨t, rfl, single⟩ := conditions_single operand
    have short := Text.length_skip_le a
    rw [mark, List.length_cons] at bound
    have read := h.unary operand (by omega)
    rw [mark, unary, read, condition_negation single]
    rfl
  · cases same
    obtain ⟨_, rfl, chain⟩ := derives_condition.mp inner
    obtain ⟨us, rfl, -⟩ := derives_nonterminal.mp chain
    have short := Text.length_skip_le a
    rw [opened, List.length_cons] at bound
    have read : disjunction n (skip a) = some (Derivation.condition (.node .disjunction us), b) :=
      h.whole .disjunction chain (Level.ends_of_close _ closed (.inl rfl))
        (fun _ => Level.ends_of_close _ closed (.inl rfl)) (by rw [Level.depth]; omega)
    rw [opened, unary, read, condition_parenthesized rfl, condition_condition]
    simp [closed]
  · cases same
    obtain ⟨name, b, operator, c, value, -, -, -, rfl⟩ := derives_constraint.mp constraint
    have read := attribute?_iff.mpr ⟨_, constraint, rfl⟩
    rw [unary.eq_def]
    dsimp only
    split
    · next text =>
      rw [text] at read
      cases read
    · next text =>
      rw [text] at read
      cases read
    · rw [read]
      rfl

theorem complete (n : Nat) : Complete n := by
  induction n with
  | zero =>
    refine ⟨fun {cs t r} derived bound => ?_, fun j {cs t r} _ _ _ bound => ?_,
      fun j left {cs ts r} _ _ _ bound => ?_⟩
    · have less := eats_unary derived
      omega
    · cases j <;> simp [Level.depth] at bound
    · cases j <;> simp [Level.depth] at bound
  | succ n ih =>
    refine ⟨unary_complete ih, fun j {cs t r} derived ends below bound => ?_,
      fun j left {cs ts r} derived ends below bound => ?_⟩
    · obtain ⟨us, m, vs, operand, others, same⟩ := j.derives_chain.mp derived
      cases same
      have less := eats_operand j operand
      have short := Text.length_skip_le m
      obtain ⟨c, single, read⟩ := ih.one j operand (endsBelow_others j others below) bound
      have more := ih.more j c others ends below (by omega)
      rw [Level.whole_succ, read, condition_chain, conditions_append, single]
      exact more
    · rw [Level.more_succ]
      rcases j.derives_others.mp derived with ⟨rfl, rfl⟩ |
        ⟨s, a, us, m, vs, lexeme, operand, others, rfl⟩
      · rw [j.mark?_of_ends ends]
        rfl
      · have first := eats_terminal tight _ ((derives_terminal tight).mpr ⟨s, rfl, lexeme⟩)
        have less := eats_operand j operand
        have short := Text.length_skip_le m
        have short' := Text.length_skip_le a
        obtain ⟨c, single, read⟩ := ih.one j operand (endsBelow_others j others below) (by omega)
        have more := ih.more j (.binary j.op left c) others ends below (by omega)
        rw [j.mark?_iff.mpr ⟨s, lexeme⟩, Derivation.conditions, conditions_append, single]
        dsimp only
        rw [read]
        exact more

theorem condition?_derived {c : Condition} (read : condition? (skip cs) = some (c, r)) :
    ∃ t, grammar.Derives (.nonterminal .condition) cs [t] r ∧ Derivation.condition t = c := by
  obtain ⟨t, chain, rfl⟩ := (derived _).whole .disjunction read
  obtain ⟨us, same, -⟩ := derives_nonterminal.mp chain
  cases same
  exact ⟨_, derives_condition.mpr ⟨_, rfl, chain⟩, condition_condition⟩

theorem condition?_complete {t : Derivation} {m : List Char}
    (derived : grammar.Derives (.nonterminal .condition) cs [t] r) (close : skip r = ']' :: m) :
    condition? (skip cs) = some (Derivation.condition t, r) := by
  obtain ⟨us, same, chain⟩ := derives_condition.mp derived
  cases same
  obtain ⟨us, rfl, -⟩ := derives_nonterminal.mp chain
  rw [condition_condition]
  exact (complete _).whole .disjunction chain (Level.ends_of_close _ close (.inr rfl))
    (fun _ => Level.ends_of_close _ close (.inr rfl)) (Nat.le_succ _)

end Reader

end Concordance.Pattern
