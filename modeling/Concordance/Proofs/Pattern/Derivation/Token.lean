import Concordance.Proofs.Pattern.Derivation.Condition

/-! Tokens of patterns are read exactly as they derive from the grammar. A token may go on with a
repetition and a tag; it is read as a whole where neither follows. -/

namespace Concordance.Pattern

open Text (skip isSpacing isNameChar)
open Grammar
open Reader

theorem Reader.tag?_iff {cs r : List Char} {name : String} : tag? cs = some (name, r) ↔
    ∃ s b, Text.name? isTagChar (skip cs) = some (s, b) ∧ skip b = '>' :: r ∧
      name = String.ofList s := by
  constructor
  · intro read
    simp only [tag?, Option.bind_eq_bind, Option.bind_eq_some_iff, Prod.exists] at read
    obtain ⟨s, b, named, read⟩ := read
    split at read
    · next closed =>
      cases read
      exact ⟨s, b, named, closed, rfl⟩
    · cases read
  · rintro ⟨s, b, named, closed, rfl⟩
    simp [tag?, named, closed]

/-! ### Rules -/

section Rules

variable {cs r : List Char} {ts : List Derivation}

theorem derives_body : grammar.Derives (.nonterminal .body) cs ts r ↔
    ∃ us, ts = [.node .body us] ∧
      ((∃ a vs b, skip cs = '[' :: a ∧
          grammar.Derives (.optional (.nonterminal .condition)) a vs b ∧ skip b = ']' :: r ∧
          us = .leaf .openBracket ['['] :: (vs ++ [.leaf .closeBracket [']']])) ∨
        ∃ s, Lexeme Terminal.string.language (skip cs) s r ∧ us = [.leaf .string s]) := by
  rw [derives_nonterminal, rule_eq, Nonterminal.rule]
  simp only [Rule.all, derives_either, derives_seq, derives_word .openBracket rfl,
    derives_word .closeBracket rfl, derives_string]
  constructor
  · rintro ⟨us, rfl, ⟨_, a, _, ⟨rfl, opened⟩, ⟨vs, b, _, inner, ⟨rfl, closed⟩, rfl⟩, rfl⟩ |
      ⟨s, rfl, quoted⟩⟩
    · exact ⟨_, rfl, .inl ⟨a, vs, b, opened, inner, closed, rfl⟩⟩
    · exact ⟨_, rfl, .inr ⟨s, quoted, rfl⟩⟩
  · rintro ⟨us, rfl, ⟨a, vs, b, opened, inner, closed, rfl⟩ | ⟨s, quoted, rfl⟩⟩
    · exact ⟨_, rfl, .inl ⟨_, a, _, ⟨rfl, opened⟩, ⟨vs, b, _, inner, ⟨rfl, closed⟩, rfl⟩, rfl⟩⟩
    · exact ⟨_, rfl, .inr ⟨s, rfl, quoted⟩⟩

theorem derives_tag {n : Nonterminal} {opening : Terminal} {w : List Char}
    (rule : n.rule = .all [.terminal opening, .terminal .tagName, .terminal .greater])
    (language : opening.language = exactly w) :
    grammar.Derives (.nonterminal n) cs ts r ↔
      ∃ a s, skip cs = w ++ a ∧ tag? a = some (String.ofList s, r) ∧
        ts = [.node n [.leaf opening w, .leaf .tagName s, .leaf .greater ['>']]] := by
  rw [derives_nonterminal, rule_eq, rule]
  simp only [Rule.all, derives_seq, derives_word opening language, derives_word .greater rfl,
    derives_tagName, tag?_iff, String.ofList_inj]
  constructor
  · rintro ⟨_, rfl, _, a, _, ⟨rfl, opened⟩, ⟨_, b, _, ⟨s, rfl, named⟩, ⟨rfl, closed⟩, rfl⟩, rfl⟩
    exact ⟨a, s, opened, ⟨s, b, named, closed, rfl⟩, rfl⟩
  · rintro ⟨a, s, opened, ⟨_, b, named, closed, rfl⟩, rfl⟩
    exact ⟨_, rfl, _, a, _, ⟨rfl, opened⟩, ⟨_, b, _, ⟨s, rfl, named⟩, ⟨rfl, closed⟩, rfl⟩, rfl⟩

theorem derives_repetition : grammar.Derives (.nonterminal .repetition) cs ts r ↔
    ∃ us, ts = [.node .repetition us] ∧
      (skip cs = '?' :: r ∧ us = [.leaf .question ['?']] ∨
        skip cs = '*' :: r ∧ us = [.leaf .star ['*']] ∨
        skip cs = '+' :: r ∧ us = [.leaf .plus ['+']] ∨
        (∃ a n b, skip cs = '\x7b' :: a ∧ count? (skip a) = some (n, b) ∧ skip b = '\x7d' :: r ∧
          us = [.leaf .openBrace ['\x7b'], .leaf .count n, .leaf .closeBrace ['\x7d']]) ∨
        ∃ a n b c vs d, skip cs = '\x7b' :: a ∧ count? (skip a) = some (n, b) ∧
          skip b = ',' :: c ∧ grammar.Derives (.optional (.terminal .count)) c vs d ∧
          skip d = '\x7d' :: r ∧
          us = .leaf .openBrace ['\x7b'] :: .leaf .count n :: .leaf .comma [','] ::
            (vs ++ [.leaf .closeBrace ['\x7d']])) := by
  rw [derives_nonterminal, rule_eq, Nonterminal.rule]
  simp only [Rule.all, derives_either, derives_seq, derives_word .question rfl,
    derives_word .star rfl, derives_word .plus rfl, derives_word .openBrace rfl,
    derives_word .comma rfl, derives_word .closeBrace rfl, derives_count]
  constructor
  · rintro ⟨us, rfl, ⟨rfl, mark⟩ | ⟨rfl, mark⟩ | ⟨rfl, mark⟩ |
      ⟨_, a, _, ⟨rfl, opened⟩, ⟨_, b, _, ⟨n, rfl, counted⟩, ⟨rfl, closed⟩, rfl⟩, rfl⟩ |
      ⟨_, a, _, ⟨rfl, opened⟩, ⟨_, b, _, ⟨n, rfl, counted⟩, ⟨_, c, _, ⟨rfl, comma⟩,
        ⟨vs, d, _, upper, ⟨rfl, closed⟩, rfl⟩, rfl⟩, rfl⟩, rfl⟩⟩
    · exact ⟨_, rfl, .inl ⟨mark, rfl⟩⟩
    · exact ⟨_, rfl, .inr (.inl ⟨mark, rfl⟩)⟩
    · exact ⟨_, rfl, .inr (.inr (.inl ⟨mark, rfl⟩))⟩
    · exact ⟨_, rfl, .inr (.inr (.inr (.inl ⟨a, n, b, opened, counted, closed, rfl⟩)))⟩
    · exact ⟨_, rfl, .inr (.inr (.inr (.inr
        ⟨a, n, b, c, vs, d, opened, counted, comma, upper, closed, rfl⟩)))⟩
  · rintro ⟨us, rfl, ⟨mark, rfl⟩ | ⟨mark, rfl⟩ | ⟨mark, rfl⟩ |
      ⟨a, n, b, opened, counted, closed, rfl⟩ |
      ⟨a, n, b, c, vs, d, opened, counted, comma, upper, closed, rfl⟩⟩
    · exact ⟨_, rfl, .inl ⟨rfl, mark⟩⟩
    · exact ⟨_, rfl, .inr (.inl ⟨rfl, mark⟩)⟩
    · exact ⟨_, rfl, .inr (.inr (.inl ⟨rfl, mark⟩))⟩
    · exact ⟨_, rfl, .inr (.inr (.inr (.inl
        ⟨_, a, _, ⟨rfl, opened⟩, ⟨_, b, _, ⟨n, rfl, counted⟩, ⟨rfl, closed⟩, rfl⟩, rfl⟩)))⟩
    · exact ⟨_, rfl, .inr (.inr (.inr (.inr
        ⟨_, a, _, ⟨rfl, opened⟩, ⟨_, b, _, ⟨n, rfl, counted⟩, ⟨_, c, _, ⟨rfl, comma⟩,
          ⟨vs, d, _, upper, ⟨rfl, closed⟩, rfl⟩, rfl⟩, rfl⟩, rfl⟩)))⟩

theorem derives_token : grammar.Derives (.nonterminal .token) cs ts r ↔
    ∃ ls a us b ms c zs, grammar.Derives (.optional (.nonterminal .leadingTag)) cs ls a ∧
      grammar.Derives (.nonterminal .body) a us b ∧
      grammar.Derives (.optional (.nonterminal .repetition)) b ms c ∧
      grammar.Derives (.optional (.nonterminal .trailingTag)) c zs r ∧
      ts = [.node .token (ls ++ (us ++ (ms ++ zs)))] := by
  rw [derives_nonterminal, rule_eq, Nonterminal.rule]
  simp only [Rule.all, derives_seq]
  constructor
  · rintro ⟨_, rfl, ls, a, _, leading,
      ⟨us, b, _, body, ⟨ms, c, zs, marked, trailing, rfl⟩, rfl⟩, rfl⟩
    exact ⟨ls, a, us, b, ms, c, zs, leading, body, marked, trailing, rfl⟩
  · rintro ⟨ls, a, us, b, ms, c, zs, leading, body, marked, trailing, rfl⟩
    exact ⟨_, rfl, ls, a, _, leading,
      ⟨us, b, _, body, ⟨ms, c, zs, marked, trailing, rfl⟩, rfl⟩, rfl⟩

end Rules

namespace Reader

variable {cs r : List Char}

/-! ### Parts of a token -/

theorem body?_derived {default : String} {c : Option Condition}
    (read : body? default (skip cs) = some (c, r)) :
    ∃ us, grammar.Derives (.nonterminal .body) cs [.node .body us] r ∧
      Derivation.body default us = c := by
  unfold body? at read
  split at read
  · next a opened =>
    split at read
    · next closed =>
      cases read
      exact ⟨_, derives_body.mpr ⟨_, rfl, .inl
        ⟨a, [], a, opened, .right .empty, closed, rfl⟩⟩, rfl⟩
    · simp only [Option.bind_eq_bind, Option.bind_eq_some_iff, Prod.exists] at read
      obtain ⟨e, b, inner, read⟩ := read
      obtain ⟨t, derived, rfl⟩ := condition?_derived inner
      split at read
      · next closed =>
        cases read
        exact ⟨_, derives_body.mpr ⟨_, rfl, .inl
          ⟨a, [t], b, opened, .left derived, closed, rfl⟩⟩, rfl⟩
      · cases read
  · simp only [Option.bind_eq_bind, Option.bind_eq_some_iff, Prod.exists, Option.some.injEq,
      Prod.mk.injEq] at read
    obtain ⟨v, _, valued, rfl, rfl⟩ := read
    obtain ⟨s, quoted, same⟩ := literal?_iff.mp valued
    refine ⟨_, derives_body.mpr ⟨_, rfl, .inr ⟨s, quoted, rfl⟩⟩, ?_⟩
    rw [Derivation.body, same]

theorem body?_of_derives (default : String) {us : List Derivation}
    (derived : grammar.Derives (.nonterminal .body) cs [.node .body us] r) :
    body? default (skip cs) = some (Derivation.body default us, r) := by
  obtain ⟨us, same, ⟨a, vs, b, opened, inner, closed, rfl⟩ | ⟨s, quoted, rfl⟩⟩ :=
    derives_body.mp derived
  · cases same
    rw [opened, body?]
    rcases derives_optional.mp inner with condition | ⟨rfl, rfl⟩
    · obtain ⟨_, rfl, -⟩ := derives_nonterminal.mp condition
      have read := condition?_complete condition closed
      split
      · next stop =>
        rw [stop] at read
        cases read
      · rw [read]
        simp [closed, Derivation.body]
    · rw [closed]
      rfl
  · cases same
    have valued := literal?_iff.mpr
      ⟨s, quoted, (String.ofList_toList (s := Derivation.unquoted s)).symm⟩
    unfold body?
    split
    · next a opened =>
      rw [opened] at valued
      cases valued
    · rw [valued]
      simp [Derivation.body]

theorem mark?_brace {k : Mark} : mark? ('\x7b' :: cs) = some (k, r) ↔
    ∃ n b, count? (skip cs) = some (n, b) ∧ (skip b = '\x7d' :: r ∧ k = .exactly n ∨
      ∃ c, skip b = ',' :: c ∧ (skip c = '\x7d' :: r ∧ k = .between n .none ∨
        ∃ m d, count? (skip c) = some (m, d) ∧ skip d = '\x7d' :: r ∧
          k = .between n (some m))) := by
  constructor
  · intro read
    simp only [mark?, Option.bind_eq_bind, Option.bind_eq_some_iff, Prod.exists] at read
    obtain ⟨n, b, counted, read⟩ := read
    refine ⟨n, b, counted, ?_⟩
    split at read
    · next closed =>
      cases read
      exact .inl ⟨closed, rfl⟩
    · next c comma =>
      refine .inr ⟨c, comma, ?_⟩
      split at read
      · next closed =>
        cases read
        exact .inl ⟨closed, rfl⟩
      · simp only [Option.bind_eq_some_iff, Prod.exists] at read
        obtain ⟨m, d, upper, read⟩ := read
        split at read
        · next closed =>
          cases read
          exact .inr ⟨m, d, upper, closed, rfl⟩
        · cases read
    · cases read
  · rintro ⟨n, b, counted, ⟨closed, rfl⟩ | ⟨c, comma, ⟨closed, rfl⟩ | ⟨m, d, upper, closed, rfl⟩⟩⟩
    · simp [mark?, counted, closed]
    · simp [mark?, counted, comma, closed]
    · simp only [mark?, counted, comma, Option.bind_eq_bind, Option.bind_some]
      split
      · next stop =>
        rw [stop] at upper
        cases upper
      · simp [upper, closed]

theorem mark?_of_derives {ts : List Derivation}
    (derived : grammar.Derives (.nonterminal .repetition) cs [.node .repetition ts] r) :
    mark? (skip cs) = some (Derivation.mark ts, r) := by
  obtain ⟨us, same, ⟨mark, rfl⟩ | ⟨mark, rfl⟩ | ⟨mark, rfl⟩ |
    ⟨a, n, b, opened, counted, closed, rfl⟩ |
    ⟨a, n, b, c, vs, d, opened, counted, comma, upper, closed, rfl⟩⟩ :=
    derives_repetition.mp derived
  · cases same
    rw [mark]
    rfl
  · cases same
    rw [mark]
    rfl
  · cases same
    rw [mark]
    rfl
  · cases same
    rw [opened]
    exact mark?_brace.mpr ⟨n, b, counted, .inl ⟨closed, rfl⟩⟩
  · cases same
    rw [opened]
    rcases derives_optional.mp upper with upper | ⟨rfl, rfl⟩
    · obtain ⟨m, rfl, number⟩ := derives_count.mp upper
      exact mark?_brace.mpr ⟨n, b, counted, .inr ⟨c, comma, .inr ⟨m, d, number, closed, rfl⟩⟩⟩
    · exact mark?_brace.mpr ⟨n, b, counted, .inr ⟨d, comma, .inl ⟨closed, rfl⟩⟩⟩

theorem mark?_cases {k : Mark} (read : mark? (skip cs) = some (k, r)) :
    (∃ us, grammar.Derives (.nonterminal .repetition) cs [.node .repetition us] r ∧
      Derivation.mark us = k) ∨ k = .none ∧ r = skip cs := by
  have start := read
  unfold mark? at read
  split at read
  · next text =>
    cases read
    exact .inl ⟨_, derives_repetition.mpr ⟨_, rfl, .inl ⟨text, rfl⟩⟩, rfl⟩
  · next text =>
    cases read
    exact .inl ⟨_, derives_repetition.mpr ⟨_, rfl, .inr (.inl ⟨text, rfl⟩)⟩, rfl⟩
  · next text =>
    cases read
    exact .inl ⟨_, derives_repetition.mpr ⟨_, rfl, .inr (.inr (.inl ⟨text, rfl⟩))⟩, rfl⟩
  · next a opened =>
    rw [opened] at start
    refine .inl ?_
    obtain ⟨n, b, counted, ⟨closed, rfl⟩ | ⟨c, comma, upper⟩⟩ := mark?_brace.mp start
    · exact ⟨_, derives_repetition.mpr ⟨_, rfl, .inr (.inr (.inr (.inl
        ⟨a, n, b, opened, counted, closed, rfl⟩)))⟩, rfl⟩
    · rcases upper with ⟨closed, rfl⟩ | ⟨m, d, upper, closed, rfl⟩
      · exact ⟨_, derives_repetition.mpr ⟨_, rfl, .inr (.inr (.inr (.inr
          ⟨a, n, b, c, [], c, opened, counted, comma, .right .empty, closed, rfl⟩)))⟩, rfl⟩
      · have number := derives_count.mpr ⟨m, rfl, upper⟩
        exact ⟨_, derives_repetition.mpr ⟨_, rfl, .inr (.inr (.inr (.inr
          ⟨a, n, b, c, _, d, opened, counted, comma, .left number, closed, rfl⟩)))⟩, rfl⟩
  · cases read
    exact .inr ⟨rfl, rfl⟩

/-! ### Tokens -/

structure ReadsPart {α : Type} (read : List Char → Option (α × List Char)) (n : Nonterminal)
    (meaning : List Derivation → α) (absent : α) : Prop where
  given : ∀ {cs ts r}, grammar.Derives (.nonterminal n) cs [.node n ts] r →
    read (skip cs) = some (meaning ts, r)
  cases : ∀ {cs x r}, read (skip cs) = some (x, r) →
    (∃ ts, grammar.Derives (.nonterminal n) cs [.node n ts] r ∧ meaning ts = x) ∨
      x = absent ∧ r = skip cs

theorem readsPart_mark : ReadsPart mark? .repetition Derivation.mark .none :=
  ⟨mark?_of_derives, mark?_cases⟩

theorem readsPart_tag {read : List Char → Option (Option String × List Char)} {n : Nonterminal}
    {opening : Terminal} {w : List Char}
    (rule : n.rule = .all [.terminal opening, .terminal .tagName, .terminal .greater])
    (language : opening.language = exactly w)
    (named : ∀ s ts, Derivation.tagName (.leaf opening w :: .leaf .tagName s :: ts) =
      some (String.ofList s))
    (opened : ∀ a, read (w ++ a) = (tag? a).map fun (name, r) => (some name, r))
    (unopened : ∀ cs, (∀ a, cs ≠ w ++ a) → read cs = some (none, cs)) :
    ReadsPart read n Derivation.tagName none where
  given := by
    intro cs ts r derived
    obtain ⟨a, s, text, name, same⟩ := (derives_tag rule language).mp derived
    cases same
    simp [text, opened, name, named]
  cases := by
    intro cs x r found
    by_cases start : ∃ a, skip cs = w ++ a
    · obtain ⟨a, text⟩ := start
      rw [text, opened, Option.map_eq_some_iff] at found
      obtain ⟨⟨name, rest⟩, tag, ⟨⟩⟩ := found
      have letters : tag? a = some (String.ofList name.toList, r) := by
        rwa [String.ofList_toList]
      refine .inl ⟨_, (derives_tag rule language).mpr ⟨a, name.toList, text, letters, rfl⟩, ?_⟩
      rw [named, String.ofList_toList]
    · rw [unopened _ fun a text => start ⟨a, text⟩] at found
      cases found
      exact .inr ⟨rfl, rfl⟩

theorem readsPart_leading : ReadsPart leading? .leadingTag Derivation.tagName none := by
  refine readsPart_tag rfl rfl (fun _ _ => rfl) (fun _ => rfl) fun cs unopened => ?_
  unfold leading?
  split
  · next a => exact absurd rfl (unopened a)
  · rfl

theorem readsPart_trailing : ReadsPart trailing? .trailingTag Derivation.tagName none := by
  refine readsPart_tag rfl rfl (fun _ _ => rfl) (fun _ => rfl) fun cs unopened => ?_
  unfold trailing?
  split
  · next a => exact absurd rfl (unopened a)
  · rfl

section Part

variable {α : Type} {read : List Char → Option (α × List Char)} {n : Nonterminal}
  {meaning : List Derivation → α} {absent : α}

theorem ReadsPart.derived (h : ReadsPart read n meaning absent) {x : α}
    (found : read (skip cs) = some (x, r)) :
    ∃ ts m, grammar.Derives (.optional (.nonterminal n)) cs ts m ∧ skip m = skip r ∧
      Derivation.part n meaning absent ts = x := by
  rcases h.cases found with ⟨us, derived, rfl⟩ | ⟨rfl, rfl⟩
  · exact ⟨_, r, .left derived, rfl, if_pos rfl⟩
  · exact ⟨[], cs, .right .empty, (Text.skip_skip cs).symm, rfl⟩

theorem ReadsPart.complete (h : ReadsPart read n meaning absent) {ts : List Derivation}
    (derived : grammar.Derives (.optional (.nonterminal n)) cs ts r)
    (missing : r = cs → read (skip cs) = some (absent, skip cs)) :
    ∃ m, read (skip cs) = some (Derivation.part n meaning absent ts, m) ∧ skip m = skip r := by
  rcases derives_optional.mp derived with given | ⟨rfl, rfl⟩
  · obtain ⟨us, rfl, -⟩ := derives_nonterminal.mp given
    exact ⟨r, by rw [h.given given, Derivation.part, if_pos rfl], rfl⟩
  · exact ⟨skip r, missing rfl, Text.skip_skip r⟩

theorem part_append (ts us : List Derivation) : Derivation.part n meaning absent (ts ++ us) =
    Derivation.part n meaning (Derivation.part n meaning absent us) ts := by
  induction ts with
  | nil => rfl
  | cons t ts ih => cases t <;> simp [Derivation.part, ih]

theorem part_of_ne {m : Nonterminal} {ts : List Derivation}
    (derived : grammar.Derives (.optional (.nonterminal m)) cs ts r) (other : m ≠ n) :
    Derivation.part n meaning absent ts = absent := by
  rcases derives_optional.mp derived with given | ⟨rfl, rfl⟩
  · obtain ⟨us, rfl, -⟩ := derives_nonterminal.mp given
    rw [Derivation.part, if_neg other, Derivation.part]
  · rfl

end Part

section Token

variable {default : String} {t : Derivation} {ts : List Derivation}

theorem draft_token {ls us ms zs : List Derivation} {a b c : List Char}
    (leading : grammar.Derives (.optional (.nonterminal .leadingTag)) cs ls a)
    (marked : grammar.Derives (.optional (.nonterminal .repetition)) b ms c)
    (trailing : grammar.Derives (.optional (.nonterminal .trailingTag)) c zs r) :
    Derivation.draft default (.node .token (ls ++ ([.node .body us] ++ (ms ++ zs)))) =
      ⟨Derivation.part .leadingTag Derivation.tagName none ls, Derivation.body default us,
        Derivation.part .repetition Derivation.mark .none ms,
        Derivation.part .trailingTag Derivation.tagName none zs⟩ := by
  simp [Derivation.draft, part_append, Derivation.part, part_of_ne leading, part_of_ne marked,
    part_of_ne trailing]

theorem token?_derived {d : Draft} (read : token? default (skip cs) = some (d, r)) :
    ∃ t m, grammar.Derives (.nonterminal .token) cs [t] m ∧ skip m = skip r ∧
      Derivation.draft default t = d := by
  simp only [token?, Option.bind_eq_bind, Option.bind_eq_some_iff, Prod.exists, Option.some.injEq,
    Prod.mk.injEq] at read
  obtain ⟨_, a, leadingRead, _, b, bodyRead, _, c, markRead, _, e, trailingRead, rfl, rfl⟩ := read
  obtain ⟨ls, a', leading, sameA, rfl⟩ := readsPart_leading.derived leadingRead
  rw [← sameA] at bodyRead
  obtain ⟨us, body, rfl⟩ := body?_derived bodyRead
  obtain ⟨ms, c', marked, sameC, rfl⟩ := readsPart_mark.derived markRead
  rw [← sameC] at trailingRead
  obtain ⟨zs, e', trailing, sameE, rfl⟩ := readsPart_trailing.derived trailingRead
  exact ⟨_, e', derives_token.mpr ⟨ls, a', _, b, ms, c', zs, leading, body, marked, trailing, rfl⟩,
    sameE, draft_token leading marked trailing⟩

structure Follows (cs : List Char) : Prop where
  mark : mark? (skip cs) = some (.none, skip cs)
  trailing : trailing? (skip cs) = some (none, skip cs)

theorem follows_nil (blank : skip cs = []) : Follows cs := by
  constructor <;> (rw [blank]; rfl)

theorem body_head (derived : grammar.Derives (.nonterminal .body) cs ts r) :
    ∃ c u, skip cs = c :: u ∧ (c = '[' ∨ c = '"' ∨ c = '\'') := by
  obtain ⟨us, -, ⟨a, vs, b, opened, -⟩ | ⟨s, quoted, -⟩⟩ := derives_body.mp derived
  · exact ⟨_, a, opened, .inl rfl⟩
  · obtain ⟨q, t, u, quote, text, -⟩ := lexeme_string.mp quoted
    exact ⟨q, u, text, .inr quote⟩

theorem token_head (derived : grammar.Derives (.nonterminal .token) cs ts r) :
    ∃ c u, skip cs = c :: u ∧
      (c = '<' ∧ u.head? ≠ some '/' ∨ c = '[' ∨ c = '"' ∨ c = '\'') := by
  obtain ⟨ls, a, us, b, ms, c, zs, leading, body, -⟩ := derives_token.mp derived
  rcases derives_optional.mp leading with tag | ⟨-, rfl⟩
  · obtain ⟨u, s, opened, read, -⟩ := (derives_tag rfl rfl).mp tag
    refine ⟨'<', u, opened, .inl ⟨rfl, fun slash => ?_⟩⟩
    obtain ⟨v, rfl⟩ := List.head?_eq_some_iff.mp slash
    cases read
  · obtain ⟨c, u, text, start⟩ := body_head body
    exact ⟨c, u, text, .inr start⟩

theorem follows_of_token (derived : grammar.Derives (.nonterminal .token) cs ts r) :
    Follows cs := by
  obtain ⟨c, u, text, ⟨rfl, open_⟩ | rfl | rfl | rfl⟩ := token_head derived
  · constructor
    · rw [text]
      rfl
    · rw [text, trailing?]
      rintro v ⟨⟩
      exact open_ rfl
  all_goals constructor <;> (rw [text]; rfl)

variable (default) in
theorem token?_complete (derived : grammar.Derives (.nonterminal .token) cs [t] r)
    (follows : Follows r) :
    ∃ m, token? default (skip cs) = some (Derivation.draft default t, m) ∧ skip m = skip r := by
  obtain ⟨ls, a, us, b, ms, c, zs, leading, body, marked, trailing, same⟩ :=
    derives_token.mp derived
  cases same
  obtain ⟨us, rfl, -⟩ := derives_body.mp body
  have noLeading : a = cs → leading? (skip cs) = some (none, skip cs) := by
    rintro rfl
    obtain ⟨c, u, text, rfl | rfl | rfl⟩ := body_head body <;> (rw [text]; rfl)
  have noMark : c = b → mark? (skip b) = some (.none, skip b) := by
    rintro rfl
    rcases derives_optional.mp trailing with tag | ⟨-, rfl⟩
    · obtain ⟨u, s, opened, -⟩ := (derives_tag rfl rfl).mp tag
      rw [opened]
      rfl
    · exact follows.mark
  have noTrailing : r = c → trailing? (skip c) = some (none, skip c) := by
    rintro rfl
    exact follows.trailing
  obtain ⟨a', leadingRead, sameA⟩ := readsPart_leading.complete leading noLeading
  have bodyRead := body?_of_derives default body
  obtain ⟨c', markRead, sameC⟩ := readsPart_mark.complete marked noMark
  obtain ⟨r', trailingRead, sameR⟩ := readsPart_trailing.complete trailing noTrailing
  refine ⟨r', ?_, sameR⟩
  rw [draft_token leading marked trailing]
  simp [token?, leadingRead, sameA, bodyRead, markRead, sameC, trailingRead]

end Token

end Reader

end Concordance.Pattern
