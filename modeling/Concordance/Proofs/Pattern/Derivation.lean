import Concordance.Proofs.Pattern.Derivation.Token

/-! Pattern texts are read exactly as they derive from their grammar, where their counts are numbers
and in order. -/

namespace Concordance.Pattern

open Text (skip isSpacing isNameChar)
open Grammar
open Reader

/-! ### Rules -/

section Rules

variable {cs r : List Char} {ts : List Derivation}

theorem derives_within : grammar.Derives (.nonterminal .within) cs ts r ↔
    ∃ a b s c vs d, skip cs = "within".toList ++ a ∧ skip a = '<' :: b ∧
      Text.name? isTagChar (skip b) = some (s, c) ∧
      grammar.Derives (.optional (.terminal .slash)) c vs d ∧ skip d = '>' :: r ∧
      ts = [.node .within (.leaf .within "within".toList :: .leaf .less ['<'] :: .leaf .tagName s ::
        (vs ++ [.leaf .greater ['>']]))] := by
  rw [derives_nonterminal, rule_eq, Nonterminal.rule]
  simp only [Rule.all, derives_seq, derives_word .within rfl, derives_word .less rfl,
    derives_word .greater rfl, derives_tagName]
  constructor
  · rintro ⟨_, rfl, _, a, _, ⟨rfl, word⟩, ⟨_, b, _, ⟨rfl, opened⟩, ⟨_, c, _, ⟨s, rfl, named⟩,
      ⟨vs, d, _, slash, ⟨rfl, closed⟩, rfl⟩, rfl⟩, rfl⟩, rfl⟩
    exact ⟨a, b, s, c, vs, d, word, opened, named, slash, closed, rfl⟩
  · rintro ⟨a, b, s, c, vs, d, word, opened, named, slash, closed, rfl⟩
    exact ⟨_, rfl, _, a, _, ⟨rfl, word⟩, ⟨_, b, _, ⟨rfl, opened⟩, ⟨_, c, _, ⟨s, rfl, named⟩,
      ⟨vs, d, _, slash, ⟨rfl, closed⟩, rfl⟩, rfl⟩, rfl⟩, rfl⟩

theorem derives_start : grammar.Derives (.nonterminal .start) cs ts r ↔
    ∃ us m vs, grammar.Derives (.some (.nonterminal .token)) cs us m ∧
      grammar.Derives (.optional (.nonterminal .within)) m vs r ∧
      ts = [.node .start [.node .pattern (us ++ vs)]] := by
  have pattern {us : List Derivation} : grammar.Derives (.nonterminal .pattern) cs us r ↔
      ∃ vs, us = [.node .pattern vs] ∧ ∃ ws m xs,
        grammar.Derives (.some (.nonterminal .token)) cs ws m ∧
          grammar.Derives (.optional (.nonterminal .within)) m xs r ∧ vs = ws ++ xs := by
    rw [derives_nonterminal, rule_eq, Nonterminal.rule]
    simp only [derives_seq]
  rw [derives_nonterminal, rule_eq, Nonterminal.rule]
  simp only [pattern]
  constructor
  · rintro ⟨_, rfl, _, rfl, us, m, vs, tokens, within, rfl⟩
    exact ⟨us, m, vs, tokens, within, rfl⟩
  · rintro ⟨us, m, vs, tokens, within, rfl⟩
    exact ⟨_, rfl, _, rfl, us, m, vs, tokens, within, rfl⟩

theorem isToken_of_mem (derived : grammar.Derives (.many (.nonterminal .token)) cs ts r) :
    ∀ t ∈ ts, Derivation.isToken t := by
  refine many_induction (motive := fun _ ts _ => ∀ t ∈ ts, Derivation.isToken t) derived
    (fun _ => List.forall_mem_nil _) ?_
  intro cs us m vs r first _ ih
  obtain ⟨us, rfl, -⟩ := derives_nonterminal.mp first
  exact List.forall_mem_cons.mpr ⟨rfl, ih⟩

theorem eats_token : grammar.Eats (.nonterminal .token) := by
  have body : grammar.Eats (.nonterminal .body) :=
    .nonterminal (.either (.seq_left (eats_terminal tight .openBracket))
      (eats_terminal tight .string))
  exact .nonterminal (.seq_right (.seq_left body))

end Rules

namespace Reader

variable {cs r : List Char}

theorem follows_of_within {ts : List Derivation}
    (derived : grammar.Derives (.nonterminal .within) cs ts r) : Follows cs := by
  obtain ⟨a, b, s, c, vs, d, word, -⟩ := derives_within.mp derived
  constructor <;> (rw [word]; rfl)

theorem within?_iff {name : String} : within? (skip cs) = some (name, r) ↔
    ∃ us, grammar.Derives (.nonterminal .within) cs [.node .within us] r ∧
      Derivation.tagName us = some name := by
  constructor
  · intro read
    unfold within? at read
    split at read
    · next a word =>
      split at read
      · next b opened =>
        simp only [Option.bind_eq_bind, Option.bind_eq_some_iff, Prod.exists] at read
        obtain ⟨s, c, named, read⟩ := read
        split at read
        · next closed =>
          cases read
          exact ⟨_, derives_within.mpr
            ⟨a, b, s, c, [], c, word, opened, named, .right .empty, closed, rfl⟩, rfl⟩
        · next d slash =>
          split at read
          · next closed =>
            cases read
            have mark := (derives_word .slash rfl).mpr ⟨rfl, slash⟩
            exact ⟨_, derives_within.mpr
              ⟨a, b, s, c, _, d, word, opened, named, .left mark, closed, rfl⟩, rfl⟩
          · cases read
        · cases read
      · cases read
    · cases read
  · rintro ⟨us, derived, tag⟩
    obtain ⟨a, b, s, c, vs, d, word, opened, named, slash, closed, same⟩ :=
      derives_within.mp derived
    cases same
    cases tag
    rw [word]
    rcases derives_optional.mp slash with mark | ⟨rfl, rfl⟩
    · obtain ⟨-, text⟩ := (derives_word .slash rfl).mp mark
      simp [within?, opened, named, text, closed]
    · simp [within?, opened, named, closed]

section Drafts

variable {default : String} {ts us : List Derivation} {m : List Char}

theorem drafts?_derived {n : Nat} {ds : List Draft} {tag : Option String}
    (read : drafts? default n (skip cs) = some (ds, tag)) :
    ∃ ts m us r, grammar.Derives (.some (.nonterminal .token)) cs ts m ∧
      grammar.Derives (.optional (.nonterminal .within)) m us r ∧ (∀ c ∈ r, isSpacing c) ∧
      ts.map (Derivation.draft default) = ds ∧
      Derivation.part .within Derivation.tagName none us = tag := by
  induction n generalizing cs ds with
  | zero => cases read
  | succ n ih =>
    rw [drafts?, Option.bind_eq_bind, Option.bind_eq_some_iff] at read
    obtain ⟨⟨d, b⟩, first, read⟩ := read
    obtain ⟨t, m, token, same, rfl⟩ := token?_derived first
    dsimp only at read
    rw [← same] at read
    split at read
    · next blank =>
      cases read
      exact ⟨[t], m, [], m, .seq token .done, .right .empty, List.dropWhile_eq_nil_iff.mp blank,
        rfl, rfl⟩
    · next word =>
      simp only [Option.bind_eq_bind, Option.bind_eq_some_iff, Prod.exists] at read
      obtain ⟨name, e, context, read⟩ := read
      split at read
      · next blank =>
        cases read
        rw [← word] at context
        obtain ⟨us, within, named⟩ := within?_iff.mp context
        refine ⟨[t], m, _, e, .seq token .done, .left within, ?_, rfl, named⟩
        exact List.dropWhile_eq_nil_iff.mp (List.isEmpty_iff.mp blank)
      · cases read
    · simp only [Option.bind_eq_bind, Option.bind_eq_some_iff, Prod.exists, Option.some.injEq,
        Prod.mk.injEq] at read
      obtain ⟨_, _, read, rfl, rfl⟩ := read
      obtain ⟨ts, b, us, r, others, within, blank, rfl, rfl⟩ := ih read
      obtain ⟨vs, a, ws, second, more, rfl⟩ := derives_seq.mp others
      exact ⟨[t] ++ (vs ++ ws), b, us, r, .seq token (.more second more), within, blank, rfl, rfl⟩

variable {n : Nat} {d : Draft} (token : token? default (skip cs) = some (d, r))
include token

theorem drafts?_of_end (nothing : skip r = []) :
    drafts? default (n + 1) (skip cs) = some ([d], none) := by
  simp [drafts?, token, nothing]

theorem drafts?_of_within {e : List Char} {name : String}
    (context : within? (skip r) = some (name, e)) (nothing : skip e = []) :
    drafts? default (n + 1) (skip cs) = some ([d], some name) := by
  rw [drafts?, token, Option.bind_eq_bind, Option.bind_some]
  dsimp only
  split
  · next stop =>
    rw [stop] at context
    cases context
  · next text =>
    rw [← text, context]
    simp [nothing]
  · next other =>
    unfold within? at context
    split at context
    · next text => exact absurd text (other _)
    · cases context

theorem drafts?_of_more {ds : List Draft} {tag : Option String} {c : Char} {u : List Char}
    (head : skip r = c :: u) (noWithin : c ≠ 'w')
    (others : drafts? default n (skip r) = some (ds, tag)) :
    drafts? default (n + 1) (skip cs) = some (d :: ds, tag) := by
  rw [drafts?, token, Option.bind_eq_bind, Option.bind_some]
  dsimp only
  split
  · next stop =>
    rw [stop] at head
    cases head
  · next text =>
    rw [text] at head
    cases head
    exact absurd rfl noWithin
  · rw [others]
    rfl

omit token

theorem drafts?_complete (derived : grammar.Derives (.some (.nonterminal .token)) cs ts m)
    (within : grammar.Derives (.optional (.nonterminal .within)) m us r)
    (blank : ∀ c ∈ r, isSpacing c) (fuel : ts.length ≤ n) :
    drafts? default n (skip cs) = some (ts.map (Derivation.draft default),
      Derivation.part .within Derivation.tagName none us) := by
  have nothing : skip r = [] := List.dropWhile_eq_nil_iff.mpr blank
  induction n generalizing cs ts with
  | zero =>
    obtain ⟨vs, a, ws, token, -, rfl⟩ := derives_seq.mp derived
    obtain ⟨vs, rfl, -⟩ := derives_nonterminal.mp token
    cases fuel
  | succ n ih =>
    obtain ⟨vs, a, ws, token, others, rfl⟩ := derives_seq.mp derived
    obtain ⟨vs, rfl, -⟩ := derives_nonterminal.mp token
    rcases derives_many.mp others with ⟨rfl, rfl⟩ | ⟨ws, b, xs, second, more, rfl⟩
    · rcases derives_optional.mp within with context | ⟨rfl, rfl⟩
      · obtain ⟨e, read, same⟩ := token?_complete default token
          (follows_of_within context)
        obtain ⟨_, _, s, _, _, _, -, -, -, -, -, rfl⟩ := derives_within.mp context
        have contextRead : within? (skip e) = some (String.ofList s, r) := by
          rw [same]
          exact within?_iff.mpr ⟨_, context, rfl⟩
        exact drafts?_of_within read contextRead nothing
      · obtain ⟨e, read, same⟩ := token?_complete default token (follows_nil nothing)
        exact drafts?_of_end read (same.trans nothing)
    · obtain ⟨e, read, same⟩ := token?_complete default token (follows_of_token second)
      obtain ⟨c, u, head, start⟩ := token_head second
      have later := ih (.seq second more) (Nat.le_of_succ_le_succ fuel)
      rw [← same] at head later
      refine drafts?_of_more read head ?_ later
      rintro rfl
      simp at start

end Drafts

end Reader

/-! ### Texts -/

section Texts

variable {default : String} {cs m r : List Char}

theorem drafts_start {ts us : List Derivation} (tokens : ∀ t ∈ ts, Derivation.isToken t)
    (context : grammar.Derives (.optional (.nonterminal .within)) m us r) :
    Derivation.drafts default (.node .start [.node .pattern (ts ++ us)]) =
      ts.map (Derivation.draft default) := by
  have none_left : us.filter Derivation.isToken = [] := by
    rcases derives_optional.mp context with within | ⟨rfl, -⟩
    · obtain ⟨vs, rfl, -⟩ := derives_nonterminal.mp within
      rfl
    · rfl
  rw [Derivation.drafts, Derivation.parts, List.filter_append, List.filter_eq_self.mpr tokens,
    none_left, List.append_nil]

theorem within_start {ts us : List Derivation} (tokens : ∀ t ∈ ts, Derivation.isToken t) :
    Derivation.within (.node .start [.node .pattern (ts ++ us)]) =
      Derivation.part .within Derivation.tagName none us := by
  rw [Derivation.within, Derivation.parts]
  induction ts with
  | nil => rfl
  | cons t ts ih =>
    obtain ⟨first, others⟩ := List.forall_mem_cons.mp tokens
    unfold Derivation.isToken at first
    split at first
    · exact ih others
    · cases first

variable (default) in
theorem drafts?_iff {ds : List Draft} {tag : Option String} :
    drafts? default (cs.length + 1) (skip cs) = some (ds, tag) ↔
      ∃ t, grammar.Parses .start cs t ∧ Derivation.drafts default t = ds ∧
        Derivation.within t = tag := by
  constructor
  · intro read
    obtain ⟨ts, m, us, r, tokens, context, blank, rfl, rfl⟩ := drafts?_derived read
    have only := isToken_of_mem tokens.many_of_some
    exact ⟨_, ⟨r, derives_start.mpr ⟨ts, m, us, tokens, context, rfl⟩, blank⟩,
      drafts_start only context, within_start only⟩
  · rintro ⟨t, ⟨r, derived, blank⟩, rfl, rfl⟩
    obtain ⟨ts, m, us, tokens, context, same⟩ := derives_start.mp derived
    cases same
    have only := isToken_of_mem tokens.many_of_some
    have fuel := eats_token.length_many tokens.many_of_some
    have short := Text.length_skip_le cs
    rw [drafts_start only context, within_start only]
    exact drafts?_complete tokens context blank (by omega)

theorem mark_draft (default other : String) (t : Derivation) :
    (Derivation.draft default t).mark = (Derivation.draft other t).mark := by
  unfold Derivation.draft
  split <;> rfl

theorem isCounted_iff {t : Derivation} :
    Derivation.IsCounted t ↔ ∀ d ∈ Derivation.drafts default t, d.mark.IsCounted := by
  simp only [Derivation.IsCounted, Derivation.drafts, List.forall_mem_map, mark_draft default ""]

theorem parse_of_shown {text : String} (shown : Text.trim text.toList ≠ []) :
    parse text default = (Reader.read default (Text.trim text.toList)).mapError
      (⟨String.ofList (Text.trim text.toList), ·⟩) := by
  unfold parse
  split
  · next blank => exact absurd blank shown
  · rfl

theorem read_eq_ok_iff {p : Pattern} : Reader.read default cs = .ok p ↔
    ∃ t, grammar.Parses .start cs t ∧ Derivation.IsCounted t ∧
      Derivation.pattern default t = p := by
  have found {ds : List Draft} {tag : Option String} :
      (settle ds).map (fun ts => (⟨ts, tag⟩ : Pattern)) = .ok p ↔
        (∀ d ∈ ds, d.mark.IsCounted) ∧ ⟨ds.map Draft.token, tag⟩ = p := by
    constructor
    · intro ok
      cases settled : settle ds with
      | ok ts =>
        rw [settled] at ok
        cases ok
        obtain ⟨counted, rfl⟩ := settle_eq_ok.mp settled
        exact ⟨counted, rfl⟩
      | error cause =>
        rw [settled] at ok
        cases ok
    · rintro ⟨counted, rfl⟩
      rw [settle_eq_ok.mpr ⟨counted, rfl⟩]
      rfl
  unfold Reader.read
  constructor
  · intro ok
    split at ok
    · cases ok
    · next ds tag drafts =>
      obtain ⟨t, parses, rfl, rfl⟩ := (drafts?_iff default).mp drafts
      obtain ⟨counted, rfl⟩ := found.mp ok
      exact ⟨t, parses, isCounted_iff.mpr counted, rfl⟩
  · rintro ⟨t, parses, counted, rfl⟩
    rw [(drafts?_iff default).mpr ⟨t, parses, rfl, rfl⟩]
    exact found.mpr ⟨isCounted_iff.mp counted, rfl⟩

end Texts

theorem parse_eq_ok_iff {text default : String} (shown : Text.trim text.toList ≠ [])
    {p : Pattern} : parse text default = .ok p ↔
      ∃ t, grammar.Parses .start (Text.trim text.toList) t ∧ Derivation.IsCounted t ∧
        Derivation.pattern default t = p := by
  rw [parse_of_shown shown, ← read_eq_ok_iff]
  cases Reader.read default (Text.trim text.toList) <;> simp [Except.mapError]

theorem error_of_parse {text default : String} {e : Error}
    (failed : parse text default = .error e) : e.text = String.ofList (Text.trim text.toList) := by
  unfold parse at failed
  split at failed
  · cases failed
  · next cs _ =>
    cases found : Reader.read default (Text.trim text.toList) with
    | ok p =>
      rw [found] at failed
      cases failed
    | error cause =>
      rw [found] at failed
      cases failed
      rfl

/-- A text that is not blank is read as the pattern that any derivation of it stands for, where its
counts are numbers and in order. It is no pattern otherwise. -/
theorem parse_counted_derivation (text default : String) (shown : Text.trim text.toList ≠ []) :
    (∀ p, parse text default = .ok p ↔
        ∃ t, grammar.Parses .start (Text.trim text.toList) t ∧ Derivation.IsCounted t ∧
          Derivation.pattern default t = p) ∧
      (∀ t u, grammar.Parses .start (Text.trim text.toList) t →
        grammar.Parses .start (Text.trim text.toList) u →
          Derivation.pattern default t = Derivation.pattern default u) ∧
      ((∀ t, grammar.Parses .start (Text.trim text.toList) t → ¬Derivation.IsCounted t) ↔
        ∃ cause, parse text default = .error ⟨String.ofList (Text.trim text.toList), cause⟩) := by
  refine ⟨fun p => parse_eq_ok_iff shown, fun t u first second => ?_, ⟨fun uncounted => ?_, ?_⟩⟩
  · have read := (drafts?_iff default).mpr ⟨t, first, rfl, rfl⟩
    have again := (drafts?_iff default).mpr ⟨u, second, rfl, rfl⟩
    have same := Prod.mk.inj (Option.some.inj (read.symm.trans again))
    rw [Derivation.pattern, Derivation.pattern, same.1, same.2]
  · cases found : parse text default with
    | ok p =>
      obtain ⟨t, parses, counted, -⟩ := (parse_eq_ok_iff shown).mp found
      exact absurd counted (uncounted t parses)
    | error e =>
      obtain ⟨named, cause⟩ := e
      exact ⟨cause, by rw [← error_of_parse found]⟩
  · rintro ⟨cause, failed⟩ t parses counted
    rw [(parse_eq_ok_iff shown).mpr ⟨t, parses, counted, rfl⟩] at failed
    cases failed

/-- Words of the language without a blank around them, a negation of a group, both kinds of quotes,
and a tag that ends a token before one that starts the next. -/
def nested : String :=
  " \"a\"</s><t>[b='c'AND!(d!=\"e\"ORf=\"g\")&h=\"i\"]\x7b2,\x7dwithin<p/>\n"

def nestedPattern : Pattern :=
  ⟨[⟨some (.attribute ⟨"word", "=", "a"⟩), false, none, none, some "s"⟩,
    ⟨some (.binary "&" (.binary "&" (.attribute ⟨"b", "=", "c"⟩)
      (.negation (.binary "|" (.attribute ⟨"d", "!=", "e"⟩) (.attribute ⟨"f", "=", "g"⟩))))
      (.attribute ⟨"h", "=", "i"⟩)), false, some ⟨2, none⟩, some "t", none⟩], some "p"⟩

/-- A derivation of `nested`, and a text whose derivations all have counts out of order. -/
theorem parse_counted_derivation_nested :
    (∃ t, grammar.Parses .start (Text.trim nested.toList) t ∧ Derivation.IsCounted t ∧
        Derivation.pattern "word" t = nestedPattern) ∧
      ∀ t, grammar.Parses .start (Text.trim "[]\x7b2,1\x7d".toList) t →
        ¬Derivation.IsCounted t := by
  have shown : Text.trim nested.toList ≠ [] := by decide +kernel
  have read : parse nested "word" = .ok nestedPattern := by decide +kernel
  have shown' : Text.trim "[]\x7b2,1\x7d".toList ≠ [] := by decide +kernel
  have refused : parse "[]\x7b2,1\x7d" "word" = .error ⟨"[]\x7b2,1\x7d", .invertedRepeat 2 1⟩ := by
    decide +kernel
  have counted := ((parse_counted_derivation nested "word" shown).1 nestedPattern).mp read
  have uncounted := (parse_counted_derivation "[]\x7b2,1\x7d" "word" shown').2.2.mpr ⟨_, refused⟩
  exact ⟨counted, uncounted⟩

end Concordance.Pattern
