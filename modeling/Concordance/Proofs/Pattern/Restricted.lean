import Mathlib.Data.List.Duplicate
import Concordance.Proofs.Except
import Concordance.Proofs.Pattern.Order

/-! What is gathered from tokens that say no more than equalities of distinct annotations: the same
as if they asked nothing of annotations that are not declared. -/

namespace Concordance

/-- Some part of the condition is not said by values: a negation, an operator other than `&`, or a
declared annotation that is compared otherwise than by equality. -/
inductive Condition.IsForeign (corpus : Corpus) : Condition → Prop
  | negation (operand : Condition) : IsForeign corpus (.negation operand)
  | operator {op : String} (other : op ≠ "&") (l r : Condition) : IsForeign corpus (.binary op l r)
  | comparison {a : Attribute} (declared : corpus.declares a.name) (other : a.operator ≠ "=") :
    IsForeign corpus (.attribute a)
  | left (op : String) {l : Condition} (r : Condition) (foreign : IsForeign corpus l) :
    IsForeign corpus (.binary op l r)
  | right (op : String) (l : Condition) {r : Condition} (foreign : IsForeign corpus r) :
    IsForeign corpus (.binary op l r)

def Token.declared (corpus : Corpus) (t : Token) : List Attribute :=
  t.attributes.filter (corpus.declares ·.name)

/-- A plain token of equalities, in which no declared annotation is constrained twice. -/
structure Token.IsOrderly (corpus : Corpus) (t : Token) : Prop where
  plain : t.isPlain
  expressible : ∀ c ∈ t.condition, ¬c.IsForeign corpus
  distinct : ((t.declared corpus).map (·.name)).Nodup

variable {corpus : Corpus} {i : Nat} {cols cols' : Pattern.Columns}

namespace Condition

open Pattern (gather gatherAll)

theorem operator_of_not_isForeign {c : Condition} (expressible : ¬c.IsForeign corpus)
    {a : Attribute} (member : a ∈ c.attributes) (declared : corpus.declares a.name) :
    a.operator = "=" := by
  induction c with
  | «attribute» b =>
    obtain rfl := List.mem_singleton.mp member
    by_contra other
    exact expressible (.comparison declared other)
  | negation e => exact absurd (.negation e) expressible
  | binary op l r ihl ihr =>
    rcases List.mem_append.mp member with member | member
    · exact ihl (fun foreign => expressible (.left op r foreign)) member
    · exact ihr (fun foreign => expressible (.right op l foreign)) member

theorem gather_of_not_isForeign {c : Condition} (expressible : ¬c.IsForeign corpus) :
    gather corpus i c cols =
      gatherAll corpus i (c.attributes.filter (corpus.declares ·.name)) cols := by
  induction c generalizing cols with
  | «attribute» a =>
    rw [attributes]
    cases declared : corpus.declares a.name with
    | false =>
      rw [List.filter_cons_of_neg (by simp [declared]), gather, declared]
      rfl
    | true =>
      rw [List.filter_cons_of_pos (by simp [declared]), List.filter_nil, Pattern.gatherAll_cons]
      cases gather corpus i (.attribute a) cols <;> rfl
  | negation e => exact absurd (.negation e) expressible
  | binary op l r ihl ihr =>
    have both : op = "&" := by
      by_contra other
      exact expressible (.operator other l r)
    rw [gather, if_neg (not_not.mpr both), attributes, List.filter_append,
      Pattern.gatherAll_append, ihl fun foreign => expressible (.left op r foreign)]
    exact congrArg _ (funext fun _ => ihr fun foreign => expressible (.right op l foreign))

theorem not_isForeign_of_gather {c : Condition} (run : gather corpus i c cols = .ok cols') :
    ¬c.IsForeign corpus := by
  intro foreign
  induction foreign generalizing cols cols' with
  | negation e => cases run
  | operator other l r =>
    rw [gather, if_pos other] at run
    cases run
  | comparison declared other => exact other (Pattern.of_gather_attribute declared run).1
  | left op r foreign ih =>
    rw [gather] at run
    split at run
    · cases run
    · obtain ⟨grown, first, -⟩ := bind_eq_ok.mp run
      exact ih first
  | right op l foreign ih =>
    rw [gather] at run
    split at run
    · cases run
    · obtain ⟨grown, -, second⟩ := bind_eq_ok.mp run
      exact ih second

end Condition

namespace Pattern

theorem distinct_of_gatherAll {attributes : List Attribute}
    (declared : ∀ a ∈ attributes, corpus.declares a.name)
    (run : gatherAll corpus i attributes cols = .ok cols') :
    (attributes.map (·.name)).Nodup ∧
      ∀ a ∈ attributes, ((cols.get? a.name).getD []).length ≤ i := by
  induction attributes generalizing cols with
  | nil => exact ⟨.nil, nofun⟩
  | cons a rest ih =>
    rw [gatherAll_cons] at run
    obtain ⟨grown, first, later⟩ := bind_eq_ok.mp run
    obtain ⟨-, short, rfl⟩ := of_gather_attribute (declared a List.mem_cons_self) first
    obtain ⟨distinct, within⟩ :=
      ih (fun b member => declared b (List.mem_cons_of_mem a member)) later
    -- the column of the first one is too long for another constraint in this token
    have apart : ∀ b ∈ rest, b.name ≠ a.name := by
      intro b member same
      have long := within b member
      rw [same, Keyed.get?_insert_self, Option.getD_some, placed, List.length_append,
        List.length_append, List.length_replicate, List.length_singleton] at long
      omega
    constructor
    · rw [List.map_cons, List.nodup_cons, List.mem_map]
      refine ⟨?_, distinct⟩
      rintro ⟨b, member, same⟩
      exact apart b member same
    · intro b member
      rcases List.mem_cons.mp member with rfl | member
      · exact short
      · rw [← Keyed.get?_insert_of_ne cols (placed cols i a) (apart b member)]
        exact within b member

end Pattern

namespace Token

variable {t : Token}

theorem mem_declared {a : Attribute} :
    a ∈ t.declared corpus ↔ a ∈ t.attributes ∧ corpus.declares a.name := List.mem_filter

theorem IsOrderly.operator (h : t.IsOrderly corpus) {a : Attribute}
    (member : a ∈ t.declared corpus) : a.operator = "=" := by
  obtain ⟨member, declared⟩ := mem_declared.mp member
  cases condition : t.condition with
  | none => simp [attributes, condition] at member
  | some c =>
    have own : a ∈ c.attributes := by simpa [attributes, condition] using member
    exact Condition.operator_of_not_isForeign (h.expressible c condition) own declared

def restrict (corpus : Corpus) (t : Token) : Token :=
  .ofCondition (Pattern.conjunction (t.declared corpus))

theorem attributes_restrict (corpus : Corpus) (t : Token) :
    (t.restrict corpus).attributes = t.declared corpus := Pattern.attributes_conjunction _

theorem IsOrderly.isConjunction_restrict (h : t.IsOrderly corpus) :
    (t.restrict corpus).isConjunction :=
  Pattern.isConjunction_conjunction fun _ member => h.operator member

theorem not_nodup_declared : ¬((t.declared corpus).map (·.name)).Nodup ↔
    ∃ name, corpus.declares name ∧ (t.attributes.map (·.name)).Duplicate name := by
  have names : (t.declared corpus).map (·.name) =
      (t.attributes.map (·.name)).filter (corpus.declares ·) := List.filter_map.symm
  simp only [names, List.nodup_iff_forall_not_duplicate, not_forall, not_not,
    List.duplicate_iff_two_le_count]
  refine exists_congr fun name => ?_
  cases declared : corpus.declares name with
  | true => rw [List.count_filter declared, and_iff_right rfl]
  | false =>
    have absent : name ∉ (t.attributes.map (·.name)).filter (corpus.declares ·) := by
      simp [declared]
    simp [List.count_eq_zero.mpr absent]

end Token

namespace Pattern

open Token (restrict)

theorem gatherTokens_cons_orderly {t : Token} (orderly : t.IsOrderly corpus)
    (tokens : List Token) : gatherTokens corpus i (t :: tokens) cols =
      (gatherAll corpus i (t.declared corpus) cols).bind (gatherTokens corpus (i + 1) tokens) := by
  rw [gatherTokens, orderly.plain]
  cases condition : t.condition with
  | none =>
    rw [Token.declared, Token.attributes, condition]
    rfl
  | some c =>
    have step : gather corpus i c cols = gatherAll corpus i (t.declared corpus) cols := by
      rw [Condition.gather_of_not_isForeign (orderly.expressible c condition), Token.declared,
        Token.attributes, condition]
      rfl
    rw [← step]
    rfl

theorem of_gatherTokens_cons {t : Token} {tokens : List Token}
    (run : gatherTokens corpus i (t :: tokens) cols = .ok cols') :
    t.IsOrderly corpus ∧ ∃ grown, gatherTokens corpus (i + 1) tokens grown = .ok cols' := by
  rw [gatherTokens] at run
  split at run
  · cases run
  · next plain =>
    rw [Bool.not_eq_true, Bool.not_eq_false'] at plain
    cases condition : t.condition with
    | none =>
      rw [condition] at run
      have none_declared : t.declared corpus = [] := by
        rw [Token.declared, Token.attributes, condition]
        rfl
      refine ⟨⟨plain, by simp [condition], ?_⟩, cols, run⟩
      rw [none_declared]
      exact .nil
    | some c =>
      rw [condition] at run
      obtain ⟨grown, first, later⟩ := bind_eq_ok.mp run
      have expressible := Condition.not_isForeign_of_gather first
      have own : t.declared corpus = c.attributes.filter (corpus.declares ·.name) := by
        rw [Token.declared, Token.attributes, condition]
        rfl
      rw [Condition.gather_of_not_isForeign expressible, ← own] at first
      have distinct :=
        distinct_of_gatherAll (fun a member => (Token.mem_declared.mp member).2) first
      refine ⟨⟨plain, ?_, distinct.1⟩, grown, later⟩
      intro c' given
      rw [condition, Option.mem_some_iff] at given
      exact given ▸ expressible

theorem orderly_of_gatherTokens {tokens : List Token}
    (run : gatherTokens corpus i tokens cols = .ok cols') :
    ∀ t ∈ tokens, t.IsOrderly corpus := by
  induction tokens generalizing i cols with
  | nil => nofun
  | cons t tokens ih =>
    obtain ⟨own, grown, later⟩ := of_gatherTokens_cons run
    intro u member
    rcases List.mem_cons.mp member with rfl | member
    · exact own
    · exact ih later u member

theorem gatherTokens_restrict {tokens : List Token}
    (orderly : ∀ t ∈ tokens, t.IsOrderly corpus) :
    gatherTokens corpus i (tokens.map (restrict corpus)) cols =
      gatherTokens corpus i tokens cols := by
  induction tokens generalizing i cols with
  | nil => rfl
  | cons t tokens ih =>
    have own := orderly t List.mem_cons_self
    rw [List.map_cons, gatherTokens_cons own.isConjunction_restrict, Token.attributes_restrict,
      gatherTokens_cons_orderly own]
    exact congrArg _ (funext fun _ => ih fun u member => orderly u (List.mem_cons_of_mem t member))

def Asks (corpus : Corpus) (p : Pattern) (i : Nat) (name : String) : Prop :=
  corpus.declares name ∧ p.Constrains i name

def restricted (corpus : Corpus) (p : Pattern) : Pattern :=
  ⟨p.tokens.map (restrict corpus), p.within⟩

variable {p : Pattern}

theorem constrains_restricted (i : Nat) (name : String) :
    (p.restricted corpus).Constrains i name ↔ p.Asks corpus i name := by
  have place : (p.restricted corpus).tokens[i]? = p.tokens[i]?.map (restrict corpus) :=
    List.getElem?_map
  constructor
  · rintro ⟨u, here, a, asked, rfl⟩
    rw [place, Option.mem_map] at here
    obtain ⟨t, here, rfl⟩ := here
    rw [Token.attributes_restrict, Token.mem_declared] at asked
    exact ⟨asked.2, t, here, a, asked.1, rfl⟩
  · rintro ⟨declared, t, here, a, asked, rfl⟩
    refine ⟨t.restrict corpus, ?_, a, ?_, rfl⟩
    · rw [place]
      exact Option.mem_map_of_mem _ here
    · rw [Token.attributes_restrict, Token.mem_declared]
      exact ⟨asked, declared⟩

section

variable (orderly : ∀ t ∈ p.tokens, t.IsOrderly corpus)
include orderly

theorem isConjunction_restricted : ∀ t ∈ (p.restricted corpus).tokens, t.isConjunction := by
  intro t member
  obtain ⟨u, given, rfl⟩ := List.mem_map.mp member
  exact (orderly u given).isConjunction_restrict

theorem distinct_restricted :
    ∀ t ∈ (p.restricted corpus).tokens, (t.attributes.map (·.name)).Nodup := by
  intro t member
  obtain ⟨u, given, rfl⟩ := List.mem_map.mp member
  rw [Token.attributes_restrict]
  exact (orderly u given).distinct

theorem cell_restricted_iff (i : Nat) (name : String) :
    ((p.restricted corpus).column name)[i]?.join.isSome ↔ p.Asks corpus i name := by
  rw [Option.isSome_iff_exists, ← constrains_restricted]
  exact (constrains_iff_column (isConjunction_restricted orderly) (distinct_restricted orderly) i
    name).symm

theorem exists_gathered : ∃ cols, gatherTokens corpus 0 p.tokens ∅ = .ok cols ∧
    Gathered (p.restricted corpus).column p.tokens.length cols := by
  have conjunctions := isConjunction_restricted orderly
  have places : ∀ j, ∀ t ∈ (p.restricted corpus).tokens[j]?,
      Stands (p.restricted corpus).column (0 + j) t.attributes := by
    intro j
    rw [Nat.zero_add]
    exact stands_column conjunctions (distinct_restricted orderly) j
  have declared : ∀ t ∈ (p.restricted corpus).tokens, ∀ a ∈ t.attributes,
      corpus.declares a.name := by
    intro t member a asked
    obtain ⟨u, given, rfl⟩ := List.mem_map.mp member
    rw [Token.attributes_restrict] at asked
    exact (Token.mem_declared.mp asked).2
  obtain ⟨cols, run, gathered⟩ :=
    gatherTokens_of_stands Gathered.start conjunctions places declared
  rw [restricted, gatherTokens_restrict orderly] at run
  rw [restricted, List.length_map, Nat.zero_add] at gathered
  exact ⟨cols, run, gathered⟩

end

end Pattern

end Concordance
