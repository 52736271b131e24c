import Mathlib.Data.Finset.Lattice.Lemmas
import Concordance.Pattern.Decoded
import Concordance.Pattern.Layout
import Concordance.Proofs.Annotation.Column
import Concordance.Proofs.Keyed
import Concordance.Proofs.Pattern.Chain

/-! Gathering the columns of a pattern. They grow from token to token, and each holds what the whole
column says up to there. -/

namespace Concordance

/-- The annotations with their regular expressions in a conjunction of equalities, in no order. -/
def Condition.equalities? : Condition → Option (Finset (String × String))
  | .attribute a => if a.operator = "=" then some {(a.name, a.value)} else none
  | .negation _ => none
  | .binary op l r =>
    if op = "&" then l.equalities?.bind fun s => r.equalities?.map fun t => s ∪ t else none

/-- The constraints of a plain token that is a conjunction of equalities, or empty. -/
def Token.constraints? (t : Token) : Option (Finset (String × String)) :=
  if !t.isPlain then none
  else match t.condition with
    | none => some ∅
    | some c => c.equalities?

def Condition.isConjunction : Condition → Bool
  | .attribute a => a.operator == "="
  | .negation _ => false
  | .binary op l r => op == "&" && l.isConjunction && r.isConjunction

def Token.isConjunction (t : Token) : Bool := t.isPlain && t.condition.all Condition.isConjunction

def Token.attributes (t : Token) : List Attribute := (t.condition.map Condition.attributes).getD []

theorem Condition.equalities?_eq {c : Condition} (h : c.isConjunction) :
    c.equalities? = some (c.attributes.map fun a => (a.name, a.value)).toFinset := by
  induction c with
  | «attribute» a =>
    have equal : a.operator = "=" := by simpa [isConjunction] using h
    simp [equalities?, attributes, equal]
  | negation e => exact absurd h Bool.false_ne_true
  | binary op l r ihl ihr =>
    simp only [isConjunction, Bool.and_eq_true, beq_iff_eq] at h
    simp [equalities?, attributes, h.1.1, ihl h.1.2, ihr h.2]

theorem Token.constraints?_eq {t : Token} (h : t.isConjunction) :
    t.constraints? = some (t.attributes.map fun a => (a.name, a.value)).toFinset := by
  simp only [isConjunction, Bool.and_eq_true] at h
  cases condition : t.condition with
  | none => simp [constraints?, attributes, h.1, condition]
  | some c =>
    have chain : c.isConjunction := by simpa [condition] using h.2
    simp [constraints?, attributes, h.1, condition, Condition.equalities?_eq chain]

theorem Token.operator_of_mem {t : Token} (h : t.isConjunction) {a : Attribute}
    (member : a ∈ t.attributes) : a.operator = "=" := by
  have equal (c : Condition) (chain : c.isConjunction) : ∀ a ∈ c.attributes, a.operator = "=" := by
    induction c with
    | «attribute» b => simpa [Condition.isConjunction, Condition.attributes] using chain
    | negation e => exact absurd chain Bool.false_ne_true
    | binary op l r ihl ihr =>
      simp only [Condition.isConjunction, Bool.and_eq_true] at chain
      intro a member
      rcases List.mem_append.mp member with member | member
      · exact ihl chain.1.2 a member
      · exact ihr chain.2 a member
  simp only [isConjunction, Bool.and_eq_true] at h
  cases condition : t.condition with
  | none => simp [attributes, condition] at member
  | some c =>
    refine equal c (by simpa [condition] using h.2) a ?_
    simpa [attributes, condition] using member

namespace Pattern

theorem attributes_conjunction (attributes : List Attribute) :
    (Token.ofCondition (conjunction attributes)).attributes = attributes := by
  cases attributes with
  | nil => rfl
  | cons a rest =>
    have chain (c : Condition) :
        (rest.foldl (fun c b => .binary "&" c (.attribute b)) c).attributes =
          c.attributes ++ rest := by
      induction rest generalizing c with
      | nil => exact (List.append_nil _).symm
      | cons b rest ih =>
        rw [List.foldl_cons, ih, Condition.attributes, List.append_assoc]
        rfl
    exact chain (.attribute a)

theorem isConjunction_conjunction {attributes : List Attribute}
    (equal : ∀ a ∈ attributes, a.operator = "=") :
    (Token.ofCondition (conjunction attributes)).isConjunction := by
  cases attributes with
  | nil => rfl
  | cons a rest =>
    have first : (Condition.attribute a).isConjunction :=
      beq_iff_eq.mpr (equal a List.mem_cons_self)
    refine List.foldlRecOn rest _ (motive := fun c : Condition => c.isConjunction) first ?_
    intro c left b member
    have right : b.operator = "=" := equal b (List.mem_cons_of_mem a member)
    simp [Condition.isConjunction, left, right]

variable {corpus : Corpus} {full : String → List (Option String)} {i : Nat} {cols : Columns}

/-- The attributes of the token at place `i`, given the column of every annotation. -/
structure Stands (full : String → List (Option String)) (i : Nat) (attributes : List Attribute) :
    Prop where
  distinct : (attributes.map (·.name)).Nodup
  asks : ∀ a, a ∈ attributes ↔ a.operator = "=" ∧ (full a.name)[i]?.join = some a.value

theorem constraints?_conjunction {attributes : List Attribute}
    (equal : ∀ a ∈ attributes, a.operator = "=") :
    (Token.ofCondition (conjunction attributes)).constraints? =
      some (attributes.map fun a => (a.name, a.value)).toFinset := by
  rw [Token.constraints?_eq (isConjunction_conjunction equal), attributes_conjunction]

theorem Stands.mem_toFinset {attributes : List Attribute} (stands : Stands full i attributes)
    (name regex : String) :
    (name, regex) ∈ (attributes.map fun a => (a.name, a.value)).toFinset ↔
      (full name)[i]?.join = some regex := by
  rw [List.mem_toFinset, List.mem_map]
  constructor
  · intro ⟨a, member, same⟩
    cases same
    exact ((stands.asks a).mp member).2
  · intro here
    exact ⟨⟨name, "=", regex⟩, (stands.asks _).mpr ⟨rfl, here⟩, rfl⟩

/-- The columns of the first `i` tokens, each up to its last constraint. -/
structure Gathered (full : String → List (Option String)) (i : Nat) (cols : Columns) : Prop where
  column : ∀ name, (cols.get? name).getD [] = settled ((full name).take i)
  filled : ∀ name, cols.get? name ≠ some []

def gatherAll (corpus : Corpus) (i : Nat) (attributes : List Attribute) (cols : Columns) :
    Except Unsupported Columns :=
  attributes.foldlM (fun cols a => gather corpus i (.attribute a) cols) cols

theorem gatherAll_cons (a : Attribute) (rest : List Attribute) :
    gatherAll corpus i (a :: rest) cols =
      (gather corpus i (.attribute a) cols).bind (gatherAll corpus i rest) := rfl

theorem gatherAll_append (attributes others : List Attribute) :
    gatherAll corpus i (attributes ++ others) cols =
      (gatherAll corpus i attributes cols).bind (gatherAll corpus i others) := List.foldlM_append

theorem gather_conjunction {c : Condition} (h : c.isConjunction) :
    gather corpus i c cols = gatherAll corpus i c.attributes cols := by
  induction c generalizing cols with
  | «attribute» a =>
    rw [Condition.attributes, gatherAll_cons]
    cases gather corpus i (.attribute a) cols <;> rfl
  | negation e => exact absurd h Bool.false_ne_true
  | binary op l r ihl ihr =>
    simp only [Condition.isConjunction, Bool.and_eq_true, beq_iff_eq] at h
    have both : gather corpus i (.binary op l r) cols =
        (gather corpus i l cols).bind (gather corpus i r) := by
      rw [gather, if_neg (not_not.mpr h.1.1)]
      rfl
    rw [both, Condition.attributes, gatherAll_append, ihl h.1.2]
    exact congrArg _ (funext fun _ => ihr h.2)

theorem gatherTokens_cons {t : Token} (h : t.isConjunction) (tokens : List Token) :
    gatherTokens corpus i (t :: tokens) cols =
      (gatherAll corpus i t.attributes cols).bind (gatherTokens corpus (i + 1) tokens) := by
  simp only [Token.isConjunction, Bool.and_eq_true] at h
  rw [gatherTokens, h.1]
  cases condition : t.condition with
  | none =>
    rw [Token.attributes, condition]
    rfl
  | some c =>
    have chain : c.isConjunction := by simpa [condition] using h.2
    have step : gather corpus i c cols = gatherAll corpus i t.attributes cols := by
      rw [gather_conjunction chain, Token.attributes, condition]
      rfl
    rw [← step]
    rfl

def placed (cols : Columns) (i : Nat) (a : Attribute) : List (Option String) :=
  (cols.get? a.name).getD [] ++
    List.replicate (i - ((cols.get? a.name).getD []).length) none ++ [some a.value]

theorem placed_congr {cols' : Columns} {a : Attribute}
    (same : cols'.get? a.name = cols.get? a.name) : placed cols' i a = placed cols i a := by
  rw [placed, placed, same]

theorem placed_ne_nil (cols : Columns) (i : Nat) (a : Attribute) : placed cols i a ≠ [] :=
  List.append_ne_nil_of_right_ne_nil _ (List.cons_ne_nil _ _)

theorem gather_attribute {a : Attribute} (declared : corpus.declares a.name)
    (equal : a.operator = "=") (short : ((cols.get? a.name).getD []).length ≤ i) :
    gather corpus i (.attribute a) cols = .ok (cols.insert a.name (placed cols i a)) := by
  simp [gather, placed, declared, equal, Nat.not_lt.mpr short]

theorem gatherAll_distinct {attributes : List Attribute}
    (distinct : (attributes.map (·.name)).Nodup) (equal : ∀ a ∈ attributes, a.operator = "=")
    (declared : ∀ a ∈ attributes, corpus.declares a.name)
    (short : ∀ a ∈ attributes, ((cols.get? a.name).getD []).length ≤ i) :
    ∃ cols', gatherAll corpus i attributes cols = .ok cols' ∧
      (∀ a ∈ attributes, cols'.get? a.name = some (placed cols i a)) ∧
      ∀ name, (∀ a ∈ attributes, a.name ≠ name) → cols'.get? name = cols.get? name := by
  induction attributes generalizing cols with
  | nil => exact ⟨cols, rfl, nofun, fun _ _ => rfl⟩
  | cons a rest ih =>
    rw [List.map_cons, List.nodup_cons] at distinct
    have other : ∀ b ∈ rest, b.name ≠ a.name := by
      intro b member same
      exact distinct.1 (same ▸ List.mem_map_of_mem member)
    have step := gather_attribute (declared a List.mem_cons_self) (equal a List.mem_cons_self)
      (short a List.mem_cons_self)
    have kept : ∀ b ∈ rest,
        (cols.insert a.name (placed cols i a)).get? b.name = cols.get? b.name :=
      fun b member => Keyed.get?_insert_of_ne cols (placed cols i a) (other b member)
    have later : ∀ b ∈ rest,
        (((cols.insert a.name (placed cols i a)).get? b.name).getD []).length ≤ i := by
      intro b member
      rw [kept b member]
      exact short b (List.mem_cons_of_mem a member)
    obtain ⟨cols', run, grown, frame⟩ := ih distinct.2
      (fun b member => equal b (List.mem_cons_of_mem a member))
      (fun b member => declared b (List.mem_cons_of_mem a member)) later
    refine ⟨cols', ?_, ?_, ?_⟩
    · rw [gatherAll_cons, step]
      exact run
    · intro b member
      rcases List.mem_cons.mp member with rfl | member
      · rw [frame b.name other]
        exact Keyed.get?_insert_self cols b.name _
      · rw [grown b member, placed_congr (kept b member)]
    · intro name apart
      rw [frame name fun b member => apart b (List.mem_cons_of_mem a member)]
      exact Keyed.get?_insert_of_ne cols _ (Ne.symm (apart a List.mem_cons_self))

theorem Gathered.short (gathered : Gathered full i cols) (name : String) :
    ((cols.get? name).getD []).length ≤ i := by
  calc
    _ = (settled ((full name).take i)).length := by rw [gathered.column name]
    _ ≤ ((full name).take i).length := length_settled_le _
    _ ≤ i := List.length_take_le i (full name)

theorem Gathered.start : Gathered full 0 ∅ := ⟨fun _ => rfl, fun _ => nofun⟩

theorem Gathered.get? (gathered : Gathered full i cols) (name : String) :
    cols.get? name = if settled ((full name).take i) = [] then none
      else some (settled ((full name).take i)) := by
  have column := gathered.column name
  cases found : cols.get? name with
  | none =>
    rw [found] at column
    exact (if_pos column.symm).symm
  | some cells =>
    rw [found, Option.getD_some] at column
    have filled : cells ≠ [] := by
      intro empty
      exact gathered.filled name (by rw [found, empty])
    rw [← column, if_neg filled]

theorem Gathered.step (gathered : Gathered full i cols) {attributes : List Attribute}
    (stands : Stands full i attributes) (declared : ∀ a ∈ attributes, corpus.declares a.name) :
    ∃ cols', gatherAll corpus i attributes cols = .ok cols' ∧ Gathered full (i + 1) cols' := by
  obtain ⟨cols', run, grown, frame⟩ := gatherAll_distinct stands.distinct
    (fun a member => ((stands.asks a).mp member).1) declared fun a _ => gathered.short a.name
  have here : ∀ a ∈ attributes,
      placed cols i a = (full a.name).take i ++ [some a.value] ∧
        (full a.name).take (i + 1) = (full a.name).take i ++ [some a.value] := by
    intro a member
    have cell : (full a.name)[i]? = some (some a.value) :=
      Option.join_eq_some_iff.mp ((stands.asks a).mp member).2
    have reached : ((full a.name).take i).length = i := by
      obtain ⟨bound, -⟩ := List.getElem?_eq_some_iff.mp cell
      rw [List.length_take]
      omega
    constructor
    · have pad := settled_append_pad ((full a.name).take i)
      rw [reached] at pad
      rw [placed, gathered.column, pad]
    · rw [List.take_add_one, cell]
      rfl
  refine ⟨cols', run, ?_, ?_⟩
  · intro name
    by_cases asked : ∃ a ∈ attributes, a.name = name
    · obtain ⟨a, member, rfl⟩ := asked
      rw [grown a member, (here a member).1, (here a member).2, settled_concat_some]
      rfl
    · have apart : ∀ a ∈ attributes, a.name ≠ name := fun a member same => asked ⟨a, member, same⟩
      rw [frame name apart, gathered.column, List.take_add_one]
      cases cell : (full name)[i]? with
      | none => rw [Option.toList_none, List.append_nil]
      | some regex =>
        cases regex with
        | none => exact (settled_concat_none _).symm
        | some r =>
          have member := (stands.asks ⟨name, "=", r⟩).mpr ⟨rfl, by rw [cell]; rfl⟩
          exact absurd rfl (apart _ member)
  · intro name
    by_cases asked : ∃ a ∈ attributes, a.name = name
    · obtain ⟨a, member, rfl⟩ := asked
      rw [grown a member, Ne, Option.some.injEq]
      exact placed_ne_nil cols i a
    · rw [frame name fun a member same => asked ⟨a, member, same⟩]
      exact gathered.filled name

theorem gatherTokens_of_stands {tokens : List Token} (gathered : Gathered full i cols)
    (conjunctions : ∀ t ∈ tokens, t.isConjunction)
    (stands : ∀ j, ∀ t ∈ tokens[j]?, Stands full (i + j) t.attributes)
    (declared : ∀ t ∈ tokens, ∀ a ∈ t.attributes, corpus.declares a.name) :
    ∃ cols', gatherTokens corpus i tokens cols = .ok cols' ∧
      Gathered full (i + tokens.length) cols' := by
  induction tokens generalizing i cols with
  | nil => exact ⟨cols, rfl, gathered⟩
  | cons t tokens ih =>
    obtain ⟨cols₁, first, gathered₁⟩ := gathered.step (stands 0 t rfl)
      (declared t List.mem_cons_self)
    have later : ∀ j, ∀ u ∈ tokens[j]?, Stands full (i + 1 + j) u.attributes := by
      intro j u member
      have next := stands (j + 1) u member
      rwa [Nat.add_comm j 1, ← Nat.add_assoc] at next
    obtain ⟨cols₂, rest, gathered₂⟩ := ih gathered₁
      (fun u member => conjunctions u (List.mem_cons_of_mem t member)) later
      fun u member => declared u (List.mem_cons_of_mem t member)
    refine ⟨cols₂, ?_, ?_⟩
    · rw [gatherTokens_cons (conjunctions t List.mem_cons_self), first]
      exact rest
    · rw [List.length_cons, Nat.add_comm tokens.length 1, ← Nat.add_assoc]
      exact gathered₂

theorem gatherTokens_table {table : List (List Attribute)} (gathered : Gathered full i cols)
    (stands : ∀ j, ∀ attributes ∈ table[j]?, Stands full (i + j) attributes)
    (declared : ∀ attributes ∈ table, ∀ a ∈ attributes, corpus.declares a.name) :
    ∃ cols', gatherTokens corpus i (table.map fun attributes =>
        Token.ofCondition (conjunction attributes)) cols = .ok cols' ∧
      Gathered full (i + table.length) cols' := by
  have each : ∀ t ∈ table.map fun attributes => Token.ofCondition (conjunction attributes),
      ∃ attributes ∈ table, t = .ofCondition (conjunction attributes) ∧
        t.attributes = attributes := by
    intro t member
    obtain ⟨attributes, given, rfl⟩ := List.mem_map.mp member
    exact ⟨attributes, given, rfl, attributes_conjunction attributes⟩
  have places : ∀ j, ∀ t ∈ (table.map fun attributes =>
      Token.ofCondition (conjunction attributes))[j]?, Stands full (i + j) t.attributes := by
    intro j t member
    rw [List.getElem?_map, Option.mem_def, Option.map_eq_some_iff] at member
    obtain ⟨attributes, given, rfl⟩ := member
    rw [attributes_conjunction]
    exact stands j attributes given
  obtain ⟨cols', run, gathered'⟩ := gatherTokens_of_stands gathered
    (fun t member => by
      obtain ⟨attributes, given, rfl, -⟩ := each t member
      obtain ⟨j, bound, found⟩ := List.getElem_of_mem given
      have stand := stands j attributes (List.getElem?_eq_some_iff.mpr ⟨bound, found⟩)
      exact isConjunction_conjunction fun a asked => ((stand.asks a).mp asked).1) places
    fun t member a asked => by
      obtain ⟨attributes, given, -, same⟩ := each t member
      exact declared attributes given a (same ▸ asked)
  rw [List.length_map] at gathered'
  exact ⟨cols', run, gathered'⟩

def Constrains (p : Pattern) (i : Nat) (name : String) : Prop :=
  ∃ t ∈ p.tokens[i]?, ∃ a ∈ t.attributes, a.name = name

/-- What the tokens ask of an annotation, one after the other. -/
def column (p : Pattern) (name : String) : List (Option String) :=
  p.tokens.map fun t => (t.attributes.find? (·.name = name)).map (·.value)

theorem length_column (p : Pattern) (name : String) :
    (p.column name).length = p.tokens.length := List.length_map _

theorem find?_name_iff {attributes : List Attribute} (distinct : (attributes.map (·.name)).Nodup)
    (name : String) (a : Attribute) :
    attributes.find? (·.name = name) = some a ↔ a ∈ attributes ∧ a.name = name := by
  constructor
  · intro found
    exact ⟨List.mem_of_find?_eq_some found, by simpa using List.find?_some found⟩
  · rintro ⟨member, rfl⟩
    cases found : attributes.find? (·.name = a.name) with
    | none =>
      have absent := List.find?_eq_none.mp found a member
      simp at absent
    | some b =>
      have named : b.name = a.name := by simpa using List.find?_some found
      exact congrArg some
        (List.inj_on_of_nodup_map distinct (List.mem_of_find?_eq_some found) member named)

section

variable {p : Pattern} (conjunctions : ∀ t ∈ p.tokens, t.isConjunction)
  (distinct : ∀ t ∈ p.tokens, (t.attributes.map (·.name)).Nodup)
include conjunctions distinct

theorem stands_column (i : Nat) : ∀ t ∈ p.tokens[i]?, Stands p.column i t.attributes := by
  intro t place
  have member := List.mem_of_getElem? place
  refine ⟨distinct t member, fun a => ?_⟩
  have cell : (p.column a.name)[i]?.join =
      (t.attributes.find? (·.name = a.name)).map (·.value) := by
    rw [column, List.getElem?_map, place]
    rfl
  rw [cell, Option.map_eq_some_iff]
  constructor
  · intro asked
    have found := (find?_name_iff (distinct t member) a.name a).mpr ⟨asked, rfl⟩
    exact ⟨Token.operator_of_mem (conjunctions t member) asked, a, found, rfl⟩
  · rintro ⟨operator, b, found, value⟩
    obtain ⟨inside, named⟩ := (find?_name_iff (distinct t member) a.name b).mp found
    have operator' := Token.operator_of_mem (conjunctions t member) inside
    have same : b = a := by
      cases a
      cases b
      simp_all
    exact same ▸ inside

theorem constrains_iff_column (i : Nat) (name : String) :
    p.Constrains i name ↔ ∃ regex, (p.column name)[i]?.join = some regex := by
  constructor
  · rintro ⟨t, place, a, asked, rfl⟩
    exact ⟨a.value, (((stands_column conjunctions distinct i t place).asks a).mp asked).2⟩
  · rintro ⟨regex, cell⟩
    have inside : i < p.tokens.length := by
      obtain ⟨bound, -⟩ := List.getElem?_eq_some_iff.mp (Option.join_eq_some_iff.mp cell)
      rwa [length_column] at bound
    have place := List.getElem?_eq_getElem inside
    have stands := stands_column conjunctions distinct i _ place
    exact ⟨_, place, ⟨name, "=", regex⟩, (stands.asks _).mpr ⟨rfl, cell⟩, rfl⟩

end

end Pattern

end Concordance
