import Concordance.Pattern.Basic

/-! Chains of one operator. However a chain is nested, its operands stand in one order, and nesting
them to the left changes neither them nor what the condition says. -/

namespace Concordance

namespace Condition

def attributes : Condition → List Attribute
  | .attribute a => [a]
  | .negation e => e.attributes
  | .binary _ l r => l.attributes ++ r.attributes

def isChain (op : String) : Condition → Bool
  | .binary op' .. => op' == op
  | _ => false

/-- The operands of a chain from left to right; any other condition is its only operand. -/
def operands (op : String) : Condition → List Condition
  | .binary op' l r => if op' = op then operands op l ++ operands op r else [.binary op' l r]
  | e => [e]

/-- A chain that nests to the left, continued by the operands of another one. -/
def graft (op : String) (left : Condition) : Condition → Condition
  | .binary op' l r =>
    if op' = op then .binary op (graft op left l) r else .binary op left (.binary op' l r)
  | e => .binary op left e

def leftNested : Condition → Condition
  | .attribute a => .attribute a
  | .negation e => .negation e.leftNested
  | .binary op l r => graft op l.leftNested r.leftNested

/-- No right operand is a chain of the same operator. -/
def isLeftNested : Condition → Bool
  | .attribute _ => true
  | .negation e => e.isLeftNested
  | .binary op l r => l.isLeftNested && r.isLeftNested && !r.isChain op

/-- The truth of a condition, given that of its attributes. -/
def holds (v : Attribute → Bool) : Condition → Bool
  | .attribute a => v a
  | .negation e => !e.holds v
  | .binary op l r => if op = "&" then l.holds v && r.holds v else l.holds v || r.holds v

theorem graft_of_not_chain {op : String} (left : Condition) {e : Condition}
    (h : e.isChain op = false) : graft op left e = .binary op left e := by
  cases e with
  | «attribute» a => rfl
  | negation e => rfl
  | binary op' l r =>
    have hne : op' ≠ op := by simpa [isChain] using h
    exact if_neg hne

theorem graft_chain (op : String) (left l r : Condition) :
    graft op left (.binary op l r) = .binary op (graft op left l) r := if_pos rfl

theorem not_isChain_binary {op op' : String} (l r : Condition) (h : op' ≠ op) :
    (binary op' l r).isChain op = false := beq_false_of_ne h

theorem leftNested_binary (op : String) (l r : Condition) :
    (binary op l r).leftNested = graft op l.leftNested r.leftNested := rfl

theorem isLeftNested_binary {op : String} {l r : Condition} :
    (binary op l r).isLeftNested ↔
      l.isLeftNested ∧ r.isLeftNested ∧ r.isChain op = false := by
  show (l.isLeftNested && r.isLeftNested && !r.isChain op) = true ↔ _
  rw [Bool.and_eq_true, Bool.and_eq_true, Bool.not_eq_true', and_assoc]

theorem graft_graft (op : String) (a b c : Condition) :
    graft op (graft op a b) c = graft op a (graft op b c) := by
  induction c with
  | «attribute» x => exact (graft_chain op a b _).symm
  | negation e => exact (graft_chain op a b _).symm
  | binary op' l r ihl ihr =>
    by_cases h : op' = op
    · subst h
      rw [graft_chain, graft_chain, graft_chain, ihl]
    · have notChain := not_isChain_binary l r h
      rw [graft_of_not_chain _ notChain, graft_of_not_chain _ notChain, graft_chain]

theorem operands_of_not_chain {op : String} {c : Condition} (h : c.isChain op = false) :
    operands op c = [c] := by
  cases c with
  | «attribute» a => rfl
  | negation e => rfl
  | binary op' l r =>
    have hne : op' ≠ op := by simpa [isChain] using h
    exact if_neg hne

theorem operands_chain (op : String) (l r : Condition) :
    operands op (.binary op l r) = operands op l ++ operands op r := if_pos rfl

theorem operands_graft (op : String) (a b : Condition) :
    operands op (graft op a b) = operands op a ++ operands op b := by
  induction b with
  | «attribute» x => exact operands_chain op a _
  | negation e => exact operands_chain op a _
  | binary op' l r ihl ihr =>
    by_cases h : op' = op
    · subst h
      rw [graft_chain, operands_chain, operands_chain, ihl, List.append_assoc]
    · rw [graft_of_not_chain a (not_isChain_binary l r h), operands_chain]

theorem exists_graft_eq_binary (op : String) (a b : Condition) :
    ∃ l r, graft op a b = .binary op l r := by
  cases b with
  | «attribute» x => exact ⟨_, _, rfl⟩
  | negation e => exact ⟨_, _, rfl⟩
  | binary op' l r =>
    by_cases h : op' = op
    · subst h
      exact ⟨_, _, graft_chain op' a l r⟩
    · exact ⟨_, _, graft_of_not_chain a (not_isChain_binary l r h)⟩

theorem isChain_leftNested (op : String) (c : Condition) :
    c.leftNested.isChain op = c.isChain op := by
  cases c with
  | «attribute» a => rfl
  | negation e => rfl
  | binary op' l r =>
    obtain ⟨l', r', h⟩ := exists_graft_eq_binary op' l.leftNested r.leftNested
    rw [leftNested_binary, h]
    rfl

theorem operands_leftNested (op : String) (c : Condition) :
    operands op c.leftNested = (operands op c).map leftNested := by
  induction c with
  | «attribute» a => rfl
  | negation e => rfl
  | binary op' l r ihl ihr =>
    by_cases h : op' = op
    · subst h
      rw [leftNested_binary, operands_graft, operands_chain, ihl, ihr, List.map_append]
    · have notChain := not_isChain_binary l r h
      rw [operands_of_not_chain notChain, List.map_singleton]
      exact operands_of_not_chain (by rw [isChain_leftNested, notChain])

theorem isLeftNested_graft {op : String} {a b : Condition} (ha : a.isLeftNested)
    (hb : b.isLeftNested) : (graft op a b).isLeftNested := by
  induction b with
  | «attribute» x => exact isLeftNested_binary.mpr ⟨ha, hb, rfl⟩
  | negation e => exact isLeftNested_binary.mpr ⟨ha, hb, rfl⟩
  | binary op' l r ihl ihr =>
    by_cases h : op' = op
    · subst h
      obtain ⟨left, right, notChain⟩ := isLeftNested_binary.mp hb
      rw [graft_chain]
      exact isLeftNested_binary.mpr ⟨ihl left, right, notChain⟩
    · have notChain := not_isChain_binary l r h
      rw [graft_of_not_chain a notChain]
      exact isLeftNested_binary.mpr ⟨ha, hb, notChain⟩

theorem isLeftNested_leftNested (c : Condition) : c.leftNested.isLeftNested := by
  induction c with
  | «attribute» a => rfl
  | negation e ih => exact ih
  | binary op l r ihl ihr => exact isLeftNested_graft ihl ihr

theorem leftNested_of_isLeftNested {c : Condition} (h : c.isLeftNested) : c.leftNested = c := by
  induction c with
  | «attribute» a => rfl
  | negation e ih => exact congrArg negation (ih h)
  | binary op l r ihl ihr =>
    obtain ⟨left, right, notChain⟩ := isLeftNested_binary.mp h
    rw [leftNested_binary, ihl left, ihr right, graft_of_not_chain l notChain]

theorem holds_graft (v : Attribute → Bool) (op : String) (a b : Condition) :
    (graft op a b).holds v = (binary op a b).holds v := by
  induction b with
  | «attribute» x => rfl
  | negation e => rfl
  | binary op' l r ihl ihr =>
    by_cases h : op' = op
    · subst h
      by_cases hand : op' = "&"
      · simp only [graft_chain, holds, hand, if_true] at ihl ⊢
        rw [ihl, Bool.and_assoc]
      · simp only [graft_chain, holds, hand, if_false] at ihl ⊢
        rw [ihl, Bool.or_assoc]
    · rw [graft_of_not_chain a (not_isChain_binary l r h)]

theorem holds_leftNested (v : Attribute → Bool) (c : Condition) :
    c.leftNested.holds v = c.holds v := by
  induction c with
  | «attribute» a => rfl
  | negation e ih => exact congrArg not ih
  | binary op l r ihl ihr =>
    rw [leftNested_binary, holds_graft, holds, holds, ihl, ihr]

end Condition

def Token.leftNested (t : Token) : Token :=
  { t with condition := t.condition.map Condition.leftNested }

def Pattern.leftNested (p : Pattern) : Pattern := { p with tokens := p.tokens.map Token.leftNested }

def Token.isLeftNested (t : Token) : Bool := t.condition.all Condition.isLeftNested

def Pattern.isLeftNested (p : Pattern) : Bool := p.tokens.all Token.isLeftNested

theorem Token.leftNested_of_isLeftNested {t : Token} (h : t.isLeftNested) : t.leftNested = t := by
  cases t with
  | mk condition optional repeats leadingTag trailingTag =>
    cases condition with
    | none => rfl
    | some c =>
      have hc : c.isLeftNested := h
      simp [Token.leftNested, Condition.leftNested_of_isLeftNested hc]

theorem Pattern.leftNested_of_isLeftNested {p : Pattern} (h : p.isLeftNested) :
    p.leftNested = p := by
  have all : ∀ t ∈ p.tokens, t.leftNested = t := fun t member =>
    Token.leftNested_of_isLeftNested (List.all_eq_true.mp h t member)
  simp [Pattern.leftNested, List.map_congr_left all]

theorem Pattern.isLeftNested_leftNested (p : Pattern) : p.leftNested.isLeftNested := by
  simp only [isLeftNested, leftNested, List.all_map, List.all_eq_true, Function.comp_apply]
  intro t member
  cases condition : t.condition with
  | none => simp [Token.isLeftNested, Token.leftNested, condition]
  | some c =>
    simp [Token.isLeftNested, Token.leftNested, condition, Condition.isLeftNested_leftNested]

end Concordance
