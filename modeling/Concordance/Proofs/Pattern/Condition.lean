import Concordance.Pattern.Printer
import Concordance.Pattern.Reader
import Concordance.Proofs.Pattern.Chain
import Concordance.Proofs.Text.Quoted
import Concordance.Proofs.Text.Skip

/-! Reading the text of a condition. A chain is read operand by operand, and every operand is either
no chain at all or stands in parentheses. -/

namespace Concordance

open Text (skip isNameChar isName)

/-- An attribute that can be written: a name, a comparison and a text that survives its quotes. -/
def Attribute.isWritable (a : Attribute) : Bool :=
  isName isNameChar a.name.toList && (a.operator == "=" || a.operator == "!=") &&
    Quoted.isRegular a.value.toList

def Condition.isWritable : Condition → Bool
  | .attribute a => a.isWritable
  | .negation e => e.isWritable
  | .binary op l r => (op == "&" || op == "|") && l.isWritable && r.isWritable

namespace Attribute

def render (a : Attribute) : List Char :=
  a.name.toList ++ a.operator.toList ++ Quoted.quote a.value.toList

theorem attribute?_render (rest : List Char) {a : Attribute} (h : a.isWritable) :
    Pattern.Reader.attribute? (a.render ++ rest) = some (a, rest) := by
  obtain ⟨name, operator, value⟩ := a
  simp only [isWritable, Bool.and_eq_true, Bool.or_eq_true, beq_iff_eq] at h
  obtain ⟨⟨shape, comparison⟩, regular⟩ := h
  have value_read := Quoted.literal?_quote rest regular
  have skipped : skip (Quoted.quote value.toList ++ rest) = Quoted.quote value.toList ++ rest :=
    Text.skip_append_of_head rest (Quoted.head?_quote _) rfl
  rcases comparison with rfl | rfl
  · have name_read := Text.name?_append shape ('=' :: (Quoted.quote value.toList ++ rest))
      (by intro c same; cases same; decide)
    simp [render, Pattern.Reader.attribute?, name_read, Text.skip_cons, Text.isSpacing,
      Pattern.Reader.comparison?, skipped, value_read]
  · have name_read := Text.name?_append shape
      ('!' :: '=' :: (Quoted.quote value.toList ++ rest)) (by intro c same; cases same; decide)
    simp [render, Pattern.Reader.attribute?, name_read, Text.skip_cons, Text.isSpacing,
      Pattern.Reader.comparison?, skipped, value_read]

theorem render_head {a : Attribute} (h : a.isWritable) :
    ∃ c cs, a.render = c :: cs ∧ Text.isNameStart c := by
  simp only [isWritable, Bool.and_eq_true] at h
  obtain ⟨c, cs, name, start⟩ := Text.isName_head h.1.1
  exact ⟨c, _, by rw [render, name, List.cons_append, List.cons_append], start⟩

end Attribute

namespace Condition

def operand (op : String) (c : Condition) : List Char := render.side op c c.render

theorem render_binary (op : String) (l r : Condition) :
    (binary op l r).render = l.operand op ++ ' ' :: op.toList ++ ' ' :: r.operand op := rfl

theorem operand_of_isChain {op : String} {c : Condition} (h : c.isChain op) :
    c.operand op = c.render := by
  cases c with
  | «attribute» a => rfl
  | negation e => rfl
  | binary op' l r =>
    have heq : op' = op := by simpa [isChain] using h
    simp [operand, render.side, heq]

theorem operand_of_not_binary (op : String) {c : Condition} (h : c.isBinary = false) :
    c.operand op = c.render := by
  cases c with
  | «attribute» a => rfl
  | negation e => rfl
  | binary op' l r => simp [isBinary] at h

theorem operand_parenthesized {op : String} {c : Condition} (hb : c.isBinary)
    (h : c.isChain op = false) : c.operand op = '(' :: c.render ++ [')'] := by
  cases c with
  | «attribute» a => simp [isBinary] at hb
  | negation e => simp [isBinary] at hb
  | binary op' l r =>
    have hne : op' ≠ op := by simpa [isChain] using h
    simp [operand, render.side, hne]

theorem isChain_empty {c : Condition} (h : c.isWritable) : c.isChain "" = false := by
  cases c with
  | «attribute» a => rfl
  | negation e => rfl
  | binary op l r =>
    simp only [isWritable, Bool.and_eq_true, Bool.or_eq_true, beq_iff_eq] at h
    rcases h.1.1 with rfl | rfl <;> rfl

theorem render_negation {e : Condition} (h : e.isWritable) :
    (negation e).render = '!' :: e.operand "" := by
  by_cases hb : e.isBinary
  · rw [operand_parenthesized hb (isChain_empty h)]
    simp [render, hb]
  · have hb : e.isBinary = false := by simpa using hb
    rw [operand_of_not_binary "" hb]
    simp [render, hb]

theorem operand_eq_or (op : String) (c : Condition) :
    c.operand op = c.render ∨ c.operand op = '(' :: c.render ++ [')'] := by
  cases hb : c.isBinary with
  | false => exact .inl (operand_of_not_binary op hb)
  | true =>
    cases hc : c.isChain op with
    | false => exact .inr (operand_parenthesized hb hc)
    | true => exact .inl (operand_of_isChain hc)

theorem render_head {c : Condition} (h : c.isWritable) :
    ∃ x xs, c.render = x :: xs ∧ Text.isSpacing x = false ∧ x ≠ ']' := by
  induction c with
  | «attribute» a =>
    obtain ⟨x, xs, eq, start⟩ := Attribute.render_head h
    refine ⟨x, xs, eq, Text.isSpacing_of_isNameStart start, ?_⟩
    intro same
    subst same
    exact absurd start (by decide)
  | negation e ih => exact ⟨'!', _, render_negation h, rfl, by decide⟩
  | binary op l r ihl ihr =>
    simp only [isWritable, Bool.and_eq_true] at h
    rcases operand_eq_or op l with eq | eq
    · obtain ⟨x, xs, head, rest⟩ := ihl h.1.2
      exact ⟨x, _, by rw [render_binary, eq, head]; rfl, rest⟩
    · exact ⟨'(', _, by rw [render_binary, eq]; rfl, rfl, by decide⟩

theorem operand_head (op : String) {c : Condition} (h : c.isWritable) :
    ∃ x, (c.operand op).head? = some x ∧ Text.isSpacing x = false := by
  rcases operand_eq_or op c with eq | eq
  · obtain ⟨x, xs, head, spacing, -⟩ := render_head h
    exact ⟨x, by rw [eq, head, List.head?_cons], spacing⟩
  · exact ⟨'(', by rw [eq]; rfl, rfl⟩

theorem skip_operand (op : String) (rest : List Char) {c : Condition} (h : c.isWritable) :
    skip (c.operand op ++ rest) = c.operand op ++ rest := by
  obtain ⟨x, head, spacing⟩ := operand_head op h
  exact Text.skip_append_of_head rest head spacing

end Condition

namespace Pattern.Reader

/-- The two levels at which conditions are joined; a conjunction binds closer. -/
inductive Level
  | conjunction
  | disjunction
  deriving DecidableEq

namespace Level

def op : Level → String
  | conjunction => "&"
  | disjunction => "|"

def one : Level → Nat → List Char → Option (Condition × List Char)
  | conjunction => unary
  | disjunction => Reader.conjunction

def whole : Level → Nat → List Char → Option (Condition × List Char)
  | conjunction => Reader.conjunction
  | disjunction => Reader.disjunction

def more : Level → Nat → Condition → List Char → Option (Condition × List Char)
  | conjunction => conjuncts
  | disjunction => disjuncts

def Ends : Level → List Char → Prop
  | conjunction, rest => conjunctionMark? (skip rest) = none
  | disjunction, rest => disjunctionMark? (skip rest) = none

def EndsBelow (j : Level) (rest : List Char) : Prop := j = disjunction → conjunction.Ends rest

variable (j : Level)

theorem whole_succ (n : Nat) (cs : List Char) :
    j.whole (n + 1) cs = (j.one n cs).bind fun (e, r) => j.more n e r := by
  cases j with
  | conjunction => simp only [whole, one, more, Reader.conjunction]; rfl
  | disjunction => simp only [whole, one, more, Reader.disjunction]; rfl

theorem more_op (n : Nat) (left : Condition) (cs : List Char) :
    j.more (n + 1) left (' ' :: j.op.toList ++ ' ' :: cs) =
      (j.one n (skip cs)).bind fun (e, r) => j.more n (.binary j.op left e) r := by
  cases j with
  | conjunction =>
    simp [more, one, op, conjuncts, Text.skip_cons, Text.isSpacing, conjunctionMark?]
  | disjunction =>
    simp [more, one, op, disjuncts, Text.skip_cons, Text.isSpacing, disjunctionMark?]

theorem more_ends (n : Nat) (left : Condition) {rest : List Char} (ends : j.Ends rest) :
    j.more (n + 1) left rest = some (left, rest) := by
  cases j with
  | conjunction =>
    have none : conjunctionMark? (skip rest) = none := ends
    simp [more, conjuncts, none]
  | disjunction =>
    have none : disjunctionMark? (skip rest) = none := ends
    simp [more, disjuncts, none]

theorem endsBelow_op (cs : List Char) : j.EndsBelow (' ' :: j.op.toList ++ ' ' :: cs) := by
  intro same
  subst same
  simp [Ends, op, Text.skip_cons, Text.isSpacing, conjunctionMark?]

end Level

/-- What reading the text of a condition gives: as an operand, as the start of a chain, as its
continuation, and on its own. Each step of a reader uses up one unit of its bound, and no more
steps are taken than there are characters. -/
structure ReadsBack (c : Condition) : Prop where
  operand : ∀ op rest n, c.isChain op = false → 3 * (c.operand op).length ≤ n →
    unary n (c.operand op ++ rest) = some (c.leftNested, rest)
  start : ∀ (j : Level) rest n, j.EndsBelow rest → 3 * (c.operand j.op).length + 2 ≤ n →
    ∃ m, n ≤ m + (c.operand j.op).length ∧
      j.whole n (c.operand j.op ++ rest) = j.more m c.leftNested rest
  more : ∀ (j : Level) left rest n, j.EndsBelow rest → 3 * (c.operand j.op).length + 2 ≤ n →
    ∃ m, n ≤ m + (c.operand j.op).length ∧
      j.more n left (' ' :: j.op.toList ++ ' ' :: (c.operand j.op ++ rest)) =
        j.more m (.graft j.op left c.leftNested) rest

section Operand

variable {c : Condition} (writable : c.isWritable) {op : String}
  (single : ∀ rest n, 3 * (c.operand op).length ≤ n →
    unary n (c.operand op ++ rest) = some (c.leftNested, rest))
include writable single

theorem one_operand (j : Level) {rest : List Char} {n : Nat} (below : j.EndsBelow rest)
    (bound : 3 * (c.operand op).length + 1 ≤ n) :
    j.one n (c.operand op ++ rest) = some (c.leftNested, rest) := by
  cases j with
  | conjunction => exact single rest n (by omega)
  | disjunction =>
    obtain ⟨k, rfl⟩ : ∃ k, n = k + 1 := ⟨n - 1, by omega⟩
    obtain ⟨x, head, -⟩ := Condition.operand_head op writable
    have nonempty : 0 < (c.operand op).length := List.length_pos_of_mem (List.mem_of_head? head)
    obtain ⟨i, rfl⟩ : ∃ i, k = i + 1 := ⟨k - 1, by omega⟩
    calc Level.disjunction.one (i + 1 + 1) (c.operand op ++ rest)
        = Level.conjunction.whole (i + 1 + 1) (c.operand op ++ rest) := rfl
      _ = Level.conjunction.more (i + 1) c.leftNested rest := by
        rw [Level.whole_succ, Level.one, single rest (i + 1) (by omega)]
        rfl
      _ = some (c.leftNested, rest) := Level.more_ends _ i _ (below rfl)

theorem start_operand (j : Level) {rest : List Char} {n : Nat} (below : j.EndsBelow rest)
    (bound : 3 * (c.operand op).length + 2 ≤ n) :
    ∃ m, n ≤ m + (c.operand op).length ∧
      j.whole n (c.operand op ++ rest) = j.more m c.leftNested rest := by
  obtain ⟨k, rfl⟩ : ∃ k, n = k + 1 := ⟨n - 1, by omega⟩
  obtain ⟨x, head, -⟩ := Condition.operand_head op writable
  have nonempty : 0 < (c.operand op).length := List.length_pos_of_mem (List.mem_of_head? head)
  refine ⟨k, by omega, ?_⟩
  rw [Level.whole_succ, one_operand writable single j below (by omega)]
  rfl

theorem more_operand (j : Level) (left : Condition) {rest : List Char} {n : Nat}
    (notChain : c.isChain j.op = false) (below : j.EndsBelow rest)
    (bound : 3 * (c.operand op).length + 2 ≤ n) :
    ∃ m, n ≤ m + (c.operand op).length ∧
      j.more n left (' ' :: j.op.toList ++ ' ' :: (c.operand op ++ rest)) =
        j.more m (.graft j.op left c.leftNested) rest := by
  obtain ⟨k, rfl⟩ : ∃ k, n = k + 1 := ⟨n - 1, by omega⟩
  obtain ⟨x, head, -⟩ := Condition.operand_head op writable
  have nonempty : 0 < (c.operand op).length := List.length_pos_of_mem (List.mem_of_head? head)
  refine ⟨k, by omega, ?_⟩
  rw [Level.more_op, Condition.skip_operand op rest writable,
    one_operand writable single j below (by omega),
    Condition.graft_of_not_chain left (by rw [Condition.isChain_leftNested, notChain])]
  rfl

end Operand

theorem disjunction_of_start {c : Condition} (j : Level) (eq : c.operand j.op = c.render)
    (start : ∀ rest n, j.EndsBelow rest → 3 * (c.operand j.op).length + 2 ≤ n →
      ∃ m, n ≤ m + (c.operand j.op).length ∧
        j.whole n (c.operand j.op ++ rest) = j.more m c.leftNested rest)
    {rest : List Char} {n : Nat} (bound : 3 * c.render.length + 3 ≤ n)
    (ends : ∀ j : Level, j.Ends rest) :
    disjunction n (c.render ++ rest) = some (c.leftNested, rest) := by
  obtain ⟨k, rfl⟩ : ∃ k, n = k + 1 + 1 := ⟨n - 2, by omega⟩
  rw [eq] at start
  cases j with
  | conjunction =>
    obtain ⟨m, hm, read⟩ := start rest (k + 1) (fun h => nomatch h) (by omega)
    obtain ⟨i, rfl⟩ : ∃ i, m = i + 1 := ⟨m - 1, by omega⟩
    rw [Level.more_ends _ i _ (ends .conjunction)] at read
    calc disjunction (k + 1 + 1) (c.render ++ rest)
        = Level.disjunction.more (k + 1) c.leftNested rest := by
          rw [show disjunction = Level.disjunction.whole from rfl, Level.whole_succ,
            show Level.disjunction.one = Level.conjunction.whole from rfl, read]
          rfl
      _ = some (c.leftNested, rest) := Level.more_ends _ k _ (ends .disjunction)
  | disjunction =>
    obtain ⟨m, hm, read⟩ := start rest (k + 1 + 1) (fun _ => ends .conjunction) (by omega)
    obtain ⟨i, rfl⟩ : ∃ i, m = i + 1 := ⟨m - 1, by omega⟩
    rw [Level.more_ends _ i _ (ends .disjunction)] at read
    exact read

theorem readsBack_of_not_binary {c : Condition} (writable : c.isWritable)
    (notBinary : c.isBinary = false)
    (single : ∀ rest n, 3 * c.render.length ≤ n →
      unary n (c.render ++ rest) = some (c.leftNested, rest)) : ReadsBack c := by
  have single (op : String) (rest : List Char) (n : Nat) (bound : 3 * (c.operand op).length ≤ n) :
      unary n (c.operand op ++ rest) = some (c.leftNested, rest) := by
    rw [Condition.operand_of_not_binary op notBinary] at bound ⊢
    exact single rest n bound
  have notChain (op : String) : c.isChain op = false := by
    cases c with
    | «attribute» a => rfl
    | negation e => rfl
    | binary op' l r => simp [Condition.isBinary] at notBinary
  exact {
    operand := fun op rest n _ bound => single op rest n bound
    start := fun j rest n below bound => start_operand writable (single j.op) j below bound
    more := fun j left rest n below bound =>
      more_operand writable (single j.op) j left (notChain j.op) below bound }

theorem readsBack_attribute {a : Attribute} (h : a.isWritable) : ReadsBack (.attribute a) := by
  apply readsBack_of_not_binary (c := .attribute a) h rfl
  intro rest n bound
  obtain ⟨c, cs, text, start⟩ := Attribute.render_head h
  have read := Attribute.attribute?_render rest h
  have hlen : 0 < (Condition.attribute a).render.length := by
    rw [show (Condition.attribute a).render = a.render from rfl, text]
    simp
  obtain ⟨k, rfl⟩ : ∃ k, n = k + 1 := ⟨n - 1, by omega⟩
  rw [show (Condition.attribute a).render = a.render from rfl, unary]
  · simp [read, Condition.leftNested]
  · intro r h
    rw [text] at h
    obtain ⟨rfl, -⟩ := List.cons.inj h
    exact absurd start (by decide)
  · intro r h
    rw [text] at h
    obtain ⟨rfl, -⟩ := List.cons.inj h
    exact absurd start (by decide)

theorem readsBack_negation {e : Condition} (h : e.isWritable) (ih : ReadsBack e) :
    ReadsBack (.negation e) := by
  apply readsBack_of_not_binary (c := .negation e) h rfl
  intro rest n bound
  rw [Condition.render_negation h, List.length_cons] at bound
  obtain ⟨k, rfl⟩ : ∃ k, n = k + 1 := ⟨n - 1, by omega⟩
  have read := ih.operand "" rest k (Condition.isChain_empty h) (by omega)
  simp [Condition.render_negation h, unary, Condition.skip_operand "" rest h, read,
    Condition.leftNested]

section Binary

variable (j : Level) {l r : Condition} (hl : ReadsBack l) (hr : ReadsBack r)
include hl hr

theorem start_binary {rest : List Char} {n : Nat} (below : j.EndsBelow rest)
    (bound : 3 * (Condition.binary j.op l r).render.length + 2 ≤ n) :
    ∃ m, n ≤ m + (Condition.binary j.op l r).render.length ∧
      j.whole n ((Condition.binary j.op l r).render ++ rest) =
        j.more m (Condition.binary j.op l r).leftNested rest := by
  simp only [Condition.render_binary, List.length_append, List.length_cons] at bound ⊢
  obtain ⟨m, hm, first⟩ := hl.start j (' ' :: j.op.toList ++ ' ' :: (r.operand j.op ++ rest)) n
    (j.endsBelow_op _) (by omega)
  obtain ⟨k, hk, second⟩ := hr.more j l.leftNested rest m below (by omega)
  refine ⟨k, by omega, ?_⟩
  rw [second] at first
  simpa [Condition.leftNested] using first

theorem more_binary (left : Condition) {rest : List Char} {n : Nat} (below : j.EndsBelow rest)
    (bound : 3 * (Condition.binary j.op l r).render.length + 2 ≤ n) :
    ∃ m, n ≤ m + (Condition.binary j.op l r).render.length ∧
      j.more n left (' ' :: j.op.toList ++ ' ' :: ((Condition.binary j.op l r).render ++ rest)) =
        j.more m (.graft j.op left (Condition.binary j.op l r).leftNested) rest := by
  simp only [Condition.render_binary, List.length_append, List.length_cons] at bound ⊢
  obtain ⟨m, hm, first⟩ := hl.more j left (' ' :: j.op.toList ++ ' ' :: (r.operand j.op ++ rest))
    n (j.endsBelow_op _) (by omega)
  obtain ⟨k, hk, second⟩ := hr.more j (.graft j.op left l.leftNested) rest m below (by omega)
  refine ⟨k, by omega, ?_⟩
  rw [second, Condition.graft_graft] at first
  simpa [Condition.leftNested] using first

theorem readsBack_binary (writable : (Condition.binary j.op l r).isWritable) :
    ReadsBack (.binary j.op l r) := by
  have own : (Condition.binary j.op l r).isChain j.op := by simp [Condition.isChain]
  have eq := Condition.operand_of_isChain own
  have single (op : String) (rest : List Char) (n : Nat)
      (notChain : (Condition.binary j.op l r).isChain op = false)
      (bound : 3 * ((Condition.binary j.op l r).operand op).length ≤ n) :
      unary n ((Condition.binary j.op l r).operand op ++ rest) =
        some ((Condition.binary j.op l r).leftNested, rest) := by
    rw [Condition.operand_parenthesized rfl notChain] at bound ⊢
    simp only [List.length_append, List.length_cons, List.length_nil] at bound
    obtain ⟨k, rfl⟩ : ∃ k, n = k + 1 := ⟨n - 1, by omega⟩
    have read : disjunction k ((Condition.binary j.op l r).render ++ ')' :: rest) =
        some ((Condition.binary j.op l r).leftNested, ')' :: rest) := by
      refine disjunction_of_start j eq (fun rest n below bound => ?_) (by omega) ?_
      · rw [eq] at bound ⊢
        exact start_binary j hl hr below bound
      · rintro (_ | _) <;> rfl
    have skipped := Condition.skip_operand j.op (')' :: rest) writable
    rw [eq] at skipped
    simp [unary, skipped, read, Text.skip_cons, Text.isSpacing]
  -- a chain of another level stands in parentheses there
  have other (i : Level) (ne : i ≠ j) : (Condition.binary j.op l r).isChain i.op = false := by
    cases i <;> cases j <;> first | rfl | exact absurd rfl ne
  exact {
    operand := single
    start := fun i rest n below bound => by
      by_cases same : i = j
      · subst same
        rw [eq] at bound ⊢
        exact start_binary i hl hr below bound
      · exact start_operand writable (fun rest n => single i.op rest n (other i same)) i below bound
    more := fun i left rest n below bound => by
      by_cases same : i = j
      · subst same
        rw [eq] at bound ⊢
        exact more_binary i hl hr left below bound
      · exact more_operand writable (fun rest n => single i.op rest n (other i same)) i left
          (other i same) below bound }

end Binary

theorem exists_level {op : String} (h : op = "&" ∨ op = "|") : ∃ j : Level, j.op = op := by
  rcases h with rfl | rfl
  · exact ⟨.conjunction, rfl⟩
  · exact ⟨.disjunction, rfl⟩

theorem readsBack {c : Condition} (h : c.isWritable) : ReadsBack c := by
  induction c with
  | «attribute» a => exact readsBack_attribute h
  | negation e ih => exact readsBack_negation h (ih h)
  | binary op l r ihl ihr =>
    have parts := h
    simp only [Condition.isWritable, Bool.and_eq_true, Bool.or_eq_true, beq_iff_eq] at parts
    obtain ⟨j, rfl⟩ := exists_level parts.1.1
    exact readsBack_binary j (ihl parts.1.2) (ihr parts.2) h

theorem exists_operand_eq_render {c : Condition} (h : c.isWritable) :
    ∃ j : Level, c.operand j.op = c.render := by
  cases c with
  | «attribute» a => exact ⟨.conjunction, rfl⟩
  | negation e => exact ⟨.conjunction, rfl⟩
  | binary op l r =>
    simp only [Condition.isWritable, Bool.and_eq_true, Bool.or_eq_true, beq_iff_eq] at h
    obtain ⟨j, rfl⟩ := exists_level h.1.1
    exact ⟨j, Condition.operand_of_isChain (by simp [Condition.isChain])⟩

theorem condition?_render {c : Condition} (h : c.isWritable) (rest : List Char)
    (ends : ∀ j : Level, j.Ends rest) :
    condition? (c.render ++ rest) = some (c.leftNested, rest) := by
  obtain ⟨j, eq⟩ := exists_operand_eq_render h
  refine disjunction_of_start j eq (fun rest n => (readsBack h).start j rest n) ?_ ends
  simp only [List.length_append]
  omega

end Pattern.Reader

end Concordance
