import Mathlib.Computability.Language
import Mathlib.Data.List.TakeWhile
import Concordance.Proofs.Text.Skip

/-! Grammars over characters. A terminal is a class of texts, and the longest text of the class is
taken where one is asked for. Blanks may stand before every terminal and at the end. A derivation
is a tree that keeps all its terminals. -/

namespace Concordance

open Text (skip isSpacing)

namespace Grammar

inductive Rule (N T : Type)
  | terminal (t : T)
  | nonterminal (n : N)
  | empty
  | seq (first second : Rule N T)
  | either (left right : Rule N T)
  | many (part : Rule N T)

namespace Rule

variable {N T : Type}

def all : List (Rule N T) → Rule N T
  | [] => empty
  | [part] => part
  | part :: parts => seq part (all parts)

def optional (part : Rule N T) : Rule N T := either part empty

def some (part : Rule N T) : Rule N T := seq part (many part)

end Rule

inductive Tree (N T : Type)
  | leaf (t : T) (text : List Char)
  | node (n : N) (children : List (Tree N T))

/-- The longest text of a class at the start of `cs`, and what follows it. -/
structure Lexeme (l : Language Char) (cs s r : List Char) : Prop where
  text : cs = s ++ r
  mem : s ∈ l
  longest : ∀ t, t <+: cs → t ∈ l → t.length ≤ s.length

end Grammar

structure Grammar (N T : Type) where
  language : T → Language Char
  rule : N → Grammar.Rule N T

namespace Grammar

variable {N T : Type}

/-- The rule gives the trees of what stands in `cs` before `r`. -/
inductive Derives (g : Grammar N T) :
    Rule N T → List Char → List (Tree N T) → List Char → Prop
  | terminal {t : T} {blanks cs s r : List Char} (spacing : ∀ c ∈ blanks, isSpacing c)
      (lexeme : Lexeme (g.language t) cs s r) :
      Derives g (.terminal t) (blanks ++ cs) [.leaf t s] r
  | nonterminal {n : N} {cs r : List Char} {ts : List (Tree N T)}
      (body : Derives g (g.rule n) cs ts r) : Derives g (.nonterminal n) cs [.node n ts] r
  | empty {cs : List Char} : Derives g .empty cs [] cs
  | seq {a b : Rule N T} {cs m r : List Char} {ts us : List (Tree N T)}
      (first : Derives g a cs ts m) (second : Derives g b m us r) :
      Derives g (.seq a b) cs (ts ++ us) r
  | left {a b : Rule N T} {cs r : List Char} {ts : List (Tree N T)} (chosen : Derives g a cs ts r) :
      Derives g (.either a b) cs ts r
  | right {a b : Rule N T} {cs r : List Char} {ts : List (Tree N T)}
      (chosen : Derives g b cs ts r) : Derives g (.either a b) cs ts r
  | done {a : Rule N T} {cs : List Char} : Derives g (.many a) cs [] cs
  | more {a : Rule N T} {cs m r : List Char} {ts us : List (Tree N T)}
      (first : Derives g a cs ts m) (others : Derives g (.many a) m us r) :
      Derives g (.many a) cs (ts ++ us) r

/-- The whole text derives from the nonterminal, blanks at its end apart. -/
def Parses (g : Grammar N T) (n : N) (cs : List Char) (t : Tree N T) : Prop :=
  ∃ r, g.Derives (.nonterminal n) cs [t] r ∧ ∀ c ∈ r, isSpacing c

/-- No terminal is empty or starts with a blank. -/
def IsTight (g : Grammar N T) : Prop :=
  ∀ t, ∀ s ∈ g.language t, ∃ c, s.head? = some c ∧ isSpacing c = false

section Inversion

variable {g : Grammar N T} {cs r : List Char} {ts : List (Tree N T)} {a b : Rule N T}

theorem derives_terminal (tight : g.IsTight) {t : T} :
    g.Derives (.terminal t) cs ts r ↔
      ∃ s, ts = [.leaf t s] ∧ Lexeme (g.language t) (skip cs) s r := by
  constructor
  · intro derived
    cases derived with
    | @terminal _ blanks cs s _ spacing lexeme =>
      obtain ⟨c, head, start⟩ := tight t s lexeme.mem
      have skipped : skip (blanks ++ cs) = cs := by
        rw [skip, List.dropWhile_append_of_pos spacing, lexeme.text]
        exact Text.skip_append_of_head r head start
      exact ⟨s, rfl, by rwa [skipped]⟩
  · rintro ⟨s, rfl, lexeme⟩
    have whole := cs.takeWhile_append_dropWhile (p := isSpacing)
    rw [← whole]
    exact .terminal (fun c => List.mem_takeWhile_imp) lexeme

theorem derives_nonterminal {n : N} :
    g.Derives (.nonterminal n) cs ts r ↔
      ∃ us, ts = [.node n us] ∧ g.Derives (g.rule n) cs us r := by
  constructor
  · intro derived
    cases derived with
    | nonterminal body => exact ⟨_, rfl, body⟩
  · rintro ⟨us, rfl, body⟩
    exact .nonterminal body

theorem derives_empty : g.Derives .empty cs ts r ↔ ts = [] ∧ r = cs := by
  constructor
  · intro derived
    cases derived
    exact ⟨rfl, rfl⟩
  · rintro ⟨rfl, rfl⟩
    exact .empty

theorem derives_seq : g.Derives (.seq a b) cs ts r ↔
    ∃ us m vs, g.Derives a cs us m ∧ g.Derives b m vs r ∧ ts = us ++ vs := by
  constructor
  · intro derived
    cases derived with
    | seq first second => exact ⟨_, _, _, first, second, rfl⟩
  · rintro ⟨us, m, vs, first, second, rfl⟩
    exact .seq first second

theorem derives_either :
    g.Derives (.either a b) cs ts r ↔ g.Derives a cs ts r ∨ g.Derives b cs ts r := by
  constructor
  · intro derived
    cases derived with
    | left chosen => exact .inl chosen
    | right chosen => exact .inr chosen
  · rintro (chosen | chosen)
    · exact .left chosen
    · exact .right chosen

theorem derives_optional : g.Derives (.optional a) cs ts r ↔
    g.Derives a cs ts r ∨ ts = [] ∧ r = cs := by
  rw [Rule.optional, derives_either, derives_empty]

theorem derives_many : g.Derives (.many a) cs ts r ↔ (ts = [] ∧ r = cs) ∨
    ∃ us m vs, g.Derives a cs us m ∧ g.Derives (.many a) m vs r ∧ ts = us ++ vs := by
  constructor
  · intro derived
    cases derived with
    | done => exact .inl ⟨rfl, rfl⟩
    | more first others => exact .inr ⟨_, _, _, first, others, rfl⟩
  · rintro (⟨rfl, rfl⟩ | ⟨us, m, vs, first, others, rfl⟩)
    · exact .done
    · exact .more first others

theorem Derives.many_of_some (derived : g.Derives (.some a) cs ts r) :
    g.Derives (.many a) cs ts r := by
  obtain ⟨us, m, vs, first, others, rfl⟩ := derives_seq.mp derived
  exact .more first others

@[elab_as_elim]
theorem many_induction {motive : List Char → List (Tree N T) → List Char → Prop}
    (derived : g.Derives (.many a) cs ts r) (done : ∀ cs, motive cs [] cs)
    (more : ∀ {cs us m vs r}, g.Derives a cs us m → g.Derives (.many a) m vs r → motive m vs r →
      motive cs (us ++ vs) r) : motive cs ts r := by
  generalize same : Rule.many a = rule at derived
  induction derived with
  | terminal | nonterminal | empty | seq | left | right => cases same
  | done => exact done _
  | more first others _ ih =>
    cases same
    exact more first others (ih rfl)

end Inversion

/-! ### Progress -/

/-- The rule gives nothing without taking a character that is no blank. -/
def Eats (g : Grammar N T) (a : Rule N T) : Prop :=
  ∀ ⦃cs ts r⦄, g.Derives a cs ts r → r.length < (skip cs).length

section Progress

variable {g : Grammar N T} {a b : Rule N T} {cs r : List Char} {ts : List (Tree N T)}

theorem Derives.suffix (derived : g.Derives a cs ts r) : r <:+ cs := by
  induction derived with
  | @terminal t blanks cs s r spacing lexeme =>
    rw [lexeme.text, ← List.append_assoc]
    exact List.suffix_append _ _
  | nonterminal _ ih | left _ ih | right _ ih => exact ih
  | empty | done => exact List.suffix_refl _
  | seq _ _ first second | more _ _ first second => exact second.trans first

theorem eats_terminal (tight : g.IsTight) (t : T) : g.Eats (.terminal t) := by
  intro cs ts r derived
  obtain ⟨s, -, lexeme⟩ := (derives_terminal tight).mp derived
  obtain ⟨c, head, -⟩ := tight t s lexeme.mem
  have long := List.length_pos_of_mem (List.mem_of_head? head)
  rw [lexeme.text, List.length_append]
  omega

theorem Eats.seq_left (eats : g.Eats a) : g.Eats (.seq a b) := by
  intro cs ts r derived
  obtain ⟨us, m, vs, first, second, -⟩ := derives_seq.mp derived
  exact Nat.lt_of_le_of_lt second.suffix.length_le (eats first)

theorem Eats.seq_right (eats : g.Eats b) : g.Eats (.seq a b) := by
  intro cs ts r derived
  obtain ⟨us, m, vs, first, second, -⟩ := derives_seq.mp derived
  exact Nat.lt_of_lt_of_le (eats second) (Text.skip_suffix first.suffix).length_le

theorem Eats.either (left : g.Eats a) (right : g.Eats b) : g.Eats (.either a b) := by
  intro cs ts r derived
  rcases derives_either.mp derived with chosen | chosen
  · exact left chosen
  · exact right chosen

theorem Eats.nonterminal {n : N} (body : g.Eats (g.rule n)) : g.Eats (.nonterminal n) := by
  intro cs ts r derived
  obtain ⟨us, -, derived⟩ := derives_nonterminal.mp derived
  exact body derived

theorem Eats.length_many {n : N} (eats : g.Eats (.nonterminal n))
    (derived : g.Derives (.many (.nonterminal n)) cs ts r) :
    ts.length + (skip r).length ≤ (skip cs).length := by
  refine many_induction derived (fun cs => by simp) ?_
  intro cs us m vs r first others ih
  have short := eats first
  have less := Text.length_skip_le m
  obtain ⟨us, rfl, -⟩ := derives_nonterminal.mp first
  rw [List.length_append, List.length_singleton]
  omega

end Progress

/-! ### Texts one after the other -/

section Append

variable {g : Grammar N T} {a : Rule N T} {cs m r : List Char} {ts us : List (Tree N T)}

theorem Derives.append_many (first : g.Derives (.many a) cs ts m)
    (second : g.Derives (.many a) m us r) : g.Derives (.many a) cs (ts ++ us) r := by
  revert second
  refine many_induction (motive := fun cs ts m => g.Derives (.many a) m us r →
    g.Derives (.many a) cs (ts ++ us) r) first (fun cs second => second) ?_
  intro cs part m others r step _ ih second
  rw [List.append_assoc]
  exact .more step (ih second)

theorem Derives.blanks {blanks : List Char} (spacing : ∀ c ∈ blanks, isSpacing c)
    (derived : g.Derives a cs ts r) :
    g.Derives a (blanks ++ cs) ts r ∨ r = cs ∧ g.Derives a (blanks ++ cs) ts (blanks ++ cs) := by
  induction derived with
  | @terminal t before cs s r inner lexeme =>
    rw [← List.append_assoc]
    exact .inl (.terminal (List.forall_mem_append.mpr ⟨spacing, inner⟩) lexeme)
  | nonterminal _ ih => exact ih.imp .nonterminal (.imp_right .nonterminal)
  | empty => exact .inr ⟨rfl, .empty⟩
  | seq _ second first after =>
    rcases first with first | ⟨rfl, first⟩
    · exact .inl (.seq first second)
    · exact after.imp (.seq first) (.imp_right (.seq first))
  | left _ ih => exact ih.imp .left (.imp_right .left)
  | right _ ih => exact ih.imp .right (.imp_right .right)
  | done => exact .inr ⟨rfl, .done⟩
  | more _ others first after =>
    rcases first with first | ⟨rfl, first⟩
    · exact .inl (.more first others)
    · exact after.imp (.more first) (.imp_right (.more first))

/-- More text may follow if it lets every terminal be as long as it was, but for one end from which
nothing derives. -/
theorem Derives.append {rest dead : List Char}
    (kept : ∀ {t cs s r}, Lexeme (g.language t) cs s r → r ≠ dead →
      Lexeme (g.language t) (cs ++ rest) s (r ++ rest))
    (stuck : ∀ {a ts r}, g.Derives a dead ts r → r = dead)
    (derived : g.Derives a cs ts r) (alive : r ≠ dead) :
    g.Derives a (cs ++ rest) ts (r ++ rest) := by
  induction derived with
  | terminal spacing lexeme =>
    rw [List.append_assoc]
    exact .terminal spacing (kept lexeme alive)
  | nonterminal _ ih => exact .nonterminal (ih alive)
  | empty => exact .empty
  | seq _ second first after =>
    refine .seq (first ?_) (after alive)
    rintro rfl
    exact alive (stuck second)
  | left _ ih => exact .left (ih alive)
  | right _ ih => exact .right (ih alive)
  | done => exact .done
  | more _ others first after =>
    refine .more (first ?_) (after alive)
    rintro rfl
    exact alive (stuck others)

end Append

end Grammar

end Concordance
