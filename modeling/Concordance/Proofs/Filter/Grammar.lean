import Concordance.Proofs.Filter.Clause
import Concordance.Proofs.Grammar.Terminal

/-! The grammar of filter texts. A text is read exactly if it derives from the grammar, and every
derivation of it stands for the clauses that are read. -/

namespace Concordance.Filter

open Text (skip isSpacing)
open Grammar

inductive Terminal
  | required
  | field
  | colon
  | openParenthesis
  | closeParenthesis
  | openBracket
  | closeBracket
  | upTo
  | quoted
  | bare
  deriving DecidableEq, Repr

inductive Nonterminal
  | start
  | clause
  | value
  | term
  deriving DecidableEq, Repr

def bareUnit (p : Char → Bool) : Language Char := Grammar.escape + oneOf p

/-- A bare value: its first character may not be `+`. -/
def bareText : Language Char :=
  bareUnit (fun c => Reader.isBareChar c && c != '+') * KStar.kstar (bareUnit Reader.isBareChar)

namespace Terminal

def language : Terminal → Language Char
  | required => exactly ['+']
  | field => nameOf Reader.isFieldChar
  | colon => exactly [':']
  | openParenthesis => exactly ['(']
  | closeParenthesis => exactly [')']
  | openBracket => exactly ['[']
  | closeBracket => exactly [']']
  | upTo => exactly ['T', 'O']
  | quoted => quotedBy '"'
  | bare => bareText

end Terminal

namespace Nonterminal

def listed : Rule Nonterminal Terminal :=
  .all [.terminal .openParenthesis, .some (.nonterminal term), .terminal .closeParenthesis]

def range : Rule Nonterminal Terminal :=
  .all [.terminal .openBracket, .terminal .bare, .terminal .upTo, .terminal .bare,
    .terminal .closeBracket]

def rule : Nonterminal → Rule Nonterminal Terminal
  | start => .many (.nonterminal clause)
  | clause =>
    .all [.optional (.terminal .required), .terminal .field, .terminal .colon, .nonterminal value]
  | value => .either listed (.either range (.nonterminal term))
  | term => .either (.terminal .quoted) (.terminal .bare)

end Nonterminal

def grammar : Grammar Nonterminal Terminal := ⟨Terminal.language, Nonterminal.rule⟩

/-! ### What a derivation stands for -/

abbrev Derivation := Grammar.Tree Nonterminal Terminal

namespace Derivation

open Reader (Term)

def term : Derivation → Term
  | .node .term [.leaf .quoted s] => .quoted s.tail.dropLast
  | .node .term [.leaf .bare s] => .bare s
  | _ => .bare []

def enclosed (ts : List Derivation) : List Derivation := ts.tail.dropLast

/-- The values, and whether they bound a range. Of alternatives the bare word `OR` is none. -/
def values : Derivation → List String × Bool
  | .node .value [.leaf .openBracket _, .leaf .bare low, .leaf .upTo _, .leaf .bare high,
      .leaf .closeBracket _] => ([String.ofList low, String.ofList high], true)
  | .node .value [.node .term ts] => ([(term (.node .term ts)).value], false)
  | .node .value ts => ((((enclosed ts).map term).filter (!·.isOr)).map Term.value, false)
  | _ => ([], false)

def clause : Derivation → Clause
  | .node .clause [.leaf .required _, .leaf .field name, .leaf .colon _, v] =>
    ⟨String.ofList name, (values v).1, true, (values v).2⟩
  | .node .clause [.leaf .field name, .leaf .colon _, v] =>
    ⟨String.ofList name, (values v).1, false, (values v).2⟩
  | _ => ⟨"", [], false, false⟩

def clauses : Derivation → List Clause
  | .node .start ts => ts.map clause
  | _ => []

end Derivation

/-! ### Terminals -/

namespace Reader

theorem bareRun_split (cs : List Char) : (bareRun cs).1 ++ (bareRun cs).2 = cs := by
  fun_induction bareRun cs <;> simp_all

theorem bareRun_mem (cs : List Char) :
    (bareRun cs).1 ∈ KStar.kstar (bareUnit isBareChar) := by
  fun_induction bareRun cs with
  | case1 | case3 | case4 | case7 => exact Language.nil_mem_kstar _
  | case2 c bare =>
    have first : [c] ∈ bareUnit isBareChar := .inr ⟨c, bare, rfl⟩
    exact append_mem_kstar first (Language.nil_mem_kstar _)
  | case5 d cs feed s r run ih =>
    rw [run] at ih
    exact append_mem_kstar (.inl (mem_escape.mpr ⟨d, feed, rfl⟩)) ih
  | case6 c d cs escape bare s r run ih =>
    rw [run] at ih
    have first : [c] ∈ bareUnit isBareChar := .inr ⟨c, bare, rfl⟩
    exact append_mem_kstar first ih

theorem bareRun_unit {u : List Char} (unit : u ∈ bareUnit isBareChar) (cs : List Char) :
    bareRun (u ++ cs) = (u ++ (bareRun cs).1, (bareRun cs).2) := by
  rcases unit with escaped | ⟨c, bare, rfl⟩
  · obtain ⟨c, feed, rfl⟩ := mem_escape.mp escaped
    simp [bareRun, feed]
  · exact bareRun_cons cs bare

theorem bareRun_of_mem {s : List Char} (mem : s ∈ KStar.kstar (bareUnit isBareChar))
    (cs : List Char) : bareRun (s ++ cs) = (s ++ (bareRun cs).1, (bareRun cs).2) := by
  obtain ⟨parts, rfl, each⟩ := mem
  induction parts with
  | nil => rfl
  | cons part parts ih =>
    obtain ⟨first, others⟩ := List.forall_mem_cons.mp each
    rw [List.flatten_cons, List.append_assoc, bareRun_unit first, ih others, List.append_assoc]

theorem bareUnit_mono {u : List Char}
    (unit : u ∈ bareUnit fun c => isBareChar c && c != '+') : u ∈ bareUnit isBareChar := by
  rcases unit with escaped | ⟨c, bare, rfl⟩
  · exact .inl escaped
  · exact .inr ⟨c, (Bool.and_eq_true_iff.mp bare).1, rfl⟩

theorem head_of_bareUnit {u : List Char} (unit : u ∈ bareUnit fun c => isBareChar c && c != '+') :
    ∃ c cs, u = c :: cs ∧ c ≠ '+' ∧ isSpacing c = false := by
  rcases unit with escaped | ⟨c, bare, rfl⟩
  · obtain ⟨c, -, rfl⟩ := mem_escape.mp escaped
    exact ⟨'\\', [c], rfl, by decide, rfl⟩
  · rw [Bool.and_eq_true, bne_iff_ne] at bare
    exact ⟨c, [], rfl, bare.2, isBareChar_spacing bare.1⟩

theorem mem_bareText {s : List Char} :
    s ∈ bareText ↔ s ∈ KStar.kstar (bareUnit isBareChar) ∧ s ≠ [] ∧ s.head? ≠ some '+' := by
  rw [bareText, Language.mem_mul]
  constructor
  · rintro ⟨u, unit, cs, others, rfl⟩
    obtain ⟨c, tail, rfl, noSign, -⟩ := head_of_bareUnit unit
    exact ⟨append_mem_kstar (bareUnit_mono unit) others, List.cons_ne_nil _ _,
      fun same => noSign (Option.some.inj same)⟩
  · rintro ⟨⟨parts, rfl, each⟩, filled, noSign⟩
    cases parts with
    | nil => exact absurd rfl filled
    | cons part parts =>
      obtain ⟨first, others⟩ := List.forall_mem_cons.mp each
      refine ⟨part, ?_, parts.flatten, ⟨parts, rfl, others⟩, rfl⟩
      rcases first with escaped | ⟨c, bare, rfl⟩
      · exact .inl escaped
      · have other : c ≠ '+' := fun same => noSign (by rw [same]; rfl)
        exact .inr ⟨c, by simp [bare, other], rfl⟩

theorem scans_bare : Scans bare? bareText where
  sound := by
    intro cs s r found
    obtain ⟨run, filled, noSign⟩ := bare?_eq_some_iff.mp found
    have text := bareRun_split cs
    have units := bareRun_mem cs
    rw [run] at text units
    refine ⟨text.symm, mem_bareText.mpr ⟨units, filled, ?_⟩⟩
    rwa [← text, List.head?_append_of_ne_nil _ filled] at noSign
  longest := by
    intro s r mem
    obtain ⟨units, filled, noSign⟩ := mem_bareText.mp mem
    have found : bare? (s ++ r) = some (s ++ (bareRun r).1, (bareRun r).2) := by
      refine bare?_eq_some_iff.mpr
        ⟨bareRun_of_mem units r, List.append_ne_nil_of_left_ne_nil filled _, ?_⟩
      rwa [List.head?_append_of_ne_nil _ filled]
    refine ⟨_, _, found, ?_⟩
    rw [List.length_append]
    exact Nat.le_add_right _ _

end Reader

theorem tight : grammar.IsTight := by
  intro t s mem
  cases t with
  | field =>
    obtain ⟨c, cs, start, -, rfl⟩ := mem_nameOf.mp mem
    exact ⟨c, rfl, Text.isSpacing_of_isNameStart start⟩
  | quoted =>
    have mem : s ∈ quotedBy '"' := mem
    obtain ⟨t, -, rfl⟩ := mem_quotedBy.mp mem
    exact ⟨'"', rfl, rfl⟩
  | bare =>
    have mem : s ∈ bareText := mem
    obtain ⟨u, unit, cs, -, rfl⟩ := Language.mem_mul.mp mem
    obtain ⟨c, tail, rfl, -, spacing⟩ := Reader.head_of_bareUnit unit
    exact ⟨c, rfl, spacing⟩
  | required | colon | openParenthesis | closeParenthesis | openBracket | closeBracket | upTo =>
    rw [mem_exactly.mp mem]
    exact ⟨_, rfl, rfl⟩

end Concordance.Filter
