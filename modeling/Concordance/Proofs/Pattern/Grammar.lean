import Concordance.Proofs.Except
import Concordance.Proofs.Grammar.Terminal
import Concordance.Proofs.Pattern.Accepted

/-! The grammar of token patterns, and what its derivations stand for. A conjunction binds closer
than a disjunction, and chains of either nest to the left. -/

namespace Concordance.Pattern

open Text (skip isNameChar)
open Grammar
open Reader (Draft Mark Level isTagChar)

inductive Terminal
  | within
  | disjunction
  | conjunction
  | negation
  | comparison
  | name
  | tagName
  | string
  | count
  | less
  | lessSlash
  | greater
  | slash
  | openBracket
  | closeBracket
  | openParenthesis
  | closeParenthesis
  | question
  | star
  | plus
  | openBrace
  | comma
  | closeBrace
  deriving DecidableEq, Repr

inductive Nonterminal
  | start
  | pattern
  | within
  | token
  | leadingTag
  | trailingTag
  | body
  | repetition
  | condition
  | disjunction
  | conjunction
  | unary
  | constraint
  deriving DecidableEq, Repr

namespace Terminal

def language : Terminal → Language Char
  | within => exactly "within".toList
  | disjunction => exactly ['|'] + exactly ['O', 'R']
  | conjunction => exactly ['&'] + exactly ['A', 'N', 'D']
  | negation => exactly ['!']
  | comparison => exactly ['!', '='] + exactly ['=']
  | name => nameOf isNameChar
  | tagName => nameOf isTagChar
  | string => quotedBy '"' + quotedBy '\''
  | count => digits
  | less => exactly ['<']
  | lessSlash => exactly ['<', '/']
  | greater => exactly ['>']
  | slash => exactly ['/']
  | openBracket => exactly ['[']
  | closeBracket => exactly [']']
  | openParenthesis => exactly ['(']
  | closeParenthesis => exactly [')']
  | question => exactly ['?']
  | star => exactly ['*']
  | plus => exactly ['+']
  | openBrace => exactly ['\x7b']
  | comma => exactly [',']
  | closeBrace => exactly ['\x7d']

end Terminal

namespace Nonterminal

open Rule (terminal nonterminal)

def chain (operator : Terminal) (operand : Nonterminal) : Rule Nonterminal Terminal :=
  .seq (nonterminal operand) (.many (.seq (terminal operator) (nonterminal operand)))

def rule : Nonterminal → Rule Nonterminal Terminal
  | start => nonterminal pattern
  | pattern => .seq (.some (nonterminal token)) (.optional (nonterminal within))
  | within => .all [terminal .within, terminal .less, terminal .tagName,
      .optional (terminal .slash), terminal .greater]
  | token => .all [.optional (nonterminal leadingTag), nonterminal body,
      .optional (nonterminal repetition), .optional (nonterminal trailingTag)]
  | leadingTag => .all [terminal .less, terminal .tagName, terminal .greater]
  | trailingTag => .all [terminal .lessSlash, terminal .tagName, terminal .greater]
  | body => .either
      (.all [terminal .openBracket, .optional (nonterminal condition), terminal .closeBracket])
      (terminal .string)
  | repetition => .either (terminal .question) (.either (terminal .star) (.either (terminal .plus)
      (.either (.all [terminal .openBrace, terminal .count, terminal .closeBrace])
        (.all [terminal .openBrace, terminal .count, terminal .comma, .optional (terminal .count),
          terminal .closeBrace]))))
  | condition => nonterminal disjunction
  | disjunction => chain .disjunction conjunction
  | conjunction => chain .conjunction unary
  | unary => .either (.seq (terminal .negation) (nonterminal unary))
      (.either (.all [terminal .openParenthesis, nonterminal condition, terminal .closeParenthesis])
        (nonterminal constraint))
  | constraint => .all [terminal .name, terminal .comparison, terminal .string]

end Nonterminal

def grammar : Grammar Nonterminal Terminal := ⟨Terminal.language, Nonterminal.rule⟩

/-! ### What a derivation stands for -/

abbrev Derivation := Grammar.Tree Nonterminal Terminal

def chained (op : String) : List Condition → Condition
  | [] => default
  | c :: cs => cs.foldl (.binary op) c

namespace Derivation

def unquoted (s : List Char) : String := String.ofList ((Quoted.unquote? s).getD [])

mutual

def condition : Derivation → Condition
  | .node .condition ts => chained "" (conditions ts)
  | .node .disjunction ts => chained "|" (conditions ts)
  | .node .conjunction ts => chained "&" (conditions ts)
  | .node .unary (.leaf .negation _ :: ts) => .negation (chained "" (conditions ts))
  | .node .unary ts => chained "" (conditions ts)
  | .node .constraint [.leaf .name name, .leaf .comparison operator, .leaf .string value] =>
    .attribute ⟨String.ofList name, String.ofList operator, unquoted value⟩
  | _ => default

/-- The conditions of the nodes; leaves are operators and parentheses. -/
def conditions : List Derivation → List Condition
  | [] => []
  | .leaf _ _ :: ts => conditions ts
  | t :: ts => condition t :: conditions ts

end

def body (default : String) : List Derivation → Option Condition
  | [.leaf .string s] => some (.attribute ⟨default, "=", unquoted s⟩)
  | [.leaf .openBracket _, t, .leaf .closeBracket _] => some (condition t)
  | _ => none

def mark : List Derivation → Mark
  | [.leaf .question _] => .optional
  | [.leaf .star _] => .star
  | [.leaf .plus _] => .plus
  | [.leaf .openBrace _, .leaf .count n, .leaf .closeBrace _] => .exactly n
  | [.leaf .openBrace _, .leaf .count n, .leaf .comma _, .leaf .closeBrace _] => .between n none
  | [.leaf .openBrace _, .leaf .count n, .leaf .comma _, .leaf .count m, .leaf .closeBrace _] =>
    .between n (some m)
  | _ => .none

def tagName : List Derivation → Option String
  | [] => none
  | .leaf .tagName s :: _ => some (String.ofList s)
  | _ :: ts => tagName ts

def part {α : Type} (n : Nonterminal) (meaning : List Derivation → α) (absent : α) :
    List Derivation → α
  | [] => absent
  | .node m us :: ts => if m = n then meaning us else part n meaning absent ts
  | .leaf _ _ :: ts => part n meaning absent ts

def draft (default : String) : Derivation → Draft
  | .node .token ts =>
    ⟨part .leadingTag tagName none ts, part .body (body default) none ts,
      part .repetition mark .none ts, part .trailingTag tagName none ts⟩
  | _ => ⟨none, none, .none, none⟩

def isToken : Derivation → Bool
  | .node .token _ => true
  | _ => false

def parts : Derivation → List Derivation
  | .node .start [.node .pattern ts] => ts
  | _ => []

def drafts (default : String) (t : Derivation) : List Draft :=
  ((parts t).filter isToken).map (draft default)

def within (t : Derivation) : Option String := part .within tagName none (parts t)

end Derivation

/-! ### Repetitions -/

def countOf (ds : List Char) : Int := Numeral.ofDigits (ds.map (·.toNat - 48))

namespace Reader

def Mark.bounds : Mark → Bool × Option Repeat
  | .none => (false, .none)
  | .optional => (true, .none)
  | .star => (false, some ⟨0, .none⟩)
  | .plus => (false, some ⟨1, .none⟩)
  | .exactly ds => (false, some ⟨countOf ds, some (countOf ds)⟩)
  | .between least most => (false, some ⟨countOf least, most.map countOf⟩)

/-- Every count is short enough to be a number, and an upper one is no less than the lower one. -/
structure Mark.IsCounted (k : Mark) : Prop where
  short : ∀ ds ∈ k.counts, ds.length ≤ Numeral.maxDigits
  ordered : ∀ least most, k = .between least (some most) → countOf least ≤ countOf most

theorem settleCount_eq_ok {ds : List Char} {n : Int} :
    settleCount ds = .ok n ↔ ds.length ≤ Numeral.maxDigits ∧ n = countOf ds := by
  unfold settleCount
  split
  · next short => simp [short, countOf, eq_comm]
  · next long => simp [long]

theorem Mark.isCounted_exactly {ds : List Char} :
    (Mark.exactly ds).IsCounted ↔ ds.length ≤ Numeral.maxDigits := by
  constructor
  · intro counted
    exact counted.short ds (List.mem_singleton_self ds)
  · intro short
    exact ⟨List.forall_mem_singleton.mpr short, nofun⟩

theorem Mark.isCounted_between {least : List Char} {most : Option (List Char)} :
    (Mark.between least most).IsCounted ↔ least.length ≤ Numeral.maxDigits ∧
      ∀ ds ∈ most, ds.length ≤ Numeral.maxDigits ∧ countOf least ≤ countOf ds := by
  constructor
  · intro counted
    refine ⟨counted.short least List.mem_cons_self, fun ds given => ?_⟩
    have given : most = some ds := given
    subst given
    exact ⟨counted.short ds (by simp [counts]), counted.ordered least ds rfl⟩
  · rintro ⟨short, upper⟩
    refine ⟨List.forall_mem_cons.mpr ⟨short, fun ds given => ?_⟩, ?_⟩
    · exact (upper ds (Option.mem_toList.mp given)).1
    · rintro l m ⟨⟩
      exact (upper m rfl).2

theorem Mark.settle_of_uncounted {k : Mark} {bounds : Bool × Option Repeat}
    (uncounted : k.counts = []) (settles : k.settle = .ok k.bounds) :
    k.settle = .ok bounds ↔ k.IsCounted ∧ bounds = k.bounds := by
  have counted : k.IsCounted := by
    constructor
    · rw [uncounted]
      exact List.forall_mem_nil _
    · rintro least most rfl
      cases uncounted
  rw [settles, Except.ok.injEq, eq_comm, and_iff_right counted]

theorem Mark.settle_eq_ok {k : Mark} {bounds : Bool × Option Repeat} :
    k.settle = .ok bounds ↔ k.IsCounted ∧ bounds = k.bounds := by
  cases k with
  | none | optional | star | plus => exact settle_of_uncounted rfl rfl
  | exactly ds =>
    simp only [settle, bind_eq_ok, settleCount_eq_ok, isCounted_exactly, Mark.bounds]
    constructor
    · rintro ⟨n, ⟨short, rfl⟩, same⟩
      exact ⟨short, (Except.ok.inj same).symm⟩
    · rintro ⟨short, rfl⟩
      exact ⟨_, ⟨short, rfl⟩, rfl⟩
  | between least most =>
    cases most with
    | none =>
      simp only [settle, bind_eq_ok, settleCount_eq_ok, isCounted_between, Mark.bounds]
      constructor
      · rintro ⟨n, ⟨short, rfl⟩, same⟩
        exact ⟨⟨short, by simp⟩, (Except.ok.inj same).symm⟩
      · rintro ⟨⟨short, -⟩, rfl⟩
        exact ⟨_, ⟨short, rfl⟩, rfl⟩
    | some most =>
      simp only [settle, bind_eq_ok, settleCount_eq_ok, isCounted_between, Mark.bounds]
      constructor
      · rintro ⟨l, ⟨short, rfl⟩, m, ⟨upper, rfl⟩, same⟩
        split at same
        · cases same
        · next ordered =>
          refine ⟨⟨short, ?_⟩, (Except.ok.inj same).symm⟩
          rintro _ ⟨⟩
          exact ⟨upper, Int.not_lt.mp ordered⟩
      · rintro ⟨⟨short, upper⟩, rfl⟩
        obtain ⟨upper, ordered⟩ := upper most rfl
        exact ⟨_, ⟨short, rfl⟩, _, ⟨upper, rfl⟩, if_neg (Int.not_lt.mpr ordered)⟩

def Draft.token (d : Draft) : Token :=
  ⟨d.condition, d.mark.bounds.1, d.mark.bounds.2, d.leadingTag, d.trailingTag⟩

theorem Draft.settle_eq_ok {d : Draft} {t : Token} :
    d.settle = .ok t ↔ d.mark.IsCounted ∧ t = d.token := by
  simp only [settle, bind_eq_ok, Mark.settle_eq_ok, Except.ok.injEq]
  constructor
  · rintro ⟨_, ⟨counted, rfl⟩, rfl⟩
    exact ⟨counted, rfl⟩
  · rintro ⟨counted, rfl⟩
    exact ⟨_, ⟨counted, rfl⟩, rfl⟩

theorem settle_eq_ok {ds : List Draft} {ts : List Token} :
    settle ds = .ok ts ↔ (∀ d ∈ ds, d.mark.IsCounted) ∧ ts = ds.map Draft.token := by
  induction ds generalizing ts with
  | nil => simp [settle, eq_comm]
  | cons d ds ih =>
    simp only [settle, bind_eq_ok, Draft.settle_eq_ok, ih, Except.ok.injEq, List.forall_mem_cons]
    constructor
    · rintro ⟨_, ⟨first, rfl⟩, _, ⟨others, rfl⟩, rfl⟩
      exact ⟨⟨first, others⟩, rfl⟩
    · rintro ⟨⟨first, others⟩, rfl⟩
      exact ⟨_, ⟨first, rfl⟩, _, ⟨others, rfl⟩, rfl⟩

end Reader

namespace Derivation

def IsCounted (t : Derivation) : Prop := ∀ d ∈ drafts "" t, d.mark.IsCounted

def pattern (default : String) (t : Derivation) : Pattern :=
  ⟨(drafts default t).map Draft.token, within t⟩

end Derivation

end Concordance.Pattern
