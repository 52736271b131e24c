import Concordance.Proofs.Pattern.RoundTrip
import Concordance.Proofs.Text.Quotation

/-! What an accepted text says: names, comparisons and counts are as the language has them, values
are made of units, and all quotes are closed at its end. -/

namespace Concordance

open Text (skip isName isNameChar)
open Pattern.Reader (isTagChar)
open Quoted (Passes)

/-- An attribute as a text can say it. In a value a backslash may take a quote with it. -/
def Attribute.isReadable (a : Attribute) : Bool :=
  isName isNameChar a.name.toList && (a.operator == "=" || a.operator == "!=") &&
    Quoted.isWhole a.value.toList

def Condition.isReadable : Condition → Bool
  | .attribute a => a.isReadable
  | .negation e => e.isReadable
  | .binary op l r => (op == "&" || op == "|") && l.isReadable && r.isReadable

theorem Condition.isReadable_of_mem {c : Condition} (h : c.isReadable) {a : Attribute}
    (member : a ∈ c.attributes) : a.isReadable := by
  induction c with
  | «attribute» b =>
    rw [List.mem_singleton.mp member]
    exact h
  | negation e ih => exact ih h member
  | binary op l r ihl ihr =>
    simp only [isReadable, Bool.and_eq_true] at h
    rcases List.mem_append.mp member with member | member
    · exact ihl h.1.2 member
    · exact ihr h.2 member

/-- A token as a text can say it; a bare literal constrains the annotation `default`. -/
structure Token.Readable (default : String) (t : Token) : Prop where
  framed : t.isFramed
  condition : ∀ c ∈ t.condition, c.isReadable ∨
    ∃ v, c = .attribute ⟨default, "=", v⟩ ∧ Quoted.isWhole v.toList

structure Pattern.Readable (default : String) (p : Pattern) : Prop where
  filled : p.tokens ≠ []
  tokens : ∀ t ∈ p.tokens, t.Readable default
  within : p.within.all fun name => isName isTagChar name.toList

namespace Pattern.Reader

theorem isPlain_of_isNameChar (c : Char) (h : isNameChar c) : Quoted.isPlain c := by
  simp only [Quoted.isPlain, Bool.and_eq_true, bne_iff_ne, ne_eq]
  refine ⟨⟨?_, ?_⟩, ?_⟩ <;> rintro rfl <;> exact absurd h (by decide)

theorem isPlain_of_isTagChar (c : Char) (h : isTagChar c) : Quoted.isPlain c := by
  simp only [isTagChar, Bool.or_eq_true, beq_iff_eq] at h
  rcases h with (h | rfl) | rfl
  · exact isPlain_of_isNameChar c h
  · rfl
  · rfl

theorem isPlain_of_isDigit (c : Char) (h : c.isDigit) : Quoted.isPlain c := by
  simp only [Quoted.isPlain, Bool.and_eq_true, bne_iff_ne, ne_eq]
  refine ⟨⟨?_, ?_⟩, ?_⟩ <;> rintro rfl <;> exact absurd h (by decide)

/-! ### Conditions -/

structure Reads (cs : List Char) (c : Condition) (r : List Char) : Prop where
  passes : Passes cs r
  readable : c.isReadable

theorem comparison?_reads {cs r : List Char} {operator : String}
    (read : comparison? cs = some (operator, r)) :
    Passes cs r ∧ (operator == "=" || operator == "!=") := by
  unfold comparison? at read
  split at read
  · cases read
    exact ⟨(Passes.plain _ rfl).trans (Passes.plain _ rfl), rfl⟩
  · cases read
    exact ⟨Passes.plain _ rfl, rfl⟩
  · exact absurd read nofun

theorem attribute?_reads {cs r : List Char} {a : Attribute} (read : attribute? cs = some (a, r)) :
    Reads cs (.attribute a) r := by
  simp only [attribute?, Option.bind_eq_bind, Option.bind_eq_some_iff, Prod.exists,
    Option.some.injEq, Prod.mk.injEq] at read
  obtain ⟨name, r1, named, operator, r2, compared, value, r3, valued, rfl, rfl⟩ := read
  obtain ⟨shape, toName⟩ := Quoted.isName_of_name? isPlain_of_isNameChar named
  obtain ⟨toOperator, comparison⟩ := comparison?_reads compared
  constructor
  · exact toName.trans ((Passes.skip _).trans (toOperator.trans
      ((Passes.skip _).trans (Passes.literal valued))))
  · simp [Condition.isReadable, Attribute.isReadable, shape, comparison,
      Quoted.isWhole_of_literal? valued]

namespace Level

def mark? : Level → List Char → Option (List Char)
  | conjunction => conjunctionMark?
  | disjunction => disjunctionMark?

theorem more_succ (j : Level) (n : Nat) (left : Condition) (cs : List Char) :
    j.more (n + 1) left cs =
      match j.mark? (skip cs) with
      | some r => (j.one n (skip r)).bind fun (e, r) => j.more n (.binary j.op left e) r
      | none => some (left, cs) := by
  cases j with
  | conjunction => simp only [more, one, op, mark?, conjuncts]; rfl
  | disjunction => simp only [more, one, op, mark?, disjuncts]; rfl

theorem passes_mark? (j : Level) {cs r : List Char} (read : j.mark? cs = some r) :
    Passes cs r := by
  cases j with
  | conjunction =>
    rw [mark?, conjunctionMark?.eq_def] at read
    split at read
    · cases read
      exact Passes.plain _ rfl
    · cases read
      exact (Passes.plain _ rfl).trans ((Passes.plain _ rfl).trans (Passes.plain _ rfl))
    · exact absurd read nofun
  | disjunction =>
    rw [mark?, disjunctionMark?.eq_def] at read
    split at read
    · cases read
      exact Passes.plain _ rfl
    · cases read
      exact (Passes.plain _ rfl).trans (Passes.plain _ rfl)
    · exact absurd read nofun

theorem isReadable_binary (j : Level) {l r : Condition} (left : l.isReadable)
    (right : r.isReadable) : (Condition.binary j.op l r).isReadable := by
  cases j <;> simp [Condition.isReadable, op, left, right]

end Level

structure Sound (n : Nat) : Prop where
  unary : ∀ {cs c r}, unary n cs = some (c, r) → Reads cs c r
  whole : ∀ (j : Level) {cs c r}, j.whole n cs = some (c, r) → Reads cs c r
  more : ∀ (j : Level) {left cs c r}, left.isReadable → j.more n left cs = some (c, r) →
    Reads cs c r

theorem Sound.one {n : Nat} (h : Sound n) (j : Level) {cs r : List Char} {c : Condition}
    (read : j.one n cs = some (c, r)) : Reads cs c r := by
  cases j with
  | conjunction => exact h.unary read
  | disjunction => exact h.whole .conjunction read

theorem unary_reads {n : Nat} (h : Sound n) {cs r : List Char} {c : Condition}
    (read : unary (n + 1) cs = some (c, r)) : Reads cs c r := by
  rw [unary.eq_def] at read
  split at read
  · exact absurd read nofun
  · next steps same =>
    cases same
    split at read
    · simp only [Option.bind_eq_bind, Option.bind_eq_some_iff, Prod.exists, Option.some.injEq,
        Prod.mk.injEq] at read
      obtain ⟨e, rest, read, rfl, rfl⟩ := read
      have operand := h.unary read
      exact ⟨(Passes.plain _ rfl).trans ((Passes.skip _).trans operand.passes), operand.readable⟩
    · simp only [Option.bind_eq_bind, Option.bind_eq_some_iff, Prod.exists] at read
      obtain ⟨e, rest, read, closed⟩ := read
      have inner := h.whole .disjunction read
      split at closed
      · next closing =>
        cases closed
        exact ⟨(Passes.plain _ rfl).trans ((Passes.skip _).trans
          (inner.passes.trans (Passes.mark closing rfl))), inner.readable⟩
      · exact absurd closed nofun
    · simp only [Option.bind_eq_bind, Option.bind_eq_some_iff, Prod.exists, Option.some.injEq,
        Prod.mk.injEq] at read
      obtain ⟨a, rest, read, rfl, rfl⟩ := read
      exact attribute?_reads read

theorem sound (n : Nat) : Sound n := by
  induction n with
  | zero =>
    refine ⟨fun read => ?_, fun j => ?_, fun j => ?_⟩
    · exact absurd read (by simp [unary])
    · cases j <;> simp [Level.whole, conjunction, disjunction]
    · cases j <;> simp [Level.more, conjuncts, disjuncts]
  | succ n ih =>
    refine ⟨unary_reads ih, fun j {cs c r} read => ?_, fun j {left cs c r} first read => ?_⟩
    · rw [Level.whole_succ, Option.bind_eq_some_iff] at read
      obtain ⟨⟨e, rest⟩, one, more⟩ := read
      have operand := ih.one j one
      have chain := ih.more j operand.readable more
      exact ⟨operand.passes.trans chain.passes, chain.readable⟩
    · rw [Level.more_succ] at read
      split at read
      · next marked =>
        rw [Option.bind_eq_some_iff] at read
        obtain ⟨⟨e, rest⟩, one, more⟩ := read
        have operand := ih.one j one
        have chain := ih.more j (j.isReadable_binary first operand.readable) more
        exact ⟨(Passes.skip _).trans ((j.passes_mark? marked).trans ((Passes.skip _).trans
          (operand.passes.trans chain.passes))), chain.readable⟩
      · cases read
        exact ⟨.rfl, first⟩

theorem condition?_reads {cs r : List Char} {c : Condition} (read : condition? cs = some (c, r)) :
    Reads cs c r := (sound _).whole .disjunction read

/-! ### Repetitions -/

def Mark.counts : Mark → List (List Char)
  | .exactly count => [count]
  | .between least most => least :: most.toList
  | _ => []

structure ReadsMark (cs : List Char) (k : Mark) (r : List Char) : Prop where
  passes : Passes cs r
  digits : ∀ ds ∈ k.counts, ∀ c ∈ ds, c.isDigit

theorem count?_reads {cs ds r : List Char} (read : count? cs = some (ds, r)) :
    Passes cs r ∧ ∀ c ∈ ds, c.isDigit := by
  have found : cs.span Char.isDigit = (ds, r) := by
    unfold count? at read
    split at read
    · exact absurd read nofun
    · exact Option.some.inj read
  rw [List.span_eq_takeWhile_dropWhile, Prod.mk.injEq] at found
  obtain ⟨rfl, rfl⟩ := found
  exact ⟨.dropWhile isPlain_of_isDigit cs, List.all_eq_true.mp List.all_takeWhile⟩

theorem mark?_reads {cs r : List Char} {k : Mark} (read : mark? cs = some (k, r)) :
    ReadsMark cs k r := by
  unfold mark? at read
  split at read
  · cases read
    exact ⟨Passes.plain _ rfl, nofun⟩
  · cases read
    exact ⟨Passes.plain _ rfl, nofun⟩
  · cases read
    exact ⟨Passes.plain _ rfl, nofun⟩
  · simp only [Option.bind_eq_bind, Option.bind_eq_some_iff, Prod.exists] at read
    obtain ⟨least, rest, counted, read⟩ := read
    obtain ⟨toLeast, leastDigits⟩ := count?_reads counted
    have opened (h : Quoted.isPlain '\x7b') :=
      (Passes.plain _ h).trans ((Passes.skip _).trans toLeast)
    split at read
    · next closing =>
      cases read
      exact ⟨(opened rfl).trans (.mark closing rfl), by simpa [Mark.counts] using leastDigits⟩
    · next comma =>
      have toComma := (opened rfl).trans (.mark comma rfl)
      split at read
      · next closing =>
        cases read
        exact ⟨toComma.trans (.mark closing rfl), by simpa [Mark.counts] using leastDigits⟩
      · simp only [Option.bind_eq_some_iff, Prod.exists] at read
        obtain ⟨most, rest, counted, read⟩ := read
        obtain ⟨toMost, mostDigits⟩ := count?_reads counted
        split at read
        · next closing =>
          cases read
          refine ⟨toComma.trans ((Passes.skip _).trans (toMost.trans (.mark closing rfl))), ?_⟩
          simpa [Mark.counts] using ⟨leastDigits, mostDigits⟩
        · exact absurd read nofun
    · exact absurd read nofun
  · cases read
    exact ⟨.rfl, nofun⟩

theorem settleCount_ok {ds : List Char} (digits : ∀ c ∈ ds, c.isDigit) {i : Int}
    (settled : settleCount ds = .ok i) :
    0 ≤ i ∧ (Numeral.signed i).length ≤ Numeral.maxDigits := by
  unfold settleCount at settled
  split at settled
  · next short =>
    cases settled
    exact ⟨Int.natCast_nonneg _, Numeral.length_decimal_ofDigits digits (by decide) short⟩
  · exact absurd settled nofun

theorem Mark.settle_ok {k : Mark} (digits : ∀ ds ∈ k.counts, ∀ c ∈ ds, c.isDigit)
    {optional : Bool} {repeats : Option Repeat} (settled : k.settle = .ok (optional, repeats)) :
    !(optional && repeats.isSome) && repeats.all Repeat.isWritable := by
  cases k with
  | none => cases settled; rfl
  | optional => cases settled; rfl
  | star => cases settled; decide
  | plus => cases settled; decide
  | exactly count =>
    cases counted : settleCount count with
    | error e => simp [Mark.settle, counted, bind, Except.bind] at settled
    | ok n =>
      obtain ⟨nonnegative, short⟩ := settleCount_ok (digits count (by simp [Mark.counts])) counted
      simp only [Mark.settle, counted, bind, Except.bind, Except.ok.injEq, Prod.mk.injEq] at settled
      obtain ⟨rfl, rfl⟩ := settled
      simp [Repeat.isWritable, nonnegative, short]
  | between least most =>
    cases counted : settleCount least with
    | error e => cases most <;> simp [Mark.settle, counted, bind, Except.bind] at settled
    | ok n =>
      obtain ⟨nonnegative, short⟩ := settleCount_ok (digits least (by simp [Mark.counts])) counted
      cases most with
      | none =>
        simp only [Mark.settle, counted, bind, Except.bind, Except.ok.injEq,
          Prod.mk.injEq] at settled
        obtain ⟨rfl, rfl⟩ := settled
        simp [Repeat.isWritable, nonnegative, short]
      | some most =>
        cases counted' : settleCount most with
        | error e => simp [Mark.settle, counted, counted', bind, Except.bind] at settled
        | ok m =>
          obtain ⟨-, shortMost⟩ := settleCount_ok (digits most (by simp [Mark.counts])) counted'
          simp only [Mark.settle, counted, counted', bind, Except.bind] at settled
          split at settled
          · cases settled
          · next ordered =>
            simp only [Except.ok.injEq, Prod.mk.injEq] at settled
            obtain ⟨rfl, rfl⟩ := settled
            simp [Repeat.isWritable, nonnegative, short, shortMost, Int.not_lt.mp ordered]

/-! ### Tokens -/

theorem tag?_reads {cs r : List Char} {name : String} (read : tag? cs = some (name, r)) :
    Passes cs r ∧ isName isTagChar name.toList := by
  simp only [tag?, Option.bind_eq_bind, Option.bind_eq_some_iff, Prod.exists] at read
  obtain ⟨letters, rest, named, closed⟩ := read
  obtain ⟨shape, toName⟩ := Quoted.isName_of_name? isPlain_of_isTagChar named
  split at closed
  · next closing =>
    cases closed
    exact ⟨(Passes.skip _).trans (toName.trans (.mark closing rfl)), by simpa using shape⟩
  · cases closed

theorem leading?_reads {cs r : List Char} {tag : Option String}
    (read : leading? cs = some (tag, r)) :
    Passes cs r ∧ tag.all fun name => isName isTagChar name.toList := by
  unfold leading? at read
  split at read
  · simp only [Option.map_eq_some_iff, Prod.mk.injEq, Prod.exists] at read
    obtain ⟨name, rest, read, rfl, rfl⟩ := read
    obtain ⟨passes, shape⟩ := tag?_reads read
    exact ⟨(Passes.plain _ rfl).trans passes, by simpa using shape⟩
  · cases read
    exact ⟨.rfl, rfl⟩

theorem trailing?_reads {cs r : List Char} {tag : Option String}
    (read : trailing? cs = some (tag, r)) :
    Passes cs r ∧ tag.all fun name => isName isTagChar name.toList := by
  unfold trailing? at read
  split at read
  · simp only [Option.map_eq_some_iff, Prod.mk.injEq, Prod.exists] at read
    obtain ⟨name, rest, read, rfl, rfl⟩ := read
    obtain ⟨passes, shape⟩ := tag?_reads read
    exact ⟨(Passes.plain _ rfl).trans ((Passes.plain _ rfl).trans passes), by simpa using shape⟩
  · cases read
    exact ⟨.rfl, rfl⟩

abbrev Said (default : String) (condition : Option Condition) : Prop :=
  ∀ c ∈ condition, c.isReadable ∨ ∃ v, c = .attribute ⟨default, "=", v⟩ ∧ Quoted.isWhole v.toList

theorem body?_reads {default : String} {cs r : List Char} {condition : Option Condition}
    (read : body? default cs = some (condition, r)) : Passes cs r ∧ Said default condition := by
  unfold body? at read
  split at read
  · split at read
    · next closing =>
      cases read
      exact ⟨(Passes.plain _ rfl).trans (.mark closing rfl), nofun⟩
    · simp only [Option.bind_eq_bind, Option.bind_eq_some_iff, Prod.exists] at read
      obtain ⟨e, rest, read, closed⟩ := read
      have inner := condition?_reads read
      split at closed
      · next closing =>
        cases closed
        refine ⟨(Passes.plain _ rfl).trans ((Passes.skip _).trans
          (inner.passes.trans (.mark closing rfl))), ?_⟩
        intro c same
        cases same
        exact .inl inner.readable
      · exact absurd closed nofun
  · simp only [Option.bind_eq_bind, Option.bind_eq_some_iff, Prod.exists, Option.some.injEq,
      Prod.mk.injEq] at read
    obtain ⟨value, rest, read, rfl, rfl⟩ := read
    refine ⟨Passes.literal read, ?_⟩
    intro c same
    cases same
    exact .inr ⟨_, rfl, by simpa using Quoted.isWhole_of_literal? read⟩

def Draft.Settles (default : String) (d : Draft) : Prop :=
  ∀ t, d.settle = .ok t → t.Readable default

theorem token?_reads {default : String} {cs r : List Char} {d : Draft}
    (read : token? default cs = some (d, r)) : Passes cs r ∧ d.Settles default := by
  simp only [token?, Option.bind_eq_bind, Option.bind_eq_some_iff, Prod.exists, Option.some.injEq,
    Prod.mk.injEq] at read
  obtain ⟨leadingTag, r1, first, condition, r2, second, mark, r3, third, trailingTag, r4, fourth,
    rfl, rfl⟩ := read
  obtain ⟨toLeading, leading⟩ := leading?_reads first
  obtain ⟨toBody, said⟩ := body?_reads second
  have marked := mark?_reads third
  obtain ⟨toTrailing, trailing⟩ := trailing?_reads fourth
  constructor
  · exact toLeading.trans ((Passes.skip _).trans (toBody.trans ((Passes.skip _).trans
      (marked.passes.trans ((Passes.skip _).trans toTrailing)))))
  · intro t settled
    cases settledMark : mark.settle with
    | error e => simp [Draft.settle, settledMark, bind, Except.bind] at settled
    | ok bounds =>
      obtain ⟨optional, repeats⟩ := bounds
      simp only [Draft.settle, settledMark, bind, Except.bind, Except.ok.injEq] at settled
      subst settled
      have shaped := Mark.settle_ok marked.digits settledMark
      rw [Bool.and_eq_true] at shaped
      exact ⟨by rw [Token.isFramed, shaped.1, shaped.2, leading, trailing]; rfl, said⟩

theorem within?_reads {cs r : List Char} {name : String} (read : within? cs = some (name, r)) :
    Passes cs r ∧ isName isTagChar name.toList := by
  unfold within? at read
  split at read
  · have word (rest : List Char) : Passes ('w' :: 'i' :: 't' :: 'h' :: 'i' :: 'n' :: rest) rest :=
      rfl
    split at read
    · next opening =>
      simp only [Option.bind_eq_bind, Option.bind_eq_some_iff, Prod.exists] at read
      obtain ⟨letters, rest, named, closed⟩ := read
      obtain ⟨shape, toName⟩ := Quoted.isName_of_name? isPlain_of_isTagChar named
      have passed := (word _).trans ((Passes.mark opening rfl).trans ((Passes.skip _).trans toName))
      split at closed
      · next closing =>
        cases closed
        exact ⟨passed.trans (.mark closing rfl), by simpa using shape⟩
      · next slash =>
        split at closed
        · next closing =>
          cases closed
          have toEnd := passed.trans ((Passes.mark slash rfl).trans (.mark closing rfl))
          exact ⟨toEnd, by simpa using shape⟩
        · exact absurd closed nofun
      · exact absurd closed nofun
    · exact absurd read nofun
  · exact absurd read nofun

structure ReadsAll (default : String) (cs : List Char) (ds : List Draft)
    (context : Option String) : Prop where
  passes : Passes cs []
  filled : ds ≠ []
  settles : ∀ d ∈ ds, d.Settles default
  within : context.all fun name => isName isTagChar name.toList

theorem drafts?_reads {default : String} {n : Nat} {cs : List Char} {ds : List Draft}
    {context : Option String} (read : drafts? default n cs = some (ds, context)) :
    ReadsAll default cs ds context := by
  induction n generalizing cs ds context with
  | zero => exact absurd read nofun
  | succ n ih =>
    simp only [drafts?, Option.bind_eq_bind, Option.bind_eq_some_iff, Prod.exists] at read
    obtain ⟨d, r, first, read⟩ := read
    obtain ⟨toToken, settles⟩ := token?_reads first
    have toNext := toToken.trans (Passes.skip r)
    split at read
    · next ended =>
      cases read
      refine ⟨ended ▸ toNext, List.cons_ne_nil _ _, ?_, rfl⟩
      simpa using settles
    · next text =>
      simp only [Option.bind_eq_some_iff, Prod.exists, Option.ite_none_right_eq_some,
        Option.some.injEq, Prod.mk.injEq] at read
      obtain ⟨name, rest, named, ended, rfl, rfl⟩ := read
      obtain ⟨toContext, shape⟩ := within?_reads named
      rw [List.isEmpty_iff] at ended
      refine ⟨?_, List.cons_ne_nil _ _, by simpa using settles, by simpa using shape⟩
      exact (text ▸ toNext).trans (toContext.trans (ended ▸ Passes.skip rest))
    · simp only [Option.bind_eq_some_iff, Prod.exists, Option.some.injEq, Prod.mk.injEq] at read
      obtain ⟨rest, name, more, rfl, rfl⟩ := read
      have others := ih more
      refine ⟨toNext.trans others.passes, List.cons_ne_nil _ _, ?_, others.within⟩
      intro e member
      rcases List.mem_cons.mp member with rfl | member
      · exact settles
      · exact others.settles e member

theorem readable_of_settle {default : String} {ds : List Draft} {ts : List Token}
    (settles : ∀ d ∈ ds, d.Settles default) (settled : settle ds = .ok ts) :
    ts.length = ds.length ∧ ∀ t ∈ ts, t.Readable default := by
  induction ds generalizing ts with
  | nil =>
    cases settled
    exact ⟨rfl, nofun⟩
  | cons d ds ih =>
    cases first : d.settle with
    | error e => simp [settle, first, bind, Except.bind] at settled
    | ok t =>
      cases others : settle ds with
      | error e => simp [settle, first, others, bind, Except.bind] at settled
      | ok us =>
        simp only [settle, first, others, bind, Except.bind, Except.ok.injEq] at settled
        subst settled
        obtain ⟨long, readable⟩ := ih (fun e member => settles e (List.mem_cons_of_mem d member))
          others
        refine ⟨by rw [List.length_cons, List.length_cons, long], ?_⟩
        intro u member
        rcases List.mem_cons.mp member with rfl | member
        · exact settles d List.mem_cons_self u first
        · exact readable u member

theorem read_accepted {default : String} {cs : List Char} {p : Pattern}
    (accepted : read default cs = .ok p) : Passes cs [] ∧ p.Readable default := by
  cases drafts : drafts? default (cs.length + 1) (skip cs) with
  | none => simp [read, drafts] at accepted
  | some found =>
    obtain ⟨ds, context⟩ := found
    have all := drafts?_reads drafts
    cases settled : settle ds with
    | error e => simp [read, drafts, settled, Except.map] at accepted
    | ok ts =>
      simp only [read, drafts, settled, Except.map, Except.ok.injEq] at accepted
      subst accepted
      obtain ⟨long, readable⟩ := readable_of_settle all.settles settled
      have filled : ts ≠ [] := by
        intro none
        rw [none, List.length_nil] at long
        exact all.filled (List.length_eq_zero_iff.mp long.symm)
      exact ⟨(Passes.skip _).trans all.passes, filled, readable, all.within⟩

end Pattern.Reader

theorem Pattern.parse_accepted {text default : String} {p : Pattern}
    (accepted : parse text default = .ok p) :
    Passes (Text.trim text.toList) [] ∧ (p.tokens ≠ [] → p.Readable default) := by
  cases trimmed : Text.trim text.toList with
  | nil =>
    rw [parse, trimmed] at accepted
    cases accepted
    exact ⟨.rfl, fun filled => absurd rfl filled⟩
  | cons c cs =>
    simp only [parse, trimmed] at accepted
    cases read : Reader.read default (c :: cs) with
    | error e => simp [read, Except.mapError] at accepted
    | ok q =>
      simp only [read, Except.mapError, Except.ok.injEq] at accepted
      subst accepted
      obtain ⟨passes, readable⟩ := Reader.read_accepted read
      exact ⟨passes, fun _ => readable⟩

end Concordance
