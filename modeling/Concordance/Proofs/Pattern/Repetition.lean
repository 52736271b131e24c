import Mathlib.Data.List.TakeDrop
import Concordance.Pattern.Printer
import Concordance.Pattern.Reader
import Concordance.Proofs.Numeral
import Concordance.Proofs.Text.Skip

/-! Reading how often a word is repeated: the five ways of writing it are told apart by their first
characters, and their counts come back as they were. -/

namespace Concordance

open Text (skip)

/-- Bounds that can be written: no negative ones, in order, and not longer than counts may be. -/
def Repeat.isWritable (r : Repeat) : Bool :=
  0 ≤ r.least && r.most.all (r.least ≤ ·) &&
    (Numeral.signed r.least).length ≤ Numeral.maxDigits &&
    r.most.all (fun m => (Numeral.signed m).length ≤ Numeral.maxDigits)

namespace Pattern.Reader

def StartsNoMark (rest : List Char) : Prop :=
  ∀ c ∈ (skip rest).head?, c ≠ '?' ∧ c ≠ '*' ∧ c ≠ '+' ∧ c ≠ '\x7b'

theorem isSpacing_of_isDigit {c : Char} (h : c.isDigit) : Text.isSpacing c = false := by
  cases hs : Text.isSpacing c with
  | false => rfl
  | true =>
    simp only [Text.isSpacing, Bool.or_eq_true, beq_iff_eq] at hs
    rcases hs with (((rfl | rfl) | rfl) | rfl) | rfl <;> exact absurd h (by decide)

theorem decimal_head (n : Nat) : ∃ c cs, Numeral.decimal n = c :: cs ∧ c.isDigit := by
  cases text : Numeral.decimal n with
  | nil => exact absurd text (Numeral.decimal_ne_nil n)
  | cons c cs =>
    have member : c ∈ Numeral.decimal n := by simp [text]
    exact ⟨c, cs, rfl, Numeral.isDigit_of_mem_decimal member⟩

theorem skip_decimal (n : Nat) (rest : List Char) :
    skip (Numeral.decimal n ++ rest) = Numeral.decimal n ++ rest := by
  obtain ⟨c, cs, text, digit⟩ := decimal_head n
  exact Text.skip_append_of_head rest (by rw [text]; rfl) (isSpacing_of_isDigit digit)

theorem count?_decimal (n : Nat) (rest : List Char) (stop : ∀ c ∈ rest.head?, c.isDigit = false) :
    count? (Numeral.decimal n ++ rest) = some (Numeral.decimal n, rest) := by
  have split : (Numeral.decimal n ++ rest).span Char.isDigit = (Numeral.decimal n, rest) := by
    have run := Text.takeWhile_dropWhile_append (Numeral.decimal n) rest
      (fun c => Numeral.isDigit_of_mem_decimal) stop
    rw [List.span_eq_takeWhile_dropWhile, run.1, run.2]
  obtain ⟨c, cs, text, -⟩ := decimal_head n
  rw [text] at split ⊢
  simp only [count?, split]

theorem settleCount_decimal {n : Nat} (short : (Numeral.decimal n).length ≤ Numeral.maxDigits) :
    settleCount (Numeral.decimal n) = .ok (n : Int) := by
  have value := Numeral.ofDigits_values n
  simp only [Numeral.values] at value
  simp [settleCount, short, value]

theorem mark?_exactly (n : Nat) (rest : List Char) :
    mark? ('\x7b' :: Numeral.decimal n ++ '\x7d' :: rest) =
      some (.exactly (Numeral.decimal n), rest) := by
  have read := count?_decimal n ('\x7d' :: rest) (by intro c same; cases same; decide)
  simp [mark?, skip_decimal, read, Text.skip_cons, Text.isSpacing]

theorem mark?_atLeast (n : Nat) (rest : List Char) :
    mark? ('\x7b' :: Numeral.decimal n ++ ',' :: '\x7d' :: rest) =
      some (.between (Numeral.decimal n) none, rest) := by
  have read := count?_decimal n (',' :: '\x7d' :: rest) (by intro c same; cases same; decide)
  simp [mark?, skip_decimal, read, Text.skip_cons, Text.isSpacing]

theorem mark?_between (n m : Nat) (rest : List Char) :
    mark? ('\x7b' :: Numeral.decimal n ++ ',' :: (Numeral.decimal m ++ '\x7d' :: rest)) =
      some (.between (Numeral.decimal n) (some (Numeral.decimal m)), rest) := by
  have read := count?_decimal n (',' :: (Numeral.decimal m ++ '\x7d' :: rest))
    (by intro c same; cases same; decide)
  have read' := count?_decimal m ('\x7d' :: rest) (by intro c same; cases same; decide)
  obtain ⟨c, cs, text, digit⟩ := decimal_head m
  have noBrace : c ≠ '\x7d' := by
    intro same
    subst same
    exact absurd digit (by decide)
  have skipped := skip_decimal m ('\x7d' :: rest)
  rw [text] at read read' skipped ⊢
  simp only [List.cons_append] at read read' skipped ⊢
  simp [mark?, skip_decimal, read, Text.skip_cons, Text.isSpacing, skipped, noBrace, read']

theorem mark?_none {rest : List Char} (free : StartsNoMark rest) :
    mark? (skip rest) = some (.none, skip rest) := by
  cases text : skip rest with
  | nil => rfl
  | cons c cs =>
    obtain ⟨h1, h2, h3, h4⟩ := free c (by rw [text]; rfl)
    rw [mark?] <;> simp_all

theorem exists_eq_natCast {i : Int} (h : 0 ≤ i) : ∃ n : Nat, i = n := Int.eq_ofNat_of_zero_le h

theorem mark?_repeat {r : Repeat} (h : r.isWritable) (rest : List Char) :
    ∃ k, mark? (r.render ++ rest) = some (k, rest) ∧ k.settle = .ok (false, some r) := by
  obtain ⟨least, most⟩ := r
  simp only [Repeat.isWritable, Bool.and_eq_true, decide_eq_true_eq] at h
  obtain ⟨⟨⟨nonnegative, ordered⟩, shortLeast⟩, shortMost⟩ := h
  obtain ⟨l, rfl⟩ := exists_eq_natCast nonnegative
  cases most with
  | none =>
    by_cases h0 : l = 0
    · exact ⟨.star, by simp [Repeat.render, h0, mark?], by simp [Mark.settle, h0]⟩
    by_cases h1 : (l : Int) = 1
    · exact ⟨.plus, by simp [Repeat.render, h1, mark?], by simp [Mark.settle, h1]⟩
    refine ⟨.between (Numeral.decimal l) none, ?_, ?_⟩
    · have text : (⟨l, none⟩ : Repeat).render = '\x7b' :: Numeral.decimal l ++ [',', '\x7d'] := by
        simp [Repeat.render, h0, h1, Numeral.signed]
      simpa [text] using mark?_atLeast l rest
    · simp only [Mark.settle, settleCount_decimal shortLeast]
      rfl
  | some most =>
    simp only [Option.all_some, decide_eq_true_eq] at ordered shortMost
    obtain ⟨m, rfl⟩ := exists_eq_natCast (Int.le_trans nonnegative ordered)
    by_cases same : (l : Int) = m
    · rw [← same] at shortMost ⊢
      refine ⟨.exactly (Numeral.decimal l), ?_, ?_⟩
      · have text : (⟨l, some l⟩ : Repeat).render = '\x7b' :: Numeral.decimal l ++ ['\x7d'] := by
          simp [Repeat.render, Numeral.signed]
        simpa [text] using mark?_exactly l rest
      · simp only [Mark.settle, settleCount_decimal shortLeast]
        rfl
    · refine ⟨.between (Numeral.decimal l) (some (Numeral.decimal m)), ?_, ?_⟩
      · have text : (⟨l, some m⟩ : Repeat).render =
            '\x7b' :: Numeral.decimal l ++ ',' :: Numeral.decimal m ++ ['\x7d'] := by
          simp [Repeat.render, same, Numeral.signed]
        simpa [text] using mark?_between l m rest
      · have inOrder : ¬ (m : Int) < l := Int.not_lt.mpr ordered
        simp only [Mark.settle, settleCount_decimal shortLeast, settleCount_decimal shortMost]
        simp [bind, Except.bind, inOrder]

end Pattern.Reader

end Concordance
