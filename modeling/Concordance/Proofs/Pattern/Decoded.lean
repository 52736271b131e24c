import Concordance.Proofs.Pattern.Gather

/-! Patterns decoded as values: one of the gathered columns is carried on to the last token, and
then every column is decoded by itself. -/

namespace Concordance.Pattern

variable {corpus : Corpus} {full : String → List (Option String)} {cols : Columns}

theorem isEmpty_of_get? {name : String} {cells : List (Option String)}
    (found : cols.get? name = some cells) : cols.isEmpty = false := by
  have member := Keyed.get?_eq_some_iff.mp found
  exact List.isEmpty_eq_false_iff.mpr (List.ne_nil_of_mem member)

variable (primary : Option String) {n : Nat}

theorem fill_reaching {name : String} {cells : List (Option String)}
    (found : cols.get? name = some cells) (reaches : n ≤ cells.length) :
    fill corpus primary n cols = .ok cols := by
  have long : cols.values.all (·.length < n) = false := by
    rw [List.all_eq_false]
    exact ⟨cells, Keyed.mem_values_iff.mpr ⟨name, found⟩, by simpa using reaches⟩
  simp only [fill, isEmpty_of_get? found, long, Bool.false_and, Bool.and_false,
    Bool.false_eq_true, if_false, pure_bind]

theorem fill_short (short : ∀ name cells, cols.get? name = some cells → cells.length < n)
    {name : String} {cells : List (Option String)} (found : cols.get? name = some cells)
    (splits : (corpus.kindOf name).splitsWords) :
    ∃ carrier before, cols.get? carrier = some before ∧ (corpus.kindOf carrier).splitsWords ∧
      fill corpus primary n cols =
        .ok (cols.insert carrier (before ++ List.replicate (n - before.length) none)) := by
  have all : cols.values.all (·.length < n) = true := by
    rw [List.all_eq_true]
    intro cells member
    obtain ⟨key, found⟩ := Keyed.mem_values_iff.mp member
    exact decide_eq_true (short key cells found)
  have carrying : ∀ key, key ∈ cols.keys.filter (fun key => (corpus.kindOf key).splitsWords) →
      ∃ before, cols.get? key = some before ∧ (corpus.kindOf key).splitsWords := by
    intro key member
    obtain ⟨given, splits⟩ := List.mem_filter.mp member
    obtain ⟨before, found⟩ := Option.isSome_iff_exists.mp (Keyed.isSome_get?_iff.mpr given)
    exact ⟨before, found, splits⟩
  have member : name ∈ cols.keys.filter fun key => (corpus.kindOf key).splitsWords := by
    have given : name ∈ cols.keys := Keyed.isSome_get?_iff.mp (by rw [found]; rfl)
    exact List.mem_filter.mpr ⟨given, splits⟩
  obtain ⟨first, rest, carriers⟩ := List.exists_cons_of_ne_nil (List.ne_nil_of_mem member)
  rw [carriers] at carrying
  have carried (carrier : String) (chosen : carrier ∈ first :: rest)
      (run : fill corpus primary n cols = .ok (cols.insert carrier ((cols.get? carrier).getD [] ++
        List.replicate (n - ((cols.get? carrier).getD []).length) none))) :
      ∃ carrier before, cols.get? carrier = some before ∧ (corpus.kindOf carrier).splitsWords ∧
        fill corpus primary n cols =
          .ok (cols.insert carrier (before ++ List.replicate (n - before.length) none)) := by
    obtain ⟨before, found', splits'⟩ := carrying carrier chosen
    rw [found', Option.getD_some] at run
    exact ⟨carrier, before, found', splits', run⟩
  cases primary with
  | none =>
    apply carried first List.mem_cons_self
    simp only [fill, isEmpty_of_get? found, all, carriers, Bool.false_and, Bool.not_false,
      Bool.and_self, Bool.false_eq_true, if_false, if_true, pure_bind]
  | some p =>
    cases named : (first :: rest).contains p with
    | true =>
      apply carried p (List.contains_iff_mem.mp named)
      simp only [fill, isEmpty_of_get? found, all, carriers, named, Bool.false_and, Bool.not_false,
        Bool.and_self, Bool.false_eq_true, if_false, if_true, pure_bind]
    | false =>
      apply carried first List.mem_cons_self
      simp only [fill, isEmpty_of_get? found, all, carriers, named, Bool.false_and, Bool.not_false,
        Bool.and_self, Bool.false_eq_true, if_false, if_true, pure_bind]

theorem fill_empty (empty : cols.isEmpty) (positive : 0 < n) : fill corpus primary n cols =
    (carrier corpus primary).bind fun name => fill corpus primary n (cols.insert name []) := by
  have started (name : String) : (cols.insert name []).isEmpty = false :=
    isEmpty_of_get? (Keyed.get?_insert_self cols name [])
  have length : (n != 0) = true := by simp [Nat.pos_iff_ne_zero.mp positive]
  cases chosen : carrier corpus primary with
  | error e =>
    simp only [fill, empty, length, chosen, Bool.and_self, if_true, bind, Except.bind]
  | ok name =>
    simp only [fill, empty, length, started, chosen, Bool.and_self, Bool.false_and, Bool.not_false,
      Bool.true_and, Bool.false_eq_true, if_true, if_false, bind, pure, Except.bind, Except.pure]

theorem fill_ok {filled : Columns} (given : cols.isEmpty = false)
    (run : fill corpus primary n cols = .ok filled) :
    filled = cols ∧ (∃ name cells, cols.get? name = some cells ∧ n ≤ cells.length) ∨
      ∃ carrier before, cols.get? carrier = some before ∧ (corpus.kindOf carrier).splitsWords ∧
        filled = cols.insert carrier (before ++ List.replicate (n - before.length) none) := by
  cases long : cols.values.all (·.length < n) with
  | false =>
    rw [List.all_eq_false] at long
    obtain ⟨cells, member, reaches⟩ := long
    obtain ⟨name, found⟩ := Keyed.mem_values_iff.mp member
    have reaches : n ≤ cells.length := by simpa using reaches
    rw [fill_reaching primary found reaches] at run
    exact .inl ⟨(Except.ok.inj run).symm, name, cells, found, reaches⟩
  | true =>
    have short : ∀ name cells, cols.get? name = some cells → cells.length < n := by
      intro name cells found
      have member := Keyed.mem_values_iff.mpr ⟨name, found⟩
      exact of_decide_eq_true (List.all_eq_true.mp long cells member)
    by_cases carried : ∃ name cells, cols.get? name = some cells ∧ (corpus.kindOf name).splitsWords
    · obtain ⟨name, cells, found, splits⟩ := carried
      obtain ⟨carrier, before, found', splits', run'⟩ := fill_short primary short found splits
      rw [run'] at run
      exact .inr ⟨carrier, before, found', splits', (Except.ok.inj run).symm⟩
    · have none : (cols.keys.filter fun name => (corpus.kindOf name).splitsWords) = [] := by
        rw [List.filter_eq_nil_iff]
        intro name member splits
        obtain ⟨cells, found⟩ := Option.isSome_iff_exists.mp (Keyed.isSome_get?_iff.mpr member)
        exact carried ⟨name, cells, found, splits⟩
      simp [fill, given, long, none, pure, Except.pure, bind, Except.bind] at run

structure Settles (full : String → List (Option String)) (n : Nat) (cols : Columns) : Prop where
  cells : ∀ name cells, cols.get? name = some cells → cells = settled (full name)
  filled : ∀ name, cols.get? name ≠ some []
  present : ∀ name, settled (full name) ≠ [] → ∃ cells, cols.get? name = some cells
  short : ∀ name, (full name).length ≤ n

/-- Columns that say of every annotation what its whole column says, but for tokens at the end that
are not constrained; one of them reaches the last token. -/
structure Covered (corpus : Corpus) (full : String → List (Option String)) (n : Nat)
    (cols : Columns) : Prop where
  same : ∀ name cells, cols.get? name = some cells → settled cells = settled (full name)
  skips : ∀ name cells, cols.get? name = some cells →
    (corpus.kindOf name).splitsWords ∨ cells = settled (full name)
  filled : ∀ name, cols.get? name ≠ some []
  present : ∀ name, settled (full name) ≠ [] → ∃ cells, cols.get? name = some cells
  bounded : ∀ name cells, cols.get? name = some cells → cells.length ≤ n
  reaches : ∃ name cells, cols.get? name = some cells ∧ cells.length = n

structure Filled (corpus : Corpus) (full : String → List (Option String)) (n : Nat)
    (cols : Columns) : Prop extends Covered corpus full n cols where
  constrained : ∀ name cells, cols.get? name = some cells → settled (full name) ≠ []

namespace Settles

variable (h : Settles full n cols)
include h

theorem getD_get? (name : String) : (cols.get? name).getD [] = settled (full name) := by
  cases found : cols.get? name with
  | some cells => exact h.cells name cells found
  | none =>
    by_contra other
    obtain ⟨cells, found'⟩ := h.present name (Ne.symm other)
    rw [found] at found'
    cases found'

theorem settled_eq {name : String} {cells : List (Option String)}
    (found : cols.get? name = some cells) : settled cells = settled (full name) := by
  rw [h.cells name cells found]
  exact List.rdropWhile_idempotent _ _

theorem length_le {name : String} {cells : List (Option String)}
    (found : cols.get? name = some cells) : cells.length ≤ n := by
  rw [h.cells name cells found]
  exact (length_settled_le _).trans (h.short name)

theorem covered_of_reaching {name : String} {cells : List (Option String)}
    (found : cols.get? name = some cells) (reaches : n ≤ cells.length) :
    Covered corpus full n cols where
  same _ _ found := h.settled_eq found
  skips key cells found := .inr (h.cells key cells found)
  filled := h.filled
  present := h.present
  bounded _ _ found := h.length_le found
  reaches := ⟨name, cells, found, Nat.le_antisymm (h.length_le found) reaches⟩

theorem covered_of_carrier (positive : 0 < n) {filled : Columns} {carrier : String}
    {before : List (Option String)} (start : (cols.get? carrier).getD [] = before)
    (splits : (corpus.kindOf carrier).splitsWords)
    (carried : filled.get? carrier =
      some (before ++ List.replicate (n - before.length) none))
    (others : ∀ name, name ≠ carrier → filled.get? name = cols.get? name) :
    Covered corpus full n filled := by
  have whole : before = settled (full carrier) := start.symm.trans (h.getD_get? carrier)
  have within : before.length ≤ n := by
    rw [whole]
    exact (length_settled_le _).trans (h.short carrier)
  have reach : (before ++ List.replicate (n - before.length) none).length = n := by
    rw [List.length_append, List.length_replicate]
    omega
  have cases_of {name : String} {cells : List (Option String)}
      (found : filled.get? name = some cells) : name = carrier ∧
        cells = before ++ List.replicate (n - before.length) none ∨
      cols.get? name = some cells := by
    by_cases here : name = carrier
    · subst here
      rw [carried, Option.some.injEq] at found
      exact .inl ⟨rfl, found.symm⟩
    · rw [others name here] at found
      exact .inr found
  constructor
  · intro name cells found
    rcases cases_of found with ⟨rfl, rfl⟩ | found
    · rw [settled_pad, whole]
      exact List.rdropWhile_idempotent _ _
    · exact h.settled_eq found
  · intro name cells found
    rcases cases_of found with ⟨rfl, -⟩ | found
    · exact .inl splits
    · exact .inr (h.cells name cells found)
  · intro name empty
    rcases cases_of empty with ⟨-, empty⟩ | found
    · rw [← empty, List.length_nil] at reach
      omega
    · exact h.filled name found
  · intro name constrained
    by_cases here : name = carrier
    · subst here
      exact ⟨_, carried⟩
    · rw [others name here]
      exact h.present name constrained
  · intro name cells found
    rcases cases_of found with ⟨-, rfl⟩ | found
    · exact reach.le
    · exact h.length_le found
  · exact ⟨carrier, _, carried, reach⟩

theorem covered {filled : Columns} (positive : 0 < n)
    (run : fill corpus primary n cols = .ok filled) : Covered corpus full n filled := by
  cases empty : cols.isEmpty with
  | false =>
    rcases fill_ok primary empty run with ⟨rfl, name, cells, found, reaches⟩ |
      ⟨carrier, before, found, splits, rfl⟩
    · exact h.covered_of_reaching found reaches
    · exact h.covered_of_carrier positive (by rw [found]; rfl) splits
        (Keyed.get?_insert_self cols carrier _)
        fun name apart => Keyed.get?_insert_of_ne cols _ apart
  | true =>
    rw [fill_empty primary empty positive] at run
    cases chosen : carrier corpus primary with
    | error e =>
      rw [chosen] at run
      cases run
    | ok name =>
      rw [chosen] at run
      have run : fill corpus primary n (cols.insert name []) = .ok filled := run
      have absent (key : String) : cols.get? key = none := by
        rw [Keyed.get?, List.isEmpty_iff.mp empty]
        rfl
      have started := isEmpty_of_get? (Keyed.get?_insert_self cols name [])
      have only {key : String} {cells : List (Option String)}
          (found : (cols.insert name []).get? key = some cells) : key = name ∧ cells = [] := by
        rcases Keyed.of_get?_insert found with same | found
        · exact same
        · rw [absent key] at found
          cases found
      rcases fill_ok primary started run with ⟨-, key, cells, found, reaches⟩ |
        ⟨carrier, before, found, splits, rfl⟩
      · obtain ⟨-, rfl⟩ := only found
        exact absurd reaches (Nat.not_le.mpr positive)
      · obtain ⟨rfl, rfl⟩ := only found
        refine h.covered_of_carrier positive (by rw [absent]; rfl) splits
          (Keyed.get?_insert_self _ carrier _) fun key apart => ?_
        rw [Keyed.get?_insert_of_ne _ _ apart, Keyed.get?_insert_of_ne _ _ apart]

end Settles

section

variable (gathered : Gathered full n cols) (long : ∀ name, (full name).length ≤ n)
include gathered long

theorem Gathered.get?_whole (name : String) : cols.get? name =
    if settled (full name) = [] then none else some (settled (full name)) := by
  have whole : (full name).take n = full name := List.take_of_length_le (long name)
  rw [gathered.get? name, whole]

theorem Gathered.eq_settled {name : String} {cells : List (Option String)}
    (found : cols.get? name = some cells) :
    settled (full name) ≠ [] ∧ cells = settled (full name) := by
  rw [gathered.get?_whole long name] at found
  split at found
  · cases found
  · next constrained => exact ⟨constrained, (Option.some.inj found).symm⟩

theorem Gathered.settles : Settles full n cols where
  cells name cells found := (gathered.eq_settled long found).2
  filled := gathered.filled
  present name constrained := ⟨settled (full name), by
    rw [gathered.get?_whole long, if_neg constrained]⟩
  short := long

theorem Gathered.filled_of_reaching {name : String} {cells : List (Option String)}
    (found : cols.get? name = some cells) (reaches : cells.length = n) :
    Filled corpus full n cols where
  toCovered := (gathered.settles long).covered_of_reaching found reaches.ge
  constrained _ _ found := (gathered.eq_settled long found).1

theorem Gathered.filled_of_carrier {carrier : String} {before : List (Option String)}
    (found : cols.get? carrier = some before) (splits : (corpus.kindOf carrier).splitsWords) :
    Filled corpus full n
      (cols.insert carrier (before ++ List.replicate (n - before.length) none)) where
  toCovered := by
    have nonempty : 0 < before.length := by
      rw [List.length_pos_iff]
      rintro rfl
      exact gathered.filled carrier found
    have settles := gathered.settles long
    exact settles.covered_of_carrier (nonempty.trans_le (settles.length_le found))
      (by rw [found]; rfl) splits (Keyed.get?_insert_self cols carrier _)
      fun name apart => Keyed.get?_insert_of_ne cols _ apart
  constrained name cells given := by
    rcases Keyed.of_get?_insert given with ⟨rfl, -⟩ | given
    · exact (gathered.eq_settled long found).1
    · exact (gathered.eq_settled long given).1

/-- The columns of all tokens are filled up to the last token, if the longest column constrains some
token and may skip tokens unless it constrains its last one. Nothing is filled where every column
ends in a constraint. -/
theorem Gathered.fill (primary : Option String) {widest : String}
    (longest : (full widest).length = n) (constrained : settled (full widest) ≠ [])
    (skips : (corpus.kindOf widest).splitsWords ∨ settled (full widest) = full widest) :
    ∃ filled, Pattern.fill corpus primary n cols = .ok filled ∧ Filled corpus full n filled ∧
      ((∀ name, settled (full name) = full name) →
        ∀ name cells, filled.get? name = some cells → cells = full name) := by
  by_cases reached : ∃ name cells, cols.get? name = some cells ∧ cells.length = n
  · obtain ⟨name, cells, found, reaches⟩ := reached
    refine ⟨cols, fill_reaching primary found reaches.ge,
      gathered.filled_of_reaching long found reaches, ?_⟩
    intro whole key cells found
    rw [(gathered.eq_settled long found).2, whole]
  · have found : cols.get? widest = some (settled (full widest)) := by
      rw [gathered.get?_whole long, if_neg constrained]
    have open_end : settled (full widest) ≠ full widest := by
      intro whole
      exact reached ⟨widest, _, found, by rw [whole, longest]⟩
    have short : ∀ name cells, cols.get? name = some cells → cells.length < n := by
      intro name cells found
      exact lt_of_le_of_ne ((gathered.settles long).length_le found)
        fun same => reached ⟨name, cells, found, same⟩
    obtain ⟨carrier, before, found', splits, run⟩ :=
      fill_short primary short found (skips.resolve_right open_end)
    exact ⟨_, run, gathered.filled_of_carrier long found' splits,
      fun whole => absurd (whole widest) open_end⟩

end

theorem decodeColumns_of_all {entries : List (String × List (Option String))}
    (all : ∀ e ∈ entries, ∃ v, AnnotationValue.decode e.1 e.2 (corpus.kindOf e.1) = .ok v) :
    ∃ ds, decodeColumns corpus entries = .ok ds ∧ List.Forall₂ (fun e d =>
      d.1 = e.1 ∧ AnnotationValue.decode e.1 e.2 (corpus.kindOf e.1) = .ok d.2) entries ds := by
  induction entries with
  | nil => exact ⟨[], rfl, .nil⟩
  | cons e entries ih =>
    obtain ⟨v, decoded⟩ := all e List.mem_cons_self
    obtain ⟨ds, rest, related⟩ := ih fun d member => all d (List.mem_cons_of_mem e member)
    refine ⟨(e.1, v) :: ds, ?_, .cons ⟨rfl, decoded⟩ related⟩
    rw [decodeColumns, decoded, rest]
    rfl

theorem names_decoded {entries : List (String × List (Option String))}
    {ds : List (String × AnnotationValue)} (related : List.Forall₂ (fun e d =>
      d.1 = e.1 ∧ AnnotationValue.decode e.1 e.2 (corpus.kindOf e.1) = .ok d.2) entries ds) :
    ds.map (·.1) = entries.map (·.1) := by
  induction related with
  | nil => rfl
  | cons head related ih => rw [List.map_cons, List.map_cons, head.1, ih]

theorem mem_decoded_iff {entries : List (String × List (Option String))}
    {ds : List (String × AnnotationValue)} (related : List.Forall₂ (fun e d =>
      d.1 = e.1 ∧ AnnotationValue.decode e.1 e.2 (corpus.kindOf e.1) = .ok d.2) entries ds)
    (name : String) (v : AnnotationValue) : (name, v) ∈ ds ↔
      ∃ cells, (name, cells) ∈ entries ∧
        AnnotationValue.decode name cells (corpus.kindOf name) = .ok v := by
  induction related with
  | nil => simp
  | cons head related ih =>
    next e d entries ds =>
    obtain ⟨key, cells⟩ := e
    obtain ⟨key', w⟩ := d
    obtain ⟨same, decoded⟩ := head
    dsimp only at same decoded
    subst same
    rw [List.mem_cons, ih]
    constructor
    · intro either
      rcases either with here | ⟨others, member, found⟩
      · cases here
        exact ⟨cells, List.mem_cons_self, decoded⟩
      · exact ⟨others, List.mem_cons_of_mem _ member, found⟩
    · intro ⟨others, member, found⟩
      rcases List.mem_cons.mp member with here | member
      · cases here
        rw [decoded] at found
        exact .inl (by rw [Except.ok.inj found])
      · exact .inr ⟨others, member, found⟩

theorem decodeColumns_ok {entries : List (String × List (Option String))}
    {ds : List (String × AnnotationValue)} (run : decodeColumns corpus entries = .ok ds) :
    List.Forall₂ (fun e d =>
      d.1 = e.1 ∧ AnnotationValue.decode e.1 e.2 (corpus.kindOf e.1) = .ok d.2) entries ds := by
  induction entries generalizing ds with
  | nil =>
    cases run
    exact .nil
  | cons e entries ih =>
    cases decoded : AnnotationValue.decode e.1 e.2 (corpus.kindOf e.1) with
    | error skipped =>
      simp [decodeColumns, decoded, Except.mapError, bind, Except.bind] at run
    | ok v =>
      cases others : decodeColumns corpus entries with
      | error skipped =>
        simp [decodeColumns, decoded, others, Except.mapError, bind, Except.bind] at run
      | ok vs =>
        simp only [decodeColumns, decoded, others, Except.mapError, bind, Except.bind,
          Except.ok.injEq] at run
        subst run
        exact .cons ⟨rfl, decoded⟩ (ih others)

theorem exists_of_mem_decoded {entries : List (String × List (Option String))}
    {ds : List (String × AnnotationValue)} (related : List.Forall₂ (fun e d =>
      d.1 = e.1 ∧ AnnotationValue.decode e.1 e.2 (corpus.kindOf e.1) = .ok d.2) entries ds)
    {e : String × List (Option String)} (member : e ∈ entries) :
    ∃ v, AnnotationValue.decode e.1 e.2 (corpus.kindOf e.1) = .ok v := by
  induction related with
  | nil => exact absurd member List.not_mem_nil
  | cons head related ih =>
    rcases List.mem_cons.mp member with rfl | member
    · exact ⟨_, head.2⟩
    · exact ih member

theorem get?_decoded_iff {filled : Columns} {ds : List (String × AnnotationValue)}
    (related : List.Forall₂ (fun e d =>
      d.1 = e.1 ∧ AnnotationValue.decode e.1 e.2 (corpus.kindOf e.1) = .ok d.2) filled.entries ds)
    (name : String) (v : AnnotationValue) : (Keyed.ofList ds).get? name = some v ↔
      ∃ cells, filled.get? name = some cells ∧
        AnnotationValue.decode name cells (corpus.kindOf name) = .ok v := by
  have entries : (Keyed.ofList ds).entries = ds := by
    apply Keyed.entries_ofList
    rw [names_decoded related]
    exact filled.nodup
  rw [Keyed.get?_eq_some_iff, entries, mem_decoded_iff related]
  simp only [Keyed.get?_eq_some_iff]

theorem values_of_filled {p : Pattern} {cols filled : Columns}
    (gathered : gatherTokens corpus 0 p.tokens ∅ = .ok cols)
    (run : fill corpus primary p.tokens.length cols = .ok filled)
    (all : ∀ name cells, filled.get? name = some cells →
      ∃ v, AnnotationValue.decode name cells (corpus.kindOf name) = .ok v) :
    ∃ decoded, p.values corpus primary = .ok decoded ∧ ∀ name v, decoded.get? name = some v ↔
      ∃ cells, filled.get? name = some cells ∧
        AnnotationValue.decode name cells (corpus.kindOf name) = .ok v := by
  have each : ∀ e ∈ filled.entries,
      ∃ v, AnnotationValue.decode e.1 e.2 (corpus.kindOf e.1) = .ok v :=
    fun e member => all e.1 e.2 (Keyed.get?_eq_some_iff.mpr member)
  obtain ⟨ds, decoded, related⟩ := decodeColumns_of_all each
  refine ⟨.ofList ds, ?_, get?_decoded_iff related⟩
  simp only [values, gathered, run, decoded, bind, Except.bind]

theorem values_ok {p : Pattern} {decoded : Keyed AnnotationValue}
    (run : p.values corpus primary = .ok decoded) {cols : Columns}
    (gathered : gatherTokens corpus 0 p.tokens ∅ = .ok cols) :
    ∃ filled, fill corpus primary p.tokens.length cols = .ok filled ∧
      (∀ name cells, filled.get? name = some cells →
        ∃ v, AnnotationValue.decode name cells (corpus.kindOf name) = .ok v) ∧
      ∀ name v, decoded.get? name = some v ↔ ∃ cells, filled.get? name = some cells ∧
        AnnotationValue.decode name cells (corpus.kindOf name) = .ok v := by
  cases fills : fill corpus primary p.tokens.length cols with
  | error e => simp [values, gathered, fills, bind, Except.bind] at run
  | ok filled =>
    cases decodes : decodeColumns corpus filled.entries with
    | error e => simp [values, gathered, fills, decodes, bind, Except.bind] at run
    | ok ds =>
      simp only [values, gathered, fills, decodes, bind, Except.bind, Except.ok.injEq] at run
      subst run
      have related := decodeColumns_ok decodes
      refine ⟨filled, rfl, ?_, get?_decoded_iff related⟩
      intro name cells found
      have decodes := exists_of_mem_decoded related (Keyed.get?_eq_some_iff.mp found)
      exact decodes

end Concordance.Pattern
