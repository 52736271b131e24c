import Concordance.Proofs.Filter.RoundTrip
import Concordance.Proofs.Text.Quotation

/-! Filters that were read from a text are written so that they are read as the same again. -/

namespace Concordance

namespace Filter.Reader

open Text (isName)

theorem isRun_cons {c : Char} {cs : List Char} (bare : isBareChar c) (run : isRun cs) :
    isRun (c :: cs) := by
  cases cs with
  | nil => exact bare
  | cons d cs =>
    have noBackslash : c ≠ '\\' := by
      rintro rfl
      cases bare
    rw [isRun, if_neg noBackslash, bare, Bool.true_and]
    exact run

theorem isRun_bareRun (cs : List Char) : isRun (bareRun cs).1 := by
  fun_induction bareRun cs with
  | case1 => rfl
  | case2 c bare => exact bare
  | case3 c other => rfl
  | case4 cs => rfl
  | case5 d cs feed s r run ih =>
    rw [run] at ih
    rw [isRun, if_pos rfl, Bool.and_eq_true]
    exact ⟨bne_iff_ne.mpr feed, ih⟩
  | case6 c d cs escape bare s r run ih =>
    rw [run] at ih
    exact isRun_cons bare ih
  | case7 => rfl

theorem head?_bareRun (cs : List Char) : ∀ c ∈ (bareRun cs).1.head?, c ∈ cs.head? := by
  fun_cases bareRun cs <;> simp_all

theorem isBare_of_bare? {cs s r : List Char} (read : bare? cs = some (s, r)) : isBare s := by
  obtain ⟨found, filled, noSign⟩ := bare?_eq_some_iff.mp read
  have run := isRun_bareRun cs
  have head := head?_bareRun cs
  rw [found] at run head
  rw [isBare, Bool.and_eq_true, Bool.and_eq_true, Bool.not_eq_true', List.isEmpty_eq_false_iff,
    bne_iff_ne]
  exact ⟨⟨filled, fun sign => noSign (head '+' sign)⟩, run⟩

structure IsClause (c : Clause) : Prop where
  name : isName isFieldChar c.field.toList
  bounds : c.isRange → ∃ low high, c.values = [String.ofList low, String.ofList high] ∧
    isBare low ∧ isBare high

theorem range?_bare {cs low high r : List Char} (read : range? cs = some ((low, high), r)) :
    isBare low ∧ isBare high := by
  simp only [range?, Option.bind_eq_bind, Option.bind_eq_some_iff, Prod.exists] at read
  obtain ⟨low', rest, first, read⟩ := read
  split at read
  · simp only [Option.bind_eq_some_iff, Prod.exists] at read
    obtain ⟨high', rest', second, read⟩ := read
    split at read
    · cases read
      exact ⟨isBare_of_bare? first, isBare_of_bare? second⟩
    · cases read
  · cases read

theorem value?_bounds {cs r : List Char} {values : List String} {isRange : Bool}
    (read : value? cs = some ((values, isRange), r)) (range : isRange) :
    ∃ low high, values = [String.ofList low, String.ofList high] ∧ isBare low ∧ isBare high := by
  unfold value? at read
  split at read
  · simp only [Option.bind_eq_bind, Option.bind_eq_some_iff, Prod.exists] at read
    obtain ⟨ts, rest, -, read⟩ := read
    cases read
    cases range
  · simp only [Option.bind_eq_bind, Option.bind_eq_some_iff, Prod.exists] at read
    obtain ⟨low, high, rest, found, read⟩ := read
    cases read
    exact ⟨low, high, rfl, range?_bare found⟩
  · simp only [Option.bind_eq_bind, Option.bind_eq_some_iff, Prod.exists] at read
    obtain ⟨t, rest, -, read⟩ := read
    cases read
    cases range

theorem isPlain_of_isFieldChar (c : Char) (h : isFieldChar c) : Quoted.isPlain c := by
  simp only [isFieldChar, Bool.or_eq_true, beq_iff_eq] at h
  rcases h with name | rfl
  · simp only [Quoted.isPlain, Bool.and_eq_true, bne_iff_ne, ne_eq]
    refine ⟨⟨?_, ?_⟩, ?_⟩ <;> rintro rfl <;> exact absurd name (by decide)
  · rfl

theorem clause?_isClause {cs r : List Char} {c : Clause} (read : clause? cs = some (c, r)) :
    IsClause c := by
  simp only [clause?, Option.bind_eq_bind, Option.bind_eq_some_iff, Prod.exists] at read
  obtain ⟨name, rest, named, read⟩ := read
  have shape := (Quoted.isName_of_name? isPlain_of_isFieldChar named).1
  split at read
  · simp only [Option.bind_eq_some_iff, Prod.exists] at read
    obtain ⟨values, isRange, rest', found, read⟩ := read
    cases read
    exact ⟨by rwa [String.toList_ofList], value?_bounds found⟩
  · cases read

theorem clauses?_isClause {n : Nat} {cs : List Char} {clauses : List Clause}
    (read : clauses? n cs = some clauses) : ∀ c ∈ clauses, IsClause c := by
  induction n generalizing cs clauses with
  | zero => cases read
  | succ n ih =>
    unfold clauses? at read
    split at read
    · cases read
      exact nofun
    · simp only [Option.bind_eq_bind, Option.bind_eq_some_iff, Prod.exists] at read
      obtain ⟨c, rest, first, others, later, read⟩ := read
      cases read
      exact List.forall_mem_cons.mpr ⟨clause?_isClause first, ih later⟩

end Filter.Reader

namespace FilterValue

theorem isActive_iff {f : FilterValue} : f.isActive ↔ ∃ v ∈ f.values, Text.trim v.toList ≠ [] := by
  simp [isActive, List.any_eq_true]

theorem ne_empty_of_trim {v : String} (shown : Text.trim v.toList ≠ []) : v.isEmpty = false := by
  rw [← Text.isEmpty_toList, List.isEmpty_eq_false_iff]
  intro empty
  rw [empty] at shown
  exact shown rfl

end FilterValue

namespace Filter

open Reader

variable {fields : Keyed Field}

structure IsRead (fields : Keyed Field) (f : FilterValue) : Prop extends IsWritable fields f where
  bounded : f.kind = .range → f.values.length ≤ 2

theorem isRead_clause {c : Clause} (shape : IsClause c) {d : Field}
    (declared : fields.get? c.field = some d) (fits : c.isRange = (d.kind == .range)) :
    IsRead fields ⟨c.field, d.kind, decodeValues d.kind c.values⟩ where
  name := shape.name
  declared := ⟨d, declared, rfl⟩
  bounds := by
    intro range
    have range : d.kind = .range := range
    obtain ⟨low, high, values, bareLow, bareHigh⟩ := shape.bounds (by rw [fits, range]; rfl)
    have shown {b : List Char} (bare : isBare b) :
        (if b = openBound then "" else String.ofList b) = "" ∨
          isBare (if b = openBound then "" else String.ofList b).toList ∧
            (if b = openBound then "" else String.ofList b).toList ≠ openBound := by
      by_cases here : b = openBound
      · exact .inl (if_pos here)
      · rw [if_neg here, String.toList_ofList]
        exact .inr ⟨bare, here⟩
    simp only [range, decodeValues, values, List.map_cons, List.map_nil, String.toList_ofList,
      List.take_succ_cons, List.take_zero, List.forall_mem_cons]
    exact ⟨shown bareLow, shown bareHigh, List.forall_mem_nil _⟩
  bounded := by
    intro range
    have range : d.kind = .range := range
    obtain ⟨low, high, values, -⟩ := shape.bounds (by rw [fits, range]; rfl)
    simp [range, decodeValues, values]

theorem of_get?_decodeClauses {clauses : List Clause} {key : String} {f : FilterValue}
    (found : (decodeClauses clauses fields).get? key = some f) :
    ∃ c ∈ clauses, ∃ d, c.field = key ∧ fields.get? key = some d ∧
      c.isRange = (d.kind == .range) ∧ f = ⟨key, d.kind, decodeValues d.kind c.values⟩ := by
  rw [decodeClauses] at found
  revert key f found
  refine List.foldlRecOn clauses _ (motive := fun read : Keyed FilterValue => ∀ {key f},
    read.get? key = some f → ∃ c ∈ clauses, ∃ d, c.field = key ∧ fields.get? key = some d ∧
      c.isRange = (d.kind == .range) ∧ f = ⟨key, d.kind, decodeValues d.kind c.values⟩)
      (fun found => by cases found) ?_
  intro read known c member key f found
  split at found
  · exact known found
  · next d declared =>
    split at found
    · next fits =>
      rcases Keyed.of_get?_insert found with ⟨rfl, rfl⟩ | found
      · exact ⟨c, member, d, rfl, declared, fits, rfl⟩
      · exact known found
    · exact known found

theorem exists_decode (text : Option String) (fields : Keyed Field) :
    ∃ clauses, (∀ c ∈ clauses, IsClause c) ∧ decode text fields = decodeClauses clauses fields := by
  unfold decode
  split
  · exact ⟨[], nofun, rfl⟩
  · split
    · next clauses parsed =>
      unfold parse at parsed
      dsimp only at parsed
      split at parsed
      · next read =>
        cases parsed
        exact ⟨clauses, clauses?_isClause read, rfl⟩
      · cases parsed
    · exact ⟨[], nofun, rfl⟩

theorem isRead_decode {text : Option String} {key : String} {f : FilterValue}
    (found : (decode text fields).get? key = some f) : f.id = key ∧ IsRead fields f := by
  obtain ⟨clauses, shapes, read⟩ := exists_decode text fields
  rw [read] at found
  obtain ⟨c, member, d, rfl, declared, fits, rfl⟩ := of_get?_decodeClauses found
  exact ⟨rfl, isRead_clause (shapes c member) declared fits⟩

variable {f g : FilterValue}

theorem filter_filter_self {α : Type} (p : α → Bool) (vs : List α) :
    (vs.filter p).filter p = vs.filter p := by
  rw [List.filter_filter]
  simp only [Bool.and_self]

theorem clause?_normal (normal : f.normal? = some g) : clause? g = clause? f := by
  cases kind : f.kind with
  | text =>
    simp only [FilterValue.normal?, kind, Option.ite_none_left_eq_some, Option.some.injEq] at normal
    obtain ⟨-, rfl⟩ := normal
    have single (cs : List Char) : Text.spaced [cs] = cs := rfl
    have words := Text.words_spaced fun w =>
      @Text.isWord_of_mem_words (Text.spaced (f.values.map String.toList)) w
    simp only [clause?, kind, List.map_singleton, String.toList_ofList, single, words]
  | combobox =>
    simp only [FilterValue.normal?, kind, Option.ite_none_left_eq_some, Option.some.injEq] at normal
    obtain ⟨-, rfl⟩ := normal
    simp only [clause?, kind, List.filter_map, Function.comp_def, filter_filter_self]
  | select | checkbox | radio =>
    simp only [FilterValue.normal?, kind, Option.ite_none_left_eq_some, Option.some.injEq] at normal
    obtain ⟨-, rfl⟩ := normal
    simp only [clause?, kind, List.filter_map, Function.comp_def, Text.isEmpty_toList,
      filter_filter_self]
  | range =>
    simp only [FilterValue.normal?, kind, Option.ite_none_left_eq_some, Option.some.injEq] at normal
    obtain ⟨-, rfl⟩ := normal
    simp only [clause?, kind]
    rcases f.values with _ | ⟨low, _ | ⟨high, rest⟩⟩
    · rfl
    · cases empty : low.isEmpty <;> simp [bound, empty]
    · simp

theorem words_ne_nil {values : List String} {v : String} (given : v ∈ values)
    (shown : Text.trim v.toList ≠ []) :
    Text.words (Text.spaced (values.map String.toList)) ≠ [] := by
  intro none
  rw [Text.words_eq_nil_iff] at none
  apply shown
  rw [Text.trim_eq_nil_iff]
  intro c member
  exact none c (Text.mem_joined_of_mem (List.mem_map_of_mem given) member)

theorem exists_normal_listed {v : String} (given : v ∈ f.values) (shown : Text.trim v.toList ≠ [])
    {keep : String → Bool} (kept : keep v)
    (normal : f.normal? = if (f.values.filter keep).isEmpty then none else
      some { f with values := f.values.filter keep }) : ∃ g, f.normal? = some g ∧ g.isActive := by
  have member : v ∈ f.values.filter keep := List.mem_filter.mpr ⟨given, kept⟩
  refine ⟨{ f with values := f.values.filter keep }, ?_,
    FilterValue.isActive_iff.mpr ⟨v, member, shown⟩⟩
  rw [normal, List.isEmpty_eq_false_iff.mpr (List.ne_nil_of_mem member), if_neg Bool.false_ne_true]

theorem exists_normal (read : IsRead fields f) (active : f.isActive) :
    ∃ g, f.normal? = some g ∧ g.isActive := by
  obtain ⟨v, given, shown⟩ := FilterValue.isActive_iff.mp active
  have filled := FilterValue.ne_empty_of_trim shown
  cases kind : f.kind with
  | text =>
    have some_word := words_ne_nil given shown
    have word := fun w => @Text.isWord_of_mem_words (Text.spaced (f.values.map String.toList)) w
    have normal : f.normal? = some { f with values := [String.ofList (Text.spaced
        (Text.words (Text.spaced (f.values.map String.toList))))] } := by
      simp only [FilterValue.normal?, kind, List.isEmpty_eq_false_iff.mpr some_word,
        Bool.false_eq_true, if_false]
    refine ⟨_, normal, FilterValue.isActive_iff.mpr ⟨_, List.mem_singleton_self _, ?_⟩⟩
    rw [String.toList_ofList, Text.trim_spaced word]
    exact Text.spaced_ne_nil word some_word
  | combobox =>
    have kept : (!(Text.trim v.toList).isEmpty) = true := by
      rw [List.isEmpty_eq_false_iff.mpr shown]
      rfl
    refine @exists_normal_listed f v given shown (fun v => !(Text.trim v.toList).isEmpty) kept ?_
    simp only [FilterValue.normal?, kind]
  | select | checkbox | radio =>
    have kept : (!v.isEmpty) = true := by
      rw [filled]
      rfl
    refine @exists_normal_listed f v given shown (!·.isEmpty) kept ?_
    simp only [FilterValue.normal?, kind]
  | range =>
    have few := read.bounded kind
    have both : f.values.take 2 = f.values := List.take_of_length_le few
    have asked : (f.values.take 2).all (·.isEmpty) = false := by
      rw [both, List.all_eq_false]
      exact ⟨v, given, by rw [filled]; exact Bool.false_ne_true⟩
    have normal : f.normal? =
        some { f with values := [f.values[0]?.getD "", f.values[1]?.getD ""] } := by
      simp only [FilterValue.normal?, kind, asked, Bool.false_eq_true, if_false]
    refine ⟨_, normal, FilterValue.isActive_iff.mpr ⟨v, ?_, shown⟩⟩
    obtain ⟨i, bound, rfl⟩ := List.getElem_of_mem given
    rcases i with - | - | i
    · simp [List.getElem?_eq_getElem bound]
    · simp [List.getElem?_eq_getElem bound]
    · omega

theorem filterMap_clause?_normal {fs : List FilterValue} (read : ∀ f ∈ fs, IsRead fields f)
    (active : ∀ f ∈ fs, f.isActive) :
    (fs.filterMap FilterValue.normal?).filterMap clause? = fs.filterMap clause? ∧
      ∀ g ∈ fs.filterMap FilterValue.normal?, g.isActive := by
  induction fs with
  | nil => exact ⟨rfl, nofun⟩
  | cons f fs ih =>
    obtain ⟨g, normal, asks⟩ :=
      exists_normal (read f List.mem_cons_self) (active f List.mem_cons_self)
    obtain ⟨clauses, others⟩ := ih (fun h member => read h (List.mem_cons_of_mem f member))
      fun h member => active h (List.mem_cons_of_mem f member)
    rw [List.filterMap_cons_some normal, List.filterMap_cons, List.filterMap_cons, clauses,
      clause?_normal normal]
    exact ⟨rfl, List.forall_mem_cons.mpr ⟨asks, others⟩⟩

theorem encode?_decode (text : Option String) (fields : Keyed Field) :
    encode? ((decode (encode? ((decode text fields).filter (·.isActive)).values) fields).filter
        (·.isActive)).values = encode? ((decode text fields).filter (·.isActive)).values := by
  let fs := ((decode text fields).filter (·.isActive)).values
  have each : ∀ f ∈ fs, f.isActive ∧ IsRead fields f := by
    intro f member
    obtain ⟨e, given, rfl⟩ := List.mem_map.mp member
    obtain ⟨given, active⟩ := List.mem_filter.mp given
    exact ⟨active, (isRead_decode (Keyed.get?_eq_some_iff.mpr given)).2⟩
  have ids : fs.map (·.id) = ((decode text fields).filter (·.isActive)).keys := by
    rw [Keyed.keys, show fs = ((decode text fields).filter (·.isActive)).values from rfl,
      Keyed.values, List.map_map]
    apply List.map_congr_left
    intro e given
    obtain ⟨given, -⟩ := List.mem_filter.mp given
    exact (isRead_decode (Keyed.get?_eq_some_iff.mpr given)).1
  have distinct : (fs.map (·.id)).Nodup := by
    rw [ids]
    exact Keyed.keys_nodup _
  obtain ⟨clauses, active⟩ := filterMap_clause?_normal (fun f member => (each f member).2)
    fun f member => (each f member).1
  have restored := values_decode_encode? distinct fun f member => (each f member).2.toIsWritable
  have values : ((decode (encode? fs) fields).filter (·.isActive)).values =
      fs.filterMap FilterValue.normal? := by
    rw [Keyed.values_filter, restored]
    exact List.filter_eq_self.mpr active
  rw [values, encode?, encode?, clauses]

end Filter

end Concordance
