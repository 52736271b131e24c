import Concordance.Proofs.Filter.Clause
import Concordance.Proofs.Keyed
import Concordance.Proofs.Text.NonEmpty
import Concordance.Proofs.Text.Words

/-! Filters that are written and read again come back in their normal form. -/

namespace Concordance

/-- The filter without what is not written: blank or empty values, the spacing of running text, and
bounds after the second. There is none where the filter asks for nothing. -/
def FilterValue.normal? (f : FilterValue) : Option FilterValue :=
  let kept (vs : List String) := if vs.isEmpty then none else some { f with values := vs }
  match f.kind with
  | .text =>
    let words := Text.words (Text.spaced (f.values.map String.toList))
    if words.isEmpty then none else some { f with values := [String.ofList (Text.spaced words)] }
  | .combobox => kept (f.values.filter fun v => !(Text.trim v.toList).isEmpty)
  | .select | .checkbox | .radio => kept (f.values.filter (!·.isEmpty))
  | .range =>
    if (f.values.take 2).all (·.isEmpty) then none
    else some { f with values := [f.values[0]?.getD "", f.values[1]?.getD ""] }

theorem FilterValue.id_of_normal? {f g : FilterValue} (h : f.normal? = some g) : g.id = f.id := by
  simp only [normal?] at h
  split at h
  all_goals
    split at h
    · exact absurd h nofun
    · rw [← Option.some.inj h]

theorem FilterValue.ids_normal? (fs : List FilterValue) :
    ((fs.filterMap normal?).map (·.id)).Sublist (fs.map (·.id)) := by
  induction fs with
  | nil => exact .refl _
  | cons f fs ih =>
    cases found : f.normal? with
    | none =>
      rw [List.filterMap_cons_none found]
      exact ih.cons f.id
    | some g =>
      rw [List.filterMap_cons_some found, List.map_cons, List.map_cons, id_of_normal? found]
      exact ih.cons_cons f.id

theorem FilterValue.filterMap_normal? {fs : List FilterValue}
    (normal : ∀ f ∈ fs, f.normal? = some f) : fs.filterMap normal? = fs := by
  induction fs with
  | nil => rfl
  | cons f fs ih =>
    rw [List.filterMap_cons_some (normal f List.mem_cons_self),
      ih fun g member => normal g (List.mem_cons_of_mem f member)]

namespace Filter

open Reader

/-- A filter on a declared field whose bounds can be written bare. -/
structure IsWritable (fields : Keyed Field) (f : FilterValue) : Prop where
  name : Text.isName isFieldChar f.id.toList
  declared : ∃ d, fields.get? f.id = some d ∧ d.kind = f.kind
  bounds : f.kind = .range → ∀ v ∈ f.values.take 2, v = "" ∨ isBare v.toList ∧ v.toList ≠ openBound

section Escaping

variable (cs : List Char)

theorem isInside_reserved : IsInside (escapeReserved cs) :=
  inside?_escape (by decide) (by decide) (by decide) cs

theorem isInside_quotes : IsInside (escapeQuotes cs) :=
  inside?_escape (by decide) (by decide) (by decide) cs

theorem isInside_value : IsInside (escapeValue cs) := by
  rw [escapeValue]
  split
  · exact isInside_quotes cs
  · exact isInside_reserved cs

theorem any_isBlank_escape (p : Char → Bool) :
    (Text.escape p cs).any Text.isBlank = cs.any Text.isBlank := by
  have backslash : Text.isBlank '\\' = false := by decide
  induction cs with
  | nil => rfl
  | cons c cs ih =>
    rw [Text.escape]
    split
    · rw [List.any_cons, List.any_cons, ih, backslash, Bool.false_or, List.any_cons]
    · rw [List.any_cons, ih, List.any_cons]

theorem unescapeQuotes_escapeQuotes : unescapeQuotes (escapeQuotes cs) = cs :=
  Text.unescape_escape (by decide) (fun _ h => h) cs

theorem unescapeReserved_escapeReserved : unescapeReserved (escapeReserved cs) = cs :=
  Text.unescape_escape (by decide) (fun _ _ => rfl) cs

/-- Whether a text was escaped as a whole or only against quotes shows in the escaped text. -/
theorem unescapeValue_escapeValue : unescapeValue (escapeValue cs) = cs := by
  cases blank : cs.any Text.isBlank with
  | true =>
    rw [escapeValue, if_pos blank, unescapeValue, escapeQuotes, any_isBlank_escape, if_pos blank]
    exact unescapeQuotes_escapeQuotes cs
  | false =>
    have noBlank : ¬cs.any Text.isBlank = true := by simp only [blank, Bool.false_eq_true,
      not_false_iff]
    rw [escapeValue, if_neg noBlank, unescapeValue, escapeReserved, any_isBlank_escape,
      if_neg noBlank]
    exact unescapeReserved_escapeReserved cs

theorem escapeValue_of_isWord {w : List Char} (word : Text.isWord w) :
    escapeValue w = escapeReserved w := by
  have noBlank : w.any Text.isBlank = false := by
    rw [List.any_eq_false]
    intro c member
    have all := (Bool.and_eq_true_iff.mp word).2
    simpa using List.all_eq_true.mp all c member
  rw [escapeValue, noBlank, if_neg Bool.false_ne_true]

end Escaping

theorem map_toList_ofList (texts : List (List Char)) :
    (texts.map String.ofList).map String.toList = texts := by
  calc (texts.map String.ofList).map String.toList
    _ = texts.map (String.toList ∘ String.ofList) := List.map_map
    _ = texts.map id := List.map_congr_left fun cs _ => String.toList_ofList
    _ = texts := List.map_id texts

theorem reads_listed {id : List Char} (vs : List (List Char)) (name : Text.isName isFieldChar id)
    (some_value : vs ≠ []) (inside : ∀ v ∈ vs, IsInside v) :
    Reads (clauseText id (vs.map quoted))
      ⟨String.ofList id, vs.map String.ofList, true, false⟩ := by
  obtain ⟨v, ws, rfl⟩ := List.exists_cons_of_ne_nil some_value
  cases ws with
  | nil =>
    apply reads_clause name (.between (by decide) (by decide) v) (List.cons_ne_nil _ _)
    intro rest
    exact value?_quoted rest (inside v List.mem_cons_self)
  | cons w ws =>
    have found := fun rest => value?_listed rest some_value inside
    have shape : clauseText id ((v :: w :: ws).map quoted) =
        '+' :: id ++ ':' :: ('(' :: Text.spaced ((v :: w :: ws).map quoted) ++ [')']) := by
      simp [clauseText]
    rw [shape]
    refine reads_clause name (.between (by decide) (by decide) _) (List.cons_ne_nil _ _)
      fun rest => ?_
    rw [List.append_assoc]
    exact found rest

def Restores (text : List Char) (g : FilterValue) : Prop :=
  ∃ c, Reads text c ∧ c.field = g.id ∧ c.isRange = (g.kind == .range) ∧
    decodeValues g.kind c.values = g.values

def Agrees (f : FilterValue) : Prop :=
  clause? f = none ∧ f.normal? = none ∨
    ∃ text g, clause? f = some text ∧ f.normal? = some g ∧ g.id = f.id ∧ g.kind = f.kind ∧
      Restores text g

theorem map_filter_toList (keep : List Char → Bool) (code : List Char → List Char)
    (vs : List String) : ((vs.map String.toList).filter keep).map code =
      (vs.filter (keep ·.toList)).map (code ·.toList) := by
  rw [List.filter_map, List.map_map]
  rfl

theorem isBare_bound {v : Option String} (shape : ∀ s ∈ v, s = "" ∨ isBare s.toList) :
    isBare (bound v) := by
  have openShape : isBare openBound := by decide
  cases v with
  | none => exact openShape
  | some s =>
    rw [bound]
    split
    · exact openShape
    · next filled =>
      rcases shape s rfl with rfl | bare
      · exact absurd rfl filled
      · exact bare

theorem bound_eq {v : Option String}
    (shape : ∀ s ∈ v, s = "" ∨ isBare s.toList ∧ s.toList ≠ openBound) :
    (if bound v = openBound then "" else String.ofList (bound v)) = v.getD "" := by
  cases v with
  | none => exact if_pos rfl
  | some s =>
    rcases shape s rfl with rfl | ⟨bare, closed⟩
    · exact if_pos rfl
    · have some_char : s.isEmpty = false := by
        rw [← Text.isEmpty_toList]
        simp only [isBare, Bool.and_eq_true, Bool.not_eq_true'] at bare
        exact bare.1.1
      have same : bound (some s) = s.toList := by
        rw [bound, some_char, if_neg Bool.false_ne_true]
      rw [same, if_neg closed, String.ofList_toList]
      rfl

theorem clause?_range {f : FilterValue} (kind : f.kind = .range) :
    clause? f = if (f.values.take 2).all (·.isEmpty) then none else
      some ('+' :: f.id.toList ++ ':' :: rangeText (bound f.values[0]?) (bound f.values[1]?)) := by
  have empty_iff : ((f.values.map String.toList).take 2).all (·.isEmpty) =
      (f.values.take 2).all (·.isEmpty) := by
    rw [← List.map_take, List.all_map]
    exact congrArg (f.values.take 2).all (funext Text.isEmpty_toList)
  rw [clause?]
  simp only [kind]
  rw [empty_iff]
  simp [rangeText]

theorem mem_take_two {values : List String} {i : Nat} (small : i < 2) :
    ∀ v ∈ values[i]?, v ∈ values.take 2 := by
  intro v found
  exact List.mem_of_getElem? (i := i) (by rw [List.getElem?_take_of_lt small]; exact found)

theorem reads_range {f : FilterValue} (name : Text.isName isFieldChar f.id.toList)
    (bounds : ∀ v ∈ f.values.take 2, v = "" ∨ isBare v.toList) :
    Reads ('+' :: f.id.toList ++ ':' :: rangeText (bound f.values[0]?) (bound f.values[1]?))
      ⟨f.id, [String.ofList (bound f.values[0]?), String.ofList (bound f.values[1]?)], true,
        true⟩ := by
  have low := isBare_bound fun s found => bounds s (mem_take_two Nat.zero_lt_two s found)
  have high := isBare_bound fun s found => bounds s (mem_take_two Nat.one_lt_two s found)
  have reads := reads_clause name (solid_rangeText _ _) (List.cons_ne_nil _ _)
    fun rest => value?_range rest low high
  rwa [String.ofList_toList] at reads

section Kinds

variable {f : FilterValue} (name : Text.isName isFieldChar f.id.toList)

include name

theorem agrees_text (kind : f.kind = .text) : Agrees f := by
  have word : ∀ w ∈ Text.words (Text.spaced (f.values.map String.toList)), Text.isWord w :=
    fun w => Text.isWord_of_mem_words
  generalize found : Text.words (Text.spaced (f.values.map String.toList)) = ws at word
  cases ws with
  | nil => exact .inl ⟨by simp [clause?, kind, found], by simp [FilterValue.normal?, kind, found]⟩
  | cons w ws =>
    have reads := reads_listed ((w :: ws).map escapeReserved) name (by simp)
      (List.forall_mem_map.mpr fun v _ => isInside_reserved v)
    have restored : ((w :: ws).map escapeReserved).map unescapeValue = w :: ws := by
      have same (v : List Char) (member : v ∈ w :: ws) : unescapeValue (escapeReserved v) = v := by
        rw [← escapeValue_of_isWord (word v member)]
        exact unescapeValue_escapeValue v
      calc ((w :: ws).map escapeReserved).map unescapeValue
        _ = (w :: ws).map (unescapeValue ∘ escapeReserved) := List.map_map
        _ = (w :: ws).map id := List.map_congr_left same
        _ = w :: ws := List.map_id _
    refine .inr ⟨_, ⟨f.id, f.kind, [String.ofList (Text.spaced (w :: ws))]⟩, ?_, ?_, rfl, rfl, _,
      reads, String.ofList_toList, ?_, ?_⟩
    · simp [clause?, kind, found]
    · simp [FilterValue.normal?, kind, found]
    · rw [kind]
      rfl
    · simp only [decodeValues, kind, map_toList_ofList, restored]

theorem agrees_listed (keep : String → Bool) (code : List Char → List Char)
    (clause : clause? f = if (f.values.filter keep).isEmpty then none else
      some (clauseText f.id.toList (((f.values.filter keep).map (code ·.toList)).map quoted)))
    (normal : f.normal? = if (f.values.filter keep).isEmpty then none else
      some { f with values := f.values.filter keep })
    (inside : ∀ cs, IsInside (code cs)) (shape : false = (f.kind == .range))
    (restored : ∀ vs : List String,
      decodeValues f.kind (vs.map fun v => String.ofList (code v.toList)) = vs) : Agrees f := by
  cases empty : (f.values.filter keep).isEmpty with
  | true => exact .inl ⟨by rw [clause, empty]; rfl, by rw [normal, empty]; rfl⟩
  | false =>
    have some_value : (f.values.filter keep).map (code ·.toList) ≠ [] := by
      rw [ne_eq, List.map_eq_nil_iff, ← List.isEmpty_iff, empty]
      exact Bool.false_ne_true
    have reads := reads_listed _ name some_value
      (List.forall_mem_map.mpr fun v _ => inside v.toList)
    refine .inr ⟨_, { f with values := f.values.filter keep }, by rw [clause, empty]; rfl,
      by rw [normal, empty]; rfl, rfl, rfl, _, reads, String.ofList_toList, shape, ?_⟩
    rw [List.map_map]
    exact restored _

theorem agrees_combobox (kind : f.kind = .combobox) : Agrees f := by
  refine agrees_listed name (fun v => !(Text.trim v.toList).isEmpty) escapeValue
    ?_ ?_ isInside_value (by rw [kind]; rfl) fun vs => ?_
  · rw [clause?]
    simp only [kind]
    rw [map_filter_toList, List.isEmpty_map]
  · simp only [FilterValue.normal?, kind]
  · rw [kind]
    simp [decodeValues, Function.comp_def, unescapeValue_escapeValue]

theorem agrees_enumerated (kind : f.kind = .select ∨ f.kind = .checkbox ∨ f.kind = .radio) :
    Agrees f := by
  refine agrees_listed name (!·.isEmpty) escapeQuotes
    ?_ ?_ isInside_quotes ?_ fun vs => ?_
  · rw [clause?]
    rcases kind with kind | kind | kind
    all_goals
      simp only [kind]
      rw [map_filter_toList, List.isEmpty_map]
      simp only [Text.isEmpty_toList]
  · rcases kind with kind | kind | kind <;> simp only [FilterValue.normal?, kind]
  · rcases kind with kind | kind | kind <;> rw [kind] <;> rfl
  · rcases kind with kind | kind | kind <;>
      simp [kind, decodeValues, Function.comp_def, unescapeQuotes_escapeQuotes]

theorem agrees_range (kind : f.kind = .range)
    (bounds : ∀ v ∈ f.values.take 2, v = "" ∨ isBare v.toList ∧ v.toList ≠ openBound) :
    Agrees f := by
  have clause := clause?_range kind
  have normal : f.normal? = if (f.values.take 2).all (·.isEmpty) then none else
      some { f with values := [f.values[0]?.getD "", f.values[1]?.getD ""] } := by
    simp only [FilterValue.normal?, kind]
  have low := bound_eq fun s found => bounds s (mem_take_two Nat.zero_lt_two s found)
  have high := bound_eq fun s found => bounds s (mem_take_two Nat.one_lt_two s found)
  cases empty : (f.values.take 2).all (·.isEmpty) with
  | true => exact .inl ⟨by rw [clause, empty]; rfl, by rw [normal, empty]; rfl⟩
  | false =>
    have reads := reads_range name fun v member => (bounds v member).imp_right And.left
    refine .inr ⟨_, { f with values := [f.values[0]?.getD "", f.values[1]?.getD ""] },
      by rw [clause, empty]; rfl, by rw [normal, empty]; rfl, rfl, rfl, _, reads, rfl,
      by rw [kind]; rfl, ?_⟩
    simp only [decodeValues, kind, List.map_cons, List.map_nil, String.toList_ofList, low, high]

end Kinds

theorem agrees {fields : Keyed Field} {f : FilterValue} (writable : IsWritable fields f) :
    Agrees f := by
  cases kind : f.kind with
  | text => exact agrees_text writable.name kind
  | combobox => exact agrees_combobox writable.name kind
  | select => exact agrees_enumerated writable.name (.inl kind)
  | checkbox => exact agrees_enumerated writable.name (.inr (.inl kind))
  | radio => exact agrees_enumerated writable.name (.inr (.inr kind))
  | range => exact agrees_range writable.name kind (writable.bounds kind)

structure Written where
  text : List Char
  clause : Clause
  filter : FilterValue

structure Written.IsSound (fields : Keyed Field) (w : Written) : Prop where
  reads : Reads w.text w.clause
  field : w.clause.field = w.filter.id
  shape : w.clause.isRange = (w.filter.kind == .range)
  values : decodeValues w.filter.kind w.clause.values = w.filter.values
  declared : ∃ d, fields.get? w.filter.id = some d ∧ d.kind = w.filter.kind

variable {fields : Keyed Field}

theorem exists_written {fs : List FilterValue} (writable : ∀ f ∈ fs, IsWritable fields f) :
    ∃ ws : List Written, fs.filterMap clause? = ws.map (·.text) ∧
      fs.filterMap FilterValue.normal? = ws.map (·.filter) ∧ ∀ w ∈ ws, w.IsSound fields := by
  induction fs with
  | nil => exact ⟨[], rfl, rfl, nofun⟩
  | cons f fs ih =>
    have first := writable f List.mem_cons_self
    obtain ⟨ws, texts, filters, sound⟩ :=
      ih fun g member => writable g (List.mem_cons_of_mem f member)
    rcases agrees first with ⟨unwritten, nothing⟩ | ⟨text, g, written, normal, id, kind, reads⟩
    · refine ⟨ws, ?_, ?_, sound⟩
      · rw [List.filterMap_cons_none unwritten, texts]
      · rw [List.filterMap_cons_none nothing, filters]
    · obtain ⟨c, reads, field, shape, values⟩ := reads
      refine ⟨⟨text, c, g⟩ :: ws, ?_, ?_, ?_⟩
      · rw [List.filterMap_cons_some written, texts, List.map_cons]
      · rw [List.filterMap_cons_some normal, filters, List.map_cons]
      · rintro w (_ | ⟨_, member⟩)
        · exact ⟨reads, field, shape, values, by rw [id, kind]; exact first.declared⟩
        · exact sound w member

theorem decodeClauses_written {ws : List Written} (sound : ∀ w ∈ ws, w.IsSound fields) :
    decodeClauses (ws.map (·.clause)) fields =
      .ofList (ws.map fun w => (w.filter.id, w.filter)) := by
  rw [decodeClauses, Keyed.ofList, List.foldl_map, List.foldl_map]
  change List.foldl _ Keyed.empty ws = _
  generalize Keyed.empty = found
  induction ws generalizing found with
  | nil => rfl
  | cons w ws ih =>
    have first := sound w List.mem_cons_self
    obtain ⟨d, declared, kind⟩ := first.declared
    have fits : w.clause.isRange = (d.kind == .range) := by rw [first.shape, kind]
    rw [List.foldl_cons, List.foldl_cons,
      ← ih fun v member => sound v (List.mem_cons_of_mem w member)]
    simp only [first.field, declared, fits, if_true, kind, first.values]

theorem parse_written {ws : List Written} (sound : ∀ w ∈ ws, w.IsSound fields) :
    parse (String.ofList (Text.spaced (ws.map (·.text)))) = .ok (ws.map (·.clause)) := by
  have named : ∀ text ∈ ws.map (·.text), text ≠ [] := by
    rw [List.forall_mem_map]
    intro w member empty
    have start := (sound w member).reads.start
    rw [empty] at start
    exact absurd start nofun
  have solid : Text.Solid Text.isBlank (Text.spaced (ws.map (·.text))) :=
    Text.solid_spaced named (List.forall_mem_map.mpr fun w member => (sound w member).reads.solid)
  have fuel : (ws.map fun w => (w.text, w.clause)).length <
      (Text.spaced (ws.map (·.text))).length + 1 := by
    have long := Text.length_le_joined ' ' named
    rw [List.length_map] at long ⊢
    exact Nat.lt_succ_of_le long
  have read := clauses?_spaced
    (List.forall_mem_map.mpr fun w member => (sound w member).reads) _ fuel
  rw [List.map_map, List.map_map] at read
  rw [parse, String.toList_ofList, Text.trim, solid.trimBy]
  simp only [Function.comp_def] at read
  rw [read]

theorem entries_decode_encode? {fs : List FilterValue} (distinct : (fs.map (·.id)).Nodup)
    (writable : ∀ f ∈ fs, IsWritable fields f) :
    (decode (encode? fs) fields).entries =
      (fs.filterMap FilterValue.normal?).map fun g => (g.id, g) := by
  obtain ⟨ws, texts, filters, sound⟩ := exists_written writable
  have ids : ((ws.map fun w => (w.filter.id, w.filter)).map (·.1)).Nodup := by
    have names := (FilterValue.ids_normal? fs).nodup distinct
    rw [filters, List.map_map] at names
    rwa [List.map_map]
  have read : decode (encode? fs) fields = decodeClauses (ws.map (·.clause)) fields := by
    rw [encode?, texts]
    cases ws with
    | nil => rfl
    | cons w ws =>
      have parsed := parse_written sound
      rw [List.map_cons] at parsed ⊢
      simp only [decode, parsed]
  rw [read, decodeClauses_written sound, Keyed.entries_ofList ids, filters, List.map_map]
  rfl

theorem values_decode_encode? {fs : List FilterValue} (distinct : (fs.map (·.id)).Nodup)
    (writable : ∀ f ∈ fs, IsWritable fields f) :
    (decode (encode? fs) fields).values = fs.filterMap FilterValue.normal? := by
  rw [Keyed.values, entries_decode_encode? distinct writable, List.map_map]
  exact List.map_id _

theorem exists_parse_encode? {fs : List FilterValue} (writable : ∀ f ∈ fs, IsWritable fields f)
    {text : String} (written : encode? fs = some text) : ∃ clauses, parse text = .ok clauses := by
  obtain ⟨ws, texts, -, sound⟩ := exists_written writable
  rw [encode?, texts] at written
  split at written
  · cases written
  · cases written
    exact ⟨_, parse_written sound⟩

theorem clause?_ne_nil {f : FilterValue} {clause : List Char} (h : clause? f = some clause) :
    clause ≠ [] := by
  have listed {id : List Char} {vs : List (List Char)}
      (h : (if vs.isEmpty then none else some (clauseText id (vs.map quoted))) = some clause) :
      clause ≠ [] := by
    split at h
    · cases h
    · cases h
      unfold clauseText
      split <;> exact List.cons_ne_nil _ _
  rw [clause?] at h
  split at h
  · exact listed h
  · exact listed h
  · exact listed h
  · exact listed h
  · exact listed h
  · split at h
    · cases h
    · cases h
      exact List.cons_ne_nil _ _

theorem encode?_ne_empty (fs : List FilterValue) : encode? fs ≠ some "" := by
  rw [encode?]
  cases clauses : fs.filterMap clause? with
  | nil => nofun
  | cons c cs =>
    obtain ⟨f, -, written⟩ := List.mem_filterMap.mp (clauses ▸ List.mem_cons_self)
    intro same
    have empty := congrArg String.toList (Option.some.inj same)
    rw [String.toList_ofList] at empty
    exact Text.joined_ne_nil cs (clause?_ne_nil written) empty

theorem encode?_eq_none_iff {fs : List FilterValue} :
    encode? fs = none ↔ fs.filterMap clause? = [] := by
  rw [encode?]
  split
  · next empty => exact iff_of_true rfl empty
  · next clauses filled => exact iff_of_false nofun filled

/-- Filters on distinct declared fields come back in their order, each in its normal form, but for
those that ask for nothing; where all of them ask for nothing, nothing is written. -/
theorem filters_restored {fs : List FilterValue} (distinct : (fs.map (·.id)).Nodup)
    (writable : ∀ f ∈ fs, IsWritable fields f) :
    (decode (encode? fs) fields).entries =
        (fs.filterMap FilterValue.normal?).map (fun g => (g.id, g)) ∧
      (encode? fs = none ↔ ∀ f ∈ fs, f.normal? = none) := by
  refine ⟨entries_decode_encode? distinct writable, ?_⟩
  obtain ⟨ws, texts, filters, -⟩ := exists_written writable
  have empty : fs.filterMap clause? = [] ↔ fs.filterMap FilterValue.normal? = [] := by
    rw [texts, filters, List.map_eq_nil_iff, List.map_eq_nil_iff]
  rw [encode?_eq_none_iff, empty, List.filterMap_eq_nil_iff]

def catalogue : Keyed Field :=
  .index Field.id [⟨"title", "Title", .text⟩, ⟨"author", "Author", .combobox⟩,
    ⟨"genre", "Genre", .select⟩, ⟨"source", "", .checkbox⟩, ⟨"year", "Year", .range⟩]

/-- Blanks of several kinds, quotes, backslashes before a line feed, a filter that asks for
nothing, and a range with an open bound, an escaped blank and a bound too many. -/
def requests : List FilterValue :=
  [⟨"title", .text, ["  war\tand ", "peace: \"+1\"\\"]⟩,
    ⟨"author", .combobox, [" ", "O'Brien \"Jr\\\"", "a+b"]⟩, ⟨"source", .checkbox, [""]⟩,
    ⟨"genre", .select, ["", " ", "x\\\n\"y"]⟩, ⟨"year", .range, ["", "19\\ 00", "2000"]⟩]

theorem filters_restored_catalogue :
    (requests.map (·.id)).Nodup ∧ (∀ f ∈ requests, IsWritable catalogue f) ∧
      (decode (encode? requests) catalogue).entries =
        [("title", ⟨"title", .text, ["war and peace: \"+1\"\\"]⟩),
          ("author", ⟨"author", .combobox, ["O'Brien \"Jr\\\"", "a+b"]⟩),
          ("genre", ⟨"genre", .select, [" ", "x\\\n\"y"]⟩),
          ("year", ⟨"year", .range, ["", "19\\ 00"]⟩)] ∧
      encode? requests ≠ none := by
  have distinct : (requests.map (·.id)).Nodup := by decide
  have writable : ∀ f ∈ requests, IsWritable catalogue f := by
    have names : ∀ f ∈ requests, Text.isName isFieldChar f.id.toList := by decide +kernel
    have declared : ∀ f ∈ requests, (catalogue.get? f.id).map Field.kind = some f.kind := by
      decide +kernel
    have bounds : ∀ f ∈ requests, f.kind = .range →
        ∀ v ∈ f.values.take 2, v = "" ∨ isBare v.toList ∧ v.toList ≠ openBound := by
      decide +kernel
    exact fun f member =>
      ⟨names f member, Option.map_eq_some_iff.mp (declared f member), bounds f member⟩
  obtain ⟨entries, unwritten⟩ := filters_restored distinct writable
  refine ⟨distinct, writable, entries.trans (by decide +kernel), fun none => ?_⟩
  have asked : ¬∀ f ∈ requests, f.normal? = Option.none := by decide +kernel
  exact asked (unwritten.mp none)

end Filter

end Concordance
