import Concordance.Proofs.Filter.Derivation
import Concordance.Proofs.Filter.RoundTrip

/-! Filters that share one text. A clause says what it says whatever clauses stand around it, so the
filters of a text are those of its clauses, as long as the text of each filter is about its own
field only. Bounds of a range are written as they are, and only they can break this. -/

namespace Concordance.Filter

open Text (skip isSpacing)
open Grammar Reader

/-! ### Texts one after the other -/

section Following

variable {cs s r : List Char} (rest : List Char)

theorem name?_space (read : Text.name? isFieldChar cs = some (s, r)) :
    Text.name? isFieldChar (cs ++ ' ' :: rest) = some (s, r ++ ' ' :: rest) := by
  have stop : isFieldChar ' ' = false := by decide
  have runs (ds : List Char) :
      (ds ++ ' ' :: rest).takeWhile isFieldChar = ds.takeWhile isFieldChar ∧
      (ds ++ ' ' :: rest).dropWhile isFieldChar = ds.dropWhile isFieldChar ++ ' ' :: rest := by
    induction ds with
    | nil => simp [stop]
    | cons d ds ih => cases more : isFieldChar d <;> simp [more, ih]
  cases cs with
  | nil => cases read
  | cons c cs =>
    simp only [Text.name?, Option.ite_none_right_eq_some, Option.some.injEq, Prod.mk.injEq] at read
    obtain ⟨start, rfl, rfl⟩ := read
    rw [List.cons_append, Text.name?, if_pos start, (runs cs).1, (runs cs).2]

theorem bareRun_space (stopped : bareRun r = ([], r)) (alive : r ≠ ['\\']) :
    bareRun (r ++ ' ' :: rest) = ([], r ++ ' ' :: rest) := by
  rcases r with _ | ⟨c, _ | ⟨d, r⟩⟩
  · exact bareRun_of_stop (by rintro _ ⟨⟩; decide)
  · have other : c ≠ '\\' := fun backslash => alive (by rw [backslash])
    rw [bareRun] at stopped
    split at stopped
    · cases stopped
    · next bare =>
      refine bareRun_of_stop ?_
      rintro _ ⟨⟩
      exact ⟨Bool.eq_false_of_not_eq_true bare, other⟩
  · rw [bareRun] at stopped
    rw [List.cons_append, List.cons_append, bareRun]
    grind

theorem bare?_space (read : bare? cs = some (s, r)) (alive : r ≠ ['\\']) :
    bare? (cs ++ ' ' :: rest) = some (s, r ++ ' ' :: rest) := by
  obtain ⟨rfl, mem⟩ := scans_bare.sound read
  obtain ⟨run, filled, noSign⟩ := bare?_eq_some_iff.mp read
  have units := (mem_bareText.mp mem).1
  have stopped : bareRun r = ([], r) := by
    rw [bareRun_of_mem units, Prod.mk.injEq, List.append_right_eq_self] at run
    exact Prod.ext run.1 run.2
  rw [List.append_assoc]
  refine bare?_eq_some_iff.mpr ⟨?_, filled, ?_⟩
  · rw [bareRun_of_mem units, bareRun_space rest stopped alive, List.append_nil]
  · obtain ⟨c, tail, rfl⟩ := List.exists_cons_of_ne_nil filled
    exact noSign

theorem lexeme_space {t : Terminal} (lexeme : Lexeme (grammar.language t) cs s r)
    (alive : r ≠ ['\\']) :
    Lexeme (grammar.language t) (cs ++ ' ' :: rest) s (r ++ ' ' :: rest) := by
  cases t with
  | field =>
    exact (scans_nameOf isFieldChar).lexeme_iff.mpr
      (name?_space rest ((scans_nameOf isFieldChar).lexeme_iff.mp lexeme))
  | bare =>
    exact scans_bare.lexeme_iff.mpr (bare?_space rest (scans_bare.lexeme_iff.mp lexeme) alive)
  | quoted =>
    have quote : '"' ≠ '\\' := by decide
    obtain ⟨v, u, rfl, read, rfl⟩ := (lexeme_quotedBy quote).mp lexeme
    obtain ⟨rfl, inside⟩ := of_inside? read
    have again := inside?_of_mem quote inside (r ++ ' ' :: rest)
    exact (lexeme_quotedBy quote).mpr ⟨v, _, by simp, again, rfl⟩
  | required | colon | openParenthesis | closeParenthesis | openBracket | closeBracket | upTo =>
    obtain ⟨rfl, rfl⟩ := lexeme_exactly.mp lexeme
    exact lexeme_exactly.mpr ⟨rfl, by rw [List.append_assoc]⟩

theorem derives_backslash {a : Rule Nonterminal Terminal} {ts : List Derivation}
    (derived : grammar.Derives a ['\\'] ts r) : r = ['\\'] := by
  generalize same : ['\\'] = cs at derived
  rw [← same]
  induction derived with
  | @terminal t _ _ s _ spacing lexeme =>
    have start := Derives.terminal spacing lexeme
    rw [← same] at start
    exfalso
    cases t with
    | field =>
      obtain ⟨s, -, read⟩ := derives_field.mp start
      cases read
    | bare =>
      obtain ⟨s, -, read⟩ := derives_bare.mp start
      cases read
    | quoted =>
      obtain ⟨s, u, text, -⟩ := derives_quoted.mp start
      cases text
    | required | colon | openParenthesis | closeParenthesis | openBracket | closeBracket | upTo =>
      obtain ⟨-, text⟩ := (derives_word _ rfl).mp start
      cases text
  | nonterminal _ ih | left _ ih | right _ ih => exact ih same
  | empty | done => exact same.symm
  | seq _ _ first second | more _ _ first second => exact second (first same).symm

end Following

def Means (text : List Char) (clauses : List Clause) : Prop :=
  ∃ ts r, grammar.Derives (.many (.nonterminal .clause)) text ts r ∧ (∀ c ∈ r, isSpacing c) ∧
    ts.map Derivation.clause = clauses

theorem means_nil : Means [] [] := ⟨[], [], .done, List.forall_mem_nil _, rfl⟩

theorem means_iff {text : String} {clauses : List Clause} :
    Means (Text.trim text.toList) clauses ↔ parse text = .ok clauses := by
  rw [parse_eq_ok_iff]
  constructor
  · rintro ⟨ts, r, derived, blank, rfl⟩
    exact ⟨.node .start ts, ⟨r, .nonterminal derived, blank⟩, rfl⟩
  · rintro ⟨t, ⟨r, derived, blank⟩, rfl⟩
    obtain ⟨ts, same, clauses⟩ := derives_nonterminal.mp derived
    cases same
    exact ⟨ts, r, clauses, blank, rfl⟩

theorem means_of_reads {text : List Char} {c : Clause} (reads : Reads text c) : Means text [c] := by
  have read := reads.clause []
  rw [List.append_nil, ← reads.solid.skip] at read
  obtain ⟨t, derived, rfl⟩ := clause?_iff.mp read
  exact ⟨[t], [], .more derived .done, List.forall_mem_nil _, rfl⟩

theorem Means.append {text other : List Char} {clauses more : List Clause}
    (first : Means text clauses) (second : Means other more) :
    Means (text ++ ' ' :: other) (clauses ++ more) := by
  obtain ⟨ts, r, derived, blank, rfl⟩ := first
  obtain ⟨us, m, later, blank', rfl⟩ := second
  have alive : r ≠ ['\\'] := by
    rintro rfl
    exact absurd (blank '\\' List.mem_cons_self) (by decide)
  have start : grammar.Derives (.many (.nonterminal .clause)) (text ++ ' ' :: other) ts
      (r ++ ' ' :: other) := derived.append (lexeme_space other) derives_backslash alive
  have gap : ∀ c ∈ r ++ [' '], isSpacing c :=
    List.forall_mem_append.mpr ⟨blank, List.forall_mem_singleton.mpr rfl⟩
  rw [show r ++ ' ' :: other = (r ++ [' ']) ++ other by simp] at start
  rcases later.blanks gap with after | ⟨rfl, after⟩
  · exact ⟨ts ++ us, m, start.append_many after, blank', List.map_append⟩
  · refine ⟨ts ++ us, _, start.append_many after, ?_, List.map_append⟩
    exact List.forall_mem_append.mpr ⟨gap, blank'⟩

/-! ### Fields -/

section Fields

variable {fields : Keyed Field} {found : Keyed FilterValue} {c : Clause} {clauses : List Clause}
  {id : String}

def Clause.Fits (fields : Keyed Field) (c : Clause) : Prop :=
  ∃ d, fields.get? c.field = some d ∧ c.isRange = (d.kind == .range)

def Clause.addTo (fields : Keyed Field) (found : Keyed FilterValue) (c : Clause) :
    Keyed FilterValue :=
  match fields.get? c.field with
  | none => found
  | some f =>
    if c.isRange = (f.kind == .range) then
      found.insert c.field ⟨c.field, f.kind, decodeValues f.kind c.values⟩
    else found

theorem decodeClauses_eq :
    decodeClauses clauses fields = clauses.foldl (Clause.addTo fields) ∅ := rfl

variable (fields found c clauses)

theorem keys_addTo : found.keys <+: (c.addTo fields found).keys ∧
    ∀ key, key ∈ (c.addTo fields found).keys ↔
      key ∈ found.keys ∨ c.Fits fields ∧ c.field = key := by
  unfold Clause.addTo Clause.Fits
  split
  · next undeclared => simp [undeclared]
  · next d declared =>
    split
    · next fits =>
      refine ⟨Keyed.prefix_keys_insert .., fun key => ?_⟩
      simp [Keyed.mem_keys_insert, declared, fits, eq_comm]
    · next other => simp [declared, other]

theorem keys_foldl : found.keys <+: (clauses.foldl (Clause.addTo fields) found).keys ∧
    ∀ key, key ∈ (clauses.foldl (Clause.addTo fields) found).keys ↔
      key ∈ found.keys ∨ ∃ c ∈ clauses, c.Fits fields ∧ c.field = key := by
  induction clauses generalizing found with
  | nil => simp
  | cons c clauses ih =>
    obtain ⟨start, known⟩ := keys_addTo fields found c
    obtain ⟨later, given⟩ := ih (c.addTo fields found)
    refine ⟨start.trans later, fun key => ?_⟩
    rw [List.foldl_cons, given, known, or_assoc, List.exists_mem_cons_iff]

variable {fields found clauses}

structure IsAbout (fields : Keyed Field) (id : String) (clauses : List Clause) : Prop where
  fits : ∃ c ∈ clauses, c.Fits fields
  own : ∀ c ∈ clauses, c.Fits fields → c.field = id

theorem IsAbout.keys_foldl (about : IsAbout fields id clauses) (new : id ∉ found.keys) :
    (clauses.foldl (Clause.addTo fields) found).keys = found.keys ++ [id] := by
  obtain ⟨⟨others, whole⟩, known⟩ := Filter.keys_foldl fields found clauses
  have distinct := Keyed.keys_nodup (clauses.foldl (Clause.addTo fields) found)
  rw [← whole] at distinct known ⊢
  obtain ⟨-, distinct, apart⟩ := List.nodup_append.mp distinct
  obtain ⟨c, member, fits⟩ := about.fits
  have only : ∀ key, key ∈ others ↔ key = id := by
    intro key
    constructor
    · intro other
      rcases (known key).mp (List.mem_append_right _ other) with old | ⟨d, given, shape, rfl⟩
      · exact absurd rfl (apart key old key other)
      · exact about.own d given shape
    · rintro rfl
      have given := (known key).mpr (.inr ⟨c, member, fits, about.own c member fits⟩)
      exact (List.mem_append.mp given).resolve_left new
  have single : others.Perm [id] := by
    rw [List.perm_ext_iff_of_nodup distinct (List.nodup_singleton id)]
    intro key
    rw [only, List.mem_singleton]
  rw [List.perm_singleton.mp single]

theorem keys_decodeClauses_iff :
    (decodeClauses clauses fields).keys = [id] ↔ IsAbout fields id clauses := by
  rw [decodeClauses_eq]
  constructor
  · intro keys
    have known := (Filter.keys_foldl fields ∅ clauses).2
    rw [keys] at known
    obtain ⟨c, member, fits, -⟩ :=
      ((known id).mp (List.mem_singleton_self id)).resolve_left List.not_mem_nil
    refine ⟨⟨c, member, fits⟩, fun d given fits => ?_⟩
    exact List.mem_singleton.mp ((known d.field).mpr (.inr ⟨d, given, fits, rfl⟩))
  · intro about
    have new : id ∉ (∅ : Keyed FilterValue).keys := List.not_mem_nil
    exact about.keys_foldl new

end Fields

/-! ### Filters -/

variable {fields : Keyed Field}

/-- What is written of the filter is on its own a text about its field. -/
def KeptAlone (fields : Keyed Field) (f : FilterValue) : Prop :=
  ∀ text ∈ clause? f, (decode (some (String.ofList text)) fields).keys = [f.id]

structure Part where
  text : List Char
  clauses : List Clause
  id : String

structure Part.IsSound (fields : Keyed Field) (p : Part) : Prop where
  solid : Text.Solid Text.isBlank p.text
  filled : p.text ≠ []
  means : Means p.text p.clauses
  about : IsAbout fields p.id p.clauses

variable {f : FilterValue} {text : List Char}

theorem isSound_of_reads {c : Clause} (reads : Reads text c) (field : c.field = f.id)
    (shape : c.isRange = (f.kind == .range))
    (declared : ∃ d, fields.get? f.id = some d ∧ d.kind = f.kind) :
    Part.IsSound fields ⟨text, [c], f.id⟩ := by
  obtain ⟨d, known, kind⟩ := declared
  have fits : c.Fits fields := ⟨d, by rw [field, known], by rw [shape, kind]⟩
  have filled : text ≠ [] := by
    rintro rfl
    exact absurd reads.start nofun
  exact ⟨reads.solid, filled, means_of_reads reads, ⟨c, List.mem_singleton_self c, fits⟩,
    List.forall_mem_singleton.mpr fun _ => field⟩

theorem exists_sound_range (kind : f.kind = .range) (written : clause? f = some text)
    (alone : KeptAlone fields f) : ∃ clauses, Part.IsSound fields ⟨text, clauses, f.id⟩ := by
  have keys := alone text written
  rw [clause?_range kind, Option.ite_none_left_eq_some, Option.some.injEq] at written
  obtain ⟨-, rfl⟩ := written
  have solid : Text.Solid Text.isBlank
      ('+' :: f.id.toList ++ ':' :: rangeText (bound f.values[0]?) (bound f.values[1]?)) := by
    have plus : Text.Solid Text.isBlank ['+'] := .single (by decide)
    have brackets := solid_rangeText (bound f.values[0]?) (bound f.values[1]?)
    have around := plus.surround brackets (List.cons_ne_nil _ _) (List.cons_ne_nil _ _)
      (f.id.toList ++ [':'])
    simpa using around
  unfold decode at keys
  dsimp only at keys
  split at keys
  · next clauses parsed =>
    have means := means_iff.mpr parsed
    rw [String.toList_ofList, Text.trim, solid.trimBy] at means
    exact ⟨clauses, solid, List.cons_ne_nil _ _, means, keys_decodeClauses_iff.mp keys⟩
  · cases keys

theorem exists_sound (name : Text.isName isFieldChar f.id.toList)
    (declared : ∃ d, fields.get? f.id = some d ∧ d.kind = f.kind)
    (alone : f.kind = .range → KeptAlone fields f) (written : clause? f = some text) :
    ∃ clauses, Part.IsSound fields ⟨text, clauses, f.id⟩ := by
  by_cases kind : f.kind = .range
  · exact exists_sound_range kind written (alone kind)
  · have writable : IsWritable fields f := ⟨name, declared, fun range => absurd range kind⟩
    rcases agrees writable with ⟨unwritten, -⟩ |
      ⟨text', g, written', -, id, same, c, reads, field, shape, -⟩
    · rw [unwritten] at written
      cases written
    · rw [written', Option.some.injEq] at written
      rw [← written]
      exact ⟨[c], isSound_of_reads reads (field.trans id) (by rw [shape, same]) declared⟩

theorem keys_decode_of_sound {clauses : List Clause} {id : String}
    (sound : Part.IsSound fields ⟨text, clauses, id⟩) :
    (decode (some (String.ofList text)) fields).keys = [id] := by
  have parsed : parse (String.ofList text) = .ok clauses := by
    rw [← means_iff, String.toList_ofList, Text.trim, sound.solid.trimBy]
    exact sound.means
  simp only [decode, parsed]
  exact keys_decodeClauses_iff.mpr sound.about

theorem keptAlone_of_bare (name : Text.isName isFieldChar f.id.toList)
    (declared : ∃ d, fields.get? f.id = some d ∧ d.kind = f.kind) (kind : f.kind = .range)
    (bounds : ∀ v ∈ f.values.take 2, v = "" ∨ isBare v.toList) : KeptAlone fields f := by
  intro text written
  rw [clause?_range kind, Option.mem_def, Option.ite_none_left_eq_some,
    Option.some.injEq] at written
  obtain ⟨-, rfl⟩ := written
  have shape : true = (f.kind == .range) := by
    rw [kind]
    rfl
  have part := isSound_of_reads (reads_range name bounds) rfl shape declared
  exact keys_decode_of_sound part

theorem exists_parts {fs : List FilterValue}
    (sound : ∀ f ∈ fs, ∀ text, clause? f = some text →
      ∃ clauses, Part.IsSound fields ⟨text, clauses, f.id⟩) :
    ∃ ps : List Part, fs.filterMap clause? = ps.map (·.text) ∧
      (fs.filter fun f => (clause? f).isSome).map (·.id) = ps.map (·.id) ∧
      ∀ p ∈ ps, p.IsSound fields := by
  induction fs with
  | nil => exact ⟨[], rfl, rfl, nofun⟩
  | cons f fs ih =>
    obtain ⟨first, others⟩ := List.forall_mem_cons.mp sound
    obtain ⟨ps, texts, ids, parts⟩ := ih others
    cases written : clause? f with
    | none =>
      refine ⟨ps, ?_, ?_, parts⟩
      · rw [List.filterMap_cons_none written, texts]
      · rw [List.filter_cons_of_neg (by simp [written]), ids]
    | some text =>
      obtain ⟨clauses, part⟩ := first text written
      refine ⟨⟨text, clauses, f.id⟩ :: ps, ?_, ?_, List.forall_mem_cons.mpr ⟨part, parts⟩⟩
      · rw [List.filterMap_cons_some written, texts, List.map_cons]
      · rw [List.filter_cons_of_pos (by simp [written]), List.map_cons, ids, List.map_cons]

theorem means_spaced {ps : List Part} (sound : ∀ p ∈ ps, p.IsSound fields) :
    Means (Text.spaced (ps.map (·.text))) (ps.flatMap (·.clauses)) := by
  induction ps with
  | nil => exact means_nil
  | cons p ps ih =>
    obtain ⟨first, others⟩ := List.forall_mem_cons.mp sound
    cases ps with
    | nil =>
      rw [List.flatMap_singleton]
      exact first.means
    | cons q ps =>
      have later := ih others
      rw [List.map_cons, Text.spaced, Text.joined_cons ' ' _ (by simp)]
      exact first.means.append later

theorem keys_parts {ps : List Part} {found : Keyed FilterValue} (distinct : (ps.map (·.id)).Nodup)
    (new : ∀ p ∈ ps, p.id ∉ found.keys) (sound : ∀ p ∈ ps, p.IsSound fields) :
    ((ps.flatMap (·.clauses)).foldl (Clause.addTo fields) found).keys =
      found.keys ++ ps.map (·.id) := by
  induction ps generalizing found with
  | nil => exact (List.append_nil _).symm
  | cons p ps ih =>
    obtain ⟨first, others⟩ := List.forall_mem_cons.mp sound
    obtain ⟨fresh, later⟩ := List.forall_mem_cons.mp new
    rw [List.map_cons, List.nodup_cons] at distinct
    have keys := first.about.keys_foldl fresh
    have apart : ∀ q ∈ ps, q.id ∉ (p.clauses.foldl (Clause.addTo fields) found).keys := by
      intro q member
      rw [keys, List.mem_append, List.mem_singleton, not_or]
      refine ⟨later q member, fun same => distinct.1 ?_⟩
      rw [← same]
      exact List.mem_map_of_mem member
    rw [List.flatMap_cons, List.foldl_append, ih distinct.2 apart others, keys, List.append_assoc]
    rfl

/-- Every selection of the filters comes back with all fields that it has a clause on and with no
other one, exactly if the text of each range is about its own field. -/
theorem keys_restored_iff {fs : List FilterValue} (distinct : (fs.map (·.id)).Nodup)
    (named : ∀ f ∈ fs, Text.isName isFieldChar f.id.toList)
    (declared : ∀ f ∈ fs, ∃ d, fields.get? f.id = some d ∧ d.kind = f.kind) :
    (∀ gs, gs.Sublist fs → (decode (encode? gs) fields).keys =
        (gs.filter fun f => (clause? f).isSome).map (·.id)) ↔
      ∀ f ∈ fs, f.kind = .range → KeptAlone fields f := by
  constructor
  · intro restored f member _ text written
    have written : clause? f = some text := written
    have alone := restored [f] (List.singleton_sublist.mpr member)
    simpa [encode?, written, Text.spaced, Text.joined] using alone
  · intro alone gs selected
    obtain ⟨ps, texts, ids, parts⟩ := exists_parts fun f member text =>
      exists_sound (named f (selected.subset member)) (declared f (selected.subset member))
        (alone f (selected.subset member))
    have distinct : (ps.map (·.id)).Nodup := by
      rw [← ids]
      exact ((List.filter_sublist.trans selected).map _).nodup distinct
    rw [encode?, texts, ids]
    cases ps with
    | nil => rfl
    | cons p ps =>
      have filled : ∀ text ∈ (p :: ps).map (·.text), text ≠ [] :=
        List.forall_mem_map.mpr fun q member => (parts q member).filled
      have solid := Text.solid_spaced filled
        (List.forall_mem_map.mpr fun q member => (parts q member).solid)
      have parsed : parse (String.ofList (Text.spaced ((p :: ps).map (·.text)))) =
          .ok ((p :: ps).flatMap (·.clauses)) := by
        rw [← means_iff, String.toList_ofList, Text.trim, solid.trimBy]
        exact means_spaced parts
      rw [List.map_cons] at parsed ⊢
      simp only [decode, parsed, decodeClauses_eq]
      exact keys_parts distinct (fun _ _ => List.not_mem_nil) parts

def guarded : List FilterValue :=
  [⟨"title", .text, ["cat\"] +author:x", "\\"]⟩, ⟨"year", .range, ["1 TO 2] +year:[a\\ b", "3"]⟩,
    ⟨"genre", .select, ["a\\", "\n+"]⟩, ⟨"source", .checkbox, [""]⟩]

theorem keys_restored_guarded :
    (guarded.map (·.id)).Nodup ∧ (∀ f ∈ guarded, Text.isName isFieldChar f.id.toList) ∧
      (∀ f ∈ guarded, ∃ d, catalogue.get? f.id = some d ∧ d.kind = f.kind) ∧
      (∀ f ∈ guarded, f.kind = .range → KeptAlone catalogue f) ∧
      (decode (encode? guarded) catalogue).keys = ["title", "year", "genre"] := by
  have distinct : (guarded.map (·.id)).Nodup := by decide
  have named : ∀ f ∈ guarded, Text.isName isFieldChar f.id.toList := by decide +kernel
  have declared : ∀ f ∈ guarded, ∃ d, catalogue.get? f.id = some d ∧ d.kind = f.kind := by
    have kinds : ∀ f ∈ guarded, (catalogue.get? f.id).map Field.kind = some f.kind := by
      decide +kernel
    exact fun f member => Option.map_eq_some_iff.mp (kinds f member)
  have alone : ∀ f ∈ guarded, f.kind = .range → KeptAlone catalogue f := by
    unfold KeptAlone
    decide +kernel
  have restored := (keys_restored_iff distinct named declared).mpr alone guarded (.refl _)
  exact ⟨distinct, named, declared, alone, restored.trans (by decide +kernel)⟩

def unguarded : List FilterValue :=
  [⟨"title", .text, ["cat"]⟩, ⟨"year", .range, ["c. 1900", ""]⟩]

/-- A bound can lose all filters, its own and the others. -/
theorem keys_lost :
    (unguarded.map (·.id)).Nodup ∧ (∀ f ∈ unguarded, Text.isName isFieldChar f.id.toList) ∧
      (∀ f ∈ unguarded, (catalogue.get? f.id).map Field.kind = some f.kind) ∧
      (unguarded.filter fun f => (clause? f).isSome).map (·.id) = ["title", "year"] ∧
      (decode (encode? unguarded) catalogue).keys = [] := by
  decide +kernel

example : (decode (encode? [⟨"year", .range, ["1900 TO 1950] +genre:x +year:[1", ""]⟩])
    catalogue).keys = ["year", "genre"] := by
  decide +kernel

end Concordance.Filter
