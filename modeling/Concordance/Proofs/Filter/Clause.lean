import Concordance.Filter.Clause
import Concordance.Filter.Value
import Concordance.Proofs.Text.Skip
import Concordance.Proofs.Text.Trim

/-! Clauses of a filter text are read as they are written, whatever follows them. -/

namespace Concordance.Filter

open Text (skip)

theorem inside?_escape {p : Char → Bool} (quote : p '"') (backslash : p '\\')
    (lineFeed : p '\n' = false) (cs rest : List Char) :
    Quoted.inside? '"' (Text.escape p cs ++ '"' :: rest) = some (Text.escape p cs, rest) := by
  induction cs with
  | nil => simp [Text.escape, Quoted.inside?]
  | cons c cs ih =>
    cases escaped : p c with
    | true =>
      have noFeed : c ≠ '\n' := fun same => absurd escaped (by simp [same, lineFeed])
      simp [Text.escape, escaped, Quoted.inside?, noFeed, ih]
    | false =>
      have noQuote : c ≠ '"' := fun same => absurd escaped (by simp [same, quote])
      have noBackslash : c ≠ '\\' := fun same => absurd escaped (by simp [same, backslash])
      rw [Text.escape, escaped, if_neg Bool.false_ne_true, List.cons_append, Quoted.inside?]
      · simp [noQuote, noBackslash, ih]
      · intro _ _ same
        exact absurd same noBackslash

namespace Reader

/-- Characters of a bare value: a backslash takes the next one with it, unless that is a line
feed. -/
def isRun : List Char → Bool
  | [] => true
  | [c] => isBareChar c
  | c :: d :: cs => if c = '\\' then d != '\n' && isRun cs else isBareChar c && isRun (d :: cs)

def isBare (cs : List Char) : Bool := !cs.isEmpty && cs.head? != some '+' && isRun cs

theorem isBareChar_backslash : isBareChar '\\' = false := by decide

theorem bareRun_of_stop {rest : List Char}
    (stop : ∀ c ∈ rest.head?, isBareChar c = false ∧ c ≠ '\\') :
    bareRun rest = ([], rest) := by
  cases rest with
  | nil => rfl
  | cons c rest =>
    obtain ⟨noBare, noBackslash⟩ := stop c rfl
    cases rest with
    | nil => simp [bareRun, noBare]
    | cons d rest => simp [bareRun, noBare, noBackslash]

theorem bareRun_cons {c : Char} (cs : List Char) (bare : isBareChar c) :
    bareRun (c :: cs) = (c :: (bareRun cs).1, (bareRun cs).2) := by
  have noBackslash : c ≠ '\\' :=
    fun same => absurd bare (by rw [same, isBareChar_backslash]; decide)
  cases cs with
  | nil => simp [bareRun, bare]
  | cons d cs => simp [bareRun, bare, noBackslash]

theorem bareRun_append {cs rest : List Char} (shape : isRun cs)
    (stop : ∀ c ∈ rest.head?, isBareChar c = false ∧ c ≠ '\\') :
    bareRun (cs ++ rest) = (cs, rest) := by
  fun_induction isRun cs with
  | case1 => exact bareRun_of_stop stop
  | case2 c => simp [bareRun_cons rest shape, bareRun_of_stop stop]
  | case3 d cs ih =>
    simp only [Bool.and_eq_true, bne_iff_ne, ne_eq] at shape
    simp [bareRun, shape.1, ih shape.2]
  | case4 c d cs other ih =>
    simp only [Bool.and_eq_true] at shape
    rw [List.cons_append, bareRun_cons _ shape.1, ih shape.2]

theorem bare?_eq_some_iff {cs s r : List Char} :
    bare? cs = some (s, r) ↔ bareRun cs = (s, r) ∧ s ≠ [] ∧ cs.head? ≠ some '+' := by
  unfold bare?
  split
  · simp
  · next unsigned =>
    have noSign : cs.head? ≠ some '+' := by
      intro sign
      obtain ⟨rest, text⟩ := List.head?_eq_some_iff.mp sign
      exact unsigned rest text
    split
    · next stopped =>
      refine ⟨nofun, ?_⟩
      rintro ⟨run, filled, -⟩
      rw [stopped] at run
      cases run
      exact absurd rfl filled
    · next filled =>
      rw [Option.some.injEq]
      refine ⟨fun run => ⟨run, ?_, noSign⟩, And.left⟩
      rintro rfl
      exact filled r run

theorem bare?_append {cs : List Char} (rest : List Char) (shape : isBare cs)
    (stop : ∀ c ∈ rest.head?, isBareChar c = false ∧ c ≠ '\\') :
    bare? (cs ++ rest) = some (cs, rest) := by
  simp only [isBare, Bool.and_eq_true, Bool.not_eq_true', List.isEmpty_eq_false_iff, bne_iff_ne,
    ne_eq] at shape
  obtain ⟨⟨filled, noSign⟩, run⟩ := shape
  refine bare?_eq_some_iff.mpr ⟨bareRun_append run stop, filled, ?_⟩
  obtain ⟨c, tail, rfl⟩ := List.exists_cons_of_ne_nil filled
  exact noSign

theorem isBareChar_spacing {c : Char} (bare : isBareChar c) : Text.isSpacing c = false := by
  simp only [isBareChar, Bool.not_eq_true', Bool.or_eq_false_iff] at bare
  exact Text.isSpacing_of_isBlank bare.1

theorem skip_bare {cs : List Char} (rest : List Char) (shape : isBare cs) :
    skip (cs ++ rest) = cs ++ rest := by
  simp only [isBare, Bool.and_eq_true] at shape
  obtain ⟨⟨some_char, -⟩, run⟩ := shape
  cases cs with
  | nil => simp at some_char
  | cons c cs =>
    apply Text.skip_cons _
    by_cases backslash : c = '\\'
    · rw [backslash]
      rfl
    · have bare : isBareChar c := by
        cases cs with
        | nil => exact run
        | cons d cs =>
          simp only [isRun, backslash, if_false, Bool.and_eq_true] at run
          exact run.1
      exact isBareChar_spacing bare

def rangeText (low high : List Char) : List Char :=
  '[' :: low ++ ' ' :: 'T' :: 'O' :: ' ' :: high ++ [']']

theorem solid_rangeText (low high : List Char) : Text.Solid Text.isBlank (rangeText low high) :=
  .between (by decide) (by decide) (low ++ ' ' :: 'T' :: 'O' :: ' ' :: high)

theorem range?_append {low high : List Char} (rest : List Char) (hl : isBare low)
    (hh : isBare high) :
    range? (low ++ ' ' :: 'T' :: 'O' :: ' ' :: (high ++ ']' :: rest)) =
      some ((low, high), rest) := by
  have first := bare?_append (' ' :: 'T' :: 'O' :: ' ' :: (high ++ ']' :: rest)) hl
    (by intro c same; cases same; decide)
  have second := bare?_append (']' :: rest) hh (by intro c same; cases same; decide)
  have word : skip (' ' :: 'T' :: 'O' :: ' ' :: (high ++ ']' :: rest)) =
      'T' :: 'O' :: ' ' :: (high ++ ']' :: rest) := rfl
  have bracket : skip (']' :: rest) = ']' :: rest := rfl
  simp [range?, first, word, skip_bare _ hh, second, bracket]

/-- Text that stays between its quotes. -/
def IsInside (v : List Char) : Prop :=
  ∀ rest, Quoted.inside? '"' (v ++ '"' :: rest) = some (v, rest)

theorem term?_quoted {v : List Char} (rest : List Char) (inside : IsInside v) :
    term? (quoted v ++ rest) = some (.quoted v, rest) := by
  have found := inside rest
  simp [quoted, term?, found]

theorem spaced_quoted_cons (v : List Char) (vs : List (List Char)) :
    ∃ tail, Text.spaced ((v :: vs).map quoted) = '"' :: tail := by
  cases vs with
  | nil => exact ⟨_, rfl⟩
  | cons w ws => exact ⟨_, rfl⟩

theorem terms?_quoted {vs : List (List Char)} (rest : List Char) (some_value : vs ≠ [])
    (inside : ∀ v ∈ vs, IsInside v) (n : Nat) (fuel : vs.length ≤ n) :
    terms? n (Text.spaced (vs.map quoted) ++ ')' :: rest) = some (vs.map .quoted, rest) := by
  induction vs generalizing n with
  | nil => exact absurd rfl some_value
  | cons v vs ih =>
    obtain ⟨m, rfl⟩ : ∃ m, n = m + 1 := ⟨n - 1, by simp only [List.length_cons] at fuel; omega⟩
    have first := inside v List.mem_cons_self
    cases vs with
    | nil =>
      have close : skip (')' :: rest) = ')' :: rest := rfl
      simp [Text.spaced, Text.joined, terms?, term?_quoted _ first, close]
    | cons w ws =>
      have later := ih (List.cons_ne_nil w ws)
        (fun u member => inside u (List.mem_cons_of_mem v member)) m
        (by simp only [List.length_cons] at fuel ⊢; omega)
      obtain ⟨tail, start⟩ := spaced_quoted_cons w ws
      have next : skip (' ' :: '"' :: (tail ++ ')' :: rest)) = '"' :: (tail ++ ')' :: rest) := rfl
      have shape : Text.spaced ((v :: w :: ws).map quoted) = quoted v ++ ' ' :: '"' :: tail := by
        rw [← start]
        rfl
      rw [start] at later
      rw [shape, List.append_assoc, terms?, term?_quoted _ first]
      simp only [Option.bind_eq_bind, Option.bind_some, List.cons_append, next]
      simp only [List.cons_append] at later
      simp [later]

theorem value?_quoted {v : List Char} (rest : List Char) (inside : IsInside v) :
    value? (quoted v ++ rest) = some (([String.ofList v], false), rest) := by
  have found : term? ('"' :: (v ++ '"' :: rest)) = some (.quoted v, rest) := by
    have h := term?_quoted rest inside
    simpa [quoted] using h
  simp [quoted, value?, found, Term.value]

theorem value?_listed {vs : List (List Char)} (rest : List Char) (some_value : vs ≠ [])
    (inside : ∀ v ∈ vs, IsInside v) :
    value? ('(' :: Text.spaced (vs.map quoted) ++ ')' :: rest) =
      some ((vs.map String.ofList, false), rest) := by
  obtain ⟨v, ws, rfl⟩ := List.exists_cons_of_ne_nil some_value
  obtain ⟨tail, start⟩ := spaced_quoted_cons v ws
  have fuel : (v :: ws).length ≤
      (Text.spaced ((v :: ws).map quoted) ++ ')' :: rest).length.succ := by
    have long : ((v :: ws).map quoted).length ≤ (Text.spaced ((v :: ws).map quoted)).length := by
      apply Text.length_le_joined ' '
      intro text member
      obtain ⟨u, -, rfl⟩ := List.mem_map.mp member
      exact List.cons_ne_nil _ _
    rw [List.length_map] at long
    rw [List.length_append]
    omega
  have found := terms?_quoted rest some_value inside _ fuel
  have kept : ((v :: ws).map Term.quoted).filter (!·.isOr) = (v :: ws).map Term.quoted := by
    apply List.filter_eq_self.mpr
    intro t member
    obtain ⟨u, -, rfl⟩ := List.mem_map.mp member
    rfl
  have texts : ((v :: ws).map Term.quoted).map Term.value = (v :: ws).map String.ofList := by
    rw [List.map_map]
    rfl
  have noSkip : skip (Text.spaced ((v :: ws).map quoted) ++ ')' :: rest) =
      Text.spaced ((v :: ws).map quoted) ++ ')' :: rest := by
    rw [start]
    rfl
  rw [List.cons_append, value?, noSkip, found]
  simp only [Option.bind_eq_bind, Option.bind_some, kept, texts]

theorem value?_range {low high : List Char} (rest : List Char) (hl : isBare low)
    (hh : isBare high) :
    value? (rangeText low high ++ rest) =
      some (([String.ofList low, String.ofList high], true), rest) := by
  have found := range?_append rest hl hh
  simp [rangeText, value?, skip_bare _ hl, found]

structure Reads (text : List Char) (c : Clause) : Prop where
  start : text.head? = some '+'
  solid : Text.Solid Text.isBlank text
  clause : ∀ rest, clause? (text ++ rest) = some (c, rest)

theorem reads_clause {id value : List Char} {values : List String} {isRange : Bool}
    (name : Text.isName isFieldChar id)
    (solid : Text.Solid Text.isBlank value) (some_value : value ≠ [])
    (found : ∀ rest, value? (value ++ rest) = some ((values, isRange), rest)) :
    Reads ('+' :: id ++ ':' :: value) ⟨String.ofList id, values, true, isRange⟩ := by
  have plus : Text.Solid Text.isBlank ['+'] := .single (by decide)
  have around := plus.surround solid (List.cons_ne_nil _ _) some_value (id ++ [':'])
  refine ⟨rfl, by simpa using around, fun rest => ?_⟩
  obtain ⟨c, cs, start, letter⟩ := Text.isName_head name
  have field := Text.name?_append name (':' :: (value ++ rest))
    (by intro d same; cases same; decide)
  have noSkip : skip (id ++ ':' :: (value ++ rest)) = id ++ ':' :: (value ++ rest) :=
    Text.skip_append_of_head _ (by rw [start]; rfl) (Text.isSpacing_of_isNameStart letter)
  have colon : skip (':' :: (value ++ rest)) = ':' :: (value ++ rest) := rfl
  have valueStart : skip (value ++ rest) = value ++ rest := by
    obtain ⟨d, ds, rfl⟩ := List.exists_cons_of_ne_nil some_value
    exact Text.skip_cons _ (Text.isSpacing_of_isBlank (solid.head d rfl))
  simp [clause?, required, noSkip, field, colon, valueStart, found rest]

theorem clauses?_space (n : Nat) (cs : List Char) : clauses? n (' ' :: cs) = clauses? n cs := by
  cases n with
  | zero => rfl
  | succ n => rw [clauses?, clauses?, Text.skip_space]

theorem clauses?_append {text : List Char} {c : Clause} (reads : Reads text c) (n : Nat)
    (rest : List Char) :
    clauses? (n + 1) (text ++ rest) = (clauses? n rest).map (c :: ·) := by
  obtain ⟨cs, rfl⟩ := List.head?_eq_some_iff.mp reads.start
  have noSkip : skip ('+' :: (cs ++ rest)) = '+' :: (cs ++ rest) := rfl
  have first := reads.clause rest
  rw [List.cons_append] at first ⊢
  rw [clauses?, noSkip]
  simp only [first, Option.bind_eq_bind, Option.bind_some]
  cases clauses? n rest <;> rfl

theorem clauses?_spaced {ps : List (List Char × Clause)} (reads : ∀ p ∈ ps, Reads p.1 p.2)
    (n : Nat) (fuel : ps.length < n) :
    clauses? n (Text.spaced (ps.map (·.1))) = some (ps.map (·.2)) := by
  induction ps generalizing n with
  | nil =>
    obtain ⟨m, rfl⟩ : ∃ m, n = m + 1 := ⟨n - 1, by omega⟩
    rfl
  | cons p ps ih =>
    obtain ⟨m, rfl⟩ : ∃ m, n = m + 1 := ⟨n - 1, by omega⟩
    have first := reads p List.mem_cons_self
    have later := ih (fun q member => reads q (List.mem_cons_of_mem p member)) m
      (by simp only [List.length_cons] at fuel; omega)
    cases ps with
    | nil =>
      have read := clauses?_append first m []
      rw [List.append_nil] at read
      exact read.trans (congrArg (Option.map (p.2 :: ·)) later)
    | cons q ps =>
      rw [List.map_cons, Text.spaced, Text.joined_cons ' ' _ (by simp), clauses?_append first,
        clauses?_space]
      exact congrArg (Option.map (p.2 :: ·)) later

end Reader

end Concordance.Filter
