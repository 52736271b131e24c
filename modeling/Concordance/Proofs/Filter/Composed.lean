import Concordance.Proofs.Filter.Contained
import Concordance.Proofs.Keyed

/-! Filter texts side by side. Each of them is read as if it stood alone, and what the later one
says of a field is what counts. -/

namespace Concordance.Filter

open Text (isBlank trim)

/-! ### Reading -/

theorem Means.eq_nil {clauses : List Clause} (means : Means [] clauses) : clauses = [] := by
  have empty : parse "" = .ok [] := means_iff.mp means_nil
  have read : parse "" = .ok clauses := means_iff.mp means
  exact Except.ok.inj (read.symm.trans empty)

theorem solid_of_trimmed {text : String} (trimmed : Text.trimmed text = text) :
    Text.Solid isBlank text.toList := by
  have same : trim text.toList = text.toList := by
    rw [← String.toList_ofList (l := trim text.toList)]
    exact congrArg String.toList trimmed
  rw [← same]
  exact Text.solid_trimBy isBlank text.toList

theorem parse_spaced {text other : String} {clauses more : List Clause}
    (read : parse text = .ok clauses) (later : parse other = .ok more)
    (solid : Text.Solid isBlank text.toList) (solid' : Text.Solid isBlank other.toList) :
    parse (text ++ " " ++ other) = .ok (clauses ++ more) := by
  have first : Means text.toList clauses := by
    rw [← solid.trimBy]
    exact means_iff.mpr read
  have second : Means other.toList more := by
    rw [← solid'.trimBy]
    exact means_iff.mpr later
  have whole : trim (text ++ " " ++ other).toList = if text.toList = [] then other.toList
      else if other.toList = [] then text.toList else text.toList ++ ' ' :: other.toList := by
    rw [← solid.trimBy_between solid' (show isBlank ' ' from rfl)]
    simp [trim]
  rw [← means_iff, whole]
  split
  · next empty =>
    rw [empty] at first
    rwa [first.eq_nil, List.nil_append]
  · split
    · next empty =>
      rw [empty] at second
      rwa [second.eq_nil, List.append_nil]
    · exact first.append second

/-! ### Decoding -/

section Decoding

variable {fields : Keyed Field} {found known : Keyed FilterValue} {clauses : List Clause}

theorem addTo_of_not_fits {c : Clause} (unfit : ¬c.Fits fields) : c.addTo fields found = found := by
  unfold Clause.addTo
  split
  · rfl
  · next d declared => exact if_neg fun fits => unfit ⟨d, declared, fits⟩

theorem foldl_addTo_of_not_fits (unfit : ∀ c ∈ clauses, ¬c.Fits fields) :
    clauses.foldl (Clause.addTo fields) found = found := by
  induction clauses with
  | nil => rfl
  | cons c clauses ih =>
    obtain ⟨first, others⟩ := List.forall_mem_cons.mp unfit
    rw [List.foldl_cons, addTo_of_not_fits first, ih others]

theorem addTo_override (c : Clause) :
    c.addTo fields (known.override found) = known.override (c.addTo fields found) := by
  unfold Clause.addTo
  split
  · rfl
  · split
    · exact Keyed.override_insert ..
    · rfl

theorem foldl_addTo_override (clauses : List Clause) :
    clauses.foldl (Clause.addTo fields) (known.override found) =
      known.override (clauses.foldl (Clause.addTo fields) found) := by
  induction clauses generalizing found with
  | nil => rfl
  | cons c clauses ih => rw [List.foldl_cons, List.foldl_cons, addTo_override, ih]

theorem decodeClauses_append (clauses more : List Clause) :
    decodeClauses (clauses ++ more) fields =
      (decodeClauses clauses fields).override (decodeClauses more fields) := by
  calc
    decodeClauses (clauses ++ more) fields
    _ = more.foldl (Clause.addTo fields) (decodeClauses clauses fields) := List.foldl_append
    _ = more.foldl (Clause.addTo fields) ((decodeClauses clauses fields).override ∅) := rfl
    _ = (decodeClauses clauses fields).override (decodeClauses more fields) :=
      foldl_addTo_override more

end Decoding

/-- Filter texts that are read alone are read one after the other where a blank stands between them.
The fields of the later one override those of the earlier one, and clauses on undeclared fields, or
of a shape that does not fit, change nothing. -/
theorem decode_spaced {text other : String} {clauses more : List Clause}
    (read : parse text = .ok clauses) (later : parse other = .ok more)
    (trimmed : Text.trimmed text = text) (trimmed' : Text.trimmed other = other)
    (fields : Keyed Field) :
    parse (text ++ " " ++ other) = .ok (clauses ++ more) ∧
      decode (some (text ++ " " ++ other)) fields =
        (decode (some text) fields).override (decode (some other) fields) ∧
      ((∀ c ∈ more, ¬c.Fits fields) →
        decode (some (text ++ " " ++ other)) fields = decode (some text) fields) := by
  have whole := parse_spaced read later (solid_of_trimmed trimmed) (solid_of_trimmed trimmed')
  refine ⟨whole, ?_, fun unfit => ?_⟩
  · simp only [decode, whole, read, later]
    exact decodeClauses_append clauses more
  · simp only [decode, whole, read, decodeClauses_eq, List.foldl_append]
    exact foldl_addTo_of_not_fits unfit

/-- A bare value and a sign at the seam, words of the language as values, a field that is told
twice, one that is not declared, and a text for a range. -/
theorem decode_spaced_seam :
    parse "+title:\"(cat\" genre:b+" =
        .ok [⟨"title", ["(cat"], true, false⟩, ⟨"genre", ["b+"], false, false⟩] ∧
      parse "+title:TO year:[TO TO *]" =
        .ok [⟨"title", ["TO"], true, false⟩, ⟨"year", ["TO", "*"], false, true⟩] ∧
      parse "editor:x +year:1900" =
        .ok [⟨"editor", ["x"], false, false⟩, ⟨"year", ["1900"], true, false⟩] ∧
      decode (some "+title:\"(cat\" genre:b+ +title:TO year:[TO TO *]") catalogue =
        (decode (some "+title:\"(cat\" genre:b+") catalogue).override
          (decode (some "+title:TO year:[TO TO *]") catalogue) ∧
      decode (some "+title:\"(cat\" genre:b+ editor:x +year:1900") catalogue =
        decode (some "+title:\"(cat\" genre:b+") catalogue := by
  have first : parse "+title:\"(cat\" genre:b+" =
      .ok [⟨"title", ["(cat"], true, false⟩, ⟨"genre", ["b+"], false, false⟩] := by
    decide +kernel
  have second : parse "+title:TO year:[TO TO *]" =
      .ok [⟨"title", ["TO"], true, false⟩, ⟨"year", ["TO", "*"], false, true⟩] := by
    decide +kernel
  have third : parse "editor:x +year:1900" =
      .ok [⟨"editor", ["x"], false, false⟩, ⟨"year", ["1900"], true, false⟩] := by
    decide +kernel
  have unfit : ∀ c ∈ [⟨"editor", ["x"], false, false⟩, ⟨"year", ["1900"], true, false⟩],
      ¬Clause.Fits catalogue c := by
    have undeclared : catalogue.get? "editor" = none := by decide +kernel
    have range : catalogue.get? "year" = some ⟨"year", "Year", .range⟩ := by decide +kernel
    simp [Clause.Fits, undeclared, range]
  exact ⟨first, second, third,
    (decode_spaced first second (by decide +kernel) (by decide +kernel) catalogue).2.1,
    (decode_spaced first third (by decide +kernel) (by decide +kernel) catalogue).2.2 unfit⟩

end Concordance.Filter
