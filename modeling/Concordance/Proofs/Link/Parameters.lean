import Concordance.Link.Encode
import Concordance.Proofs.Text.NonEmpty
import Concordance.Proofs.Url.Query

/-! What an address says under a name is the text of that parameter. -/

namespace Concordance.Link

variable {ps : List (String × Option Parameter)} {texts : List (String × String)}

theorem texts?_some {name text : String} {p : Parameter} (written : parameterText? p = some text) :
    texts? ((name, some p) :: ps) =
      (texts? ps).map fun rest => if text.isEmpty then rest else (name, text) :: rest := by
  rw [texts?]
  simp only [written, Option.bind_eq_bind, Option.bind_some]
  cases texts? ps <;> rfl

theorem texts?_cons {name : String} {p : Option Parameter}
    (h : texts? ((name, p) :: ps) = some texts) :
    p = none ∧ texts? ps = some texts ∨
      ∃ q text rest, p = some q ∧ parameterText? q = some text ∧ texts? ps = some rest ∧
        texts = if text.isEmpty then rest else (name, text) :: rest := by
  cases p with
  | none => exact .inl ⟨rfl, h⟩
  | some q =>
    cases written : parameterText? q with
    | none => simp [texts?, written] at h
    | some text =>
      rw [texts?_some written, Option.map_eq_some_iff] at h
      obtain ⟨rest, found, same⟩ := h
      exact .inr ⟨q, text, rest, rfl, written, found, same.symm⟩

theorem names_texts? (h : texts? ps = some texts) : (texts.map (·.1)).Sublist (ps.map (·.1)) := by
  induction ps generalizing texts with
  | nil =>
    rw [← Option.some.inj h]
    exact .refl _
  | cons e ps ih =>
    obtain ⟨name, p⟩ := e
    rcases texts?_cons h with ⟨rfl, found⟩ | ⟨q, text, rest, rfl, -, found, rfl⟩
    · exact (ih found).cons name
    · cases text.isEmpty with
      | true => exact (ih found).cons name
      | false => exact (ih found).cons_cons name

theorem find?_eq_none_of_not_mem {α : Type} {es : List (String × α)} {name : String}
    (h : name ∉ es.map (·.1)) : es.find? (·.1 = name) = none := by
  refine List.find?_eq_none.mpr fun e member same => h ?_
  rw [← of_decide_eq_true same]
  exact List.mem_map_of_mem member

theorem find?_texts? (h : texts? ps = some texts) (distinct : (ps.map (·.1)).Nodup)
    (name : String) : (texts.find? (·.1 = name)).map (·.2) =
      Text.nonEmpty? (((ps.find? (·.1 = name)).bind (·.2)).bind parameterText?) := by
  induction ps generalizing texts with
  | nil =>
    rw [← Option.some.inj h]
    rfl
  | cons e ps ih =>
    obtain ⟨key, p⟩ := e
    rw [List.map_cons, List.nodup_cons] at distinct
    have other (texts : List (String × String)) (found : texts? ps = some texts) :
        texts.find? (·.1 = key) = none :=
      find?_eq_none_of_not_mem fun member => distinct.1 ((names_texts? found).mem member)
    rcases texts?_cons h with ⟨rfl, found⟩ | ⟨q, text, rest, rfl, written, found, rfl⟩
    · by_cases same : key = name
      · subst same
        simp [other texts found, Text.nonEmpty?]
      · simpa [same] using ih found distinct.2
    · by_cases same : key = name
      · subst same
        cases empty : text.isEmpty with
        | true => simp [other rest found, written, Text.nonEmpty?_some, empty]
        | false => simp [written, Text.nonEmpty?_some, empty]
      · have later := ih found distinct.2
        cases text.isEmpty with
        | true => simpa [same] using later
        | false => simpa [same] using later

theorem exists_texts? (readable : ∀ e ∈ ps, ∀ p ∈ e.2, ∃ text, parameterText? p = some text) :
    ∃ texts, texts? ps = some texts := by
  induction ps with
  | nil => exact ⟨[], rfl⟩
  | cons e ps ih =>
    obtain ⟨name, p⟩ := e
    obtain ⟨rest, found⟩ := ih fun d member => readable d (List.mem_cons_of_mem _ member)
    cases p with
    | none => exact ⟨rest, found⟩
    | some p =>
      obtain ⟨text, written⟩ := readable _ List.mem_cons_self p rfl
      exact ⟨_, by rw [texts?_some written, found]; rfl⟩

def displayPart (display : Option String) : List (String × String) :=
  (display.map fun d => ("groupDisplayMode", d)).toList

def written (texts : List (String × String)) (interface : String) (display : Option String) :
    List (String × String) :=
  texts ++ [("interface", interface)] ++ displayPart display

section Written

variable {P : Parameters} {texts : List (String × String)} (h : texts? P.pairs = some texts)
  (interface : String) (display : Option String)

include h

theorem nodup_written : ((written texts interface display).map (·.1)).Nodup := by
  have names := names_texts? h
  have known : (P.pairs.map (·.1) ++ ["interface", "groupDisplayMode"]).Nodup := by
    simp [Parameters.pairs]
  refine List.Sublist.nodup ?_ known
  rw [written, List.map_append, List.map_append, List.append_assoc]
  apply names.append
  cases display with
  | none => exact .cons_cons _ (.cons _ .slnil)
  | some d => exact .refl _

theorem value?_written (name : String) :
    Url.value? (Url.pairs (Url.queryText (written texts interface display))) name =
      if name = "interface" then some interface
      else if name = "groupDisplayMode" then display
      else Text.nonEmpty? (((P.pairs.find? (·.1 = name)).bind (·.2)).bind parameterText?) := by
  have distinct : (P.pairs.map (·.1)).Nodup := by
    simp [Parameters.pairs]
  rw [Url.value?_queryText _ (nodup_written h interface display), written, List.find?_append,
    List.find?_append, Option.map_or, Option.map_or, find?_texts? h distinct]
  by_cases first : name = "interface"
  · subst first
    simp [Parameters.pairs, Text.nonEmpty?]
  by_cases second : name = "groupDisplayMode"
  · subst second
    cases display <;> simp [Parameters.pairs, Text.nonEmpty?, displayPart]
  · cases display <;> simp [first, second, Ne.symm first, Ne.symm second, displayPart]

end Written

end Concordance.Link
