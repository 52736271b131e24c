import Concordance.Link.Decode
import Concordance.Proofs.Json.Depth
import Concordance.Proofs.Keyed

/-! The form and view that an address asks for: they are those it was written with, and can be read
unless the data of the interface is nested too deeply. -/

namespace Concordance

namespace Link

def modeKey : Form → String
  | .search => "patternMode"
  | .explore => "exploreMode"

def interfaceData (m : Mode) : List (String × Json) :=
  [("form", .str m.form.name), (modeKey m.form, .str m.name)]

theorem head?_interfaceText (m : Mode) : (interfaceText m).toList.head? = some '\x7b' := by
  rw [interfaceText, String.toList_ofList]
  rfl

theorem read_interfaceText (depth : Nat) (m : Mode) : Json.read depth (interfaceText m).toList =
    .ok (.obj (interfaceData m)) := by
  have readable : (Json.obj (interfaceData m)).IsReadable := by
    refine ⟨?_, trivial, trivial, trivial⟩
    cases m <;> simp [interfaceData, modeKey, Mode.form]
  rw [interfaceText, String.toList_ofList]
  exact Json.read_compact readable (Nat.le_add_left 1 depth)

end Link

namespace Site

variable {depth : Nat} {params : Params}

def requestedMode? (s : Settings) (text : String) : Option Mode :=
  if text.toList.head? ≠ some '\x7b' then none else (Json.read? text.toList).bind (askedMode? s)

/-- The data of the interface is nested too deeply, and nothing before is malformed. -/
def IsTooDeep (depth : Nat) (params : Params) : Prop :=
  ∃ text, Url.value? params "interface" = some text ∧ text.toList.head? = some '\x7b' ∧
    Json.read depth text.toList = .error .tooDeep

theorem requested_of_isTooDeep (s : Settings) (deep : IsTooDeep depth params) :
    (Url.value? params "interface").elim (.ok none) (requestedMode depth s) = .error .tooDeep := by
  obtain ⟨text, said, object, read⟩ := deep
  rw [said, Option.elim_some, requestedMode, if_neg (not_not_intro object), read]

theorem requested_of_not_isTooDeep (s : Settings) (shallow : ¬IsTooDeep depth params) :
    (Url.value? params "interface").elim (.ok none) (requestedMode depth s) =
      .ok ((Url.value? params "interface").bind (requestedMode? s)) := by
  cases said : Url.value? params "interface" with
  | none => rfl
  | some text =>
    rw [Option.elim_some, Option.bind_some, requestedMode, requestedMode?]
    split
    · rfl
    · next object =>
      have whole : Json.read depth text.toList ≠ .error .tooDeep := fun deep =>
        shallow ⟨text, said, not_not.mp object, deep⟩
      rw [← Json.read_of_ne_tooDeep whole]
      cases found : Json.read depth text.toList with
      | ok data => rfl
      | error e =>
        cases e with
        | malformed => rfl
        | tooDeep => exact absurd found whole

theorem not_isTooDeep_of_none (unsaid : Url.value? params "interface" = none) :
    ¬IsTooDeep depth params := by
  rintro ⟨text, found, -⟩
  rw [unsaid] at found
  cases found

theorem not_isTooDeep_of_interfaceText {m : Mode}
    (said : Url.value? params "interface" = some (Link.interfaceText m)) :
    ¬IsTooDeep depth params := by
  rintro ⟨text, found, -, deep⟩
  obtain rfl := Option.some.inj (found.symm.trans said)
  rw [Link.read_interfaceText] at deep
  cases deep

/-- Advanced editing is asked for where it is disabled: expert editing takes its place. -/
theorem askedMode?_interfaceData (s : Settings) (m : Mode) :
    askedMode? s (.obj (Link.interfaceData m)) =
      some (if m = .search .advanced ∧ !s.advancedEnabled then .search .expert else m) := by
  have form : (Json.obj (Link.interfaceData m)).get? "form" = some (.str m.form.name) := by
    cases m <;> simp [Json.get?, Link.interfaceData]
  have name : (Json.obj (Link.interfaceData m)).get? (Link.modeKey m.form) =
      some (.str m.name) := by
    cases m <;> simp [Json.get?, Link.interfaceData, Link.modeKey, Mode.form]
  rw [askedMode?]
  cases m with
  | search m =>
    have known : SearchMode.ofName? m.name = some m := by cases m <;> rfl
    simp only [Mode.form, Form.name, Mode.name, Link.modeKey] at form name
    simp [form, name, known, apply_ite Mode.search]
  | explore m =>
    have known : ExploreMode.ofName? m.name = some m := by cases m <;> rfl
    simp only [Mode.form, Form.name, Mode.name, Link.modeKey] at form name
    simp [form, name, known]

theorem requestedMode?_interfaceText (s : Settings) (m : Mode) :
    requestedMode? s (Link.interfaceText m) =
      some (if m = .search .advanced ∧ !s.advancedEnabled then .search .expert else m) := by
  have read : Json.read? (Link.interfaceText m).toList = some (.obj (Link.interfaceData m)) := by
    rw [Json.read?, Link.read_interfaceText]
    rfl
  rw [requestedMode?, if_neg (not_not_intro (Link.head?_interfaceText m)), read, Option.bind_some,
    askedMode?_interfaceData]

end Site

end Concordance
