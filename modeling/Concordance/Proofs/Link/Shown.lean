import Concordance.Proofs.Link.Reread
import Concordance.Proofs.View.Chosen

/-! A form that shows the pattern of a view of its own: whether the view that it shows has the same
pattern. -/

namespace Concordance

open Text (isName isNameChar)

/-! ### Which view shows a query -/

namespace Query

variable {q : Query} {s : Settings} {v : View}

theorem mode_shown (q : Query) (s : Settings) (m : Mode) : (q.shown s m).mode = m := by
  have own {view : Option View} {blank : View} (mode : ∀ v, view = some v → v.mode = m)
      (other : blank.mode = m) : (view.getD blank).mode = m := by
    cases view with
    | none => exact other
    | some v => exact mode v rfl
  cases m with
  | search m =>
    cases m with
    | simple => exact own (fun v => mode_simple?) rfl
    | extended => exact own (fun v => mode_extended?) rfl
    | advanced => exact own (fun v => mode_advanced?) rfl
    | expert => exact own (fun v => mode_expert?) rfl
  | explore m =>
    cases m with
    | frequency => exact own (fun v => mode_frequency?) rfl
    | ngram => exact own (fun v => mode_ngram?) rfl
    | corpora => exact own (fun v => mode_corpora?) rfl

theorem enabled_of_classify (advanced : (q.classify s).mode = .search .advanced) :
    s.advancedEnabled := by
  have chosen := q.chosen_classify s
  generalize q.classify s = v at chosen advanced
  have other {m : Mode} (mode : v.mode = m) (apart : m ≠ .search .advanced) :
      s.advancedEnabled := absurd (mode.symm.trans advanced) apart
  cases chosen with
  | frequency shown => exact other (mode_frequency? shown) nofun
  | ngram shown => exact other (mode_ngram? shown) nofun
  | corpora shown => exact other (mode_corpora? shown) nofun
  | simple shown => exact other (mode_simple? shown) nofun
  | extended shown => exact other (mode_extended? shown) nofun
  | advanced shown => exact (eq_of_advanced? shown).2
  | expert shown => exact other (mode_expert? shown) nofun
  | fallback =>
    rw [fallback] at advanced
    split at advanced
    · split at advanced <;> cases advanced
    · cases advanced

end Query

namespace Site

variable {s : Settings}

theorem enabled_of_requestedMode? {text : String}
    (asked : requestedMode? s text = some (.search .advanced)) : s.advancedEnabled := by
  rw [requestedMode?] at asked
  split at asked
  · cases asked
  · obtain ⟨data, -, asked⟩ := Option.bind_eq_some_iff.mp asked
    rw [askedMode?] at asked
    split at asked
    · split at asked
      · obtain ⟨m, -, asked⟩ := Option.bind_eq_some_iff.mp asked
        rw [Option.some.injEq, Mode.search.injEq] at asked
        split at asked
        · cases asked
        · next enabled =>
          rw [not_and] at enabled
          simpa using enabled asked
      · cases asked
    · split at asked
      · obtain ⟨m, -, asked⟩ := Option.map_eq_some_iff.mp asked
        cases asked
      · cases asked
    · cases asked

theorem enabled_of_modeOf {viewed : Option String} {params : Params}
    (advanced : modeOf s viewed params = .search .advanced) : s.advancedEnabled := by
  rw [modeOf] at advanced
  cases asked : (Url.value? params "interface").bind (requestedMode? s) with
  | none =>
    rw [asked, Option.getD_none] at advanced
    exact Query.enabled_of_classify advanced
  | some m =>
    rw [asked, Option.getD_some] at advanced
    subst advanced
    obtain ⟨text, -, asked⟩ := Option.bind_eq_some_iff.mp asked
    exact enabled_of_requestedMode? asked

end Site

/-! ### The pattern of a view that is shown again -/

/-- A view whose values come back from their pattern: those that were typed as regular expressions
are not lost, and the values of the extended view stand in the order of their first constraints. -/
def View.IsStable (s : Settings) : View → Prop
  | simple v => v.isConstrained → v.kind = .pos → v.isRecoverable
  | extended values _ _ => Pattern.IsStable values.values
  | ngram _ _ _ slots =>
    ∀ slot ∈ slots, s.corpus.kindOf slot.id = .pos → (slot.typed s.corpus).isRecoverable
  | _ => True

/-- Only the extended view can have tokens at its end that it cannot show again. -/
def View.IsCarried (s : Settings) : View → Prop
  | extended values _ _ => Pattern.IsCarried s values
  | _ => True

namespace Query

variable {q q' : Query} {s : Settings}

end Query

end Concordance
