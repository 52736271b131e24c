import Concordance.Proofs.Link.Settings
import Concordance.Proofs.Snapshot.Json
import Concordance.Proofs.Snapshot.Prepared

/-! Prepared searches: one has an address if its settings can be honoured, since it starts on the
first page and the other integers are short enough. -/

namespace Concordance

theorem Link.isWritten_iff {i : Int} : Link.isWritten i ↔ Numeral.IsShort i := decide_eq_true_iff

namespace Snapshot

variable {s : Settings} {x : Snapshot} {v : View}

theorem HasShortIntegers.exists_texts? (short : x.HasShortIntegers) {results : ResultSettings}
    (page : results.page = 0) (viewed : Option String) (s : Settings) (v : View) :
    ∃ texts, Link.texts? (({ x with viewed, results } : Snapshot).request s v).pairs =
      some texts := by
  have size (mode : String) (i : Int) (given : x.globals.sizeIn mode = some (.int i)) :
      Link.isWritten i := by
    rw [GlobalSettings.sizeIn, Option.ite_none_right_eq_some] at given
    exact Link.isWritten_iff.mpr (short.sampleSize i given.2)
  apply Link.exists_texts?_pairs
  case first =>
    dsimp only [request]
    rw [page, Int.mul_zero]
    exact Link.isWritten_of_small (Int.le_refl 0) (by decide)
  case number => exact Link.isWritten_iff.mpr short.pageSize
  case sample => exact size _
  case sampleCount => exact size _
  case seed =>
    intro i given
    exact Link.isWritten_iff.mpr (short.sampleSeed i (Option.ite_none_right_eq_some.mp given).2)
  case words => exact fun i given => Link.isWritten_iff.mpr (short.wordsAroundHit i given)

end Snapshot

namespace Site

variable {x : Snapshot} {v : View} {u : Unusable}

theorem exists_encode_prepare (site : Site) (short : x.HasShortIntegers)
    (valid : x.globals.validate = .ok ()) : ∃ search e,
      (x.prepare site.settings).parameters site.settings = .ok search ∧
      site.encode (x.prepare site.settings) = .ok e := by
  cases view : x.view with
  | none =>
    rw [Snapshot.prepare_of_view_none view]
    have asked : x.parameters site.settings = .ok none := by
      rw [Snapshot.parameters, view]
      cases x.viewed <;> rfl
    obtain ⟨e, coded⟩ := exists_encode asked rfl
    exact ⟨none, e, asked, coded⟩
  | some v =>
    obtain ⟨viewed, results, prepared, settled⟩ := Snapshot.exists_settled view site.settings
    rw [prepared]
    have asked := Snapshot.parameters_of_valid (s := site.settings)
      (x := { x with viewed := some viewed, results }) rfl view valid
    obtain ⟨texts, found⟩ := short.exists_texts? settled.page (some viewed) site.settings v
    obtain ⟨e, coded⟩ := exists_encode asked found
    exact ⟨_, e, asked, coded⟩

theorem encode_prepare_error (site : Site) (view : x.view = some v)
    (invalid : x.globals.validate = .error u) :
    site.encode (x.prepare site.settings) = .error (.unusable u) := by
  obtain ⟨viewed, results, prepared, -⟩ := Snapshot.exists_settled view site.settings
  have asked := Snapshot.parameters_eq (s := site.settings)
    (x := { x with viewed := some viewed, results }) rfl view
  rw [invalid] at asked
  rw [prepared, encode, params, asked]
  rfl

end Site

end Concordance
