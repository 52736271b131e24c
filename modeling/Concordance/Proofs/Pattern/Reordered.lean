import Mathlib.Data.List.Forall2
import Concordance.Proofs.Pattern.Chain
import Concordance.Proofs.Pattern.Layout

/-! The order in which annotation values are given only decides the order of the constraints within
each token. -/

namespace Concordance

def Token.holds (v : Attribute → Bool) (t : Token) : Bool := t.condition.all (·.holds v)

def Token.Reordered (t u : Token) : Prop :=
  ∃ as bs : List Attribute, as.Perm bs ∧ t = .ofCondition (Pattern.conjunction as) ∧
    u = .ofCondition (Pattern.conjunction bs)

namespace Pattern

structure Reordered (p q : Pattern) : Prop where
  tokens : List.Forall₂ Token.Reordered p.tokens q.tokens
  within : p.within = q.within

/-- The same text, or the texts of patterns that differ in the order of constraints. -/
def SameText (primary left right : Option String) : Prop :=
  left = right ∨
    ∃ p q : Pattern, p.Reordered q ∧ left = some (p.text primary) ∧ right = some (q.text primary)

theorem SameText.isSome_eq {primary left right : Option String}
    (h : SameText primary left right) : left.isSome = right.isSome := by
  rcases h with rfl | ⟨p, q, -, rfl, rfl⟩ <;> rfl

theorem holds_foldl (v : Attribute → Bool) (rest : List Attribute) (c : Condition) :
    (rest.foldl (fun c b => Condition.binary "&" c (.attribute b)) c).holds v =
      (c.holds v && rest.all v) := by
  induction rest generalizing c with
  | nil => simp
  | cons b rest ih => simp [ih, Condition.holds, Bool.and_assoc]

theorem holds_conjunction (v : Attribute → Bool) (as : List Attribute) :
    (Token.ofCondition (conjunction as)).holds v = as.all v := by
  cases as with
  | nil => rfl
  | cons a rest => exact holds_foldl v rest (.attribute a)

theorem columns_perm {vs ws : List AnnotationValue} (same : vs.Perm ws) :
    List.Forall₂ List.Perm (columns vs) (columns ws) := by
  have long : (columns vs).length = (columns ws).length := by
    have place (i : Nat) : i < (columns vs).length ↔ i < (columns ws).length := by
      rw [lt_length_columns, lt_length_columns]
      simp only [same.mem_iff]
    apply Nat.le_antisymm
    · exact Nat.le_of_not_lt fun more => Nat.lt_irrefl _ ((place _).mp more)
    · exact Nat.le_of_not_lt fun more => Nat.lt_irrefl _ ((place _).mpr more)
  rw [List.forall₂_iff_get]
  refine ⟨long, fun i left right => ?_⟩
  rw [List.get_eq_getElem, List.get_eq_getElem, getElem_columns, getElem_columns]
  exact (same.filter _).filterMap _

theorem layout_reordered {vs ws : List AnnotationValue} (same : vs.Perm ws) :
    List.Forall₂ Token.Reordered (layout vs) (layout ws) := by
  rw [layout, layout, List.forall₂_map_left_iff, List.forall₂_map_right_iff]
  exact (columns_perm same).imp fun as bs perm => ⟨as, bs, perm, rfl, rfl⟩

theorem sameText_ofValues? {vs ws : List AnnotationValue} (same : vs.Perm ws)
    (within primary : Option String) :
    SameText primary (ofValues? vs within primary) (ofValues? ws within primary) := by
  have tokens := layout_reordered same
  cases left : layout vs with
  | nil =>
    rw [left, List.forall₂_nil_left_iff] at tokens
    exact .inl (by rw [ofValues?, ofValues?, left, tokens])
  | cons t ts =>
    cases right : layout ws with
    | nil =>
      rw [left, right] at tokens
      cases tokens
    | cons u us =>
      rw [left, right] at tokens
      refine .inr ⟨⟨t :: ts, within⟩, ⟨u :: us, within⟩, ⟨tokens, rfl⟩, ?_, ?_⟩
      · rw [ofValues?, left]
      · rw [ofValues?, right]

end Pattern

theorem Token.Reordered.holds {t u : Token} (h : t.Reordered u) (v : Attribute → Bool) :
    t.holds v = u.holds v := by
  obtain ⟨as, bs, same, rfl, rfl⟩ := h
  rw [Pattern.holds_conjunction, Pattern.holds_conjunction, same.all_eq]

end Concordance
