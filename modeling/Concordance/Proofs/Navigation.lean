import Concordance.Proofs.Link.Distinct
import Concordance.Proofs.View.Reordered

/-! A search that is not recorded is the search of the current entry, unless the pattern was left
out of the address of that entry and the new address had none to leave out. -/

namespace Concordance

/-- Both ask the backend for nothing, or for the same in the same result view. -/
def Snapshot.AsksSame (s : Settings) (x y : Snapshot) : Prop :=
  x.parameters s = .ok none ∧ y.parameters s = .ok none ∨
    ∃ P Q, x.parameters s = .ok (some P) ∧ y.parameters s = .ok (some Q) ∧ x.viewed = y.viewed ∧
      P.Agree Q ∧ Pattern.SameText (some s.primary) P.pattern Q.pattern ∧ P.gap = Q.gap

namespace Snapshot

variable {s : Settings} {x y : Snapshot} {v w : View} {P Q : Parameters}

theorem viewed_eq (left : x.viewed.isSome) (right : y.viewed.isSome)
    (same : x.segment = y.segment) : x.viewed = y.viewed := by
  obtain ⟨name, shown⟩ := Option.isSome_iff_exists.mp left
  obtain ⟨name', shown'⟩ := Option.isSome_iff_exists.mp right
  rw [segment, segment, shown, shown'] at same
  rw [shown, shown']
  exact congrArg some (String.toList_injective same)

theorem AsksSame.isSome_pattern (h : x.AsksSame s y) (left : x.parameters s = .ok (some P))
    (right : y.parameters s = .ok (some Q)) : P.pattern.isSome = Q.pattern.isSome := by
  rcases h with ⟨nothing, -⟩ | ⟨P', Q', left', right', -, -, text, -⟩
  · rw [nothing] at left
    cases left
  · rw [left] at left'
    rw [right] at right'
    cases left'
    cases right'
    exact text.isSome_eq

theorem isExact_dropped (x : Snapshot) : Json.isExact
    (.obj [("view", .ofOption View.toJson x.view), ("gap", .optionalText x.gap)]) := by
  have view : Json.isExact (.ofOption View.toJson x.view) := by
    cases x.view with
    | none => rfl
    | some v => exact v.isExact_toJson
  have gap : Json.isExact (.optionalText x.gap) := by
    cases x.gap <;> rfl
  simp [Json.isExact, Json.haveExact, view, gap]

theorem eq_of_droppedPart (same : Navigation.droppedPart x = Navigation.droppedPart y)
    (left : x.view = some v) (right : y.view = some w) : v.Reordered w ∧ x.gap = y.gap := by
  have sorted := Json.sorted_eq_of_stable x.isExact_dropped y.isExact_dropped same
  have values := Json.values_eq_of_sorted_obj sorted rfl (by simp)
  simp only [List.map_cons, List.map_nil, List.cons.injEq, left, right] at values
  exact ⟨View.reordered_of_sorted values.1, Json.sorted_optionalText_injective values.2.1⟩

theorem sameText_of_droppedPart (same : Navigation.droppedPart x = Navigation.droppedPart y)
    (left : x.Asks s v P) (right : y.Asks s w Q) :
    Pattern.SameText (some s.primary) P.pattern Q.pattern ∧ P.gap = Q.gap := by
  obtain ⟨view, gap⟩ := eq_of_droppedPart same left.view right.view
  have pattern : Pattern.SameText (some s.primary) P.pattern Q.pattern := by
    rw [left.pattern, right.pattern]
    exact view.sameText s
  refine ⟨pattern, ?_⟩
  rw [left.gap, right.gap, activeGap_eq left.view right.view view gap, pattern.isSome_eq]

end Snapshot

namespace Navigation

variable {site : Site} {n : Navigation} {x y : Snapshot} {entry : Entry} {e f : Link}

inductive Reachable (site : Site) : Navigation → Prop
  | empty : Reachable site .empty
  | record {n : Navigation} {x : Snapshot} {e : Link} (before : Reachable site n)
      (named : x.IsNamed) (coded : site.encode x = .ok e) :
      Reachable site (n.record e.url e.truncated x).1
  | back {n : Navigation} (before : Reachable site n) : Reachable site n.back.1
  | forward {n : Navigation} (before : Reachable site n) : Reachable site n.forward.1

structure Entry.Records (site : Site) (entry : Entry) (x : Snapshot) (e : Link) : Prop where
  snapshot : entry.snapshot = some x
  named : x.IsNamed
  coded : site.encode x = .ok e
  url : entry.url = e.url

def Recorded (site : Site) (n : Navigation) : Prop :=
  ∀ entry ∈ n.entries, ∃ x e, entry.Records site x e

theorem recorded_empty : Recorded site .empty := fun _ member => absurd member List.not_mem_nil

theorem recorded_record (before : Recorded site n) (named : x.IsNamed)
    (coded : site.encode x = .ok e) : Recorded site (n.record e.url e.truncated x).1 := by
  rw [record]
  split
  · intro entry member
    rcases List.mem_append.mp member with kept | new
    · exact before entry (List.mem_of_mem_take kept)
    · rw [List.mem_singleton.mp new]
      exact ⟨x, e, rfl, named, coded, rfl⟩
  · exact before

theorem entries_back (n : Navigation) : n.back.1.entries = n.entries := by
  rw [back]
  split <;> rfl

theorem entries_forward (n : Navigation) : n.forward.1.entries = n.entries := by
  rw [forward]
  split <;> rfl

theorem Reachable.recorded (h : Reachable site n) : Recorded site n := by
  induction h with
  | empty => exact recorded_empty
  | record _ named coded before => exact recorded_record before named coded
  | @back n _ before =>
    intro entry member
    rw [entries_back] at member
    exact before entry member
  | @forward n _ before =>
    intro entry member
    rw [entries_forward] at member
    exact before entry member

theorem current_push (n : Navigation) (entry : Entry) : (n.push entry).current = some entry :=
  List.getElem?_concat_length

theorem shouldPush_self {url : String} (here : n.current = some ⟨url, some x⟩) (truncated : Bool) :
    n.shouldPush url truncated x = false := by
  rw [shouldPush, here]
  cases truncated <;> simp

theorem record_again (n : Navigation) (url : String) (truncated : Bool) (x : Snapshot) :
    ((n.record url truncated x).1.record url truncated x).2 = false := by
  cases new : n.shouldPush url truncated x with
  | true =>
    have still := shouldPush_self (n.current_push ⟨url, some x⟩) truncated
    simp [record, new, still]
  | false => simp [record, new]

theorem of_suppressed {url : String} {truncated : Bool}
    (suppressed : (n.record url truncated x).2 = false) :
    (n.record url truncated x).1 = n ∧ n.shouldPush url truncated x = false := by
  rw [record] at suppressed ⊢
  split at suppressed
  · cases suppressed
  · next quiet => exact ⟨by rw [if_neg quiet], Bool.eq_false_iff.mpr quiet⟩

theorem exists_current {truncated : Bool} {url : String}
    (suppressed : n.shouldPush url truncated x = false) : ∃ entry, n.current = some entry ∧
      bare entry.url = bare url ∧
      (truncated → ∀ y, entry.snapshot = some y → droppedPart y = droppedPart x) := by
  rw [shouldPush] at suppressed
  cases here : n.current with
  | none =>
    rw [here] at suppressed
    cases suppressed
  | some entry =>
    rw [here] at suppressed
    dsimp only at suppressed
    split at suppressed
    · cases suppressed
    · next same =>
      refine ⟨entry, rfl, Decidable.not_not.mp same, ?_⟩
      intro cut y recorded
      rw [cut, recorded] at suppressed
      simpa using suppressed

section Address

variable {ps qs : List (String × String)} {P Q : Parameters} (left : site.Links y qs f)
  (right : site.Links x ps e) (params : f.params = e.params)

include left right params

theorem parameters_none_of_params (nothing : x.parameters site.settings = .ok none) :
    y.parameters site.settings = .ok none := by
  obtain ⟨search, asked⟩ := Site.exists_parameters left.params
  cases search with
  | none => exact asked
  | some P =>
    have first := (Site.says_of_links asked left).first
    rw [params, Site.first_of_parameters_none nothing right] at first
    cases first

theorem exists_parameters_of_params (asked : x.parameters site.settings = .ok (some Q)) :
    ∃ P, y.parameters site.settings = .ok (some P) := by
  obtain ⟨search, asked'⟩ := Site.exists_parameters left.params
  cases search with
  | none =>
    rw [parameters_none_of_params right left params.symm asked'] at asked
    cases asked
  | some P => exact ⟨P, asked'⟩

theorem agree_of_params (asked : y.parameters site.settings = .ok (some P))
    (asked' : x.parameters site.settings = .ok (some Q)) :
    P.Agree Q ∧ (P.sent f.truncated).pattern = (Q.sent e.truncated).pattern ∧
      (P.sent f.truncated).gap = (Q.sent e.truncated).gap := by
  have said := Site.says_of_links asked left
  have said' := Site.says_of_links asked' right
  rw [params] at said
  have filled := (Snapshot.isFilled asked).sent f.truncated
  have filled' := (Snapshot.isFilled asked').sent e.truncated
  exact ⟨(said.agree said' filled filled').of_sent, said.pattern_eq said' filled filled'⟩

end Address

theorem asksSame_iff {ps qs : List (String × String)} (left : site.Links y qs f)
    (right : site.Links x ps e) (named : y.IsNamed) (named' : x.IsNamed)
    (same : bare f.url = bare e.url) (dropped : e.truncated → droppedPart y = droppedPart x) :
    y.AsksSame site.settings x ↔ (f.truncated → e.truncated) := by
  have url := Site.url_eq_of_bare left right named named' same
  obtain ⟨segment, params⟩ := Site.eq_of_url left right named named' url
  -- an address that is not truncated bounds the length of the other one
  have lost (cut : f.truncated) (whole : ¬e.truncated) :
      ∃ P, y.parameters site.settings = .ok (some P) ∧ P.pattern.isSome :=
    Site.lost_of_truncated left cut (url ▸ Site.length_url_le right whole)
  obtain ⟨search, asked⟩ := Site.exists_parameters right.params
  cases search with
  | none =>
    have nothing := parameters_none_of_params left right params asked
    refine iff_of_true (.inl ⟨nothing, asked⟩) fun cut => ?_
    by_contra whole
    obtain ⟨P, searched, -⟩ := lost cut whole
    rw [nothing] at searched
    cases searched
  | some Q =>
    obtain ⟨P, asked'⟩ := exists_parameters_of_params left right params asked
    obtain ⟨agree, pattern, gap⟩ := agree_of_params left right params asked' asked
    obtain ⟨v, shows⟩ := Snapshot.exists_asks asked'
    obtain ⟨w, shows'⟩ := Snapshot.exists_asks asked
    constructor
    · intro asks cut
      by_contra whole
      obtain ⟨P', searched, given⟩ := lost cut whole
      rw [asked'] at searched
      cases searched
      rw [cut, Bool.eq_false_iff.mpr whole] at pattern
      have missing : Q.pattern = none := pattern.symm
      rw [asks.isSome_pattern asked' asked, missing] at given
      cases given
    · intro cut
      have viewed := Snapshot.viewed_eq shows.viewed shows'.viewed segment
      refine .inr ⟨P, Q, asked', asked, viewed, agree, ?_⟩
      by_cases whole : e.truncated
      · exact Snapshot.sameText_of_droppedPart (dropped whole) shows shows'
      · have whole' : f.truncated = false := Bool.eq_false_iff.mpr fun h => whole (cut h)
        rw [Bool.eq_false_iff.mpr whole, whole'] at pattern gap
        exact ⟨.inl pattern, gap⟩

/-- A search that is not recorded is that of the current entry exactly if its own address lost the
pattern wherever that of the entry did: only the new address is asked whether it was truncated. -/
theorem suppressed_asksSame_iff (reached : Reachable site n) (named : x.IsNamed)
    (coded : site.encode x = .ok e) (suppressed : (n.record e.url e.truncated x).2 = false) :
    (n.record e.url e.truncated x).1 = n ∧
      ∃ entry y f, n.current = some entry ∧ (∀ depth, restore site depth entry = .ok y) ∧
        site.encode y = .ok f ∧ entry.url = f.url ∧
        (y.AsksSame site.settings x ↔ (f.truncated → e.truncated)) := by
  obtain ⟨unchanged, quiet⟩ := of_suppressed suppressed
  obtain ⟨entry, here, same, dropped⟩ := exists_current quiet
  obtain ⟨y, f, records⟩ := reached.recorded entry (List.mem_of_getElem? here)
  obtain ⟨qs, left⟩ := Site.exists_links records.coded
  obtain ⟨ps, right⟩ := Site.exists_links coded
  refine ⟨unchanged, entry, y, f, here, ?_, records.coded, records.url, ?_⟩
  · intro depth
    rw [restore, records.snapshot]
  · rw [records.url] at same
    exact asksSame_iff left right records.named named same fun truncated =>
      dropped truncated y records.snapshot

def narrow : Site := { Site.library with maxLength := 115 }

def documents (pattern : Option String) : Snapshot :=
  { Snapshot.ofView (.expert pattern) with viewed := some docs }

def documentsLink (truncated : Bool) : Link where
  url := "/search/docs?first=0&number=50&interface=%7B%22form%22%3A%22search%22%2C" ++
    "%22patternMode%22%3A%22expert%22%7D"
  path := "/search/docs"
  params := [("first", "0"), ("number", "50"),
    ("interface", Link.interfaceText (.search .expert))]
  truncated

theorem encode_documents (truncated : Bool) :
    narrow.encode (documents (if truncated then some "[]" else none)) =
      .ok (documentsLink truncated) := by
  cases truncated <;> decide +kernel

theorem isNamed_documents (pattern : Option String) : (documents pattern).IsNamed := by
  change '/' ∉ docs.toList ∧ '?' ∉ docs.toList
  decide

def searched : Navigation :=
  (empty.record (documentsLink true).url true (documents (some "[]"))).1

theorem reachable_searched : Reachable narrow searched :=
  .record .empty (isNamed_documents _) (encode_documents true)

/-- The same search again is not recorded. -/
theorem suppressed_asksSame_documents :
    Reachable narrow searched ∧ (documents (some "[]")).IsNamed ∧
      narrow.encode (documents (some "[]")) = .ok (documentsLink true) ∧
      (searched.record (documentsLink true).url true (documents (some "[]"))).2 = false ∧
      ∃ entry y, searched.current = some entry ∧ (∀ depth, restore narrow depth entry = .ok y) ∧
        y.AsksSame narrow.settings (documents (some "[]")) := by
  have again : (searched.record (documentsLink true).url true (documents (some "[]"))).2 = false :=
    record_again empty _ true _
  obtain ⟨-, entry, y, f, here, restored, -, -, same⟩ := suppressed_asksSame_iff
    reachable_searched (isNamed_documents _) (encode_documents true) again
  exact ⟨reachable_searched, isNamed_documents _, encode_documents true, again, entry, y, here,
    restored, same.mpr fun _ => rfl⟩

/-- All documents have the short address itself, and are taken for the search before. -/
theorem record_loses_documents :
    Reachable narrow searched ∧ (documents none).IsNamed ∧
      narrow.encode (documents none) = .ok (documentsLink false) ∧
      (searched.record (documentsLink false).url false (documents none)).2 = false ∧
      ∃ entry y, searched.current = some entry ∧ (∀ depth, restore narrow depth entry = .ok y) ∧
        ¬y.AsksSame narrow.settings (documents none) := by
  have suppressed :
      (searched.record (documentsLink false).url false (documents none)).2 = false := by
    decide +kernel
  refine ⟨reachable_searched, isNamed_documents _, encode_documents false, suppressed, _, _, rfl,
    fun _ => rfl, ?_⟩
  intro same
  have patterns := same.isSome_pattern rfl rfl
  exact absurd patterns (by decide +kernel)

end Navigation

end Concordance
