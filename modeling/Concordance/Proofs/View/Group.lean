import Mathlib.Data.List.Infix
import Concordance.Proofs.Text.Pieces
import Concordance.Proofs.Text.Skip
import Concordance.Proofs.Text.Trim
import Concordance.View.Group

/-! Group keys survive being written as one text and read again. -/

namespace Concordance

open Text (isName isNameChar)

theorem Text.solid_name {name : List Char} (shape : isName isNameChar name) :
    Solid isBlank name where
  head c member := isBlank_of_isNameChar (isNameChar_of_mem shape c (List.mem_of_mem_head? member))
  last c member :=
    isBlank_of_isNameChar (isNameChar_of_mem shape c (List.mem_of_mem_getLast? member))

namespace Group

/-- A key that stays one key between commas. -/
structure IsKey (key : String) : Prop where
  noComma : ',' ∉ key.toList
  solid : Text.Solid Text.isBlank key.toList
  named : key ≠ ""

/-- With a case mark behind it, the bare word would be taken for a context key. -/
structure IsPlain (key : String) : Prop extends IsKey key where
  noContext : isContext key = false
  noContextWord : key ≠ "context"

def marked (sensitive : Bool) (key : String) : String :=
  String.ofList (key.toList ++ caseMark sensitive)

variable {key : String} (sensitive : Bool)

theorem toList_marked : (marked sensitive key).toList = key.toList ++ caseMark sensitive :=
  String.toList_ofList

theorem solid_caseMark : Text.Solid Text.isBlank (caseMark sensitive) := by
  cases sensitive with
  | true => exact .between (by decide) (by decide) []
  | false => exact .between (by decide) (by decide) []

theorem isKey_marked (h : IsKey key) : IsKey (marked sensitive key) := by
  refine ⟨?_, ?_, ?_⟩
  · rw [toList_marked, List.mem_append, not_or]
    exact ⟨h.noComma, by cases sensitive <;> decide⟩
  · rw [toList_marked]
    exact h.solid.append (solid_caseMark sensitive)
  · intro empty
    have texts := congrArg String.toList empty
    rw [toList_marked] at texts
    have noMark := (List.append_eq_nil_iff.mp texts).2
    cases sensitive <;> exact absurd noMark (by decide)

theorem isContext_marked (noContext : isContext key = false) (noContextWord : key ≠ "context") :
    isContext (marked sensitive key) = false := by
  rw [← Bool.not_eq_true]
  intro context
  rw [isContext, List.isPrefixOf_iff_prefix, toList_marked] at context
  obtain ⟨rest, same⟩ := context
  have noPrefix : ¬contextMark <+: key.toList := by
    rw [← List.isPrefixOf_iff_prefix, Bool.not_eq_true]
    exact noContext
  rcases List.append_eq_append_iff.mp same with ⟨middle, split, -⟩ | ⟨middle, split, mark⟩
  · exact noPrefix (split ▸ List.prefix_append contextMark middle)
  -- The context mark ends in the case mark: it holds none, one or both of its characters.
  cases middle with
  | nil =>
    rw [List.append_nil] at split
    exact noPrefix (split ▸ List.prefix_rfl)
  | cons a middle =>
    have colon : a = ':' := by
      cases sensitive <;> exact (List.cons.inj mark).1.symm
    cases middle with
    | nil =>
      have word : "context".toList = key.toList :=
        (List.append_inj' (show "context".toList ++ [':'] = key.toList ++ [a] from split) rfl).1
      exact noContextWord (String.toList_injective word).symm
    | cons b middle =>
      have alone : middle = [] := by
        cases sensitive <;>
          exact (List.append_eq_nil_iff.mp (List.cons.inj (List.cons.inj mark).2).2.symm).1
      subst alone
      have ends : ['t', ':'] = [a, b] :=
        (List.append_inj' (show "contex".toList ++ ['t', ':'] = key.toList ++ [a, b] from split)
          rfl).2
      exact absurd ((List.cons.inj ends).1.trans colon) (by decide)

theorem strip_marked : strip (marked sensitive key) = key := by
  have suffix : [':', 's'].isSuffixOf (marked sensitive key).toList ||
      [':', 'i'].isSuffixOf (marked sensitive key).toList := by
    rw [toList_marked, Bool.or_eq_true, List.isSuffixOf_iff_suffix, List.isSuffixOf_iff_suffix]
    cases sensitive with
    | true => exact .inl (List.suffix_append _ _)
    | false => exact .inr (List.suffix_append _ _)
  have length : (caseMark sensitive).length = 2 := by cases sensitive <;> rfl
  simp only [strip, suffix, if_true]
  rw [toList_marked, List.length_append, length, Nat.add_sub_cancel, List.take_left,
    String.ofList_toList]

theorem marksCase_marked : marksCase (marked sensitive key) = sensitive := by
  cases sensitive with
  | true =>
    rw [marksCase, toList_marked, List.isSuffixOf_iff_suffix]
    exact List.suffix_append _ _
  | false =>
    rw [marksCase, toList_marked, ← Bool.not_eq_true, List.isSuffixOf_iff_suffix]
    intro ⟨start, same⟩
    have marks := (List.append_inj' same rfl).2
    exact absurd marks (by decide)

/-! The keys of annotations. -/

theorem toList_hitKey (id : String) : (hitKey id).toList = hitMark ++ id.toList :=
  String.toList_ofList

theorem hitKey_ne_empty (id : String) : hitKey id ≠ "" := by
  intro empty
  have chars := congrArg String.toList empty
  rw [toList_hitKey] at chars
  exact absurd chars (List.append_ne_nil_of_left_ne_nil (by decide) _)

theorem hitName?_hitKey (id : String) : hitName? (hitKey id) = some id := by
  rw [hitName?, toList_hitKey, List.isPrefixOf?_eq_some_iff_append_eq.mpr rfl, Option.map_some,
    String.ofList_toList]

theorem hitKey_of_hitName? {id : String} (named : hitName? key = some id) : hitKey id = key := by
  obtain ⟨name, rest, rfl⟩ := Option.map_eq_some_iff.mp named
  rw [hitKey, String.toList_ofList, List.isPrefixOf?_eq_some_iff_append_eq.mp rest,
    String.ofList_toList]

theorem isPlain_hitKey {id : String} (named : isName isNameChar id.toList) :
    IsPlain (hitKey id) where
  noComma := by
    rw [toList_hitKey, List.mem_append, not_or]
    exact ⟨by decide, fun comma => absurd (Text.isNameChar_of_mem named _ comma) (by decide)⟩
  solid := by
    have mark : Text.Solid Text.isBlank hitMark := .between (by decide) (by decide) ['i', 't']
    rw [toList_hitKey]
    exact mark.append (Text.solid_name named)
  named := hitKey_ne_empty id
  noContext := by
    rw [isContext, toList_hitKey]
    rfl
  noContextWord same := by
    have chars := congrArg String.toList same
    rw [toList_hitKey] at chars
    cases chars

end Group

namespace GroupSpec

open Concordance.Group

variable {groupBy contextKeys : List String} (sensitive : Bool)

theorem param_ne_empty (g : GroupSpec) : g.param ≠ some "" := by
  rw [param]
  split
  · nofun
  · next some_key =>
    intro same
    have empty := congrArg String.toList (Option.some.inj same)
    rw [String.toList_ofList] at empty
    exact some_key empty

theorem parse_param {g : GroupSpec} (h : ∀ key ∈ g.keys, IsKey key) : parse g.param = g := by
  obtain ⟨keys⟩ := g
  cases keys with
  | nil => rfl
  | cons key keys =>
    have cut : Text.pieces ',' (Text.joined ',' ((key :: keys).map String.toList)) =
        (key :: keys).map String.toList := by
      refine Text.pieces_joined (List.cons_ne_nil _ _) fun text member => ?_
      obtain ⟨k, k_mem, rfl⟩ := List.mem_map.mp member
      exact (h k k_mem).noComma
    have trimmed : ((key :: keys).map String.toList).map Text.trim =
        (key :: keys).map String.toList := by
      rw [List.map_map]
      exact List.map_congr_left fun k member => (h k member).solid.trimBy
    have kept : ((key :: keys).map String.toList).filter (!·.isEmpty) =
        (key :: keys).map String.toList := by
      apply List.filter_eq_self.mpr
      intro text member
      obtain ⟨k, k_mem, rfl⟩ := List.mem_map.mp member
      have named := (h k k_mem).named
      simpa using named
    have written : param ⟨key :: keys⟩ =
        some (String.ofList (Text.joined ',' ((key :: keys).map String.toList))) := by
      have named := (h key List.mem_cons_self).named
      have some_text : Text.joined ',' ((key :: keys).map String.toList) ≠ [] :=
        Text.joined_ne_nil _ (by simpa using named)
      rw [param]
      split
      · next empty => exact absurd empty some_text
      · rfl
    rw [written, parse, String.toList_ofList, cut, trimmed, kept]
    simp

theorem isKey_ofKeys (plain : ∀ key ∈ groupBy, IsPlain key)
    (context : ∀ key ∈ contextKeys, IsKey key) :
    ∀ key ∈ (ofKeys groupBy contextKeys sensitive).keys, IsKey key := by
  intro key member
  rcases List.mem_append.mp member with inside | inside
  · obtain ⟨k, k_mem, rfl⟩ := List.mem_map.mp inside
    exact isKey_marked sensitive (plain k k_mem).toIsKey
  · exact context key inside

section

variable (plain : ∀ key ∈ groupBy, isContext key = false) (noContextWord : "context" ∉ groupBy)

include plain noContextWord

theorem isContext_of_mem_marked {key : String} (member : key ∈ groupBy.map (marked sensitive)) :
    isContext key = false := by
  obtain ⟨k, k_mem, rfl⟩ := List.mem_map.mp member
  apply isContext_marked sensitive (plain k k_mem)
  rintro rfl
  exact noContextWord k_mem

theorem plainKeys_ofKeys (context : ∀ key ∈ contextKeys, isContext key) :
    (ofKeys groupBy contextKeys sensitive).plainKeys = groupBy.map (marked sensitive) := by
  have first : (groupBy.map (marked sensitive)).filter (!isContext ·) =
      groupBy.map (marked sensitive) := by
    apply List.filter_eq_self.mpr
    intro key member
    rw [isContext_of_mem_marked sensitive plain noContextWord member, Bool.not_false]
  have second : contextKeys.filter (!isContext ·) = [] := by
    apply List.filter_eq_nil_iff.mpr
    intro key member
    simp [context key member]
  calc (ofKeys groupBy contextKeys sensitive).plainKeys
    _ = (groupBy.map (marked sensitive)).filter (!isContext ·) ++
        contextKeys.filter (!isContext ·) := List.filter_append _ _
    _ = groupBy.map (marked sensitive) := by rw [first, second, List.append_nil]

theorem contextKeys_ofKeys (context : ∀ key ∈ contextKeys, isContext key) :
    (ofKeys groupBy contextKeys sensitive).contextKeys = contextKeys := by
  have first : (groupBy.map (marked sensitive)).filter isContext = [] := by
    apply List.filter_eq_nil_iff.mpr
    intro key member
    simp [isContext_of_mem_marked sensitive plain noContextWord member]
  have second : contextKeys.filter isContext = contextKeys :=
    List.filter_eq_self.mpr context
  calc (ofKeys groupBy contextKeys sensitive).contextKeys
    _ = (groupBy.map (marked sensitive)).filter isContext ++ contextKeys.filter isContext :=
      List.filter_append _ _
    _ = contextKeys := by rw [first, second, List.nil_append]

theorem groupBy_ofKeys (context : ∀ key ∈ contextKeys, isContext key) :
    (ofKeys groupBy contextKeys sensitive).groupBy = groupBy := by
  calc (ofKeys groupBy contextKeys sensitive).groupBy
    _ = groupBy.map (strip ∘ marked sensitive) := by
      rw [GroupSpec.groupBy, plainKeys_ofKeys sensitive plain noContextWord context, List.map_map]
    _ = groupBy.map id := List.map_congr_left fun key _ => strip_marked sensitive
    _ = groupBy := List.map_id groupBy

theorem caseSensitive_ofKeys (context : ∀ key ∈ contextKeys, isContext key)
    (grouped : sensitive → groupBy ≠ []) :
    (ofKeys groupBy contextKeys sensitive).caseSensitive = sensitive := by
  rw [caseSensitive, plainKeys_ofKeys sensitive plain noContextWord context]
  cases sensitive with
  | true => simp [grouped rfl, marksCase_marked]
  | false =>
    cases groupBy with
    | nil => rfl
    | cons key keys => simp [marksCase_marked]

end

end GroupSpec

end Concordance
