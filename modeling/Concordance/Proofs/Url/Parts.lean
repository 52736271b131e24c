import Concordance.Proofs.Text.Trim
import Concordance.Proofs.Url.Query
import Concordance.Url.Parts

/-! An address without scheme and host splits into the path and the query it was made of. -/

namespace Concordance.Url

def isPathChar (c : Char) : Bool := isUnreserved c || c == '/'

/-- Segments after one leading slash. -/
structure IsPath (path : List Char) : Prop where
  chars : ∀ c ∈ path, isPathChar c
  slash : path.head? = some '/'
  noHost : path.tail.head? ≠ some '/'

def isAddressChar (c : Char) : Bool := isQueryChar c || c == '/' || c == '?'

variable {path query : List Char}

theorem isAddressChar_of_mem (h : IsPath path) (chars : ∀ c ∈ query, isQueryChar c) :
    ∀ c ∈ path ++ '?' :: query, isAddressChar c := by
  intro c member
  rw [List.mem_append, List.mem_cons] at member
  rcases member with inside | rfl | inside
  · have shape := h.chars c inside
    simp only [isPathChar, Bool.or_eq_true] at shape
    rcases shape with plain | slash
    · simp [isAddressChar, isQueryChar, isCoded, plain]
    · simp [isAddressChar, slash]
  · rfl
  · simp [isAddressChar, chars c inside]

variable {url : List Char}

theorem cleaned_of_isAddressChar (chars : ∀ c ∈ url, isAddressChar c)
    (head : url.head? = some '/') : cleaned url = url := by
  have start : ∀ c ∈ url.head?, decide (c.toNat ≤ 0x20) = false := by
    intro c member
    rw [head] at member
    cases member
    rfl
  rw [cleaned, Text.dropWhile_of_head start]
  apply List.filter_eq_self.mpr
  intro c member
  have shape := chars c member
  rw [Bool.not_eq_true', ← Bool.not_eq_true]
  intro dropped
  simp only [isDropped, Bool.or_eq_true, beq_iff_eq] at dropped
  rcases dropped with (rfl | rfl) | rfl <;> exact absurd shape (by decide)

theorem withoutScheme_of_isAddressChar (chars : ∀ c ∈ url, isAddressChar c) :
    withoutScheme url = url := by
  have free : ':' ∉ url := fun member => absurd (chars ':' member) (by decide)
  simp [withoutScheme, Text.cut_of_not_mem free]

theorem host_of_single (c : Char) (cs : List Char) (h : c ≠ '/') :
    host ('/' :: c :: cs) = ([], '/' :: c :: cs) := by
  rw [host]
  intro _ same
  exact h (List.cons.inj (List.cons.inj same).2).1

theorem host_path (h : IsPath path) (query : List Char) :
    host (path ++ '?' :: query) = ([], path ++ '?' :: query) := by
  obtain ⟨tail, rfl⟩ := List.head?_eq_some_iff.mp h.slash
  cases tail with
  | nil => exact host_of_single '?' query (by decide)
  | cons c cs => exact host_of_single c _ fun same => h.noHost (congrArg some same)

theorem split_path (h : IsPath path) (chars : ∀ c ∈ query, isQueryChar c) :
    split (path ++ '?' :: query) = ⟨path, query⟩ := by
  have shape := isAddressChar_of_mem h chars
  have head : (path ++ '?' :: query).head? = some '/' := by
    rw [List.head?_append, h.slash, Option.some_or]
  have noFragment : '#' ∉ path ++ '?' :: query := fun member =>
    absurd (shape '#' member) (by decide)
  have noMark : '?' ∉ path := fun member => absurd (h.chars '?' member) (by decide)
  have noHost : isHost [] = true := rfl
  rw [split, split?, cleaned_of_isAddressChar shape head, withoutScheme_of_isAddressChar shape,
    host_path h]
  simp only [noHost, if_true, Text.cut_of_not_mem noFragment, Text.cut_append query noMark,
    Option.getD_some]

theorem getLast?_segments (page : List Char) {name : List Char} (named : name ≠ [])
    (free : '/' ∉ name) : (segments (page ++ '/' :: name)).getLast? = some (decode name) := by
  have kept : [name].filter (!·.isEmpty) = [name] := by
    simp [named]
  rw [segments, Text.pieces_append, Text.pieces_of_not_mem free, List.filter_append, kept,
    List.map_append]
  exact List.getLast?_concat

end Concordance.Url
