import Mathlib.Data.List.Infix
import Concordance.FilePath
import Concordance.Proofs.Text.Pieces

/-! Names of files are read as they were written, and what starts at a home directory starts at no
home any more. -/

namespace Concordance

namespace FilePath

variable {p : FilePath} {homes : Homes}

/-- A part that says something and holds no slash. -/
structure IsName (part : String) : Prop where
  isPart : isPart part.toList
  noSlash : '/' ∉ part.toList

structure IsNormal (p : FilePath) : Prop where
  root : p.root = "" ∨ p.root = "/" ∨ p.root = "//"
  parts : ∀ part ∈ p.parts, IsName part

theorem rootOf_cases (cs : List Char) : rootOf cs = "" ∨ rootOf cs = "/" ∨ rootOf cs = "//" := by
  fun_cases rootOf cs with
  | case1 => exact .inr (.inl rfl)
  | case2 => exact .inr (.inr rfl)
  | case3 => exact .inr (.inl rfl)
  | case4 => exact .inl rfl

theorem isNormal_read (text : String) : (read text).IsNormal := by
  refine ⟨rootOf_cases text.toList, fun part member => ?_⟩
  obtain ⟨cs, kept, rfl⟩ := List.mem_map.mp member
  obtain ⟨piece, named⟩ := List.mem_filter.mp kept
  constructor
  · rwa [String.toList_ofList]
  · rw [String.toList_ofList]
    exact Text.not_mem_of_mem_pieces piece

theorem IsNormal.append (h : p.IsNormal) {parts : List String}
    (names : ∀ part ∈ parts, IsName part) : (p.append parts).IsNormal := by
  refine ⟨h.root, fun part member => ?_⟩
  rcases List.mem_append.mp member with own | added
  · exact h.parts part own
  · exact names part added

theorem rootOf_append {root : String} (known : root = "" ∨ root = "/" ∨ root = "//") {c : Char}
    (cs : List Char) (other : c ≠ '/') : rootOf (root.toList ++ c :: cs) = root := by
  have first {ds : List Char} : c :: cs = '/' :: ds → False := fun same =>
    other (List.cons.inj same).1
  rcases known with rfl | rfl | rfl
  · show rootOf (c :: cs) = ""
    rw [rootOf] <;> exact fun _ same => first same
  · show rootOf ('/' :: c :: cs) = "/"
    rw [rootOf] <;> exact fun _ same => first same
  · show rootOf ('/' :: '/' :: c :: cs) = "//"
    rw [rootOf]
    exact fun _ same => first same

theorem parts_slash (cs : List Char) : (Text.pieces '/' ('/' :: cs)).filter isPart =
    (Text.pieces '/' cs).filter isPart := by
  rw [Text.pieces, if_pos rfl]
  rfl

theorem parts_append {root : String} (known : root = "" ∨ root = "/" ∨ root = "//")
    (cs : List Char) : (Text.pieces '/' (root.toList ++ cs)).filter isPart =
      (Text.pieces '/' cs).filter isPart := by
  rcases known with rfl | rfl | rfl
  · rfl
  · exact parts_slash cs
  · exact (parts_slash ('/' :: cs)).trans (parts_slash cs)

theorem read_render (h : p.IsNormal) : read p.render = p := by
  obtain ⟨root, parts⟩ := p
  cases parts with
  | nil => rcases h.root with rfl | rfl | rfl <;> rfl
  | cons part rest =>
    have free : ∀ cs ∈ (part :: rest).map String.toList, '/' ∉ cs := by
      intro cs member
      obtain ⟨name, named, rfl⟩ := List.mem_map.mp member
      exact (h.parts name named).noSlash
    have named : ((part :: rest).map String.toList).filter isPart =
        (part :: rest).map String.toList := by
      apply List.filter_eq_self.mpr
      intro cs member
      obtain ⟨name, named, rfl⟩ := List.mem_map.mp member
      exact (h.parts name named).isPart
    have first := h.parts part List.mem_cons_self
    obtain ⟨c, cs, start⟩ : ∃ c cs, part.toList = c :: cs := by
      apply List.exists_cons_of_ne_nil
      intro empty
      have isPart := first.isPart
      rw [empty] at isPart
      cases isPart
    obtain ⟨below, joined⟩ : ∃ below, Text.joined '/' ((part :: rest).map String.toList) =
        c :: below := by
      rw [List.map_cons, start]
      cases rest with
      | nil => exact ⟨cs, rfl⟩
      | cons next rest => exact ⟨_, Text.joined_cons '/' _ (List.cons_ne_nil _ _)⟩
    have other : c ≠ '/' := by
      intro slash
      exact first.noSlash (start ▸ slash ▸ List.mem_cons_self)
    have text : (render ⟨root, part :: rest⟩).toList = root.toList ++ c :: below := by
      rw [render, joined, List.isEmpty_cons, Bool.and_false, if_neg Bool.false_ne_true,
        String.toList_ofList]
    have names : (Text.pieces '/' (c :: below)).filter isPart =
        (part :: rest).map String.toList := by
      have some_part : (part :: rest).map String.toList ≠ [] := List.cons_ne_nil _ _
      rw [← joined, Text.pieces_joined some_part free, named]
    rw [read, text, rootOf_append h.root below other, parts_append h.root, names, List.map_map]
    simp

end FilePath

/-! ### Home directories -/

def Homes.AreAbsolute (homes : Homes) : Prop :=
  ∀ user home, homes user = some home → home.toList.head? = some '/'

namespace FilePath

variable {p : FilePath} {homes : Homes}

theorem rootOf_slash (cs : List Char) : rootOf ('/' :: cs) ≠ "" := by
  unfold rootOf
  split
  · simp
  · simp
  · simp
  · next other => exact absurd rfl (other cs)

theorem root_read {text : String} (absolute : text.toList.head? = some '/') :
    (read text).root ≠ "" := by
  obtain ⟨cs, start⟩ := List.head?_eq_some_iff.mp absolute
  rw [read, start]
  exact rootOf_slash cs

theorem expand?_of_root (rooted : p.root ≠ "") : p.expand? homes = some p := by
  have given : p.root.isEmpty = false := by simpa using rooted
  rw [expand?, given]
  split <;> rfl

theorem expand?_cases {q : FilePath} (found : p.expand? homes = some q) :
    q = p ∨ ∃ user home first rest, homes user = some home ∧ p.parts = first :: rest ∧
      q = (read home).append rest := by
  rw [expand?] at found
  split at found
  · exact .inl (Option.some.inj found).symm
  · next first rest parts =>
    split at found
    · next user _ _ =>
      obtain ⟨home, known, rfl⟩ := Option.map_eq_some_iff.mp found
      exact .inr ⟨_, home, first, rest, known, parts, rfl⟩
    · exact .inl (Option.some.inj found).symm

theorem IsNormal.expand? (h : p.IsNormal) {q : FilePath} (found : p.expand? homes = some q) :
    q.IsNormal := by
  rcases expand?_cases found with rfl | ⟨user, home, first, rest, -, parts, rfl⟩
  · exact h
  · refine (isNormal_read home).append fun part member => ?_
    exact h.parts part (parts ▸ List.mem_cons_of_mem first member)

theorem expand?_expand? (absolute : homes.AreAbsolute) {q : FilePath}
    (found : p.expand? homes = some q) : q.expand? homes = some q := by
  rcases expand?_cases found with rfl | ⟨user, home, first, rest, known, -, rfl⟩
  · exact found
  · exact expand?_of_root (root_read (absolute user home known))

end FilePath

end Concordance
