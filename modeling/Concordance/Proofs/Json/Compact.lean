import Mathlib.Data.List.Nodup
import Concordance.Proofs.Json.Text
import Concordance.Proofs.Numeral
import Concordance.Proofs.Text.Skip

/-! A text without blanks tells the data that it was written from, up to the order of members where
these are sorted. The spelling of floating point numbers is left out: no such number is part of what
is compared by its text. -/

namespace Concordance.Json

mutual

def isExact : Json → Bool
  | .float _ => false
  | .arr items => areExact items
  | .obj members => haveExact members
  | _ => true

def areExact : List Json → Bool
  | [] => true
  | v :: vs => isExact v && areExact vs

def haveExact : List (String × Json) → Bool
  | [] => true
  | (_, v) :: ms => isExact v && haveExact ms

end

theorem areExact_eq (vs : List Json) : areExact vs = vs.all isExact := by
  induction vs with
  | nil => rfl
  | cons v vs ih => rw [areExact, ih, List.all_cons]

theorem haveExact_eq (ms : List (String × Json)) : haveExact ms = ms.all fun m => isExact m.2 := by
  induction ms with
  | nil => rfl
  | cons m ms ih => rw [haveExact, ih, List.all_cons]

/-! ### One reading -/

def isDelimiter (c : Char) : Bool := c == ',' || c == ']' || c == '\x7d'

def Ends (rest : List Char) : Prop := ∀ c ∈ rest.head?, isDelimiter c

theorem Ends.nil : Ends [] := nofun

theorem Ends.cons {c : Char} {rest : List Char} (h : isDelimiter c) : Ends (c :: rest) := by
  intro d same
  cases same
  exact h

inductive Start
  | null
  | yes
  | no
  | number
  | text
  | list
  | mapping
  deriving DecidableEq

def start : Json → Start
  | .null => .null
  | .bool true => .yes
  | .bool false => .no
  | .int _ | .float _ => .number
  | .str _ => .text
  | .arr _ => .list
  | .obj _ => .mapping

def startOf (c : Char) : Start :=
  if c = 'n' then .null
  else if c = 't' then .yes
  else if c = 'f' then .no
  else if c = '"' then .text
  else if c = '[' then .list
  else if c = '\x7b' then .mapping
  else .number

def isNumeral (c : Char) : Bool := c.isDigit || c == '-'

theorem startOf_of_isNumeral {c : Char} (h : isNumeral c) : startOf c = .number := by
  have other (d : Char) (no : isNumeral d = false) : c ≠ d := by
    intro same
    rw [same, no] at h
    cases h
  rw [startOf, if_neg (other _ rfl), if_neg (other _ rfl), if_neg (other _ rfl),
    if_neg (other _ rfl), if_neg (other _ rfl), if_neg (other _ rfl)]

theorem isDelimiter_of_isNumeral {c : Char} (h : isDelimiter c) : isNumeral c = false := by
  simp only [isDelimiter, Bool.or_eq_true, beq_iff_eq] at h
  rcases h with (rfl | rfl) | rfl <;> rfl

theorem isNumeral_of_mem_signed {i : Int} {c : Char} (h : c ∈ Numeral.signed i) : isNumeral c := by
  cases i with
  | ofNat n => simp [isNumeral, Numeral.isDigit_of_mem_decimal h]
  | negSucc n =>
    rcases List.mem_cons.mp h with rfl | digit
    · rfl
    · simp [isNumeral, Numeral.isDigit_of_mem_decimal digit]

theorem start_compact {v : Json} (exact : isExact v) :
    ∃ c cs, compact v = c :: cs ∧ startOf c = v.start ∧ isDelimiter c = false := by
  cases v with
  | null => exact ⟨_, _, rfl, rfl, rfl⟩
  | bool b => cases b <;> exact ⟨_, _, rfl, rfl, rfl⟩
  | int i =>
    obtain ⟨c, cs, shape⟩ := List.exists_cons_of_ne_nil (Numeral.signed_ne_nil i)
    have numeral : isNumeral c := isNumeral_of_mem_signed (i := i) (shape ▸ List.mem_cons_self)
    refine ⟨c, cs, shape, startOf_of_isNumeral numeral, ?_⟩
    rw [← Bool.not_eq_true]
    intro delimiter
    rw [isDelimiter_of_isNumeral delimiter] at numeral
    cases numeral
  | float x => cases exact
  | str s => exact ⟨_, _, rfl, rfl, rfl⟩
  | arr items => exact ⟨_, _, rfl, rfl, rfl⟩
  | obj members => exact ⟨_, _, rfl, rfl, rfl⟩

section Unique

variable {r s : List Char}

theorem quoted_unique {a b : String} (same : quoted a ++ r = quoted b ++ s) : a = b ∧ r = s := by
  have read := congrArg (Reader.value 1 0) same
  rw [Reader.value_quoted, Reader.value_quoted, Except.ok.injEq, Prod.mk.injEq, str.injEq] at read
  exact read

theorem signed_unique {i j : Int} (endsLeft : Ends r) (endsRight : Ends s)
    (same : Numeral.signed i ++ r = Numeral.signed j ++ s) : i = j ∧ r = s := by
  have run (k : Int) {rest : List Char} (ends : Ends rest) :=
    Text.takeWhile_dropWhile_append (p := isNumeral) (Numeral.signed k) rest
      (fun c member => isNumeral_of_mem_signed member)
      fun c member => isDelimiter_of_isNumeral (ends c member)
  constructor
  · apply Numeral.signed_injective
    rw [← (run i endsLeft).1, same, (run j endsRight).1]
  · rw [← (run i endsLeft).2, same, (run j endsRight).2]

theorem start_eq {v w : Json} (left : isExact v) (right : isExact w)
    (same : compact v ++ r = compact w ++ s) : v.start = w.start := by
  obtain ⟨c, cs, shape, kind, -⟩ := start_compact left
  obtain ⟨d, ds, shape', kind', -⟩ := start_compact right
  rw [shape, shape', List.cons_append, List.cons_append, List.cons.injEq] at same
  rw [← kind, ← kind', same.1]

end Unique

def afterItem : List Json → List Char
  | [] => [']']
  | v :: vs => ',' :: compactItems (v :: vs)

def afterMember : List (String × Json) → List Char
  | [] => ['\x7d']
  | m :: ms => ',' :: compactMembers (m :: ms)

theorem compactItems_cons (v : Json) (vs : List Json) :
    compactItems (v :: vs) = compact v ++ afterItem vs := by
  cases vs <;> simp [compactItems, afterItem]

theorem compactMembers_cons (k : String) (v : Json) (ms : List (String × Json)) :
    compactMembers ((k, v) :: ms) = quoted k ++ ':' :: (compact v ++ afterMember ms) := by
  cases ms <;> simp [compactMembers, afterMember]

theorem ends_afterItem (vs : List Json) (r : List Char) : Ends (afterItem vs ++ r) := by
  cases vs <;> exact .cons rfl

theorem ends_afterMember (ms : List (String × Json)) (r : List Char) :
    Ends (afterMember ms ++ r) := by
  cases ms <;> exact .cons rfl

theorem close_ne_compactItems {w : Json} (exact : isExact w) (ws : List Json) (r s : List Char) :
    ']' :: r ≠ compactItems (w :: ws) ++ s := by
  obtain ⟨c, cs, shape, -, open_⟩ := start_compact exact
  rw [compactItems_cons, shape]
  intro same
  rw [← (List.cons.inj same).1] at open_
  cases open_

theorem close_ne_compactMembers (n : String × Json) (ns : List (String × Json)) (r s : List Char) :
    '\x7d' :: r ≠ compactMembers (n :: ns) ++ s := by
  rw [compactMembers_cons]
  intro same
  exact absurd (List.cons.inj same).1 (by decide)

theorem afterItem_eq {vs ws : List Json} {r s : List Char}
    (same : afterItem vs ++ r = afterItem ws ++ s) :
    (vs = [] ∧ ws = []) ∧ r = s ∨ compactItems vs ++ r = compactItems ws ++ s := by
  obtain ⟨mark, rest⟩ : (afterItem vs ++ r).head? = (afterItem ws ++ s).head? ∧
      (afterItem vs ++ r).tail = (afterItem ws ++ s).tail := by rw [same]; exact ⟨rfl, rfl⟩
  cases vs with
  | nil =>
    cases ws with
    | nil => exact .inl ⟨⟨rfl, rfl⟩, rest⟩
    | cons w ws => exact absurd (Option.some.inj mark) (by decide)
  | cons v vs =>
    cases ws with
    | nil => exact absurd (Option.some.inj mark) (by decide)
    | cons w ws => exact .inr rest

theorem afterMember_eq {ms ns : List (String × Json)} {r s : List Char}
    (same : afterMember ms ++ r = afterMember ns ++ s) :
    (ms = [] ∧ ns = []) ∧ r = s ∨ compactMembers ms ++ r = compactMembers ns ++ s := by
  obtain ⟨mark, rest⟩ : (afterMember ms ++ r).head? = (afterMember ns ++ s).head? ∧
      (afterMember ms ++ r).tail = (afterMember ns ++ s).tail := by rw [same]; exact ⟨rfl, rfl⟩
  cases ms with
  | nil =>
    cases ns with
    | nil => exact .inl ⟨⟨rfl, rfl⟩, rest⟩
    | cons n ns => exact absurd (Option.some.inj mark) (by decide)
  | cons m ms =>
    cases ns with
    | nil => exact absurd (Option.some.inj mark) (by decide)
    | cons n ns => exact .inr rest

theorem eq_of_start {v w : Json} (word : v = .null ∨ ∃ b, v = .bool b) (kind : v.start = w.start) :
    v = w := by
  rcases word with rfl | ⟨b, rfl⟩
  · cases w with
    | null => rfl
    | bool c => cases c <;> cases kind
    | _ => cases kind
  · cases w with
    | bool c => cases b <;> cases c <;> first | rfl | cases kind
    | _ => cases b <;> cases kind

mutual

/-- Two values with their texts followed by the end of a value are read in the same way. -/
theorem compact_unique : (v w : Json) → {r s : List Char} → isExact v → isExact w → Ends r →
    Ends s → compact v ++ r = compact w ++ s → v = w ∧ r = s
  | .null, w, r, s, left, right, _, _, same => by
    have word := eq_of_start (.inl rfl) (start_eq left right same)
    subst word
    exact ⟨rfl, List.append_cancel_left same⟩
  | .bool b, w, r, s, left, right, _, _, same => by
    have word := eq_of_start (.inr ⟨b, rfl⟩) (start_eq left right same)
    subst word
    exact ⟨rfl, List.append_cancel_left same⟩
  | .int i, w, r, s, left, right, endsLeft, endsRight, same => by
    have kind := start_eq left right same
    cases w with
    | int j =>
      obtain ⟨number, rest⟩ := signed_unique endsLeft endsRight same
      exact ⟨congrArg int number, rest⟩
    | float x => cases right
    | bool c => cases c <;> cases kind
    | _ => cases kind
  | .str a, w, r, s, left, right, _, _, same => by
    have kind := start_eq left right same
    cases w with
    | str b =>
      obtain ⟨text, rest⟩ := quoted_unique same
      exact ⟨congrArg str text, rest⟩
    | bool c => cases c <;> cases kind
    | _ => cases kind
  | .arr vs, w, r, s, left, right, _, _, same => by
    have kind := start_eq left right same
    cases w with
    | arr ws =>
      obtain ⟨items, rest⟩ := compactItems_unique vs ws left right (List.cons.inj same).2
      exact ⟨congrArg arr items, rest⟩
    | bool c => cases c <;> cases kind
    | _ => cases kind
  | .obj ms, w, r, s, left, right, _, _, same => by
    have kind := start_eq left right same
    cases w with
    | obj ns =>
      obtain ⟨members, rest⟩ := compactMembers_unique ms ns left right (List.cons.inj same).2
      exact ⟨congrArg obj members, rest⟩
    | bool c => cases c <;> cases kind
    | _ => cases kind

theorem compactItems_unique : (vs ws : List Json) → {r s : List Char} → areExact vs →
    areExact ws → compactItems vs ++ r = compactItems ws ++ s → vs = ws ∧ r = s
  | [], [], _, _, _, _, same => ⟨rfl, (List.cons.inj same).2⟩
  | [], w :: ws, r, s, _, right, same => by
    rw [areExact, Bool.and_eq_true] at right
    exact absurd same (close_ne_compactItems right.1 ws r s)
  | v :: vs, [], r, s, left, _, same => by
    rw [areExact, Bool.and_eq_true] at left
    exact absurd same.symm (close_ne_compactItems left.1 vs s r)
  | v :: vs, w :: ws, r, s, left, right, same => by
    rw [areExact, Bool.and_eq_true] at left right
    rw [compactItems_cons, compactItems_cons, List.append_assoc, List.append_assoc] at same
    obtain ⟨first, more⟩ := compact_unique v w left.1 right.1 (ends_afterItem vs r)
      (ends_afterItem ws s) same
    rcases afterItem_eq more with ⟨⟨rfl, rfl⟩, rest⟩ | more
    · exact ⟨congrArg ([·]) first, rest⟩
    · obtain ⟨items, rest⟩ := compactItems_unique vs ws left.2 right.2 more
      exact ⟨congrArg₂ List.cons first items, rest⟩

theorem compactMembers_unique : (ms ns : List (String × Json)) → {r s : List Char} →
    haveExact ms → haveExact ns → compactMembers ms ++ r = compactMembers ns ++ s →
    ms = ns ∧ r = s
  | [], [], _, _, _, _, same => ⟨rfl, (List.cons.inj same).2⟩
  | [], n :: ns, r, s, _, _, same => absurd same (close_ne_compactMembers n ns r s)
  | m :: ms, [], r, s, _, _, same => absurd same.symm (close_ne_compactMembers m ms s r)
  | (k, v) :: ms, (l, w) :: ns, r, s, left, right, same => by
    rw [haveExact, Bool.and_eq_true] at left right
    rw [compactMembers_cons, compactMembers_cons, List.append_assoc, List.append_assoc] at same
    obtain ⟨name, text⟩ := quoted_unique same
    rw [List.cons_append, List.cons_append, List.append_assoc, List.append_assoc] at text
    obtain ⟨first, more⟩ := compact_unique v w left.1 right.1 (ends_afterMember ms r)
      (ends_afterMember ns s) (List.cons.inj text).2
    rcases afterMember_eq more with ⟨⟨rfl, rfl⟩, rest⟩ | more
    · exact ⟨congrArg ([·]) (Prod.ext name first), rest⟩
    · obtain ⟨members, rest⟩ := compactMembers_unique ms ns left.2 right.2 more
      exact ⟨congrArg₂ List.cons (Prod.ext name first) members, rest⟩

end

theorem compact_injective {v w : Json} (left : isExact v) (right : isExact w)
    (same : compact v = compact w) : v = w :=
  (compact_unique v w left right .nil .nil (congrArg (· ++ []) same)).1

/-! ### Sorted members -/

theorem sortedItems_eq (vs : List Json) : sortedItems vs = vs.map sorted := by
  induction vs with
  | nil => rfl
  | cons v vs ih => rw [sortedItems, ih, List.map_cons]

theorem sortedMembers_eq (ms : List (String × Json)) :
    sortedMembers ms = ms.map fun m => (m.1, sorted m.2) := by
  induction ms with
  | nil => rfl
  | cons m ms ih => rw [sortedMembers, ih, List.map_cons]

mutual

theorem isExact_sorted : (v : Json) → isExact (sorted v) = isExact v
  | .null | .bool _ | .int _ | .float _ | .str _ => rfl
  | .arr items => areExact_sortedItems items
  | .obj members => by
    rw [sorted, isExact, haveExact_eq, (List.mergeSort_perm _ _).all_eq, ← haveExact_eq]
    exact haveExact_sortedMembers members

theorem areExact_sortedItems : (vs : List Json) → areExact (sortedItems vs) = areExact vs
  | [] => rfl
  | v :: vs => congrArg₂ (· && ·) (isExact_sorted v) (areExact_sortedItems vs)

theorem haveExact_sortedMembers : (ms : List (String × Json)) →
    haveExact (sortedMembers ms) = haveExact ms
  | [] => rfl
  | (_, v) :: ms => congrArg₂ (· && ·) (isExact_sorted v) (haveExact_sortedMembers ms)

end

theorem sorted_eq_of_stable {v w : Json} (left : isExact v) (right : isExact w)
    (same : stable v = stable w) : sorted v = sorted w := by
  rw [stable, stable, String.ofList_inj] at same
  exact compact_injective (isExact_sorted v ▸ left) (isExact_sorted w ▸ right) same

theorem perm_of_sorted_obj {ms ns : List (String × Json)}
    (same : sorted (.obj ms) = sorted (.obj ns)) :
    (ms.map fun m => (m.1, sorted m.2)).Perm (ns.map fun n => (n.1, sorted n.2)) := by
  rw [sorted, sorted, obj.injEq, sortedMembers_eq, sortedMembers_eq] at same
  have left := List.mergeSort_perm (ms.map fun m => (m.1, sorted m.2)) keyLe
  have right := List.mergeSort_perm (ns.map fun n => (n.1, sorted n.2)) keyLe
  exact (same ▸ left.symm).trans right

theorem sorted_value_eq {ms ns : List (String × Json)} (same : sorted (.obj ms) = sorted (.obj ns))
    (distinct : (ns.map (·.1)).Nodup) {key : String} {v w : Json} (left : (key, v) ∈ ms)
    (right : (key, w) ∈ ns) : sorted v = sorted w := by
  have member : (key, sorted v) ∈ ns.map fun n => (n.1, sorted n.2) :=
    (perm_of_sorted_obj same).mem_iff.mp (List.mem_map_of_mem left)
  obtain ⟨n, inside, shape⟩ := List.mem_map.mp member
  obtain ⟨name, value⟩ := Prod.mk.inj shape
  rw [List.inj_on_of_nodup_map distinct inside right name] at value
  exact value.symm

theorem eq_of_perm_of_names {α : Type} {es fs : List (String × α)} (same : es.Perm fs)
    (names : es.map (·.1) = fs.map (·.1)) (distinct : (es.map (·.1)).Nodup) : es = fs := by
  induction es generalizing fs with
  | nil => exact same.nil_eq
  | cons e es ih =>
    cases fs with
    | nil => exact absurd same.length_eq (Nat.succ_ne_zero _)
    | cons f fs =>
      rw [List.map_cons, List.map_cons, List.cons.injEq] at names
      rw [List.map_cons, List.nodup_cons] at distinct
      have first : e = f := by
        rcases List.mem_cons.mp (same.mem_iff.mp List.mem_cons_self) with here | later
        · exact here
        · exact absurd (names.2 ▸ List.mem_map_of_mem later) distinct.1
      subst first
      rw [ih ((List.perm_cons e).mp same) names.2 distinct.2]

theorem values_eq_of_sorted_obj {ms ns : List (String × Json)}
    (same : sorted (.obj ms) = sorted (.obj ns)) (names : ms.map (·.1) = ns.map (·.1))
    (distinct : (ms.map (·.1)).Nodup) :
    ms.map (fun m => sorted m.2) = ns.map fun n => sorted n.2 := by
  have whole := eq_of_perm_of_names (perm_of_sorted_obj same)
    (by simpa [Function.comp_def] using names) (by simpa [Function.comp_def] using distinct)
  simpa [Function.comp_def] using congrArg (List.map (·.2)) whole

end Concordance.Json
