import Concordance.Proofs.Keyed
import Concordance.Proofs.Json.Compact
import Concordance.Proofs.Json.Number

/-! Data reads back from its text, in either layout: with its integers, if they are not too long,
all its floating point numbers and strings, and its members in their order, if their names are
distinct. -/

namespace Concordance.Json

open Reader

mutual

/-- Integers that are not too long, and distinct names of members, at every level. -/
def IsReadable : Json → Prop
  | .int i => Numeral.IsShort i
  | .arr items => AreReadable items
  | .obj members => (members.map (·.1)).Nodup ∧ HaveReadable members
  | _ => True

def AreReadable : List Json → Prop
  | [] => True
  | v :: vs => IsReadable v ∧ AreReadable vs

def HaveReadable : List (String × Json) → Prop
  | [] => True
  | (_, v) :: ms => IsReadable v ∧ HaveReadable ms

end

theorem areReadable_iff {vs : List Json} : AreReadable vs ↔ ∀ v ∈ vs, IsReadable v := by
  induction vs with
  | nil => simp [AreReadable]
  | cons v vs ih => simp [AreReadable, ih]

theorem haveReadable_iff {ms : List (String × Json)} :
    HaveReadable ms ↔ ∀ m ∈ ms, IsReadable m.2 := by
  induction ms with
  | nil => simp [HaveReadable]
  | cons m ms ih => simp [HaveReadable, ih]

mutual

/-- How many lists and objects are open at most, one within another. -/
def nesting : Json → Nat
  | .arr items => nestingItems items + 1
  | .obj members => nestingMembers members + 1
  | _ => 0

def nestingItems : List Json → Nat
  | [] => 0
  | v :: vs => max (nesting v) (nestingItems vs)

def nestingMembers : List (String × Json) → Nat
  | [] => 0
  | (_, v) :: ms => max (nesting v) (nestingMembers ms)

end

/-! ### Layouts -/

/-- The blanks before an item or a closing bracket at each depth, and after the name of a
member. -/
structure Layout where
  gap : Nat → List Char
  space : List Char
  blankGap : ∀ depth, ∀ c ∈ gap depth, isSpace c
  blankSpace : ∀ c ∈ space, isSpace c

mutual

def spelled (l : Layout) (depth : Nat) : Json → List Char
  | .arr [] => ['[', ']']
  | .arr (v :: vs) =>
    '[' :: (l.gap (depth + 1) ++ (spelled l (depth + 1) v ++ laterItems l depth vs))
  | .obj [] => ['\x7b', '\x7d']
  | .obj ((k, v) :: ms) => '\x7b' :: (l.gap (depth + 1) ++
      (quoted k ++ ':' :: (l.space ++ (spelled l (depth + 1) v ++ laterMembers l depth ms))))
  | v => scalarText v

def laterItems (l : Layout) (depth : Nat) : List Json → List Char
  | [] => l.gap depth ++ [']']
  | v :: vs => ',' :: (l.gap (depth + 1) ++ (spelled l (depth + 1) v ++ laterItems l depth vs))

def laterMembers (l : Layout) (depth : Nat) : List (String × Json) → List Char
  | [] => l.gap depth ++ ['\x7d']
  | (k, v) :: ms => ',' :: (l.gap (depth + 1) ++
      (quoted k ++ ':' :: (l.space ++ (spelled l (depth + 1) v ++ laterMembers l depth ms))))

end

def joinedItems (l : Layout) (depth : Nat) : List Json → List Char
  | [] => l.gap depth ++ [']']
  | v :: vs => spelled l (depth + 1) v ++ laterItems l depth vs

def joinedMembers (l : Layout) (depth : Nat) : List (String × Json) → List Char
  | [] => l.gap depth ++ ['\x7d']
  | (k, v) :: ms =>
    quoted k ++ ':' :: (l.space ++ (spelled l (depth + 1) v ++ laterMembers l depth ms))

namespace Layout

def bare : Layout := ⟨fun _ => [], [], nofun, nofun⟩

def lined : Layout where
  gap := newline
  space := [' ']
  blankGap := by
    intro depth c member
    rcases List.mem_cons.mp member with rfl | blank
    · rfl
    · rw [List.eq_of_mem_replicate blank]
      rfl
  blankSpace := List.forall_mem_singleton.mpr rfl

end Layout

mutual

theorem compact_eq : (v : Json) → (depth : Nat) → compact v = spelled .bare depth v
  | .null, _ | .bool _, _ | .int _, _ | .float _, _ | .str _, _ => by
    rw [spelled, compact] <;> nofun
  | .arr [], _ => rfl
  | .arr (v :: vs), depth => by
    rw [compact, spelled, compactItems_cons, compact_eq v, afterItem_eq_later vs depth]
    rfl
  | .obj [], _ => rfl
  | .obj ((k, v) :: ms), depth => by
    rw [compact, spelled, compactMembers_cons, compact_eq v, afterMember_eq_later ms depth]
    rfl

theorem afterItem_eq_later : (vs : List Json) → (depth : Nat) →
    afterItem vs = laterItems .bare depth vs
  | [], _ => rfl
  | v :: vs, depth => by
    rw [afterItem, laterItems, compactItems_cons, compact_eq v, afterItem_eq_later vs depth]
    rfl

theorem afterMember_eq_later : (ms : List (String × Json)) → (depth : Nat) →
    afterMember ms = laterMembers .bare depth ms
  | [], _ => rfl
  | (k, v) :: ms, depth => by
    rw [afterMember, laterMembers, compactMembers_cons, compact_eq v, afterMember_eq_later ms depth]
    rfl

end

mutual

theorem pretty_eq : (v : Json) → (depth : Nat) → pretty depth v = spelled .lined depth v
  | .null, _ | .bool _, _ | .int _, _ | .float _, _ | .str _, _ => by rw [spelled, pretty] <;> nofun
  | .arr [], _ => rfl
  | .arr (v :: vs), depth => by
    rw [pretty, spelled, prettyItems_eq (v :: vs) depth]
    · rfl
    · nofun
  | .obj [], _ => rfl
  | .obj ((k, v) :: ms), depth => by
    rw [pretty, spelled, prettyMembers_eq ((k, v) :: ms) depth]
    · rfl
    · nofun

theorem prettyItems_eq : (vs : List Json) → (depth : Nat) →
    prettyItems depth vs = joinedItems .lined depth vs
  | [], _ => rfl
  | [v], depth => by
    rw [prettyItems, pretty_eq v, joinedItems, laterItems, List.append_assoc]
    rfl
  | v :: w :: ws, depth => by
    rw [prettyItems, pretty_eq v, prettyItems_eq (w :: ws)]
    · simp [Layout.lined, joinedItems, laterItems]
    · nofun

theorem prettyMembers_eq : (ms : List (String × Json)) → (depth : Nat) →
    prettyMembers depth ms = joinedMembers .lined depth ms
  | [], _ => rfl
  | [(k, v)], depth => by
    rw [prettyMembers, pretty_eq v, joinedMembers, laterMembers]
    simp [Layout.lined]
  | (k, v) :: (k', w) :: ms, depth => by
    rw [prettyMembers, pretty_eq v, prettyMembers_eq ((k', w) :: ms)]
    · simp [Layout.lined, joinedMembers, laterMembers]
    · nofun

end

mutual

theorem nesting_le_length (l : Layout) : (depth : Nat) → (v : Json) →
    nesting v ≤ (spelled l depth v).length
  | _, .null | _, .bool _ | _, .int _ | _, .float _ | _, .str _ => Nat.zero_le _
  | _, .arr [] | _, .obj [] => Nat.le_succ 1
  | depth, .arr (v :: vs) => by
    have first := nesting_le_length l (depth + 1) v
    have later := nestingItems_le_length l depth vs
    simp only [nesting, nestingItems, spelled, List.length_cons, List.length_append]
    omega
  | depth, .obj ((k, v) :: ms) => by
    have first := nesting_le_length l (depth + 1) v
    have later := nestingMembers_le_length l depth ms
    simp only [nesting, nestingMembers, spelled, List.length_cons, List.length_append]
    omega

theorem nestingItems_le_length (l : Layout) : (depth : Nat) → (vs : List Json) →
    nestingItems vs ≤ (laterItems l depth vs).length
  | _, [] => Nat.zero_le _
  | depth, v :: vs => by
    have first := nesting_le_length l (depth + 1) v
    have later := nestingItems_le_length l depth vs
    simp only [nestingItems, laterItems, List.length_cons, List.length_append]
    omega

theorem nestingMembers_le_length (l : Layout) : (depth : Nat) → (ms : List (String × Json)) →
    nestingMembers ms ≤ (laterMembers l depth ms).length
  | _, [] => Nat.zero_le _
  | depth, (k, v) :: ms => by
    have first := nesting_le_length l (depth + 1) v
    have later := nestingMembers_le_length l depth ms
    simp only [nestingMembers, laterMembers, List.length_cons, List.length_append]
    omega

end

/-! ### Reading -/

namespace Reader

def Follows (rest : List Char) : Prop := ∀ c ∈ rest.head?, isDelimiter c || isSpace c

def startsWord (c : Char) : Bool := c.isDigit || ['-', 'n', 't', 'f', 'N', 'I'].contains c

variable {n : Nat} {c : Char} {cs rest : List Char}

theorem skip_blank (blank : ∀ c ∈ cs, isSpace c) (rest : List Char) :
    skip (cs ++ rest) = skip rest := List.dropWhile_append_of_pos blank

theorem skip_cons (solid : isSpace c = false) (cs : List Char) : skip (c :: cs) = c :: cs := by
  rw [skip, List.dropWhile_cons_of_neg (by simp [solid])]

theorem Follows.delimiter (h : isDelimiter c) (rest : List Char) : Follows (c :: rest) := by
  intro d first
  cases first
  rw [h]
  rfl

theorem Follows.blank (blank : ∀ c ∈ cs, isSpace c) (c : Char) (delimiter : isDelimiter c)
    (rest : List Char) : Follows (cs ++ c :: rest) := by
  intro d first
  cases cs with
  | nil => exact Follows.delimiter delimiter rest d first
  | cons e es =>
    cases first
    rw [blank d List.mem_cons_self, Bool.or_true]

theorem Follows.halts (follows : Follows rest) : Halts rest := by
  intro c first
  have known := follows c first
  simp only [isDelimiter, isSpace, Bool.or_eq_true, beq_iff_eq] at known
  rcases known with ((rfl | rfl) | rfl) | ((rfl | rfl) | rfl) | rfl <;> decide

theorem startsWord_other (h : startsWord c) : isSpace c = false ∧ c ≠ '"' ∧ c ≠ '[' ∧ c ≠ '\x7b' ∧
    c ≠ ']' := by
  rw [startsWord, Bool.or_eq_true] at h
  rcases h with digit | word
  · refine ⟨?_, ne_of_isDigit digit rfl, ne_of_isDigit digit rfl, ne_of_isDigit digit rfl,
      ne_of_isDigit digit rfl⟩
    simp only [isSpace, Bool.or_eq_false_iff, beq_eq_false_iff_ne]
    exact ⟨⟨⟨ne_of_isDigit digit rfl, ne_of_isDigit digit rfl⟩, ne_of_isDigit digit rfl⟩,
      ne_of_isDigit digit rfl⟩
  · simp only [List.contains_iff_mem, List.mem_cons, List.not_mem_nil, or_false] at word
    rcases word with rfl | rfl | rfl | rfl | rfl | rfl <;> decide

theorem value_other {levels : Nat} (quote : c ≠ '"') (list : c ≠ '[') (mapping : c ≠ '\x7b') :
    value (n + 1) levels (c :: cs) = spelledRight (scalar (c :: cs)) := by
  rw [value]
  · intro r same
    exact quote (List.cons.inj same).1
  · intro r same
    exact list (List.cons.inj same).1
  · intro r same
    exact mapping (List.cons.inj same).1

theorem value_word (start : startsWord c) (n levels : Nat) (cs : List Char) :
    value (n + 1) levels (c :: cs) = spelledRight (scalar (c :: cs)) := by
  obtain ⟨-, quote, list, mapping, -⟩ := startsWord_other start
  exact value_other quote list mapping

def isWord : Json → Bool
  | .null | .bool _ | .int _ | .float _ => true
  | _ => false

theorem start_scalarText {v : Json} (word : isWord v) :
    ∃ c cs, scalarText v = c :: cs ∧ startsWord c := by
  cases v with
  | null => exact ⟨_, _, rfl, rfl⟩
  | bool b => cases b <;> exact ⟨_, _, rfl, rfl⟩
  | int i =>
    obtain ⟨c, cs, shape⟩ := List.exists_cons_of_ne_nil (Numeral.signed_ne_nil i)
    have numeral := isNumeral_of_mem_signed (i := i) (shape ▸ List.mem_cons_self : c ∈ _)
    refine ⟨c, cs, shape, ?_⟩
    rw [isNumeral, Bool.or_eq_true, beq_iff_eq] at numeral
    rcases numeral with digit | rfl
    · rw [startsWord, digit]
      rfl
    · rfl
  | float x =>
    cases x with
    | nan => exact ⟨_, _, rfl, rfl⟩
    | infinite negative => cases negative <;> exact ⟨_, _, rfl, rfl⟩
    | finite negative place =>
      cases negative with
      | true => exact ⟨_, _, rfl, rfl⟩
      | false =>
        obtain ⟨d, written, -, text, -⟩ := exists_text place.isLt
        obtain ⟨c, cs, shape⟩ := List.exists_cons_of_ne_nil written.whole.1
        refine ⟨c, _, text.trans (congrArg (· ++ _) shape), ?_⟩
        rw [startsWord, written.whole.2 c (shape ▸ List.mem_cons_self)]
        rfl
  | str s => cases word
  | arr items => cases word
  | obj members => cases word

theorem scalar_scalarText {v : Json} (word : isWord v) (readable : IsReadable v)
    (follows : Follows rest) : scalar (scalarText v ++ rest) = some (v, rest) := by
  cases v with
  | null => rfl
  | bool b => cases b <;> rfl
  | int i => exact scalar_signed readable follows.halts
  | float x => exact scalar_render x follows.halts
  | str s => cases word
  | arr items => cases word
  | obj members => cases word

/-! ### Values -/

variable {l : Layout}

theorem start_spelled (l : Layout) (depth : Nat) (v : Json) :
    ∃ c cs, spelled l depth v = c :: cs ∧ isSpace c = false ∧ c ≠ ']' := by
  have word (v : Json) (h : isWord v) : ∃ c cs, scalarText v = c :: cs ∧ isSpace c = false ∧
      c ≠ ']' := by
    obtain ⟨c, cs, shape, start⟩ := start_scalarText h
    obtain ⟨solid, -, -, -, noEnd⟩ := startsWord_other start
    exact ⟨c, cs, shape, solid, noEnd⟩
  match v with
  | .null => exact word .null rfl
  | .bool b => exact word (.bool b) rfl
  | .int i => exact word (.int i) rfl
  | .float x => exact word (.float x) rfl
  | .str s => exact ⟨'"', _, rfl, rfl, by decide⟩
  | .arr [] => exact ⟨'[', _, rfl, rfl, by decide⟩
  | .arr (_ :: _) => exact ⟨'[', _, rfl, rfl, by decide⟩
  | .obj [] => exact ⟨'\x7b', _, rfl, rfl, by decide⟩
  | .obj ((_, _) :: _) => exact ⟨'\x7b', _, rfl, rfl, by decide⟩

theorem skip_spelled (depth : Nat) (v : Json) (rest : List Char) :
    skip (spelled l depth v ++ rest) = spelled l depth v ++ rest := by
  obtain ⟨c, cs, shape, solid, -⟩ := start_spelled l depth v
  rw [shape, List.cons_append, skip_cons solid]

theorem length_spelled_pos (depth : Nat) (v : Json) : 0 < (spelled l depth v).length := by
  obtain ⟨c, cs, shape, -⟩ := start_spelled l depth v
  rw [shape]
  exact Nat.succ_pos _

theorem value_scalarText {v : Json} (word : isWord v) (readable : IsReadable v)
    (follows : Follows rest) (n levels : Nat) :
    value (n + 1) levels (scalarText v ++ rest) = .ok (v, rest) := by
  obtain ⟨c, cs, shape, start⟩ := start_scalarText word
  have read := scalar_scalarText word readable follows
  rw [shape, List.cons_append] at read ⊢
  rw [value_word start, read]
  rfl

section Steps

variable {levels : Nat} {v : Json} {r next : List Char}

theorem items_end (found : value n levels cs = .ok (v, r)) (close : skip r = ']' :: rest) :
    items (n + 1) levels cs = .ok ([v], rest) := by
  rw [items]
  simp only [found, ok_bind, close]

theorem items_next {vs : List Json} (found : value n levels cs = .ok (v, r))
    (comma : skip r = ',' :: next) (later : items n levels (skip next) = .ok (vs, rest)) :
    items (n + 1) levels cs = .ok (v :: vs, rest) := by
  rw [items]
  simp only [found, ok_bind, comma, later]

theorem memberName_quoted (key : String) (after : List Char) :
    memberName (quoted key ++ ':' :: after) = .ok (key, skip after) := by
  have shape : quoted key ++ ':' :: after =
      '"' :: (key.toList.flatMap escapeChar ++ '"' :: ':' :: after) := by
    simp [quoted]
  have read := stringBody_quoted key (':' :: after)
  have colon : skip (':' :: after) = ':' :: after := rfl
  rw [shape, memberName]
  simp only [read, spelledRight, ok_bind, colon, String.ofList_toList]

variable {key : String} {after : List Char}

theorem members_end (found : value n levels (skip after) = .ok (v, r))
    (close : skip r = '\x7d' :: rest) :
    members (n + 1) levels (quoted key ++ ':' :: after) = .ok ([(key, v)], rest) := by
  rw [members]
  simp only [memberName_quoted, ok_bind, found, close]

theorem members_next {ms : List (String × Json)} (found : value n levels (skip after) = .ok (v, r))
    (comma : skip r = ',' :: next) (later : members n levels (skip next) = .ok (ms, rest)) :
    members (n + 1) levels (quoted key ++ ':' :: after) = .ok ((key, v) :: ms, rest) := by
  rw [members]
  simp only [memberName_quoted, ok_bind, found, comma, later]

theorem value_members {ms : List (String × Json)} (first : skip r = '"' :: cs)
    (found : members n levels ('"' :: cs) = .ok (ms, rest)) :
    value (n + 1) (levels + 1) ('\x7b' :: r) = .ok (.obj (Keyed.ofList ms).entries, rest) := by
  rw [value, first]
  change (members n levels ('"' :: cs) >>=
    fun read => .ok (obj (Keyed.ofList read.1).entries, read.2)) = _
  rw [found, ok_bind]

end Steps

mutual

theorem value_spelled : (v : Json) → (depth : Nat) → {n levels : Nat} → {rest : List Char} →
    IsReadable v → nesting v ≤ levels → Follows rest → (spelled l depth v).length ≤ n →
    value n levels (spelled l depth v ++ rest) = .ok (v, rest)
  | v, depth, 0, _, rest, _, _, _, fuel => absurd (length_spelled_pos (l := l) depth v) (by omega)
  | .null, _, n + 1, levels, rest, readable, _, follows, _ =>
    value_scalarText (v := .null) rfl readable follows n levels
  | .bool b, _, n + 1, levels, rest, readable, _, follows, _ =>
    value_scalarText (v := .bool b) rfl readable follows n levels
  | .int i, _, n + 1, levels, rest, readable, _, follows, _ =>
    value_scalarText (v := .int i) rfl readable follows n levels
  | .float x, _, n + 1, levels, rest, readable, _, follows, _ =>
    value_scalarText (v := .float x) rfl readable follows n levels
  | .str s, _, n + 1, levels, rest, _, _, _, _ => value_quoted n levels s rest
  | .arr _, _, _ + 1, 0, _, _, nested, _, _ | .obj _, _, _ + 1, 0, _, _, nested, _, _ =>
    absurd nested (Nat.not_succ_le_zero _)
  | .arr [], depth, n + 1, _ + 1, rest, _, _, _, _ => rfl
  | .arr (v :: vs), depth, n + 1, levels + 1, rest, readable, nested, _, fuel => by
    have found : items n levels (joinedItems l depth (v :: vs) ++ rest) = .ok (v :: vs, rest) := by
      apply items_spelled (v :: vs) depth nofun readable (Nat.le_of_succ_le_succ nested)
      rw [spelled] at fuel
      simp only [List.length_cons, List.length_append, joinedItems] at fuel ⊢
      omega
    obtain ⟨c, cs, shape, solid, noEnd⟩ := start_spelled l (depth + 1) v
    have open_ : spelled l depth (.arr (v :: vs)) ++ rest =
        '[' :: (l.gap (depth + 1) ++ (joinedItems l depth (v :: vs) ++ rest)) := by
      simp [spelled, joinedItems]
    have first : joinedItems l depth (v :: vs) ++ rest =
        c :: (cs ++ laterItems l depth vs ++ rest) := by
      rw [joinedItems, shape]
      rfl
    rw [open_, value, skip_blank (l.blankGap _), first, skip_cons solid]
    split
    · next close => exact absurd (List.cons.inj close).1 noEnd
    · rw [← first, found]
      rfl
  | .obj [], depth, n + 1, _ + 1, rest, _, _, _, _ => rfl
  | .obj ((k, v) :: ms), depth, n + 1, levels + 1, rest, readable, nested, _, fuel => by
    have found : members n levels (joinedMembers l depth ((k, v) :: ms) ++ rest) =
        .ok ((k, v) :: ms, rest) := by
      apply members_spelled ((k, v) :: ms) depth nofun readable.2 (Nat.le_of_succ_le_succ nested)
      rw [spelled] at fuel
      simp only [List.length_cons, List.length_append, joinedMembers] at fuel ⊢
      omega
    have open_ : spelled l depth (.obj ((k, v) :: ms)) ++ rest =
        '\x7b' :: (l.gap (depth + 1) ++ (joinedMembers l depth ((k, v) :: ms) ++ rest)) := by
      simp [spelled, joinedMembers]
    have first : ∃ cs, joinedMembers l depth ((k, v) :: ms) ++ rest = '"' :: cs := ⟨_, rfl⟩
    obtain ⟨cs, first⟩ := first
    rw [first] at found
    rw [open_, value_members _ found, Keyed.entries_ofList readable.1]
    rw [skip_blank (l.blankGap _), first, skip_cons rfl]

theorem items_spelled : (vs : List Json) → (depth : Nat) → {n levels : Nat} →
    {rest : List Char} → vs ≠ [] → AreReadable vs → nestingItems vs ≤ levels →
    (joinedItems l depth vs).length ≤ n →
    items n levels (joinedItems l depth vs ++ rest) = .ok (vs, rest)
  | [], _, _, _, _, filled, _, _, _ => absurd rfl filled
  | v :: vs, depth, 0, _, rest, _, _, _, fuel => by
    have positive := length_spelled_pos (l := l) (depth + 1) v
    rw [joinedItems, List.length_append] at fuel
    omega
  | [v], depth, n + 1, levels, rest, _, readable, nested, fuel => by
    rw [joinedItems, laterItems, List.length_append, List.length_append, List.length_singleton]
      at fuel
    rw [joinedItems, laterItems, List.append_assoc, List.append_assoc]
    apply items_end (value_spelled v (depth + 1) readable.1 (Nat.max_le.mp nested).1
      (.blank (l.blankGap depth) ']' rfl rest) (by omega))
    exact skip_blank (l.blankGap depth) _
  | v :: w :: ws, depth, n + 1, levels, rest, _, readable, nested, fuel => by
    have first := length_spelled_pos (l := l) (depth + 1) v
    have later : laterItems l depth (w :: ws) =
        ',' :: (l.gap (depth + 1) ++ joinedItems l depth (w :: ws)) := by
      rw [laterItems, joinedItems]
    rw [joinedItems, later, List.length_append, List.length_cons, List.length_append] at fuel
    have next : skip (l.gap (depth + 1) ++ joinedItems l depth (w :: ws) ++ rest) =
        joinedItems l depth (w :: ws) ++ rest := by
      rw [List.append_assoc, skip_blank (l.blankGap _), joinedItems, List.append_assoc,
        skip_spelled]
    rw [joinedItems, later, List.append_assoc]
    apply items_next (value_spelled v (depth + 1) readable.1 (Nat.max_le.mp nested).1
      (.delimiter rfl _) (by omega)) (skip_cons rfl _)
    refine (congrArg (items n levels) next).trans ?_
    exact items_spelled (w :: ws) depth nofun readable.2 (Nat.max_le.mp nested).2 (by omega)

theorem members_spelled : (ms : List (String × Json)) → (depth : Nat) → {n levels : Nat} →
    {rest : List Char} → ms ≠ [] → HaveReadable ms → nestingMembers ms ≤ levels →
    (joinedMembers l depth ms).length ≤ n →
    members n levels (joinedMembers l depth ms ++ rest) = .ok (ms, rest)
  | [], _, _, _, _, filled, _, _, _ => absurd rfl filled
  | (k, v) :: ms, depth, 0, _, rest, _, _, _, fuel => by
    simp [joinedMembers] at fuel
  | [(k, v)], depth, n + 1, levels, rest, _, readable, nested, fuel => by
    rw [joinedMembers, laterMembers, List.length_append, List.length_cons, List.length_append,
      List.length_append] at fuel
    rw [joinedMembers, laterMembers, List.append_assoc, List.cons_append, List.append_assoc,
      List.append_assoc, List.append_assoc]
    refine members_end (r := l.gap depth ++ '\x7d' :: rest) ?_ (skip_blank (l.blankGap depth) _)
    rw [skip_blank l.blankSpace, skip_spelled]
    exact value_spelled v (depth + 1) readable.1 (Nat.max_le.mp nested).1
      (.blank (l.blankGap depth) '\x7d' rfl rest) (by omega)
  | (k, v) :: (k', w) :: ms, depth, n + 1, levels, rest, _, readable, nested, fuel => by
    have later : laterMembers l depth ((k', w) :: ms) =
        ',' :: (l.gap (depth + 1) ++ joinedMembers l depth ((k', w) :: ms)) := by
      rw [laterMembers, joinedMembers]
    have next : skip (l.gap (depth + 1) ++ joinedMembers l depth ((k', w) :: ms) ++ rest) =
        joinedMembers l depth ((k', w) :: ms) ++ rest := by
      rw [List.append_assoc, skip_blank (l.blankGap _)]
      rfl
    rw [joinedMembers, later, List.length_append, List.length_cons, List.length_append,
      List.length_append, List.length_cons, List.length_append] at fuel
    rw [joinedMembers, later, List.append_assoc, List.cons_append, List.append_assoc,
      List.append_assoc]
    refine members_next (r := ',' :: _) ?_ (skip_cons rfl _)
      ((congrArg (members n levels) next).trans ?_)
    · rw [skip_blank l.blankSpace, skip_spelled]
      exact value_spelled v (depth + 1) readable.1 (Nat.max_le.mp nested).1 (.delimiter rfl _)
        (by omega)
    · exact members_spelled ((k', w) :: ms) depth nofun readable.2 (Nat.max_le.mp nested).2
        (by omega)

end

end Reader

/-- A text reads back as what it was written from, with blanks after it, if that is not nested too
deeply. -/
theorem read_spelled (l : Layout) {v : Json} (readable : IsReadable v) {depth : Nat}
    (nested : nesting v ≤ depth + 1) {after : List Char} (blank : ∀ c ∈ after, isSpace c) :
    read depth (spelled l 0 v ++ after) = .ok v := by
  have follows : Follows after := by
    intro c first
    rw [blank c (List.mem_of_mem_head? first), Bool.or_true]
  have fuel : (spelled l 0 v).length ≤ 2 * (spelled l 0 v ++ after).length + 1 := by
    rw [List.length_append]
    omega
  have rest : skip after = [] := by
    rw [← List.append_nil after]
    exact skip_blank blank []
  rw [read, skip_spelled, value_spelled v 0 readable nested follows fuel, ok_bind]
  dsimp only
  rw [rest]
  rfl

theorem read?_spelled (l : Layout) {v : Json} (readable : IsReadable v) {after : List Char}
    (blank : ∀ c ∈ after, isSpace c) : read? (spelled l 0 v ++ after) = some v := by
  have nested : nesting v ≤ (spelled l 0 v ++ after).length + 1 := by
    have levels := nesting_le_length l 0 v
    rw [List.length_append]
    omega
  rw [read?, read_spelled l readable nested blank]
  rfl

theorem read_compact {v : Json} (readable : IsReadable v) {depth : Nat}
    (nested : nesting v ≤ depth + 1) : read depth (compact v) = .ok v := by
  rw [compact_eq v 0, ← List.append_nil (spelled _ _ _)]
  exact read_spelled .bare readable nested nofun

theorem read?_compact {v : Json} (readable : IsReadable v) : read? (compact v) = some v := by
  rw [compact_eq v 0, ← List.append_nil (spelled _ _ _)]
  exact read?_spelled .bare readable nofun

theorem read?_pretty {v : Json} (readable : IsReadable v) {after : List Char}
    (blank : ∀ c ∈ after, isSpace c) : read? (pretty 0 v ++ after) = some v := by
  rw [pretty_eq]
  exact read?_spelled .lined readable blank

end Concordance.Json
