import Concordance.Proofs.Json.Reread

/-! How deeply a text may be nested decides whether it is read, and nothing else: what is read with
some levels is read with more, and every text is read or malformed with as many levels as it has
characters. -/

namespace Concordance.Json

namespace Reader

variable {n levels : Nat} {c : Char} {cs r : List Char}

/-! ### Outcomes -/

theorem ok_ne_tooDeep {α : Type} (a : α) : (.ok a : Except Failure α) ≠ .error .tooDeep := nofun

theorem malformed_ne_tooDeep {α : Type} :
    (.error .malformed : Except Failure α) ≠ .error .tooDeep := nofun

theorem spelledRight_ne_tooDeep {α : Type} (found : Option α) :
    spelledRight found ≠ .error .tooDeep := by
  cases found with
  | none => exact malformed_ne_tooDeep
  | some a => exact ok_ne_tooDeep a

theorem bind_ne_tooDeep {α β : Type} {x : Except Failure α} {f : α → Except Failure β}
    (first : x ≠ .error .tooDeep) (later : ∀ a, f a ≠ .error .tooDeep) :
    (x >>= f) ≠ .error .tooDeep := by
  cases x with
  | error e => exact fun same => first (congrArg Except.error (Except.error.inj same))
  | ok a => exact later a

/-! ### One step of the reader -/

theorem value_nil : value (n + 1) levels [] = spelledRight (scalar []) := by
  rw [value] <;> nofun

theorem head?_ne_of_forall (other : ∀ r, cs = c :: r → False) : cs.head? ≠ some c := by
  intro head
  obtain ⟨r, same⟩ := List.head?_eq_some_iff.mp head
  exact other r same

theorem value_list : value (n + 1) (levels + 1) ('[' :: r) =
    if (skip r).head? = some ']' then .ok (.arr [], (skip r).tail)
    else items n levels (skip r) >>= fun found => .ok (.arr found.1, found.2) := by
  rw [value]
  split
  · next same => rw [same]; rfl
  · next other => rw [if_neg (head?_ne_of_forall other)]

theorem value_object : value (n + 1) (levels + 1) ('\x7b' :: r) =
    if (skip r).head? = some '\x7d' then .ok (.obj [], (skip r).tail)
    else members n levels (skip r) >>= fun found =>
      .ok (.obj (Keyed.ofList found.1).entries, found.2) := by
  rw [value]
  split
  · next same => rw [same]; rfl
  · next other => rw [if_neg (head?_ne_of_forall other)]

/-- The next character of a value leads to what does not depend on how many levels are left, or one
level down to the contents of a list or of an object. -/
theorem value_cases (n : Nat) (cs : List Char) :
    (∃ x, x ≠ .error .tooDeep ∧ ∀ levels, value (n + 1) levels cs = x) ∨
      value (n + 1) 0 cs = .error .tooDeep ∧
        ((∃ v, ∀ levels, value (n + 1) (levels + 1) cs = .ok v) ∨
          (∃ r, ∃ f : List Json × List Char → Json × List Char, ∀ levels,
            value (n + 1) (levels + 1) cs = items n levels r >>= fun found => .ok (f found)) ∨
          ∃ r, ∃ f : List (String × Json) × List Char → Json × List Char, ∀ levels,
            value (n + 1) (levels + 1) cs = members n levels r >>= fun found => .ok (f found)) := by
  cases cs with
  | nil => exact .inl ⟨_, spelledRight_ne_tooDeep _, fun _ => value_nil⟩
  | cons c r =>
    by_cases quote : c = '"'
    · subst quote
      exact .inl ⟨_, bind_ne_tooDeep (spelledRight_ne_tooDeep _) fun _ => ok_ne_tooDeep _,
        fun _ => rfl⟩
    by_cases list : c = '['
    · subst list
      refine .inr ⟨rfl, ?_⟩
      by_cases close : (skip r).head? = some ']'
      · exact .inl ⟨(.arr [], (skip r).tail), fun _ => by rw [value_list, if_pos close]⟩
      · exact .inr (.inl ⟨skip r, fun found => (.arr found.1, found.2),
          fun _ => by rw [value_list, if_neg close]⟩)
    by_cases mapping : c = '\x7b'
    · subst mapping
      refine .inr ⟨rfl, ?_⟩
      by_cases close : (skip r).head? = some '\x7d'
      · exact .inl ⟨(.obj [], (skip r).tail), fun _ => by rw [value_object, if_pos close]⟩
      · exact .inr (.inr ⟨skip r, fun found => (.obj (Keyed.ofList found.1).entries, found.2),
          fun _ => by rw [value_object, if_neg close]⟩)
    exact .inl ⟨_, spelledRight_ne_tooDeep _, fun _ => value_other quote list mapping⟩

/-! ### More levels -/

/-- The second result is the first, unless that ran out of levels. -/
def Extends {α : Type} (y x : Except Failure α) : Prop := x = .error .tooDeep ∨ y = x

namespace Extends

variable {α β : Type} {x y : Except Failure α} {f g : α → Except Failure β}

theorem refl (x : Except Failure α) : Extends x x := .inr rfl

theorem bind (first : Extends y x) (later : ∀ a, Extends (g a) (f a)) :
    Extends (y >>= g) (x >>= f) := by
  rcases first with rfl | rfl
  · exact .inl rfl
  · cases y with
    | error e => exact .inr rfl
    | ok a => exact later a

end Extends

theorem extends_of_le (n : Nat) : ∀ {levels more : Nat}, levels ≤ more → ∀ cs,
    Extends (value n more cs) (value n levels cs) ∧
      Extends (items n more cs) (items n levels cs) ∧
      Extends (members n more cs) (members n levels cs) := by
  induction n with
  | zero => exact fun _ _ => ⟨.refl _, .refl _, .refl _⟩
  | succ n ih =>
    intro levels more le cs
    refine ⟨?_, ?_, ?_⟩
    · rcases value_cases n cs with ⟨x, -, same⟩ | ⟨deep, inner⟩
      · rw [same, same]
        exact .refl _
      cases levels with
      | zero => exact .inl deep
      | succ levels =>
        obtain ⟨more, rfl⟩ := Nat.exists_eq_succ_of_ne_zero (Nat.ne_zero_of_lt le)
        have below := ih (Nat.le_of_succ_le_succ le)
        rcases inner with ⟨v, same⟩ | ⟨r, f, same⟩ | ⟨r, f, same⟩
        · rw [same, same]
          exact .refl _
        · rw [same, same]
          exact (below r).2.1.bind fun _ => .refl _
        · rw [same, same]
          exact (below r).2.2.bind fun _ => .refl _
    · rw [items, items]
      refine (ih le cs).1.bind fun found => ?_
      dsimp only
      split
      · refine (ih le _).2.1.bind fun _ => .refl _
      · exact .refl _
      · exact .refl _
    · rw [members, members]
      refine (Extends.refl _).bind fun name => (ih le _).1.bind fun found => ?_
      dsimp only
      split
      · exact (ih le _).2.2.bind fun _ => .refl _
      · exact .refl _
      · exact .refl _

/-! ### Enough levels -/

theorem memberName_ne_tooDeep (cs : List Char) : memberName cs ≠ .error .tooDeep := by
  rw [memberName.eq_def]
  split
  · refine bind_ne_tooDeep (spelledRight_ne_tooDeep _) fun _ => ?_
    dsimp only
    split
    · exact ok_ne_tooDeep _
    · exact malformed_ne_tooDeep
  · exact malformed_ne_tooDeep

/-- A level takes two steps, one to its contents and one to the first of them: with few steps the
reader does not come to the last of many levels. -/
theorem ne_tooDeep_of_steps (n : Nat) : ∀ levels cs,
    (n ≤ 2 * levels → value n levels cs ≠ .error .tooDeep) ∧
      (n ≤ 2 * levels + 1 → items n levels cs ≠ .error .tooDeep) ∧
      (n ≤ 2 * levels + 1 → members n levels cs ≠ .error .tooDeep) := by
  induction n with
  | zero => exact fun _ _ => ⟨fun _ => malformed_ne_tooDeep, fun _ => malformed_ne_tooDeep,
      fun _ => malformed_ne_tooDeep⟩
  | succ n ih =>
    intro levels cs
    refine ⟨fun few => ?_, fun few => ?_, fun few => ?_⟩
    · obtain ⟨levels, rfl⟩ := Nat.exists_eq_succ_of_ne_zero (n := levels) (by omega)
      have items_fine := fun r => (ih levels r).2.1 (by omega)
      have members_fine := fun r => (ih levels r).2.2 (by omega)
      rcases value_cases n cs with ⟨x, fine, same⟩ | ⟨-, ⟨v, same⟩ | ⟨r, f, same⟩ | ⟨r, f, same⟩⟩
      · exact same _ ▸ fine
      · exact same _ ▸ ok_ne_tooDeep v
      · exact same _ ▸ bind_ne_tooDeep (items_fine r) fun _ => ok_ne_tooDeep _
      · exact same _ ▸ bind_ne_tooDeep (members_fine r) fun _ => ok_ne_tooDeep _
    · rw [items]
      refine bind_ne_tooDeep ((ih levels _).1 (by omega)) fun _ => ?_
      dsimp only
      split
      · exact bind_ne_tooDeep ((ih levels _).2.1 (by omega)) fun _ => ok_ne_tooDeep _
      · exact ok_ne_tooDeep _
      · exact malformed_ne_tooDeep
    · rw [members]
      refine bind_ne_tooDeep (memberName_ne_tooDeep cs) fun _ => ?_
      refine bind_ne_tooDeep ((ih levels _).1 (by omega)) fun _ => ?_
      dsimp only
      split
      · exact bind_ne_tooDeep ((ih levels _).2.2 (by omega)) fun _ => ok_ne_tooDeep _
      · exact ok_ne_tooDeep _
      · exact malformed_ne_tooDeep

/-! ### Too few levels -/

theorem value_opened {levels n count : Nat} (few : levels < count) (steps : 2 * levels < n) :
    value n levels (List.replicate count '[') = .error .tooDeep := by
  obtain ⟨count, rfl⟩ := Nat.exists_eq_succ_of_ne_zero (Nat.ne_zero_of_lt few)
  obtain ⟨n, rfl⟩ := Nat.exists_eq_succ_of_ne_zero (Nat.ne_zero_of_lt steps)
  induction levels generalizing n count with
  | zero => rfl
  | succ levels ih =>
    obtain ⟨count, rfl⟩ := Nat.exists_eq_succ_of_ne_zero (n := count) (by omega)
    obtain ⟨n, rfl⟩ := Nat.exists_eq_add_of_le' (show 2 ≤ n by omega)
    have inner := ih count (by omega) n (by omega)
    have solid : skip (List.replicate (count + 1) '[') = List.replicate (count + 1) '[' := rfl
    rw [List.replicate_succ, value_list, solid, if_neg (by nofun), items, inner]
    rfl

end Reader

/-! ### Texts -/

variable {depth : Nat} {cs : List Char}

theorem extends_read {more : Nat} (le : depth ≤ more) (cs : List Char) :
    Reader.Extends (read more cs) (read depth cs) :=
  ((Reader.extends_of_le _ (Nat.succ_le_succ le) _).1).bind fun _ => .refl _

theorem read_ne_tooDeep_of_length (le : cs.length ≤ depth) : read depth cs ≠ .error .tooDeep := by
  refine Reader.bind_ne_tooDeep ((Reader.ne_tooDeep_of_steps _ _ _).1 (by omega)) fun found => ?_
  dsimp only
  split <;> nofun

theorem read_of_ne_tooDeep (shallow : read depth cs ≠ .error .tooDeep) :
    (read depth cs).toOption = read? cs := by
  rw [read?]
  rcases Nat.le_total depth cs.length with le | le
  · rcases extends_read le cs with deep | same
    · exact absurd deep shallow
    · rw [same]
  · rcases extends_read le cs with deep | same
    · exact absurd deep (read_ne_tooDeep_of_length (Nat.le_refl _))
    · rw [same]

/-- An object with a list that is opened again and again, and never closed. -/
def opened (count : Nat) : List Char :=
  '\x7b' :: (quoted "a" ++ ':' :: List.replicate count '[')

/-- However deeply data may be nested, some is nested more deeply. -/
theorem read_opened (depth : Nat) : read depth (opened (depth + 1)) = .error .tooDeep := by
  have solid : Reader.skip (List.replicate (depth + 1) '[') = List.replicate (depth + 1) '[' := rfl
  have inner (n : Nat) (steps : 2 * depth < n) : Reader.members (n + 1) depth
      (quoted "a" ++ ':' :: List.replicate (depth + 1) '[') = .error .tooDeep := by
    rw [Reader.members, Reader.memberName_quoted, solid, ok_bind]
    dsimp only
    rw [Reader.value_opened (Nat.lt_succ_self depth) steps]
    rfl
  rw [opened]
  generalize shape : quoted "a" ++ ':' :: List.replicate (depth + 1) '[' = cs at inner ⊢
  have long : depth < cs.length := by
    rw [← shape, List.length_append, List.length_cons, List.length_replicate]
    omega
  have first : (Reader.skip cs).head? = some '"' ∧ Reader.skip cs = cs := by
    rw [← shape]
    exact ⟨rfl, rfl⟩
  rw [read, Reader.skip_cons rfl, List.length_cons, Nat.mul_succ, Reader.value_object, first.1,
    if_neg (by decide), first.2, inner (2 * cs.length + 1) (by omega)]
  rfl

end Concordance.Json
