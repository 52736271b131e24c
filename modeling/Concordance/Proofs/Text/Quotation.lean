import Concordance.Proofs.Text.Quoted
import Concordance.Proofs.Text.Skip

/-! Which quotes a place of a text stands in. Everything that is read leaves the place outside of
quotes, and a text that once got out of step with its quotes never gets back into step. -/

namespace Concordance.Quoted

/-- A place of a text: outside of quotes, inside of them, or right after a backslash inside of them.
Astray is what no reader passes: a backslash outside of quotes, or one before a line feed. -/
inductive Place
  | outside
  | inside (mark : Char)
  | escaped (mark : Char)
  | astray
  deriving DecidableEq, Repr

namespace Place

def step : Place → Char → Place
  | outside, c => if c = '\\' then astray else if c = '"' ∨ c = '\'' then inside c else outside
  | inside mark, c => if c = '\\' then escaped mark else if c = mark then outside else inside mark
  | escaped mark, c => if c = '\n' then astray else inside mark
  | astray, _ => astray

def after (place : Place) (cs : List Char) : Place := cs.foldl step place

@[simp] theorem after_nil (place : Place) : place.after [] = place := rfl

@[simp] theorem after_cons (place : Place) (c : Char) (cs : List Char) :
    place.after (c :: cs) = (place.step c).after cs := rfl

@[simp] theorem after_append (place : Place) (cs ds : List Char) :
    place.after (cs ++ ds) = (place.after cs).after ds := List.foldl_append

@[simp] theorem after_astray (cs : List Char) : astray.after cs = astray := by
  induction cs with
  | nil => rfl
  | cons c cs ih => exact ih

end Place

def isPlain (c : Char) : Bool := c != '"' && c != '\'' && c != '\\'

theorem step_outside {c : Char} (h : isPlain c) : Place.outside.step c = .outside := by
  simp only [isPlain, Bool.and_eq_true, bne_iff_ne, ne_eq] at h
  simp [Place.step, h.1.1, h.1.2, h.2]

theorem step_inside {mark c : Char} (quote : mark = '"' ∨ mark = '\'') (h : isPlain c) :
    (Place.inside mark).step c = .inside mark := by
  simp only [isPlain, Bool.and_eq_true, bne_iff_ne, ne_eq] at h
  rcases quote with rfl | rfl
  · simp [Place.step, h.1.1, h.2]
  · simp [Place.step, h.1.2, h.2]

theorem after_plain {place : Place} (stays : ∀ c, isPlain c → place.step c = place)
    {cs : List Char} (plain : ∀ c ∈ cs, isPlain c) : place.after cs = place := by
  induction cs with
  | nil => rfl
  | cons c cs ih =>
    rw [Place.after_cons, stays c (plain c List.mem_cons_self)]
    exact ih fun d member => plain d (List.mem_cons_of_mem c member)

theorem outside_after_plain {cs : List Char} (plain : ∀ c ∈ cs, isPlain c) :
    Place.outside.after cs = .outside := after_plain (fun _ => step_outside) plain

/-! ### What is read -/

/-- What is passed over from one text to the other leaves the place outside of quotes. -/
def Passes (cs r : List Char) : Prop := Place.outside.after cs = Place.outside.after r

theorem Passes.rfl {cs : List Char} : Passes cs cs := Eq.refl _

theorem Passes.trans {cs ds r : List Char} (first : Passes cs ds) (second : Passes ds r) :
    Passes cs r := Eq.trans first second

theorem Passes.plain {c : Char} (r : List Char) (h : isPlain c) : Passes (c :: r) r := by
  rw [Passes, Place.after_cons, step_outside h]

theorem Passes.dropWhile {p : Char → Bool} (plain : ∀ c, p c → isPlain c) (cs : List Char) :
    Passes cs (cs.dropWhile p) := by
  induction cs with
  | nil => exact .rfl
  | cons c cs ih =>
    rw [List.dropWhile_cons]
    split
    · next h => exact (Passes.plain cs (plain c h)).trans ih
    · exact .rfl

theorem isPlain_of_isSpacing (c : Char) (h : Text.isSpacing c) : isPlain c := by
  simp only [Text.isSpacing, Bool.or_eq_true, beq_iff_eq] at h
  rcases h with (((rfl | rfl) | rfl) | rfl) | rfl <;> rfl

theorem Passes.skip (cs : List Char) : Passes cs (Text.skip cs) :=
  .dropWhile isPlain_of_isSpacing cs

theorem Passes.mark {cs r : List Char} {c : Char} (text : Text.skip cs = c :: r) (h : isPlain c) :
    Passes cs r :=
  (Passes.skip cs).trans (text ▸ .plain r h)

theorem after_inside? {mark : Char} (quote : mark ≠ '\\') {cs s r : List Char}
    (read : inside? mark cs = some (s, r)) :
    (Place.inside mark).after cs = Place.outside.after r := by
  fun_induction inside? mark cs generalizing s r with
  | case1 => cases read
  | case2 cs => cases read
  | case3 c cs feed ih =>
    simp only [Option.map_eq_some_iff, Prod.mk.injEq, Prod.exists] at read
    obtain ⟨inner, rest, read, rfl, rfl⟩ := read
    simpa [Place.step, feed] using ih read
  | case4 cs single =>
    cases read
    simp [Place.step, quote]
  | case5 cs ends single => cases read
  | case6 c cs single other plain ih =>
    simp only [Option.map_eq_some_iff, Prod.mk.injEq, Prod.exists] at read
    obtain ⟨inner, rest, read, rfl, rfl⟩ := read
    simpa [Place.step, plain, other] using ih read

theorem Passes.literal {cs v r : List Char} (read : literal? cs = some (v, r)) : Passes cs r := by
  unfold literal? at read
  split at read
  · simp only [Option.map_eq_some_iff, Prod.mk.injEq, Prod.exists] at read
    obtain ⟨s, rest, read, rfl, rfl⟩ := read
    exact after_inside? (by decide) read
  · simp only [Option.map_eq_some_iff, Prod.mk.injEq, Prod.exists] at read
    obtain ⟨s, rest, read, rfl, rfl⟩ := read
    exact after_inside? (by decide) read
  · exact absurd read nofun

theorem isPlain_of_isNameStart {c : Char} (h : Text.isNameStart c) : isPlain c := by
  simp only [isPlain, Bool.and_eq_true, bne_iff_ne, ne_eq]
  refine ⟨⟨?_, ?_⟩, ?_⟩ <;> rintro rfl <;> exact absurd h (by decide)

theorem isName_of_name? {more : Char → Bool} (plain : ∀ c, more c → isPlain c)
    {cs name r : List Char} (read : Text.name? more cs = some (name, r)) :
    Text.isName more name ∧ Passes cs r := by
  cases cs with
  | nil => exact absurd read nofun
  | cons c cs =>
    simp only [Text.name?, Option.ite_none_right_eq_some, Option.some.injEq, Prod.mk.injEq] at read
    obtain ⟨start, rfl, rfl⟩ := read
    constructor
    · simp [Text.isName, start, List.all_takeWhile]
    · exact (Passes.plain cs (isPlain_of_isNameStart start)).trans (.dropWhile plain cs)

/-! ### What is written -/

/-- A place between words that is out of step with the quotes. -/
def Lost (place : Place) : Prop :=
  place = .inside '"' ∨ place = .inside '\'' ∨ place = .astray

def LostWithin (place : Place) : Prop :=
  place = .outside ∨ place = .inside '\'' ∨ place = .astray

theorem Lost.ne_outside {place : Place} (h : Lost place) : place ≠ .outside := by
  rcases h with rfl | rfl | rfl <;> exact nofun

theorem Lost.opening {place : Place} (h : Lost place) : LostWithin (place.step '"') := by
  rcases h with rfl | rfl | rfl
  · exact .inl rfl
  · exact .inr (.inl rfl)
  · exact .inr (.inr rfl)

theorem LostWithin.closing {place : Place} (h : LostWithin place) : Lost (place.step '"') := by
  rcases h with rfl | rfl | rfl
  · exact .inl rfl
  · exact .inr (.inl rfl)
  · exact .inr (.inr rfl)

theorem LostWithin.unit {place : Place} (h : LostWithin place) (c : Char) :
    (c ≠ '\\' → LostWithin (place.after (protect [c]))) ∧
      (c ≠ '\n' → LostWithin (place.after (protect ['\\', c]))) := by
  constructor
  · intro plain
    by_cases quote : c = '"'
    · subst quote
      rcases h with rfl | rfl | rfl <;> simp [protect, Text.escape, Place.step, LostWithin]
    · rcases h with rfl | rfl | rfl
      · by_cases single : c = '\'' <;>
          simp [protect, Text.escape, Place.step, LostWithin, quote, plain, single]
      · by_cases single : c = '\'' <;>
          simp [protect, Text.escape, Place.step, LostWithin, quote, plain, single]
      · simp [LostWithin]
  · intro feed
    by_cases quote : c = '"'
    · subst quote
      rcases h with rfl | rfl | rfl <;> simp [protect, Text.escape, Place.step, LostWithin]
    · rcases h with rfl | rfl | rfl <;>
        simp [protect, Text.escape, Place.step, LostWithin, quote, feed]

theorem protect_append (cs ds : List Char) : protect (cs ++ ds) = protect cs ++ protect ds := by
  induction cs with
  | nil => rfl
  | cons c cs ih =>
    simp only [protect] at ih ⊢
    by_cases quote : c = '"' <;> simp [Text.escape, quote, ih]

theorem LostWithin.protect {cs : List Char} (whole : isWhole cs) {place : Place}
    (h : LostWithin place) : LostWithin (place.after (protect cs)) := by
  fun_induction isWhole cs generalizing place with
  | case1 => exact h
  | case2 c cs ih =>
    simp only [Bool.and_eq_true, bne_iff_ne, ne_eq] at whole
    rw [show '\\' :: c :: cs = ['\\', c] ++ cs from rfl, protect_append, Place.after_append]
    exact ih whole.2 ((h.unit c).2 whole.1)
  | case3 c cs single ih =>
    simp only [Bool.and_eq_true, bne_iff_ne, ne_eq] at whole
    rw [show c :: cs = [c] ++ cs from rfl, protect_append, Place.after_append]
    exact ih whole.2 ((h.unit c).1 whole.1)

/-- Only a backslash that takes the quote with it gets a quoted text out of step: the quote written
for it has a backslash of its own, so the first backslash takes the second one. -/
theorem after_protect {cs : List Char} (whole : isWhole cs) :
    if escapesQuote cs then LostWithin ((Place.inside '"').after (protect cs))
    else (Place.inside '"').after (protect cs) = .inside '"' := by
  fun_induction isWhole cs with
  | case1 => rfl
  | case2 c cs ih =>
    simp only [Bool.and_eq_true, bne_iff_ne, ne_eq] at whole
    rw [show '\\' :: c :: cs = ['\\', c] ++ cs from rfl, protect_append, Place.after_append]
    by_cases quote : c = '"'
    · subst quote
      have lost : LostWithin Place.outside := .inl rfl
      simpa [escapesQuote, protect, Text.escape, Place.step] using lost.protect whole.2
    · simpa [escapesQuote, quote, protect, Text.escape, Place.step, whole.1] using ih whole.2
  | case3 c cs single ih =>
    simp only [Bool.and_eq_true, bne_iff_ne, ne_eq] at whole
    have same : escapesQuote (c :: cs) = escapesQuote cs := by
      rw [escapesQuote]
      exact single
    rw [show c :: cs = [c] ++ cs from rfl, protect_append, Place.after_append,
      List.singleton_append, same]
    by_cases quote : c = '"'
    · subst quote
      simpa [protect, Text.escape, Place.step] using ih whole.2
    · simpa [protect, Text.escape, Place.step, quote, whole.1] using ih whole.2

/-- A written text that never brings a lost place back, and gets lost itself exactly if `lost`. -/
structure Leads (lost : Bool) (cs : List Char) : Prop where
  stays : ∀ place, Lost place → Lost (place.after cs)
  starts : if lost then Lost (Place.outside.after cs) else Place.outside.after cs = .outside

theorem Leads.nil : Leads false [] := ⟨fun _ h => h, rfl⟩

theorem Leads.plain {cs : List Char} (plain : ∀ c ∈ cs, isPlain c) : Leads false cs := by
  constructor
  · rintro place (rfl | rfl | rfl)
    · exact .inl (after_plain (fun _ => step_inside (.inl rfl)) plain)
    · exact .inr (.inl (after_plain (fun _ => step_inside (.inr rfl)) plain))
    · exact .inr (.inr (Place.after_astray cs))
  · exact outside_after_plain plain

theorem Leads.append {a b : Bool} {cs ds : List Char} (first : Leads a cs) (second : Leads b ds) :
    Leads (a || b) (cs ++ ds) := by
  constructor
  · intro place h
    rw [Place.after_append]
    exact second.stays _ (first.stays place h)
  · rw [Place.after_append]
    have starts := first.starts
    cases a with
    | true => exact second.stays _ starts
    | false =>
      have starts : Place.outside.after cs = .outside := starts
      rw [starts]
      exact second.starts

theorem Leads.quote {cs : List Char} (whole : isWhole cs) : Leads (escapesQuote cs) (quote cs) := by
  constructor
  · intro place h
    rw [quote_eq, List.cons_append, Place.after_cons, Place.after_append]
    exact (h.opening.protect whole).closing
  · rw [quote_eq, List.cons_append, Place.after_cons, Place.after_append]
    have within := after_protect whole
    cases h : escapesQuote cs with
    | true =>
      rw [h] at within
      exact LostWithin.closing within
    | false =>
      rw [h] at within
      have within : (Place.inside '"').after (protect cs) = .inside '"' := within
      simp [Place.step, within]

end Concordance.Quoted
