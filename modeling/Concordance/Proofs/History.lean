import Mathlib.Data.List.Nodup
import Concordance.History.Json
import Concordance.Proofs.Snapshot.Json

/-! A history lists the searches that were added most recently, each once, up to its limit. Cutting
it down after every addition comes to the same as cutting down the list of all searches once. -/

namespace Concordance.History

def Entry.search (e : Entry) : String × Option String := (e.url, e.pattern)

/-- A search comes to the top, from wherever it was. -/
def raise (e : Entry) (es : List Entry) : List Entry :=
  e :: es.filter fun a => !(a.search == e.search)

def raiseAll (new old : List Entry) : List Entry := new.foldr raise old

def Distinct (es : List Entry) : Prop := (es.map Entry.search).Nodup

section Raise

variable {e a : Entry} {es new old : List Entry}

theorem distinct_nil : Distinct [] := List.nodup_nil

theorem sameSearch_eq (e a : Entry) : sameSearch e a = (a.search == e.search) := by
  rw [Bool.eq_iff_iff, sameSearch, Bool.and_eq_true, beq_iff_eq, beq_iff_eq, beq_iff_eq,
    Entry.search, Entry.search, Prod.mk.injEq]
  exact and_congr eq_comm eq_comm

theorem searches_filter (p : String × Option String → Bool) (es : List Entry) :
    (es.filter fun a => p a.search).map Entry.search = (es.map Entry.search).filter p := by
  rw [List.filter_map]
  rfl

theorem searches_raise (e : Entry) (es : List Entry) : (raise e es).map Entry.search =
    e.search :: (es.map Entry.search).filter fun s => !(s == e.search) := by
  rw [raise, List.map_cons, searches_filter fun s => !(s == e.search)]

theorem Distinct.raise (h : Distinct es) (e : Entry) : Distinct (raise e es) := by
  rw [Distinct, searches_raise]
  refine List.nodup_cons.mpr ⟨fun member => ?_, h.filter _⟩
  simpa using (List.mem_filter.mp member).2

theorem Distinct.raiseAll (h : Distinct old) (new : List Entry) : Distinct (raiseAll new old) := by
  induction new with
  | nil => exact h
  | cons e new ih => exact ih.raise e

theorem Distinct.take (h : Distinct es) (n : Nat) : Distinct (es.take n) :=
  h.sublist ((List.take_sublist n es).map _)

/-! ### Cutting down -/

theorem take_filter (h : Distinct es) (e : Entry) (n : Nat) :
    ((es.take (n + 1)).filter fun a => !(a.search == e.search)).take n =
      (es.filter fun a => !(a.search == e.search)).take n := by
  induction es generalizing n with
  | nil => rfl
  | cons a es ih =>
    obtain ⟨other, rest⟩ := List.nodup_cons.mp h
    cases n with
    | zero => rw [List.take_zero, List.take_zero]
    | succ n =>
      by_cases same : a.search = e.search
      · have others (b : Entry) (member : b ∈ es) : !(b.search == e.search) := by
          have new : b.search ≠ a.search := fun here => other (here ▸ List.mem_map_of_mem member)
          simpa [← same] using new
        rw [List.take_succ_cons, List.filter_cons_of_neg (by simp [same]),
          List.filter_cons_of_neg (by simp [same]), List.filter_eq_self.mpr others,
          List.filter_eq_self.mpr fun b member => others b (List.mem_of_mem_take member),
          List.take_take, Nat.min_self]
      · rw [List.take_succ_cons, List.filter_cons_of_pos (by simp [same]),
          List.filter_cons_of_pos (by simp [same]), List.take_succ_cons, List.take_succ_cons,
          ih rest n]

theorem take_raise (h : Distinct es) (e : Entry) (m : Nat) :
    (raise e (es.take m)).take m = (raise e es).take m := by
  cases m with
  | zero => rfl
  | succ m => rw [raise, raise, List.take_succ_cons, List.take_succ_cons, take_filter h e m]

theorem eraseDups_filter {α : Type} [BEq α] [LawfulBEq α] (p : α → Bool) (xs : List α) :
    (xs.filter p).eraseDups = xs.eraseDups.filter p := by
  induction length : xs.length using Nat.strongRecOn generalizing xs with
  | ind n ih =>
    cases xs with
    | nil => rfl
    | cons x xs =>
      have shorter : (xs.filter fun y => !(y == x)).length < n := by
        rw [← length, List.length_cons]
        exact Nat.lt_succ_of_le (List.length_filter_le _ _)
      have later := ih _ shorter (xs.filter fun y => !(y == x)) rfl
      rw [List.filter_filter] at later
      rw [List.eraseDups_cons]
      cases kept : p x with
      | true =>
        rw [List.filter_cons_of_pos kept, List.filter_cons_of_pos kept, List.eraseDups_cons,
          List.filter_filter, ← later]
        simp only [Bool.and_comm]
      | false =>
        have same : xs.filter p = xs.filter fun y => p y && !(y == x) := by
          refine List.filter_congr fun y _ => ?_
          cases also : p y with
          | false => rfl
          | true =>
            have other : y ≠ x := fun here => by rw [here, kept] at also; cases also
            simpa using other
        rw [List.filter_cons_of_neg (by simp [kept]), List.filter_cons_of_neg (by simp [kept]),
          same, later]

theorem searches_raiseAll (new : List Entry) :
    (raiseAll new []).map Entry.search = (new.map Entry.search).eraseDups := by
  induction new with
  | nil => rfl
  | cons e new ih =>
    change (raise e (raiseAll new [])).map Entry.search = _
    rw [searches_raise, ih, List.map_cons, List.eraseDups_cons, eraseDups_filter]

theorem find?_of_mem_raiseAll (member : a ∈ raiseAll new []) :
    new.find? (·.search = a.search) = some a := by
  induction new with
  | nil => cases member
  | cons e new ih =>
    rcases List.mem_cons.mp member with rfl | later
    · exact List.find?_cons_of_pos (by simp)
    · obtain ⟨older, other⟩ := List.mem_filter.mp later
      have different : ¬e.search = a.search := fun same => by simp [same] at other
      rw [List.find?_cons_of_neg (by simpa using different)]
      exact ih older

end Raise

/-! ### Additions -/

section Add

variable {h : History}

theorem first_of_nonneg {n : Int} (limit : 0 ≤ n) (es : List Entry) :
    first n es = es.take n.toNat := by
  rw [first, if_neg (by omega)]

theorem entries_add_eq (h : History) (x : Snapshot) (url : String) :
    (h.add x url).entries = first h.maxEntries (raise (h.entryOf x url) h.entries) := by
  rw [add, raise]
  simp only [sameSearch_eq]

theorem entries_add (limit : 0 ≤ h.maxEntries) (x : Snapshot) (url : String) :
    (h.add x url).entries = (raise (h.entryOf x url) h.entries).take h.maxEntries.toNat := by
  rw [entries_add_eq, first_of_nonneg limit]

theorem holdsLimit_of_length_le (limit : 0 ≤ h.maxEntries)
    (bounded : h.entries.length ≤ h.maxEntries.toNat) : h.holdsLimit := by
  rw [holdsLimit, Bool.or_eq_true, decide_eq_true_eq]
  omega

theorem holdsLimit_add (limit : -0x8000000000000000 ≤ h.maxEntries) (x : Snapshot) (url : String) :
    (h.add x url).holdsLimit := by
  by_cases nonneg : 0 ≤ h.maxEntries
  · have bounded : (h.add x url).entries.length ≤ h.maxEntries.toNat := by
      rw [entries_add nonneg]
      exact List.length_take_le _ _
    exact holdsLimit_of_length_le (h := h.add x url) nonneg bounded
  · have counted : isLimit h.maxEntries := by
      rw [isLimit, Bool.and_eq_true, decide_eq_true_eq, decide_eq_true_eq]
      omega
    exact Bool.or_eq_true_iff.mpr (.inr counted)

theorem isPrefix_first (n : Int) (es : List Entry) : first n es <+: es := by
  rw [first]
  split
  · exact List.prefix_refl es
  · exact List.take_prefix _ _

theorem Distinct.add (distinct : Distinct h.entries) (x : Snapshot) (url : String) :
    Distinct (h.add x url).entries := by
  rw [entries_add_eq]
  have part := isPrefix_first h.maxEntries (History.raise (h.entryOf x url) h.entries)
  exact (distinct.raise _).sublist (part.sublist.map _)

end Add

/-! ### Stored histories -/

theorem Entry.ofJson?_toJson (e : Entry) : ofJson? e.toJson = some e := by
  have optional (j : Json) (key : String) (value : Option String)
      (found : j.get? key = some (.optionalText value)) : text? j key = value := by
    rw [text?, found]
    cases value <;> rfl
  have pattern := optional e.toJson "pattern" e.pattern (by simp [toJson, Json.get?])
  have filter := optional e.toJson "filter" e.filter (by simp [toJson, Json.get?])
  have view := optional e.toJson "view" e.view (by simp [toJson, Json.get?])
  have time : text? e.toJson "time" = some e.time := by simp [text?, toJson, Json.get?]
  have url : text? e.toJson "url" = some e.url := by simp [text?, toJson, Json.get?]
  have state : e.toJson.get? "state" = some e.snapshot.toJson := by simp [toJson, Json.get?]
  rw [ofJson?, time, url, state, pattern, filter, view]
  simp [Snapshot.ofJson_toJson]

theorem Entry.isReadable_toJson {e : Entry} (short : e.snapshot.HasShortIntegers) :
    e.toJson.IsReadable :=
  ⟨by simp, trivial, trivial, Json.isReadable_optionalText _, Json.isReadable_optionalText _,
    Json.isReadable_optionalText _, short.isReadable_toJson, trivial⟩

theorem load?_save {es : List Entry} (short : ∀ e ∈ es, e.snapshot.HasShortIntegers) :
    load? (save es) = some es := by
  have readable : (Json.arr (es.map Entry.toJson)).IsReadable :=
    Json.isReadable_arr fun e member => Entry.isReadable_toJson (short e member)
  have text : (save es).toList = Json.pretty 0 (.arr (es.map Entry.toJson)) ++ ['\n'] := by
    rw [save, String.toList_append, String.toList_ofList]
    rfl
  have entries : (es.map Entry.toJson).mapM Entry.ofJson? = some es := by
    clear short readable text
    induction es with
    | nil => rfl
    | cons e es ih =>
      rw [List.map_cons, List.mapM_cons, Entry.ofJson?_toJson, ih]
      rfl
  rw [load?, text, Json.read?_pretty readable (List.forall_mem_singleton.mpr rfl)]
  exact entries

/-! ### Histories over time -/

structure Addition where
  time : String
  snapshot : Snapshot
  url : String

inductive Change
  | add (a : Addition)
  | clear

def change (h : History) : Change → History
  | .add a => History.add { h with time := a.time } a.snapshot a.url
  | .clear => h.clear.1

theorem Distinct.change {h : History} (distinct : Distinct h.entries) (c : Change) :
    Distinct (h.change c).entries := by
  cases c with
  | add a => exact Distinct.add (h := { h with time := a.time }) distinct a.snapshot a.url
  | clear => exact distinct_nil

def changes (h : History) (cs : List Change) : History := cs.foldl change h

def added (cs : List Change) : List Addition :=
  cs.foldl (fun as c =>
    match c with
    | .add a => a :: as
    | .clear => []) []

def Addition.entry (settings : Settings) (a : Addition) : Entry :=
  History.entryOf ⟨settings, 0, a.time, []⟩ a.snapshot a.url

section Changes

variable {s : Settings} {m : Nat} {h : History}

structure Holds (s : Settings) (m : Nat) (h : History) (as : List Addition) : Prop where
  settings : h.settings = s
  maxEntries : h.maxEntries = m
  entries : h.entries = (raiseAll (as.map (Addition.entry s)) []).take m

theorem Holds.add {as : List Addition} (holds : Holds s m h as) (a : Addition) :
    Holds s m (h.change (.add a)) (a :: as) := by
  have limit : 0 ≤ h.maxEntries := by
    rw [holds.maxEntries]
    exact Int.natCast_nonneg m
  have entered : History.entryOf { h with time := a.time } a.snapshot a.url = a.entry s := by
    rw [Addition.entry, History.entryOf, History.entryOf, holds.settings]
  refine ⟨holds.settings, holds.maxEntries, ?_⟩
  have entries := entries_add (h := { h with time := a.time }) limit a.snapshot a.url
  rw [entered] at entries
  refine entries.trans ?_
  dsimp only
  rw [holds.maxEntries, Int.toNat_natCast, holds.entries]
  exact take_raise (distinct_nil.raiseAll _) _ m

theorem holds_changes (s : Settings) (m : Nat) (cs : List Change) :
    Holds s m ((empty s m).changes cs) (added cs) := by
  have further (cs : List Change) (h : History) (as : List Addition) (holds : Holds s m h as) :
      Holds s m (h.changes cs) (cs.foldl (fun as c =>
        match c with
        | .add a => a :: as
        | .clear => []) as) := by
    induction cs generalizing h as with
    | nil => exact holds
    | cons c cs ih =>
      cases c with
      | add a => exact ih _ _ (holds.add a)
      | clear => exact ih _ _ ⟨holds.settings, holds.maxEntries, List.take_nil.symm⟩
  exact further cs _ _ ⟨rfl, rfl, List.take_nil.symm⟩

end Changes

structure ListsRecent (s : Settings) (m : Nat) (cs : List Change) (h : History) : Prop where
  /-- The searches in the order of their latest additions, as many as there is room for. -/
  searches : h.entries.map Entry.search =
    ((added cs).map fun a => (a.entry s).search).eraseDups.take m
  distinct : (h.entries.map Entry.search).Nodup
  /-- Each with what was given when it was last added. -/
  latest : ∀ e ∈ h.entries, ∃ a,
    (added cs).find? (fun a => (a.entry s).search = e.search) = some a ∧ e = a.entry s
  stored : load? (save h.entries) = some h.entries
  listed : h.list? none = some h.entries
  limited : ∀ n, isLimit n →
    h.list? (some n) = some (first n h.entries) ∧ first n h.entries <+: h.entries
  cleared : h.clear.2 = h.entries.length ∧ h.clear.1.entries = []
  holdsLimit : h.holdsLimit

/-- A history lists the searches that were added most recently since it was last cleared, each once,
newest first, with the snapshots that were given last. -/
theorem lists_recent (s : Settings) (m : Nat) (cs : List Change)
    (short : ∀ a ∈ added cs, a.snapshot.HasShortIntegers) :
    ListsRecent s m cs ((empty s m).changes cs) := by
  have holds := holds_changes s m cs
  have distinct : Distinct ((empty s m).changes cs).entries := by
    rw [holds.entries]
    exact (distinct_nil.raiseAll _).take m
  have latest (e : Entry) (member : e ∈ ((empty s m).changes cs).entries) : ∃ a,
      (added cs).find? (fun a => (a.entry s).search = e.search) = some a ∧ e = a.entry s := by
    rw [holds.entries] at member
    have found := find?_of_mem_raiseAll (List.mem_of_mem_take member)
    rw [List.find?_map] at found
    obtain ⟨a, here, entry⟩ := Option.map_eq_some_iff.mp found
    exact ⟨a, here, entry.symm⟩
  constructor
  case searches =>
    rw [holds.entries, List.map_take, searches_raiseAll, List.map_map]
    rfl
  case distinct => exact distinct
  case latest => exact latest
  case stored =>
    refine load?_save fun e member => ?_
    obtain ⟨a, found, rfl⟩ := latest e member
    exact short a (List.mem_of_find?_eq_some found)
  case listed => rfl
  case limited => exact fun n limit => ⟨by rw [list?, if_pos limit], isPrefix_first n _⟩
  case cleared => exact ⟨rfl, rfl⟩
  case holdsLimit =>
    apply holdsLimit_of_length_le
    · rw [holds.maxEntries]
      exact Int.natCast_nonneg m
    · rw [holds.entries, holds.maxEntries]
      exact List.length_take_le _ _

/-- A search that is added again comes back to the top, with its last snapshot. -/
theorem lists_recent_readded :
    let simple (text : String) : Snapshot := .ofView (.simple ⟨"word", text, false, .text⟩)
    let s : Settings := ⟨.empty, none, [], true, 5⟩
    let cs : List Change := [.add ⟨"1", simple "a", "/a"⟩, .clear, .add ⟨"2", simple "b", "/b"⟩,
      .add ⟨"3", simple "c", "/c"⟩, .add ⟨"4", simple "b", "/b"⟩]
    (∀ a ∈ added cs, a.snapshot.HasShortIntegers) ∧ ListsRecent s 1 cs ((empty s 1).changes cs) ∧
      ((empty s 1).changes cs).entries.map (fun e => (e.time, e.url)) = [("4", "/b")] := by
  intro simple s cs
  have short (text : String) : (simple text).HasShortIntegers :=
    Snapshot.hasShortIntegers_ofView nofun
  have all : ∀ a ∈ added cs, a.snapshot.HasShortIntegers := by
    rintro a member
    simp only [cs, added, List.foldl_cons, List.foldl_nil, List.mem_cons, List.not_mem_nil,
      or_false] at member
    rcases member with rfl | rfl | rfl <;> exact short _
  exact ⟨all, lists_recent s 1 cs all, by decide +kernel⟩

end Concordance.History
