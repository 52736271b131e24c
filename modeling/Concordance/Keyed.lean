/-! Values under distinct names, in the order in which the names were first given. -/

namespace Concordance

structure Keyed (α : Type) where
  entries : List (String × α)
  nodup : (entries.map (·.1)).Nodup
  deriving DecidableEq, Repr

namespace Keyed

variable {α β : Type}

def put (key : String) (value : α) : List (String × α) → List (String × α)
  | [] => [(key, value)]
  | e :: es => if e.1 = key then (key, value) :: es else e :: put key value es

theorem map_put_of_mem (key : String) (value : α) (es : List (String × α))
    (h : key ∈ es.map (·.1)) : (put key value es).map (·.1) = es.map (·.1) := by
  induction es with
  | nil => simp at h
  | cons e es ih =>
    by_cases he : e.1 = key
    · simp [put, he]
    · have hm : key ∈ es.map (·.1) := by
        simp only [List.map_cons, List.mem_cons] at h
        exact h.resolve_left fun hk => he hk.symm
      simp only [put, he, if_false, List.map_cons, ih hm]

theorem put_of_not_mem (key : String) (value : α) (es : List (String × α))
    (h : key ∉ es.map (·.1)) : put key value es = es ++ [(key, value)] := by
  induction es with
  | nil => rfl
  | cons e es ih =>
    simp only [List.map_cons, List.mem_cons, not_or] at h
    simp [put, Ne.symm h.1, ih h.2]

theorem nodup_put (key : String) (value : α) (es : List (String × α))
    (h : (es.map (·.1)).Nodup) : ((put key value es).map (·.1)).Nodup := by
  by_cases hk : key ∈ es.map (·.1)
  · rwa [map_put_of_mem key value es hk]
  · rw [put_of_not_mem key value es hk, List.map_append]
    refine List.nodup_append.2 ⟨h, by simp, ?_⟩
    intro a ha b hb hab
    simp only [List.map_cons, List.map_nil, List.mem_singleton] at hb
    exact hk (hb ▸ hab ▸ ha)

def empty : Keyed α := ⟨[], List.nodup_nil⟩

instance : EmptyCollection (Keyed α) := ⟨empty⟩

instance : Inhabited (Keyed α) := ⟨empty⟩

/-- A name that is already present keeps its place. -/
def insert (m : Keyed α) (key : String) (value : α) : Keyed α :=
  ⟨put key value m.entries, nodup_put key value m.entries m.nodup⟩

def ofList (es : List (String × α)) : Keyed α :=
  es.foldl (fun m e => m.insert e.1 e.2) empty

def index (name : α → String) (values : List α) : Keyed α :=
  ofList (values.map fun v => (name v, v))

def get? (m : Keyed α) (key : String) : Option α :=
  (m.entries.find? (·.1 = key)).map (·.2)

def contains (m : Keyed α) (key : String) : Bool := m.entries.any (·.1 = key)

def keys (m : Keyed α) : List String := m.entries.map (·.1)

def values (m : Keyed α) : List α := m.entries.map (·.2)

def isEmpty (m : Keyed α) : Bool := m.entries.isEmpty

/-- Each entry of `n`, in order, written over the entries of `m`. -/
def override (m n : Keyed α) : Keyed α := n.entries.foldl (fun m e => m.insert e.1 e.2) m

def map (f : α → β) (m : Keyed α) : Keyed β :=
  ⟨m.entries.map fun e => (e.1, f e.2), by
    simpa [Function.comp_def] using m.nodup⟩

def filter (p : α → Bool) (m : Keyed α) : Keyed α :=
  ⟨m.entries.filter fun e => p e.2,
    m.nodup.sublist (List.Sublist.map _ List.filter_sublist)⟩

theorem keys_nodup (m : Keyed α) : m.keys.Nodup := m.nodup

theorem get?_insert_self (m : Keyed α) (key : String) (value : α) :
    (m.insert key value).get? key = some value := by
  simp only [get?, insert]
  induction m.entries with
  | nil => simp [put]
  | cons e es ih =>
    by_cases h : e.1 = key
    · simp [put, h]
    · simpa [put, h] using ih

end Keyed

end Concordance
