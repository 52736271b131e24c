import Concordance.Snapshot.Json
import Concordance.Link.Decode

/-! Going back and forward through searches. A search that would show nothing new is not recorded
again. -/

namespace Concordance

namespace Navigation

/-- An address, and the snapshot that it was made from if it was recorded here. -/
structure Entry where
  url : String
  snapshot : Option Snapshot
  deriving DecidableEq, Repr

end Navigation

structure Navigation where
  entries : List Navigation.Entry
  position : Nat
  inside : position < entries.length ∨ entries = []
  deriving DecidableEq, Repr

namespace Navigation

def empty : Navigation := ⟨[], 0, .inr rfl⟩

def opened (url : Option String) : Navigation :=
  match Text.nonEmpty? url with
  | none => empty
  | some u => ⟨[⟨u, none⟩], 0, .inl Nat.zero_lt_one⟩

def current (n : Navigation) : Option Entry := n.entries[n.position]?

/-- Trailing slashes make no difference. -/
def bare (url : String) : List Char := Text.trimEnd (· == '/') url.toList

def droppedPart (x : Snapshot) : String :=
  Json.stable (.obj [("view", .ofOption View.toJson x.view), ("gap", .optionalText x.gap)])

/-- Whether a link says anything else than the current entry. Of a truncated link the part that
was left out is compared too. -/
def shouldPush (n : Navigation) (url : String) (truncated : Bool) (x : Snapshot) : Bool :=
  match n.current with
  | none => true
  | some entry =>
    if bare entry.url ≠ bare url then true
    else if !truncated then false
    else
      match entry.snapshot with
      | none => true
      | some y => droppedPart y != droppedPart x

/-- The entry takes the place of all that could be gone forward to. -/
def push (n : Navigation) (entry : Entry) : Navigation :=
  let kept := n.entries.take (n.position + 1)
  ⟨kept ++ [entry], kept.length, .inl (by simp)⟩

def record (n : Navigation) (url : String) (truncated : Bool) (x : Snapshot) : Navigation × Bool :=
  if n.shouldPush url truncated x then (n.push ⟨url, some x⟩, true) else (n, false)

def back (n : Navigation) : Navigation × Option Entry :=
  if n.position = 0 then (n, none)
  else
    let m : Navigation := ⟨n.entries, n.position - 1, n.inside.imp_left fun h => by omega⟩
    (m, m.current)

def forward (n : Navigation) : Navigation × Option Entry :=
  if h : n.position + 1 < n.entries.length then
    let m : Navigation := ⟨n.entries, n.position + 1, .inl h⟩
    (m, m.current)
  else (n, none)

/-- The snapshot of an entry, or else what its address says. -/
def restore (site : Site) (depth : Nat) (entry : Entry) : Except Link.Unreadable Snapshot :=
  match entry.snapshot with
  | some x => .ok x
  | none => (site.decode depth entry.url).map LinkState.toSnapshot

end Navigation

end Concordance
