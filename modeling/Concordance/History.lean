import Concordance.View.Compile

/-! Past searches, newest first. A search that is already there, with the same address and
pattern, moves to the top. -/

namespace Concordance

namespace History

structure Entry where
  time : String
  url : String
  pattern : Option String
  filter : Option String
  view : Option String
  snapshot : Snapshot
  deriving DecidableEq, Repr

end History

/-- At most `maxEntries` searches; a negative number is no limit. What is added now is added at
`time`. -/
structure History where
  settings : Settings
  maxEntries : Int
  time : String
  entries : List History.Entry
  deriving DecidableEq, Repr

namespace History

def empty (settings : Settings) (maxEntries : Int) : History := ⟨settings, maxEntries, "", []⟩

def entryOf (h : History) (x : Snapshot) (url : String) : Entry :=
  { time := h.time
    url
    pattern := x.view.bind fun v => (v.compile h.settings).pattern
    filter := Filter.encode? x.activeFilters.values
    view := x.mode.map Mode.name
    snapshot := x }

/-- Limits are counted in 64 bits. -/
def isLimit (n : Int) : Bool := -0x8000000000000000 ≤ n && n < 0x8000000000000000

/-- The first entries; a negative limit is none. -/
def first (limit : Int) (es : List Entry) : List Entry :=
  if limit < 0 then es else es.take limit.toNat

def sameSearch (a b : Entry) : Bool := a.url == b.url && a.pattern == b.pattern

def add (h : History) (x : Snapshot) (url : String) : History :=
  let entry := h.entryOf x url
  { h with entries := first h.maxEntries (entry :: h.entries.filter (!sameSearch entry ·)) }

def holdsLimit (h : History) : Bool :=
  (h.entries.length : Int) ≤ h.maxEntries || isLimit h.maxEntries

def list? (h : History) : Option Int → Option (List Entry)
  | none => some h.entries
  | some n => if isLimit n then some (first n h.entries) else none

/-- The entry at a place; negative places count from the end. -/
def entryAt? (h : History) (i : Int) : Option Entry :=
  if 0 ≤ i then h.entries[i.toNat]?
  else if (-i).toNat ≤ h.entries.length then h.entries[h.entries.length - (-i).toNat]?
  else none

def clear (h : History) : History × Nat := ({ h with entries := [] }, h.entries.length)

end History

end Concordance
