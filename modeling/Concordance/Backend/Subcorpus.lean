import Concordance.Corpus
import Concordance.Json.Count
import Concordance.Backend.Clock

/-! The size of the part of a corpus that the filters leave. A new filter clears the size that is
known, cancels the look-up before it and starts one of its own after a pause. Without a filter no
request is made: the size is that of the corpus. -/

namespace Concordance.Backend

structure Size where
  documents : Int
  tokens : Int
  deriving DecidableEq, Repr

namespace Lookup

inductive Outcome
  | size (value : Option Size)
  | cancelled
  | broken (e : Json.NoCount)
  deriving DecidableEq, Repr

inductive Phase
  | created
  | sleeping
  | fetching
  | ended (outcome : Outcome)
  deriving DecidableEq, Repr

def Phase.isLive : Phase → Bool
  | ended _ => false
  | _ => true

end Lookup

structure Lookup where
  filter : Option String
  phase : Lookup.Phase
  deriving DecidableEq, Repr

structure Counter where
  corpus : Size
  value : Option Size
  lookups : List Lookup
  deriving DecidableEq, Repr

inductive CounterEvent
  | update (value : Option Size)
  | updated (filter : Option String)
  | fetch (operation : String) (request : Request)
  | error (e : Error)
  | ended (value : Option Size)

namespace Counter

abbrev Effects := List (Effect CounterEvent)

def ofCorpus (c : Corpus) : Counter := ⟨⟨c.documents, c.tokens⟩, none, []⟩

def setPhase (c : Counter) (task : Nat) (phase : Lookup.Phase) : Counter :=
  { c with lookups := c.lookups.modify task fun l => { l with phase } }

/-- Cancels a look-up wherever it stands; nothing of it happens any more. -/
def cancel (c : Counter) (task : Nat) : Counter × Effects :=
  match c.lookups[task]? with
  | some l =>
    if l.phase.isLive then (c.setPhase task (.ended .cancelled), [.cancel task]) else (c, [])
  | none => (c, [])

def update (c : Counter) (filter : Option String) : Counter × Effects :=
  let (c, effects) := c.cancel (c.lookups.length - 1)
  ({ c with value := none, lookups := c.lookups ++ [⟨filter, .created⟩] },
    effects ++ [.record (.update none), .spawn c.lookups.length])

def request (filter : String) : Request :=
  [("filter", .str filter), ("first", .int 0), ("number", .int 0),
    ("includetokencount", .str "true"), ("waitfortotal", .str "true")]

def publish (c : Counter) (task : Nat) (size : Size) : Counter × Effects :=
  ({ c.setPhase task (.ended (.size (some size))) with value := some size },
    [.record (.update (some size))])

def sizeOf (response : Json) : Except Json.NoCount Size := do
  let summary ← response.objectIn "summary"
  let documents ← ((summary.get? "numberOfDocs").getD (.int 0)).count
  let tokens ← ((summary.get? "tokensInMatchingDocuments").getD (.int 0)).count
  .ok ⟨documents, tokens⟩

def receive (c : Counter) (task : Nat) (r : Reply) : Counter × Effects :=
  match r with
  | .error e => (c.setPhase task (.ended (.size none)), [.record (.error e)])
  | .ok response =>
    match sizeOf response with
    | .ok size => c.publish task size
    | .error e => (c.setPhase task (.ended (.broken e)), [])

def resume (c : Counter) (task : Nat) (s : Signal) : Counter × Effects :=
  match c.lookups[task]? with
  | none => (c, [])
  | some l =>
    match l.phase, s with
    | .created, .start => (c.setPhase task .sleeping, [.pause task])
    | .sleeping, .wake =>
      match l.filter with
      | none => c.publish task c.corpus
      | some filter =>
        if filter.isEmpty then c.publish task c.corpus
        else (c.setPhase task .fetching, [.ask task "docs" (request filter)])
    | .fetching, .reply r => c.receive task r
    | _, _ => (c, [])

def work (debounce : Nat) : Work Counter CounterEvent := ⟨resume, .fetch, fun _ => debounce⟩

end Counter

end Concordance.Backend
