import Concordance.Json.Count
import Concordance.Backend.Error

/-! Counts of a search, as far as the backend has got. -/

namespace Concordance.Backend

inductive Status
  | idle
  | polling
  | settled
  | superseded
  | aborted
  | failed
  deriving DecidableEq, Repr

def Status.name : Status → String
  | idle => "idle"
  | polling => "polling"
  | settled => "settled"
  | superseded => "superseded"
  | aborted => "aborted"
  | failed => "failed"

/-- Counts of hits and documents are passed on as they came. -/
structure Totals where
  generation : Nat
  status : Status
  hits : Json
  docs : Json
  retrieved : Int
  pageSize : Int
  stillCounting : Bool
  message : Option String
  deriving Repr

namespace Totals

def defaultPageSize : Int := 50

def blank (generation : Nat) (status : Status) (pageSize : Int) : Totals :=
  ⟨generation, status, .null, .null, 0, pageSize, false, none⟩

def superseded (generation : Nat) : Totals := blank generation .superseded defaultPageSize

def aborted (generation : Nat) (pageSize : Int) (e : Error) : Totals :=
  { blank generation .aborted pageSize with message := some e.reason }

def failed (generation : Nat) (pageSize : Int) (e : Error) : Totals :=
  { blank generation .failed pageSize with message := some e.message }

def retrieved? (operation : String) (summary : Json) : Option Json :=
  if operation = "hits" then
    (summary.get? "numberOfHitsRetrieved").or (summary.get? "numberOfHits")
  else (summary.get? "numberOfDocsRetrieved").or (summary.get? "numberOfDocs")

def ofResponse (generation : Nat) (operation : String) (response : Json) (pageSize : Int) :
    Except Json.NoCount Totals := do
  let summary ← response.objectIn "summary"
  let stillCounting := ((summary.get? "stillCounting").map Json.truthy).getD false
  let retrieved ← Json.countOrZero (retrieved? operation summary)
  .ok
    { generation
      status := if stillCounting then .polling else .settled
      hits := (summary.get? "numberOfHits").getD .null
      docs := (summary.get? "numberOfDocs").getD .null
      retrieved
      pageSize
      stillCounting
      message := none }

def ceiling (x : Binary64) : Option Int :=
  match x, x.truncate? with
  | .finite false _, some i => some (if x.isIntegral then i else i + 1)
  | _, i => i

/-- The number of pages, from the quotient as a floating point number. There is none where that
is too large. -/
def pages? (t : Totals) : Option Int :=
  if t.pageSize = 0 then some 0
  else
    let negative := decide (t.retrieved < 0) != decide (t.pageSize < 0)
    ceiling (.ofRatio negative t.retrieved.natAbs t.pageSize.natAbs)

end Totals

end Concordance.Backend
