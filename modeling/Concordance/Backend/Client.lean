import Concordance.Number
import Concordance.Text.Blank
import Concordance.Text.Wide
import Concordance.Json.Display
import Concordance.Json.Reader
import Concordance.Backend.Error

/-! Requests to the search backend. A request that fails, or is turned away because there were too
many, is repeated after a pause that doubles each time. -/

namespace Concordance.Backend

structure Client where
  baseUrl : String
  corpus : String
  timeout : Number
  deriving DecidableEq, Repr

inductive Attempt
  | failed (reason : String)
  | answered (status : Int) (body : String)
  deriving DecidableEq, Repr

structure Client.Call where
  url : String
  query : List (String × Json)
  timeout : Number
  deriving Repr

/-- A request with all its attempts: the calls that were made, the seconds waited in between, and
the answer of the last attempt. -/
structure Exchange where
  answer : Except Error (Int × String)
  calls : List Client.Call
  pauses : List Nat
  deriving Repr

namespace Client

def maxAttempts : Nat := 3

def tooManyRequests : Int := 429

def operations : List String := ["hits", "docs"]

def url (c : Client) (operation : String) : String :=
  String.ofList (Text.trimEnd (· == '/') c.baseUrl.toList) ++ "/" ++ c.corpus ++ "/" ++ operation

def unreachable (url reason : String) : Error :=
  .failed Error.serviceCode s!"Request to {url} failed after {maxAttempts} attempts: {reason}"

def exhausted (url : String) : Error :=
  .failed Error.serviceCode s!"Request to {url} failed after {maxAttempts} attempts"

/-- At most `left` attempts. Only the last one is not repeated, however it ends. -/
def exchange (call : Call) : (left : Nat) → (pause : Nat) → List Attempt → Exchange
  | 0, _, _ => ⟨.error (exhausted call.url), [], []⟩
  | _ + 1, _, [] => ⟨.error (unreachable call.url "no response"), [call], []⟩
  | left + 1, pause, .failed reason :: rest =>
    if left = 0 then ⟨.error (unreachable call.url reason), [call], []⟩
    else again (exchange call left (2 * pause) rest) pause
  | left + 1, pause, .answered status body :: rest =>
    if status = tooManyRequests ∧ left ≠ 0 then again (exchange call left (2 * pause) rest) pause
    else ⟨.ok (status, body), [call], []⟩
where
  again (e : Exchange) (pause : Nat) : Exchange := ⟨e.answer, call :: e.calls, pause :: e.pauses⟩

def reported? (data : Json) : Option Error :=
  match data.get? "error" with
  | some (.obj members) =>
    let e : Json := .obj members
    let code := ((e.get? "code").map Json.shown).getD Error.serviceCode
    let message := ((e.get? "message").map Json.shown).getD ""
    some (if code = Error.busyCode then
        .busy (if message.isEmpty then "Server is too busy" else message)
      else .failed code message)
  | _ => none

def isFailure (status : Int) : Bool := 400 ≤ status && status < 600

/-- A reported error counts before the status, and the status before the form of the data. `read?`
is how the HTTP library decodes a body: `none` where it raises a `ValueError`, the failure that it
documents. -/
def interpret (read? : String → Option Json) (url : String) (status : Int) (body : String) :
    Reply :=
  let data := read? body
  match data.bind reported? with
  | some e => .error e
  | none =>
    if isFailure status then .error (.failed Error.serviceCode s!"HTTP {status} from {url}")
    else
      match data with
      | some (.obj members) => .ok (.obj members)
      | _ => .error (.failed Error.serviceCode s!"Response from {url} is not a JSON object")

def query (params : List (String × Json)) : List (String × Json) :=
  params.filter fun p => match p.2 with
    | .null => false
    | _ => true

structure UnknownOperation where
  operation : String
  deriving DecidableEq, Repr

def UnknownOperation.message (e : UnknownOperation) : String := s!"Unknown operation: {e.operation}"

structure Search where
  reply : Reply
  calls : List Client.Call
  pauses : List Nat

def search (c : Client) (read? : String → Option Json) (operation : String)
    (params : List (String × Json)) (attempts : List Attempt) : Except UnknownOperation Search :=
  if operations.contains operation then
    let url := c.url operation
    let e := exchange ⟨url, query params, c.timeout⟩ maxAttempts 1 attempts
    let reply := match e.answer with
      | .ok (status, body) => interpret read? url status body
      | .error e => .error e
    .ok ⟨reply, e.calls, e.pauses⟩
  else .error ⟨operation⟩

/-- How bodies are decoded in practice; a mark of the byte order in front of the data is skipped. -/
def data? (body : String) : Option Json :=
  match body.toList with
  | '\uFEFF' :: cs => Json.read? cs
  | cs => (Text.ofData? cs).bind Json.read?

end Client

end Concordance.Backend
