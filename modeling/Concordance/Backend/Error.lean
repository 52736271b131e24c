import Concordance.Json.Basic

/-! What can go wrong with a request to the search backend. -/

namespace Concordance.Backend

inductive Error
  | busy (message : String)
  | failed (code message : String)
  deriving DecidableEq, Repr

namespace Error

def busyCode : String := "SERVER_BUSY"

def serviceCode : String := "WEBSERVICE_ERROR"

def code : Error → String
  | busy _ => busyCode
  | failed code _ => code

def reason : Error → String
  | busy message => message
  | failed _ message => message

def message (e : Error) : String := s!"{e.code}: {e.reason}"

end Error

abbrev Reply := Except Error Json

end Concordance.Backend
