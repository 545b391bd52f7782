/-
How failures are reported over HTTP.

A client that cannot be let in is told why; everything else that goes wrong behind the scenes is
one kind of error with a text. The report is a JSON object with the text, a code that says whose
fault it is, and the reason for a client that is not let in.
-/
import WebLogin.Codec
import WebLogin.Http.Message

namespace WebLogin

namespace Http

/-- A failure as it is reported over HTTP. -/
inductive ApiError where
  /-- The login was rejected. -/
  | authenticationFailed (failure : LoginFailure)
  /-- Nobody is logged in. -/
  | notAuthenticated
  /-- The client sent something that makes no sense. -/
  | invalidInput (text : String)
  /-- Anything else. -/
  | unexpected (text : String)
  deriving DecidableEq, Repr

namespace ApiError

/-- The text that reports the error. -/
def message : ApiError → String
  | authenticationFailed f => f.message
  | notAuthenticated => "Not authenticated"
  | invalidInput text => "Invalid input: " ++ text
  | unexpected text => "Unexpected error: " ++ text

/-- The status of the response. -/
def status : ApiError → Nat
  | authenticationFailed _ => 401
  | notAuthenticated => 401
  | invalidInput _ => 400
  | unexpected _ => 500

/-- The code that says whose fault it is. -/
def faultCode : ApiError → String
  | authenticationFailed _ => "Client.Authentication"
  | notAuthenticated => "Client.Authentication"
  | invalidInput _ => "Client.Data"
  | unexpected _ => "Server.Processing"

/-- Why a login was rejected. -/
def reason? : ApiError → Option FailureReason
  | authenticationFailed f => some f.reason
  | _ => none

/-- The report as a JSON text. -/
def toJson (e : ApiError) : String :=
  Json.printObject
    ([("error", Json.quote e.message), ("fault_code", Json.quote e.faultCode)] ++
      (e.reason?.map fun r => ("reason", r.toJson)).toList)

/-- The response that reports the error. -/
def response (e : ApiError) : Response := .json e.status e.toJson

/-- The report of a login that failed. -/
def ofLoginError : LoginError → ApiError
  | .notStarted => unexpected LoginError.notStarted.message
  | .failed f => if f.reason = .other then unexpected f.message else authenticationFailed f

/-- The report of a logout that failed. -/
def ofLogoutError (e : LogoutError) : ApiError := unexpected e.message

/-- The report of a request that could be given no scope. -/
def ofScopeError (e : ScopeError) : ApiError := unexpected e.message

end ApiError

end Http

end WebLogin
