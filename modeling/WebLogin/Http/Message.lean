/-
Requests and responses.

Bodies and header values are texts; that text travels as UTF-8. A request names its target as a
path, with a query or a fragment after it, or as a whole address.
-/
import WebLogin.Http.Header

namespace WebLogin

namespace Http

/-- The methods of requests that a service tells apart. -/
inductive Method where
  /-- Asks for a resource. -/
  | get
  /-- Asks for what comes before the body of a resource. -/
  | head
  /-- Sends data. -/
  | post
  /-- Asks what can be done with a resource. -/
  | options
  /-- Anything else. -/
  | other
  deriving DecidableEq, Repr

namespace Method

/-- The method of a name. -/
def ofName : String → Method
  | "GET" => get
  | "HEAD" => head
  | "POST" => post
  | "OPTIONS" => options
  | _ => other

end Method

/-- A request. -/
structure Request where
  /-- What is to be done. -/
  method : Method
  /-- What is asked for. -/
  target : String
  /-- The headers in order. -/
  headers : List Header := []
  /-- The body. -/
  body : String := ""
  deriving DecidableEq, Repr

namespace Request

/-- Whether a character ends a path. -/
def endsPath (c : Char) : Bool := c = '?' || c = '#'

/-- The part of an address after its scheme and host, if it has a scheme. -/
def afterHost? : List Char → Option (List Char)
  | ':' :: '/' :: '/' :: rest => some (rest.dropWhile fun c => c ≠ '/' && !endsPath c)
  | '/' :: _ => none
  | [] => none
  | _ :: rest => afterHost? rest

/-- The path that is asked for. -/
def path (r : Request) : String :=
  match (((afterHost? r.target.toList).getD r.target.toList).takeWhile (!endsPath ·)) with
  | [] => "/"
  | cs => String.ofList cs

end Request

/-- A response. -/
structure Response where
  /-- The status. -/
  status : Nat
  /-- The headers in order. -/
  headers : List Header := []
  /-- The body. -/
  body : String := ""
  deriving DecidableEq, Repr

namespace Response

/-- A response with a JSON body. -/
def json (status : Nat) (body : String) : Response :=
  { status, headers := [("content-type", "application/json")], body }

/-- A response with a body for people to read. -/
def text (status : Nat) (body : String) : Response :=
  { status, headers := [("content-type", "text/plain; charset=utf-8")], body }

/-- The response with more headers at the end. -/
def withHeaders (r : Response) (headers : List Header) : Response :=
  { r with headers := r.headers ++ headers }

end Response

end Http

end WebLogin
