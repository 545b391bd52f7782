/-
Cookies on the wire.

A request carries its cookies as pairs of a name and a value, percent-encoded, in headers of plain
text; what is no such pair is passed over. A response sets one cookie a header: name and value are
percent-encoded, the attributes are not. `SetCookie.parse?` reads a cookie as it is written before
it is encoded.
-/
import WebLogin.Http.Date
import WebLogin.Http.Header
import WebLogin.Number.Limits
import WebLogin.Text.CharClass
import WebLogin.Text.Percent
import WebLogin.Text.Split

namespace WebLogin

namespace Http

/-- A name and a value around the first equals sign, without blanks around them. -/
def assignment? (cs : List Char) : Option (String × String) :=
  (cut? '=' cs).map fun (name, value) =>
    (String.ofList (trimWhiteSpace name), String.ofList (trimWhiteSpace value))

/-- A name and a value, if the name is not empty. -/
def namedPair? (cs : List Char) : Option (String × String) :=
  (assignment? cs).filter fun pair => !pair.1.isEmpty

/-! ### Requests -/

/-- The cookie that a pair writes. -/
def cookie? (cs : List Char) : Option (String × String) := do
  let (name, value) ← namedPair? cs
  return (← Percent.decode? name, ← Percent.decode? value)

/-- The cookies of a header; none if the header is not plain. -/
def cookiesOf (value : String) : List (String × String) :=
  if isPlain value then (splitOn ';' value.toList).filterMap cookie? else []

/-! ### Responses -/

/-- A cookie that a response sets. -/
structure SetCookie where
  /-- The name. -/
  name : String
  /-- The value. -/
  value : String
  /-- Whether scripts of the page must not see the cookie. -/
  httpOnly : Bool := false
  /-- Whether the cookie is kept from requests that another site makes. -/
  sameSiteLax : Bool := false
  /-- Whether the cookie is kept apart for each site that embeds the page. -/
  partitioned : Bool := false
  /-- Whether the cookie is sent over secure connections only. -/
  secure : Bool := false
  /-- The part of the site that the cookie is for. -/
  path : Option String := none
  /-- The hosts that the cookie is for. -/
  domain : Option String := none
  /-- How many seconds the cookie is kept. -/
  maxAge : Option Nat := none
  /-- Until when the cookie is kept. -/
  expires : Option HttpDate := none
  deriving DecidableEq, Repr

namespace SetCookie

/-- The longest time that a cookie can be kept, in seconds. -/
def longestAge : Nat := signedLimit64 - 1

/-- The age that an attribute writes: digits, or a minus sign and digits for none at all. -/
def age? (cs : List Char) : Option Nat :=
  let number (cs : List Char) : Option Nat :=
    if cs.all Char.isDigit then some (cs.foldl (fun n c => n * 10 + (c.toNat - '0'.toNat)) 0)
    else none
  match cs with
  | '-' :: rest => (number rest).map fun _ => 0
  | [] => some longestAge
  | _ => (number cs).map (min longestAge)

/-- The cookie with one more attribute; one that is not known, or has no such value, changes
nothing. -/
def withAttribute (c : SetCookie) (cs : List Char) : SetCookie :=
  let (key, value) := match assignment? cs with
    | some (key, value) => (key, some value)
    | none => (String.ofList (trimWhiteSpace cs), none)
  match key.toLower, value with
  | "secure", _ => { c with secure := true }
  | "httponly", _ => { c with httpOnly := true }
  | "partitioned", _ => { c with partitioned := true }
  | "max-age", some v => { c with maxAge := age? v.toList <|> c.maxAge }
  | "domain", some v => if v.isEmpty then c else { c with domain := some v }
  | "path", some v => { c with path := some v }
  | "expires", some v => { c with expires := HttpDate.parse? v <|> c.expires }
  | _, _ => c

/-- Reads a name, a value and attributes with semicolons between them. -/
def parse? (s : String) : Option SetCookie :=
  match splitOn ';' s.toList with
  | [] => none
  | pair :: attributes =>
    (namedPair? pair).map fun (name, value) => attributes.foldl withAttribute { name, value }

/-- The visible characters that are escaped in a name or a value. -/
def escapedSigns : List Char := " \"<>`#?\x7b\x7d/:;=@[\\]^|%(),".toList

/-- Whether a character is escaped in a name or a value. -/
def isEscaped (c : Char) : Bool := c < ' ' || '\x7f' ≤ c || escapedSigns.contains c

/-- A domain without a leading dot. -/
def bareDomain (domain : String) : String :=
  match domain.toList with
  | '.' :: rest => String.ofList rest
  | _ => domain

/-- The attributes as they are written, in order. -/
def attributes (c : SetCookie) : List String :=
  let mark (b : Bool) (s : String) : List String := if b then [s] else []
  mark c.httpOnly "HttpOnly" ++ mark c.sameSiteLax "SameSite=Lax" ++
    mark c.partitioned "Partitioned" ++ mark (c.secure || c.partitioned) "Secure" ++
    (c.path.map ("Path=" ++ ·)).toList ++
    (c.domain.map fun d => "Domain=" ++ bareDomain d).toList ++
    (c.maxAge.map fun n => "Max-Age=" ++ toString n).toList ++
    (c.expires.map fun d => "Expires=" ++ d.text).toList

/-- The value of the header that sets the cookie. -/
def text (c : SetCookie) : String :=
  "; ".intercalate
    ((Percent.encode isEscaped c.name ++ "=" ++ Percent.encode isEscaped c.value) :: c.attributes)

/-- The cookie that makes a browser forget a name: empty, without any time to live, and expired a
year ago. -/
def removal (now : Timestamp) (name : String) : SetCookie :=
  { name, value := "", path := some "/", maxAge := some 0
    expires := some (.ofTimestamp (now.addSeconds (-365 * 86400))) }

end SetCookie

end Http

end WebLogin
