/-
Signed remember-me tokens.

A token is three texts in URL-safe base64 with dots between them: a header, the claims, and the
HMAC of the first two under a secret. `Token.verify` takes the claims from a token that was signed
with the secret and has not expired, with a leeway of a minute; `Token.issue` signs the claims of
a principal for a time to live, if the moment of expiry can be written.

The text of the claims is read twice: for whom the token stands and until when, and then for the
registered claims that may limit its use. In the second reading a claim at fault counts as not
given, and reading goes on at the place of the fault: it succeeds only if that is the end of the
claim.
-/
import WebLogin.Hash.Sha256
import WebLogin.RememberMe.Claims
import WebLogin.RememberMe.Header
import WebLogin.Text.Base64
import WebLogin.Timestamp

namespace WebLogin

/-- Why a token is not accepted. -/
inductive TokenError where
  /-- There are not three parts. -/
  | invalidToken
  /-- A part is not base64. -/
  | base64
  /-- The header or the claims are not the JSON they should be. -/
  | json
  /-- The token is signed in another way. -/
  | invalidAlgorithm
  /-- The token is not signed with the secret. -/
  | invalidSignature
  /-- The token has expired. -/
  | expiredSignature
  /-- The token is meant for certain readers only. -/
  | invalidAudience
  deriving DecidableEq, Repr

/-- Why no token can be issued. -/
inductive IssueError where
  /-- The time to live is no duration. -/
  | noDuration
  /-- The moment of expiry is beyond the calendar. -/
  | outOfRange
  /-- The moment of expiry lies before the epoch. -/
  | beforeEpoch
  deriving DecidableEq, Repr

/-- The text that reports an unexpected error of remember-me. -/
def rememberMeErrorMessage (text : String) : String := "Unexpected error: " ++ text

namespace IssueError

/-- What went wrong. -/
def detail : IssueError → String
  | noDuration => "Failed to create token duration"
  | outOfRange => "Duration out of range"
  | beforeEpoch => "Failed to cast i64 to usize"

/-- The text that reports the error. -/
def message (e : IssueError) : String := rememberMeErrorMessage e.detail

end IssueError

namespace Token

/-- How many seconds a token is accepted after its expiry. -/
def leeway : Nat := 60

/-- Writes bytes as a part of a token. -/
def encodePart (bytes : List UInt8) : List Char := Base64.encode Base64.urlSafe bytes

/-- Reads the bytes of a part of a token. -/
def decodePart? (part : List Char) : Option (List UInt8) := Base64.decode? Base64.urlSafe part

/-- Cuts a text at its last dot. -/
def splitLast? (cs : List Char) : Option (List Char × List Char) :=
  let r := cs.reverse
  match r.dropWhile (· != '.') with
  | [] => none
  | _ :: before => some (before.reverse, (r.takeWhile (· != '.')).reverse)

/-- The bytes of a text. -/
def bytesOf (cs : List Char) : List UInt8 := Utf8.bytes (String.ofList cs)

/-- The signature of a text under a secret. -/
def signature (secret : String) (text : List Char) : List UInt8 :=
  Sha256.hmac (Utf8.bytes secret) (bytesOf text)

/-- The token of some claims, signed with a secret. -/
def sign (secret : String) (claims : Claims) : String :=
  let text := encodePart (Utf8.bytes Header.issued) ++
    '.' :: encodePart (Utf8.bytes claims.toJson)
  String.ofList (text ++ '.' :: encodePart (signature secret text))

/-! ### Reading the claims -/

/-- Reads a claim that may be at fault. A fault counts as null, and reading goes on where it
arose. -/
def claim (value : Json.Reader Json.Value) : Json.Reader Json.Value := do
  match ← Json.attempt value with
  | .ok v => return v
  | .error _ => return .null

/-- Reads a claim of any form. It stands inside an object, so it is nested one level less deep. -/
def anyClaim : Json.Reader Json.Value := claim (Json.valueWithin (Json.maxDepth - 1))

/-- What the registered claims say beside those of a `Claims`: whether the start and the issuer
have been read, and the audience. -/
structure Registered where
  /-- Whether the start of validity has been read. -/
  notBefore : Bool := false
  /-- Whether the issuer has been read. -/
  issuer : Bool := false
  /-- The audience, once it has been read. -/
  audience : Option Json.Value := none

namespace Registered

/-- The registered claims that must not come twice. -/
def fields : List (Json.Field Registered) :=
  [{ name := "nbf", isRead := (·.notBefore),
     read := fun r => do let _ ← claim Json.scalar; return { r with notBefore := true } },
   { name := "iss", isRead := (·.issuer),
     read := fun r => do let _ ← anyClaim; return { r with issuer := true } },
   { name := "aud", isRead := (·.audience.isSome),
     read := fun r => do return { r with audience := some (← anyClaim) } }]

/-- Reads the registered claims. -/
def reader : Json.Reader Registered := Json.record fields {} some

/-- Whether the token is meant for certain readers only: the audience is a string or a list of
strings. -/
def isLimited (r : Registered) : Bool :=
  r.audience.any fun v => Header.isString v || Header.isStringList v

end Registered

/-- Whether a text is a JSON object, by its first character. -/
def isObject (bytes : List UInt8) : Bool :=
  (bytes.dropWhile Json.isBlank).head? == some (Json.byte '\x7b')

/-- Reads the claims of a token and whether it is meant for certain readers only. -/
def claims? (bytes : List UInt8) : Option (Claims × Bool) :=
  if isObject bytes then
    match Json.ofBytes Claims.reader bytes, Json.ofBytes Registered.reader bytes with
    | .ok claims, .ok registered => some (claims, registered.isLimited)
    | _, _ => none
  else none

/-! ### Accepting and issuing -/

/-- Checks the two parts before the signature: their header must name the algorithm in use. -/
def checkHeader (header : List Char) : Except TokenError Unit := do
  let some bytes := decodePart? header | throw .base64
  match Header.algorithm? bytes with
  | none => throw .json
  | some .hs256 => return
  | some (.other _) => throw .invalidAlgorithm

/-- The claims of a token that is signed with the secret and has not expired. -/
def verify (secret : String) (now : Timestamp) (token : String) : Except TokenError Claims := do
  let some (text, mac) := splitLast? token.toList | throw .invalidToken
  let some (header, payload) := splitLast? text | throw .invalidToken
  checkHeader header
  let some given := decodePart? mac | throw .base64
  if given ≠ signature secret text then throw .invalidSignature
  let some bytes := decodePart? payload | throw .base64
  let some (claims, limited) := claims? bytes | throw .json
  if (claims.expiry : Int) < now.seconds - leeway then throw .expiredSignature
  if limited then throw .invalidAudience
  return claims

/-- The greatest time to live that is a duration, in seconds: a duration is counted in
milliseconds in 64 bits. -/
def maxDuration : Int := 9223372036854775

/-- The last second of a token issued now, if the time to live is a duration, the moment has a
date and the date does not lie before the epoch. -/
def expiry (now : Timestamp) (ttl : Int) : Except IssueError Nat :=
  if ttl < -maxDuration || maxDuration < ttl then .error .noDuration
  else
    let t := now.addSeconds ttl
    if !t.hasDate then .error .outOfRange
    else if t.seconds < 0 then .error .beforeEpoch
    else .ok t.seconds.toNat

/-- The claims of a token for a principal that expires at some second. -/
def claimsOf (p : Principal) (expiry : Nat) : Claims :=
  ⟨p.name, p.authorities.toList, expiry⟩

/-- A token for a principal that lives so many seconds from now. -/
def issue (secret : String) (ttl : Int) (now : Timestamp) (p : Principal) :
    Except IssueError String :=
  (expiry now ttl).map fun second => sign secret (claimsOf p second)

end Token

end WebLogin
