/-
The header of a signed token.

A header is a JSON object that names the algorithm of the signature. It may hold further fields:
some have a fixed form, such as the description of a key, and any other must be a string.
-/
import WebLogin.Json.Value

namespace WebLogin

/-- The algorithms that a token may be signed with. -/
inductive Algorithm where
  /-- A shared secret and a hash of 256 bits. -/
  | hs256
  /-- Any other algorithm, by its name. -/
  | other (name : String)
  deriving DecidableEq, Repr

namespace Algorithm

/-- The names of the algorithms that are known beside the one in use. -/
def otherNames : List String :=
  ["HS384", "HS512", "ES256", "ES384", "RS256", "RS384", "RS512", "PS256", "PS384", "PS512",
    "EdDSA"]

/-- The algorithm of a name. -/
def ofName? (name : String) : Option Algorithm :=
  if name = "HS256" then some .hs256
  else if otherNames.contains name then some (.other name)
  else none

end Algorithm

namespace Header

open Json

/-- Whether a value is a string. -/
def isString : Value → Bool
  | .string _ => true
  | _ => false

/-- Whether a value is a list of strings. -/
def isStringList : Value → Bool
  | .list values => values.all isString
  | _ => false

/-- Whether a value is null or has a form. -/
def orNull (form : Value → Bool) : Value → Bool
  | .null => true
  | v => form v

/-- The name that a value stands for: a string, or the only key of an object whose value is null. -/
def name? : Value → Option String
  | .string s => some s
  | .object [(s, .null)] => some s
  | _ => none

/-- Whether no element is repeated. -/
def allDistinct : List String → Bool
  | [] => true
  | s :: rest => !rest.contains s && allDistinct rest

/-- Whether no field of some names is repeated. -/
def areDistinct (names : List String) (fields : List (String × Value)) : Bool :=
  allDistinct ((fields.map (·.1)).filter names.contains)

/-! ### Keys -/

/-- The fields of any key that hold a string or null. -/
def keyStringFields : List String := ["use", "kid", "x5u", "x5t", "x5t#S256"]

/-- The fields of any key that hold a list of strings or null. -/
def keyListFields : List String := ["key_ops", "x5c"]

/-- The fields of any key. -/
def keyFields : List String := "alg" :: keyStringFields ++ keyListFields

/-- Whether a value names the algorithm of a key, which need not be known. An empty object may
stand in place of null. -/
def isKeyAlgorithm : Value → Bool
  | .object [(_, .object [])] => true
  | v => (name? v).isSome

/-- Whether a field of a key has the form that its name asks for, whatever the kind of the key. -/
def isKeyField : String × Value → Bool
  | (name, v) =>
    if name = "alg" then orNull isKeyAlgorithm v
    else if keyStringFields.contains name then orNull isString v
    else if keyListFields.contains name then orNull isStringList v
    else true

/-- A kind of keys. -/
structure KeyKind where
  /-- The name of the kind. -/
  name : String
  /-- Whether a key lies on a curve. -/
  hasCurve : Bool
  /-- The fields that hold the numbers of a key as strings. -/
  numbers : List String

/-- The kinds of keys. -/
def keyKinds : List KeyKind :=
  [⟨"EC", true, ["x", "y"]⟩, ⟨"RSA", false, ["n", "e"]⟩, ⟨"oct", false, ["k"]⟩,
    ⟨"OKP", true, ["x"]⟩]

/-- The names of curves. -/
def curves : List String := ["P-256", "P-384", "P-521", "Ed25519"]

/-- Whether a field is given exactly once, and in some form. -/
def hasField (fields : List (String × Value)) (name : String) (form : Value → Bool) : Bool :=
  match fields.filter (·.1 == name) with
  | [(_, v)] => form v
  | _ => false

/-- Whether the fields describe a key of a kind; fields of other kinds do not matter. -/
def KeyKind.matches (kind : KeyKind) (fields : List (String × Value)) : Bool :=
  hasField fields "kty" (name? · == some kind.name) &&
    (!kind.hasCurve || hasField fields "crv" fun v => (name? v).any curves.contains) &&
    kind.numbers.all fun n => hasField fields n isString

/-- Whether a value describes a key. -/
def isKey : Value → Bool
  | .object fields =>
    fields.all isKeyField && areDistinct keyFields fields && keyKinds.any (·.matches fields)
  | _ => false

/-! ### Headers -/

/-- The fields that hold a string or null. -/
def stringFields : List String :=
  ["typ", "cty", "jku", "kid", "x5u", "x5t", "x5t#S256", "enc", "zip", "url", "nonce"]

/-- The fields that hold a list of strings or null. -/
def listFields : List String := ["x5c", "crit"]

/-- The fields of a header that must not come twice. -/
def ownFields : List String := ["alg", "jwk"] ++ stringFields ++ listFields

/-- Whether a field of a header has the form that its name asks for. -/
def isField : String × Value → Bool
  | (name, v) =>
    if name = "alg" then (name? v).isSome
    else if name = "jwk" then orNull isKey v
    else if stringFields.contains name then orNull isString v
    else if listFields.contains name then orNull isStringList v
    else isString v

/-- The algorithm that a header names, if it is well formed. -/
def algorithm? (bytes : List UInt8) : Option Algorithm :=
  match ofBytes value bytes with
  | .ok (.object fields) =>
    if fields.all isField && areDistinct ownFields fields then
      ((fields.lookup "alg").bind name?).bind Algorithm.ofName?
    else none
  | _ => none

/-- The header of the tokens that are issued. -/
def issued : String := "\x7b\"typ\":\"JWT\",\"alg\":\"HS256\"\x7d"

end Header

end WebLogin
