/-
Which media types say that a body is JSON.

A media type is two names with a slash between them and parameters after semicolons. The second
name may end in a suffix that tells the syntax, after its last plus sign. Blanks can stand before a
parameter and after a quoted value, nowhere else.
-/
import WebLogin.Http.Header
import WebLogin.Text.Split

namespace WebLogin

namespace Http

namespace MediaType

/-- The signs that a name may hold beside letters and digits. -/
def nameSigns : List Char := "!#$%&'*+-.^_\x60|~".toList

/-- Whether a character may stand in a name. -/
def isNameChar (c : Char) : Bool := c.isAlphanum || nameSigns.contains c

/-- Whether a character may stand between quotes. -/
def isQuotedChar (c : Char) : Bool := ' ' ≤ c && c ≠ '\x7f'

/-- A text after its blanks. -/
def skipBlanks (cs : List Char) : List Char := cs.dropWhile (· = ' ')

/-- What follows a quoted value, given the text after its opening quote. The value is not empty;
a quote that comes first is part of it. -/
def afterQuoted? : List Char → Option (List Char)
  | [] => none
  | first :: cs =>
    if !isQuotedChar first then none
    else
      match cut? '"' cs with
      | some (value, rest) => if value.all isQuotedChar then some (skipBlanks rest) else none
      | none => none

/-- What follows the value of a parameter, `none` if there is no value. A value without quotes is
empty only at the end of the text. -/
def afterValue? (cs : List Char) : Option (List Char) :=
  match cs with
  | '"' :: rest => afterQuoted? rest
  | _ =>
    let rest := cs.dropWhile isNameChar
    if rest.length = cs.length && !rest.isEmpty then none else some rest

/-- Whether a text is a list of parameters, the semicolon before the first one left out. `fuel`
bounds the number of parameters. -/
def areParameters : Nat → List Char → Bool
  | 0, _ => false
  | fuel + 1, cs =>
    match skipBlanks cs with
    | [] => true
    | cs =>
      match cut? '=' cs with
      | none => false
      | some (name, rest) =>
        if name.isEmpty || !name.all isNameChar then false
        else
          match afterValue? rest with
          | none => false
          | some [] => true
          | some (c :: rest) => c = ';' && areParameters fuel rest

/-- A name before its suffix, and the suffix. There is none if the last plus sign comes first. -/
def splitSuffix (name : List Char) : List Char × Option (List Char) :=
  match cut? '+' name.reverse with
  | some (suffix, base) =>
    if base.isEmpty then (name, none) else (base.reverse, some suffix.reverse)
  | none => (name, none)

/-- Whether a name, in any case, says JSON. -/
def saysJson (name : List Char) : Bool := name.map Char.toLower = "json".toList

/-- Whether the second name of a media type says JSON, before its suffix or by it. -/
def isJsonSubtype (subtype : List Char) : Bool :=
  let (base, suffix) := splitSuffix subtype
  saysJson base || suffix.any saysJson

/-- Whether the value of a content-type header says that the body is JSON. -/
def isJson (value : String) : Bool :=
  isPlain value &&
    match cut? '/' value.toList with
    | none => false
    | some (type, rest) =>
      let subtype := rest.takeWhile isNameChar
      type.map Char.toLower = "application".toList && isJsonSubtype subtype &&
        match rest.drop subtype.length with
        | [] => true
        | c :: parameters => c = ';' && areParameters (parameters.length + 1) parameters

end MediaType

end Http

end WebLogin
