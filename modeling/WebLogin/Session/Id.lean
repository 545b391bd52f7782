/-
Session ids.

An id is a number of 128 bits, written as 32 lower-case hexadecimal digits in groups of 8, 4, 4, 4
and 12 with hyphens between them. `SessionId.parse?` reads that form in either case of the digits,
also inside braces or after `urn:uuid:`, and the 32 digits without hyphens.
-/
import WebLogin.Text.Hex

namespace WebLogin

/-- The name of a session. -/
structure SessionId where
  /-- The number that the id writes. -/
  value : BitVec 128
  deriving DecidableEq

namespace SessionId

/-- The sizes of the groups of digits between the hyphens. -/
def groups : List Nat := [8, 4, 4, 4, 12]

/-- Cuts a list into groups of given sizes with a hyphen between neighbours. -/
def hyphenate : List Nat → List Char → List Char
  | [], _ => []
  | [n], cs => cs.take n
  | n :: ns, cs => cs.take n ++ '-' :: hyphenate ns (cs.drop n)

/-- The canonical text of an id. -/
def text (id : SessionId) : String :=
  String.ofList (hyphenate groups (hexDigits 32 id.value.toNat))

/-- Takes the hyphens out of groups of given sizes; `none` if a group is short, a hyphen is
missing or something is left over. -/
def joinGroups? : List Nat → List Char → Option (List Char)
  | [], _ => none
  | [n], cs => if cs.length = n then some cs else none
  | n :: ns, cs =>
    match cs.drop n with
    | '-' :: rest => (joinGroups? ns rest).map (cs.take n ++ ·)
    | _ => none

/-- The id of 32 hexadecimal digits. -/
def ofDigits? (cs : List Char) : Option SessionId :=
  if cs.length = 32 then (ofHexDigits? cs).map fun n => ⟨BitVec.ofNat 128 n⟩ else none

/-- The id of a text with hyphens between the groups. -/
def ofHyphenated? (cs : List Char) : Option SessionId :=
  (joinGroups? groups cs).bind ofDigits?

/-- The start of the form that names the kind of id, in lower case. -/
def urnHead : List Char := "urn:uuid:".toList

/-- Reads an id in any of its forms. -/
def parse? (s : String) : Option SessionId :=
  let cs := s.toList
  match cs.length with
  | 32 => ofDigits? cs
  | 36 => ofHyphenated? cs
  | 38 =>
    if cs.head? = some '\x7b' && cs.getLast? = some '\x7d' then
      ofHyphenated? (cs.drop 1).dropLast
    else none
  | 45 =>
    if (cs.take 9).map Char.toLower = urnHead then ofHyphenated? (cs.drop 9) else none
  | _ => none

/-- The text that reports that a text is no session id. -/
def errorMessage : String := "Invalid session id"

end SessionId

end WebLogin
