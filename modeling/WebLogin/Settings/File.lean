/-
The configuration file.

`fileLayer` takes the values from the text of the file, which must be a JSON object. A value may be
embedded as a text: an object whose first key is `embeddedKey` has no other, and stands for the
value that the string under that key writes as a JSON text of its own. `fileAt` says which paths
lead to the file.
-/
import WebLogin.Settings.Decode
import WebLogin.Settings.EnvFile

namespace WebLogin

namespace Settings

/-! ### Embedded texts -/

/-- The key of an object that stands for the value of a text. -/
def embeddedKey : String := "$serde_json::private::RawValue"

mutual

/-- The value with each embedded text in it replaced by what it stands for; `none` if one of them
stands for nothing. -/
def resolve (valueOf? : String → Option Json.Value) : Json.Value → Option Json.Value
  | .list values => (resolveList valueOf? values).map .list
  | .object fields =>
    if fields.head?.any (·.1 == embeddedKey) then
      match fields with
      | [(_, .string text)] => valueOf? text
      | _ => none
    else (resolveFields valueOf? fields).map .object
  | v => some v

/-- The values of a list without embedded texts. -/
def resolveList (valueOf? : String → Option Json.Value) : List Json.Value → Option (List Json.Value)
  | [] => some []
  | v :: rest => do return (← resolve valueOf? v) :: (← resolveList valueOf? rest)

/-- The fields of an object without embedded texts. -/
def resolveFields (valueOf? : String → Option Json.Value) :
    List (String × Json.Value) → Option (List (String × Json.Value))
  | [] => some []
  | (key, v) :: rest => do return (key, ← resolve valueOf? v) :: (← resolveFields valueOf? rest)

end

/-- The value of a text; `fuel` bounds how deep texts are embedded in one another. -/
def textValueWithin? : Nat → String → Option Json.Value
  | 0, _ => none
  | fuel + 1, text =>
    match Json.ofText Json.value text with
    | .ok v => resolve (textValueWithin? fuel) v
    | .error _ => none

/-- The value of a text. An embedded text is shorter than the one around it, so the length bounds
the depth. -/
def textValue? (text : String) : Option Json.Value := textValueWithin? (text.length + 1) text

/-- The layer of a configuration file: its text must be a JSON object. -/
def fileLayer (text : String) : Decoded (List (String × Tree)) :=
  match textValue? (String.ofList (EnvFile.dropMark text.toList)) with
  | some (.object fields) => .ok (Tree.ofJsonFields fields [])
  | _ => here .fileParse

/-! ### The place of the file -/

/-- Whether a part of a path between its slashes leads nowhere. -/
def isIdle (part : String) : Bool := part == "" || part == "."

/-- Whether the parts of a path below the working directory name the configuration file, with its
ending or without; the directory of the file is the only one there. With its ending the name is
taken as it stands, so it must be the end of the path. -/
def namesFile (atEnd : Bool) : List String → Bool
  | ["config", "base.json"] => atEnd
  | ["config", "base"] => true
  | "config" :: ".." :: rest => namesFile atEnd rest
  | _ => false

/-- The configuration file, if it is at a path. -/
def fileAt (path : String) (file : Option String) : Option String :=
  let parts := path.splitOn "/"
  let found := path.toList.head? ≠ some '/' &&
    namesFile (!parts.getLast?.any isIdle) (parts.filter (!isIdle ·))
  if found then file else none

end Settings

end WebLogin
