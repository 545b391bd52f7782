/-
Usernames.

A username is a text of 1 to 256 characters without control characters whose first and last
characters are no white space. `Username.parse` accepts exactly these texts and keeps them as
they are; a `Username` carries the evidence, so no other text can be one.
-/
import WebLogin.Text.CharClass

namespace WebLogin

/-- Why a text is no username. -/
inductive UsernameError where
  /-- The text is empty. -/
  | empty
  /-- The text is too long, or has a character where it may not stand. -/
  | invalid
  deriving DecidableEq, Repr

namespace UsernameError

/-- The text that reports the error. -/
def message : UsernameError → String
  | empty => "Username must not be empty"
  | invalid => "Invalid username"

end UsernameError

namespace Username

/-- A character that may stand inside a username. -/
def isInner (c : Char) : Bool :=
  !isControl c

/-- A character that may begin or end a username. -/
def isEdge (c : Char) : Bool :=
  isInner c && !isWhiteSpace c

/-- Whether a text is at most `room` inner characters and one edge character after them. -/
def endsWell : Nat → List Char → Bool
  | _, [] => false
  | _, [c] => isEdge c
  | 0, _ :: _ :: _ => false
  | room + 1, c :: rest => isInner c && endsWell room rest

/-- Whether a text has the form of a username: one edge character, or two with at most 254 inner
characters between them. -/
def isWellFormed : List Char → Bool
  | [] => false
  | [c] => isEdge c
  | c :: rest => isEdge c && endsWell 254 rest

end Username

/-- A text that is known to have the form of a username. -/
structure Username where
  /-- The name as it was given. -/
  text : String
  /-- The name has the form of a username. -/
  isWellFormed_text : Username.isWellFormed text.toList = true
  deriving DecidableEq

namespace Username

/-- Takes a text as a username, unchanged, or says why it is none. -/
def parse (text : String) : Except UsernameError Username :=
  if text.isEmpty then .error .empty
  else if h : isWellFormed text.toList then .ok ⟨text, h⟩
  else .error .invalid

end Username

/-- What a client presents to log in. -/
structure Credential where
  /-- The name to log in under. -/
  username : Username
  /-- The password, as typed. -/
  password : String
  deriving DecidableEq

namespace Credential

/-- Takes a name and a password as a credential if the name is a username. -/
def parse (username password : String) : Except UsernameError Credential :=
  (Username.parse username).map (⟨·, password⟩)

end Credential

end WebLogin
