/-
The values of HTTP headers.

Any byte can be part of a header value except the control characters other than the tab. A value
of visible characters only is plain; text of other characters is passed on but never looked into.
-/
namespace WebLogin

namespace Http

/-- A header: its name and its value. -/
abbrev Header := String × String

/-- Whether a text can be the value of a header. -/
def isHeaderValue (s : String) : Bool :=
  s.toList.all fun c => c = '\t' || (' ' ≤ c && c ≠ '\x7f')

/-- Whether the value of a header is plain. -/
def isPlain (s : String) : Bool :=
  s.toList.all fun c => c = '\t' || (' ' ≤ c && c < '\x7f')

/-- The values of the headers of a name, given in lower case. -/
def headerValues (name : String) (headers : List Header) : List String :=
  (headers.filter fun h => h.1.toLower == name).map (·.2)

/-- The value of the first header of a name, given in lower case. -/
def header? (name : String) (headers : List Header) : Option String :=
  (headerValues name headers).head?

end Http

end WebLogin
