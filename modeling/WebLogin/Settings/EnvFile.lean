/-
Files of environment variables.

A file holds lines such as `NAME=value`, perhaps with `export` before them, and comments after a
number sign. A value may be quoted: single quotes keep it as it is, double quotes allow escapes,
and either lets it go on over several lines. A dollar sign puts in the value of a variable, whose
name are the letters and digits after it or what stands in braces. The entries are taken up to the
first that is malformed, and none changes a variable that is set.
-/
import WebLogin.Text.Alphanumeric

namespace WebLogin

namespace EnvFile

/-- Variables and their values. -/
abbrev Environment := List (String × String)

/-! ### Lines -/

/-- Where a character of a line stands. -/
inductive State where
  /-- Outside quotes. -/
  | plain
  /-- Outside quotes, after a blank. -/
  | blank
  /-- After a backslash outside quotes. -/
  | escaped
  /-- Inside double quotes. -/
  | weak
  /-- After a backslash inside double quotes. -/
  | weakEscaped
  /-- Inside single quotes. -/
  | strong
  /-- After a backslash inside single quotes. -/
  | strongEscaped
  deriving DecidableEq, Repr

/-- The state after a character that is neither blank nor a number sign, outside quotes. -/
def afterPlain (c : Char) : State :=
  if c = '\\' then .escaped
  else if c = '"' then .weak
  else if c = '\'' then .strong
  else .plain

/-- The state after a character; `none` where a comment begins. -/
def State.next : State → Char → Option State
  | plain, c => some (if isWhiteSpace c && c ≠ '\n' && c ≠ '\r' then .blank else afterPlain c)
  | blank, c => if c = '#' then none else some (afterPlain c)
  | escaped, _ => some plain
  | weak, c => some (if c = '\\' then .weakEscaped else if c = '"' then .plain else .weak)
  | weakEscaped, _ => some weak
  | strong, c => some (if c = '\\' then .strongEscaped else if c = '\'' then .plain else .strong)
  | strongEscaped, _ => some strong

/-- How a line ends. -/
inductive Ending where
  /-- With a comment. -/
  | comment
  /-- In a state. -/
  | state (s : State)

/-- The part of a line before a comment, and how it ends. -/
def scan : State → List Char → List Char × Ending
  | s, [] => ([], .state s)
  | s, c :: cs =>
    match s.next c with
    | none => ([], .comment)
    | some t =>
      let (kept, ending) := scan t cs
      (c :: kept, ending)

/-- Cuts a text after each line feed. -/
def physicalLines : List Char → List (List Char)
  | [] => []
  | c :: cs =>
    if c = '\n' then ['\n'] :: physicalLines cs
    else
      match physicalLines cs with
      | [] => [[c]]
      | line :: lines => (c :: line) :: lines

/-- A line without its line feed, and without a carriage return before that. -/
def dropLineEnd (cs : List Char) : List Char :=
  match cs.reverse with
  | '\n' :: '\r' :: r => r.reverse
  | '\n' :: r => r.reverse
  | _ => cs

/-- Joins physical lines to logical ones. `begun` is the start of a line that is not complete, and
`s` the state after it; a line that never becomes complete is `none`. -/
def logicalLines : List Char → State → List (List Char) → List (Option (List Char))
  | _, s, [] => if s = .plain then [] else [none]
  | begun, s, line :: lines =>
    let all := begun ++ line
    if (all.dropWhile isWhiteSpace).head? = some '#' then some [] :: logicalLines [] .plain lines
    else
      match scan s line with
      | (kept, .comment) => some (begun ++ kept) :: logicalLines [] .plain lines
      | (_, .state t) =>
        if t = .plain then some (dropLineEnd all) :: logicalLines [] .plain lines
        else logicalLines all t lines

/-! ### Values -/

/-- Where a character of a value stands. -/
inductive Place where
  /-- Outside quotes. -/
  | plain
  /-- Inside double quotes. -/
  | weak
  /-- Inside single quotes. -/
  | strong
  /-- After the value, where only blanks and a comment may follow. -/
  | done
  deriving DecidableEq, Repr

/-- A value that is being read. -/
structure Draft where
  /-- The value so far, the last character first. -/
  output : List Char := []
  /-- Where the next character stands. -/
  place : Place := .plain
  /-- Whether it follows a backslash. -/
  escaped : Bool := false
  /-- The name after a dollar sign, the last character first, and whether it is in braces. -/
  pending : Option (List Char × Bool) := none

/-- The value of a variable, empty if it is not set. -/
def valueOf (env : Environment) (name : String) : String := (env.lookup name).getD ""

/-- The draft with the value of the variable put in. -/
def Draft.substitute (env : Environment) (d : Draft) (name : List Char) : Draft :=
  { d with
    output := (valueOf env (String.ofList name.reverse)).toList.reverse ++ d.output
    pending := none }

/-- The draft after a character of a name. -/
def Draft.inName (env : Environment) (d : Draft) (name : List Char) (braces : Bool) (c : Char) :
    Draft :=
  if isAlphanumeric c then { d with pending := some (c :: name, braces) }
  else if braces then
    if c = '\x7d' then d.substitute env name
    else { d with pending := some (c :: name, true) }
  else if c = '\x7b' && name.isEmpty then { d with pending := some ([], true) }
  else
    let d := d.substitute env name
    if c = '$' then { d with pending := some ([], false) }
    else { d with output := c :: d.output }

/-- The draft after a character; `none` if the character must not stand there. The second value
says whether the value ends here. -/
def Draft.step (env : Environment) (d : Draft) (c : Char) : Option (Draft × Bool) :=
  let push (c : Char) : Draft := { d with output := c :: d.output, escaped := false }
  if d.place = .done then
    if c = ' ' || c = '\t' then some (d, false)
    else if c = '#' then some (d, true)
    else none
  else if d.escaped then
    if c = 'n' then some (push '\n', false)
    else if ['\\', '\'', '"', '$', ' '].contains c then some (push c, false)
    else none
  else if d.place = .strong then
    some (if c = '\'' then { d with place := .plain } else push c, false)
  else
    match d.pending with
    | some (name, braces) => some (d.inName env name braces c, false)
    | none =>
      if c = '$' then some ({ d with pending := some ([], false) }, false)
      else if c = '\\' then some ({ d with escaped := true }, false)
      else if d.place = .weak then
        some (if c = '"' then { d with place := .plain } else push c, false)
      else if c = '\'' then some ({ d with place := .strong }, false)
      else if c = '"' then some ({ d with place := .weak }, false)
      else if c = ' ' || c = '\t' then some ({ d with place := .done }, false)
      else some (push c, false)

/-- The draft after some characters. -/
def Draft.run (env : Environment) : Draft → List Char → Option Draft
  | d, [] => some d
  | d, c :: cs =>
    match d.step env c with
    | none => none
    | some (d, true) => some d
    | some (d, false) => run env d cs

/-- The value that a text writes. -/
def value? (env : Environment) (cs : List Char) : Option String := do
  let d ← Draft.run env {} cs
  let finish (d : Draft) : Option String := some (String.ofList d.output.reverse)
  if d.place = .weak || d.place = .strong then none
  else
    match d.pending with
    | some (_, true) => none
    | some (name, false) => finish (d.substitute env name)
    | none => finish d

/-! ### Entries -/

/-- Whether a character may begin a name. -/
def isNameStart (c : Char) : Bool := c.isAlpha || c == '_'

/-- Whether a character may stand in a name. -/
def isNamePart (c : Char) : Bool := c.isAlphanum || c == '_' || c == '.'

/-- Takes a name and the blanks after it. -/
def takeName? (cs : List Char) : Option (List Char × List Char) :=
  if cs.head?.any isNameStart then
    some (cs.takeWhile isNamePart, (cs.dropWhile isNamePart).dropWhile isWhiteSpace)
  else none

/-- Takes an equals sign. -/
def takeEquals? : List Char → Option (List Char)
  | '=' :: cs => some cs
  | _ => none

/-- The name of an entry and the text after its equals sign. -/
def takeHead? (cs : List Char) : Option (List Char × List Char) := do
  let (name, rest) ← takeName? cs
  match takeEquals? rest with
  | some rest => return (name, rest)
  | none =>
    if name = "export".toList then
      let (name, rest) ← takeName? rest
      return (name, ← takeEquals? rest)
    else none

/-- The entry of a logical line: none in an empty line, and no result if it is malformed. -/
def entry? (env : Environment) (line : List Char) : Option (Option (String × String)) :=
  let cs := (line.reverse.dropWhile isWhiteSpace).reverse.dropWhile isWhiteSpace
  if cs.isEmpty || cs.head? = some '#' then some none
  else do
    let (name, rest) ← takeHead? cs
    let rest := rest.dropWhile isWhiteSpace
    if rest.isEmpty || rest.head? = some '#' then return some (String.ofList name, "")
    else return some (String.ofList name, ← value? env rest)

/-- Sets a variable unless it is set. -/
def define (env : Environment) (name value : String) : Environment :=
  if (env.lookup name).isSome then env else env ++ [(name, value)]

/-- Takes the entries of logical lines, up to the first that is malformed. -/
def loadLines : Environment → List (Option (List Char)) → Environment
  | env, [] => env
  | env, none :: _ => env
  | env, some line :: rest =>
    match entry? env line with
    | none => env
    | some none => loadLines env rest
    | some (some (name, value)) => loadLines (define env name value) rest

/-- The text without a byte order mark. -/
def dropMark : List Char → List Char
  | '\ufeff' :: cs => cs
  | cs => cs

/-- The environment with the entries of a file. -/
def load (env : Environment) (text : String) : Environment :=
  loadLines env (logicalLines [] .plain (physicalLines (dropMark text.toList)))

end EnvFile

end WebLogin
