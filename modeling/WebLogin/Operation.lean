/-
Secured operations and the decision whether a principal may run one.

A `SecuredOperation` needs at least one of a non-empty set of authorities; the type keeps the set
from being empty, so "nothing required" can never be read as "anybody may".
-/
import WebLogin.Principal

namespace WebLogin

/-- An operation that is open only to the holders of certain authorities. -/
structure SecuredOperation where
  /-- The authorities of which one is needed. -/
  required : AuthoritySet
  /-- At least one authority is required. -/
  isEmpty_required : required.isEmpty = false
  deriving DecidableEq

/-- The error of an operation that would require nothing. -/
inductive OperationError where
  /-- The list of required authorities is empty. -/
  | emptyRequirement
  deriving DecidableEq, Repr

namespace OperationError

/-- The text that reports the error. -/
def message : OperationError → String
  | emptyRequirement => "A secured operation must require at least one authority"

end OperationError

namespace SecuredOperation

/-- The operation that requires one of the listed authorities. -/
def ofList (required : List Authority) : Except OperationError SecuredOperation :=
  if h : (AuthoritySet.ofList required).isEmpty then .error .emptyRequirement
  else .ok ⟨.ofList required, by simpa using h⟩

/-- Whether a principal, if there is one, holds a required authority. -/
def permits (op : SecuredOperation) : Option Principal → Bool
  | none => false
  | some p => p.authorities.intersects op.required

end SecuredOperation

/-- Whether a principal holds one of the listed roles; an empty list is open to nobody. -/
def isAuthorized (principal : Option Principal) (roles : List Authority) : Bool :=
  match SecuredOperation.ofList roles with
  | .ok op => op.permits principal
  | .error _ => false

end WebLogin
