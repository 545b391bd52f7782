/-
Principals: who is logged in, and what they may do.

A `VerifiedIdentity` is what a verifier vouches for; the `Principal` bound to a request carries
the same name and the same authorities.
-/
import WebLogin.Authority

namespace WebLogin

/-- The identity that a verifier found for a credential. -/
structure VerifiedIdentity where
  /-- The name of the identity. -/
  name : String
  /-- What the identity may do. -/
  authorities : AuthoritySet
  deriving DecidableEq

/-- An authenticated party. -/
structure Principal where
  /-- The name of the party. -/
  name : String
  /-- What the party may do. -/
  authorities : AuthoritySet
  deriving DecidableEq

namespace Principal

/-- The principal of a name and a list of authorities. -/
def ofList (name : String) (authorities : List Authority) : Principal :=
  ⟨name, .ofList authorities⟩

/-- Whether the principal holds an authority. -/
def hasAuthority (p : Principal) (a : Authority) : Bool := p.authorities.contains a

/-- The principal that an identity becomes when it is logged in. -/
def ofIdentity (i : VerifiedIdentity) : Principal := ⟨i.name, i.authorities⟩

end Principal

end WebLogin
