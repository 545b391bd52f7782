/-
Values survive being stored or sent.

A kind of value that is stored has a text for each value and a reader for texts. It survives if a
value comes back from its own text, whatever characters its names are made of, and if a value that
was read from any text at all is one that its own text gives again. The second law is about texts of
other writers: they may order and repeat the authorities, space and escape what they like, and give
the fields of a record in any order; after one reading nothing of that is left.

* `Survives.of_takes` — a reader that takes back what is written, and lets nothing else through, has
  both laws;
* `AuthoritySet.pairwise_bytes` — the members of a set ascend by their bytes;
* `persisted_survives` — the kinds of value that sessions and remember-me tokens are made of.
-/
import WebLogin.Proofs.Json.Ensures
import WebLogin.Proofs.RememberMe.Token
import WebLogin.Proofs.Text.Order
import WebLogin.Proofs.Username

namespace WebLogin

open Json

/-- The values that fit are kept by their texts. -/
structure Survives {α : Type} (fits : α → Prop) (toJson : α → String) (reader : Reader α) :
    Prop where
  /-- A value that fits is read back from its own text. -/
  restored : ∀ a, fits a → ofText reader (toJson a) = .ok a
  /-- Whatever text a value was read from, its own text gives it again. -/
  rewritten : ∀ text a, ofText reader text = .ok a → ofText reader (toJson a) = .ok a

section Survives

variable {α : Type} {fits : α → Prop} {toJson : α → String} {reader : Reader α}

theorem Survives.of_takes
    (htakes : ∀ a, fits a → ∀ rest, Takes reader (Utf8.bytes (toJson a) ++ rest) a rest)
    (hfits : Ensures reader fits) : Survives fits toJson reader := by
  constructor
  · intro a ha
    exact ofText_of_takes (htakes a ha)
  · intro text a h
    exact ofText_of_takes (htakes a (hfits.of_ofText h))

/-- Where every value can be written, it does not matter which ones can be read. -/
theorem Survives.of_takes_all
    (htakes : ∀ a rest, Takes reader (Utf8.bytes (toJson a) ++ rest) a rest) :
    Survives (fun _ => True) toJson reader := by
  refine .of_takes (fun a _ => htakes a) ?_
  intro text a rest _
  trivial

end Survives

namespace AuthoritySet

/-- The members ascend by their bytes, not only character by character. -/
theorem pairwise_bytes (s : AuthoritySet) :
    s.toList.Pairwise fun a b => Utf8.bytes a < Utf8.bytes b := by
  refine s.pairwise_toList.imp ?_
  intro a b h
  exact Utf8.bytes_lt_iff.2 h

/-- The text of a set lists its members in their order. -/
theorem ofText_list_toJson (s : AuthoritySet) :
    ofText (list Authority.reader) s.toJson = .ok s.toList :=
  ofText_of_takes (Authority.list_takes s.toList)

end AuthoritySet

namespace Claims

/-- What has been read of claims has no moment of expiry, or one that can be written. -/
def HasRoom (s : Option String × Option (List Authority) × Option Nat) : Prop :=
  ∀ n, s.2.2 = some n → n < limit64

/-- The moment of expiry is the one part of claims that could be too large to be read. -/
theorem reader_ensures : Ensures reader fun c => c.expiry < limit64 := by
  have hread : ∀ f ∈ fields, ∀ s, HasRoom s → Ensures (f.read s) HasRoom := by
    intro f hf s hs
    simp only [fields, List.mem_cons, List.not_mem_nil, or_false] at hf
    rcases hf with rfl | rfl | rfl
    · exact .last fun sub => .pure hs
    · exact .last fun authorities => .pure hs
    · refine natural_ensures.bind fun exp hexp => .pure ?_
      intro n hn
      cases hn
      exact hexp
  refine record_ensures ?_ hread ?_
  · intro n hn
    cases hn
  · rintro ⟨sub, authorities, exp⟩ c hs hc
    cases sub with
    | none => cases hc
    | some sub =>
      cases authorities with
      | none => cases hc
      | some authorities =>
        cases exp with
        | none => cases hc
        | some exp =>
          cases hc
          exact hs exp rfl

end Claims

/-- What sessions and remember-me tokens are made of survives being written as JSON; a moment of
expiry has 64 bits. Sets of authorities are written in ascending order of their bytes, whatever
order they are read in. -/
theorem persisted_survives :
    Survives (fun _ => True) Session.toJson Session.reader ∧
    Survives (fun _ => True) Principal.toJson Principal.reader ∧
    Survives (fun _ => True) AuthoritySet.toJson AuthoritySet.reader ∧
    Survives (fun _ => True) Username.toJson Username.reader ∧
    Survives (fun _ => True) SessionId.toJson SessionId.reader ∧
    Survives (fun c => c.expiry < limit64) Claims.toJson Claims.reader ∧
    (∀ s : AuthoritySet, ofText (list Authority.reader) s.toJson = .ok s.toList ∧
      s.toList.Pairwise fun a b => Utf8.bytes a < Utf8.bytes b) ∧
    ∀ as : List Authority,
      ofText AuthoritySet.reader (printList (as.map Authority.toJson)) = .ok (.ofList as) := by
  refine ⟨.of_takes_all Session.reader_takes, .of_takes_all Principal.reader_takes,
    .of_takes_all AuthoritySet.reader_takes, .of_takes_all Username.reader_takes,
    .of_takes_all SessionId.reader_takes, .of_takes Claims.reader_takes Claims.reader_ensures,
    ?_, ?_⟩
  · intro s
    exact ⟨s.ofText_list_toJson, s.pairwise_bytes⟩
  · intro as
    exact ofText_of_takes (AuthoritySet.reader_takes_list as)

/-- A principal as another writer might put it: the authorities come first, descend and are
repeated, and characters are escaped that need not be. -/
def foreignText : String :=
  "\x7b\"authorities\": [\"b\\n\", \"a\\u0022\", \"b\\n\"], \"name\": \"\\u00df\\\\\"\x7d"

/-- The principal of `foreignText`. -/
def foreignPrincipal : Principal := .ofList "ß\\" ["a\"", "b\n"]

/-- It is read, and what was read survives; so do claims with the last moment that there is. -/
theorem persisted_survives_foreign :
    ofText Principal.reader foreignText = .ok foreignPrincipal ∧
      ofText Principal.reader foreignPrincipal.toJson = .ok foreignPrincipal ∧
      ofText Claims.reader (Claims.toJson ⟨"ß\\", ["b\n", "b\n"], limit64 - 1⟩) =
        .ok ⟨"ß\\", ["b\n", "b\n"], limit64 - 1⟩ := by
  have hforeign : ofText Principal.reader foreignText = .ok foreignPrincipal := by decide +kernel
  obtain ⟨-, hprincipal, -, -, -, hclaims, -, -⟩ := persisted_survives
  exact ⟨hforeign, hprincipal.rewritten foreignText foreignPrincipal hforeign,
    hclaims.restored _ (by decide)⟩

end WebLogin
