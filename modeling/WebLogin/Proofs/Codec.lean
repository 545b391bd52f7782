/-
What is written as JSON can be read back.

* `SessionId.reader_takes`, `AuthoritySet.reader_takes`, `Principal.reader_takes` — parts of a
  session, whatever follows them;
* `Session.ofText_toJson` — a whole session.
-/
import WebLogin.Codec
import WebLogin.Proofs.Authority
import WebLogin.Proofs.Json.Records
import WebLogin.Proofs.Session.Id
import Mathlib.Data.List.Sort

namespace WebLogin

namespace Json

theorem stringAs_takes {α : Type} {decode? : String → Option α} {s : String} {a : α}
    (h : decode? s = some a) (rest : List UInt8) :
    Takes (stringAs decode?) (Utf8.bytes (quote s) ++ rest) a rest := by
  refine (string_takes s rest).bind ?_
  rw [h]
  exact .pure _ _

/-- A written value that does not look like the name for none is read as a value. -/
theorem optional_some {α : Type} {value : Reader α} {b : UInt8} {bs rest : List UInt8} {a : α}
    (hb : isBlank b = false) (hne : b ≠ byte 'n') (h : Takes value (b :: bs) a rest) :
    Takes (optional value) (b :: bs) (some a) rest := by
  refine (peekToken?_takes hb).bind ?_
  rw [if_neg fun heq => hne (Option.some.inj heq)]
  exact h.bind (.pure _ _)

theorem optional_none {α : Type} {value : Reader α} (rest : List UInt8) :
    Takes (optional value) (Utf8.bytes printNull ++ rest) none rest := by
  have hnull : Utf8.bytes printNull = [byte 'n', byte 'u', byte 'l', byte 'l'] := by
    rw [Utf8.bytes_eq_flatMap]
    rfl
  rw [hnull]
  refine (peekToken?_takes (by decide)).bind ?_
  exact (skip_takes _).bind (Takes.bind (rfl : Takes _ _ () rest) (.pure _ _))

/-- A text that a reader takes up to its end is read as a whole. -/
theorem ofText_eq_ok {α : Type} {value : Reader α} {text : String} {a : α}
    (h : Takes value (Utf8.bytes text) a []) : ofText value text = .ok a := by
  have hrun : value.run (Utf8.bytes text) = .ok a [] := h
  rw [ofText, ofBytes, hrun]
  rfl

/-- A text that a reader takes whatever follows it is read as a whole. -/
theorem ofText_of_takes {α : Type} {value : Reader α} {text : String} {a : α}
    (h : ∀ rest, Takes value (Utf8.bytes text ++ rest) a rest) : ofText value text = .ok a := by
  have hall := h []
  rw [List.append_nil] at hall
  exact ofText_eq_ok hall

end Json

open Json

/-- A list of authorities is read back in its order. -/
theorem Authority.list_takes (as : List Authority) (rest : List UInt8) :
    Takes (list Authority.reader) (Utf8.bytes (printList (as.map Authority.toJson)) ++ rest) as
      rest := by
  refine Json.list_takes ?_ rest
  rw [List.forall₂_map_left_iff, List.forall₂_same]
  intro a _
  exact ⟨⟨byte '"', _, bytes_quote a, by decide, by decide⟩, string_takes a⟩

namespace SessionId

theorem reader_takes (id : SessionId) (rest : List UInt8) :
    Takes reader (Utf8.bytes id.toJson ++ rest) id rest :=
  stringAs_takes (parse?_text id) rest

end SessionId

namespace AuthoritySet

/-- Sets with the same members are equal. -/
theorem ext_of_mem {s t : AuthoritySet} (h : ∀ a, a ∈ s.toList ↔ a ∈ t.toList) : s = t := by
  obtain ⟨l, hl⟩ := s
  obtain ⟨l', hl'⟩ := t
  have hlist : l = l' := List.Pairwise.eq_of_mem_iff hl hl' h
  subst hlist
  rfl

theorem ofList_toList (s : AuthoritySet) : ofList s.toList = s :=
  ext_of_mem fun _ => mem_ofList

/-- Any list of authorities is read as the set of its members. -/
theorem reader_takes_list (as : List Authority) (rest : List UInt8) :
    Takes reader (Utf8.bytes (printList (as.map Authority.toJson)) ++ rest) (ofList as) rest :=
  (Authority.list_takes as rest).bind (.pure _ _)

theorem reader_takes (s : AuthoritySet) (rest : List UInt8) :
    Takes reader (Utf8.bytes s.toJson ++ rest) s rest := by
  have h := reader_takes_list s.toList rest
  rwa [ofList_toList] at h

end AuthoritySet

namespace Principal

theorem fills (p : Principal) : Fills fields (none, none)
    [("name", quote p.name), ("authorities", p.authorities.toJson)]
    (some p.name, some p.authorities) := by
  -- Each of the two fields is found by its name and had not been read.
  have hauthorities : Fills fields (some p.name, none) [("authorities", p.authorities.toJson)]
      (some p.name, some p.authorities) :=
    .cons (.read ((List.find?_cons_of_neg (by simp)).trans (List.find?_cons_of_pos (by simp))) rfl
      (fun rest _ => (p.authorities.reader_takes rest).bind (.pure _ _))) (.nil _)
  exact .cons (.read (List.find?_cons_of_pos (by simp)) rfl
    (fun rest _ => (string_takes p.name rest).bind (.pure _ _))) hauthorities

theorem reader_takes (p : Principal) (rest : List UInt8) :
    Takes reader (Utf8.bytes p.toJson ++ rest) p rest :=
  record_takes p.fills (by rfl) rest

end Principal

namespace Session

theorem principal_takes (p : Option Principal) (rest : List UInt8) :
    Takes (optional Principal.reader) (Utf8.bytes (printOption Principal.toJson p) ++ rest) p
      rest := by
  cases p with
  | none => exact optional_none rest
  | some p =>
    have h := p.reader_takes rest
    have htext : Utf8.bytes (printOption Principal.toJson (some p)) = Utf8.bytes p.toJson := rfl
    rw [htext]
    rw [Principal.toJson, bytes_printObject] at h ⊢
    exact optional_some (by decide) (by decide) h

theorem fills (x : Session) : Fills fields (none, none)
    [("id", x.id.toJson), ("principal", printOption Principal.toJson x.principal)]
    (some x.id, some x.principal) := by
  have hprincipal : Fills fields (some x.id, none)
      [("principal", printOption Principal.toJson x.principal)] (some x.id, some x.principal) :=
    .cons (.read ((List.find?_cons_of_neg (by simp)).trans (List.find?_cons_of_pos (by simp))) rfl
      (fun rest _ => (principal_takes x.principal rest).bind (.pure _ _))) (.nil _)
  exact .cons (.read (List.find?_cons_of_pos (by simp)) rfl
    (fun rest _ => (x.id.reader_takes rest).bind (.pure _ _))) hprincipal

theorem reader_takes (x : Session) (rest : List UInt8) :
    Takes reader (Utf8.bytes x.toJson ++ rest) x rest :=
  record_takes x.fills (by rfl) rest

/-- A session is read back from its text. -/
theorem ofText_toJson (x : Session) : ofText reader x.toJson = .ok x :=
  ofText_of_takes x.reader_takes

end Session

end WebLogin
