/-
What a directory of users tells those who ask it.

However users are signed up, a name stands for the user who was signed up last under it. A wrong
password is told before the state of the account, so that whoever does not know the password learns
nothing of the flag: two directories that differ in flags alone answer alike.

* `find?_signUpAll` — the record of a name is that of the last user of it;
* `verify_signUpAll_eq` — what a credential is answered, in terms of the users as they were signed
  up;
* `verify_signUpAll` — which answer means what, and what the answers hide.
-/
import WebLogin.Proofs.Authority
import WebLogin.Proofs.Store.Memory
import WebLogin.UserDirectory
import Mathlib.Data.List.Forall2
import Mathlib.Data.List.Induction

namespace WebLogin

/-- Of what is kept of a user's password, that password is let pass and no other one is. -/
def PasswordScheme.Keeps (scheme : PasswordScheme)
    (entry : List UInt8 × UserDirectory.NewUser) : Prop :=
  ∀ candidate, scheme.check (scheme.hash entry.1 entry.2.password) candidate =
    if candidate = entry.2.password then .ok () else .error .mismatch

namespace UserDirectory

/-- The directory of some users who were signed up one after the other, each with a salt. -/
def signUpAll (scheme : PasswordScheme) (entries : List (List UInt8 × NewUser)) : UserDirectory :=
  entries.foldl (fun d entry => d.addUser scheme entry.1 entry.2) {}

/-- The last of some users who has a name. -/
def latest? (name : String) (entries : List (List UInt8 × NewUser)) :
    Option (List UInt8 × NewUser) :=
  entries.reverse.find? fun entry => entry.2.name == name

variable {scheme : PasswordScheme} {name : String} {entries : List (List UInt8 × NewUser)}

/-- After the last user of a name there is no other one. -/
theorem latest?_eq_some_iff {entry : List UInt8 × NewUser} :
    latest? name entries = some entry ↔ entry.2.name = name ∧
      ∃ before after,
        entries = before ++ entry :: after ∧ ∀ other ∈ after, other.2.name ≠ name := by
  rw [latest?, List.find?_eq_some_iff_append, beq_iff_eq]
  refine and_congr_right fun _ => ?_
  constructor
  · rintro ⟨after, before, hreverse, hafter⟩
    refine ⟨before.reverse, after.reverse, ?_, ?_⟩
    · rw [← List.reverse_reverse entries, hreverse]
      simp
    · intro other hother
      simpa using hafter other (List.mem_reverse.1 hother)
  · rintro ⟨before, after, rfl, hafter⟩
    refine ⟨after.reverse, before.reverse, by simp, ?_⟩
    intro other hother
    simpa using hafter other (List.mem_reverse.1 hother)

theorem latest?_eq_none_iff :
    latest? name entries = none ↔ ∀ entry ∈ entries, entry.2.name ≠ name := by
  simp [latest?]

/-- A user who is signed up takes the place of an earlier one of the same name. -/
theorem find?_addUser (d : UserDirectory) (salt : List UInt8) (u : NewUser) (name : String) :
    (d.addUser scheme salt u).find? name =
      if u.name = name then some ⟨scheme.hash salt u.password, u.authorities, u.enabled⟩
      else d.find? name := by
  rw [addUser, insert, find?, find?, List.lookup_cons, lookup_filter_ne]
  by_cases hname : u.name = name
  · rw [if_pos hname, hname, beq_self_eq_true]
  · rw [if_neg hname, if_neg (Ne.symm hname), beq_false_of_ne (Ne.symm hname)]

theorem find?_signUpAll (scheme : PasswordScheme) (entries : List (List UInt8 × NewUser))
    (name : String) : (signUpAll scheme entries).find? name =
      (latest? name entries).map fun entry =>
        ⟨scheme.hash entry.1 entry.2.password, entry.2.authorities, entry.2.enabled⟩ := by
  -- The last user decides, or else those before.
  induction entries using List.reverseRecOn with
  | nil => rfl
  | append_singleton entries entry ih =>
    have hlast : signUpAll scheme (entries ++ [entry]) =
        (signUpAll scheme entries).addUser scheme entry.1 entry.2 := by
      rw [signUpAll, List.foldl_append]
      rfl
    rw [hlast, find?_addUser, ih, latest?, latest?, List.reverse_append, List.reverse_singleton,
      List.singleton_append, List.find?_cons]
    by_cases hname : entry.2.name = name
    · rw [if_pos hname, hname, beq_self_eq_true]
      rfl
    · rw [if_neg hname, beq_false_of_ne hname]

/-- What somebody with a password is told about a user, as that user was signed up. -/
def answer (password : String) (u : NewUser) : Except VerificationError VerifiedIdentity :=
  if password ≠ u.password then .error .badCredential
  else if u.enabled = false then .error .disabled
  else .ok ⟨u.name, .ofList u.authorities⟩

theorem answer_ne_unknownIdentity (password : String) (u : NewUser) :
    answer password u ≠ .error .unknownIdentity := by
  rw [answer]
  split_ifs <;> simp

theorem answer_eq_badCredential_iff {password : String} {u : NewUser} :
    answer password u = .error .badCredential ↔ password ≠ u.password := by
  rw [answer]
  split_ifs with hwrong <;> simp [hwrong]

theorem answer_eq_disabled_iff {password : String} {u : NewUser} :
    answer password u = .error .disabled ↔ password = u.password ∧ u.enabled = false := by
  rw [answer]
  split_ifs with hwrong hclosed
  · simp [hwrong]
  · simp [not_not.1 hwrong, hclosed]
  · simp [hclosed]

theorem answer_of_right {password : String} {u : NewUser} (hright : password = u.password)
    (hopen : u.enabled = true) : answer password u = .ok ⟨u.name, .ofList u.authorities⟩ := by
  rw [answer, if_neg (not_not.2 hright), hopen]
  rfl

/-- A credential is answered by the last user of its name, or for want of one. -/
theorem verify_signUpAll_eq (hkeeps : ∀ entry ∈ entries, scheme.Keeps entry) (c : Credential) :
    verify scheme (signUpAll scheme entries) c =
      (latest? c.username.text entries).elim (.error .unknownIdentity) fun entry =>
        answer c.password entry.2 := by
  rw [verify, find?_signUpAll]
  cases hlatest : latest? c.username.text entries with
  | none => rfl
  | some entry =>
    obtain ⟨hname, before, after, rfl, -⟩ := latest?_eq_some_iff.1 hlatest
    have hcheck := hkeeps entry (by simp) c.password
    simp only [Option.map_some, Option.elim_some, hcheck, answer, hname]
    by_cases hpassword : c.password = entry.2.password
    · rw [if_pos hpassword, if_neg (not_not.2 hpassword)]
      cases entry.2.enabled with
      | true => rfl
      | false => rfl
    · rw [if_neg hpassword, if_pos hpassword]

/-! ### What the answers hide -/

/-- Two users who differ in the flag of their accounts at most. What is kept of the password may
differ too, since it depends on a salt. -/
def Alike (entry other : List UInt8 × NewUser) : Prop :=
  other.2 = { entry.2 with enabled := other.2.enabled }

theorem find?_alike {others : List (List UInt8 × NewUser)}
    (h : List.Forall₂ Alike entries others) (name : String) :
    Option.Rel Alike (entries.find? fun entry => entry.2.name == name)
      (others.find? fun other => other.2.name == name) := by
  induction h with
  | nil => exact .none
  | @cons entry other entries others halike _ ih =>
    -- The two have one name, so both are found or both are passed over.
    have hname : other.2.name = entry.2.name := by rw [halike]
    rw [List.find?_cons, List.find?_cons, hname]
    cases entry.2.name == name with
    | true => exact .some halike
    | false => exact ih

/-- The last users of a name are alike if all users are. -/
theorem latest?_alike {others : List (List UInt8 × NewUser)}
    (h : List.Forall₂ Alike entries others) (name : String) :
    Option.Rel Alike (latest? name entries) (latest? name others) :=
  find?_alike (List.rel_reverse h) name

/-- A wrong password is answered alike for users who are alike. -/
theorem answer_alike {found other : Option (List UInt8 × NewUser)}
    (h : Option.Rel Alike found other) {password : String}
    (hwrong : ∀ entry, found = some entry → password ≠ entry.2.password) :
    other.elim (.error .unknownIdentity) (fun entry => answer password entry.2) =
      found.elim (.error .unknownIdentity) fun entry => answer password entry.2 := by
  cases h with
  | none => rfl
  | @some entry other halike =>
    have hpassword : other.2.password = entry.2.password := by rw [halike]
    have hne : password ≠ entry.2.password := hwrong entry rfl
    rw [Option.elim_some, Option.elim_some, answer_eq_badCredential_iff.2 hne,
      answer_eq_badCredential_iff.2 (hpassword ▸ hne)]

/-- A directory answers a credential by the last user who was signed up under its name: it knows no
such identity if there is none, turns down a wrong password whatever the state of the account, and a
right one if the account is closed; else it vouches for the name and for the authorities of that
user as a set. So another directory whose users differ in the flags alone gives the same answer to
every credential whose password is wrong. -/
theorem verify_signUpAll (hkeeps : ∀ entry ∈ entries, scheme.Keeps entry) (c : Credential) :
    (verify scheme (signUpAll scheme entries) c = .error .unknownIdentity ↔
      ∀ entry ∈ entries, entry.2.name ≠ c.username.text) ∧
    (∀ salt u, latest? c.username.text entries = some (salt, u) →
      (verify scheme (signUpAll scheme entries) c = .error .badCredential ↔
        c.password ≠ u.password) ∧
      (verify scheme (signUpAll scheme entries) c = .error .disabled ↔
        c.password = u.password ∧ u.enabled = false) ∧
      (c.password = u.password ∧ u.enabled = true → ∃ authorities,
        verify scheme (signUpAll scheme entries) c = .ok ⟨c.username.text, authorities⟩ ∧
          ∀ a, a ∈ authorities.toList ↔ a ∈ u.authorities)) ∧
    ∀ others, List.Forall₂ Alike entries others → (∀ other ∈ others, scheme.Keeps other) →
      (∀ salt u, latest? c.username.text entries = some (salt, u) → c.password ≠ u.password) →
        verify scheme (signUpAll scheme others) c = verify scheme (signUpAll scheme entries) c := by
  rw [verify_signUpAll_eq hkeeps]
  refine ⟨?_, ?_, ?_⟩
  · rw [← latest?_eq_none_iff]
    cases latest? c.username.text entries with
    | none => simp
    | some entry => simp [answer_ne_unknownIdentity]
  · intro salt u hlatest
    rw [hlatest]
    refine ⟨answer_eq_badCredential_iff, answer_eq_disabled_iff, ?_⟩
    rintro ⟨hright, hopen⟩
    have hname : u.name = c.username.text := (latest?_eq_some_iff.1 hlatest).1
    refine ⟨.ofList u.authorities, ?_, fun a => AuthoritySet.mem_ofList⟩
    rw [← hname]
    exact answer_of_right hright hopen
  · intro others halike hothers hwrong
    rw [verify_signUpAll_eq hothers]
    refine answer_alike (latest?_alike halike c.username.text) ?_
    rintro ⟨salt, u⟩ hlatest
    exact hwrong salt u hlatest

/-- Passwords kept as they are. -/
def plainScheme : PasswordScheme where
  hash _ password := password
  check kept candidate := if candidate = kept then .ok () else .error .mismatch

/-- Alice, who was signed up twice, and the second time with a closed account. -/
def renewed : List (List UInt8 × NewUser) :=
  [([1], { name := "alice", password := "old", authorities := ["guest"] }),
    ([2],
      { name := "alice", password := "1234", authorities := ["b", "a", "b"], enabled := false })]

/-- Her old password says nothing of the account being closed, her new one does. -/
theorem verify_signUpAll_renewed :
    (∀ entry ∈ renewed, plainScheme.Keeps entry) ∧
      verify plainScheme (signUpAll plainScheme renewed) ⟨⟨"alice", by decide⟩, "old"⟩ =
        .error .badCredential ∧
      verify plainScheme (signUpAll plainScheme renewed) ⟨⟨"alice", by decide⟩, "1234"⟩ =
        .error .disabled := by
  have hkeeps : ∀ entry ∈ renewed, plainScheme.Keeps entry := by
    intro entry _ candidate
    rfl
  have hlatest : latest? "alice" renewed =
      some ([2], ⟨"alice", "1234", ["b", "a", "b"], false⟩) := by
    decide
  obtain ⟨-, hold, -⟩ := verify_signUpAll hkeeps ⟨⟨"alice", by decide⟩, "old"⟩
  obtain ⟨-, hnew, -⟩ := verify_signUpAll hkeeps ⟨⟨"alice", by decide⟩, "1234"⟩
  exact ⟨hkeeps, (hold _ _ hlatest).1.2 (by decide), (hnew _ _ hlatest).2.1.2 ⟨rfl, rfl⟩⟩

end UserDirectory

end WebLogin
