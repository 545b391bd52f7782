/-
Signed tokens can be read back, and only with the secret that they were signed with.

A token is cut at its dots, which no part contains. Its claims are written as one JSON object and
read twice, for the claims of a `Claims` and for the registered ones, of which there are none.

* `Claims.reader_takes`, `claims?_toJson` — the claims are read back by both readers;
* `Token.verify_sign` — a token that was signed is accepted until a minute after its expiry;
* `Token.principal_claimsOf` — it stands for the principal that it was issued for;
* `Token.isSigned_of_verify` — no other token is accepted than those signed with the secret of the
  reader.
-/
import WebLogin.Proofs.Codec
import WebLogin.Proofs.Json.Skipping
import WebLogin.Proofs.Text.Base64
import WebLogin.RememberMe.Token

namespace WebLogin

open Json

/-- Whole seconds are added to the second of a moment, whatever part of a second it has. -/
theorem Timestamp.seconds_addSeconds (now : Timestamp) (ttl : Int) :
    (now.addSeconds ttl).seconds = now.seconds + ttl :=
  Int.add_mul_ediv_right now.nanoseconds ttl (by decide)

/-! ### Claims -/

namespace Claims

theorem fills (c : Claims) (h : c.expiry < limit64) : Fills fields (none, none, none)
    [("sub", quote c.subject), ("authorities", printList (c.authorities.map Authority.toJson)),
      ("exp", printNat c.expiry)]
    (some c.subject, some c.authorities, some c.expiry) := by
  refine .cons (.read (List.find?_cons_of_pos (by simp)) rfl fun rest _ =>
    (string_takes c.subject rest).bind (.pure _ _)) ?_
  refine .cons (.read ((List.find?_cons_of_neg (by simp)).trans (List.find?_cons_of_pos (by simp)))
    rfl fun rest _ => (Authority.list_takes c.authorities rest).bind (.pure _ _)) ?_
  refine .cons (.read ((List.find?_cons_of_neg (by simp)).trans ((List.find?_cons_of_neg
    (by simp)).trans (List.find?_cons_of_pos (by simp)))) rfl fun rest hrest =>
      (natural_takes h hrest).bind (.pure _ _)) (.nil _)

theorem reader_takes (c : Claims) (h : c.expiry < limit64) (rest : List UInt8) :
    Takes reader (Utf8.bytes c.toJson ++ rest) c rest :=
  record_takes (c.fills h) (by rfl) rest

end Claims

namespace Token

theorem isPassed_authorities (as : List Authority) :
    IsPassed (printList (as.map Authority.toJson)) := by
  refine isPassed_printList ?_
  intro t ht
  obtain ⟨a, -, rfl⟩ := List.mem_map.1 ht
  exact isPassed_quote a

/-- None of the claims that are written is one of the registered ones. -/
theorem registered_fills (c : Claims) : Fills Registered.fields {}
    [("sub", quote c.subject), ("authorities", printList (c.authorities.map Authority.toJson)),
      ("exp", printNat c.expiry)] {} :=
  .cons (.pass (by decide) fun _ hrest => (isPassed_quote c.subject).skipValue_takes hrest)
    (.cons (.pass (by decide) fun _ hrest =>
        (isPassed_authorities c.authorities).skipValue_takes hrest)
      (.cons (.pass (by decide) fun _ hrest =>
          (isPassed_printNat c.expiry).skipValue_takes hrest) (.nil _)))

/-- Claims are read back, and limit nothing. -/
theorem claims?_toJson (c : Claims) (h : c.expiry < limit64) :
    claims? (Utf8.bytes c.toJson) = some (c, false) := by
  have hclaims : Takes Claims.reader (Utf8.bytes c.toJson) c [] := by
    simpa using c.reader_takes h []
  have hregistered : Takes Registered.reader (Utf8.bytes c.toJson) {} [] := by
    have h := record_takes (registered_fills c) (rfl : some _ = some _) []
    rwa [List.append_nil] at h
  have hopen : Utf8.bytes "\x7b" = [byte '\x7b'] := Utf8.bytes_singleton '\x7b'
  have hobject : isObject (Utf8.bytes c.toJson) = true := by
    rw [isObject, Claims.toJson, printObject, Utf8.bytes_append, Utf8.bytes_append, hopen]
    rfl
  have hfirst : ofBytes Claims.reader (Utf8.bytes c.toJson) = .ok c := ofText_eq_ok hclaims
  have hsecond : ofBytes Registered.reader (Utf8.bytes c.toJson) = .ok {} :=
    ofText_eq_ok hregistered
  rw [claims?, if_pos hobject, hfirst, hsecond]
  rfl

/-! ### Parts -/

theorem splitLast?_append {before after : List Char} (h : '.' ∉ after) :
    splitLast? (before ++ '.' :: after) = some (before, after) := by
  have hafter : ∀ c ∈ after.reverse, (c != '.') = true := by
    intro c hc
    simp only [bne_iff_ne]
    rintro rfl
    exact h (List.mem_reverse.1 hc)
  have hreverse : (before ++ '.' :: after).reverse = after.reverse ++ '.' :: before.reverse := by
    simp
  have hdrop : (after.reverse ++ '.' :: before.reverse).dropWhile (· != '.') =
      '.' :: before.reverse := by
    rw [List.dropWhile_append_of_pos hafter, List.dropWhile_cons_of_neg (by decide)]
  have htake : (after.reverse ++ '.' :: before.reverse).takeWhile (· != '.') = after.reverse := by
    rw [List.takeWhile_append_of_pos hafter, List.takeWhile_cons_of_neg (by decide),
      List.append_nil]
  rw [splitLast?]
  simp only [hreverse, hdrop, htake, List.reverse_reverse]

theorem decodePart?_encodePart (bytes : List UInt8) :
    decodePart? (encodePart bytes) = some bytes :=
  Base64.decode?_encode Base64.Alphabet.legible_urlSafe bytes

theorem notMem_encodePart (bytes : List UInt8) : '.' ∉ encodePart bytes :=
  Base64.notMem_encode Base64.Alphabet.legible_urlSafe (by decide) bytes

/-! ### Signed tokens -/

theorem checkHeader_issued : checkHeader (encodePart (Utf8.bytes Header.issued)) = .ok () := by
  have halgorithm : Header.algorithm? (Utf8.bytes Header.issued) = some .hs256 := by
    decide +kernel
  rw [checkHeader, decodePart?_encodePart]
  dsimp only
  rw [halgorithm]
  rfl

/-- A signed token is accepted until a minute after its last second. -/
theorem verify_sign (secret : String) (now : Timestamp) (c : Claims) (h : c.expiry < limit64) :
    verify secret now (sign secret c) =
      if now.seconds ≤ c.expiry + leeway then .ok c else .error .expiredSignature := by
  have hmac (text : List Char) : splitLast? (String.ofList
      (text ++ '.' :: encodePart (signature secret text))).toList =
        some (text, encodePart (signature secret text)) := by
    rw [String.toList_ofList]
    exact splitLast?_append (notMem_encodePart _)
  have hpayload : splitLast? (encodePart (Utf8.bytes Header.issued) ++
      '.' :: encodePart (Utf8.bytes c.toJson)) =
        some (encodePart (Utf8.bytes Header.issued), encodePart (Utf8.bytes c.toJson)) :=
    splitLast?_append (notMem_encodePart _)
  rw [verify, sign]
  simp only [hmac, hpayload, checkHeader_issued, decodePart?_encodePart, claims?_toJson c h]
  show (if signature secret _ ≠ signature secret _ then _ else _ : Except TokenError Claims) = _
  rw [if_neg (not_not_intro rfl)]
  by_cases hnow : now.seconds ≤ c.expiry + leeway
  · rw [if_pos hnow, if_neg (by omega)]
    rfl
  · rw [if_neg hnow, if_pos (by omega)]
    rfl

/-- What stands behind the last dot of a token is the signature of all before it. -/
def IsSigned (secret token : String) : Prop :=
  ∃ text, splitLast? token.toList = some (text, encodePart (signature secret text))

/-- A token is accepted only if it is signed with the secret of its reader. -/
theorem isSigned_of_verify {secret token : String} {now : Timestamp} {c : Claims}
    (h : verify secret now token = .ok c) : IsSigned secret token := by
  rw [verify] at h
  cases hmac : splitLast? token.toList with
  | none =>
    rw [hmac] at h
    cases h
  | some parts =>
    obtain ⟨text, mac⟩ := parts
    rw [hmac] at h
    simp only at h
    cases hpayload : splitLast? text with
    | none =>
      rw [hpayload] at h
      cases h
    | some parts =>
      rw [hpayload] at h
      simp only at h
      cases hheader : checkHeader parts.1 with
      | error e =>
        rw [hheader] at h
        cases h
      | ok _ =>
        rw [hheader] at h
        cases hgiven : decodePart? mac with
        | none =>
          rw [hgiven] at h
          cases h
        | some given =>
          rw [hgiven] at h
          change (if given ≠ signature secret text then _ else _ :
            Except TokenError Claims) = _ at h
          by_cases hsignature : given = signature secret text
          · refine ⟨text, hmac.trans ?_⟩
            rw [← hsignature, encodePart, Base64.encode_of_decode? hgiven]
          · rw [if_pos hsignature] at h
            cases h

/-! ### Issuing -/

/-- A token expires so many seconds after it was issued, within the numbers of 64 bits. -/
theorem expiry_spec {now : Timestamp} {ttl : Int} {second : Nat}
    (h : expiry now ttl = .ok second) : (second : Int) = now.seconds + ttl ∧ second < limit64 := by
  have hseconds := now.seconds_addSeconds ttl
  rw [expiry] at h
  dsimp only at h
  split_ifs at h with hduration hdate hepoch
  have hsecond : (now.addSeconds ttl).seconds.toNat = second := Except.ok.inj h
  have hlast : now.seconds + ttl ≤ 8210266876799 := by
    simp [Timestamp.hasDate, Timestamp.lastSecond, hseconds] at hdate
    exact hdate.2
  have hlimit : limit64 = 18446744073709551616 := rfl
  rw [hseconds] at hsecond hepoch
  omega

theorem principal_claimsOf (p : Principal) (second : Nat) : (claimsOf p second).principal = p := by
  rw [Claims.principal, claimsOf, Principal.ofList, AuthoritySet.ofList_toList]

/-- Whether a token can be issued is a matter of the time alone. -/
theorem issue_eq (secret : String) (p : Principal) {ttl : Int} {now : Timestamp} {second : Nat}
    (h : expiry now ttl = .ok second) :
    issue secret ttl now p = .ok (sign secret (claimsOf p second)) := by
  rw [issue, h]
  rfl

/-- A token that was issued stands for its principal until a minute after its last second. -/
theorem verify_issued (secret : String) (p : Principal) {ttl : Int} {now : Timestamp} {second : Nat}
    (h : expiry now ttl = .ok second) (later : Timestamp) :
    verify secret later (sign secret (claimsOf p second)) =
      if later.seconds ≤ second + leeway then .ok (claimsOf p second)
      else .error .expiredSignature :=
  verify_sign secret later (claimsOf p second) (expiry_spec h).2

end Token

end WebLogin
