/-
Taking the settings out of a configuration of tables.

A record that is given as a table is taken out of it field by field. The records of the settings are
taken exactly if each required field is there and can be converted, and so can each other field that
is there.

* `Given`, `GivenOr` — a field that must be there, and one that may be missing;
* `decode_eq_ok_iff` — the settings of a configuration whose inner values are tables.
-/
import WebLogin.Settings.Schema

namespace WebLogin

namespace Settings

variable {α β : Type} {entries : List (String × Tree)} {name : String}

theorem bind_eq_ok_iff {x : Decoded α} {f : α → Decoded β} {b : β} :
    x >>= f = .ok b ↔ ∃ a, x = .ok a ∧ f a = .ok b := by
  constructor
  · intro h
    cases x with
    | error e => cases h
    | ok a => exact ⟨a, rfl, h⟩
  · rintro ⟨a, rfl, h⟩
    exact h

/-! ### Fields of tables -/

/-- The table has the field, and its value is converted to this. -/
def Given (entries : List (String × Tree)) (name : String) (decode : Tree → Decoded α) (a : α) :
    Prop :=
  ∃ v, entries.lookup name = some v ∧ decode v = .ok a

/-- The value of the field is converted to this, or the table has no such field and this is what
stands for it. -/
def GivenOr (entries : List (String × Tree)) (name : String) (decode : Tree → Decoded α)
    (default a : α) : Prop :=
  Given entries name decode a ∨ entries.lookup name = none ∧ default = a

section

variable {decode : Tree → Decoded α} {default a : α} {v : Tree}

theorem given_iff_of_lookup (h : entries.lookup name = some v) :
    Given entries name decode a ↔ decode v = .ok a := by
  rw [Given, h]
  constructor
  · rintro ⟨v', hv', ha⟩
    exact Option.some.inj hv' ▸ ha
  · exact fun ha => ⟨v, rfl, ha⟩

theorem givenOr_iff_of_lookup (h : entries.lookup name = some v) :
    GivenOr entries name decode default a ↔ decode v = .ok a := by
  rw [GivenOr, given_iff_of_lookup h, h]
  simp

theorem givenOr_iff_of_lookup_none (h : entries.lookup name = none) :
    GivenOr entries name decode default a ↔ (.ok default : Decoded α) = .ok a := by
  simp [GivenOr, Given, h]

end

/-- The fields of a table. -/
def tableSource (entries : List (String × Tree)) : Source :=
  ⟨fun name => (entries.lookup name).map (.key name, ·), fun name => ⟨.notFound, [.key name]⟩⟩

theorem fieldsOf_table (names : List String) (entries : List (String × Tree)) :
    fieldsOf names (.table entries) = .ok (tableSource entries) := rfl

theorem inside_eq_ok_iff {step : Step} {r : Decoded α} {a : α} :
    inside step r = .ok a ↔ r = .ok a := by
  cases r with
  | error e =>
    constructor <;> intro h <;> cases h
  | ok b => exact Iff.rfl

theorem optional_of_lookup_none (h : entries.lookup name = none) (decode : Tree → Decoded α) :
    (tableSource entries).optional name decode = .ok none := by
  rw [Source.optional, tableSource]
  dsimp only
  rw [h]
  rfl

theorem optional_of_lookup {v : Tree} (h : entries.lookup name = some v)
    (decode : Tree → Decoded α) :
    (tableSource entries).optional name decode =
      (inside (.key name) (decode v)).map some := by
  rw [Source.optional, tableSource]
  dsimp only
  rw [h]
  rfl

theorem optional_eq_some_iff {decode : Tree → Decoded α} {a : α} :
    (tableSource entries).optional name decode = .ok (some a) ↔ Given entries name decode a := by
  constructor
  · intro h
    cases hlookup : entries.lookup name with
    | none =>
      rw [optional_of_lookup_none hlookup] at h
      cases h
    | some v =>
      rw [optional_of_lookup hlookup] at h
      cases hinside : inside (.key name) (decode v) with
      | error e =>
        rw [hinside] at h
        cases h
      | ok b =>
        rw [hinside] at h
        cases h
        exact ⟨v, hlookup, inside_eq_ok_iff.1 hinside⟩
  · rintro ⟨v, hlookup, hv⟩
    rw [optional_of_lookup hlookup, inside_eq_ok_iff.2 hv]
    rfl

theorem optional_getD_iff {decode : Tree → Decoded α} {default a : α} :
    (∃ o, (tableSource entries).optional name decode = .ok o ∧ o.getD default = a) ↔
      GivenOr entries name decode default a := by
  constructor
  · rintro ⟨o, ho, rfl⟩
    cases o with
    | none =>
      refine .inr ⟨?_, rfl⟩
      cases hlookup : entries.lookup name with
      | none => rfl
      | some v =>
        rw [optional_of_lookup hlookup] at ho
        cases hinside : inside (.key name) (decode v) <;> rw [hinside] at ho <;> cases ho
    | some b => exact .inl (optional_eq_some_iff.1 ho)
  · rintro (h | ⟨hlookup, rfl⟩)
    · exact ⟨some a, optional_eq_some_iff.2 h, rfl⟩
    · exact ⟨none, optional_of_lookup_none hlookup decode, rfl⟩

theorem require_eq_ok_iff {s : Source} {o : Option α} {a : α} :
    s.require name o = .ok a ↔ o = some a := by
  cases o with
  | none =>
    constructor <;> intro h <;> cases h
  | some b =>
    constructor
    · exact fun h => congrArg some (Except.ok.inj h)
    · exact fun h => congrArg Except.ok (Option.some.inj h)

/-! ### Records -/

theorem decodeLogin_eq_ok_iff {s : LoginSettings} :
    decodeLogin (.table entries) = .ok s ↔
      Given entries "mode" (choice Mode.ofText?) s.mode ∧
      Given entries "invalidate_session" bool s.invalidateSession ∧
      GivenOr entries "clear_cookies" (listOf text) [] s.clearCookies := by
  rw [decodeLogin, fieldsOf_table]
  simp only [bind_eq_ok_iff, require_eq_ok_iff, Except.ok.injEq, exists_eq_left']
  constructor
  · rintro ⟨_, hmode, _, hinvalidate, cookies, hcookies, _, rfl, _, rfl, h⟩
    obtain rfl := Except.ok.inj h
    exact ⟨optional_eq_some_iff.1 hmode, optional_eq_some_iff.1 hinvalidate,
      optional_getD_iff.1 ⟨cookies, hcookies, rfl⟩⟩
  · rintro ⟨hmode, hinvalidate, hcookies⟩
    obtain ⟨cookies, hcookies, heq⟩ := optional_getD_iff.2 hcookies
    refine ⟨_, optional_eq_some_iff.2 hmode, _, optional_eq_some_iff.2 hinvalidate, cookies,
      hcookies, _, rfl, _, rfl, ?_⟩
    rw [heq]
    rfl

theorem decodeSession_eq_ok_iff {s : SessionSettings} :
    decodeSession (.table entries) = .ok s ↔
      Given entries "cookie_name" text s.cookieName ∧
      Given entries "ttl_seconds" natural s.ttlSeconds ∧
      Given entries "backend" (choice SessionBackend.ofText?) s.backend := by
  rw [decodeSession, fieldsOf_table]
  simp only [bind_eq_ok_iff, require_eq_ok_iff, Except.ok.injEq, exists_eq_left']
  constructor
  · rintro ⟨_, hcookie, _, httl, _, hbackend, _, rfl, _, rfl, _, rfl, h⟩
    obtain rfl := Except.ok.inj h
    exact ⟨optional_eq_some_iff.1 hcookie, optional_eq_some_iff.1 httl,
      optional_eq_some_iff.1 hbackend⟩
  · rintro ⟨hcookie, httl, hbackend⟩
    exact ⟨_, optional_eq_some_iff.2 hcookie, _, optional_eq_some_iff.2 httl, _,
      optional_eq_some_iff.2 hbackend, _, rfl, _, rfl, _, rfl, rfl⟩

theorem decodeRememberMe_eq_ok_iff {s : RememberMeSettings} :
    decodeRememberMe (.table entries) = .ok s ↔
      Given entries "enabled" bool s.enabled ∧
      Given entries "cookie_name" text s.cookieName ∧
      Given entries "secret" text s.secret ∧
      Given entries "ttl_seconds" integer s.ttlSeconds := by
  rw [decodeRememberMe, fieldsOf_table]
  simp only [bind_eq_ok_iff, require_eq_ok_iff, Except.ok.injEq, exists_eq_left']
  constructor
  · rintro ⟨_, henabled, _, hcookie, _, hsecret, _, httl, _, rfl, _, rfl, _, rfl, _, rfl, h⟩
    obtain rfl := Except.ok.inj h
    exact ⟨optional_eq_some_iff.1 henabled, optional_eq_some_iff.1 hcookie,
      optional_eq_some_iff.1 hsecret, optional_eq_some_iff.1 httl⟩
  · rintro ⟨henabled, hcookie, hsecret, httl⟩
    exact ⟨_, optional_eq_some_iff.2 henabled, _, optional_eq_some_iff.2 hcookie, _,
      optional_eq_some_iff.2 hsecret, _, optional_eq_some_iff.2 httl, _, rfl, _, rfl, _, rfl, _,
      rfl, rfl⟩

theorem decodeOnly_eq_ok_iff {s : String} :
    decodeOnly name (.table entries) = .ok s ↔ Given entries name text s := by
  rw [decodeOnly, fieldsOf_table]
  simp only [bind_eq_ok_iff, require_eq_ok_iff, Except.ok.injEq, exists_eq_left']
  constructor
  · rintro ⟨_, h, rfl⟩
    exact optional_eq_some_iff.1 h
  · exact fun h => ⟨_, optional_eq_some_iff.2 h, rfl⟩

theorem decodeVerifier_eq_ok_iff {s : VerifierSettings} :
    decodeVerifier (.table entries) = .ok s ↔
      Given entries "backend" (choice VerifierBackend.ofText?) s.backend ∧
      GivenOr entries "users" (listOf decodeUser) [] s.users := by
  rw [decodeVerifier, fieldsOf_table]
  simp only [bind_eq_ok_iff, require_eq_ok_iff, Except.ok.injEq, exists_eq_left']
  constructor
  · rintro ⟨_, hbackend, users, husers, _, rfl, h⟩
    obtain rfl := Except.ok.inj h
    exact ⟨optional_eq_some_iff.1 hbackend, optional_getD_iff.1 ⟨users, husers, rfl⟩⟩
  · rintro ⟨hbackend, husers⟩
    obtain ⟨users, husers, heq⟩ := optional_getD_iff.2 husers
    refine ⟨_, optional_eq_some_iff.2 hbackend, users, husers, _, rfl, ?_⟩
    rw [heq]
    rfl

theorem decodeServer_eq_ok_iff {s : ServerSettings} :
    decodeServer (.table entries) = .ok s ↔
      Given entries "address" text s.address ∧
      GivenOr entries "allowed_origins" (listOf text) [] s.allowedOrigins := by
  rw [decodeServer, fieldsOf_table]
  simp only [bind_eq_ok_iff, require_eq_ok_iff, Except.ok.injEq, exists_eq_left']
  constructor
  · rintro ⟨_, haddress, origins, horigins, _, rfl, h⟩
    obtain rfl := Except.ok.inj h
    exact ⟨optional_eq_some_iff.1 haddress, optional_getD_iff.1 ⟨origins, horigins, rfl⟩⟩
  · rintro ⟨haddress, horigins⟩
    obtain ⟨origins, horigins, heq⟩ := optional_getD_iff.2 horigins
    refine ⟨_, optional_eq_some_iff.2 haddress, origins, horigins, _, rfl, ?_⟩
    rw [heq]
    rfl

theorem decode_eq_ok_iff {s : Settings} :
    decode (.table entries) = .ok s ↔
      Given entries "login" decodeLogin s.login ∧
      Given entries "session" decodeSession s.session ∧
      Given entries "remember_me" decodeRememberMe s.rememberMe ∧
      Given entries "redis" (decodeOnly "host_name") s.redisHostName ∧
      Given entries "postgres" (decodeOnly "url") s.postgresUrl ∧
      Given entries "verifier" decodeVerifier s.verifier ∧
      Given entries "server" decodeServer s.server := by
  rw [decode, fieldsOf_table]
  simp only [bind_eq_ok_iff, require_eq_ok_iff, Except.ok.injEq, exists_eq_left']
  constructor
  · rintro ⟨_, hlogin, _, hsession, _, hremember, _, hredis, _, hpostgres, _, hverifier, _, hserver,
      _, rfl, _, rfl, _, rfl, _, rfl, _, rfl, _, rfl, _, rfl, h⟩
    obtain rfl := Except.ok.inj h
    exact ⟨optional_eq_some_iff.1 hlogin, optional_eq_some_iff.1 hsession,
      optional_eq_some_iff.1 hremember, optional_eq_some_iff.1 hredis,
      optional_eq_some_iff.1 hpostgres, optional_eq_some_iff.1 hverifier,
      optional_eq_some_iff.1 hserver⟩
  · rintro ⟨hlogin, hsession, hremember, hredis, hpostgres, hverifier, hserver⟩
    exact ⟨_, optional_eq_some_iff.2 hlogin, _, optional_eq_some_iff.2 hsession, _,
      optional_eq_some_iff.2 hremember, _, optional_eq_some_iff.2 hredis, _,
      optional_eq_some_iff.2 hpostgres, _, optional_eq_some_iff.2 hverifier, _,
      optional_eq_some_iff.2 hserver, _, rfl, _, rfl, _, rfl, _, rfl, _, rfl, _, rfl, _, rfl, rfl⟩

end Settings

end WebLogin
