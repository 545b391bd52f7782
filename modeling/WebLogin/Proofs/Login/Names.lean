/-
Under which names a login gets as far as the verifier.

A text that is no username ends a login before anybody but remember-me is asked: the failure is that
of a name that nobody has, and the request keeps its session and whoever is bound to it. So which
texts are usernames decides which ones a verifier is ever asked about.

* `RememberMe.Modest` — what is expected of remember-me when a login has failed;
* `LoginCommand.names_admitted` — which texts are usernames, here and in JSON, and what becomes of a
  login under any other.
-/
import WebLogin.Proofs.Login.Collaborators
import WebLogin.Proofs.Login.Protocol
import WebLogin.Proofs.Username

namespace WebLogin

variable {σ ε : Type}

/-- Somebody who remembers logins takes note of a failed one, and leaves to the request its session
and its principal. -/
def RememberMe.Modest (rm : RememberMe (StateT σ (Except ε))) : Prop :=
  ∀ ctx s, ∃ ctx' s', Yields (rm.loginFail ctx) s ctx' s' ∧ ctx.SameLogin ctx'

theorem RememberMe.modest_null : (null : RememberMe (StateT σ (Except ε))).Modest := by
  intro ctx s
  exact ⟨ctx, s, .pure ctx s, .refl ctx⟩

/-- A failed login only takes the token away. -/
theorem RememberMeConfig.modest_service (rc : RememberMeConfig)
    (clock : StateT σ (Except ε) Timestamp) : (rc.service clock).Modest := by
  intro ctx s
  exact ⟨_, s, .pure _ s, rfl, rfl⟩

/-- A failure is told to remember-me, and nobody else is called. -/
theorem Authentication.fail_modest {a : Authentication (StateT σ (Except ε))}
    (hrm : a.rememberMe.Modest) (ctx : RequestContext) (f : LoginFailure) (s : σ) :
    ∃ ctx' s', Makes (a.fail ctx f) (a.recorded.fail ctx f) s [.loginFail ctx ctx']
      (ctx', .error f) s' ∧ ctx.SameLogin ctx' := by
  obtain ⟨ctx', s', hfail, hsame⟩ := hrm ctx s
  exact ⟨ctx', s', (Makes.record hfail).bind_pure rfl rfl, hsame⟩

/-- Under a text that is no username nobody is called but remember-me. -/
theorem LoginCommand.login_unnamed {c : LoginCommand (StateT σ (Except ε))}
    {seq : LogoutSequence (StateT σ (Except ε))} (hstarted : c.started = some seq)
    (hrm : c.config.rememberMe.Modest) {name : String} {e : UsernameError}
    (hname : Username.parse name = .error e) (password : String) (ctx : RequestContext) (s : σ) :
    ∃ ctx' s', Makes (c.login ctx name password) (c.recorded.login ctx name password) s
      [.loginFail ctx ctx'] (ctx', .error (.failed ⟨.unknownIdentity, e.message⟩)) s' ∧
      ctx.SameLogin ctx' := by
  have hparse : Credential.parse name password = .error e := by
    rw [Credential.parse, hname]
    rfl
  obtain ⟨ctx', s', hfail, hsame⟩ :=
    (c.authentication seq).fail_modest hrm ctx (.ofUsernameError e) s
  refine ⟨ctx', s', ?_, hsame⟩
  simp only [login, hstarted, recorded_started hstarted, Authentication.run, hparse]
  exact hfail.bind_pure rfl rfl

/-- A text is a username if it has 1 to 256 characters, no control character and no white space at
either end; it is kept as it is, and JSON strings are taken alike. A started command fails under any
other text as under a name that nobody has, and asks neither the verifier nor the strategy nor the
store; the request keeps its session and its principal. -/
theorem LoginCommand.names_admitted {c : LoginCommand (StateT σ (Except ε))}
    {seq : LogoutSequence (StateT σ (Except ε))} (hstarted : c.started = some seq)
    (hrm : c.config.rememberMe.Modest) (name : String) :
    (name = "" → Username.parse name = .error .empty) ∧
    (name ≠ "" → ((∃ u, Username.parse name = .ok u) ↔ name.length ≤ 256 ∧
      (∀ ch ∈ name.toList, isControl ch = false) ∧ HasBareEdges name.toList)) ∧
    (∀ u, Username.parse name = .ok u → u.text = name) ∧
    (∀ u, Json.ofText Username.reader (Json.quote name) = .ok u ↔ Username.parse name = .ok u) ∧
    (∀ json u, Json.ofText Username.reader json = .ok u ↔
      ∃ read, Json.ofText Json.string json = .ok read ∧ Username.parse read = .ok u) ∧
    ∀ e, Username.parse name = .error e → e = (if name = "" then .empty else .invalid) ∧
      ∀ password ctx s, ∃ ctx' s', Makes (c.login ctx name password)
        (c.recorded.login ctx name password) s [.loginFail ctx ctx']
        (ctx', .error (.failed ⟨.unknownIdentity, e.message⟩)) s' ∧ ctx.SameLogin ctx' := by
  refine ⟨?_, ?_, ?_, ?_, ?_, ?_⟩
  · rintro rfl
    exact Username.parse_empty
  · intro hne
    have hlist : name.toList ≠ [] := by simpa using hne
    rw [Username.exists_parse_iff, Username.isWellFormed_iff, String.length_toList]
    simp only [hlist, ne_eq, not_false_eq_true, true_and]
  · intro u hu
    exact Username.text_of_parse hu
  · intro u
    exact Username.ofText_reader_quote
  · intro json u
    exact Username.ofText_reader_eq_ok_iff
  · intro e he
    refine ⟨Username.eq_of_parse_error he, ?_⟩
    intro password ctx s
    exact login_unnamed hstarted hrm he password ctx s

/-- A blank that is no control character may not end a name. Bob, who is logged in, stays so. -/
theorem LoginCommand.names_admitted_unbreakable :
    stranded.started = some ⟨[], .perSession .broken⟩ ∧ stranded.config.rememberMe.Modest ∧
      Username.parse "alice\u00a0" = .error .invalid ∧
      ∃ ctx' s', Makes (stranded.login { principal := some ⟨"bob", .empty⟩ } "alice\u00a0" "1234")
          (stranded.recorded.login { principal := some ⟨"bob", .empty⟩ } "alice\u00a0" "1234") ()
          [.loginFail { principal := some ⟨"bob", .empty⟩ } ctx']
          (ctx', .error (.failed ⟨.unknownIdentity, "Invalid username"⟩)) s' ∧
        ctx'.principal = some ⟨"bob", .empty⟩ := by
  have hname : Username.parse "alice\u00a0" = .error .invalid := by decide +kernel
  have hstarted : stranded.started = some ⟨[], .perSession .broken⟩ := rfl
  obtain ⟨-, -, -, -, -, hrejected⟩ :=
    names_admitted hstarted RememberMe.modest_null "alice\u00a0"
  obtain ⟨ctx', s', hmakes, hsame⟩ :=
    (hrejected .invalid hname).2 "1234" { principal := some ⟨"bob", .empty⟩ } ()
  exact ⟨hstarted, RememberMe.modest_null, hname, ctx', s', hmakes, hsame.principal⟩

end WebLogin
