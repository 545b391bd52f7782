/-
What starting a service sets up.

* `Deployment.command_eq` — the command that settings with sessions lead to;
* `Deployment.command_eq_binderOf` — the command that any settings lead to;
* `Deployment.forall_logoutHandlers` — what holds of every kind of handler holds of its handlers.
-/
import WebLogin.Deployment
import WebLogin.Proofs.Login.Lifecycle

namespace WebLogin

namespace Deployment

variable {m : Type → Type} [Monad m]

/-- The binder that settings lead to. -/
def binderOf (settings : Settings) (store : SessionStore m) : SessionBinder m :=
  match settings.login.mode with
  | .perSession => .perSession store
  | .perClient => .perClient

/-- Settings with a store always lead to a command. -/
theorem command_eq_binderOf (settings : Settings) (clock : m Timestamp) (store : SessionStore m)
    (verifier : Verifier m) :
    command settings clock store verifier = .ok
      { config := loginConfig settings clock store verifier
        started := some ⟨logoutHandlers settings store, binderOf settings store⟩ } := by
  have hbinder : SessionBinder.ofMode (loginConfig settings clock store verifier).mode
      (loginConfig settings clock store verifier).store = .ok (binderOf settings store) := by
    cases hmode : settings.login.mode <;>
      simp only [loginConfig, hmode, binderOf, SessionBinder.ofMode]
  rw [command, LoginCommand.run_start, if_neg (by simp [LoginCommand.isStarted]), hbinder]
  rfl

/-- Settings that keep logins in sessions lead to a command that does. -/
theorem command_eq {settings : Settings} (hmode : settings.login.mode = .perSession)
    (clock : m Timestamp) (store : SessionStore m) (verifier : Verifier m) :
    command settings clock store verifier = .ok
      { config := loginConfig settings clock store verifier
        started := some ⟨logoutHandlers settings store, .perSession store⟩ } := by
  rw [command_eq_binderOf, binderOf, hmode]

theorem forall_logoutHandlers {P : LogoutHandler m → Prop} {settings : Settings}
    {store : SessionStore m} (hsecurity : ∀ ends, P (.securityContext (some store) ends))
    (hremember : ∀ rc : RememberMeConfig, P rc.handler)
    (hclearing : ∀ names, P (.cookieClearing names)) :
    ∀ handler ∈ logoutHandlers settings store, P handler := by
  intro handler hmem
  rw [logoutHandlers, List.mem_append, List.mem_append, List.mem_singleton] at hmem
  rcases hmem with (rfl | hmem) | hmem
  · exact hsecurity _
  · split at hmem
    · exact List.mem_singleton.1 hmem ▸ hremember _
    · cases hmem
  · split at hmem
    · cases hmem
    · exact List.mem_singleton.1 hmem ▸ hclearing _

end Deployment

end WebLogin
