/-
Starting a service over a store in memory.

* `Deployment.of_openVerifier` — whoever vouches for users minds only what lies outside;
* `Deployment.of_start`, `Deployment.of_service` — what a started command and its service are set
  up with.
-/
import WebLogin.Proofs.Service.Machine
import WebLogin.Proofs.Startup

namespace WebLogin

namespace World

variable {α β γ : Type}

/-- Something that minds only what lies outside, as a step of the start. -/
def startElsewhere (x : StateM α β) : ExceptT StartupError (Run α) β := liftM (elsewhere x)

theorem startElsewhere_yields (x : StateM α β) (w : World α) :
    Yields (startElsewhere x).run w (.ok (x.run w.outside).1)
      { w with outside := (x.run w.outside).2 } := rfl

theorem startElsewhere_bind (x : StateM α β) (f : β → StateM α γ) :
    (startElsewhere x >>= fun b => startElsewhere (f b)) = startElsewhere (x >>= f) := rfl

/-- Signing users up minds only the salts. -/
theorem signUp_elsewhere (salt : StateM α (List UInt8)) (users : List SeedUser)
    (d : UserDirectory) : Deployment.signUp (startElsewhere salt) users d =
      startElsewhere (Deployment.signUp salt users d) := by
  induction users generalizing d with
  | nil => rfl
  | cons u users ih =>
    rw [Deployment.signUp, Deployment.signUp, ← startElsewhere_bind]
    congr 1
    funext s
    exact ih _

end World

namespace Deployment

variable {α : Type} {around : World.Surroundings α} {ids : Nat → SessionId} {settings : Settings}
  {w w' : World α}

theorem of_report {σ ε δ β : Type} {error : δ → StartupError} {x : Except δ β} {b : β} {s s' : σ}
    (h : Yields (report error x : ExceptT StartupError (StateT σ (Except ε)) β).run s (.ok b) s') :
    x = .ok b ∧ s' = s := by
  cases x with
  | error e =>
    have hgave : Yields (pure (.error (error e)) :
        StateT σ (Except ε) (Except StartupError β)) s (.ok b) s' := h
    cases (hgave.eq (.pure _ _)).1
  | ok b' =>
    have hgave : Yields (pure (.ok b') :
        StateT σ (Except ε) (Except StartupError β)) s (.ok b) s' := h
    obtain ⟨hb, hs⟩ := hgave.eq (.pure _ _)
    exact ⟨congrArg Except.ok (Except.ok.inj hb).symm, hs⟩

/-- Whoever vouches for users minds only what lies outside. -/
theorem of_openVerifier {verifier : Verifier (World.Run α)}
    (h : Yields (openVerifier (around.resources ids) settings).run w (.ok verifier) w') :
    ∃ v, verifier = World.liftVerifier v ∧ w' = { w with outside := w'.outside } := by
  rw [openVerifier] at h
  cases hbackend : settings.verifier.backend with
  | memory =>
    rw [hbackend] at h
    have hsigned : Yields (World.startElsewhere (signUp around.salt settings.verifier.users {}) >>=
        fun d => pure (d.verifier .argon2)).run w (.ok verifier) w' := by
      rw [← World.signUp_elsewhere]
      exact h
    obtain ⟨d, w₁, hd, hv⟩ := hsigned.of_bind_ok
    obtain ⟨hd, rfl⟩ := hd.eq (World.startElsewhere_yields _ w)
    have hpure : Yields (pure (.ok (d.verifier .argon2)) :
        World.Run α (Except StartupError (Verifier (World.Run α)))) _ (.ok verifier) w' := hv
    obtain ⟨hverifier, rfl⟩ := hpure.eq (.pure _ _)
    exact ⟨d.verifier .argon2, Except.ok.inj hverifier, rfl⟩
  | postgres =>
    rw [hbackend] at h
    have hopened : Yields (World.startElsewhere (around.database settings.postgresUrl) >>=
        fun r => report .database (r.map World.liftVerifier)).run w (.ok verifier) w' := h
    obtain ⟨r, w₁, hr, hreport⟩ := hopened.of_bind_ok
    obtain ⟨hr, rfl⟩ := hr.eq (World.startElsewhere_yields _ w)
    obtain ⟨hmap, rfl⟩ := of_report hreport
    cases r with
    | error e => cases hmap
    | ok v => exact ⟨v, (Except.ok.inj hmap).symm, rfl⟩

/-- What a command over a store in memory is set up with. -/
theorem of_start {c : LoginCommand (World.Run α)}
    (h : Yields (start (around.resources ids) settings).run w (.ok c) w')
    (hbackend : settings.session.backend = .memory) :
    ∃ v, w' = { w with store := { ttl := settings.session.ttlSeconds }, outside := w'.outside } ∧
      command settings (around.resources ids).clock (World.sessionStore ids)
        (World.liftVerifier v) = .ok c := by
  rw [start] at h
  -- Every step succeeded, or there would be no command.
  obtain ⟨_, w₁, hcheck, hrest₁⟩ := h.of_bind_ok
  obtain ⟨-, rfl⟩ := of_report hcheck
  obtain ⟨store, w₂, hstore, hrest₂⟩ := hrest₁.of_bind_ok
  have hopened : Yields (openStore (around.resources ids) settings).run w₁
      (.ok (World.sessionStore ids))
      { w₁ with store := { ttl := settings.session.ttlSeconds } } := by
    rw [openStore, hbackend]
    rfl
  obtain ⟨heq, rfl⟩ := hstore.eq hopened
  obtain rfl := Except.ok.inj heq
  obtain ⟨verifier, w₃, hverifier, hreport⟩ := hrest₂.of_bind_ok
  obtain ⟨v, rfl, hw₃⟩ := of_openVerifier hverifier
  obtain ⟨hc, rfl⟩ := of_report hreport
  exact ⟨v, hw₃, hc⟩

/-- A service is that of its command. -/
theorem of_service {svc : Http.LoginService (World.Run α)}
    (h : Yields (service (around.resources ids) settings).run w (.ok svc) w') :
    Yields (start (around.resources ids) settings).run w (.ok svc.command) w' ∧
      svc.cookieName = settings.session.cookieName ∧
      svc.clock = (around.resources ids).clock := by
  rw [service] at h
  obtain ⟨c, w₁, hstart, hrest₁⟩ := h.of_bind_ok
  obtain ⟨origins, w₂, horigins, hrest₂⟩ := hrest₁.of_bind_ok
  obtain ⟨-, rfl⟩ := of_report horigins
  have hpure : Yields (pure (.ok ⟨c, settings.session.cookieName, origins,
      (around.resources ids).clock⟩) :
        World.Run α (Except StartupError (Http.LoginService (World.Run α)))) w₂ (.ok svc) w' :=
    hrest₂
  obtain ⟨hsvc, rfl⟩ := hpure.eq (.pure _ _)
  rw [Except.ok.inj hsvc]
  exact ⟨hstart, rfl, rfl⟩

end Deployment

end WebLogin
