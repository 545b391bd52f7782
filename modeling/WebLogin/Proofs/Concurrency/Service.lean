/-
A login service, call by call.

A client makes requests to a started command, one after the other, and what it asks next may depend
on what it was answered. The service makes its calls one at a time, so that other clients' calls can
come between them. Under other session ids it does the same: no step looks into an id.

* `Serving.serve_twin` — one request, under other session ids;
* `Serving.follow_twin` — a whole client;
* `Deployment.shared` — settings that keep logins in sessions lead to such a service.
-/
import WebLogin.Proofs.Concurrency.Memory
import WebLogin.Proofs.Concurrency.Twins
import WebLogin.Proofs.Login.Requests
import WebLogin.Proofs.Startup

namespace WebLogin

/-! ### Calls -/

/-- What a service does while it serves a client. -/
inductive ServiceCall where
  | store (c : StoreCall)
  | time
  /-- A request of the client comes in. -/
  | request (req : LoginRequest)
  /-- The client is answered. -/
  | tell (out : LoginOutcome)

namespace ServiceCall

@[reducible] def Reply : ServiceCall → Type
  | store c => c.Reply
  | time => Timestamp
  | request _ => Unit
  | tell _ => Unit

/-- The session that a call names. -/
def named? : ServiceCall → Option SessionId
  | store (.get id) => some id
  | store (.save x) => some x.id
  | store (.invalidate id) => some id
  | _ => none

end ServiceCall

/-- Programs that serve clients. -/
abbrev Serving := Program ServiceCall ServiceCall.Reply

abbrev ServiceExchange := Exchange ServiceCall ServiceCall.Reply

namespace Serving

def store : SessionStore Serving where
  create := Program.ask (ServiceCall.store .create)
  get id := Program.ask (ServiceCall.store (.get id))
  save x := Program.ask (ServiceCall.store (.save x))
  invalidate id := Program.ask (ServiceCall.store (.invalidate id))

def clock : Serving Timestamp := Program.ask ServiceCall.time

end Serving

def LoginRequest.sessionId : LoginRequest → Option SessionId
  | scope ctx => ctx.sessionId
  | login ctx _ _ => ctx.sessionId
  | logout ctx _ => ctx.sessionId

namespace ServiceExchange

/-- The id that a client comes with. -/
def presented? : ServiceExchange → Option SessionId
  | ⟨.request req, _⟩ => req.sessionId
  | _ => none

/-- The id of a session that was made. -/
def issued? : ServiceExchange → Option SessionId
  | ⟨.store .create, .ok x⟩ => some x.id
  | _ => none

end ServiceExchange

/-- What a client asks, one request after the other. -/
abbrev Plan := Program LoginRequest (fun _ => LoginOutcome) Unit

def LoginOutcome.sessionId : LoginOutcome → Option SessionId
  | scope step => step.1.sessionId
  | login step => step.1.sessionId
  | logout step => step.1.sessionId

def follow (c : LoginCommand Serving) : Plan → Serving Unit
  | .done _ => return ()
  | .call req next => do
    Program.ask (ServiceCall.request req)
    let out ← c.serve req
    Program.ask (ServiceCall.tell out)
    follow c (next out)

/-! ### Other session ids -/

section Rename

variable (f : SessionId → SessionId)

def Session.rename (x : Session) : Session := { x with id := f x.id }

def RequestContext.rename (ctx : RequestContext) : RequestContext :=
  { ctx with sessionId := ctx.sessionId.map f }

def LoginRequest.rename : LoginRequest → LoginRequest
  | scope ctx => scope (ctx.rename f)
  | login ctx username password => login (ctx.rename f) username password
  | logout ctx principal => logout (ctx.rename f) principal

def LoginOutcome.rename : LoginOutcome → LoginOutcome
  | scope step => scope (step.1.rename f, step.2)
  | login step => login (step.1.rename f, step.2)
  | logout step => logout (step.1.rename f, step.2)

namespace StoreCall

def rename : StoreCall → StoreCall
  | create => create
  | get id => get (f id)
  | save x => save (x.rename f)
  | invalidate id => invalidate (f id)

def renameReply : (c : StoreCall) → c.Reply → (c.rename f).Reply
  | create => Except.map (Session.rename f)
  | get _ => Except.map (Option.map (Session.rename f))
  | save _ => id
  | invalidate _ => id

end StoreCall

/-- The calls of a service under other session ids. -/
def ServiceCall.naming : Translation ServiceCall ServiceCall.Reply where
  call
    | store c => store (c.rename f)
    | time => time
    | request req => request (req.rename f)
    | tell out => tell (out.rename f)
  reply
    | store c => c.renameReply f
    | time => id
    | request _ => id
    | tell _ => id

/-- Two clients that ask the same under other session ids. -/
def Plan.Alike (plan plan' : Plan) : Prop :=
  Program.Twin ⟨LoginRequest.rename f, fun _ => LoginOutcome.rename f⟩ (fun _ _ => True)
    (fun _ => True) (fun _ _ _ => True) plan plan' []

variable {f}

/-- Every client has one that asks the same under other session ids. -/
def Plan.rename (f g : SessionId → SessionId) : Plan → Plan
  | .done u => .done u
  | .call req next => .call (req.rename f) fun out => rename f g (next (out.rename g))

theorem RequestContext.rename_rename {g : SessionId → SessionId} (hg : ∀ id, g (f id) = id)
    (ctx : RequestContext) : (ctx.rename f).rename g = ctx := by
  obtain ⟨_ | id, cookies, pending, principal⟩ := ctx
  · rfl
  · exact congrArg (fun id => (⟨some id, cookies, pending, principal⟩ : RequestContext)) (hg id)

theorem LoginOutcome.rename_rename {g : SessionId → SessionId} (hg : ∀ id, g (f id) = id)
    (out : LoginOutcome) : (out.rename f).rename g = out := by
  cases out with
  | scope step => exact congrArg (fun ctx => scope (ctx, step.2)) (step.1.rename_rename hg)
  | login step => exact congrArg (fun ctx => login (ctx, step.2)) (step.1.rename_rename hg)
  | logout step => exact congrArg (fun ctx => logout (ctx, step.2)) (step.1.rename_rename hg)

theorem Plan.alike_rename {g : SessionId → SessionId} (hg : ∀ id, g (f id) = id) (plan : Plan) :
    plan.Alike f (plan.rename f g) := by
  rw [Plan.Alike]
  generalize [] = asked
  induction plan generalizing asked with
  | done u => exact .done trivial
  | call req next ih =>
    refine .call trivial fun out _ => ?_
    show Program.Twin _ _ _ _ (next out) (rename f g (next ((out.rename f).rename g))) _
    rw [LoginOutcome.rename_rename hg]
    exact ih out _

end Rename

/-! ### What a service knows -/

namespace Serving

/-- The ids that somebody has come with, and those of sessions that were made for them. -/
def Known (t : List ServiceExchange) (id : SessionId) : Prop :=
  ∃ e ∈ t, ServiceExchange.presented? e = some id ∨ ServiceExchange.issued? e = some id

/-- Only sessions with known ids are named. -/
def Own (t : List ServiceExchange) (c : ServiceCall) : Prop := ∀ id, c.named? = some id → Known t id

/-- A session that is found is the one that was asked for. -/
def Sincere : ServiceExchange → Prop
  | ⟨.store (.get id), .ok (some x)⟩ => x.id = id
  | _ => True

def Knows (t : List ServiceExchange) (ctx : RequestContext) : Prop :=
  ∀ id, ctx.sessionId = some id → Known t id

/-- Programs that do the same under other session ids. -/
abbrev Twins {α β : Type} (f : SessionId → SessionId) (Q : α → β → List ServiceExchange → Prop)
    (p : Serving α) (p' : Serving β) (t : List ServiceExchange) : Prop :=
  Program.Twin (ServiceCall.naming f) Own Sincere Q p p' t

/-- Programs that leave the same context under other session ids, with a known session. -/
abbrev StepTwins {β : Type} (f : SessionId → SessionId) (g : β → β)
    (p p' : Serving (RequestContext × β)) (t : List ServiceExchange) : Prop :=
  Twins f (fun r r' t => r' = (r.1.rename f, g r.2) ∧ Knows t r.1) p p' t

variable {f : SessionId → SessionId} {t t' : List ServiceExchange} {ctx : RequestContext}
  {β : Type} {g : β → β}

theorem Known.append {id : SessionId} (h : Known t id) (t' : List ServiceExchange) :
    Known (t ++ t') id := by
  obtain ⟨e, he, hid⟩ := h
  exact ⟨e, List.mem_append_left t' he, hid⟩

theorem Known.created (t : List ServiceExchange) (x : Session) :
    Known (t ++ [⟨.store .create, .ok x⟩]) x.id :=
  ⟨_, List.mem_append_right t (List.mem_singleton.2 rfl), .inr rfl⟩

theorem Knows.append (h : Knows t ctx) (t' : List ServiceExchange) : Knows (t ++ t') ctx :=
  fun id hid => (h id hid).append t'

theorem Knows.withSession {id : SessionId} (h : Known t id) :
    Knows t (ctx.withSession (some id)) := by
  intro id' hid
  rwa [← Option.some.inj hid]

theorem Knows.lost : Knows t (ctx.withSession none) := by
  intro id hid
  cases hid

theorem StepTwins.done {b : β} (h : Knows t ctx) :
    StepTwins f g (return (ctx, b)) (return (ctx.rename f, g b)) t := .pure ⟨rfl, h⟩

theorem StepTwins.bind {γ δ : Type} {p p' : Serving (RequestContext × β)}
    {k : RequestContext × β → Serving γ} {k' : RequestContext × β → Serving δ}
    {Q : γ → δ → List ServiceExchange → Prop} (hp : StepTwins f g p p' t)
    (hk : ∀ ctx b t, Knows t ctx → Twins f Q (k (ctx, b)) (k' (ctx.rename f, g b)) t) :
    Twins f Q (p >>= k) (p' >>= k') t := by
  refine Program.Twin.bind hp fun r r' t hr => ?_
  obtain ⟨ctx, b⟩ := r
  obtain ⟨rfl, hknows⟩ := hr
  exact hk ctx b t hknows

/-! ### Sessions -/

section Sessions

open SessionBinder SessionStrategy

theorem restore_twin (h : Knows t ctx) :
    StepTwins f id ((perSession store).restore ctx) ((perSession store).restore (ctx.rename f))
      t := by
  obtain ⟨old, cookies, pending, principal⟩ := ctx
  cases old with
  | none => exact StepTwins.done h
  | some id =>
    refine Program.Twin.ask (fun _ hid => h _ hid) fun r _ => ?_
    rcases r with e | _ | x
    · exact StepTwins.done (h.append _)
    · exact StepTwins.done Knows.lost
    · obtain ⟨xid, _ | p⟩ := x
      · exact StepTwins.done (h.append _)
      · exact StepTwins.done (h.append _)

/-- A session is made, and the request gets its id. -/
theorem create_twin {γ : Type} {k k' : Except StoreError Session → Serving γ}
    {Q : γ → γ → List ServiceExchange → Prop}
    (herror : ∀ e t', Twins f Q (k (.error e)) (k' (.error e)) (t ++ t'))
    (hok : ∀ (x : Session) t', Known (t ++ t') x.id →
      Twins f Q (k (.ok x)) (k' (.ok (x.rename f))) (t ++ t')) :
    Twins f Q (store.create >>= k) (store.create >>= k') t := by
  refine Program.Twin.ask (fun _ hid => by cases hid) fun r _ => ?_
  rcases r with e | x
  · exact herror e _
  · exact hok x _ (.created t x)

theorem sessionOf_twin (h : Knows t ctx) :
    Twins f (fun r r' t => r' = (r.1.rename f, r.2.map (Session.rename f)) ∧ Knows t r.1 ∧
      ∀ x, r.2 = .ok x → Known t x.id) (sessionOf store ctx) (sessionOf store (ctx.rename f))
      t := by
  obtain ⟨old, cookies, pending, principal⟩ := ctx
  cases old with
  | none =>
    refine create_twin (fun e t' => .pure ⟨rfl, h.append t', fun _ hx => by cases hx⟩) ?_
    intro x t' hx
    exact .pure ⟨rfl, .withSession hx, fun y hy => Except.ok.inj hy ▸ hx⟩
  | some id =>
    refine Program.Twin.ask (fun _ hid => h _ hid) fun r hr => ?_
    rcases r with e | _ | x
    · exact .pure ⟨rfl, h.append _, fun _ hx => by cases hx⟩
    · have h₁ := h.append [⟨.store (.get id), .ok none⟩]
      refine create_twin (fun e t' => .pure ⟨rfl, h₁.append t', fun _ hx => by cases hx⟩) ?_
      intro x t' hx
      exact .pure ⟨rfl, .withSession hx, fun y hy => Except.ok.inj hy ▸ hx⟩
    · refine .pure ⟨rfl, h.append _, fun y hy => ?_⟩
      obtain rfl : x.id = id := hr
      exact Except.ok.inj hy ▸ (h _ rfl).append _

theorem bind_twin (h : Knows t ctx) (p : Principal) :
    StepTwins f id ((perSession store).bind ctx p) ((perSession store).bind (ctx.rename f) p)
      t := by
  refine Program.Twin.bind (sessionOf_twin h) fun r r' t hr => ?_
  obtain ⟨ctx, e | x⟩ := r
  · obtain ⟨rfl, hknows, -⟩ := hr
    exact StepTwins.done hknows
  · obtain ⟨rfl, hknows, hx⟩ := hr
    refine Program.Twin.ask (fun _ hid => Option.some.inj hid ▸ hx x rfl) fun r _ => ?_
    rcases r with e | u
    · exact StepTwins.done (hknows.append _)
    · exact StepTwins.done (hknows.append _)

theorem unbind_twin (h : Knows t ctx) :
    StepTwins f id ((perSession store).unbind ctx) ((perSession store).unbind (ctx.rename f))
      t := by
  obtain ⟨old, cookies, pending, principal⟩ := ctx
  cases old with
  | none => exact StepTwins.done h
  | some id =>
    refine Program.Twin.ask (fun _ hid => h _ hid) fun r hr => ?_
    rcases r with e | _ | x
    · exact StepTwins.done (h.append _)
    · exact StepTwins.done (h.append _)
    · obtain ⟨xid, _ | p⟩ := x
      · exact StepTwins.done (h.append _)
      · -- Somebody is in the session, so it is written back without them.
        obtain rfl : xid = id := hr
        refine Program.Twin.ask (fun _ hid => (h _ hid).append _) fun r _ => ?_
        rcases r with e | u
        · exact StepTwins.done ((h.append _).append _)
        · exact StepTwins.done ((h.append _).append _)

theorem moveSession_twin {old fresh : Session} (hold : Known t old.id) (hfresh : Known t fresh.id) :
    Twins f (fun r r' t' => r' = r ∧ ∃ t₁, t' = t ++ t₁) (moveSession store old fresh)
      (moveSession store (old.rename f) (fresh.rename f)) t := by
  obtain ⟨oid, _ | p⟩ := old
  · refine .call (fun _ hid => Option.some.inj hid ▸ hold) fun r _ => ?_
    exact .done ⟨rfl, _, rfl⟩
  · refine Program.Twin.ask (fun _ hid => Option.some.inj hid ▸ hfresh) fun r _ => ?_
    rcases r with e | u
    · exact .pure ⟨rfl, _, rfl⟩
    · refine .call (fun _ hid => Option.some.inj hid ▸ hold.append _) fun r _ => ?_
      exact .done ⟨rfl, _, List.append_assoc ..⟩

theorem rotate_twin (h : Knows t ctx) :
    StepTwins f id (rotate store ctx) (rotate store (ctx.rename f)) t := by
  obtain ⟨old, cookies, pending, principal⟩ := ctx
  cases old with
  | none => exact StepTwins.done h
  | some id =>
    refine Program.Twin.ask (fun _ hid => h _ hid) fun r hr => ?_
    rcases r with e | _ | x
    · exact StepTwins.done (h.append _)
    · exact StepTwins.done (h.append _)
    · obtain rfl : x.id = id := hr
      have hx := (h x.id rfl).append [⟨.store (.get x.id), .ok (some x)⟩]
      refine create_twin (fun e t' => StepTwins.done ((h.append _).append t')) ?_
      intro fresh t' hfresh
      refine Program.Twin.bind (moveSession_twin (hx.append t') hfresh) fun r r' t₂ hr => ?_
      obtain ⟨rfl, t₁, rfl⟩ := hr
      rcases r' with e | u
      · refine Program.Twin.ask (fun _ hid => Option.some.inj hid ▸ hfresh.append t₁) fun r _ => ?_
        exact StepTwins.done ((((h.append _).append t').append t₁).append _)
      · exact StepTwins.done (.withSession (hfresh.append t₁))

end Sessions

/-! ### Those who take part -/

abbrev RequestTwins (f : SessionId → SessionId) (p p' : Serving RequestContext)
    (t : List ServiceExchange) : Prop :=
  Twins f (fun r r' t => r' = r.rename f ∧ Knows t r) p p' t

/-- A verifier without a state of its own. -/
def verifier (v : Credential → Except VerificationError VerifiedIdentity) : Verifier Serving :=
  ⟨fun credential => return v credential⟩

/-- The session strategies that there are. -/
def Strategies (strategy : SessionStrategy Serving) : Prop :=
  strategy = .null ∨ strategy = .changeId store

/-- Those who remember logins: nobody, or tokens. -/
def Remembering (rm : RememberMe Serving) : Prop :=
  rm = .null ∨ ∃ rc : RememberMeConfig, rm = rc.service clock

/-- The handlers of a logout that there are. -/
inductive Handles : LogoutHandler Serving → Prop where
  | securityContext (ends : Bool) : Handles (.securityContext (some store) ends)
  | cookieClearing (names : List String) : Handles (.cookieClearing names)
  | rememberMe (rc : RememberMeConfig) : Handles rc.handler

theorem strategy_twin {strategy : SessionStrategy Serving} (hstrategy : Strategies strategy)
    (h : Knows t ctx) (p : Principal) :
    StepTwins f id (strategy.onAuthentication ctx p) (strategy.onAuthentication (ctx.rename f) p)
      t := by
  rcases hstrategy with rfl | rfl
  · exact StepTwins.done h
  · exact StepTwins.bind (rotate_twin h) fun ctx r t h => StepTwins.done h

theorem autoLogin_rename (rc : RememberMeConfig) (now : Timestamp) (ctx : RequestContext) :
    rc.autoLogin now (ctx.rename f) =
      ((rc.autoLogin now ctx).1.rename f, (rc.autoLogin now ctx).2) := by
  have hcookie : (ctx.rename f).requestCookie? rc.cookieName =
      ctx.requestCookie? rc.cookieName := rfl
  rw [RememberMeConfig.autoLogin, RememberMeConfig.autoLogin, hcookie]
  cases ctx.requestCookie? rc.cookieName with
  | none => rfl
  | some token =>
    dsimp only
    cases Token.verify rc.secret now token <;> rfl

theorem autoLogin_twin {rm : RememberMe Serving} (hrm : Remembering rm) (h : Knows t ctx) :
    StepTwins f id (rm.autoLogin ctx) (rm.autoLogin (ctx.rename f)) t := by
  rcases hrm with rfl | ⟨rc, rfl⟩
  · exact StepTwins.done h
  · refine Program.Twin.ask (fun _ hid => by cases hid) fun now _ => ?_
    refine .pure ⟨autoLogin_rename rc now ctx, fun id hid => ?_⟩
    rw [rc.autoLogin_sessionId] at hid
    exact (h id hid).append _

theorem loginSuccess_twin {rm : RememberMe Serving} (hrm : Remembering rm) (h : Knows t ctx)
    (p : Principal) :
    RequestTwins f (rm.loginSuccess ctx p) (rm.loginSuccess (ctx.rename f) p) t := by
  rcases hrm with rfl | ⟨rc, rfl⟩
  · exact .pure ⟨rfl, h⟩
  · refine Program.Twin.ask (fun _ hid => by cases hid) fun now _ => ?_
    have hsame : rc.loginSuccess now (ctx.rename f) p = (rc.loginSuccess now ctx p).rename f ∧
        (rc.loginSuccess now ctx p).sessionId = ctx.sessionId := by
      rw [RememberMeConfig.loginSuccess, RememberMeConfig.loginSuccess]
      cases Token.issue rc.secret rc.ttl now p <;> exact ⟨rfl, rfl⟩
    refine .pure ⟨hsame.1, fun id hid => ?_⟩
    rw [hsame.2] at hid
    exact (h id hid).append _

theorem loginFail_twin {rm : RememberMe Serving} (hrm : Remembering rm) (h : Knows t ctx) :
    RequestTwins f (rm.loginFail ctx) (rm.loginFail (ctx.rename f)) t := by
  rcases hrm with rfl | ⟨rc, rfl⟩
  · exact .pure ⟨rfl, h⟩
  · exact .pure ⟨rfl, h⟩

theorem handler_twin {handler : LogoutHandler Serving} (hh : Handles handler) (h : Knows t ctx)
    (p : Option Principal) :
    StepTwins f id (handler.cleanup ctx p) (handler.cleanup (ctx.rename f) p) t := by
  cases hh with
  | securityContext ends =>
    obtain ⟨old, cookies, pending, principal⟩ := ctx
    cases ends with
    | false => exact StepTwins.done h
    | true =>
      cases old with
      | none => exact StepTwins.done h
      | some id =>
        refine Program.Twin.ask (fun _ hid => h _ hid) fun r _ => ?_
        exact StepTwins.done Knows.lost
  | cookieClearing names =>
    have hsame : ∀ ctx : RequestContext,
        names.foldl (fun ctx name => ctx.addResponseCookie (.removal name)) (ctx.rename f) =
          (names.foldl (fun ctx name => ctx.addResponseCookie (.removal name)) ctx).rename f ∧
        (names.foldl (fun ctx name => ctx.addResponseCookie (.removal name)) ctx).sessionId =
          ctx.sessionId := by
      induction names with
      | nil => exact fun _ => ⟨rfl, rfl⟩
      | cons name names ih => exact fun ctx => ih (ctx.addResponseCookie (.removal name))
    refine .pure ⟨Prod.ext (hsame ctx).1 rfl, fun id hid => h id ?_⟩
    rwa [(hsame ctx).2] at hid
  | rememberMe rc => exact StepTwins.done h

theorem runHandlers_twin {handlers : List (LogoutHandler Serving)}
    (hall : ∀ h ∈ handlers, Handles h) (h : Knows t ctx) (p : Option Principal) :
    StepTwins f id (LogoutSequence.runHandlers p handlers ctx)
      (LogoutSequence.runHandlers p handlers (ctx.rename f)) t := by
  induction handlers generalizing ctx t with
  | nil => exact StepTwins.done h
  | cons handler rest ih =>
    refine StepTwins.bind (handler_twin (hall handler List.mem_cons_self) h p) fun ctx r t h => ?_
    refine StepTwins.bind (ih (fun h hmem => hall h (List.mem_cons_of_mem handler hmem)) h) ?_
    exact fun ctx failures t h => StepTwins.done h

/-! ### Requests -/

/-- Those who take part in the logins of a service. -/
structure Together (a : Authentication Serving) : Prop where
  binder : a.binder = .perSession store
  verifier : ∃ v, a.verifier = verifier v
  strategy : Strategies a.strategy
  rememberMe : Remembering a.rememberMe

section Authentication

variable {a : Authentication Serving}

theorem fail_twin (ha : Together a) (h : Knows t ctx) (e : LoginFailure) :
    StepTwins f id (a.fail ctx e) (a.fail (ctx.rename f) e) t := by
  refine Program.Twin.bind (loginFail_twin ha.rememberMe h) fun r r' t hr => ?_
  obtain ⟨rfl, hr⟩ := hr
  exact StepTwins.done hr

theorem authenticate_twin (ha : Together a) (h : Knows t ctx) (p : Principal) :
    StepTwins f id (a.bind ctx p) (a.bind (ctx.rename f) p) t := by
  rw [Authentication.bind, Authentication.bind, ha.binder]
  refine StepTwins.bind (bind_twin h p) fun ctx r t h => ?_
  rcases r with e | u
  · exact StepTwins.done h
  · exact StepTwins.bind (strategy_twin ha.strategy h p) fun ctx r t h => StepTwins.done h

theorem complete_twin (ha : Together a) (h : Knows t ctx) (p : Principal) :
    StepTwins f id (a.complete ctx p) (a.complete (ctx.rename f) p) t := by
  refine StepTwins.bind (authenticate_twin ha h p) fun ctx r t h => ?_
  rcases r with e | u
  · rw [ha.binder]
    refine StepTwins.bind (unbind_twin h) fun ctx r t h => ?_
    exact fail_twin ha h e
  · refine Program.Twin.bind (loginSuccess_twin ha.rememberMe h p) fun r r' t hr => ?_
    obtain ⟨rfl, hr⟩ := hr
    exact StepTwins.done hr

theorem run_twin (ha : Together a) (h : Knows t ctx) (username password : String) :
    StepTwins f id (a.run ctx username password) (a.run (ctx.rename f) username password) t := by
  obtain ⟨v, hv⟩ := ha.verifier
  rw [Authentication.run, Authentication.run, hv]
  cases Credential.parse username password with
  | error e => exact fail_twin ha h _
  | ok credential =>
    have hverify : Twins f (fun r r' t => r' = r ∧ Knows t ctx) (return v credential)
        (return v credential) t := Program.Twin.pure ⟨rfl, h⟩
    refine Program.Twin.bind hverify fun r r' t hr => ?_
    obtain ⟨rfl, h⟩ := hr
    rcases r' with e | identity
    · exact fail_twin ha h _
    · exact complete_twin ha h _

end Authentication

/-- A started command over the store of a service, which keeps logins in sessions. Its verifier
answers the same whenever it is asked. -/
structure Shared (c : LoginCommand Serving) : Prop where
  started : ∃ handlers, c.started = some ⟨handlers, .perSession store⟩ ∧ ∀ h ∈ handlers, Handles h
  verifier : ∃ v, c.config.verifier = verifier v
  strategy : Strategies c.config.strategy
  rememberMe : Remembering c.config.rememberMe

section Command

variable {c : LoginCommand Serving}

theorem Shared.together (hc : Shared c) {s : LogoutSequence Serving}
    (hs : s.binder = .perSession store) : Together (c.authentication s) :=
  ⟨hs, hc.verifier, hc.strategy, hc.rememberMe⟩

theorem scope_twin (hc : Shared c) (h : Knows t ctx) :
    StepTwins f id (c.scope ctx) (c.scope (ctx.rename f)) t := by
  obtain ⟨handlers, hstarted, -⟩ := hc.started
  rw [LoginCommand.scope, LoginCommand.scope, hstarted]
  refine StepTwins.bind (restore_twin h) fun ctx r t h => ?_
  rcases r with e | u
  · exact StepTwins.done h
  · obtain ⟨old, cookies, pending, _ | p⟩ := ctx
    · refine StepTwins.bind (autoLogin_twin hc.rememberMe h) fun ctx r t h => ?_
      rcases r with _ | p
      · exact StepTwins.done h
      · exact StepTwins.bind (bind_twin h p) fun ctx r t h => StepTwins.done h
    · exact StepTwins.done h

theorem login_twin (hc : Shared c) (h : Knows t ctx) (username password : String) :
    StepTwins f id (c.login ctx username password) (c.login (ctx.rename f) username password)
      t := by
  obtain ⟨handlers, hstarted, -⟩ := hc.started
  rw [LoginCommand.login, LoginCommand.login, hstarted]
  exact StepTwins.bind (run_twin (hc.together rfl) h username password)
    fun ctx r t h => StepTwins.done h

theorem logout_twin (hc : Shared c) (h : Knows t ctx) (given : Option Principal) :
    StepTwins f id (c.logout ctx given) (c.logout (ctx.rename f) given) t := by
  obtain ⟨handlers, hstarted, hall⟩ := hc.started
  rw [LoginCommand.logout, LoginCommand.logout, hstarted]
  refine StepTwins.bind (runHandlers_twin hall h (given <|> ctx.principal)) ?_
  intro ctx failures t h
  exact StepTwins.bind (unbind_twin h) fun ctx r t h => StepTwins.done h

/-- A request is served in the same way under other session ids, and names only sessions that are
known. -/
theorem serve_twin (hc : Shared c) {req : LoginRequest}
    (h : ∀ id, req.sessionId = some id → Known t id) :
    Twins f (fun out out' _ => out' = out.rename f) (c.serve req) (c.serve (req.rename f)) t := by
  cases req with
  | scope ctx => exact StepTwins.bind (scope_twin hc h) fun ctx r t _ => .pure rfl
  | login ctx username password =>
    exact StepTwins.bind (login_twin hc h username password) fun ctx r t _ => .pure rfl
  | logout ctx given => exact StepTwins.bind (logout_twin hc h given) fun ctx r t _ => .pure rfl

/-- Two clients that ask the same under other session ids are served in the same way. -/
theorem follow_twin (hc : Shared c) {plan plan' : Plan} (h : plan.Alike f plan') :
    Twins f (fun _ _ _ => True) (follow c plan) (follow c plan') t := by
  rw [Plan.Alike] at h
  generalize [] = asked at h
  induction h generalizing t with
  | done _ => exact .pure trivial
  | call _ _ ih =>
    refine Program.Twin.ask (fun _ hid => by cases hid) fun r _ => ?_
    refine Program.Twin.bind (serve_twin hc fun id hid => ?_) fun out out' t hout => ?_
    · exact ⟨_, List.mem_append_right t (List.mem_singleton.2 rfl), .inl hid⟩
    · subst hout
      exact Program.Twin.ask (fun _ hid => by cases hid) fun r _ => ih out trivial

end Command

end Serving

theorem Deployment.shared {settings : Settings} (hmode : settings.login.mode = .perSession)
    (v : Credential → Except VerificationError VerifiedIdentity) :
    ∃ c, command settings Serving.clock Serving.store (Serving.verifier v) = .ok c ∧
      Serving.Shared c := by
  refine ⟨_, command_eq hmode Serving.clock Serving.store (Serving.verifier v),
    ⟨_, rfl, ?_⟩, ⟨v, rfl⟩, ?_, ?_⟩
  · exact forall_logoutHandlers .securityContext .rememberMe .cookieClearing
  · right
    simp only [loginConfig, hmode, Mode.isPerClient]
    rfl
  · show Serving.Remembering (loginConfig settings Serving.clock _ _).rememberMe
    rw [loginConfig]
    dsimp only
    split
    · exact .inr ⟨rememberMeConfig settings, rfl⟩
    · exact .inl rfl

end WebLogin
