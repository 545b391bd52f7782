/-
The life of a login command.

A command is configured field by field, started, stopped and configured again, in whatever order
its owner likes. A started command works with two copies of its configuration: the steps of a
logout and the binder were taken from it at the start, while the strategy and remember-me are read
from it at every request. The copies do not drift apart, because a started command turns every
setter down and is left as it was.

* `LoginCommand.run_configure`, `LoginCommand.run_start` — what a call gives, and the command that
  it leaves;
* `LoginCommand.Follows` — the invariant: each field has the last value that was accepted, and a
  started command is what starting it once more would give;
* `LoginCommand.follows_step`, `LoginCommand.follows_run` — it is kept by every call;
* `LoginCommand.Lifecycle` — what it says about the calls of the owner and about requests.
-/
import WebLogin.Login.Command

namespace WebLogin

variable {m : Type → Type}

/-! ### Settings -/

/-- A field of the configuration of a command, with a value for it. -/
inductive Setting (m : Type → Type) where
  | store (store : SessionStore m)
  | strategy (strategy : SessionStrategy m)
  | rememberMe (rememberMe : RememberMe m)
  | handlers (handlers : List (LogoutHandler m))
  | perClient (perClient : Bool)
  | invalidateSession (invalidateSession : Bool)

namespace Setting

/-- The fields that a setting can be for. -/
inductive Field where
  | store | strategy | rememberMe | handlers | perClient | invalidateSession
  deriving DecidableEq

/-- The field of a setting. -/
def field : Setting m → Field
  | store _ => .store
  | strategy _ => .strategy
  | rememberMe _ => .rememberMe
  | handlers _ => .handlers
  | perClient _ => .perClient
  | invalidateSession _ => .invalidateSession

def store? : Setting m → Option (SessionStore m)
  | store s => some s
  | _ => none

def strategy? : Setting m → Option (SessionStrategy m)
  | strategy s => some s
  | _ => none

def rememberMe? : Setting m → Option (RememberMe m)
  | rememberMe r => some r
  | _ => none

def handlers? : Setting m → Option (List (LogoutHandler m))
  | handlers hs => some hs
  | _ => none

def perClient? : Setting m → Option Bool
  | perClient b => some b
  | _ => none

def invalidateSession? : Setting m → Option Bool
  | invalidateSession b => some b
  | _ => none

/-- The configuration with the value of a setting in its field. -/
def apply [Monad m] : Setting m → LoginConfig m → LoginConfig m
  | store s, config => { config with store := some s }
  | strategy s, config => { config with strategy := s }
  | rememberMe r, config => { config with rememberMe := r }
  | handlers hs, config => { config with handlers := some hs }
  | perClient b, config => { config with mode := .ofPerClient b }
  | invalidateSession b, config => { config with invalidateSession := b }

theorem apply_comm [Monad m] {s t : Setting m} (h : s.field ≠ t.field) (config : LoginConfig m) :
    s.apply (t.apply config) = t.apply (s.apply config) := by
  cases s <;> cases t <;> first | rfl | exact absurd rfl h

/-- The last value that some settings give to a field. -/
def last {α : Type} (value? : Setting m → Option α) (settings : List (Setting m)) : Option α :=
  (settings.filterMap value?).getLast?

@[simp]
theorem last_concat {α : Type} (value? : Setting m → Option α) (settings : List (Setting m))
    (s : Setting m) : last value? (settings ++ [s]) = (value? s).or (last value? settings) := by
  rw [last, List.filterMap_append, List.getLast?_append, last]
  congr 1
  cases h : value? s with
  | none => rw [List.filterMap_cons_none h]; rfl
  | some a => rw [List.filterMap_cons_some h]; rfl

theorem isSome_last_store? {settings : List (Setting m)} :
    (last store? settings).isSome = true ↔ ∃ s, store s ∈ settings := by
  rw [last, List.getLast?_isSome, ← List.length_pos_iff, List.length_pos_iff_exists_mem]
  simp only [List.mem_filterMap]
  constructor
  · rintro ⟨s, setting, hmem, hs⟩
    cases setting with
    | store s' => exact ⟨s', hmem⟩
    | _ => cases hs
  · rintro ⟨s, hmem⟩
    exact ⟨s, store s, hmem, rfl⟩

end Setting

/-- The configuration that some settings lead to: each field has its last value, and a field that
was never set has the value that a new command has. -/
def LoginConfig.ofSettings [Monad m] (verifier : Verifier m) (settings : List (Setting m)) :
    LoginConfig m where
  verifier := verifier
  store := Setting.last Setting.store? settings
  strategy := (Setting.last Setting.strategy? settings).getD .null
  rememberMe := (Setting.last Setting.rememberMe? settings).getD .null
  handlers := Setting.last Setting.handlers? settings
  mode := .ofPerClient ((Setting.last Setting.perClient? settings).getD false)
  invalidateSession := (Setting.last Setting.invalidateSession? settings).getD true

theorem LoginConfig.ofSettings_concat [Monad m] (verifier : Verifier m)
    (settings : List (Setting m)) (s : Setting m) :
    ofSettings verifier (settings ++ [s]) = s.apply (ofSettings verifier settings) := by
  simp only [ofSettings, Setting.last_concat]
  cases s <;> rfl

/-! ### Calls -/

/-- What the owner of a command does to set it up. -/
inductive SetupCall (m : Type → Type) where
  | set (s : Setting m)
  | start
  | stop

namespace LoginCommand

variable [Monad m] {verifier : Verifier m} {settings : List (Setting m)} {c : LoginCommand m}

/-- Calls the setter of a field. -/
def set : Setting m → Setup m Unit
  | .store s => setStore s
  | .strategy s => setStrategy s
  | .rememberMe r => setRememberMe r
  | .handlers hs => setHandlers hs
  | .perClient b => setPerClient b
  | .invalidateSession b => setInvalidateSession b

/-- Makes a call. -/
def call : SetupCall m → Setup m Unit
  | .set s => set s
  | .start => start
  | .stop => modify stop

/-- The command that a call leaves its owner with, whether or not it was rejected. -/
def after (c : LoginCommand m) (made : SetupCall m) : LoginCommand m :=
  match (call made).run c with
  | .ok () c' => c'
  | .error _ c' => c'

/-- The command after some calls. -/
def run (c : LoginCommand m) (calls : List (SetupCall m)) : LoginCommand m := calls.foldl after c

/-- The setting that a call brings into the configuration, unless it is rejected. -/
def takes (c : LoginCommand m) : SetupCall m → List (Setting m)
  | .set s =>
    match (set s).run c with
    | .ok () _ => [s]
    | .error _ _ => []
  | .start | .stop => []

/-- The settings that were accepted over some calls, in order. -/
def accepted (c : LoginCommand m) : List (SetupCall m) → List (Setting m)
  | [] => []
  | made :: calls => c.takes made ++ (c.after made).accepted calls

/-! ### What calls give -/

omit [Monad m] in
theorem run_ensureConfigurable (c : LoginCommand m) :
    (ensureConfigurable : Setup m Unit).run c =
      if c.isStarted then .error .alreadyStarted c else .ok () c := by
  show (if c.isStarted = true then throw .alreadyStarted else pure () : Setup m Unit).run c = _
  split <;> rfl

omit [Monad m] in
/-- Nothing is changed by a setter that a started command rejects. -/
theorem run_configure (c : LoginCommand m) (change : LoginConfig m → LoginConfig m) :
    (configure change).run c =
      if c.isStarted then .error .alreadyStarted c
      else .ok () { c with config := change c.config } := by
  rw [configure, EStateM.run_bind, run_ensureConfigurable]
  cases c.isStarted <;> rfl

/-- Starting reads nothing but the configuration, and changes nothing unless it succeeds. -/
theorem run_start (c : LoginCommand m) :
    (start : Setup m Unit).run c =
      if c.isStarted then .error .alreadyStarted c
      else match SessionBinder.ofMode c.config.mode c.config.store with
        | .error e => .error e c
        | .ok binder => .ok () { c with started := some ⟨handlersOf c.config, binder⟩ } := by
  rw [start, EStateM.run_bind, run_ensureConfigurable]
  cases c.isStarted with
  | true => rfl
  | false =>
    show EStateM.run (match SessionBinder.ofMode c.config.mode c.config.store with
      | .error e => throw e
      | .ok binder => MonadStateOf.set { c with started := some ⟨handlersOf c.config, binder⟩ } :
        Setup m Unit) c = _
    cases SessionBinder.ofMode c.config.mode c.config.store with
    | error e => rfl
    | ok binder => rfl

theorem run_set (c : LoginCommand m) (s : Setting m) :
    (call (.set s)).run c =
      if c.isStarted then .error .alreadyStarted c
      else .ok () { c with config := s.apply c.config } := by
  have hset : call (.set s) = configure s.apply := by cases s <;> rfl
  rw [hset, run_configure]

theorem run_stop (c : LoginCommand m) : (call .stop).run c = .ok () c.stop := rfl

theorem after_of_ok {made : SetupCall m} {c' : LoginCommand m}
    (h : (call made).run c = .ok () c') : c.after made = c' := by
  rw [after, h]

/-- A call that is rejected changes nothing. -/
theorem eq_of_rejected {made : SetupCall m} {e : ConfigurationError} {c' : LoginCommand m}
    (h : (call made).run c = .error e c') : c' = c := by
  cases made with
  | set s =>
    rw [run_set] at h
    split at h <;> cases h
    rfl
  | start =>
    rw [call, run_start] at h
    split at h
    · cases h
      rfl
    · split at h <;> cases h
      rfl
  | stop => cases h

theorem after_of_rejected {made : SetupCall m} {e : ConfigurationError} {c' : LoginCommand m}
    (h : (call made).run c = .error e c') : c.after made = c := by
  rw [after, h]
  exact eq_of_rejected h

/-! ### Starting -/

omit [Monad m] in
theorem started_eq_none (h : c.isStarted = false) : c.started = none := by
  rwa [isStarted, Option.isSome_eq_false_iff, Option.isNone_iff_eq_none] at h

omit [Monad m] in
theorem stop_of_not_isStarted (h : c.isStarted = false) : c.stop = c := by
  obtain ⟨config, started⟩ := c
  exact congrArg _ (started_eq_none h).symm

/-- A started command is what starting it once more would give. -/
theorem run_start_eq_ok {c' : LoginCommand m} (h : (start : Setup m Unit).run c = .ok () c') :
    c.isStarted = false ∧ c'.isStarted = true ∧ c'.config = c.config ∧
      (start : Setup m Unit).run c'.stop = .ok () c' := by
  have hstart := h
  rw [run_start] at hstart
  split at hstart
  · cases hstart
  · rename_i hon
    have hoff : c.isStarted = false := Bool.eq_false_iff.2 hon
    split at hstart
    · cases hstart
    · cases hstart
      refine ⟨hoff, rfl, rfl, ?_⟩
      -- The command was not started before, so that stopping it gives it back.
      show (start : Setup m Unit).run c.stop = _
      rw [stop_of_not_isStarted hoff, h]

theorem run_start_isOk_iff (c : LoginCommand m) :
    (∃ c', (start : Setup m Unit).run c = .ok () c') ↔
      c.isStarted = false ∧ (c.config.mode = .perClient ∨ c.config.store.isSome = true) := by
  rw [run_start]
  cases c.isStarted with
  | true => simp
  | false =>
    rcases c.config.mode with _ | _ <;> rcases c.config.store with _ | store <;>
      simp [SessionBinder.ofMode]

theorem run_start_eq_error {e : ConfigurationError} {c' : LoginCommand m}
    (h : (start : Setup m Unit).run c = .error e c') :
    e = if c.isStarted then .alreadyStarted else .missingSessionStore := by
  rw [run_start] at h
  cases hstarted : c.isStarted with
  | true =>
    rw [hstarted] at h
    cases h
    rfl
  | false =>
    rw [hstarted] at h
    rcases hmode : c.config.mode with _ | _ <;> rcases hstore : c.config.store with _ | store <;>
      rw [hmode, hstore] at h <;> cases h
    rfl

/-! ### The invariant -/

/-- The command has the configuration of some settings, and if it is started, then it is what
starting it with this configuration gives. -/
structure Follows (verifier : Verifier m) (settings : List (Setting m)) (c : LoginCommand m) :
    Prop where
  config : c.config = .ofSettings verifier settings
  frozen : c.isStarted = true → (start : Setup m Unit).run c.stop = .ok () c

theorem follows_new (verifier : Verifier m) : (new verifier).Follows verifier [] where
  config := rfl
  frozen h := by cases h

theorem follows_step (h : c.Follows verifier settings) (made : SetupCall m) :
    (c.after made).Follows verifier (settings ++ c.takes made) := by
  cases made with
  | set s =>
    have hrun := run_set c s
    have htakes : c.takes (.set s) = if c.isStarted then [] else [s] := by
      rw [takes, show (set s).run c = _ from hrun]
      cases c.isStarted <;> rfl
    cases hstarted : c.isStarted with
    | false =>
      rw [hstarted] at hrun htakes
      rw [after_of_ok hrun, htakes]
      constructor
      · rw [if_neg Bool.false_ne_true, LoginConfig.ofSettings_concat, ← h.config]
      · intro hon
        exact absurd (hstarted.symm.trans hon) Bool.false_ne_true
    | true =>
      rw [hstarted] at hrun htakes
      rw [after_of_rejected hrun, htakes, if_pos rfl, List.append_nil]
      exact h
  | start =>
    rw [takes, List.append_nil]
    cases hstart : (start : Setup m Unit).run c with
    | error e c' =>
      rw [after_of_rejected (show (call .start).run c = _ from hstart)]
      exact h
    | ok u c' =>
      rw [after_of_ok (show (call .start).run c = _ from hstart)]
      obtain ⟨-, -, hconfig, hagain⟩ := run_start_eq_ok hstart
      exact ⟨hconfig.trans h.config, fun _ => hagain⟩
  | stop =>
    rw [takes, List.append_nil, after_of_ok (run_stop c)]
    exact ⟨h.config, fun hon => by cases hon⟩

theorem follows_run (h : c.Follows verifier settings) (calls : List (SetupCall m)) :
    (c.run calls).Follows verifier (settings ++ c.accepted calls) := by
  induction calls generalizing c settings with
  | nil => exact (List.append_nil settings).symm ▸ h
  | cons made calls ih =>
    have := ih (follows_step h made)
    rwa [List.append_assoc] at this

theorem Follows.sequence (h : c.Follows verifier settings) {s : LogoutSequence m}
    (hs : c.started = some s) :
    SessionBinder.ofMode c.config.mode c.config.store = .ok s.binder ∧
      s.handlers = handlersOf c.config := by
  have hstarted : c.isStarted = true := by rw [isStarted, hs]; rfl
  have hstart := h.frozen hstarted
  rw [run_start] at hstart
  cases hbinder : SessionBinder.ofMode c.stop.config.mode c.stop.config.store with
  | error e =>
    rw [hbinder] at hstart
    cases hstart
  | ok binder =>
    rw [hbinder] at hstart
    have hsame : some (⟨handlersOf c.config, binder⟩ : LogoutSequence m) = some s := by
      have hc : _ = c := (EStateM.Result.ok.inj hstart).2
      rw [← hs, ← hc]
    cases hsame
    exact ⟨hbinder, rfl⟩

/-! ### Requests -/

/-- What a started command does with requests is what these collaborators do: the binder restores
and binds, remember-me is asked if nobody was found, a login is theirs, and so is a logout with
these handlers. -/
structure Serves (c : LoginCommand m) (a : Authentication m) (handlers : List (LogoutHandler m)) :
    Prop where
  scope : ∀ ctx, c.scope ctx = do
    match ← a.binder.restore ctx with
    | (ctx, .error e) => return (ctx, .error (.store e))
    | (ctx, .ok ()) =>
      if ctx.isAuthenticated then return (ctx, .ok ())
      else
        match ← a.rememberMe.autoLogin ctx with
        | (ctx, none) => return (ctx, .ok ())
        | (ctx, some p) => do
          let (ctx, result) ← a.binder.bind ctx p
          return (ctx, result.mapError .store)
  login : ∀ ctx username password, c.login ctx username password = do
    let (ctx, result) ← a.run ctx username password
    return (ctx, result.mapError .failed)
  logout : ∀ ctx principal,
    c.logout ctx principal = LogoutSequence.run ⟨handlers, a.binder⟩ ctx principal

theorem serves_of_started {s : LogoutSequence m} (hs : c.started = some s) :
    c.Serves (c.authentication s) s.handlers where
  scope ctx := by
    rw [scope, hs]
    rfl
  login ctx username password := by rw [login, hs]
  logout ctx principal := by
    rw [logout, hs]
    rfl

theorem scope_of_started_eq_none (h : c.started = none) (ctx : RequestContext) :
    c.scope ctx = pure (ctx, .error .notStarted) := by
  rw [scope, h]

theorem login_of_started_eq_none (h : c.started = none) (ctx : RequestContext)
    (username password : String) :
    c.login ctx username password = pure (ctx, .error .notStarted) := by
  rw [login, h]

theorem logout_of_started_eq_none (h : c.started = none) (ctx : RequestContext)
    (principal : Option Principal) :
    c.logout ctx principal = pure (ctx, .error .notStarted) := by
  rw [logout, h]

/-! ### The life of a command -/

/-- What holds of a command whose owner has had the given settings accepted, in this order. -/
structure Lifecycle (verifier : Verifier m) (settings : List (Setting m)) (c : LoginCommand m) :
    Prop where
  config : c.config = .ofSettings verifier settings
  /-- A setter is accepted while the command is not started, and then its value is the last. -/
  set : ∀ s, (call (.set s)).run c =
    if c.isStarted then .error .alreadyStarted c
    else .ok () { config := .ofSettings verifier (settings ++ [s]), started := none }
  /-- A call that is rejected leaves the command as it was. -/
  rejected : ∀ made e c', (call made).run c = .error e c' → c' = c
  start_isOk : (∃ c', (call .start).run c = .ok () c') ↔ c.isStarted = false ∧
    (Setting.last Setting.perClient? settings = some true ∨ ∃ s, Setting.store s ∈ settings)
  start_ok : ∀ c', (call .start).run c = .ok () c' → c'.isStarted = true
  start_error : ∀ e c', (call .start).run c = .error e c' →
    e = if c.isStarted then .alreadyStarted else .missingSessionStore
  /-- After a start that failed for want of a store, the command can still be configured. -/
  start_failed : ∀ e c', c.isStarted = false → (call .start).run c = .error e c' →
    c'.isStarted = false ∧ ∀ s, ∃ c'', (call (.set s)).run c' = .ok () c''
  stop : ∃ c', (call .stop).run c = .ok () c' ∧ c'.isStarted = false
  comm : ∀ s t : Setting m, s.field ≠ t.field → c.run [.set s, .set t] = c.run [.set t, .set s]
  /-- A started command is what the last values give when they are set at once and started. -/
  started : c.isStarted = true →
    (call .start).run { config := .ofSettings verifier settings, started := none } = .ok () c
  restarted : c.isStarted = true → c.run [.stop, .start] = c
  binder : ∀ s, c.started = some s →
    SessionBinder.ofMode (.ofPerClient ((Setting.last Setting.perClient? settings).getD false))
      (Setting.last Setting.store? settings) = .ok s.binder
  handlers : ∀ s hs, c.started = some s → Setting.last Setting.handlers? settings = some hs →
    s.handlers = hs
  /-- Where no handlers were set there is one, which ends sessions or does nothing at all. -/
  usual : ∀ s, c.started = some s → Setting.last Setting.handlers? settings = none →
    ∃ h, s.handlers = [h] ∧ h.name = "security-context" ∧
      if (Setting.last Setting.invalidateSession? settings).getD true = true ∧
          (Setting.last Setting.perClient? settings).getD false = false then
        ∃ store, Setting.last Setting.store? settings = some store ∧
          h = .securityContext (some store) true
      else ∀ ctx principal, h.cleanup ctx principal = pure (ctx, .ok ())
  /-- Scopes, logins and logouts are those of the collaborators that were set last, although only
  the binder and the handlers are frozen at the start. -/
  serves : ∀ s, c.started = some s → c.Serves
    { verifier, binder := s.binder
      strategy := (Setting.last Setting.strategy? settings).getD .null
      rememberMe := (Setting.last Setting.rememberMe? settings).getD .null } s.handlers
  idle : c.isStarted = false →
    (∀ ctx, c.scope ctx = pure (ctx, .error .notStarted)) ∧
    (∀ ctx username password,
      c.login ctx username password = pure (ctx, .error .notStarted)) ∧
    ∀ ctx principal, c.logout ctx principal = pure (ctx, .error .notStarted)
  authorizes : ∀ (c' : LoginCommand m) principal roles,
    c.authorizes principal roles = c'.authorizes principal roles

namespace Follows

theorem set (h : c.Follows verifier settings) (s : Setting m) :
    (call (.set s)).run c =
      if c.isStarted then .error .alreadyStarted c
      else .ok () { config := .ofSettings verifier (settings ++ [s]), started := none } := by
  rw [run_set, LoginConfig.ofSettings_concat, ← h.config]
  cases hstarted : c.isStarted with
  | false => rw [started_eq_none hstarted]
  | true => rfl

theorem start_isOk (h : c.Follows verifier settings) :
    (∃ c', (call .start).run c = .ok () c') ↔ c.isStarted = false ∧
      (Setting.last Setting.perClient? settings = some true ∨
        ∃ s, Setting.store s ∈ settings) := by
  refine (run_start_isOk_iff c).trans (and_congr_right fun _ => ?_)
  rw [h.config]
  refine or_congr ?_ Setting.isSome_last_store?
  show Mode.ofPerClient ((Setting.last Setting.perClient? settings).getD false) = _ ↔ _
  rcases Setting.last Setting.perClient? settings with _ | _ | _ <;> simp [Mode.ofPerClient]

/-- A start that fails leaves the command as it was, and so it can be configured. -/
theorem start_failed {e : ConfigurationError} {c' : LoginCommand m} (hoff : c.isStarted = false)
    (hfailed : (call .start).run c = .error e c') :
    c'.isStarted = false ∧ ∀ s, ∃ c'', (call (.set s)).run c' = .ok () c'' := by
  obtain rfl := eq_of_rejected hfailed
  refine ⟨hoff, fun s => ?_⟩
  rw [run_set, hoff]
  exact ⟨_, rfl⟩

theorem comm (s t : Setting m) (hfield : s.field ≠ t.field) :
    c.run [.set s, .set t] = c.run [.set t, .set s] := by
  show (c.after (.set s)).after (.set t) = (c.after (.set t)).after (.set s)
  cases hstarted : c.isStarted with
  | false =>
    -- Each of the two calls is accepted, and the next one too, since a setter starts nothing.
    have haccepted {c : LoginCommand m} (hc : c.isStarted = false) (s : Setting m) :
        c.after (.set s) = { c with config := s.apply c.config } := by
      have hrun := run_set c s
      rw [hc] at hrun
      exact after_of_ok hrun
    rw [haccepted hstarted, haccepted hstarted, haccepted (by exact hstarted),
      haccepted (by exact hstarted), Setting.apply_comm hfield]
  | true =>
    have hstay (s : Setting m) : c.after (.set s) = c := by
      have hrun := run_set c s
      rw [hstarted] at hrun
      exact after_of_rejected hrun
    rw [hstay, hstay, hstay]

theorem usual (h : c.Follows verifier settings) {s : LogoutSequence m} (hs : c.started = some s)
    (hnone : Setting.last Setting.handlers? settings = none) :
    ∃ h, s.handlers = [h] ∧ h.name = "security-context" ∧
      if (Setting.last Setting.invalidateSession? settings).getD true = true ∧
          (Setting.last Setting.perClient? settings).getD false = false then
        ∃ store, Setting.last Setting.store? settings = some store ∧
          h = .securityContext (some store) true
      else ∀ ctx principal, h.cleanup ctx principal = pure (ctx, .ok ()) := by
  obtain ⟨hbinder, hhandlers⟩ := h.sequence hs
  rw [h.config] at hbinder hhandlers
  simp only [LoginConfig.ofSettings, handlersOf, hnone, Option.getD_none] at hbinder hhandlers
  refine ⟨_, hhandlers, rfl, ?_⟩
  cases (Setting.last Setting.invalidateSession? settings).getD true <;>
    cases hmode : (Setting.last Setting.perClient? settings).getD false
  · exact fun _ _ => rfl
  · exact fun _ _ => rfl
  · -- sessions are kept, so that the binder has a store
    cases hstore : Setting.last Setting.store? settings with
    | none => rw [hmode, hstore] at hbinder; cases hbinder
    | some store => exact ⟨store, rfl, rfl⟩
  · exact fun _ _ => rfl

theorem lifecycle (h : c.Follows verifier settings) : c.Lifecycle verifier settings where
  config := h.config
  set := h.set
  rejected _ _ _ := eq_of_rejected
  start_isOk := h.start_isOk
  start_ok _ hstart := (run_start_eq_ok hstart).2.1
  start_error _ _ := run_start_eq_error
  start_failed _ _ := start_failed
  stop := ⟨c.stop, run_stop c, rfl⟩
  comm := comm
  started hon := h.config ▸ h.frozen hon
  restarted hon := after_of_ok (h.frozen hon)
  binder s hs := by
    have hbinder := (h.sequence hs).1
    rwa [h.config] at hbinder
  handlers s hs hon hlast := by
    rw [(h.sequence hon).2, h.config]
    simp only [handlersOf, LoginConfig.ofSettings, hlast, Option.getD_some]
  usual _ := h.usual
  serves s hs := by
    have hserves := serves_of_started hs
    rw [authentication, h.config] at hserves
    exact hserves
  idle hoff := by
    have hnone := started_eq_none hoff
    exact ⟨scope_of_started_eq_none hnone, login_of_started_eq_none hnone,
      logout_of_started_eq_none hnone⟩
  authorizes _ _ _ := rfl

end Follows

/-- Whatever its owner calls, a command stays in step with the settings that it accepted. -/
theorem lifecycle_run (verifier : Verifier m) (calls : List (SetupCall m)) :
    ((new verifier).run calls).Lifecycle verifier ((new verifier).accepted calls) :=
  (follows_run (follows_new verifier) calls).lifecycle

end LoginCommand

end WebLogin
