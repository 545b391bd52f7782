/-
Operations on a session store in Redis, command by command.

Every operation of the store is one command or two, and the commands of other operations can come
between the two. A `RedisHost` is Redis with its clock, and knows which keys have been in use.

* `operation_along` — which key an operation sets, and what it was told before;
* `RedisHost.perform_answers` — what is known of a host after a command;
* `RedisHost.Answers.missing` — a missing key stays missing unless it is set.
-/
import WebLogin.Proofs.Concurrency.Memory
import WebLogin.Proofs.Store.RedisKeys

namespace WebLogin

/-- A command, or the drawing of a new session id. -/
inductive RedisCall where
  | setex (key : String) (seconds : Nat) (value : String)
  | get (key : String)
  | has (key : String)
  | del (key : String)
  | draw

namespace RedisCall

/-- What a command is answered with. -/
@[reducible] def Reply : RedisCall → Type
  | setex _ _ _ => Except String Unit
  | get _ => Except String (Option String)
  | has _ => Except String Bool
  | del _ => Except String Unit
  | draw => SessionId

/-- The connection of a program that gives commands. -/
def connection : RedisConnection (Program RedisCall Reply) where
  setex key seconds value := Program.ask (setex key seconds value)
  get key := Program.ask (get key)
  has key := Program.ask (has key)
  del key := Program.ask (del key)

/-- An operation of the store as a program, which ends with its result. -/
def operation (ttl : Nat) (c : StoreCall) : Program RedisCall Reply StoreExchange := do
  return ⟨c, ← c.on (RedisStore.sessionStore connection ttl (Program.ask draw))⟩

end RedisCall

/-- A command with its reply. -/
abbrev RedisExchange := Exchange RedisCall RedisCall.Reply

/-! ### The commands of an operation -/

section Along

open RedisStore RedisCall

/-- A key is only set to the text of the session that belongs to it, right after it was found or its
id was drawn. -/
def SetsOwn (t : List RedisExchange) : RedisCall → Prop
  | .setex k _ v => ∃ x : Session, k = key x.id ∧ v = x.toJson ∧
      (t.getLast? = some ⟨.has k, .ok true⟩ ∨ t.getLast? = some ⟨.draw, x.id⟩)
  | _ => True

/-- To end a session, its key was removed. -/
def Removes (e : StoreExchange) (t : List RedisExchange) : Prop :=
  ∀ id, e.call = .invalidate id → ∃ r, ⟨.del (key id), r⟩ ∈ t

theorem operation_along (ttl : Nat) (c : StoreCall) :
    (operation ttl c).Along SetsOwn (fun _ => True) Removes [] := by
  have hcall : (c.on (sessionStore connection ttl (Program.ask draw))).Along SetsOwn
      (fun _ => True) (fun _ t => ∀ id, c = .invalidate id → ∃ r, ⟨.del (key id), r⟩ ∈ t) [] := by
    cases c with
    | create =>
      refine Program.Along.ask trivial fun id _ => ?_
      -- The key is set right after its id was drawn.
      have hwrite : (write connection ttl (.fresh id)).Along SetsOwn (fun _ => True)
          (fun _ _ => True) [⟨.draw, id⟩] :=
        Program.Along.ask ⟨.fresh id, rfl, rfl, .inr rfl⟩ fun _ _ => .done trivial
      exact hwrite.bind fun _ _ _ => .done fun _ hid => by cases hid
    | get id =>
      refine Program.Along.ask trivial fun r _ => ?_
      rcases r with e | _ | v
      · exact .done fun _ hid => by cases hid
      · exact .done fun _ hid => by cases hid
      · exact .done fun _ hid => by cases hid
    | save x =>
      -- Only the answer that the key is there leads to the second command.
      refine Program.Along.ask trivial fun r _ => ?_
      rcases r with e | _ | _
      · exact .done fun _ hid => by cases hid
      · exact .done fun _ hid => by cases hid
      · refine Program.Along.ask ⟨x, rfl, rfl, .inl rfl⟩ fun r _ => ?_
        exact .done fun _ hid => by cases hid
    | invalidate id =>
      refine Program.Along.ask trivial fun r _ => .done ?_
      rintro id' hid
      cases hid
      exact ⟨r, List.mem_cons_self⟩
  exact hcall.bind fun _ _ ht => .done ht

end Along

/-! ### The host -/

/-- Redis with the time, and the keys that have been in use. -/
structure RedisHost where
  keys : RedisKeys
  clock : Nat
  used : List String

/-- What comes with a turn: so many milliseconds have passed, and this would be a new id. -/
structure RedisTurn where
  wait : Nat
  fresh : SessionId

namespace RedisHost

/-- The value of a key. -/
def value? (h : RedisHost) (k : String) : Option String := h.keys.value? h.clock k

/-- Whether a time to live fits. -/
def accepts (h : RedisHost) (seconds : Nat) : Bool := RedisKeys.accepts h.clock seconds

/-- The host so many milliseconds later. -/
def later (h : RedisHost) (wait : Nat) : RedisHost := { h with clock := h.clock + wait }

/-- The host with a key put into use and given an entry, or none. -/
def set (h : RedisHost) (k : String) (e : Option (String × Nat)) : RedisHost :=
  { h with keys := Function.update h.keys k e, used := k :: h.used }

/-- The host with a key put into use. -/
def use (h : RedisHost) (k : String) : RedisHost := { h with used := k :: h.used }

/-- Has Redis answer a command that names a key, and puts the key into use. -/
def answer {α : Type} (h : RedisHost) (k : String) (command : StateM RedisKeys α) :
    α × RedisHost :=
  let (reply, keys) := command.run h.keys
  (reply, { h with keys, used := k :: h.used })

/-- Answers a command. An id whose key has been in use is no new one. -/
def perform (turn : RedisTurn) (c : RedisCall) (h : RedisHost) : Option (c.Reply × RedisHost) :=
  let h := h.later turn.wait
  let redis := RedisKeys.connection h.clock
  match c with
  | .setex k seconds v => some (h.answer k (redis.setex k seconds v))
  | .get k => some (h.answer k (redis.get k))
  | .has k => some (h.answer k (redis.has k))
  | .del k => some (h.answer k (redis.del k))
  | .draw =>
    if RedisStore.key turn.fresh ∈ h.used then none
    else some (turn.fresh, h.use (RedisStore.key turn.fresh))

theorem answer_setex (h : RedisHost) (k v : String) (seconds : Nat) :
    h.answer k ((RedisKeys.connection h.clock).setex k seconds v) =
      if h.accepts seconds then (.ok (), h.set k (some (v, h.clock + 1000 * seconds)))
      else (.error "ERR invalid expire time in 'setex' command", h.use k) := by
  show RedisHost.answer h k (fun keys => if RedisKeys.accepts h.clock seconds then _ else _) = _
  rw [accepts, answer]
  cases RedisKeys.accepts h.clock seconds <;> rfl

theorem value?_later {h : RedisHost} {k : String} (hk : h.value? k = none) (wait : Nat) :
    (h.later wait).value? k = none :=
  RedisKeys.value?_eq_none_later hk wait

/-- What a command does to a host. -/
inductive Answers (h : RedisHost) : RedisExchange → RedisHost → Prop where
  | setex {k v : String} {n : Nat} (accepted : h.accepts n = true) :
      h.Answers ⟨.setex k n v, .ok ()⟩ (h.set k (some (v, h.clock + 1000 * n)))
  | refuse {k v text : String} {n : Nat} (refused : h.accepts n = false) :
      h.Answers ⟨.setex k n v, .error text⟩ (h.use k)
  | get (k : String) : h.Answers ⟨.get k, .ok (h.value? k)⟩ (h.use k)
  | has (k : String) : h.Answers ⟨.has k, .ok (h.value? k).isSome⟩ (h.use k)
  | del (k : String) : h.Answers ⟨.del k, .ok ()⟩ (h.set k none)
  | draw {id : SessionId} (fresh : RedisStore.key id ∉ h.used) :
      h.Answers ⟨.draw, id⟩ (h.use (RedisStore.key id))

theorem perform_answers {turn : RedisTurn} {c : RedisCall} {h h' : RedisHost} {r : c.Reply}
    (hperform : h.perform turn c = some (r, h')) : (h.later turn.wait).Answers ⟨c, r⟩ h' := by
  cases c with
  | setex k n v =>
    have hanswer := (answer_setex (h.later turn.wait) k v n).symm.trans (Option.some.inj hperform)
    split at hanswer
    · rename_i haccepts
      obtain ⟨rfl, rfl⟩ := Prod.mk.inj hanswer
      exact .setex haccepts
    · rename_i haccepts
      obtain ⟨rfl, rfl⟩ := Prod.mk.inj hanswer
      exact .refuse (Bool.not_eq_true _ ▸ haccepts)
  | get k =>
    obtain ⟨rfl, rfl⟩ := Prod.mk.inj (Option.some.inj hperform)
    exact .get k
  | has k =>
    obtain ⟨rfl, rfl⟩ := Prod.mk.inj (Option.some.inj hperform)
    exact .has k
  | del k =>
    obtain ⟨rfl, rfl⟩ := Prod.mk.inj (Option.some.inj hperform)
    exact .del k
  | draw =>
    rw [perform] at hperform
    split at hperform
    · cases hperform
    · rename_i hfresh
      obtain ⟨rfl, rfl⟩ := Prod.mk.inj (Option.some.inj hperform)
      exact .draw hfresh

variable {h h' : RedisHost} {e : RedisExchange}

theorem Answers.used (ha : h.Answers e h') {k : String} (hk : k ∈ h.used) : k ∈ h'.used := by
  cases ha <;> exact List.mem_cons_of_mem _ hk

theorem Answers.accepts_eq (ha : h.Answers e h') (seconds : Nat) :
    h'.accepts seconds = h.accepts seconds := by
  cases ha <;> rfl

theorem Answers.has_eq {k : String} {b : Bool} (ha : h.Answers ⟨.has k, .ok b⟩ h') :
    b = (h.value? k).isSome := by
  cases ha
  rfl

theorem Answers.get_eq {k : String} {r : Except String (Option String)}
    (ha : h.Answers ⟨.get k, r⟩ h') : r = .ok (h.value? k) := by
  cases ha
  rfl

theorem Answers.draw_fresh {id : SessionId} (ha : h.Answers ⟨.draw, id⟩ h') :
    RedisStore.key id ∉ h.used := by
  cases ha with
  | draw hfresh => exact hfresh

/-- A missing key stays so unless it is set. -/
theorem Answers.missing (ha : h.Answers e h') {k : String} (hk : h.value? k = none)
    (hset : ∀ n v, e.call = .setex k n v → h.accepts n = false) : h'.value? k = none := by
  cases ha with
  | @setex k' v n haccepts =>
    -- A command that sets the key itself was refused.
    by_cases heq : k = k'
    · subst heq
      cases (hset n v rfl).symm.trans haccepts
    · exact (RedisKeys.value?_update k' _).trans ((if_neg heq).trans hk)
  | del k' =>
    refine (RedisKeys.value?_update k' none).trans ?_
    split
    · rfl
    · exact hk
  | refuse => exact hk
  | get => exact hk
  | has => exact hk
  | draw => exact hk

/-- Every entry is the text of a session under its key. -/
def OwnTexts (h : RedisHost) : Prop :=
  ∀ k e, h.keys k = some e → ∃ x : Session, k = RedisStore.key x.id ∧ e.1 = x.toJson

theorem Answers.texts (ha : h.Answers e h') (ht : h.OwnTexts)
    (hset : ∀ k n v, e.call = .setex k n v →
      ∃ x : Session, k = RedisStore.key x.id ∧ v = x.toJson) : h'.OwnTexts := by
  intro k entry hentry
  cases ha with
  | @setex k' =>
    have hentry := (Function.update_apply h.keys k' _ k).symm.trans hentry
    split at hentry
    · rename_i heq
      rw [← Option.some.inj hentry, heq]
      exact hset _ _ _ rfl
    · exact ht k entry hentry
  | del k' =>
    have hentry := (Function.update_apply h.keys k' none k).symm.trans hentry
    split at hentry
    · cases hentry
    · exact ht k entry hentry
  | refuse => exact ht k entry hentry
  | get => exact ht k entry hentry
  | has => exact ht k entry hentry
  | draw => exact ht k entry hentry

end RedisHost

end WebLogin
