/-
A store in memory that answers calls from everywhere.

`StoreCall` lists the calls of a session store, so that code over a store becomes a `Program`. A
`MemoryHost` answers them one at a time, by the store in memory itself: before each call some time
passes, and a new session gets an id that has never been in use. A call whose deadline the clock
cannot write has no answer, so whoever made it never goes on.

* `MemoryHost.perform_answers` — what is known of a host after a call;
* `lastWritten` — who stands in a session after some calls;
* `MemoryHost.Keeps` — the sessions on a host are those that the calls wrote last.
-/
import WebLogin.Proofs.Concurrency.Program
import WebLogin.Proofs.Store.Memory

namespace WebLogin

/-! ### Calls -/

/-- A call of a session store. -/
inductive StoreCall where
  | create
  | get (id : SessionId)
  | save (x : Session)
  | invalidate (id : SessionId)
  deriving DecidableEq

namespace StoreCall

/-- What a call is answered with. -/
@[reducible] def Reply : StoreCall → Type
  | create => Except StoreError Session
  | get _ => Except StoreError (Option Session)
  | save _ => Except StoreError Unit
  | invalidate _ => Except StoreError Unit

/-- Makes a call on a store. -/
def on {m : Type → Type} (store : SessionStore m) : (c : StoreCall) → m c.Reply
  | create => store.create
  | get id => store.get id
  | save x => store.save x
  | invalidate id => store.invalidate id

/-- Programs that call a session store. -/
abbrev Calls := Program StoreCall Reply

/-- The store of such a program. -/
def store : SessionStore Calls where
  create := Program.ask create
  get id := Program.ask (get id)
  save x := Program.ask (save x)
  invalidate id := Program.ask (invalidate id)

end StoreCall

/-- A call of a session store with its reply. -/
abbrev StoreExchange := Exchange StoreCall StoreCall.Reply

/-- The session that a call wrote, if it did. -/
def StoreExchange.written? : StoreExchange → Option Session
  | ⟨.create, .ok x⟩ => some x
  | ⟨.save x, .ok ()⟩ => some x
  | _ => none

/-- Who stands in a session after some calls, when it was somebody given before them. -/
def lastWritten {ι : Type} (id : SessionId) (p : Option Principal)
    (log : List (ι × StoreExchange)) : Option Principal :=
  log.foldl
    (fun p e => ((StoreExchange.written? e.2).filter (·.id = id)).elim p Session.principal) p

section LastWritten

variable {ι : Type} {id : SessionId} {p : Option Principal} {log log' : List (ι × StoreExchange)}

theorem lastWritten_append :
    lastWritten id p (log ++ log') = lastWritten id (lastWritten id p log) log' :=
  List.foldl_append ..

theorem lastWritten_concat {e : ι × StoreExchange} {q : Option Principal}
    (he : StoreExchange.written? e.2 = some ⟨id, q⟩) : lastWritten id p (log ++ [e]) = q := by
  rw [lastWritten_append, lastWritten, List.foldl_cons, List.foldl_nil, he,
    Option.filter_some_pos (by simp), Option.elim_some]

/-- Calls that do not write a session leave it to whoever stands in it. -/
theorem lastWritten_eq_self
    (h : ∀ e ∈ log, ∀ x, StoreExchange.written? e.2 = some x → x.id ≠ id) :
    lastWritten id p log = p := by
  induction log generalizing p with
  | nil => rfl
  | cons e log ih =>
    have hnone : (StoreExchange.written? e.2).filter (·.id = id) = none := by
      rw [Option.filter_eq_none_iff]
      intro x hx
      simpa using h e List.mem_cons_self x hx
    rw [lastWritten, List.foldl_cons, hnone]
    exact ih fun e' he' => h e' (List.mem_cons_of_mem e he')

/-- Whoever stands in a session was in it all the time, or was written there by a call after which
nobody wrote it. -/
theorem lastWritten_cases {q : Option Principal} (h : lastWritten id p log = q) :
    (p = q ∧ ∀ e ∈ log, ∀ x, StoreExchange.written? e.2 = some x → x.id ≠ id) ∨
    ∃ before e after, log = before ++ e :: after ∧
      StoreExchange.written? e.2 = some ⟨id, q⟩ ∧
      ∀ e' ∈ after, ∀ x, StoreExchange.written? e'.2 = some x → x.id ≠ id := by
  induction log generalizing p with
  | nil => exact .inl ⟨h, fun _ he => by cases he⟩
  | cons e log ih =>
    have hfirst : lastWritten id (lastWritten id p [e]) log = q := h
    rcases ih hfirst with ⟨hfirst, hlog⟩ | ⟨before, e', after, rfl, hwritten, hafter⟩
    · -- Nobody wrote later, so it is the first call that decides.
      by_cases hwrites : ∃ x, StoreExchange.written? e.2 = some x ∧ x.id = id
      · obtain ⟨⟨id', q'⟩, hx, rfl⟩ := hwrites
        have hvalue : lastWritten id' p ([] ++ [e]) = q' := lastWritten_concat hx
        obtain rfl : q' = q := hvalue.symm.trans hfirst
        exact .inr ⟨[], e, log, rfl, hx, hlog⟩
      · have hother : ∀ e' ∈ [e], ∀ x, StoreExchange.written? e'.2 = some x → x.id ≠ id := by
          rintro e' he' x hx hid
          exact hwrites ⟨x, List.mem_singleton.1 he' ▸ hx, hid⟩
        rw [lastWritten_eq_self hother] at hfirst
        refine .inl ⟨hfirst, fun e' he' => ?_⟩
        rcases List.mem_cons.1 he' with rfl | he'
        · exact hother e' (List.mem_singleton_self e')
        · exact hlog e' he'
    · exact .inr ⟨e :: before, e', after, rfl, hwritten, hafter⟩

end LastWritten

/-! ### The host -/

/-- A store in memory with a clock, and the ids that have been in use. -/
structure MemoryHost where
  store : MemoryStore
  clock : Uptime
  used : List SessionId

/-- What comes with a turn: so many milliseconds have passed, and this would be a new id. -/
structure MemoryTurn where
  wait : Nat
  fresh : SessionId

namespace MemoryHost

/-- The session under an id. -/
def session? (h : MemoryHost) (id : SessionId) : Option Session :=
  (h.store.live h.clock id).map MemoryEntry.session

/-- Answers a call. An id that has been in use is no new one. -/
def perform (turn : MemoryTurn) (c : StoreCall) (h : MemoryHost) :
    Option (c.Reply × MemoryHost) :=
  let now := h.clock + turn.wait
  let store : SessionStore (StateT MemoryStore (Except ClockOverflow)) :=
    MemoryStore.sessionStore (pure now) (pure turn.fresh)
  if c = .create ∧ turn.fresh ∈ h.used then none
  else
    match (c.on store).run h.store with
    | .error _ => none
    | .ok (r, s) => some (r, ⟨s, now, if c = .create then turn.fresh :: h.used else h.used⟩)

end MemoryHost

section Operations

variable {α : Type} {s s' : MemoryStore} {now : Uptime} {id : SessionId}

theorem MemoryStore.run_update (op : MemoryStore → Except ClockOverflow (α × MemoryStore))
    (s : MemoryStore) :
    (MemoryStore.update op : StateT MemoryStore (Except ClockOverflow) α).run s = op s := by
  have hget : (getThe MemoryStore : StateT MemoryStore (Except ClockOverflow) MemoryStore).run s =
      .ok (s, s) := rfl
  rw [update, StateT.run_bind, hget]
  dsimp only [bind, Except.bind]
  cases op s with
  | error e => rfl
  | ok r => rfl

theorem MemoryStore.put_eq_ok {x : Session} (h : s.put now x = .ok s') :
    s' = s.insert x.id ⟨x, now + 1000 * s.ttl⟩ := by
  rw [put, Uptime.addSeconds] at h
  split at h
  · exact (Except.ok.inj h).symm
  · cases h

theorem MemoryStore.create_eq_ok {x : Session} (h : s.create now id = .ok (x, s')) :
    x = .fresh id ∧ s' = (s.purge now).insert id ⟨.fresh id, now + 1000 * s.ttl⟩ := by
  rw [create] at h
  cases hput : (s.purge now).put now (.fresh id) with
  | error e =>
    rw [hput] at h
    cases h
  | ok s₁ =>
    rw [hput] at h
    obtain ⟨rfl, rfl⟩ := Prod.mk.inj (Except.ok.inj h)
    exact ⟨rfl, put_eq_ok hput⟩

/-- A session is written if it is there, and otherwise the store is left alone. -/
theorem MemoryStore.save_eq_ok {x : Session} {r : Except StoreError Unit}
    (h : s.save now x = .ok (r, s')) :
    (s.live now x.id).isSome ∧ r = .ok () ∧ s' = s.insert x.id ⟨x, now + 1000 * s.ttl⟩ ∨
      s.live now x.id = none ∧ r = .error .sessionNotFound ∧ s' = s := by
  cases hlive : s.live now x.id with
  | none =>
    rw [save_eq_of_missing hlive] at h
    obtain ⟨rfl, rfl⟩ := Prod.mk.inj (Except.ok.inj h)
    exact .inr ⟨rfl, rfl, rfl⟩
  | some e =>
    rw [save_of_live (Option.isSome_of_eq_some hlive)] at h
    cases hput : s.put now x with
    | error e =>
      rw [hput] at h
      cases h
    | ok s₁ =>
      rw [hput] at h
      obtain ⟨rfl, rfl⟩ := Prod.mk.inj (Except.ok.inj h)
      exact .inl ⟨rfl, rfl, put_eq_ok hput⟩

theorem MemoryStore.find?_get (h : (s.get now id).1 = none) :
    (s.get now id).2.find? id = none := by
  rw [get] at h ⊢
  split at h
  · split at h
    · cases h
    · rename_i e he hlive
      simp only [hlive]
      exact (find?_erase id).trans (if_pos rfl)
  · rename_i he
    exact he

end Operations

namespace MemoryHost

/-- What a call does to a host, at a moment not before that of the host. -/
inductive Answers (h : MemoryHost) (now : Uptime) : StoreExchange → MemoryHost → Prop where
  | create {id : SessionId} (fresh : id ∉ h.used) :
      h.Answers now ⟨.create, .ok (.fresh id)⟩ ⟨(h.store.purge now).insert id
        ⟨.fresh id, now + 1000 * h.store.ttl⟩, now, id :: h.used⟩
  | get (id : SessionId) :
      h.Answers now ⟨.get id, .ok (h.store.get now id).1⟩ ⟨(h.store.get now id).2, now, h.used⟩
  | save {x : Session} (live : (h.store.live now x.id).isSome) :
      h.Answers now ⟨.save x, .ok ()⟩
        ⟨h.store.insert x.id ⟨x, now + 1000 * h.store.ttl⟩, now, h.used⟩
  | refuse {x : Session} (missing : h.store.live now x.id = none) :
      h.Answers now ⟨.save x, .error .sessionNotFound⟩ ⟨h.store, now, h.used⟩
  | invalidate (id : SessionId) :
      h.Answers now ⟨.invalidate id, .ok ()⟩ ⟨h.store.erase id, now, h.used⟩

theorem perform_answers {turn : MemoryTurn} {c : StoreCall} {h h' : MemoryHost} {r : c.Reply}
    (hperform : h.perform turn c = some (r, h')) :
    h.Answers (h.clock + turn.wait) ⟨c, r⟩ h' := by
  rw [perform] at hperform
  -- There was an answer, so the id was not in use and the clock could write the deadline.
  split at hperform
  · cases hperform
  rename_i hfresh
  split at hperform
  · cases hperform
  rename_i r' s' hrun
  obtain ⟨rfl, rfl⟩ := Prod.mk.inj (Option.some.inj hperform)
  cases c with
  | create =>
    have hupdate : ((MemoryStore.update fun s => s.create (h.clock + turn.wait) turn.fresh :
        StateT MemoryStore (Except ClockOverflow) Session).run h.store >>= fun p =>
          pure (.ok p.1, p.2)) = .ok (r', s') := hrun
    rw [MemoryStore.run_update] at hupdate
    cases hcreate : h.store.create (h.clock + turn.wait) turn.fresh with
    | error e =>
      rw [hcreate] at hupdate
      cases hupdate
    | ok p =>
      rw [hcreate] at hupdate
      obtain ⟨rfl, rfl⟩ := Prod.mk.inj (Except.ok.inj hupdate)
      obtain ⟨hfirst, hsecond⟩ := MemoryStore.create_eq_ok hcreate
      rw [if_pos rfl, hfirst, hsecond]
      exact .create fun hmem => hfresh ⟨rfl, hmem⟩
  | get id =>
    obtain ⟨rfl, rfl⟩ := Prod.mk.inj (Except.ok.inj hrun)
    exact .get id
  | save x =>
    have hsave : h.store.save (h.clock + turn.wait) x = .ok (r', s') :=
      (MemoryStore.run_update _ _).symm.trans hrun
    rcases MemoryStore.save_eq_ok hsave with ⟨hlive, rfl, rfl⟩ | ⟨hmissing, rfl, rfl⟩
    · exact .save hlive
    · exact .refuse hmissing
  | invalidate id =>
    obtain ⟨rfl, rfl⟩ := Prod.mk.inj (Except.ok.inj hrun)
    exact .invalidate id

/-! ### What the host keeps -/

section Keeps

variable {ι : Type} {start : SessionId → Option Principal} {h h' : MemoryHost} {now : Uptime}
  {e : StoreExchange} {log : List (ι × StoreExchange)}

theorem Answers.used (ha : h.Answers now e h') {id : SessionId} (hid : id ∈ h.used) :
    id ∈ h'.used := by
  cases ha with
  | create => exact List.mem_cons_of_mem _ hid
  | _ => exact hid

theorem Answers.sound (ha : h.Answers now e h') (hs : h.store.Sound) : h'.store.Sound := by
  cases ha with
  | create => exact (hs.purge now).insert rfl
  | get id => exact hs.get now id
  | save => exact hs.insert rfl
  | refuse => exact hs
  | invalidate id => exact hs.erase id

/-- An entry that is there after a call was written by it, or was there before. -/
theorem Answers.entries (ha : h.Answers now e h') (hs : h.store.Sound) {id : SessionId}
    {entry : MemoryEntry} (hentry : h'.store.find? id = some entry) :
    StoreExchange.written? e = some entry.session ∨ h.store.find? id = some entry ∧
      ∀ x, StoreExchange.written? e = some x → x.id ≠ id := by
  cases ha with
  | create =>
    rw [MemoryStore.find?_insert] at hentry
    split at hentry
    · obtain rfl := Option.some.inj hentry
      exact .inl rfl
    · rename_i hne
      rw [MemoryStore.find?_purge hs, MemoryStore.live_eq_some_iff] at hentry
      exact .inr ⟨hentry.1, fun x hx => Option.some.inj hx ▸ Ne.symm hne⟩
  | get id' =>
    -- A look-up writes nothing, but it may drop an entry that has expired.
    refine .inr ⟨?_, fun x hx => by cases hx⟩
    rcases MemoryStore.get_snd h.store now id' with hsame | ⟨hsame, -⟩
    · rwa [← hsame]
    · have herase := hsame ▸ hentry
      rw [MemoryStore.find?_erase] at herase
      split at herase
      · cases herase
      · exact herase
  | save =>
    rw [MemoryStore.find?_insert] at hentry
    split at hentry
    · obtain rfl := Option.some.inj hentry
      exact .inl rfl
    · rename_i hne
      exact .inr ⟨hentry, fun x hx => Option.some.inj hx ▸ Ne.symm hne⟩
  | refuse => exact .inr ⟨hentry, fun x hx => by cases hx⟩
  | invalidate id' =>
    rw [MemoryStore.find?_erase] at hentry
    split at hentry
    · cases hentry
    · exact .inr ⟨hentry, fun x hx => by cases hx⟩

/-- A call writes a session that is there, or one whose id is new. -/
theorem Answers.written (ha : h.Answers now e h') {x : Session}
    (hx : StoreExchange.written? e = some x) :
    (x.id ∉ h.used ∧ x.id ∈ h'.used) ∨ ∃ entry, h.store.find? x.id = some entry := by
  cases ha with
  | create hfresh =>
    obtain rfl := Option.some.inj hx
    exact .inl ⟨hfresh, List.mem_cons_self⟩
  | save hlive =>
    obtain rfl := Option.some.inj hx
    obtain ⟨entry, hentry⟩ := Option.isSome_iff_exists.1 hlive
    exact .inr ⟨entry, (MemoryStore.live_eq_some_iff.1 hentry).1⟩
  | get => cases hx
  | refuse => cases hx
  | invalidate => cases hx

theorem Answers.created {x : Session} (ha : h.Answers now ⟨.create, .ok x⟩ h') :
    x.id ∉ h.used ∧ x.id ∈ h'.used := by
  cases ha with
  | create hfresh => exact ⟨hfresh, List.mem_cons_self⟩

theorem Answers.get_eq {id : SessionId} {r : Except StoreError (Option Session)}
    (ha : h.Answers now ⟨.get id, r⟩ h') :
    r = .ok (h.store.get now id).1 ∧ h'.store = (h.store.get now id).2 := by
  cases ha with
  | get => exact ⟨rfl, rfl⟩

/-- A missing session whose id has been in use stays missing. -/
theorem Answers.missing (ha : h.Answers now e h') (hs : h.store.Sound) {id : SessionId}
    (hid : id ∈ h.used) (hnone : h.store.find? id = none) : h'.store.find? id = none := by
  rw [Option.eq_none_iff_forall_ne_some]
  intro entry hentry
  rcases ha.entries hs hentry with hwritten | ⟨hbefore, -⟩
  · -- Whatever was written was there before, or has a new id.
    have hwhere := ha.written hwritten
    rw [(ha.sound hs).id_eq id entry hentry] at hwhere
    rcases hwhere with ⟨hfresh, -⟩ | ⟨entry', hbefore⟩
    · exact hfresh hid
    · cases hnone.symm.trans hbefore
  · cases hnone.symm.trans hbefore

/-- The sessions on a host are those that the calls so far wrote last, and what a look-up found was
so at its time. No id was given out twice, and an id that was found missing stays so. -/
structure Keeps (start : SessionId → Option Principal) (h : MemoryHost)
    (log : List (ι × StoreExchange)) : Prop where
  sound : h.store.Sound
  used : ∀ {id entry}, h.store.find? id = some entry → id ∈ h.used
  stands : ∀ {id entry}, h.store.find? id = some entry →
    entry.session.principal = lastWritten id (start id) log
  created : ∀ {j x}, (j, ⟨.create, .ok x⟩) ∈ log → x.id ∈ h.used
  once : ∀ {j k x y}, (j, ⟨.create, .ok x⟩) ∈ log → (k, ⟨.create, .ok y⟩) ∈ log → x.id = y.id →
    j = k
  found : ∀ {before j id x after}, log = before ++ (j, ⟨.get id, .ok (some x)⟩) :: after →
    x = ⟨id, lastWritten id (start id) before⟩
  lost : ∀ {j id}, (j, ⟨.get id, .ok none⟩) ∈ log → id ∈ h.used ∧ h.store.find? id = none

theorem Keeps.begun (hs : h.store.Sound)
    (hused : ∀ {id entry}, h.store.find? id = some entry → id ∈ h.used) :
    h.Keeps (fun id => (h.store.find? id).bind fun e => e.session.principal)
      ([] : List (ι × StoreExchange)) where
  sound := hs
  used := hused
  stands := by
    intro id entry hentry
    rw [hentry]
    rfl
  created hx := by cases hx
  once hx := by cases hx
  found hlog := by simp at hlog
  lost hx := by cases hx

/-- A look-up finds what was written last. -/
theorem Keeps.found_now (hk : h.Keeps start log) {id : SessionId} {x : Session}
    (hx : (h.store.get now id).1 = some x) : x = ⟨id, lastWritten id (start id) log⟩ := by
  rw [MemoryStore.get_fst, Option.map_eq_some_iff] at hx
  obtain ⟨entry, hlive, rfl⟩ := hx
  have hentry := (MemoryStore.live_eq_some_iff.1 hlive).1
  rw [← hk.stands hentry, ← hk.sound.id_eq id entry hentry]

/-- Every call keeps this up, as long as only ids in use are looked up. -/
theorem Keeps.answers (hk : h.Keeps start log) (ha : h.Answers now e h') (i : ι)
    (hget : ∀ id, e.call = .get id → id ∈ h.used) : h'.Keeps start (log ++ [(i, e)]) where
  sound := ha.sound hk.sound
  used := by
    intro id entry hentry
    -- An entry that the call wrote was there before, or its id has just been put into use.
    rcases ha.entries hk.sound hentry with hwritten | ⟨hbefore, -⟩
    · rw [← (ha.sound hk.sound).id_eq id entry hentry]
      rcases ha.written hwritten with ⟨-, hused⟩ | ⟨entry', hbefore⟩
      · exact hused
      · exact ha.used (hk.used hbefore)
    · exact ha.used (hk.used hbefore)
  stands := by
    intro id entry hentry
    rcases ha.entries hk.sound hentry with hwritten | ⟨hbefore, hother⟩
    · obtain rfl := (ha.sound hk.sound).id_eq id entry hentry
      exact (lastWritten_concat hwritten).symm
    · rw [hk.stands hbefore, lastWritten_append]
      exact (lastWritten_eq_self (by simpa using hother)).symm
  created := by
    intro j x hx
    rcases List.mem_append.1 hx with hx | hx
    · exact ha.used (hk.created hx)
    · obtain ⟨rfl, rfl⟩ := Prod.mk.inj (List.mem_singleton.1 hx)
      exact ha.created.2
  once := by
    intro j k x y hx hy hid
    -- An id that was given out before is in use, so the new call cannot have given it out.
    rcases List.mem_append.1 hx with hx' | hx' <;> rcases List.mem_append.1 hy with hy' | hy'
    · exact hk.once hx' hy' hid
    · obtain ⟨-, rfl⟩ := Prod.mk.inj (List.mem_singleton.1 hy')
      exact absurd (hid ▸ hk.created hx') ha.created.1
    · obtain ⟨-, rfl⟩ := Prod.mk.inj (List.mem_singleton.1 hx')
      exact absurd (hid ▸ hk.created hy') ha.created.1
    · obtain ⟨rfl, -⟩ := Prod.mk.inj (List.mem_singleton.1 hx')
      exact (Prod.mk.inj (List.mem_singleton.1 hy')).1.symm
  found := by
    intro before j id x after hlog
    -- The look-up is the new call itself, or one of those before it.
    rcases List.eq_nil_or_concat after with rfl | ⟨after', last, rfl⟩
    · obtain ⟨rfl, hlast⟩ := List.append_inj' hlog rfl
      obtain ⟨rfl, rfl⟩ := Prod.mk.inj (List.singleton_inj.1 hlast)
      exact hk.found_now (Except.ok.inj ha.get_eq.1).symm
    · rw [List.concat_eq_append, ← List.cons_append, ← List.append_assoc] at hlog
      exact hk.found (List.append_inj' hlog rfl).1
  lost := by
    intro j id hid
    rcases List.mem_append.1 hid with hid | hid
    · obtain ⟨hused, hnone⟩ := hk.lost hid
      exact ⟨ha.used hused, ha.missing hk.sound hused hnone⟩
    · obtain ⟨rfl, rfl⟩ := Prod.mk.inj (List.mem_singleton.1 hid)
      obtain ⟨hnone, hstore⟩ := ha.get_eq
      refine ⟨ha.used (hget id rfl), ?_⟩
      rw [hstore]
      exact MemoryStore.find?_get (Except.ok.inj hnone).symm

end Keeps

end MemoryHost

end WebLogin
