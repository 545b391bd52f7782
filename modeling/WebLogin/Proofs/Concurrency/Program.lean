/-
Programs that make calls, and several of them running at once.

A `Program` is a computation taken apart into its single calls: it has ended with a value, or it
makes a call and goes on with the reply. Since code that uses a session store runs in a monad of the
caller's choice, it can be run as a program without a change.

A `Snapshot` is what several programs are in the middle of, with everything that happened so far
in the order in which it happened. A schedule says whose turn it is, and every call is answered at
one moment.

* `Along.bind` — what holds along a program that is put together from two;
* `Snapshot.step_cases` — what one turn does;
* `Snapshot.run_induction` — what every turn preserves, every schedule does;
* `Snapshot.step_along` — what holds along a program keeps holding while it runs.
-/
import Mathlib.Logic.Function.Basic

namespace WebLogin

/-- A computation that makes calls and is told a reply of the type that belongs to the call. -/
inductive Program (C : Type) (R : C → Type) (α : Type) where
  | done (a : α)
  | call (c : C) (next : R c → Program C R α)

/-- A call with its reply. -/
structure Exchange (C : Type) (R : C → Type) where
  call : C
  reply : R call

namespace Program

variable {C : Type} {R : C → Type} {α β : Type}

/-- Goes on with the value that a program ends with. -/
def bind (f : α → Program C R β) : Program C R α → Program C R β
  | done a => f a
  | call c next => call c fun r => (next r).bind f

instance : Monad (Program C R) where
  pure := done
  bind p f := p.bind f

/-- The program that makes one call. -/
def ask (c : C) : Program C R (R c) := call c done

/-! ### What holds along a program -/

section Along

variable {may : List (Exchange C R) → C → Prop} {fair : Exchange C R → Prop}
  {Q : α → List (Exchange C R) → Prop} {Q' : β → List (Exchange C R) → Prop}
  {t : List (Exchange C R)}

/-- After a history, a program makes only calls that it may make, and if it ends, its value
satisfies a postcondition with the history up to there. The replies are only assumed to be fair. -/
def Along (may : List (Exchange C R) → C → Prop) (fair : Exchange C R → Prop)
    (Q : α → List (Exchange C R) → Prop) : Program C R α → List (Exchange C R) → Prop
  | done a, t => Q a t
  | call c next, t => may t c ∧ ∀ r, fair ⟨c, r⟩ → (next r).Along may fair Q (t ++ [⟨c, r⟩])

namespace Along

theorem done {a : α} (h : Q a t) : (pure a : Program C R α).Along may fair Q t := h

theorem ask {c : C} {f : R c → Program C R β} (hc : may t c)
    (hf : ∀ r, fair ⟨c, r⟩ → (f r).Along may fair Q' (t ++ [⟨c, r⟩])) :
    (Program.ask c >>= f).Along may fair Q' t := ⟨hc, hf⟩

theorem bind {p : Program C R α} {f : α → Program C R β} (hp : p.Along may fair Q t)
    (hf : ∀ a t', Q a t' → (f a).Along may fair Q' t') : (p >>= f).Along may fair Q' t := by
  -- The history grows with every call of the first program, so it stays general.
  induction p generalizing t with
  | done a => exact hf a t hp
  | call c next ih => exact ⟨hp.1, fun r hr => ih r (hp.2 r hr)⟩

/-- What was shown along a program in two parts holds together. -/
theorem and {may' : List (Exchange C R) → C → Prop} {P : α → List (Exchange C R) → Prop}
    {p : Program C R α} (hp : p.Along may fair Q t) (hp' : p.Along may' fair P t) :
    p.Along (fun t c => may t c ∧ may' t c) fair (fun a t => Q a t ∧ P a t) t := by
  induction p generalizing t with
  | done a => exact ⟨hp, hp'⟩
  | call c next ih => exact ⟨⟨hp.1, hp'.1⟩, fun r hr => ih r (hp.2 r hr) (hp'.2 r hr)⟩

theorem mono {may' : List (Exchange C R) → C → Prop} {P : α → List (Exchange C R) → Prop}
    {p : Program C R α} (hp : p.Along may fair Q t) (hmay : ∀ t c, may t c → may' t c)
    (hQ : ∀ a t, Q a t → P a t) : p.Along may' fair P t := by
  induction p generalizing t with
  | done a => exact hQ a t hp
  | call c next ih => exact ⟨hmay t c hp.1, fun r hr => ih r (hp.2 r hr)⟩

/-- The history of a program only grows. -/
theorem grows {p : Program C R α} (hp : p.Along may fair Q t) :
    p.Along may fair (fun a t' => Q a t' ∧ ∃ later, t' = t ++ later) t := by
  induction p generalizing t with
  | done a => exact ⟨hp, [], (List.append_nil t).symm⟩
  | call c next ih =>
    refine ⟨hp.1, fun r hr => (ih r (hp.2 r hr)).mono (fun _ _ h => h) ?_⟩
    rintro a t' ⟨hQ, later, rfl⟩
    exact ⟨hQ, ⟨c, r⟩ :: later, List.append_assoc ..⟩

end Along

end Along

end Program

/-! ### Several programs at once -/

/-- What some programs are in the middle of. -/
structure Snapshot (C : Type) (R : C → Type) (ι α σ : Type) where
  /-- The state of the host that answers the calls. -/
  host : σ
  /-- What is left of each program. -/
  programs : ι → Program C R α
  /-- Who has made which call, and the replies. -/
  log : List (ι × Exchange C R)

namespace Snapshot

variable {C : Type} {R : C → Type} {ι α σ τ : Type} [DecidableEq ι]

/-- The history of one program. -/
def own (i : ι) (log : List (ι × Exchange C R)) : List (Exchange C R) :=
  log.filterMap fun e => if e.1 = i then some e.2 else none

theorem own_append (i : ι) (log log' : List (ι × Exchange C R)) :
    own i (log ++ log') = own i log ++ own i log' := List.filterMap_append ..

theorem own_singleton (i : ι) (e : Exchange C R) : own i [(i, e)] = [e] := by
  simp [own]

theorem own_singleton_of_ne {i j : ι} (h : j ≠ i) (e : Exchange C R) : own i [(j, e)] = [] := by
  simp [own, h]

theorem mem_own {i : ι} {log : List (ι × Exchange C R)} {e : Exchange C R} :
    e ∈ own i log ↔ (i, e) ∈ log := by
  rw [own, List.mem_filterMap]
  constructor
  · rintro ⟨⟨j, e'⟩, he, hj⟩
    split at hj
    · rename_i hji
      obtain rfl : j = i := hji
      rwa [← Option.some.inj hj]
    · cases hj
  · intro he
    exact ⟨(i, e), he, if_pos rfl⟩

/-- An exchange in the history of a program splits the history of all. -/
theorem exists_of_own {i : ι} {log : List (ι × Exchange C R)} {t t' : List (Exchange C R)}
    {e : Exchange C R} (h : own i log = t ++ e :: t') :
    ∃ before after, log = before ++ (i, e) :: after ∧ own i before = t ∧ own i after = t' := by
  -- Between the exchanges before it and itself there are only those of others.
  obtain ⟨before, rest, rfl, hbefore, hrest⟩ := List.filterMap_eq_append_iff.1 h
  obtain ⟨skipped, ⟨j, e'⟩, after, rfl, hskipped, hj, hafter⟩ := List.filterMap_eq_cons_iff.1 hrest
  split at hj
  · rename_i hji
    obtain rfl : j = i := hji
    obtain rfl : e' = e := Option.some.inj hj
    refine ⟨before ++ skipped, after, (List.append_assoc ..).symm, ?_, hafter⟩
    have hnone : own j skipped = [] := List.filterMap_eq_nil_iff.2 hskipped
    rw [own_append, hnone, List.append_nil]
    exact hbefore
  · cases hj

section Run

variable (perform : τ → (c : C) → σ → Option (R c × σ))

/-- A program makes its next call, if it has not ended and the host answers. -/
def step (s : Snapshot C R ι α σ) (i : ι) (turn : τ) : Option (Snapshot C R ι α σ) :=
  match s.programs i with
  | .done _ => none
  | .call c next => (perform turn c s.host).map fun (r, host) =>
      ⟨host, Function.update s.programs i (next r), s.log ++ [(i, ⟨c, r⟩)]⟩

/-- The programs take turns. -/
def run : List (ι × τ) → Snapshot C R ι α σ → Option (Snapshot C R ι α σ)
  | [], s => some s
  | (i, turn) :: schedule, s => (s.step perform i turn).bind (run schedule)

variable {perform} {s s' : Snapshot C R ι α σ} {i : ι} {turn : τ}

theorem step_eq {c : C} {next : R c → Program C R α} {r : R c} {host : σ}
    (hprogram : s.programs i = .call c next) (hperform : perform turn c s.host = some (r, host)) :
    s.step perform i turn =
      some ⟨host, Function.update s.programs i (next r), s.log ++ [(i, ⟨c, r⟩)]⟩ := by
  rw [step, hprogram]
  dsimp only
  rw [hperform]
  rfl

theorem step_cases (h : s.step perform i turn = some s') :
    ∃ c next r host, s.programs i = .call c next ∧ perform turn c s.host = some (r, host) ∧
      s' = ⟨host, Function.update s.programs i (next r), s.log ++ [(i, ⟨c, r⟩)]⟩ := by
  rw [step] at h
  split at h
  · cases h
  · rename_i c next hprogram
    obtain ⟨⟨r, host⟩, hperform, rfl⟩ := Option.map_eq_some_iff.1 h
    exact ⟨c, next, r, host, hprogram, hperform, rfl⟩

theorem run_singleton : s.run perform [(i, turn)] = s.step perform i turn :=
  Option.bind_fun_some _

/-- What every turn preserves holds after every schedule. -/
theorem run_induction {P : Snapshot C R ι α σ → Prop}
    (hstep : ∀ s i turn s', P s → s.step perform i turn = some s' → P s')
    {schedule : List (ι × τ)} (hs : P s) (hrun : s.run perform schedule = some s') : P s' := by
  induction schedule generalizing s with
  | nil => exact Option.some.inj hrun ▸ hs
  | cons turn schedule ih =>
    rw [run, Option.bind_eq_some_iff] at hrun
    obtain ⟨s₁, hfirst, hrest⟩ := hrun
    exact ih (hstep s _ _ s₁ hs hfirst) hrest

/-- What holds along each program still does after a turn whose reply is fair. -/
theorem step_along {may : ι → List (Exchange C R) → C → Prop} {fair : Exchange C R → Prop}
    {Q : ι → α → List (Exchange C R) → Prop} {c : C} {next : R c → Program C R α} {r : R c}
    (h : ∀ j, (s.programs j).Along (may j) fair (Q j) (own j s.log))
    (hprogram : s.programs i = .call c next) (hfair : fair ⟨c, r⟩) (j : ι) :
    (Function.update s.programs i (next r) j).Along (may j) fair (Q j)
      (own j (s.log ++ [(i, ⟨c, r⟩)])) := by
  rw [own_append]
  -- The program whose turn it was has moved on by one call, and the others have not moved.
  by_cases hj : j = i
  · subst hj
    have hcall := h j
    rw [hprogram] at hcall
    rw [Function.update_self, own_singleton]
    exact hcall.2 r hfair
  · rw [Function.update_of_ne hj, own_singleton_of_ne (Ne.symm hj), List.append_nil]
    exact h j

end Run

end Snapshot

end WebLogin
