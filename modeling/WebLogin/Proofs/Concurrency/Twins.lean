/-
Programs that do the same under other names.

A `Translation` gives every call another call, and every reply to the first a reply to the second.
Two programs are twins if the second always makes the translation of the call that the first one
makes, whatever both are told, and if the first one makes only calls that it may make.

* `Program.Twin.bind` — twins that are put together from twins;
* `Program.Twin.along` — what holds along the first of two twins.
-/
import WebLogin.Proofs.Concurrency.Program

namespace WebLogin

/-- Other names for calls and for their replies. -/
structure Translation (C : Type) (R : C → Type) where
  call : C → C
  reply : (c : C) → R c → R (call c)

namespace Translation

variable {C : Type} {R : C → Type}

/-- The translation of a call with its reply. -/
def exchange (tr : Translation C R) (e : Exchange C R) : Exchange C R :=
  ⟨tr.call e.call, tr.reply e.call e.reply⟩

end Translation

namespace Program

variable {C : Type} {R : C → Type} {α β γ δ : Type} {tr : Translation C R}
  {may : List (Exchange C R) → C → Prop} {fair : Exchange C R → Prop}
  {Q : α → β → List (Exchange C R) → Prop} {Q' : γ → δ → List (Exchange C R) → Prop}
  {t : List (Exchange C R)}

/-- After a history, the second of two programs does what the first one does, under other names.
The first one makes only calls that it may make, and if it ends, both values satisfy a
postcondition with the history up to there. The replies are only assumed to be fair. -/
inductive Twin (tr : Translation C R) (may : List (Exchange C R) → C → Prop)
    (fair : Exchange C R → Prop) (Q : α → β → List (Exchange C R) → Prop) :
    Program C R α → Program C R β → List (Exchange C R) → Prop where
  | done {a : α} {b : β} {t : List (Exchange C R)} :
      Q a b t → Twin tr may fair Q (.done a) (.done b) t
  | call {c : C} {next : R c → Program C R α} {next' : R (tr.call c) → Program C R β}
      {t : List (Exchange C R)} : may t c →
      (∀ r, fair ⟨c, r⟩ → Twin tr may fair Q (next r) (next' (tr.reply c r)) (t ++ [⟨c, r⟩])) →
        Twin tr may fair Q (.call c next) (.call (tr.call c) next') t

namespace Twin

theorem pure {a : α} {b : β} (h : Q a b t) :
    Twin tr may fair Q (Pure.pure a : Program C R α) (Pure.pure b : Program C R β) t := .done h

theorem ask {c : C} {f : R c → Program C R γ} {f' : R (tr.call c) → Program C R δ} (hc : may t c)
    (hf : ∀ r, fair ⟨c, r⟩ → Twin tr may fair Q' (f r) (f' (tr.reply c r)) (t ++ [⟨c, r⟩])) :
    Twin tr may fair Q' (Program.ask c >>= f) (Program.ask (tr.call c) >>= f') t := .call hc hf

theorem bind {p : Program C R α} {p' : Program C R β} {f : α → Program C R γ}
    {f' : β → Program C R δ} (hp : Twin tr may fair Q p p' t)
    (hf : ∀ a b t, Q a b t → Twin tr may fair Q' (f a) (f' b) t) :
    Twin tr may fair Q' (p >>= f) (p' >>= f') t := by
  induction hp with
  | done h => exact hf _ _ _ h
  | call hmay _ ih => exact .call hmay ih

theorem along {P : α → List (Exchange C R) → Prop} {p : Program C R α} {p' : Program C R β}
    (hp : Twin tr may fair Q p p' t) (hP : ∀ a b t, Q a b t → P a t) : p.Along may fair P t := by
  induction hp with
  | done h => exact hP _ _ _ h
  | call hmay _ ih => exact ⟨hmay, ih⟩

/-- The second of two twins makes the translation of the call that the first one makes. -/
theorem of_call {c : C} {next : R c → Program C R α} {p' : Program C R β}
    (hp : Twin tr may fair Q (.call c next) p' t) :
    may t c ∧ ∃ next', p' = .call (tr.call c) next' ∧
      ∀ r, fair ⟨c, r⟩ → Twin tr may fair Q (next r) (next' (tr.reply c r)) (t ++ [⟨c, r⟩]) := by
  cases hp with
  | call hmay hnext => exact ⟨hmay, _, rfl, hnext⟩

end Twin

end Program

end WebLogin
