/-
What a reader gives is within its bounds.

A value may be read from texts that nobody wrote with this program, and then the only thing known of
it is what the reader let through. `Ensures r Q` says that whatever `r` gives has `Q`. For a record
it is enough that each field keeps what holds of the fields read so far, since an object gives them
in any order and a list in their own.

* `ofText_eq_ok_iff`, `ofText_stringAs_eq_ok_iff` — when a whole text is read as a value;
* `natural_ensures` — a natural number that is read has 64 bits;
* `record_ensures` — what is kept from field to field holds of the record.
-/
import WebLogin.Proofs.Json.Strings
import Mathlib.Tactic.SplitIfs

namespace WebLogin

namespace Json

variable {α β : Type}

/-! ### Readers one behind the other -/

/-- If two readers take a text, the second one starts where the first one left it. -/
theorem Takes.of_bind {x : Reader α} {f : α → Reader β} {text rest : List UInt8} {b : β}
    (h : Takes (x >>= f) text b rest) : ∃ a mid, Takes x text a mid ∧ Takes (f a) mid b rest := by
  change EStateM.bind x f text = _ at h
  rw [EStateM.bind] at h
  cases hx : x text with
  | ok a mid =>
    rw [hx] at h
    exact ⟨a, mid, hx, h⟩
  | error e mid =>
    rw [hx] at h
    cases h

/-- A text is read as a value if the reader takes it from the front and leaves only blanks. -/
theorem ofText_eq_ok_iff {r : Reader α} {text : String} {a : α} :
    ofText r text = .ok a ↔
      ∃ rest, Takes r (Utf8.bytes text) a rest ∧ rest.dropWhile isBlank = [] := by
  rw [ofText, ofBytes]
  constructor
  · intro h
    cases hrun : r.run (Utf8.bytes text) with
    | ok b rest =>
      rw [hrun] at h
      dsimp only at h
      split_ifs at h with hblank
      cases h
      exact ⟨rest, hrun, List.isEmpty_iff.1 hblank⟩
    | error e rest =>
      rw [hrun] at h
      cases h
  · rintro ⟨rest, htakes, hblank⟩
    have hrun : r.run (Utf8.bytes text) = .ok a rest := htakes
    rw [hrun]
    dsimp only
    rw [hblank]
    rfl

/-- A text is read as what a string stands for if it is such a string. -/
theorem ofText_stringAs_eq_ok_iff {decode? : String → Option α} {text : String} {a : α} :
    ofText (stringAs decode?) text = .ok a ↔
      ∃ s, ofText string text = .ok s ∧ decode? s = some a := by
  constructor
  · intro h
    obtain ⟨rest, htakes, hblank⟩ := ofText_eq_ok_iff.1 h
    obtain ⟨s, mid, hstring, hdecode⟩ := htakes.of_bind
    cases hs : decode? s with
    | none =>
      rw [hs] at hdecode
      cases hdecode
    | some b =>
      rw [hs] at hdecode
      cases hdecode
      exact ⟨s, ofText_eq_ok_iff.2 ⟨rest, hstring, hblank⟩, hs⟩
  · rintro ⟨s, hs, hdecode⟩
    obtain ⟨rest, hstring, hblank⟩ := ofText_eq_ok_iff.1 hs
    refine ofText_eq_ok_iff.2 ⟨rest, hstring.bind ?_, hblank⟩
    rw [hdecode]
    exact .pure a rest

/-! ### What every value has that is read -/

/-- Whatever a reader gives has a property. -/
def Ensures (r : Reader α) (Q : α → Prop) : Prop :=
  ∀ text a rest, Takes r text a rest → Q a

section Ensures

variable {P Q : α → Prop} {R : β → Prop} {x : Reader α} {f : α → Reader β}

theorem Ensures.pure {a : α} (h : Q a) : Ensures (pure a) Q := by
  intro text b rest htakes
  cases htakes
  exact h

/-- A reader that fails gives nothing, so there is nothing to show. -/
theorem Ensures.fail (e : Fault) : Ensures (fail e) Q := by
  intro text a rest htakes
  cases htakes

theorem Ensures.bind (hx : Ensures x P) (hf : ∀ a, P a → Ensures (f a) R) :
    Ensures (x >>= f) R := by
  intro text b rest htakes
  obtain ⟨a, mid, htakes, hrest⟩ := htakes.of_bind
  exact hf a (hx text a mid htakes) mid b rest hrest

/-- What is read last decides. -/
theorem Ensures.last (hf : ∀ a, Ensures (f a) R) : Ensures (x >>= f) R :=
  Ensures.bind (P := fun _ => True) (fun _ _ _ _ => trivial) fun a _ => hf a

theorem reject_ensures : Ensures (reject : Reader α) Q := by
  refine .last fun next => ?_
  cases next with
  | none => exact .fail _
  | some b =>
    dsimp only
    split_ifs
    · exact .last fun _ => .last fun _ => .fail _
    · exact .last fun _ => .last fun _ => .fail _
    · exact .last fun _ => .last fun _ => .fail _
    · exact .last fun _ => .fail _
    · exact .last fun _ => .last fun _ => .fail _
    · exact .fail _
    · exact .fail _

theorem enclosed_ensures {c : Char} (hx : Ensures x Q) : Ensures (enclosed c x) Q := by
  have hattempt : Ensures (attempt x) fun r => ∀ a, r = .ok a → Q a := by
    intro text r rest htakes a hr
    rw [Takes, attempt] at htakes
    cases hrun : x text with
    | ok b mid =>
      rw [hrun] at htakes
      cases htakes
      cases hr
      exact hx text a rest hrun
    | error e mid =>
      rw [hrun] at htakes
      cases htakes
      cases hr
  -- A value comes out only if both the contents and the closing bracket were read.
  refine hattempt.bind fun r hr => .last fun close => ?_
  cases r with
  | ok a =>
    cases close with
    | ok u => exact .pure (hr a rfl)
    | error e => exact .fail e
  | error e => exact .fail e

/-- A whole text is read by the reader as its front is. -/
theorem Ensures.of_ofText (hx : Ensures x Q) {text : String} {a : α} (h : ofText x text = .ok a) :
    Q a := by
  obtain ⟨rest, htakes, -⟩ := ofText_eq_ok_iff.1 h
  exact hx (Utf8.bytes text) a rest htakes

end Ensures

/-! ### Numbers -/

theorem number_ensures : Ensures number fun x => ∀ n, x = .nat n → n < limit64 := by
  refine .last fun negative => .last fun t => ?_
  cases hvalue : t.value? negative with
  | none => exact .fail _
  | some x =>
    refine .pure fun n hx => ?_
    subst hx
    -- A number is a natural one only in the first of the three cases of its value.
    simp only [Numeral.value?] at hvalue
    split_ifs at hvalue with hinteger hfits hbelow
    · cases hvalue
      simp at hfits
      exact hfits.2
    all_goals simp [Option.map_eq_some_iff] at hvalue

theorem natural_ensures : Ensures natural fun n => n < limit64 := by
  refine .last fun next => ?_
  cases next with
  | none => exact .fail _
  | some b =>
    dsimp only
    split_ifs
    · refine number_ensures.bind fun x hx => ?_
      cases x with
      | nat n => exact .pure (hx n rfl)
      | negative n => exact .fail _
      | binary x => exact .fail _
    · exact reject_ensures

/-! ### Records -/

section Records

variable {σ : Type} {fields : List (Field σ)} {inv : σ → Prop}

theorem objectFields_ensures (hread : ∀ f ∈ fields, ∀ s, inv s → Ensures (f.read s) inv)
    (fuel : Nat) (first : Bool) {s : σ} (hs : inv s) :
    Ensures (objectFields fields fuel first s) inv := by
  induction fuel generalizing first s with
  | zero => exact .fail _
  | succ fuel ih =>
    refine .last fun more => ?_
    cases more with
    | false => exact .pure hs
    | true =>
      refine .last fun key => ?_
      -- A field that is not wanted leaves the state, one that is wanted keeps the invariant.
      cases hfind : fields.find? (·.name == key) with
      | none => exact .last fun _ => .last fun _ => ih false hs
      | some f =>
        dsimp only
        split_ifs
        · exact .fail _
        · exact .last fun _ =>
            (hread f (List.mem_of_find?_eq_some hfind) s hs).bind fun s' hs' => ih false hs'

theorem listFields_ensures (hread : ∀ f ∈ fields, ∀ s, inv s → Ensures (f.read s) inv)
    (first : Bool) {s : σ} (hs : inv s) : Ensures (listFields fields first s) inv := by
  induction fields generalizing first s with
  | nil => exact .pure hs
  | cons f fields ih =>
    obtain ⟨hf, hfields⟩ := List.forall_mem_cons.1 hread
    refine .last fun more => ?_
    cases more with
    | false => exact .fail _
    | true => exact (hf s hs).bind fun s' hs' => ih hfields false hs'

theorem record_ensures {start : σ} {finish : σ → Option α} {Q : α → Prop} (hstart : inv start)
    (hread : ∀ f ∈ fields, ∀ s, inv s → Ensures (f.read s) inv)
    (hfinish : ∀ s a, inv s → finish s = some a → Q a) :
    Ensures (record fields start finish) Q := by
  -- Both forms of a record end alike, with what the fields give together.
  have hcomplete {complete : σ → Reader α}
      (hsome : ∀ s a, finish s = some a → complete s = pure a)
      (hnone : ∀ s, finish s = none → complete s = fail .mismatch) (s : σ) (hs : inv s) :
      Ensures (complete s) Q := by
    cases ha : finish s with
    | none =>
      rw [hnone s ha]
      exact .fail _
    | some a =>
      rw [hsome s a ha]
      exact .pure (hfinish s a hs ha)
  refine .last fun next => ?_
  cases next with
  | none => exact .fail _
  | some b =>
    dsimp only
    split_ifs
    · refine .last fun _ => enclosed_ensures ((listFields_ensures hread true hstart).bind ?_)
      exact hcomplete (fun s a ha => by simp only [ha]) fun s ha => by simp only [ha]
    · refine .last fun _ => enclosed_ensures
        (.last fun text => (objectFields_ensures hread _ true hstart).bind ?_)
      exact hcomplete (fun s a ha => by simp only [ha]) fun s ha => by simp only [ha]
    · exact reject_ensures

end Records

end Json

end WebLogin
