/-
What is written as JSON is read as a value of any form.

A reader that knows nothing of the records of this library finds in a written text the strings,
truth values, lists and objects that were written, with the fields of an object in their order.

* `isValue_quote`, `isValue_bool`, `isValue_printList`, `isValue_printObject` — one form each;
* `ofText_value` — a whole text.
-/
import WebLogin.Json.Value
import WebLogin.Proofs.Codec

namespace WebLogin

namespace Json

/-- A text that stands for a value whose lists and objects are nested at most so deep. -/
def IsValue (depth : Nat) (text : String) (v : Value) : Prop := IsElement (valueWithin depth) text v

variable {depth : Nat}

theorem ofText_value {text : String} {v : Value} (h : IsValue maxDepth text v) :
    ofText value text = .ok v :=
  ofText_of_takes h.2

/-- Whatever the depth, a value starts in the same way. -/
theorem valueWithin_eq (depth : Nat) :
    ∃ list object, valueWithin depth = valueWith list object := by
  cases depth with
  | zero => exact ⟨_, _, rfl⟩
  | succ depth => exact ⟨_, _, rfl⟩

theorem isValue_quote (s : String) : IsValue depth (quote s) (.string s) := by
  refine ⟨⟨byte '"', _, bytes_quote s, by decide, by decide⟩, fun rest => ?_⟩
  obtain ⟨list, object, heq⟩ := valueWithin_eq depth
  rw [heq, bytes_quote, List.cons_append, List.append_assoc]
  refine (peekToken?_takes (by decide)).bind ?_
  exact (skip_takes _).bind ((stringBody_takes s rest).bind (.pure _ _))

theorem literal_takes (cs : List Char) (rest : List UInt8) :
    Takes (literal cs) (cs.map byte ++ rest) () rest := by
  induction cs with
  | nil => exact .pure _ _
  | cons c cs ih =>
    refine (next_takes _ (byte c)).bind ?_
    rw [if_pos rfl]
    exact ih

/-- The reader of values goes by the first letter of a literal name, and takes the others. -/
theorem isValue_bool (b : Bool) : IsValue depth (toString b) (.bool b) := by
  obtain ⟨list, object, heq⟩ := valueWithin_eq depth
  rw [IsValue, IsElement, heq, Utf8.bytes_eq_flatMap]
  cases b with
  | false =>
    refine ⟨⟨byte 'f', _, rfl, by decide, by decide⟩, fun rest => ?_⟩
    refine (peekToken?_takes (by decide)).bind ((skip_takes _).bind ?_)
    exact (literal_takes "alse".toList rest).bind (.pure _ _)
  | true =>
    refine ⟨⟨byte 't', _, rfl, by decide, by decide⟩, fun rest => ?_⟩
    refine (peekToken?_takes (by decide)).bind ((skip_takes _).bind ?_)
    exact (literal_takes "rue".toList rest).bind (.pure _ _)

theorem isValue_printList {texts : List String} {values : List Value}
    (h : List.Forall₂ (IsValue depth) texts values) :
    IsValue (depth + 1) (printList texts) (.list values) := by
  refine ⟨⟨byte '[', _, bytes_printList texts, by decide, by decide⟩, fun rest => ?_⟩
  rw [bytes_printList, List.cons_append, List.append_assoc]
  refine (peekToken?_takes (by decide)).bind ?_
  exact (skip_takes _).bind ((listRest_takes h rest).bind (.pure _ _))

/-! ### Objects -/

/-- A written field has the name of a field, and its text stands for the value. -/
def IsField (depth : Nat) (written : String × String) (field : String × Value) : Prop :=
  written.1 = field.1 ∧ IsValue depth written.2 field.2

theorem isField_quote (name s : String) : IsField depth (name, quote s) (name, .string s) :=
  ⟨rfl, isValue_quote s⟩

variable {text rest rest' : List UInt8} {written : List (String × String)}
  {fields : List (String × Value)}

/-- One field is taken, and the fields behind it are taken with that one done. -/
theorem valueFields_cons {fuel : Nat} {first : Bool} {w : String × String} {f : String × Value}
    {done : List (String × Value)}
    (hfirst : Takes (hasField first) text true (Utf8.bytes (fieldText w) ++ rest))
    (hfield : IsField depth w f)
    (h : Takes (valueFields (valueWithin depth) fuel false (f :: done)) rest fields rest') :
    Takes (valueFields (valueWithin depth) (fuel + 1) first done) text fields rest' := by
  have hcolon : Utf8.bytes ":" = [byte ':'] := Utf8.bytes_singleton ':'
  rw [fieldText, Utf8.bytes_append, Utf8.bytes_append, hcolon, List.append_assoc,
    List.append_assoc, hfield.1] at hfirst
  refine hfirst.bind ((string_takes f.1 _).bind ?_)
  exact colon_takes.bind ((hfield.2.2 rest).bind h)

/-- The fields after some that are done are taken one behind the other. -/
theorem valueFields_takes (h : List.Forall₂ (IsField depth) written fields) {fuel : Nat}
    (hfuel : written.length < fuel) (done : List (String × Value)) :
    Takes (valueFields (valueWithin depth) fuel false done)
      (continued (written.map fieldText) ++ byte '\x7d' :: rest) (done.reverse ++ fields)
      (byte '\x7d' :: rest) := by
  -- Field by field: each uses up fuel and joins those that are done, in reverse.
  induction h generalizing fuel done with
  | nil =>
    obtain ⟨fuel, rfl⟩ := Nat.exists_eq_add_of_lt hfuel
    rw [List.append_nil]
    exact (hasField_end false).bind (.pure _ _)
  | @cons w f written fields hone _ ih =>
    obtain ⟨fuel, rfl⟩ := Nat.exists_eq_add_one_of_ne_zero (Nat.ne_of_gt (Nat.zero_lt_of_lt hfuel))
    have hrest := ih (Nat.lt_of_succ_lt_succ hfuel) (f :: done)
    rw [List.reverse_cons, List.append_assoc] at hrest
    exact valueFields_cons (hasField_continued w written) hone hrest

theorem valueFields_start (h : List.Forall₂ (IsField depth) written fields) {fuel : Nat}
    (hfuel : written.length < fuel) :
    Takes (valueFields (valueWithin depth) fuel true [])
      (Utf8.bytes (",".intercalate (written.map fieldText)) ++ byte '\x7d' :: rest) fields
      (byte '\x7d' :: rest) := by
  obtain ⟨fuel, rfl⟩ := Nat.exists_eq_add_one_of_ne_zero (Nat.ne_of_gt (Nat.zero_lt_of_lt hfuel))
  cases h with
  | nil =>
    rw [List.map_nil, bytes_intercalate_nil]
    exact (hasField_end true).bind (.pure _ _)
  | @cons w f written fields hone h =>
    exact valueFields_cons (hasField_start w written) hone
      (valueFields_takes h (Nat.lt_of_succ_lt_succ hfuel) [f])

theorem isValue_printObject (h : List.Forall₂ (IsField depth) written fields) :
    IsValue (depth + 1) (printObject written) (.object fields) := by
  refine ⟨⟨byte '\x7b', _, bytes_printObject written, by decide, by decide⟩, fun rest => ?_⟩
  rw [bytes_printObject, List.cons_append, List.append_assoc]
  refine (peekToken?_takes (by decide)).bind ((skip_takes _).bind ?_)
  refine (enclosed_takes (by decide) ?_).bind (.pure _ _)
  exact Takes.bind (rfl : Takes get _ _ _) (valueFields_start h (length_lt_fields written rest))

end Json

end WebLogin
