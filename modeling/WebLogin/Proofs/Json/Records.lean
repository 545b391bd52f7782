/-
JSON lists and objects can be read back.

Both are written as a bracket, the parts with commas between them, and the other bracket. So each
part but the first stands behind a comma, and a reader that takes every part takes the whole.

* `list_takes` — a written list is read back if each element is;
* `record_takes` — a written object is read as the record that its fields fill.
-/
import WebLogin.Proofs.Json.Numbers
import Mathlib.Data.List.Forall2

namespace WebLogin

namespace Json

variable {α : Type} {a : α} {text rest : List UInt8}

/-- The bytes of some texts, each behind a comma. -/
def continued (texts : List String) : List UInt8 :=
  texts.flatMap fun t => byte ',' :: Utf8.bytes t

theorem bytes_intercalate (t : String) (texts : List String) :
    Utf8.bytes (",".intercalate (t :: texts)) = Utf8.bytes t ++ continued texts := by
  induction texts generalizing t with
  | nil => rw [String.intercalate_singleton, continued, List.flatMap_nil, List.append_nil]
  | cons u texts ih =>
    have hcomma : Utf8.bytes "," = [byte ','] := Utf8.bytes_singleton ','
    rw [String.intercalate_cons_cons, Utf8.bytes_append, Utf8.bytes_append, ih, hcomma,
      List.append_assoc]
    rfl

theorem bytes_intercalate_nil : Utf8.bytes (",".intercalate []) = [] := by
  rw [String.intercalate_nil, Utf8.bytes_eq_flatMap]
  rfl

theorem length_le_bytes_intercalate (texts : List String) :
    texts.length ≤ (Utf8.bytes (",".intercalate texts)).length + 1 := by
  have hcontinued (texts : List String) : texts.length ≤ (continued texts).length := by
    induction texts with
    | nil => exact Nat.le_refl 0
    | cons t texts ih =>
      rw [continued] at ih ⊢
      rw [List.flatMap_cons, List.length_append, List.length_cons, List.length_cons]
      omega
  cases texts with
  | nil => exact Nat.zero_le _
  | cons t texts =>
    rw [bytes_intercalate, List.length_append, List.length_cons]
    have := hcontinued texts
    omega

/-! ### Brackets -/

theorem attempt_takes {value : Reader α} (h : Takes value text a rest) :
    Takes (attempt value) text (.ok a) rest := by
  rw [Takes, attempt, h]

theorem closing_takes {c : Char} (hc : isBlank (byte c) = false) :
    Takes (closing c) (byte c :: rest) () rest := by
  refine (peekToken?_takes hc).bind ?_
  show Takes (if byte c = byte c then skip else _) _ () rest
  rw [if_pos rfl]
  exact skip_takes _

theorem enclosed_takes {c : Char} {content : Reader α} (hc : isBlank (byte c) = false)
    (h : Takes content text a (byte c :: rest)) : Takes (enclosed c content) text a rest :=
  (attempt_takes h).bind ((attempt_takes (closing_takes hc)).bind (.pure _ _))

theorem colon_takes : Takes colon (byte ':' :: rest) () rest := by
  refine (peekToken?_takes (by decide)).bind ?_
  exact skip_takes _

/-! ### Lists -/

/-- A text that a reader takes as an element of a list, whatever follows it. -/
def IsElement (element : Reader α) (text : String) (a : α) : Prop :=
  (∃ b bs, Utf8.bytes text = b :: bs ∧ isBlank b = false ∧ b ≠ byte ']') ∧
    ∀ rest, Takes element (Utf8.bytes text ++ rest) a rest

theorem hasElement_end (first : Bool) :
    Takes (hasElement first) (byte ']' :: rest) false (byte ']' :: rest) := by
  refine (peekToken?_takes (by decide)).bind ?_
  exact .pure _ _

theorem hasElement_first {b : UInt8} (hb : isBlank b = false) (hne : b ≠ byte ']')
    (rest : List UInt8) :
    Takes (hasElement true) (b :: rest) true (b :: rest) := by
  refine (peekToken?_takes hb).bind ?_
  show Takes (if b = byte ']' then _ else _) _ true _
  rw [if_neg hne]
  exact .pure _ _

theorem hasElement_next {b : UInt8} (hb : isBlank b = false) (hne : b ≠ byte ']')
    (rest : List UInt8) :
    Takes (hasElement false) (byte ',' :: b :: rest) true (b :: rest) := by
  refine (peekToken?_takes (by decide)).bind ?_
  refine (skip_takes _).bind ((peekToken?_takes hb).bind ?_)
  show Takes (if b = byte ']' then _ else _) _ true _
  rw [if_neg hne]
  exact .pure _ _

/-- The elements after some that have been read are taken one behind the other. -/
theorem elements_takes {element : Reader α} {texts : List String} {as : List α}
    (h : List.Forall₂ (IsElement element) texts as) {fuel : Nat} (hfuel : texts.length < fuel)
    (done : List α) :
    Takes (elements element fuel false done) (continued texts ++ byte ']' :: rest)
      (done.reverse ++ as) (byte ']' :: rest) := by
  -- Element by element: each uses up fuel and joins those that are done, in reverse.
  induction h generalizing fuel done with
  | nil =>
    obtain ⟨fuel, rfl⟩ := Nat.exists_eq_add_of_lt hfuel
    rw [List.append_nil]
    exact (hasElement_end false).bind (.pure _ _)
  | @cons t a texts as ht _ ih =>
    obtain ⟨fuel, rfl⟩ := Nat.exists_eq_add_one_of_ne_zero (Nat.ne_of_gt (Nat.zero_lt_of_lt hfuel))
    obtain ⟨⟨b, bs, hbytes, hb, hne⟩, htakes⟩ := ht
    have hrest := ih (Nat.lt_of_succ_lt_succ hfuel) (a :: done)
    rw [List.reverse_cons, List.append_assoc] at hrest
    have htext : continued (t :: texts) ++ byte ']' :: rest =
        byte ',' :: (Utf8.bytes t ++ (continued texts ++ byte ']' :: rest)) := by
      rw [continued, List.flatMap_cons, List.cons_append, List.cons_append, List.append_assoc]
      rfl
    rw [htext]
    have hnext := hasElement_next hb hne (bs ++ (continued texts ++ byte ']' :: rest))
    rw [← List.cons_append, ← hbytes] at hnext
    exact hnext.bind ((htakes _).bind hrest)

theorem elements_start {element : Reader α} {texts : List String} {as : List α}
    (h : List.Forall₂ (IsElement element) texts as) {fuel : Nat} (hfuel : texts.length < fuel) :
    Takes (elements element fuel true [])
      (Utf8.bytes (",".intercalate texts) ++ byte ']' :: rest) as (byte ']' :: rest) := by
  obtain ⟨fuel, rfl⟩ := Nat.exists_eq_add_one_of_ne_zero (Nat.ne_of_gt (Nat.zero_lt_of_lt hfuel))
  cases h with
  | nil =>
    rw [bytes_intercalate_nil]
    exact (hasElement_end true).bind (.pure _ _)
  | @cons t a texts as ht h =>
    obtain ⟨⟨b, bs, hbytes, hb, hne⟩, htakes⟩ := ht
    have hfirst := hasElement_first hb hne (bs ++ (continued texts ++ byte ']' :: rest))
    rw [← List.cons_append, ← hbytes] at hfirst
    rw [bytes_intercalate, List.append_assoc]
    exact hfirst.bind ((htakes _).bind (elements_takes h (Nat.lt_of_succ_lt_succ hfuel) [a]))

theorem bytes_printList (texts : List String) : Utf8.bytes (printList texts) =
    byte '[' :: (Utf8.bytes (",".intercalate texts) ++ [byte ']']) := by
  have hopen : Utf8.bytes "[" = [byte '['] := Utf8.bytes_singleton '['
  have hclose : Utf8.bytes "]" = [byte ']'] := Utf8.bytes_singleton ']'
  rw [printList, Utf8.bytes_append, Utf8.bytes_append, hopen, hclose, List.append_assoc]
  rfl

/-- A written list is taken behind its opening bracket. -/
theorem listRest_takes {element : Reader α} {texts : List String} {as : List α}
    (h : List.Forall₂ (IsElement element) texts as) (rest : List UInt8) :
    Takes (listRest element) (Utf8.bytes (",".intercalate texts) ++ byte ']' :: rest) as rest := by
  refine enclosed_takes (by decide) (Takes.bind (rfl : Takes get _ _ _) (elements_start h ?_))
  have hlength := length_le_bytes_intercalate texts
  rw [List.length_append, List.length_cons]
  omega

/-- A written list is read back. -/
theorem list_takes {element : Reader α} {texts : List String} {as : List α}
    (h : List.Forall₂ (IsElement element) texts as) (rest : List UInt8) :
    Takes (list element) (Utf8.bytes (printList texts) ++ rest) as rest := by
  rw [bytes_printList, List.cons_append, List.append_assoc]
  exact startingWith_takes (by decide) (listRest_takes h rest)

/-! ### Objects -/

variable {σ : Type} {fields : List (Field σ)}

/-- The text of a field. -/
def fieldText (field : String × String) : String := quote field.1 ++ ":" ++ field.2

/-- A written field that takes the state of a record from one to another. What comes behind it is
no more of a number. -/
inductive FillsOne (fields : List (Field σ)) (s : σ) (name value : String) : σ → Prop where
  /-- It is wanted, had not been read, and is read. -/
  | read {f : Field σ} {s' : σ} (find : fields.find? (·.name == name) = some f)
      (new : f.isRead s = false)
      (takes : ∀ rest, EndsNumber rest → Takes (f.read s) (Utf8.bytes value ++ rest) s' rest) :
      FillsOne fields s name value s'
  /-- It is not wanted, and is passed over. -/
  | pass (find : fields.find? (·.name == name) = none)
      (takes : ∀ rest, EndsNumber rest → Takes skipValue (Utf8.bytes value ++ rest) () rest) :
      FillsOne fields s name value s

/-- Written fields that take the state of a record from one to another. -/
inductive Fills (fields : List (Field σ)) : σ → List (String × String) → σ → Prop where
  | nil (s : σ) : Fills fields s [] s
  | cons {s s' s'' : σ} {name value : String} {written : List (String × String)} :
      FillsOne fields s name value s' → Fills fields s' written s'' →
      Fills fields s ((name, value) :: written) s''

theorem hasField_end (first : Bool) :
    Takes (hasField first) (byte '\x7d' :: rest) false (byte '\x7d' :: rest) := by
  refine (peekToken?_takes (by decide)).bind ?_
  exact .pure _ _

theorem hasField_first : Takes (hasField true) (byte '"' :: rest) true (byte '"' :: rest) := by
  refine (peekToken?_takes (by decide)).bind ?_
  exact .pure _ _

theorem hasField_next :
    Takes (hasField false) (byte ',' :: byte '"' :: rest) true (byte '"' :: rest) := by
  refine (peekToken?_takes (by decide)).bind ?_
  refine (skip_takes _).bind ((peekToken?_takes (by decide)).bind ?_)
  exact .pure _ _

theorem bytes_fieldText (field : String × String) :
    ∃ bs, Utf8.bytes (fieldText field) = byte '"' :: bs := by
  rw [fieldText, Utf8.bytes_append, Utf8.bytes_append, bytes_quote, List.cons_append,
    List.cons_append]
  exact ⟨_, rfl⟩

/-- Behind the fields before it, a written field is found. -/
theorem hasField_continued (field : String × String) (written : List (String × String)) :
    Takes (hasField false)
      (continued ((field :: written).map fieldText) ++ byte '\x7d' :: rest) true
      (Utf8.bytes (fieldText field) ++ (continued (written.map fieldText) ++
        byte '\x7d' :: rest)) := by
  obtain ⟨bs, hbytes⟩ := bytes_fieldText field
  have htext : continued ((field :: written).map fieldText) ++ byte '\x7d' :: rest =
      byte ',' :: (Utf8.bytes (fieldText field) ++
        (continued (written.map fieldText) ++ byte '\x7d' :: rest)) := by
    rw [List.map_cons, continued, List.flatMap_cons, List.cons_append, List.cons_append,
      List.append_assoc]
    rfl
  rw [htext, hbytes]
  exact hasField_next

/-- At the start, the first written field is found. -/
theorem hasField_start (field : String × String) (written : List (String × String)) :
    Takes (hasField true)
      (Utf8.bytes (",".intercalate ((field :: written).map fieldText)) ++ byte '\x7d' :: rest) true
      (Utf8.bytes (fieldText field) ++ (continued (written.map fieldText) ++
        byte '\x7d' :: rest)) := by
  obtain ⟨bs, hbytes⟩ := bytes_fieldText field
  rw [List.map_cons, bytes_intercalate, List.append_assoc, hbytes]
  exact hasField_first

/-- Behind a field comes another one, or the object ends. -/
theorem endsNumber_continued (texts : List String) :
    EndsNumber (continued texts ++ byte '\x7d' :: rest) := by
  cases texts with
  | nil => exact endsNumber_brace
  | cons t texts => exact endsNumber_comma

/-- One field is taken, and the fields behind it are taken in the state that it leads to. -/
theorem objectFields_cons {fuel : Nat} {first : Bool} {s s' t : σ} {name value : String}
    {rest' : List UInt8}
    (hfirst : Takes (hasField first) text true (Utf8.bytes (fieldText (name, value)) ++ rest))
    (hfills : FillsOne fields s name value s') (hrest : EndsNumber rest)
    (h : Takes (objectFields fields fuel false s') rest t rest') :
    Takes (objectFields fields (fuel + 1) first s) text t rest' := by
  have hcolon : Utf8.bytes ":" = [byte ':'] := Utf8.bytes_singleton ':'
  rw [fieldText, Utf8.bytes_append, Utf8.bytes_append, hcolon, List.append_assoc,
    List.append_assoc] at hfirst
  refine hfirst.bind ((string_takes name _).bind ?_)
  cases hfills with
  | @read f s' hfind hnew htakes =>
    rw [hfind]
    show Takes (if f.isRead s = true then _ else _) _ t rest'
    rw [hnew, if_neg (by decide)]
    exact colon_takes.bind ((htakes rest hrest).bind h)
  | pass hfind htakes =>
    rw [hfind]
    exact colon_takes.bind ((htakes rest hrest).bind h)

/-- The fields after some that have been read are taken one behind the other. -/
theorem objectFields_takes {s s' : σ} {written : List (String × String)}
    (h : Fills fields s written s') {fuel : Nat} (hfuel : written.length < fuel) :
    Takes (objectFields fields fuel false s)
      (continued (written.map fieldText) ++ byte '\x7d' :: rest) s' (byte '\x7d' :: rest) := by
  induction h generalizing fuel with
  | nil s =>
    obtain ⟨fuel, rfl⟩ := Nat.exists_eq_add_of_lt hfuel
    exact (hasField_end false).bind (.pure _ _)
  | @cons s s' s'' name value written hone _ ih =>
    obtain ⟨fuel, rfl⟩ := Nat.exists_eq_add_one_of_ne_zero (Nat.ne_of_gt (Nat.zero_lt_of_lt hfuel))
    exact objectFields_cons (hasField_continued _ written) hone (endsNumber_continued _)
      (ih (Nat.lt_of_succ_lt_succ hfuel))

theorem objectFields_start {s s' : σ} {written : List (String × String)}
    (h : Fills fields s written s') {fuel : Nat} (hfuel : written.length < fuel) :
    Takes (objectFields fields fuel true s)
      (Utf8.bytes (",".intercalate (written.map fieldText)) ++ byte '\x7d' :: rest) s'
      (byte '\x7d' :: rest) := by
  obtain ⟨fuel, rfl⟩ := Nat.exists_eq_add_one_of_ne_zero (Nat.ne_of_gt (Nat.zero_lt_of_lt hfuel))
  cases h with
  | nil =>
    rw [List.map_nil, bytes_intercalate_nil]
    exact (hasField_end true).bind (.pure _ _)
  | @cons _ s' _ name value written hone h =>
    exact objectFields_cons (hasField_start _ written) hone (endsNumber_continued _)
      (objectFields_takes h (Nat.lt_of_succ_lt_succ hfuel))

theorem bytes_printObject (written : List (String × String)) : Utf8.bytes (printObject written) =
    byte '\x7b' :: (Utf8.bytes (",".intercalate (written.map fieldText)) ++ [byte '\x7d']) := by
  have hopen : Utf8.bytes "\x7b" = [byte '\x7b'] := Utf8.bytes_singleton '\x7b'
  have hclose : Utf8.bytes "\x7d" = [byte '\x7d'] := Utf8.bytes_singleton '\x7d'
  rw [printObject, Utf8.bytes_append, Utf8.bytes_append, hopen, hclose, List.append_assoc]
  rfl

/-- There are fewer written fields than bytes in their text and the bracket behind it. -/
theorem length_lt_fields (written : List (String × String)) (rest : List UInt8) :
    written.length < (Utf8.bytes (",".intercalate (written.map fieldText)) ++
      byte '\x7d' :: rest).length + 1 := by
  have hlength := length_le_bytes_intercalate (written.map fieldText)
  rw [List.length_map] at hlength
  rw [List.length_append, List.length_cons]
  omega

/-- A written object is read as the record that its fields fill. -/
theorem record_takes {start s : σ} {finish : σ → Option α} {written : List (String × String)}
    (h : Fills fields start written s) (ha : finish s = some a) (rest : List UInt8) :
    Takes (record fields start finish) (Utf8.bytes (printObject written) ++ rest) a rest := by
  rw [bytes_printObject, List.cons_append, List.append_assoc]
  refine (peekToken?_takes (by decide)).bind ((skip_takes _).bind
    (enclosed_takes (by decide) ?_))
  refine Takes.bind (rfl : Takes get _ _ _)
    (Takes.bind (objectFields_start h (length_lt_fields written rest)) ?_)
  dsimp only
  rw [ha]
  exact .pure _ _

end Json

end WebLogin
