/-
Which texts are usernames.

A username is one character that may stand at an edge, or two of them with at most 254 characters
between them that need only be no control characters. Put as conditions on the whole text: it has 1
to 256 characters, none of them a control character, and neither the first nor the last one is white
space. A JSON text is read as a username if it is a string that is one.

* `isWellFormed_iff_shape` — the form, character by character;
* `isWellFormed_iff` — the conditions on the whole text;
* `exists_parse_iff`, `text_of_parse`, `eq_of_parse_error` — what a text is taken as;
* `ofText_reader_eq_ok_iff`, `ofText_reader_quote` — the same for JSON texts.
-/
import WebLogin.Proofs.Codec
import WebLogin.Proofs.Json.Ensures
import WebLogin.Proofs.Text.Split

namespace WebLogin

namespace Username

/-- Inner characters with an edge character behind them, within the room that there is. -/
theorem endsWell_iff (room : Nat) (cs : List Char) :
    endsWell room cs = true ↔ ∃ inner last, cs = inner ++ [last] ∧ inner.length ≤ room ∧
      (∀ c ∈ inner, isInner c = true) ∧ isEdge last = true := by
  induction room, cs using endsWell.induct with
  | case1 room => simp [endsWell]
  | case2 room c =>
    rw [endsWell.eq_2]
    constructor
    · intro hedge
      exact ⟨[], c, rfl, Nat.zero_le _, by simp, hedge⟩
    · rintro ⟨inner, last, heq, -, -, hedge⟩
      cases inner with
      | nil =>
        cases heq
        exact hedge
      | cons d inner => simp at heq
  | case3 a b rest =>
    -- There is no room for the first of two characters.
    simp only [endsWell, Bool.false_eq_true, false_iff]
    rintro ⟨inner, last, heq, hroom, -, -⟩
    have hlength := congrArg List.length heq
    simp only [List.length_append, List.length_cons, List.length_nil] at hlength
    omega
  | case4 room c rest hrest ih =>
    rw [endsWell.eq_4 _ _ _ hrest, Bool.and_eq_true, ih]
    constructor
    · rintro ⟨hc, inner, last, rfl, hroom, hinner, hedge⟩
      exact ⟨c :: inner, last, rfl, Nat.succ_le_succ hroom, by simpa [hc] using hinner, hedge⟩
    · rintro ⟨inner, last, heq, hroom, hinner, hedge⟩
      cases inner with
      | nil =>
        cases heq
        exact absurd rfl hrest
      | cons d inner =>
        cases heq
        obtain ⟨hc, hinner⟩ := List.forall_mem_cons.1 hinner
        exact ⟨hc, inner, last, rfl, Nat.le_of_succ_le_succ hroom, hinner, hedge⟩

/-- The form of a username. -/
theorem isWellFormed_iff_shape (cs : List Char) :
    isWellFormed cs = true ↔ (∃ c, cs = [c] ∧ isEdge c = true) ∨
      ∃ first inner last, cs = first :: (inner ++ [last]) ∧ isEdge first = true ∧
        inner.length ≤ 254 ∧ (∀ c ∈ inner, isInner c = true) ∧ isEdge last = true := by
  rcases cs with _ | ⟨c, _ | ⟨d, rest⟩⟩
  · simp [isWellFormed]
  · simp [isWellFormed]
  · rw [isWellFormed.eq_3 _ _ (List.cons_ne_nil d rest), Bool.and_eq_true, endsWell_iff]
    constructor
    · rintro ⟨hfirst, inner, last, heq, hroom, hinner, hlast⟩
      exact .inr ⟨c, inner, last, by rw [heq], hfirst, hroom, hinner, hlast⟩
    · rintro (⟨e, heq, -⟩ | ⟨first, inner, last, heq, hfirst, hroom, hinner, hlast⟩)
      · simp at heq
      · obtain ⟨rfl, hrest⟩ := List.cons.inj heq
        exact ⟨hfirst, inner, last, hrest, hroom, hinner, hlast⟩

theorem isInner_iff {c : Char} : isInner c = true ↔ isControl c = false := by
  simp [isInner]

theorem isEdge_iff {c : Char} :
    isEdge c = true ↔ isControl c = false ∧ isWhiteSpace c = false := by
  simp [isEdge, isInner]

theorem hasBareEdges_iff {first last : Char} {inner : List Char} :
    HasBareEdges (first :: (inner ++ [last])) ↔
      isWhiteSpace first = false ∧ isWhiteSpace last = false := by
  rw [HasBareEdges, ← List.cons_append, List.getLast?_concat]
  simp

/-- The same as conditions on the whole text. -/
theorem isWellFormed_iff (cs : List Char) :
    isWellFormed cs = true ↔ cs ≠ [] ∧ cs.length ≤ 256 ∧ (∀ c ∈ cs, isControl c = false) ∧
      HasBareEdges cs := by
  simp only [isWellFormed_iff_shape, isInner_iff, isEdge_iff]
  constructor
  · rintro (⟨c, rfl, hcontrol, hspace⟩ | ⟨first, inner, last, rfl, hfirst, hroom, hinner, hlast⟩)
    · exact ⟨List.cons_ne_nil c [], by simp, by simpa using hcontrol,
        by simpa [HasBareEdges] using hspace⟩
    · refine ⟨List.cons_ne_nil _ _, ?_, ?_, hasBareEdges_iff.2 ⟨hfirst.2, hlast.2⟩⟩
      · simp only [List.length_cons, List.length_append, List.length_nil]
        omega
      · rw [List.forall_mem_cons, List.forall_mem_append, List.forall_mem_singleton]
        exact ⟨hfirst.1, hinner, hlast.1⟩
  · rintro ⟨hne, hlength, hcontrol, hedges⟩
    obtain ⟨first, rest, rfl⟩ := List.exists_cons_of_ne_nil hne
    -- One character is both ends; of more, the last one stands apart.
    rcases List.eq_nil_or_concat' rest with rfl | ⟨inner, last, rfl⟩
    · exact .inl ⟨first, rfl, hcontrol first (List.mem_singleton_self first), hedges.1 first rfl⟩
    · obtain ⟨hfirst, hlast⟩ := hasBareEdges_iff.1 hedges
      rw [List.forall_mem_cons, List.forall_mem_append, List.forall_mem_singleton] at hcontrol
      simp only [List.length_cons, List.length_append, List.length_nil] at hlength
      exact .inr ⟨first, inner, last, rfl, ⟨hcontrol.1, hfirst⟩, by omega, hcontrol.2.1,
        hcontrol.2.2, hlast⟩

/-! ### Taking a text as a username -/

theorem text_ne_empty (u : Username) : u.text ≠ "" := by
  intro hempty
  have hform := u.isWellFormed_text
  rw [hempty] at hform
  exact absurd hform (by decide)

/-- A username is what its own text is taken as. -/
theorem parse_text (u : Username) : parse u.text = .ok u := by
  rw [parse, if_neg (by simpa using u.text_ne_empty), dif_pos u.isWellFormed_text]

/-- A text that is accepted is kept as it is. -/
theorem text_of_parse {name : String} {u : Username} (h : parse name = .ok u) : u.text = name := by
  rw [parse] at h
  split_ifs at h
  cases h
  rfl

theorem parse_empty : parse "" = .error .empty := rfl

theorem exists_parse_iff {name : String} :
    (∃ u, parse name = .ok u) ↔ isWellFormed name.toList = true := by
  constructor
  · rintro ⟨u, hu⟩
    rw [← text_of_parse hu]
    exact u.isWellFormed_text
  · intro hform
    exact ⟨⟨name, hform⟩, parse_text ⟨name, hform⟩⟩

/-- The two ways in which a text is refused. -/
theorem eq_of_parse_error {name : String} {e : UsernameError} (h : parse name = .error e) :
    e = if name = "" then .empty else .invalid := by
  rw [parse] at h
  split_ifs at h with hempty hform
  · cases h
    rw [if_pos (String.isEmpty_iff.1 hempty)]
  · cases h
    rw [if_neg (by simpa using hempty)]

/-! ### JSON -/

/-- A JSON text is read as a username if it is a string that is taken as one. -/
theorem ofText_reader_eq_ok_iff {json : String} {u : Username} :
    Json.ofText reader json = .ok u ↔
      ∃ name, Json.ofText Json.string json = .ok name ∧ parse name = .ok u := by
  have hoption (name : String) : (parse name).toOption = some u ↔ parse name = .ok u := by
    cases parse name with
    | ok v => simp [Except.toOption]
    | error e => simp [Except.toOption]
  simp only [reader, Json.ofText_stringAs_eq_ok_iff, hoption]

/-- A text that is written as JSON is read as a username if it is one. -/
theorem ofText_reader_quote {name : String} {u : Username} :
    Json.ofText reader (Json.quote name) = .ok u ↔ parse name = .ok u := by
  have hquote : Json.ofText Json.string (Json.quote name) = .ok name :=
    Json.ofText_of_takes (Json.string_takes name)
  rw [ofText_reader_eq_ok_iff, hquote]
  constructor
  · rintro ⟨read, hread, hparse⟩
    cases hread
    exact hparse
  · intro hparse
    exact ⟨name, rfl, hparse⟩

/-- A username is read back from its own text, whatever follows it. -/
theorem reader_takes (u : Username) (rest : List UInt8) :
    Json.Takes reader (Utf8.bytes u.toJson ++ rest) u rest :=
  Json.stringAs_takes (by rw [u.parse_text]; rfl) rest

end Username

end WebLogin
