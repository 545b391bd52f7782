/-
The configuration that is merged from a file, an environment and the defaults.

What stands in the file is laid over the defaults table by table, and the variables of the
environment are laid over both leaf by leaf.

* `inFile?` — what a file gives for a field of one of its inner objects;
* `leaf?_fileTree`, `leaf?_givenTree` — the same of the tree of the file, and of what is given;
* `exists_merged` — what stands in an inner table of the merged configuration.
-/
import WebLogin.Proofs.Settings.Environment

namespace WebLogin

namespace Settings

open EnvFile (Environment)

/-- The fields of an object; another value has none. -/
def fieldsIn : Json.Value → List (String × Json.Value)
  | .object fields => fields
  | _ => []

/-- The field of a name; of several with one name the last counts. -/
def field? (name : String) (fields : List (String × Json.Value)) : Option Json.Value :=
  fields.reverse.lookup name

/-- What a file gives for a field of one of its inner objects. -/
def inFile? (fields : List (String × Json.Value)) (outer inner : String) : Option Json.Value :=
  (field? outer fields).bind fun v => field? inner (fieldsIn v)

/-- The file has the tables of the settings: it sets no paths at once, and where an inner table of
the settings is expected it has an object. -/
structure IsTabular (fields : List (String × Json.Value)) : Prop where
  plain : ∀ e ∈ fields, IsPlain e.1
  tables : ∀ e ∈ fields, e.1 ∈ tableKeys → ∃ inner, e.2 = .object inner

variable {fields : List (String × Json.Value)} {env entries : Environment}

/-! ### The file -/

theorem lookup_ofJsonFields (fields : List (String × Json.Value)) (done : List (String × Tree))
    (key : String) :
    (Tree.ofJsonFields fields done).lookup key =
      ((field? key fields).map Tree.ofJson).or (done.lookup key) := by
  induction fields generalizing done with
  | nil => rfl
  | cons e fields ih =>
    obtain ⟨k, v⟩ := e
    rw [Tree.ofJsonFields, ih, lookup_setKey, field?, field?, List.reverse_cons,
      List.lookup_append, lookup_cons_eq_ite, List.lookup_nil]
    cases fields.reverse.lookup key with
    | some v' => rfl
    | none => by_cases h : key = k <;> simp [h]

theorem mem_ofJsonFields {e : String × Tree} {done : List (String × Tree)}
    (h : e ∈ Tree.ofJsonFields fields done) :
    (∃ f ∈ fields, e = (f.1, .ofJson f.2)) ∨ e ∈ done := by
  induction fields generalizing done with
  | nil => exact .inr h
  | cons f fields ih =>
    obtain ⟨key, v⟩ := f
    rw [Tree.ofJsonFields] at h
    rcases ih h with ⟨f, hf, rfl⟩ | h
    · exact .inl ⟨f, List.mem_cons_of_mem _ hf, rfl⟩
    · rcases mem_setKey h with rfl | h
      · exact .inl ⟨(key, v), List.mem_cons_self, rfl⟩
      · exact .inr h

/-- The tree of a file. -/
def fileTree (fields : List (String × Json.Value)) : Tree :=
  applyLayer (Tree.ofJsonFields fields []) emptyTable

theorem entries_fileTree (h : IsTabular fields) :
    (fileTree fields).entries = Tree.ofJsonFields fields [] := by
  have hcanonical : (Tree.table (Tree.ofJsonFields fields [])).Canonical :=
    Tree.canonical_ofJson (.object fields)
  have hplain : ∀ e ∈ Tree.ofJsonFields fields [], IsPlain e.1 := by
    intro e he
    rcases mem_ofJsonFields he with ⟨f, hf, rfl⟩ | he
    · exact h.plain f hf
    · cases he
  have hsame : Tree.nil.overlay (.table (Tree.ofJsonFields fields [])) =
      .table (Tree.ofJsonFields fields []) := hcanonical.overlay_eq rfl
  rw [fileTree, entries_applyLayer hplain]
  exact congrArg Tree.entries hsame

theorem regular_fileTree (h : IsTabular fields) : Regular (fileTree fields) where
  canonical := by
    rw [entries_fileTree h]
    exact Tree.canonical_ofJson (.object fields)
  plain e he := by
    rw [entries_fileTree h] at he
    rcases mem_ofJsonFields he with ⟨f, hf, rfl⟩ | he
    · exact h.plain f hf
    · cases he
  tables key hkey v hv := by
    rw [entries_fileTree h] at hv
    rcases mem_ofJsonFields (mem_of_lookup hv) with ⟨f, hf, heq⟩ | he
    · obtain ⟨rfl, rfl⟩ := Prod.mk.inj heq
      obtain ⟨inner, hinner⟩ := h.tables f hf hkey
      rw [hinner]
      exact ⟨_, rfl⟩
    · cases he

theorem leaf?_fileTree (h : IsTabular fields) (outer inner : String) :
    (fileTree fields).leaf? outer inner = (inFile? fields outer inner).map Tree.ofJson := by
  rw [Tree.leaf?, Tree.child, entries_fileTree h, lookup_ofJsonFields, List.lookup_nil,
    Option.or_none, inFile?]
  cases field? outer fields with
  | none => rfl
  | some v =>
    rw [Option.map_some, Option.getD_some, Option.bind_some]
    cases v with
    | object inner' =>
      have hlookup := lookup_ofJsonFields inner' [] inner
      rw [List.lookup_nil, Option.or_none] at hlookup
      exact hlookup
    | number n => cases n <;> rfl
    | _ => rfl

/-! ### The merged configuration -/

/-- What a file and an environment give together. -/
def givenTree (fields : List (String × Json.Value)) (env : Environment) : Tree :=
  applyLayer (environmentLayer env) (fileTree fields)

/-- What is given, laid over the defaults. -/
def mergedTree (fields : List (String × Json.Value)) (env : Environment) : Tree :=
  applyLayer (givenTree fields env).entries defaultTree

theorem leaf?_givenTree (h : IsTabular fields) (hnodup : (env.map Prod.fst).Nodup)
    (henv : NamesLeaves env) (l : Leaf) :
    (givenTree fields env).leaf? l.outer l.inner =
      ((env.lookup l.variableName).map Tree.text).or
        ((inFile? fields l.outer l.inner).map Tree.ofJson) := by
  rw [givenTree, leaf?_applyLayer (isLeafLayer_environmentLayer henv),
    lookup_environmentLayer hnodup henv, leaf?_fileTree h]

theorem leaf?_givenTree_of_not_leaf (h : IsTabular fields) (henv : NamesLeaves env)
    {outer inner : String} (hplace : ∀ l : Leaf, ¬(outer = l.outer ∧ inner = l.inner)) :
    (givenTree fields env).leaf? outer inner = (inFile? fields outer inner).map Tree.ofJson := by
  rw [givenTree, leaf?_applyLayer_of_not_leaf (isLeafLayer_environmentLayer henv) _ hplace,
    leaf?_fileTree h]

theorem exists_leaf_of_tableKey {key : String} (h : key ∈ tableKeys) :
    ∃ l : Leaf, l.outer = key := by
  have hall : ∀ key ∈ tableKeys, ∃ l ∈ Leaf.all, l.outer = key := by decide
  obtain ⟨l, -, hl⟩ := hall key h
  exact ⟨l, hl⟩

/-- Every inner table of the settings has defaults. -/
theorem exists_defaultTable {key : String} (h : key ∈ tableKeys) :
    ∃ entries, defaultTree.entries.lookup key = some (.table entries) := by
  obtain ⟨l, rfl⟩ := exists_leaf_of_tableKey h
  have hleaf := leaf?_defaultTree l
  rw [Tree.leaf?, Tree.child] at hleaf
  cases hlookup : defaultTree.entries.lookup l.outer with
  | none =>
    rw [hlookup] at hleaf
    cases hleaf
  | some v =>
    obtain ⟨entries, rfl⟩ := regular_defaultTree.tables l.outer h v hlookup
    exact ⟨entries, rfl⟩

/-- Where there is a default, it is no table. -/
theorem entries_default (outer inner : String) :
    ((defaultTree.leaf? outer inner).getD .nil).entries = [] := by
  by_cases hplace : ∃ l : Leaf, outer = l.outer ∧ inner = l.inner
  · obtain ⟨l, rfl, rfl⟩ := hplace
    rw [leaf?_defaultTree, Option.getD_some]
    cases hbuiltIn : l.builtIn with
    | table entries => exact absurd hbuiltIn (l.isSingle_builtIn entries)
    | _ => rfl
  · rw [leaf?_defaultTree_of_not_leaf fun l hl => hplace ⟨l, hl⟩]
    rfl

/-- Whatever regular configuration is laid over the defaults: each inner table has what it gives,
and beside that the defaults. -/
theorem exists_merged {t : Tree} (ht : Regular t) {outer : String} (houter : outer ∈ tableKeys) :
    ∃ entries, (applyLayer t.entries defaultTree).entries.lookup outer = some (.table entries) ∧
      ∀ inner, entries.lookup inner =
        (t.leaf? outer inner).or (defaultTree.leaf? outer inner) := by
  obtain ⟨below, hbelow⟩ := exists_defaultTable houter
  have hdefault (inner : String) : defaultTree.leaf? outer inner = below.lookup inner := by
    rw [Tree.leaf?, Tree.child, hbelow]
    rfl
  rw [entries_applyLayer ht.plain, Tree.lookup_overlayEntries ht.canonical.of_table.1, hbelow,
    Option.getD_some]
  cases hgiven : t.entries.lookup outer with
  | none =>
    refine ⟨below, rfl, fun inner => ?_⟩
    rw [Tree.leaf?, Tree.child, hgiven, hdefault]
    rfl
  | some v =>
    obtain ⟨above, rfl⟩ := ht.tables outer houter v hgiven
    have habove : (Tree.table above).Canonical :=
      ht.canonical.of_table.2 (outer, .table above) (mem_of_lookup hgiven)
    refine ⟨Tree.overlayEntries below above, rfl, fun inner => ?_⟩
    have hleaf : t.leaf? outer inner = above.lookup inner := by
      rw [Tree.leaf?, Tree.child, hgiven]
      rfl
    rw [Tree.lookup_overlayEntries habove.of_table.1, hleaf, hdefault]
    cases hinner : above.lookup inner with
    | none => rfl
    | some v =>
      -- The default that the value is laid over is no table, so the value is taken as it is.
      have hv : v.Canonical := habove.of_table.2 (inner, v) (mem_of_lookup hinner)
      have hflat := entries_default outer inner
      rw [hdefault] at hflat
      rw [Option.map_some, hv.overlay_eq hflat, Option.some_or]

theorem exists_applyLayer_eq_table (layer entries : List (String × Tree)) :
    ∃ entries', applyLayer layer (.table entries) = .table entries' := by
  induction layer generalizing entries with
  | nil => exact ⟨entries, rfl⟩
  | cons e layer ih => exact ih _

theorem mergedTree_eq_table (fields : List (String × Json.Value)) (env : Environment) :
    mergedTree fields env = .table (mergedTree fields env).entries := by
  obtain ⟨below, hbelow⟩ := exists_applyLayer_eq_table defaults []
  have hdefault : defaultTree = .table below := hbelow
  obtain ⟨merged, hmerged⟩ :=
    exists_applyLayer_eq_table (givenTree fields env).entries below
  rw [mergedTree, hdefault, hmerged]
  rfl

end Settings

end WebLogin
