/-
The layer of the environment.

An environment file is read into the environment first: its entries add to the variables that are
set and replace none, and of several entries with one name the first counts. The variables of the
program then make up a layer of leaves.

* `EnvFile.entries?` — the entries of an environment file that is well-formed;
* `EnvFile.lookup_defineAll` — the environment with these entries;
* `isLeafLayer_environmentLayer`, `lookup_environmentLayer` — the layer of an environment.
-/
import WebLogin.Proofs.Settings.Leaves

namespace WebLogin

namespace EnvFile

variable {env entries : Environment} {name value : String}

/-! ### Environment files -/

/-- The entries of logical lines, each read in the environment with those before it; `none` if one
of the lines is malformed. -/
def linesEntries? : Environment → List (Option (List Char)) → Option Environment
  | _, [] => some []
  | _, none :: _ => none
  | env, some line :: lines =>
    match entry? env line with
    | none => none
    | some none => linesEntries? env lines
    | some (some (name, value)) =>
      (linesEntries? (define env name value) lines).map ((name, value) :: ·)

/-- The entries of an environment file, if there is one. -/
def entries? (env : Environment) : Option String → Option Environment
  | none => some []
  | some text =>
    linesEntries? env (logicalLines [] .plain (physicalLines (dropMark text.toList)))

/-- The environment with some entries. -/
def defineAll (env entries : Environment) : Environment :=
  entries.foldl (fun env e => define env e.1 e.2) env

theorem loadLines_of_entries {lines : List (Option (List Char))}
    (h : linesEntries? env lines = some entries) : loadLines env lines = defineAll env entries := by
  induction lines generalizing env entries with
  | nil =>
    obtain rfl := Option.some.inj h
    rfl
  | cons line lines ih =>
    cases line with
    | none => cases h
    | some line =>
      rw [linesEntries?] at h
      rw [loadLines]
      cases hentry : entry? env line with
      | none =>
        rw [hentry] at h
        cases h
      | some e =>
        rw [hentry] at h
        cases e with
        | none => exact ih h
        | some e =>
          obtain ⟨name, value⟩ := e
          obtain ⟨rest, hrest, rfl⟩ := Option.map_eq_some_iff.1 h
          exact ih hrest

theorem lookup_define (env : Environment) (name value key : String) :
    (define env name value).lookup key =
      (env.lookup key).or (if key = name then some value else none) := by
  rw [define]
  split
  · rename_i hset
    by_cases hkey : key = name
    · obtain ⟨v, hv⟩ := Option.isSome_iff_exists.1 hset
      rw [hkey, hv, Option.some_or]
    · rw [if_neg hkey, Option.or_none]
  · rw [List.lookup_append, lookup_cons_eq_ite, List.lookup_nil]

/-- What is set stays, and of the entries with one name the first counts. -/
theorem lookup_defineAll (env entries : Environment) (key : String) :
    (defineAll env entries).lookup key = (env.lookup key).or (entries.lookup key) := by
  induction entries generalizing env with
  | nil => rw [List.lookup_nil, Option.or_none]; rfl
  | cons e entries ih =>
    obtain ⟨name, value⟩ := e
    have hcons : defineAll env ((name, value) :: entries) =
        defineAll (define env name value) entries := rfl
    rw [hcons, ih, lookup_define, lookup_cons_eq_ite, Option.or_assoc]
    by_cases hkey : key = name
    · rw [if_pos hkey, if_pos hkey, Option.some_or]
    · rw [if_neg hkey, if_neg hkey, Option.none_or]

theorem nodup_define (h : (env.map Prod.fst).Nodup) (name value : String) :
    ((define env name value).map Prod.fst).Nodup := by
  rw [define]
  split
  · exact h
  · rename_i hset
    have hnone : env.lookup name = none := Option.not_isSome_iff_eq_none.1 hset
    rw [List.lookup_eq_none_iff] at hnone
    rw [List.map_append, List.nodup_append]
    refine ⟨h, List.nodup_singleton _, fun k hk k' hk' heq => ?_⟩
    obtain ⟨e, he, rfl⟩ := List.mem_map.1 hk
    have hname : e.1 = name := heq.trans (List.mem_singleton.1 hk')
    simpa [hname] using hnone e he

theorem nodup_defineAll (h : (env.map Prod.fst).Nodup) (entries : Environment) :
    ((defineAll env entries).map Prod.fst).Nodup := by
  induction entries generalizing env with
  | nil => exact h
  | cons e entries ih => exact ih (nodup_define h e.1 e.2)

theorem mem_defineAll {e : String × String} (h : e ∈ defineAll env entries) :
    e ∈ env ∨ e ∈ entries := by
  induction entries generalizing env with
  | nil => exact .inl h
  | cons first entries ih =>
    rcases ih h with h | h
    · have hdefine : e ∈ define env first.1 first.2 := h
      rw [define] at hdefine
      split at hdefine
      · exact .inl hdefine
      · rcases List.mem_append.1 hdefine with hold | hnew
        · exact .inl hold
        · exact .inr (List.mem_singleton.1 hnew ▸ List.mem_cons_self)
    · exact .inr (List.mem_cons_of_mem _ h)

end EnvFile

namespace Settings

open EnvFile (Environment)

variable {env : Environment}

/-! ### The layer -/

/-- Every variable of the program is one of a leaf. -/
def NamesLeaves (env : Environment) : Prop :=
  ∀ e ∈ env, (settingOf? e.1).isSome → ∃ l : Leaf, e.1 = l.variableName

theorem NamesLeaves.tail {e : String × String} (h : NamesLeaves (e :: env)) : NamesLeaves env :=
  fun e' he' => h e' (List.mem_cons_of_mem _ he')

/-- The settings of an environment are laid over a layer one after the other. -/
def collect (layer : List (String × Tree)) (env : Environment) : List (String × Tree) :=
  (env.filterMap fun e => (settingOf? e.1).map (·, e.2)).foldl
    (fun layer e => setKey e.1 (.text e.2) layer) layer

theorem collect_cons (layer : List (String × Tree)) (name value : String) (env : Environment) :
    collect layer ((name, value) :: env) =
      collect ((settingOf? name).elim layer fun s => setKey s (.text value) layer) env := by
  rw [collect, List.filterMap_cons]
  cases settingOf? name <;> rfl

theorem environmentLayer_eq (env : Environment) : environmentLayer env = collect [] env := rfl

/-- Under the name of a leaf stands what its variable is set to. -/
theorem lookup_collect (hnodup : (env.map Prod.fst).Nodup) (henv : NamesLeaves env)
    (layer : List (String × Tree)) (l : Leaf) :
    (collect layer env).lookup l.name =
      ((env.lookup l.variableName).map Tree.text).or (layer.lookup l.name) := by
  induction env generalizing layer with
  | nil => rfl
  | cons e env ih =>
    obtain ⟨name, value⟩ := e
    obtain ⟨hname, hrest⟩ := List.nodup_cons.1 hnodup
    rw [collect_cons, ih hrest henv.tail, lookup_cons_eq_ite]
    cases hsetting : settingOf? name with
    | none =>
      have hother : l.variableName ≠ name := by
        rintro rfl
        rw [l.settingOf?_variableName] at hsetting
        cases hsetting
      rw [if_neg hother]
      rfl
    | some s =>
      obtain ⟨l', hl'⟩ := henv (name, value) List.mem_cons_self (by rw [hsetting]; rfl)
      obtain rfl : name = l'.variableName := hl'
      obtain rfl : s = l'.name :=
        Option.some.inj (hsetting.symm.trans l'.settingOf?_variableName)
      rw [Option.elim_some, lookup_setKey]
      by_cases hl : l = l'
      · have hnone : env.lookup l.variableName = none :=
          lookup_eq_none_of_notMem (hl ▸ hname)
        rw [if_pos (Leaf.name_inj.2 hl), if_pos (Leaf.variableName_inj.2 hl), hnone]
        rfl
      · rw [if_neg fun h => hl (Leaf.name_inj.1 h),
          if_neg fun h => hl (Leaf.variableName_inj.1 h)]

theorem isLeafLayer_collect (henv : NamesLeaves env) {layer : List (String × Tree)}
    (h : IsLeafLayer layer) : IsLeafLayer (collect layer env) := by
  induction env generalizing layer with
  | nil => exact h
  | cons e env ih =>
    obtain ⟨name, value⟩ := e
    rw [collect_cons]
    refine ih henv.tail ?_
    cases hsetting : settingOf? name with
    | none => exact h
    | some s =>
      obtain ⟨l, hl⟩ := henv (name, value) List.mem_cons_self (by rw [hsetting]; rfl)
      obtain rfl : name = l.variableName := hl
      obtain rfl : s = l.name := Option.some.inj (hsetting.symm.trans l.settingOf?_variableName)
      refine ⟨nodup_setKey h.nodup, fun e he => ?_, fun e he => ?_⟩
      · rcases mem_setKey he with rfl | he
        · exact ⟨l, rfl⟩
        · exact h.leaf e he
      · rcases mem_setKey he with rfl | he
        · exact fun entries heq => by cases heq
        · exact h.single e he

theorem isLeafLayer_environmentLayer (henv : NamesLeaves env) :
    IsLeafLayer (environmentLayer env) := by
  refine isLeafLayer_collect henv ⟨List.nodup_nil, fun e he => ?_, fun e he => ?_⟩
  · cases he
  · cases he

theorem lookup_environmentLayer (hnodup : (env.map Prod.fst).Nodup) (henv : NamesLeaves env)
    (l : Leaf) :
    (environmentLayer env).lookup l.name = (env.lookup l.variableName).map Tree.text := by
  rw [environmentLayer_eq, lookup_collect hnodup henv, List.lookup_nil, Option.or_none]

end Settings

end WebLogin
