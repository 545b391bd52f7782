/-
The settings that hold a single value.

A `Leaf` is such a setting. It stands under a key of one of the inner tables of a configuration, has
a name with which a layer sets it, a variable of the environment, a built-in default and a type that
its value is converted to. A layer that sets leaves sets each by itself.

* `leaf?_applyLayer` — what a layer of leaves does to a leaf, and to any other place;
* `leaf?_defaults` — the built-in defaults;
* `Regular.applyLayer` — a layer of leaves keeps a configuration in shape.
-/
import WebLogin.Proofs.Settings.Tree
import WebLogin.Settings.Load

namespace WebLogin

namespace Settings

/-- A setting that holds a single value. -/
inductive Leaf where
  | mode
  | invalidateSession
  | sessionCookie
  | sessionTtl
  | sessionBackend
  | rememberMe
  | tokenCookie
  | tokenSecret
  | tokenTtl
  | redisHost
  | postgresUrl
  | verifierBackend
  | address
  deriving DecidableEq

namespace Leaf

/-- All leaves, in the order of the defaults. -/
def all : List Leaf :=
  [mode, invalidateSession, sessionCookie, sessionTtl, sessionBackend, rememberMe, tokenCookie,
    tokenSecret, tokenTtl, redisHost, postgresUrl, verifierBackend, address]

theorem mem_all (l : Leaf) : l ∈ all := by cases l <;> decide

/-- The key of the table that the leaf stands in. -/
def outer : Leaf → String
  | mode | invalidateSession => "login"
  | sessionCookie | sessionTtl | sessionBackend => "session"
  | rememberMe | tokenCookie | tokenSecret | tokenTtl => "remember_me"
  | redisHost => "redis"
  | postgresUrl => "postgres"
  | verifierBackend => "verifier"
  | address => "server"

/-- The key of the leaf in its table. -/
def inner : Leaf → String
  | mode => "mode"
  | invalidateSession => "invalidate_session"
  | sessionCookie | tokenCookie => "cookie_name"
  | sessionTtl | tokenTtl => "ttl_seconds"
  | sessionBackend | verifierBackend => "backend"
  | rememberMe => "enabled"
  | tokenSecret => "secret"
  | redisHost => "host_name"
  | postgresUrl => "url"
  | address => "address"

/-- The name with which a layer sets the leaf. -/
def name (l : Leaf) : String := l.outer ++ "." ++ l.inner

/-- A text in capital letters. -/
def capitals (s : String) : String := String.ofList (s.toList.map Char.toUpper)

/-- The variable of the environment that sets the leaf. -/
def variableName (l : Leaf) : String :=
  "GATEHOUSE__" ++ capitals l.outer ++ "__" ++ capitals l.inner

/-- The value that holds unless another layer sets the leaf. -/
def builtIn (l : Leaf) : Tree := (defaults.lookup l.name).getD .nil

/-- What the value of a leaf is converted to. -/
def Value : Leaf → Type
  | mode => Mode
  | invalidateSession | rememberMe => Bool
  | sessionTtl => Nat
  | tokenTtl => Int
  | sessionBackend => SessionBackend
  | verifierBackend => VerifierBackend
  | _ => String

/-- Converts a value to the type of a leaf. -/
def convert : (l : Leaf) → Tree → Decoded l.Value
  | mode => choice Mode.ofText?
  | invalidateSession | rememberMe => bool
  | sessionTtl => natural
  | tokenTtl => integer
  | sessionBackend => choice SessionBackend.ofText?
  | verifierBackend => choice VerifierBackend.ofText?
  | sessionCookie | tokenCookie | tokenSecret | redisHost | postgresUrl | address => text

/-- The value of a leaf in the settings. -/
def of (s : Settings) : (l : Leaf) → l.Value
  | mode => s.login.mode
  | invalidateSession => s.login.invalidateSession
  | sessionCookie => s.session.cookieName
  | sessionTtl => s.session.ttlSeconds
  | sessionBackend => s.session.backend
  | rememberMe => s.rememberMe.enabled
  | tokenCookie => s.rememberMe.cookieName
  | tokenSecret => s.rememberMe.secret
  | tokenTtl => s.rememberMe.ttlSeconds
  | redisHost => s.redisHostName
  | postgresUrl => s.postgresUrl
  | verifierBackend => s.verifier.backend
  | address => s.server.address

theorem ofName_name (l : Leaf) : Path.ofName l.name = ⟨l.outer, [.key l.inner]⟩ := by
  cases l <;> decide +kernel

theorem isPlain_outer (l : Leaf) : IsPlain l.outer := by
  show Path.ofName l.outer = ⟨l.outer, []⟩
  cases l <;> decide +kernel

theorem settingOf?_variableName (l : Leaf) : settingOf? l.variableName = some l.name := by
  cases l <;> decide +kernel

theorem name_inj {l l' : Leaf} : l.name = l'.name ↔ l = l' := by
  have hnodup : (all.map name).Nodup := by decide +kernel
  exact ⟨List.inj_on_of_nodup_map hnodup (mem_all l) (mem_all l'), congrArg name⟩

theorem variableName_inj {l l' : Leaf} : l.variableName = l'.variableName ↔ l = l' := by
  refine ⟨fun h => ?_, congrArg variableName⟩
  have hsetting := congrArg settingOf? h
  rw [settingOf?_variableName, settingOf?_variableName] at hsetting
  exact name_inj.1 (Option.some.inj hsetting)

/-- Two leaves at one place are the same. -/
theorem place_inj {l l' : Leaf} : l.outer = l'.outer ∧ l.inner = l'.inner ↔ l = l' := by
  constructor
  · rintro ⟨houter, hinner⟩
    exact name_inj.1 (by rw [name, name, houter, hinner])
  · rintro rfl
    exact ⟨rfl, rfl⟩

theorem lookup_defaults (l : Leaf) : defaults.lookup l.name = some l.builtIn := by
  cases l <;> rfl

theorem isSingle_builtIn (l : Leaf) : l.builtIn.IsSingle := by
  intro entries h
  cases l <;> cases h

end Leaf

/-! ### Layers of leaves -/

/-- The layer sets leaves, each at most once and to values that are no tables. -/
structure IsLeafLayer (layer : List (String × Tree)) : Prop where
  nodup : (layer.map Prod.fst).Nodup
  leaf : ∀ e ∈ layer, ∃ l : Leaf, e.1 = l.name
  single : ∀ e ∈ layer, e.2.IsSingle

variable {layer : List (String × Tree)} {t : Tree} {l : Leaf}

theorem IsLeafLayer.tail {e : String × Tree} (h : IsLeafLayer (e :: layer)) :
    IsLeafLayer layer where
  nodup := (List.nodup_cons.1 h.nodup).2
  leaf e' he' := h.leaf e' (List.mem_cons_of_mem _ he')
  single e' he' := h.single e' (List.mem_cons_of_mem _ he')

/-- What is set under the name of a leaf is what stands at its place. -/
theorem leaf?_applyLayer (h : IsLeafLayer layer) (t : Tree) (l : Leaf) :
    (applyLayer layer t).leaf? l.outer l.inner =
      (layer.lookup l.name).or (t.leaf? l.outer l.inner) := by
  induction layer generalizing t with
  | nil => rfl
  | cons e layer ih =>
    obtain ⟨name, value⟩ := e
    obtain ⟨l', rfl⟩ := h.leaf (name, value) List.mem_cons_self
    rw [applyLayer_cons, l'.ofName_name, ih h.tail, leaf?_set, lookup_cons_eq_ite]
    by_cases hl : l = l'
    · -- The layer does not set the leaf a second time.
      have hnone : layer.lookup l.name = none :=
        lookup_eq_none_of_notMem (hl ▸ (List.nodup_cons.1 h.nodup).1)
      have hvalue := (h.single (l'.name, value) List.mem_cons_self).overlay_eq
      rw [if_pos (Leaf.place_inj.2 hl), if_pos (Leaf.name_inj.2 hl), hnone, hvalue]
      rfl
    · rw [if_neg fun hplace => hl (Leaf.place_inj.1 hplace),
        if_neg fun hname => hl (Leaf.name_inj.1 hname)]

/-- What stands at no place of a leaf stays as it was. -/
theorem leaf?_applyLayer_of_not_leaf (h : IsLeafLayer layer) (t : Tree) {outer inner : String}
    (hplace : ∀ l : Leaf, ¬(outer = l.outer ∧ inner = l.inner)) :
    (applyLayer layer t).leaf? outer inner = t.leaf? outer inner := by
  induction layer generalizing t with
  | nil => rfl
  | cons e layer ih =>
    obtain ⟨name, value⟩ := e
    obtain ⟨l, rfl⟩ := h.leaf (name, value) List.mem_cons_self
    rw [applyLayer_cons, l.ofName_name, ih h.tail, leaf?_set, if_neg (hplace l)]

/-- The keys of the inner tables of a configuration. -/
def tableKeys : List String :=
  ["login", "session", "remember_me", "redis", "postgres", "verifier", "server"]

/-- The configuration can be laid over the defaults table by table. -/
structure Regular (t : Tree) : Prop where
  canonical : (Tree.table t.entries).Canonical
  plain : ∀ e ∈ t.entries, IsPlain e.1
  tables : ∀ key ∈ tableKeys, ∀ v, t.entries.lookup key = some v → ∃ entries, v = .table entries

theorem regular_emptyTable : Regular emptyTable where
  canonical := Tree.canonical_emptyTable
  plain e he := by cases he
  tables key _ v hv := by cases hv

theorem Regular.set (h : Regular t) (l : Leaf) {value : Tree} (hvalue : value.IsSingle) :
    Regular (Path.set ⟨l.outer, [.key l.inner]⟩ value t) := by
  have hset : Path.set ⟨l.outer, [.key l.inner]⟩ value t =
      .table (setKey l.outer (.table (setKey l.inner
        (((t.leaf? l.outer l.inner).getD .nil).overlay value) (t.child l.outer).entries))
          t.entries) := rfl
  rw [hset, hvalue.overlay_eq]
  refine ⟨?_, fun e he => ?_, fun key hkey v hv => ?_⟩
  · have hchild : (t.child l.outer).Canonical := h.canonical.child l.outer
    exact Tree.canonical_setKey (Tree.canonical_setKey (.single hvalue) hchild.entries_table)
      h.canonical
  · rcases mem_setKey he with rfl | he
    · exact l.isPlain_outer
    · exact h.plain e he
  · rw [Tree.entries, lookup_setKey] at hv
    split at hv
    · exact ⟨_, (Option.some.inj hv).symm⟩
    · exact h.tables key hkey v hv

theorem Regular.applyLayer (h : Regular t) (hlayer : IsLeafLayer layer) :
    Regular (applyLayer layer t) := by
  induction layer generalizing t with
  | nil => exact h
  | cons e layer ih =>
    obtain ⟨name, value⟩ := e
    obtain ⟨l, rfl⟩ := hlayer.leaf (name, value) List.mem_cons_self
    rw [applyLayer_cons, l.ofName_name]
    exact ih (h.set l (hlayer.single _ List.mem_cons_self)) hlayer.tail

/-! ### The defaults -/

theorem isLeafLayer_defaults : IsLeafLayer defaults := by
  have heq : defaults = Leaf.all.map fun l => (l.name, l.builtIn) := rfl
  refine ⟨by decide +kernel, fun e he => ?_, fun e he => ?_⟩
  all_goals
    rw [heq] at he
    obtain ⟨l, -, rfl⟩ := List.mem_map.1 he
  · exact ⟨l, rfl⟩
  · exact l.isSingle_builtIn

/-- The tree of the defaults. -/
def defaultTree : Tree := applyLayer defaults emptyTable

theorem regular_defaultTree : Regular defaultTree :=
  regular_emptyTable.applyLayer isLeafLayer_defaults

theorem leaf?_defaultTree (l : Leaf) : defaultTree.leaf? l.outer l.inner = some l.builtIn := by
  rw [defaultTree, leaf?_applyLayer isLeafLayer_defaults, l.lookup_defaults, Option.some_or]

/-- There are no other defaults. -/
theorem leaf?_defaultTree_of_not_leaf {outer inner : String}
    (hplace : ∀ l : Leaf, ¬(outer = l.outer ∧ inner = l.inner)) :
    defaultTree.leaf? outer inner = none :=
  leaf?_applyLayer_of_not_leaf isLeafLayer_defaults emptyTable hplace

end Settings

end WebLogin
