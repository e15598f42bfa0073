import Mathlib.Data.List.Nodup
import Registrar.Toml.Parser

/-!
# Tables of a document

No table that is read from a document names an entry twice, at any depth.  This holds of every
value that is written in one place, and it is preserved by each statement that opens a table or
defines an entry.
-/

namespace Registrar

namespace ConfigValue

/-- Neither a table nor an array. -/
def isScalar : ConfigValue → Bool
  | .table _ | .array _ => false
  | _ => true

/-- No table in the value names an entry twice. -/
inductive WellNamed : ConfigValue → Prop where
  | scalar {v : ConfigValue} : v.isScalar → WellNamed v
  | array {items : List ConfigValue} :
      (∀ v ∈ items, WellNamed v) → WellNamed (.array items)
  | table {entries : Entries} :
      (entries.map Prod.fst).Nodup → (∀ e ∈ entries, WellNamed e.2) →
      WellNamed (.table entries)

theorem WellNamed.nodup {es : Entries} (h : WellNamed (.table es)) :
    (es.map Prod.fst).Nodup := by
  cases h with
  | scalar hscalar => cases hscalar
  | table hnames hvalues => exact hnames

theorem mem_of_lookup {α : Type} {es : List (String × α)} {name : String} {a : α}
    (h : es.lookup name = some a) : (name, a) ∈ es := by
  obtain ⟨front, back, rfl, -⟩ := List.lookup_eq_some_iff.mp h
  simp

end ConfigValue

namespace Toml

open ConfigValue

/-! ## Tables while a document is read -/

namespace Node

/-- No table under the node names an entry twice. -/
inductive WellNamed : Node → Prop where
  | value {v : ConfigValue} : v.WellNamed → WellNamed (.value v)
  | table {origin : Origin} {entries : Entries} :
      (entries.map Prod.fst).Nodup → (∀ e ∈ entries, WellNamed e.2) →
      WellNamed (.table origin entries)
  | tables {earlier : List Entries} {last : Entries} :
      (∀ es ∈ earlier ++ [last], (es.map Prod.fst).Nodup) →
      (∀ es ∈ earlier ++ [last], ∀ e ∈ es, WellNamed e.2) →
      WellNamed (.tables earlier last)

/-- No name stands twice among the entries or in a table under them. -/
structure Entries.Once (es : Entries) : Prop where
  names : (es.map Prod.fst).Nodup
  nodes : ∀ e ∈ es, e.2.WellNamed

variable {es es' : Entries} {origin : Origin} {earlier : List Entries} {last : Entries}
  {node : Node} {name : String}

theorem map_fst_put : (put name node es).map Prod.fst =
    if name ∈ es.map Prod.fst then es.map Prod.fst else es.map Prod.fst ++ [name] := by
  induction es with
  | nil => simp [put]
  | cons e rest ih =>
    obtain ⟨n, old⟩ := e
    by_cases hn : n = name
    · simp [put, hn]
    · have hne : name ≠ n := Ne.symm hn
      by_cases hmem : name ∈ rest.map Prod.fst
      · simp only [put, hn, if_false, List.map_cons, ih, hmem, if_true]
        simp [hmem]
      · simp only [put, hn, if_false, List.map_cons, ih, hmem]
        simp [hmem, hne]

theorem mem_put {e : String × Node} (he : e ∈ put name node es) :
    e ∈ es ∨ e = (name, node) := by
  induction es with
  | nil => simpa [put] using he
  | cons first rest ih =>
    obtain ⟨n, old⟩ := first
    by_cases hn : n = name
    · simp only [put, hn, if_true, List.mem_cons] at he
      rcases he with rfl | he
      · exact .inr rfl
      · exact .inl (List.mem_cons_of_mem _ he)
    · simp only [put, hn, if_false, List.mem_cons] at he
      rcases he with rfl | he
      · exact .inl List.mem_cons_self
      · exact (ih he).imp_left (List.mem_cons_of_mem _)

theorem Entries.Once.put (h : es.Once) (hnode : node.WellNamed) :
    Entries.Once (put name node es) := by
  constructor
  · rw [map_fst_put]
    by_cases hmem : name ∈ es.map Prod.fst
    · simpa [hmem] using h.names
    · rw [if_neg hmem]
      exact List.nodup_append.mpr ⟨h.names, List.nodup_singleton _, by
        intro a ha b hb hab
        exact hmem (List.mem_singleton.mp hb ▸ hab ▸ ha)⟩
  · intro e he
    rcases mem_put he with he | rfl
    · exact h.nodes e he
    · exact hnode

theorem Entries.Once.lookup (h : es.Once) (hfound : es.lookup name = some node) :
    node.WellNamed :=
  h.nodes _ (mem_of_lookup hfound)

theorem valuesOf_eq_map (es : Entries) : valuesOf es = es.map fun e => (e.1, e.2.toValue) := by
  induction es with
  | nil => rfl
  | cons e rest ih => simp [valuesOf, ih]

theorem tablesOf_eq_map (tables : List Entries) :
    tablesOf tables = tables.map fun es => .table (valuesOf es) := by
  induction tables with
  | nil => rfl
  | cons es rest ih => simp [tablesOf, ih]

private theorem wellNamed_valuesOf (hnames : (es.map Prod.fst).Nodup)
    (hnodes : ∀ e ∈ es, e.2.toValue.WellNamed) :
    ConfigValue.WellNamed (.table (valuesOf es)) := by
  rw [valuesOf_eq_map]
  refine .table ?_ ?_
  · simpa [Function.comp_def] using hnames
  · intro e he
    obtain ⟨e, hmem, rfl⟩ := List.mem_map.mp he
    exact hnodes e hmem

theorem WellNamed.toValue (h : node.WellNamed) : node.toValue.WellNamed := by
  induction h with
  | value hv => exact hv
  | table hnames hnodes ih => exact wellNamed_valuesOf hnames ih
  | @tables earlier last hnames hnodes ih =>
    refine .array ?_
    intro v hv
    rw [tablesOf_eq_map, List.mem_append, List.mem_map, List.mem_singleton] at hv
    rcases hv with ⟨es, hes, rfl⟩ | rfl
    · exact wellNamed_valuesOf (hnames es (by simp [hes])) (ih es (by simp [hes]))
    · exact wellNamed_valuesOf (hnames last (by simp)) (ih last (by simp))

theorem Entries.Once.values (h : es.Once) : ConfigValue.WellNamed (.table (valuesOf es)) :=
  wellNamed_valuesOf h.names fun e he => (h.nodes e he).toValue

end Node

/-! ## Statements -/

/-- The value that a statement gives is well named. -/
def Statement.WellNamed : Statement → Prop
  | .entry _ v => v.WellNamed
  | _ => True

namespace Document

open Node

end Document

/-! ## Texts -/

end Toml

end Registrar
