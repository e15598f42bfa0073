import Registrar.Number.Binary64

/-!
# Values of a configuration

The sources of a configuration are tables of values, which are laid over each
other one after the other.  Where a table meets a table their entries are
combined; any other value takes the place of what was there before.  A table
without entries takes no place but an empty one.
-/

namespace Registrar

inductive ConfigValue where
  | nil
  | bool (b : Bool)
  | int (i : Int)
  | real (x : Binary64)
  | text (s : String)
  | array (items : List ConfigValue)
  | table (entries : List (String × ConfigValue))
  deriving Inhabited

namespace ConfigValue

abbrev Entries := List (String × ConfigValue)

/-- Gives an entry a value that depends on the present one. -/
def alter (name : String) (f : Option ConfigValue → ConfigValue) : Entries → Entries
  | [] => [(name, f none)]
  | (n, v) :: rest =>
    if n = name then (n, f (some v)) :: rest else (n, v) :: alter name f rest

/-- The entries of a value, none unless it is a table. -/
def entries : ConfigValue → Entries
  | .table es => es
  | _ => []

def get? (v : ConfigValue) (name : String) : Option ConfigValue :=
  v.entries.lookup name

/-- What an empty table leaves in a place. -/
def orEmptyTable : Option ConfigValue → ConfigValue
  | some v => v
  | none => .table []

mutual

/-- Lays a value over what is in its place. -/
def laidOn (new : ConfigValue) (old : Option ConfigValue) : ConfigValue :=
  match new with
  | .table [] => orEmptyTable old
  | .table (e :: rest) => .table (entriesOn (e :: rest) (old.elim [] entries))
  | v => v

/-- Lays entries over others, in order. -/
def entriesOn (new : Entries) (old : Entries) : Entries :=
  match new with
  | [] => old
  | (name, v) :: rest => entriesOn rest (alter name v.laidOn old)

end

theorem lookup_alter_self (name : String) (f : Option ConfigValue → ConfigValue)
    (es : Entries) : (alter name f es).lookup name = some (f (es.lookup name)) := by
  induction es with
  | nil => simp [alter]
  | cons e rest ih =>
    obtain ⟨n, v⟩ := e
    by_cases h : n = name
    · simp [alter, h]
    · have h' : (name == n) = false := by simp [Ne.symm h]
      simp [alter, h, List.lookup_cons, h', ih]

theorem lookup_alter_of_ne {name other : String} (h : other ≠ name)
    (f : Option ConfigValue → ConfigValue) (es : Entries) :
    (alter name f es).lookup other = es.lookup other := by
  have h' : (other == name) = false := by simp [h]
  induction es with
  | nil => simp [alter, List.lookup_cons, h']
  | cons e rest ih =>
    obtain ⟨n, v⟩ := e
    by_cases hn : n = name
    · subst hn
      simp [alter, List.lookup_cons, h']
    · simp [alter, hn, List.lookup_cons, ih]

end ConfigValue

end Registrar
