import Registrar.Settings.Value

/-!
# Documents of tables

A document defines entries one after the other, each under a path of names.  No
entry is defined twice: a table has one header, tables that were made by points
in a key are not reopened by a header, and the other way round.
-/

namespace Registrar.Toml

/-- How a table came to be: as a step of a longer path, by its own header, or by
the points in a key. -/
inductive Origin where
  | implied | header | dotted
  deriving DecidableEq

/-- What a name stands for while a document is read.  Of the tables of an array
only the last is still open. -/
inductive Node where
  | value (v : ConfigValue)
  | table (origin : Origin) (entries : List (String × Node))
  | tables (earlier : List (List (String × Node))) (last : List (String × Node))
  deriving Inhabited

namespace Node

abbrev Entries := List (String × Node)

/-- Replaces the entry of a name, or adds it at the end. -/
def put (name : String) (node : Node) : Entries → Entries
  | [] => [(name, node)]
  | (n, old) :: rest =>
    if n = name then (n, node) :: rest else (n, old) :: put name node rest

/-- Changes the table at a path; missing tables are implied by it. -/
def alterTable? (f : Entries → Option Entries) : List String → Entries → Option Entries
  | [], es => f es
  | name :: rest, es =>
    match es.lookup name with
    | none => (alterTable? f rest []).map fun inner => put name (.table .implied inner) es
    | some (.table origin inner) =>
      (alterTable? f rest inner).map fun inner => put name (.table origin inner) es
    | some (.tables earlier last) =>
      (alterTable? f rest last).map fun last => put name (.tables earlier last) es
    | some (.value _) => none

/-- Opens a table by its header. -/
def openTable? (name : String) (es : Entries) : Option Entries :=
  match es.lookup name with
  | none => some (put name (.table .header []) es)
  | some (.table .implied inner) => some (put name (.table .header inner) es)
  | some _ => none

/-- Opens one more table of an array of tables. -/
def openItem? (name : String) (es : Entries) : Option Entries :=
  match es.lookup name with
  | none => some (put name (.tables [] []) es)
  | some (.tables earlier last) => some (put name (.tables (earlier ++ [last]) []) es)
  | some _ => none

/-- Defines a value under a key with points in it. -/
def define? (v : ConfigValue) : List String → Entries → Option Entries
  | [], _ => none
  | [name], es =>
    match es.lookup name with
    | none => some (put name (.value v) es)
    | some _ => none
  | name :: rest, es =>
    match es.lookup name with
    | none => (define? v rest []).map fun inner => put name (.table .dotted inner) es
    | some (.table .dotted inner) =>
      (define? v rest inner).map fun inner => put name (.table .dotted inner) es
    | some _ => none

mutual

def toValue : Node → ConfigValue
  | .value v => v
  | .table _ es => .table (valuesOf es)
  | .tables earlier last => .array (tablesOf earlier ++ [.table (valuesOf last)])

def valuesOf : List (String × Node) → List (String × ConfigValue)
  | [] => []
  | (name, node) :: rest => (name, node.toValue) :: valuesOf rest

def tablesOf : List (List (String × Node)) → List ConfigValue
  | [] => []
  | es :: rest => .table (valuesOf es) :: tablesOf rest

end

end Node

/-- One line of a document. -/
inductive Statement where
  | table (path : List String)
  | item (path : List String)
  | entry (path : List String) (v : ConfigValue)

/-- A document as far as it is read: its entries, and the path of the table that
entries are defined in. -/
structure Document where
  current : List String := []
  entries : Node.Entries := []

namespace Document

open Node

/-- Opens the table at a path in one of the two ways. -/
def openAt? (d : Document) (way : String → Entries → Option Entries)
    (path : List String) : Option Document :=
  match path.getLast? with
  | none => none
  | some name =>
    (alterTable? (way name) path.dropLast d.entries).map fun entries =>
      { current := path, entries }

def add? (d : Document) : Statement → Option Document
  | .table path => d.openAt? openTable? path
  | .item path => d.openAt? openItem? path
  | .entry path v =>
    (alterTable? (define? v path) d.current d.entries).map fun entries =>
      { d with entries }

/-- The entries that statements define, if no two of them are at odds. -/
def build? (statements : List Statement) : Option ConfigValue.Entries :=
  (statements.foldlM add? ({} : Document)).map fun d => valuesOf d.entries

/-- The table that a list of keys and values in braces stands for. -/
def inline? (members : List (List String × ConfigValue)) : Option ConfigValue :=
  build? (members.map fun (path, v) => .entry path v) |>.map .table

end Document

end Registrar.Toml
