import Registrar.Log.Record
import Registrar.Text.Blank
import Registrar.Text.Digits
import Registrar.Text.Pieces

/-!
# Filters

A filter decides which records are written.  It is a list of directives, each of
which sets the most that is said from some target on; the directive that fits a
record most closely decides, and without one the record is not written.  A
directive may also ask for fields by name, or speak of records inside a span; no
record here is inside one.
-/

namespace Registrar

/-- The most that is said, by verbosity; zero is silence. -/
abbrev Threshold := Nat

structure Directive where
  target : Option String := none
  fields : List String := []
  threshold : Threshold
  deriving DecidableEq

namespace Threshold

open Text

def all : Threshold := LogLevel.verbosity .trace

def words : List (List Char × Threshold) :=
  ("off".toList, 0) :: LogLevel.all.map fun l => (l.word.toList, l.verbosity)

/-- A word in any case, or its number. -/
def read? (s : List Char) : Option Threshold :=
  let number := readNat? (match s with | '+' :: rest => rest | s => s)
  match number.filter (· ≤ all) with
  | some n => some n
  | none => words.lookup (fold s)

end Threshold

namespace Directive

open Text

/-- A word alone is a level, or else a target of which everything is said. -/
def ofWord (s : List Char) : Directive :=
  match Threshold.read? s with
  | some threshold => { threshold }
  | none => { target := some (String.ofList s), threshold := Threshold.all }

/-- The level behind the equals sign; nothing there means everything. -/
def readThreshold? : List Char → Option Threshold
  | [] => some Threshold.all
  | s => Threshold.read? s

/-- What stands in brackets: the name of a span, and in braces the fields.  The
answer is the names of the fields if no span is named and no field has a value. -/
def readScope? (s : List Char) : Option (Option (List String)) :=
  let name := s.takeWhile (· ≠ '\x7b')
  match s.dropWhile (· ≠ '\x7b') with
  | [] => some none
  | _ :: inside => do
    let inside ← beforeSuffix? ['\x7d'] inside
    let fields := splitAt ',' inside
    if fields.any List.isEmpty then none
    else if name = [] ∧ fields.all (fun f => !f.contains '=') then
      some (some (fields.map String.ofList))
    else some none

/-- A directive that is understood but speaks of spans has no effect. -/
def readScoped? (target : Option String) (s : List Char) : Option (Option Directive) := do
  let inside := s.takeWhile (· ≠ ']')
  match s.dropWhile (· ≠ ']') with
  | [] => none
  | _ :: rest =>
    let scope ← readScope? inside
    let threshold ←
      match rest with
      | [] => some Threshold.all
      | '=' :: level => readThreshold? level
      | _ => none
    return scope.map fun fields => { target, fields, threshold }

def startsWell (c : Char) : Bool :=
  c == '-' || c == ':' || c == '_' || c.isAlphanum || 128 ≤ c.toNat

/-- A word behind blanks is a target, which nothing has; nothing else may stand
behind blanks. -/
def readIndented? (s : List Char) : Option Directive :=
  match trimStart s with
  | [] => none
  | c :: rest =>
    if startsWell c && !rest.contains '=' && !rest.contains '[' then
      some { target := some (String.ofList s), threshold := Threshold.all }
    else none

def read? (s : List Char) : Option (Option Directive) :=
  match s with
  | [] => none
  | '[' :: rest => readScoped? none rest
  | c :: _ =>
    if isBlank c then (readIndented? s).map some
    else if !startsWell c then none
    else
      let front := s.takeWhile fun c => c ≠ '=' ∧ c ≠ '['
      match s.dropWhile fun c => c ≠ '=' ∧ c ≠ '[' with
      | '=' :: level =>
        (readThreshold? level).map fun threshold =>
          some { target := some (String.ofList front), threshold }
      | '[' :: rest => readScoped? (some (String.ofList front)) rest
      | _ => some (some (ofWord front))

/-- Whether a directive speaks of a record. -/
def fits (d : Directive) (r : LogRecord) : Bool :=
  d.target.all (fun t => r.target.startsWith t) &&
    d.fields.all fun name => name == "message" || (r.fields.lookup name).isSome

/-- A target counts more than none and a longer one more than a shorter one; of
equals the one with more fields counts more. -/
def closeness (d : Directive) : Nat × Nat :=
  (d.target.elim 0 (fun t => t.utf8ByteSize + 1), d.fields.length)

def isCloser (d e : Directive) : Bool :=
  e.closeness.1 < d.closeness.1 ||
    (e.closeness.1 == d.closeness.1 && e.closeness.2 ≤ d.closeness.2)

end Directive

structure LogFilter where
  directives : List Directive
  deriving DecidableEq

namespace LogFilter

open Text

/-- Directives with commas between them; pieces without text are skipped. -/
def read? (s : String) : Option LogFilter :=
  let pieces := (splitAt ',' s.toList).filter (· ≠ [])
  (pieces.mapM Directive.read?).map fun found => ⟨found.filterMap id⟩

/-- The directive that fits a record most closely, the last of equals. -/
def deciding? (f : LogFilter) (r : LogRecord) : Option Directive :=
  (f.directives.filter (·.fits r)).foldl
    (fun best d =>
      match best with
      | none => some d
      | some e => some (if d.isCloser e then d else e)) none

def accepts (f : LogFilter) (r : LogRecord) : Bool :=
  match f.deciding? r with
  | some d => r.level.verbosity ≤ d.threshold
  | none => false

def ofLevel (level : LogLevel) : LogFilter :=
  ⟨[{ threshold := level.verbosity }]⟩

end LogFilter

/-- The filter of a log: the one that the environment asks for if it can be read,
or else the configured level. -/
def LogConfig.filter (c : LogConfig) (asked : Option String) : LogFilter :=
  match asked.bind LogFilter.read? with
  | some f => f
  | none => .ofLevel ((c.parseLevel.toOption).getD .info)

end Registrar
