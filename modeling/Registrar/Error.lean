import Registrar.Role
import Registrar.Scope

/-!
# Errors

What can go wrong, as causes.  Every error has one of four kinds, which is all
a caller outside the library is told; an annotation by `context` keeps the kind
of the error it surrounds.  The report of an error is its own message followed
by the messages of its sources, from the outside in.
-/

namespace Registrar

inductive ErrorKind where
  | notFound | conflict | badRequest | internal
  deriving DecidableEq

def ErrorKind.word : ErrorKind → String
  | .notFound => "not_found"
  | .conflict => "conflict"
  | .badRequest => "bad_request"
  | .internal => "internal"

/-- The way a unit of work was being closed. -/
inductive Closing where
  | commit | rollback
  deriving DecidableEq

def Closing.word : Closing → String
  | .commit => "commit"
  | .rollback => "rollback"

/-- A rule that a field of a new record did not satisfy. -/
inductive Rule where
  | length (min max : Option Nat)
  | range (min max : Option Int)
  | phone
  | email
  deriving DecidableEq

/-- A failed field and the rules that it failed, in the order in which they are
declared. -/
structure FieldFailure where
  field : String
  rules : List Rule
  deriving DecidableEq

/-- The errors of the register.  A `sources` list holds the messages of causes
outside the register, outermost first. -/
inductive AppError where
  | notFound (entity field value : String)
  | duplicate (entity field value : String)
  | roleAlreadyAssigned (userId : Uuid) (role : Role) (scopeId : Option Uuid)
  | validation (field reason : String)
  | invalid (first : FieldFailure) (others : List FieldFailure)
  | badRequest (message : String)
  | database (operation : String) (sources : List String)
  | connectionPool (sources : List String)
  | unitOfWork (closing : Closing) (source : AppError)
  | unitOfWorkAfter (closing : Closing) (source cause : AppError)
  | nestedUnitOfWork (opened : Uuid)
  | transactionClosed (id : Uuid)
  | deadlineExceeded (operation : String)
  | context (step : String) (source : AppError)
  | configuration (key : String) (sources : List String)
  | internal (sources : List String)
  deriving DecidableEq, Inhabited

abbrev Result := Except AppError

def Rule.name : Rule → String
  | .length _ _ => "length"
  | .range _ _ => "range"
  | .phone => "regex"
  | .email => "email"

namespace AppError

def describeScope : Option Uuid → String
  | some id => id.toText
  | none => "global"

def message : AppError → String
  | .notFound entity field value =>
    "Resource not found: " ++ entity ++ " with " ++ field ++ "=" ++ value
  | .duplicate entity field value =>
    "Duplicate entry: " ++ entity ++ "." ++ field ++ " = '" ++ value ++
      "' already exists"
  | .roleAlreadyAssigned userId role scopeId =>
    "User " ++ userId.toText ++ " already holds role '" ++ role.word ++
      "' in scope " ++ describeScope scopeId
  | .validation field reason => "Validation failed for " ++ field ++ ": " ++ reason
  | .invalid first _ =>
    "Validation failed for " ++ first.field ++ ": " ++
      ", ".intercalate (first.rules.map Rule.name)
  | .badRequest message => "Bad request: " ++ message
  | .database operation _ => "Database operation failed: " ++ operation
  | .connectionPool _ => "Connection pool error"
  | .unitOfWork closing _ => "Unit of work " ++ closing.word ++ " failed"
  | .unitOfWorkAfter closing _ cause =>
    "Unit of work " ++ closing.word ++ " failed while handling: " ++ cause.message
  | .nestedUnitOfWork opened =>
    "Unit of work " ++ opened.toText ++ " is already open on this context"
  | .transactionClosed id => "Unit of work " ++ id.toText ++ " is already closed"
  | .deadlineExceeded operation => "Deadline exceeded during " ++ operation
  | .context step _ => step
  | .configuration key _ => "Configuration error: " ++ key
  | .internal _ => "Internal error"

def kind : AppError → ErrorKind
  | .notFound .. => .notFound
  | .duplicate .. | .roleAlreadyAssigned .. => .conflict
  | .validation .. | .invalid .. | .badRequest .. => .badRequest
  | .context _ source => source.kind
  | .database .. | .connectionPool .. | .unitOfWork .. | .unitOfWorkAfter ..
  | .nestedUnitOfWork .. | .transactionClosed .. | .deadlineExceeded ..
  | .configuration .. | .internal .. => .internal

/-- The error beneath all annotations. -/
def root : AppError → AppError
  | .context _ source => source.root
  | e => e

/-- The messages of the sources, outermost first.  The error that a failed
rollback was handling is not a source; its message is part of the error's
own. -/
def chain : AppError → List String
  | .database _ sources | .connectionPool sources | .configuration _ sources
  | .internal sources => sources
  | .unitOfWork _ source | .unitOfWorkAfter _ source _ | .context _ source =>
    source.message :: source.chain
  | _ => []

/-- The message and the messages of the sources. -/
def report (e : AppError) : List String :=
  e.message :: e.chain

/-- The name of the cause. -/
def name : AppError → String
  | .notFound .. => "NotFound"
  | .duplicate .. => "Duplicate"
  | .roleAlreadyAssigned .. => "RoleAlreadyAssigned"
  | .validation .. | .invalid .. => "Validation"
  | .badRequest .. => "BadRequest"
  | .database .. => "Database"
  | .connectionPool .. => "ConnectionPool"
  | .unitOfWork .. | .unitOfWorkAfter .. => "UnitOfWork"
  | .nestedUnitOfWork .. => "NestedUnitOfWork"
  | .transactionClosed .. => "TransactionClosed"
  | .deadlineExceeded .. => "DeadlineExceeded"
  | .context .. => "Context"
  | .configuration .. => "Configuration"
  | .internal .. => "Internal"

end AppError

/-- Annotates the error of a result with the step that failed. -/
def Except.annotate {α : Type} (step : String) : Result α → Result α
  | .ok a => .ok a
  | .error e => .error (.context step e)

/-- Reads a word typed by a caller. -/
def Vocabulary.read {α : Type} [Vocabulary α] (s : String) : Result α :=
  match read? s with
  | some a => .ok a
  | none => .error (.badRequest (refusal α s))

end Registrar
