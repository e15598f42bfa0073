import Registrar.Error
import Registrar.Violation.ConstraintName

/-!
# Decoding a violation

What a database reports about a failed statement is turned into an error of the
register.  Unique violations are always conflicts, whatever their text; the
index that keeps a role from being granted twice has an error of its own.  A
missing value, a dangling reference and a failed condition become validation
errors when the message names what they need, and are database errors
otherwise, as is everything else.
-/

namespace Registrar

namespace Violation

open Text

/-- Table, columns and values of a violated key. -/
structure KeyFacts where
  entity : String
  field : String
  value : String
  deriving DecidableEq

def entityOr (fallback : List Char → Option (List Char)) (message : List Char)
    (named : Option (List Char)) : String :=
  String.ofList ((named <|> fallback message).getD "resource".toList)

/-- Reads a key violation; `suffix` is the one of the constraint's sort. -/
def readKey? (suffix : String) (message : String) (constraint : Option String) :
    Option KeyFacts := do
  let text := message.toList
  let (columns, values) ← key? text
  let named := constraint.bind fun name =>
    tableOfName? suffix.toList columns name.toList
  some
    { entity := entityOr table? text named
      field := String.ofList columns
      value := String.ofList values }

def readUnique? (message : String) (constraint : Option String) : Option KeyFacts :=
  readKey? "_key" message constraint

def readReference? (message : String) (constraint : Option String) : Option KeyFacts :=
  readKey? "_fkey" message constraint

/-- Table and column of a missing value. -/
def readMissing? (message : String) : Option (String × String) := do
  let column ← column? message.toList
  some (entityOr table? message.toList none, String.ofList column)

/-- Table and condition of a failed check. -/
def readCheck? (message : String) (constraint : Option String) :
    Option (String × String) := do
  let table ← table? message.toList
  let named := do
    let rest ← afterPrefix? table (← constraint).toList
    let rest ← afterPrefix? ['_'] rest
    beforeSuffix? "_check".toList rest
  some (String.ofList table, String.ofList (named.getD "check".toList))

end Violation

/-- What sort of constraint a statement violated; the other sorts of failure
have only a name. -/
inductive ViolationSort where
  | unique | missing | reference | check
  | other (name : String)
  deriving DecidableEq

def ViolationSort.name : ViolationSort → String
  | .unique => "UniqueViolation"
  | .missing => "NotNullViolation"
  | .reference => "ForeignKeyViolation"
  | .check => "CheckViolation"
  | .other name => name

/-- The report of a failed statement. -/
structure ViolationReport where
  kind : ViolationSort
  message : String
  detail : Option String := none
  constraint : Option String := none
  deriving DecidableEq

/-- What can go wrong with a statement. -/
inductive StatementError where
  | reported (report : ViolationReport)
  | noRow
  | rollbackRequested
  | alreadyInTransaction
  | notInTransaction
  | brokenTransactions
  | unbuildable (text : String)
  deriving DecidableEq

/-- The text of a failure that no constraint explains. -/
def StatementError.text : StatementError → String
  | .reported r => r.kind.name ++ ": " ++ r.message
  | .noRow => "Record not found"
  | .rollbackRequested => "You have asked diesel to rollback the transaction"
  | .alreadyInTransaction =>
    "Cannot perform this operation while a transaction is open"
  | .notInTransaction =>
    "Cannot perform this operation outside of a transaction"
  | .brokenTransactions => "The transaction manager is broken"
  | .unbuildable text => text

namespace ViolationReport

open Violation

/-- The unique index over user, role and scope; guardians are outside it. -/
def roleScopeIndex : String := "user_roles_user_id_role_scope_id_key"

def unknownValue : String := "unknown"

/-- Message and detail as one text. -/
def fullText (r : ViolationReport) : String :=
  r.message ++ "\nDETAIL: " ++ r.detail.getD ""

/-- User, role and scope of a role granted twice. -/
def roleConflict? (text : String) : Option AppError := do
  let (_, values) ← key? text.toList
  match parts values with
  | [user, role, scope] =>
    let user ← Uuid.ofChars? user
    let role ← Vocabulary.read? (String.ofList role)
    some (.roleAlreadyAssigned user role (Uuid.ofChars? scope))
  | _ => none

/-- A conflict of which only the constraint's name is known. -/
def undetailedDuplicate (constraint : Option String) : AppError :=
  match constraint.bind fun name => splitUnique? name.toList with
  | some (table, columns) => .duplicate table (String.ofList columns) unknownValue
  | none => .duplicate "resource" (constraint.getD unknownValue) unknownValue

def uniqueError (r : ViolationReport) : AppError :=
  if r.constraint = some roleScopeIndex then
    (roleConflict? r.fullText).getD
      (.duplicate "user_roles" "user_id, role, scope_id" unknownValue)
  else
    match readUnique? r.fullText r.constraint with
    | some facts => .duplicate facts.entity facts.field facts.value
    | none => undetailedDuplicate r.constraint

def missingError? (r : ViolationReport) : Option AppError :=
  (readMissing? r.fullText).map fun (entity, field) =>
    .validation field ("Field is required for " ++ entity)

def referenceError? (r : ViolationReport) : Option AppError :=
  (readReference? r.fullText r.constraint).map fun facts =>
    .validation facts.field
      ("Invalid reference from " ++ facts.entity ++ " with value '" ++
        facts.value ++ "'")

def checkError? (r : ViolationReport) : Option AppError :=
  (readCheck? r.fullText r.constraint).map fun (entity, field) =>
    .validation field ("Check constraint failed for " ++ entity ++ " field")

/-- The error of the register, if the report has the facts for one. -/
def decode? (r : ViolationReport) : Option AppError :=
  match r.kind with
  | .unique => some r.uniqueError
  | .missing => r.missingError?
  | .reference => r.referenceError?
  | .check => r.checkError?
  | .other _ => none

end ViolationReport

/-- The error of the register for a statement that failed during `operation`. -/
def StatementError.toAppError (operation : String) : StatementError → AppError
  | .reported r => r.decode?.getD (.database operation [(reported r).text])
  | .noRow => .notFound "resource" "id" "unknown"
  | e => .database operation [e.text]

/-- The operation of a failure that nobody named. -/
def StatementError.anyOperation : String := "database operation"

end Registrar
