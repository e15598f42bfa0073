import Registrar.Error
import Registrar.Profile

/-!
# Events

What the register reports while it works, for the log.
-/

namespace Registrar

/-- How many related rows of each sort were looked up. -/
structure RelationCounts where
  users : Nat
  schools : Nat
  organizations : Nat
  groups : Nat
  students : Nat
  deriving DecidableEq

inductive Event where
  | organizationCreated (id : Uuid)
  | schoolCreated (id organizationId : Uuid)
  | groupCreated (id schoolId : Uuid)
  | userCreated (id : Uuid)
  | roleAssigned (userId : Uuid) (role : Role) (grantId : Uuid)
  | unitOpened (id : Uuid)
  | unitCommitted (id : Uuid)
  | unitRolledBack (id : Uuid) (error : AppError)
  | commitFailed (id : Uuid) (error : AppError)
  | rollbackFailed (id : Uuid) (error cause : AppError)
  | profileProvisioned (kind : ProfileKind) (id userId roleId : Uuid)
  | guardianAssigned (id userId studentId : Uuid)
  | relationsResolved (counts : RelationCounts)
  | settingsLoaded (environment source : String)
  | starting (name version : String)
  | migrationsApplied (count : Nat)
  | profileTotals (totals : List (ProfileKind × Nat))
  deriving DecidableEq

end Registrar
