import Registrar.Profile

/-!
# Guardians of students

A guardian link ties a user to a student that the user is responsible for.  It
rests on a grant of the guardian's role in the student's school.
-/

namespace Registrar

structure GuardianRow where
  id : Uuid
  roleId : Uuid
  userId : Uuid
  studentId : Uuid
  relation : Relation
  createdAt : Timestamp
  deriving DecidableEq

structure NewGuardian where
  userId : Uuid
  studentId : Uuid
  relation : Relation
  deriving DecidableEq

structure GuardianLink extends GuardianRow where
  user : Option User := none
  student : Option StudentShort := none
  deriving DecidableEq

def GuardianRow.bare (row : GuardianRow) : GuardianLink :=
  { toGuardianRow := row }

def GuardianRow.sortKey (row : GuardianRow) : SortKey :=
  ⟨row.createdAt, row.id⟩

/-- The condition shared by a list of links and its count. -/
structure GuardianQuery where
  studentId : Option Uuid := none
  userId : Option Uuid := none
  created : Option DateWindow := none
  deriving DecidableEq

def GuardianQuery.accepts (q : GuardianQuery) (row : GuardianRow) : Bool :=
  q.studentId.all (· == row.studentId) && q.userId.all (· == row.userId) &&
    q.created.all (·.contains row.createdAt)

end Registrar
