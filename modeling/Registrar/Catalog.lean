import Registrar.Timestamp
import Registrar.Uuid

/-!
# Organizations, schools, grades and groups

An organization runs schools; a school has grades, one for a level; a group is
a class of students inside a grade.  Rows are never changed once they are
stored, so the time of the last change is the time of creation.

The short forms are what other records show of these rows, with their own
relations filled in when they have been looked up.
-/

namespace Registrar

structure Organization where
  id : Uuid
  name : String
  createdAt : Timestamp
  deriving DecidableEq

structure NewOrganization where
  name : String
  deriving DecidableEq

structure School where
  id : Uuid
  organizationId : Uuid
  name : String
  createdAt : Timestamp
  deriving DecidableEq

structure NewSchool where
  organizationId : Uuid
  name : String
  deriving DecidableEq

/-- A year level of a school. -/
structure Grade where
  id : Uuid
  schoolId : Uuid
  level : Int
  name : String
  deriving DecidableEq

structure NewGrade where
  schoolId : Uuid
  level : Int
  name : String
  deriving DecidableEq

structure Group where
  id : Uuid
  schoolId : Uuid
  gradeId : Uuid
  classTeacherId : Option Uuid
  name : String
  createdAt : Timestamp
  deriving DecidableEq

structure NewGroup where
  schoolId : Uuid
  gradeId : Uuid
  classTeacherId : Option Uuid
  name : String
  deriving DecidableEq

structure OrganizationShort where
  id : Uuid
  name : String
  deriving DecidableEq

structure SchoolShort where
  id : Uuid
  organizationId : Uuid
  name : String
  organization : Option OrganizationShort := none
  deriving DecidableEq

structure TeacherShort where
  id : Uuid
  userId : Uuid
  firstName : String
  lastName : String
  deriving DecidableEq

structure StudentShort where
  id : Uuid
  userId : Uuid
  groupId : Option Uuid
  firstName : String
  lastName : String
  deriving DecidableEq

structure GroupShort where
  id : Uuid
  gradeId : Uuid
  classTeacherId : Option Uuid
  name : String
  grade : Option Grade := none
  classTeacher : Option TeacherShort := none
  deriving DecidableEq

def Organization.short (o : Organization) : OrganizationShort :=
  { id := o.id, name := o.name }

def School.short (s : School) : SchoolShort :=
  { id := s.id, organizationId := s.organizationId, name := s.name }

def Group.short (g : Group) : GroupShort :=
  { id := g.id, gradeId := g.gradeId, classTeacherId := g.classTeacherId,
    name := g.name }

end Registrar
