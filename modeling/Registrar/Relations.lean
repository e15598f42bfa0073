import Registrar.Guardianship

/-!
# Relations

A value refers to other rows by keys.  The keys of many values are collected
into one set for each sort of row; the rows found are indexed by their
identifiers; and every value is rebuilt with its relation fields filled from the
index.  A key without a row leaves its field empty.
-/

namespace Registrar

/-- Adds a key to an increasing list, once. -/
def insertKey (id : Uuid) : List Uuid → List Uuid
  | [] => [id]
  | other :: rest =>
    if id.toNat < other.toNat then id :: other :: rest
    else if id.toNat = other.toNat then other :: rest
    else other :: insertKey id rest

/-- The increasing list of the keys, each once. -/
def keySet (ids : List Uuid) : List Uuid :=
  ids.foldr insertKey []

/-- Keys for each sort of related row. -/
structure RelationKeys where
  users : List Uuid := []
  schools : List Uuid := []
  organizations : List Uuid := []
  groups : List Uuid := []
  grades : List Uuid := []
  teachers : List Uuid := []
  students : List Uuid := []
  deriving DecidableEq

namespace RelationKeys

def append (a b : RelationKeys) : RelationKeys where
  users := a.users ++ b.users
  schools := a.schools ++ b.schools
  organizations := a.organizations ++ b.organizations
  groups := a.groups ++ b.groups
  grades := a.grades ++ b.grades
  teachers := a.teachers ++ b.teachers
  students := a.students ++ b.students

/-- Every list increasing and without repetition. -/
def normalize (k : RelationKeys) : RelationKeys where
  users := keySet k.users
  schools := keySet k.schools
  organizations := keySet k.organizations
  groups := keySet k.groups
  grades := keySet k.grades
  teachers := keySet k.teachers
  students := keySet k.students

def isEmpty (k : RelationKeys) : Bool :=
  k == {}

end RelationKeys

/-- The last row with each identifier. -/
def indexById {α : Type} (id : α → Uuid) : List α → List α
  | [] => []
  | row :: rest =>
    if rest.any fun other => id other == id row then indexById id rest
    else row :: indexById id rest

/-- Related rows, each sort indexed by identifier. -/
structure Related where
  users : List User := []
  schools : List SchoolShort := []
  organizations : List OrganizationShort := []
  groups : List GroupShort := []
  grades : List Grade := []
  teachers : List TeacherShort := []
  students : List StudentShort := []

namespace Related

def user? (r : Related) (id : Uuid) : Option User :=
  r.users.find? (·.id == id)

def school? (r : Related) (id : Uuid) : Option SchoolShort :=
  r.schools.find? (·.id == id)

def organization? (r : Related) (id : Uuid) : Option OrganizationShort :=
  r.organizations.find? (·.id == id)

def group? (r : Related) (id : Uuid) : Option GroupShort :=
  r.groups.find? (·.id == id)

def grade? (r : Related) (id : Uuid) : Option Grade :=
  r.grades.find? (·.id == id)

def teacher? (r : Related) (id : Uuid) : Option TeacherShort :=
  r.teachers.find? (·.id == id)

def student? (r : Related) (id : Uuid) : Option StudentShort :=
  r.students.find? (·.id == id)

end Related

/-- A value with relation fields. -/
class Hydratable (α : Type) where
  keys : α → RelationKeys
  hydrate : Related → α → α

/-- The keys of many values, each sort increasing and without repetition. -/
def RelationKeys.ofAll {α : Type} [Hydratable α] (items : List α) : RelationKeys :=
  (items.foldr (fun item keys => (Hydratable.keys item).append keys) {}).normalize

def hydrateAll {α : Type} [Hydratable α] (related : Related) (items : List α) :
    List α :=
  items.map (Hydratable.hydrate related)

instance : Hydratable SchoolShort where
  keys s := { organizations := [s.organizationId] }
  hydrate r s := { s with organization := r.organization? s.organizationId }

instance : Hydratable GroupShort where
  keys g := { grades := [g.gradeId], teachers := g.classTeacherId.toList }
  hydrate r g :=
    { g with
      grade := r.grade? g.gradeId
      classTeacher := g.classTeacherId.bind r.teacher? }

instance : Hydratable RoleGrant where
  keys g :=
    { schools := g.scope.schoolId.toList
      organizations := g.scope.organizationId.toList
      groups := g.scope.groupId.toList }
  hydrate r g :=
    { g with
      school := g.scope.schoolId.bind r.school?
      organization := g.scope.organizationId.bind r.organization?
      group := g.scope.groupId.bind r.group? }

instance : Hydratable GuardianLink where
  keys l := { users := [l.userId], students := [l.studentId] }
  hydrate r l := { l with user := r.user? l.userId, student := r.student? l.studentId }

/-- The scope of a profile is looked up where its kind has it, and only a
student has a group. -/
instance : Hydratable Profile where
  keys p :=
    match p.kind.role.scopeKind with
    | .school =>
      { users := [p.userId], schools := [p.scopeId], groups := p.toProfileRow.placedIn.toList }
    | .organization => { users := [p.userId], organizations := [p.scopeId] }
  hydrate r p :=
    match p.kind.role.scopeKind with
    | .school =>
      { p with
        user := r.user? p.userId
        school := r.school? p.scopeId
        group := p.toProfileRow.placedIn.bind r.group? }
    | .organization =>
      { p with
        user := r.user? p.userId
        organization := r.organization? p.scopeId }

end Registrar
