import Registrar.Store.Request

/-!
# Serving requests on tables

A store decides by its policy which rows it accepts; everything else about
serving a request is the same in every store.  A refused insertion leaves the
tables as they are, an accepted one adds exactly the new row.
-/

namespace Registrar

/-- What a store decides: in which form a row joins the tables, if it may, and
how often a row is shown that is asked for more than once.  A new profile may be
compared with the stored ones in the order in which they are yielded. -/
structure Policy (ε : Type) where
  organization : Tables → Organization → Except ε Organization
  school : Tables → School → Except ε School
  grade : Tables → Grade → Except ε Grade
  group : Tables → Group → Except ε Group
  user : Tables → User → Except ε User
  grant : Tables → RoleGrantRow → Except ε RoleGrantRow
  profile : RowOrder → Tables → ProfileRow → Except ε ProfileRow
  guardian : Tables → GuardianRow → Except ε GuardianRow
  wanted : List Uuid → List Uuid

namespace Tables

variable {ε : Type}

/-- The row is added if it was accepted. -/
def insertRow {α : Type} (t : Tables) (accepted : Except ε α) (add : α → Tables) :
    Except ε α × Tables :=
  match accepted with
  | .ok row => (.ok row, add row)
  | .error e => (.error e, t)

def grantsInOrder (t : Tables) (userId : Uuid) : List RoleGrantRow :=
  let listing : Listing := {}
  listing.apply (fun row => ⟨row.createdAt, row.id⟩)
    (t.grants.filter (·.userId == userId))

def profilesMatching (t : Tables) (kind : ProfileKind) (query : ProfileQuery) :
    List ProfileRow :=
  (t.profilesOf kind).filter query.accepts

def guardiansMatching (t : Tables) (query : GuardianQuery) : List GuardianRow :=
  t.guardians.filter query.accepts

/-- The answer to a request, and the tables after it. -/
def serve (p : Policy ε) (t : Tables) (stamp : Stamp) :
    (request : Request) → Except ε request.Answer × Tables
  | .createUser new =>
    t.insertRow (p.user t (new.row stamp)) t.addUser
  | .userById id => (.ok (t.user? id), t)
  | .usersByIds ids => (.ok ((p.wanted ids).filterMap t.user?), t)
  | .userByEmail email => (.ok (t.users.find? (·.email == email)), t)
  | .createGrant new =>
    t.insertRow (p.grant t (new.row stamp)) t.addGrant
  | .grantById id => (.ok (t.grant? id), t)
  | .grantsOfUser userId => (.ok (t.grantsInOrder userId), t)
  | .createOrganization new =>
    t.insertRow (p.organization t (new.row stamp)) t.addOrganization
  | .createSchool new =>
    t.insertRow (p.school t (new.row stamp)) t.addSchool
  | .createGrade new =>
    t.insertRow (p.grade t (new.row stamp)) t.addGrade
  | .createGroup new =>
    t.insertRow (p.group t (new.row stamp)) t.addGroup
  | .organizationsByIds ids =>
    (.ok ((p.wanted ids).filterMap fun id => (t.organization? id).map Organization.short), t)
  | .schoolById id => (.ok ((t.school? id).map School.short), t)
  | .schoolsByIds ids =>
    (.ok ((p.wanted ids).filterMap fun id => (t.school? id).map School.short), t)
  | .gradesByIds ids => (.ok ((p.wanted ids).filterMap t.grade?), t)
  | .groupsByIds ids =>
    (.ok ((p.wanted ids).filterMap fun id => (t.group? id).map Group.short), t)
  | .teachersByIds ids => (.ok ((p.wanted ids).filterMap t.teacherShort?), t)
  | .studentsByIds ids => (.ok ((p.wanted ids).filterMap t.studentShort?), t)
  | .createProfile roleId new =>
    t.insertRow (p.profile stamp.order t (new.row roleId stamp)) t.addProfile
  | .profileById kind id => (.ok (t.profile? kind id), t)
  | .listProfiles kind query listing =>
    (.ok (listing.apply ProfileRow.sortKey (t.profilesMatching kind query)), t)
  | .countProfiles kind query => (.ok (t.profilesMatching kind query).length, t)
  | .createGuardian roleId new =>
    t.insertRow (p.guardian t (new.row roleId stamp)) t.addGuardian
  | .guardianById id => (.ok (t.guardian? id), t)
  | .listGuardians query listing =>
    (.ok (listing.apply GuardianRow.sortKey (t.guardiansMatching query)), t)
  | .countGuardians query => (.ok (t.guardiansMatching query).length, t)

end Tables

end Registrar
