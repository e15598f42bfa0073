import Registrar.Vocabulary

/-!
# Roles, genders and relations

The words of the register.  A role decides where it may be held: an owner holds
it in an organization, everybody else in a school.  A guardian may hold the role
any number of times in one place, every other role once.
-/

namespace Registrar

inductive Role where
  | owner | director | headmaster | teacher | student | guardian
  deriving DecidableEq, Inhabited

inductive Gender where
  | male | female
  deriving DecidableEq, Inhabited

/-- How a guardian is related to a student. -/
inductive Relation where
  | father | mother | brother | sister | grandfather | grandmother
  | uncle | aunt | other
  deriving DecidableEq, Inhabited

def Role.word : Role → String
  | .owner => "owner"
  | .director => "director"
  | .headmaster => "headmaster"
  | .teacher => "teacher"
  | .student => "student"
  | .guardian => "guardian"

def Gender.word : Gender → String
  | .male => "male"
  | .female => "female"

def Relation.word : Relation → String
  | .father => "father"
  | .mother => "mother"
  | .brother => "brother"
  | .sister => "sister"
  | .grandfather => "grandfather"
  | .grandmother => "grandmother"
  | .uncle => "uncle"
  | .aunt => "aunt"
  | .other => "other"

def Role.name : Role → String
  | .owner => "Owner"
  | .director => "Director"
  | .headmaster => "Headmaster"
  | .teacher => "Teacher"
  | .student => "Student"
  | .guardian => "Guardian"

def Gender.name : Gender → String
  | .male => "Male"
  | .female => "Female"

def Relation.name : Relation → String
  | .father => "Father"
  | .mother => "Mother"
  | .brother => "Brother"
  | .sister => "Sister"
  | .grandfather => "Grandfather"
  | .grandmother => "Grandmother"
  | .uncle => "Uncle"
  | .aunt => "Aunt"
  | .other => "Other"

instance : Vocabulary Role where
  noun := "role"
  all := [.owner, .director, .headmaster, .teacher, .student, .guardian]
  word := Role.word
  name := Role.name

instance : Vocabulary Gender where
  noun := "gender"
  all := [.male, .female]
  word := Gender.word
  name := Gender.name

instance : Vocabulary Relation where
  noun := "guardian relation"
  all := [.father, .mother, .brother, .sister, .grandfather, .grandmother,
    .uncle, .aunt, .other]
  word := Relation.word
  name := Relation.name

/-- The column of a role grant that says where the role is held. -/
inductive ScopeKind where
  | school | organization
  deriving DecidableEq

namespace Role

/-- Whether a user may hold the role only once in one place. -/
def isScopeUnique : Role → Bool
  | .guardian => false
  | _ => true

def scopeKind : Role → ScopeKind
  | .owner => .organization
  | _ => .school

end Role

end Registrar
