import Registrar.Email
import Registrar.Guardianship
import Registrar.Phone

/-!
# Field rules

Every new record has rules for its fields.  All the failed rules of all the
fields are reported, the fields in their declared order.  A text is measured in
characters; an absent optional field breaks no rule.
-/

namespace Registrar

namespace Rule

/-- Whether a text satisfies a rule; a range is no rule for a text. -/
def acceptsText (rule : Rule) (s : String) : Bool :=
  match rule with
  | .length min max =>
    min.all (· ≤ s.toList.length) && max.all (s.toList.length ≤ ·)
  | .phone => isPhone s
  | .email => isEmail s
  | .range _ _ => true

def acceptsInt (rule : Rule) (i : Int) : Bool :=
  match rule with
  | .range min max => min.all (· ≤ i) && max.all (i ≤ ·)
  | _ => true

end Rule

namespace FieldFailure

def ofText (field : String) (rules : List Rule) (s : String) : Option FieldFailure :=
  match rules.filter fun rule => !rule.acceptsText s with
  | [] => none
  | failed => some ⟨field, failed⟩

def ofOptional (field : String) (rules : List Rule) (s : Option String) :
    Option FieldFailure :=
  s.bind (ofText field rules)

def ofInt (field : String) (rules : List Rule) (i : Int) : Option FieldFailure :=
  match rules.filter fun rule => !rule.acceptsInt i with
  | [] => none
  | failed => some ⟨field, failed⟩

end FieldFailure

open FieldFailure

/-- A new record with rules for its fields. -/
class Ruled (α : Type) where
  failures : α → List FieldFailure

/-- Refuses a record that breaks a rule. -/
def Ruled.check {α : Type} [Ruled α] (new : α) : Result Unit :=
  match failures new with
  | [] => .ok ()
  | first :: others => .error (.invalid first others)

def nameRule (max : Nat) : Rule :=
  .length (some 1) (some max)

def contactFailures (phone email : Option String) : List FieldFailure :=
  [ofOptional "phone" [.phone] phone, ofOptional "email" [.email] email].filterMap id

instance : Ruled NewOrganization where
  failures new := (ofText "name" [nameRule 200] new.name).toList

instance : Ruled NewSchool where
  failures new := (ofText "name" [nameRule 200] new.name).toList

instance : Ruled NewGrade where
  failures new :=
    [ofInt "level" [.range (some 1) (some 12)] new.level,
      ofText "name" [nameRule 100] new.name].filterMap id

instance : Ruled NewGroup where
  failures new := (ofText "name" [nameRule 100] new.name).toList

instance : Ruled NewUser where
  failures new :=
    [ofText "first_name" [nameRule 100] new.firstName,
      ofText "last_name" [nameRule 100] new.lastName,
      ofOptional "middle_name" [.length none (some 100)] new.middleName,
      ofOptional "phone" [.phone] new.phone,
      ofText "email" [.email] new.email,
      ofText "password_hash" [.length (some 1) none] new.passwordHash].filterMap id

instance : Ruled NewProfile where
  failures new := contactFailures new.phone new.email

/-- The fields of a guardian link have no rules. -/
instance : Ruled NewGuardian where
  failures _ := []

end Registrar
