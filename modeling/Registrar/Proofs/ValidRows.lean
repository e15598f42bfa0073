import Registrar.Proofs.ReferentialIntegrity

/-!
# Stored rows satisfy their rules

The store checks references and duplicates, not the rules of the fields: these are checked by
the services, each before it asks the store for anything.  Here the rules are written out for
the rows of every table (`Tables.Valid`), apart from the functions that check them, and shown
to hold in every store that services lead to (`stored_rows_valid`).
-/

namespace Registrar

/-! ## The rules, written out -/

/-- A text of one up to `max` characters. -/
def IsName (max : Nat) (s : String) : Prop :=
  1 ≤ s.toList.length ∧ s.toList.length ≤ max

/-- A plus sign, a digit that is not zero, seven to fourteen digits, and nothing else. -/
def IsInternational (s : String) : Prop :=
  ∃ first rest, s.toList = '+' :: first :: rest ∧ ('1' ≤ first ∧ first ≤ '9') ∧
    (∀ c ∈ rest, '0' ≤ c ∧ c ≤ '9') ∧ 7 ≤ rest.length ∧ rest.length ≤ 14

structure Grade.Valid (row : Grade) : Prop where
  level : 1 ≤ row.level ∧ row.level ≤ 12
  name : IsName 100 row.name

structure User.Valid (row : User) : Prop where
  firstName : IsName 100 row.firstName
  lastName : IsName 100 row.lastName
  middleName : ∀ name ∈ row.middleName, name.toList.length ≤ 100
  phone : ∀ phone ∈ row.phone, IsInternational phone
  email : isEmail row.email
  passwordHash : row.passwordHash ≠ ""

structure ProfileRow.Valid (row : ProfileRow) : Prop where
  phone : ∀ phone ∈ row.phone, IsInternational phone
  email : ∀ email ∈ row.email, isEmail email

/-- Role grants and guardian links have no rules. -/
structure Tables.Valid (t : Tables) : Prop where
  organizations : ∀ row ∈ t.organizations, IsName 200 row.name
  schools : ∀ row ∈ t.schools, IsName 200 row.name
  grades : ∀ row ∈ t.grades, row.Valid
  groups : ∀ row ∈ t.groups, IsName 100 row.name
  users : ∀ row ∈ t.users, row.Valid
  profiles : ∀ row ∈ t.profiles, row.Valid

/-! ## What the checks accept -/

theorem isPhone_iff {s : String} : isPhone s ↔ IsInternational s := by
  unfold isPhone IsInternational
  split
  · rename_i first rest hlist
    rw [hlist]
    simp [Text.isDigit, and_assoc]
  · rename_i hlist
    have hnone : ∀ first rest, s.toList ≠ '+' :: first :: rest := hlist
    simp [hnone]

namespace Rule

variable {s : String} {max : Nat}

@[simp] theorem acceptsText_nameRule : (nameRule max).acceptsText s ↔ IsName max s := by
  simp [nameRule, acceptsText, IsName]

@[simp] theorem acceptsText_atMost :
    (length none (some max)).acceptsText s ↔ s.toList.length ≤ max := by
  simp [acceptsText]

@[simp] theorem acceptsText_nonempty : (length (some 1) none).acceptsText s ↔ s ≠ "" := by
  simp [acceptsText, Nat.one_le_iff_ne_zero]

@[simp] theorem acceptsText_phone : phone.acceptsText s ↔ IsInternational s :=
  isPhone_iff

@[simp] theorem acceptsText_email : email.acceptsText s ↔ isEmail s :=
  Iff.rfl

@[simp] theorem acceptsInt_range {min max i : Int} :
    (range (some min) (some max)).acceptsInt i ↔ min ≤ i ∧ i ≤ max := by
  simp [acceptsInt]

end Rule

namespace FieldFailure

variable {field : String} {rules : List Rule}

theorem ofText_eq_none_iff {s : String} :
    ofText field rules s = none ↔ ∀ rule ∈ rules, rule.acceptsText s := by
  have hfilter : (rules.filter fun rule => !rule.acceptsText s) = [] ↔
      ∀ rule ∈ rules, rule.acceptsText s := by
    simp [List.filter_eq_nil_iff]
  rw [← hfilter, ofText]
  split <;> simp_all

theorem ofInt_eq_none_iff {i : Int} :
    ofInt field rules i = none ↔ ∀ rule ∈ rules, rule.acceptsInt i := by
  have hfilter : (rules.filter fun rule => !rule.acceptsInt i) = [] ↔
      ∀ rule ∈ rules, rule.acceptsInt i := by
    simp [List.filter_eq_nil_iff]
  rw [← hfilter, ofInt]
  split <;> simp_all

theorem ofOptional_eq_none_iff {s : Option String} :
    ofOptional field rules s = none ↔ ∀ text ∈ s, ∀ rule ∈ rules, rule.acceptsText text := by
  cases s with
  | none => simp [ofOptional]
  | some text => simp [ofOptional, ofText_eq_none_iff]

end FieldFailure

open FieldFailure

theorem Ruled.check_eq_ok_iff {α : Type} [Ruled α] {new : α} :
    check new = .ok () ↔ failures new = [] := by
  unfold check
  cases failures new <;> simp

theorem NewOrganization.check_eq_ok_iff {new : NewOrganization} :
    Ruled.check new = .ok () ↔ IsName 200 new.name := by
  simp [Ruled.check_eq_ok_iff, Ruled.failures, ofText_eq_none_iff]

theorem NewSchool.check_eq_ok_iff {new : NewSchool} :
    Ruled.check new = .ok () ↔ IsName 200 new.name := by
  simp [Ruled.check_eq_ok_iff, Ruled.failures, ofText_eq_none_iff]

theorem NewGroup.check_eq_ok_iff {new : NewGroup} :
    Ruled.check new = .ok () ↔ IsName 100 new.name := by
  simp [Ruled.check_eq_ok_iff, Ruled.failures, ofText_eq_none_iff]

theorem NewGrade.check_eq_ok_iff {new : NewGrade} {stamp : Stamp} :
    Ruled.check new = .ok () ↔ (new.row stamp).Valid := by
  have hfields : Ruled.check new = .ok () ↔
      (1 ≤ new.level ∧ new.level ≤ 12) ∧ IsName 100 new.name := by
    simp [Ruled.check_eq_ok_iff, Ruled.failures, ofInt_eq_none_iff, ofText_eq_none_iff]
  rw [hfields]
  exact ⟨fun ⟨hlevel, hname⟩ => ⟨hlevel, hname⟩, fun h => ⟨h.level, h.name⟩⟩

theorem NewUser.check_eq_ok_iff {new : NewUser} {stamp : Stamp} :
    Ruled.check new = .ok () ↔ (new.row stamp).Valid := by
  have hfields : Ruled.check new = .ok () ↔
      IsName 100 new.firstName ∧ IsName 100 new.lastName ∧
        (∀ name ∈ new.middleName, name.toList.length ≤ 100) ∧
        (∀ phone ∈ new.phone, IsInternational phone) ∧ isEmail new.email ∧
        new.passwordHash ≠ "" := by
    simp [Ruled.check_eq_ok_iff, Ruled.failures, ofText_eq_none_iff, ofOptional_eq_none_iff]
  rw [hfields]
  exact ⟨fun ⟨hfirst, hlast, hmiddle, hphone, hemail, hhash⟩ =>
      ⟨hfirst, hlast, hmiddle, hphone, hemail, hhash⟩,
    fun h => ⟨h.firstName, h.lastName, h.middleName, h.phone, h.email, h.passwordHash⟩⟩

theorem NewProfile.check_eq_ok_iff {new : NewProfile} {roleId : Uuid} {stamp : Stamp} :
    Ruled.check new = .ok () ↔ (new.row roleId stamp).Valid := by
  have hfields : Ruled.check new = .ok () ↔
      (∀ phone ∈ new.phone, IsInternational phone) ∧ ∀ email ∈ new.email, isEmail email := by
    simp [Ruled.check_eq_ok_iff, Ruled.failures, contactFailures, ofOptional_eq_none_iff]
  rw [hfields]
  exact ⟨fun ⟨hphone, hemail⟩ => ⟨hphone, hemail⟩, fun h => ⟨h.phone, h.email⟩⟩

/-! ## Every write is checked -/

private theorem forall_mem_added {α : Type} {P : α → Prop} {rows : List α} {row : α}
    (hold : ∀ other ∈ rows, P other) (hnew : P row) : ∀ other ∈ rows ++ [row], P other := by
  intro other hother
  rcases List.mem_append.mp hother with hrows | hrow
  · exact hold other hrows
  · rw [List.mem_singleton.mp hrow]
    exact hnew

theorem Write.valid {t t' : Tables} (h : t.Valid) (hwrite : Write t t') : t'.Valid := by
  cases hwrite with
  | organization new stamp hvalid =>
    have hname := NewOrganization.check_eq_ok_iff.mp hvalid
    exact { h with organizations := forall_mem_added h.organizations hname }
  | school new stamp hvalid hcheck =>
    have hname := NewSchool.check_eq_ok_iff.mp hvalid
    exact { h with schools := forall_mem_added h.schools hname }
  | grade new stamp hvalid hcheck =>
    have hrow : (new.row stamp).Valid := NewGrade.check_eq_ok_iff.mp hvalid
    exact { h with grades := forall_mem_added h.grades hrow }
  | group new stamp hvalid hcheck =>
    have hname := NewGroup.check_eq_ok_iff.mp hvalid
    exact { h with groups := forall_mem_added h.groups hname }
  | user new stamp hvalid hcheck =>
    have hrow : (new.row stamp).Valid := NewUser.check_eq_ok_iff.mp hvalid
    exact { h with users := forall_mem_added h.users hrow }
  | profile new first second hvalid hgrant hprofile =>
    have hrow : (new.row first.id second).Valid := NewProfile.check_eq_ok_iff.mp hvalid
    exact { h with profiles := forall_mem_added h.profiles hrow }
  | grant new stamp hscope hcheck => exact { h with }
  | guardian new student first second hstudent hgrant hlink => exact { h with }

/-- The rows satisfy their rules, and so do those that would be put back if the open unit of
work were rolled back. -/
theorem stored_rows_valid {s : Store} (hreach : Reached s) : s.Holds Tables.Valid := by
  have hempty : Tables.empty.Valid := by
    constructor <;> exact fun row hrow => nomatch hrow
  exact hreach.holds hempty fun t t' hvalid hwrite => hwrite.valid hvalid

/-- The first class with a headmaster who can be reached by phone and mail. -/
def firstHeadmaster : Store :=
  firstClass
    |>.afterService 110 (.addUser ⟨"Farzona", "Rahimova", some "Karimovna", .female,
      some "+992900000001", "farzona@example.com", "hash"⟩)
    |>.afterService 120 (.addProfile ⟨.headmaster, .ofNat 110, .ofNat 20, none,
      some "+992372210001", some "headmaster@example.com"⟩)

theorem reachable_firstHeadmaster : Reachable firstHeadmaster := by
  unfold firstHeadmaster
  refine (reachable_firstClass.afterService ?_).afterService ?_
  all_goals decide +kernel

theorem stored_rows_valid_firstHeadmaster :
    (Reached firstHeadmaster ∧ (firstHeadmaster.tables.users.any (·.phone.isSome)) ∧
        firstHeadmaster.tables.profiles.any (·.email.isSome)) ∧
      firstHeadmaster.Holds Tables.Valid := by
  have hreached := reachable_firstHeadmaster.reached
  exact ⟨⟨hreached, by decide +kernel, by decide +kernel⟩, stored_rows_valid hreached⟩

end Registrar
