import Registrar.Proofs.Decoding
import Registrar.Proofs.ValidRows

/-!
# The value of a duplicate

A duplicate is reported with the value that was taken.  A phone number that the rules accept is
always given as it is.  An e-mail address is given as far as the first closing parenthesis of
its domain: a name has none, but a domain that ends with an address in brackets may have any
text in front (`duplicates_named`).
-/

namespace Registrar

open Text Violation

/-! ## Parts of an address -/

namespace Email

theorem splitLast?_eq_some_iff {s user domain : List Char} :
    splitLast? s = some (user, domain) ↔ '@' ∉ domain ∧ s = user ++ '@' :: domain := by
  constructor
  · intro hsplit
    have hback := List.takeWhile_append_dropWhile (p := (· != '@')) (l := s.reverse)
    unfold splitLast? at hsplit
    split at hsplit
    · cases hsplit
    · rename_i c before hdrop
      obtain ⟨rfl, rfl⟩ := Prod.mk.inj (Option.some.inj hsplit)
      have hc : c = '@' := by
        have hhead := List.head_dropWhile_not (· != '@') (l := s.reverse) (by simp [hdrop])
        simpa [hdrop] using hhead
      have hs : s = (s.reverse.takeWhile (· != '@') ++ c :: before).reverse := by
        rw [← hdrop, hback, List.reverse_reverse]
      refine ⟨fun hmem => ?_, ?_⟩
      · have hat := List.mem_takeWhile_imp (List.mem_reverse.mp hmem)
        simp at hat
      · rw [hc] at hs
        simpa using hs
  · rintro ⟨hdomain, rfl⟩
    have hback : ∀ c ∈ domain.reverse, (c != '@') = true := by
      intro c hc
      have hne : c ≠ '@' := fun heq => hdomain (heq ▸ List.mem_reverse.mp hc)
      simpa using hne
    have hreverse : (user ++ '@' :: domain).reverse = domain.reverse ++ '@' :: user.reverse := by
      simp
    simp [splitLast?, hreverse, List.takeWhile_append_of_pos hback,
      List.dropWhile_append_of_pos hback]

theorem closing_notMem_of_isUser {user : List Char} (h : isUser user) : ')' ∉ user := by
  intro hmem
  have hchars : ∀ c ∈ user, isAlphanumeric c || isUserMark c := by
    simp only [isUser, Bool.and_eq_true] at h
    exact List.all_eq_true.mp h.2
  have hclosing := hchars ')' hmem
  revert hclosing
  decide

theorem closing_notMem_of_isDomainName {domain : List Char} (h : isDomainName domain) :
    ')' ∉ domain := by
  intro hmem
  rw [← joinWith_splitAt '.' domain, joinWith_eq_intercalate] at hmem
  rcases mem_intercalate hmem with hdot | ⟨label, hlabel, hclosing⟩
  · revert hdot
    decide
  · have hchars : ∀ c ∈ label, isAlphanumeric c || c == '-' := by
      have hvalid := List.all_eq_true.mp h label hlabel
      simp only [isLabel, Bool.and_eq_true] at hvalid
      exact List.all_eq_true.mp hvalid.1.1.2
    have hclosing := hchars ')' hclosing
    revert hclosing
    decide

end Email

theorem closing_notMem_of_isInternational {phone : String} (h : IsInternational phone) :
    ')' ∉ phone.toList := by
  obtain ⟨first, rest, hphone, ⟨hlow, -⟩, hrest, -⟩ := h
  rw [hphone]
  intro hmem
  rcases List.mem_cons.mp hmem with hplus | hmem
  · revert hplus
    decide
  · rcases List.mem_cons.mp hmem with rfl | hmem
    · revert hlow
      decide
    · have hdigit := (hrest ')' hmem).1
      revert hdigit
      decide

/-! ## Values as they are shown -/

/-- An accepted address is shown with its domain as far as the first closing parenthesis. -/
theorem shownValues_email {email : String} (h : isEmail email) :
    ∃ user domain, Email.splitLast? email.toList = some (user, domain) ∧
      shownValues email = String.ofList (user ++ '@' :: cutAt ')' domain) ∧
      (shownValues email = email ↔ ')' ∉ domain) := by
  unfold isEmail at h
  split at h
  · rename_i user domain hsplit
    simp only [Bool.and_eq_true] at h
    have hparts := (Email.splitLast?_eq_some_iff.mp hsplit).2
    have hclosing : ')' ∉ user := Email.closing_notMem_of_isUser h.1
    have huser : ∀ c ∈ user, (c != ')') = true := by
      intro c hc
      have hne : c ≠ ')' := fun heq => hclosing (heq ▸ hc)
      simpa using hne
    refine ⟨user, domain, hsplit, ?_, ?_⟩
    · rw [shownValues, hparts, cutAt, List.takeWhile_append_of_pos huser]
      simp [cutAt]
    · rw [shownValues_eq_self_iff, hparts]
      simp [hclosing]
  · cases h

/-! ## The error of a duplicate -/

theorem Schema.uniqueViolation_decodes (table column : SchemaName) (values operation : String)
    (hindex : table.text ++ "_" ++ column.text ++ "_key" ≠ ViolationReport.roleScopeIndex) :
    (uniqueViolation (table.text ++ "_" ++ column.text ++ "_key") column.text
        values).toAppError operation =
      .duplicate table.text column.text (shownValues values) := by
  have hname := ColumnKey.constraint_single table column "_key"
  have herror := duplicated_decodes (.single table column) values operation (hname ▸ hindex)
  rw [duplicated, hname, ColumnKey.listed_single] at herror
  exact herror

def emailName : SchemaName :=
  ⟨"email", by decide, by decide⟩

def phoneName : SchemaName :=
  ⟨"phone", by decide, by decide⟩

def usersName : SchemaName :=
  ⟨"users", by decide, by decide⟩

theorem Schema.takenEmail_decodes (email operation : String) :
    (uniqueViolation "users_email_key" "email" email).toAppError operation =
      .duplicate "users" "email" (shownValues email) :=
  uniqueViolation_decodes usersName emailName email operation (by decide)

theorem Schema.takenPhone_decodes (kind : ProfileKind) (phone operation : String) :
    (uniqueViolation (kind.entity ++ "_phone_key") "phone" phone).toAppError operation =
      .duplicate kind.entity "phone" (shownValues phone) := by
  have hname : kind.entity ++ "_phone_key" =
      kind.table.text ++ "_" ++ phoneName.text ++ "_key" := by
    cases kind <;> decide
  have hindex : kind.table.text ++ "_" ++ phoneName.text ++ "_key" ≠
      ViolationReport.roleScopeIndex := by
    cases kind <;> decide
  rw [hname]
  exact uniqueViolation_decodes kind.table phoneName phone operation hindex

/-- The value that a duplicate is reported with, for every address of a user and every phone
number of a profile that the rules accept. -/
theorem duplicates_named (operation : String) :
    (∀ new : NewUser, Ruled.check new = .ok () →
      ∃ user domain, Email.splitLast? new.email.toList = some (user, domain) ∧
        (Schema.uniqueViolation "users_email_key" "email" new.email).toAppError operation =
          .duplicate "users" "email" (String.ofList (user ++ '@' :: cutAt ')' domain)) ∧
        ((Schema.uniqueViolation "users_email_key" "email" new.email).toAppError operation =
          .duplicate "users" "email" new.email ↔ ')' ∉ domain) ∧
        (Email.isDomainName domain → ')' ∉ domain)) ∧
    ∀ new : NewProfile, Ruled.check new = .ok () → ∀ phone ∈ new.phone,
      (Schema.uniqueViolation (new.kind.entity ++ "_phone_key") "phone" phone).toAppError
          operation =
        .duplicate new.kind.entity "phone" phone := by
  constructor
  · intro new hcheck
    have hvalid : (new.row default).Valid := NewUser.check_eq_ok_iff.mp hcheck
    have hemail : isEmail new.email := hvalid.email
    obtain ⟨user, domain, hsplit, hshown, hexact⟩ := shownValues_email hemail
    have herror := Schema.takenEmail_decodes new.email operation
    refine ⟨user, domain, hsplit, hshown ▸ herror, ?_, Email.closing_notMem_of_isDomainName⟩
    rw [herror, ← hexact]
    simp
  · intro new hcheck phone hphone
    have hvalid : (new.row default default).Valid := NewProfile.check_eq_ok_iff.mp hcheck
    have hnumber : IsInternational phone := hvalid.phone phone hphone
    have hshown := shownValues_eq_self_iff.mpr (closing_notMem_of_isInternational hnumber)
    have herror := Schema.takenPhone_decodes new.kind phone operation
    rw [hshown] at herror
    exact herror

def mailedTo (email : String) : NewUser :=
  ⟨"Ada", "Day", none, .female, none, email, "hash"⟩

theorem duplicates_named_ada :
    (Ruled.check (mailedTo "ada@a.org") = .ok () ∧
      Ruled.check (⟨.student, .ofNat 1, .ofNat 2, none, some "+992900000001", none⟩ : NewProfile) =
        .ok ()) ∧
      (Schema.uniqueViolation "users_email_key" "email" "ada@a.org").toAppError "insert users" =
        .duplicate "users" "email" "ada@a.org" ∧
      (Schema.uniqueViolation "students_phone_key" "phone" "+992900000001").toAppError
          "insert students" =
        .duplicate "students" "phone" "+992900000001" := by
  have huser : Ruled.check (mailedTo "ada@a.org") = .ok () := by decide +kernel
  have hstudent : Ruled.check
      (⟨.student, .ofNat 1, .ofNat 2, none, some "+992900000001", none⟩ : NewProfile) = .ok () := by
    decide +kernel
  obtain ⟨user, domain, hsplit, -, hexact, -⟩ :=
    (duplicates_named "insert users").1 (mailedTo "ada@a.org") huser
  have hdomain : domain = "a.org".toList := by
    have hsame : Email.splitLast? "ada@a.org".toList = some ("ada".toList, "a.org".toList) := by
      decide
    have hpair := Option.some.inj (hsplit.symm.trans hsame)
    exact (Prod.mk.inj hpair).2
  have hclosing : ')' ∉ domain := by
    rw [hdomain]
    decide
  have hphone := (duplicates_named "insert students").2
    ⟨.student, .ofNat 1, .ofNat 2, none, some "+992900000001", none⟩ hstudent "+992900000001" rfl
  exact ⟨⟨huser, hstudent⟩, hexact.mpr hclosing, hphone⟩

/-- The address is accepted for the brackets at its end. -/
theorem bracketed_email_cut :
    Ruled.check (mailedTo "ada@x)y[127.0.0.1]") = .ok () ∧
      (Schema.uniqueViolation "users_email_key" "email" "ada@x)y[127.0.0.1]").toAppError
          "insert users" =
        .duplicate "users" "email" "ada@x" ∧
      (Schema.uniqueViolation "users_email_key" "email" "ada@x)y[127.0.0.1]").toAppError
          "insert users" ≠
        .duplicate "users" "email" "ada@x)y[127.0.0.1]" := by
  have hcheck : Ruled.check (mailedTo "ada@x)y[127.0.0.1]") = .ok () := by decide +kernel
  have herror := Schema.takenEmail_decodes "ada@x)y[127.0.0.1]" "insert users"
  have hshown : shownValues "ada@x)y[127.0.0.1]" = "ada@x" := by decide
  rw [hshown] at herror
  refine ⟨hcheck, herror, ?_⟩
  rw [herror]
  decide

end Registrar
