import Registrar.Proofs.Reading
import Registrar.Proofs.UnitOfWork

/-!
# All or nothing

Provisioning a profile and assigning a guardian each write two rows in a unit of
work of their own.  Whatever fails and whenever a deadline comes, the tables
afterwards are either those of before or those of before with both rows, and no
unit is left open.
-/

namespace Registrar

open Program Service

/-- The outcome of a service on the tables `t`: it has ended and no unit is open;
after an error the tables are `t`, after a value they are what the value says. -/
def AllOrNothing {α : Type} (t : Tables) (stored : α → Tables → Prop) :
    Reply Store α → Prop
  | .ended (.ok a) after => after.opened = none ∧ stored a after.tables
  | .ended (.error _) after => after.opened = none ∧ after.tables = t
  | .stuck _ => False

/-- The tables with a profile and the grant it rests on. -/
def ProfileStored (t : Tables) (new : NewProfile) (row : ProfileRow) (after : Tables) : Prop :=
  ∃ first second, row = new.row (new.grant first).id second ∧
    after = (t.addGrant (new.grant first)).addProfile row

/-- The tables with a guardian link and the grant it rests on. -/
def LinkStored (t : Tables) (new : NewGuardian) (row : GuardianRow) (after : Tables) : Prop :=
  ∃ student first second, t.profile? .student new.studentId = some student ∧
    row = new.row (new.grant student first).id second ∧
    after = (t.addGrant (new.grant student first)).addGuardian row

theorem Provisioning.onceClosed {inside : Ctx} {t after : Tables} {new : NewProfile}
    {result : Result ProfileRow} {id : Uuid}
    (h : Provisioning inside t new result after) :
    OnceClosed (AllOrNothing t (ProfileStored t new)) ⟨id, t⟩
      (.ended result ⟨after, some ⟨id, t⟩⟩) := by
  cases h with
  | stored first second hgrant hprofile => exact ⟨rfl, rfl, first, second, rfl, rfl⟩
  | grantLate | grantRefused | profileLate | profileRefused => exact ⟨rfl, rfl, rfl⟩

theorem Assigning.onceClosed {inside : Ctx} {t after : Tables} {new : NewGuardian}
    {result : Result GuardianRow} {id : Uuid}
    (h : Assigning inside t new result after) :
    OnceClosed (AllOrNothing t (LinkStored t new)) ⟨id, t⟩
      (.ended result ⟨after, some ⟨id, t⟩⟩) := by
  cases h with
  | stored student first second hstudent hgrant hlink =>
    exact ⟨rfl, rfl, student, first, second, hstudent, rfl, rfl⟩
  | studentLate | studentUnknown | grantLate | grantRefused | linkLate | linkRefused =>
    exact ⟨rfl, rfl, rfl⟩

theorem always_provision_unit (t : Tables) (ctx : Ctx) (new : NewProfile) :
    (inUnit ctx fun inside => provisionIn inside new).Always
      (AllOrNothing t (ProfileStored t new)) ⟨t, none⟩ := by
  refine always_inUnit (fun _ _ => ⟨rfl, rfl⟩) (fun _ => ⟨rfl, rfl⟩)
    (fun hopened _ => by simp at hopened) fun _ id => ?_
  exact always_provisionIn rfl (Store.unitOf_own rfl rfl) fun _ _ hends => hends.onceClosed

theorem always_assign_unit (t : Tables) (ctx : Ctx) (new : NewGuardian) :
    (inUnit ctx fun inside => assignIn inside new).Always
      (AllOrNothing t (LinkStored t new)) ⟨t, none⟩ := by
  refine always_inUnit (fun _ _ => ⟨rfl, rfl⟩) (fun _ => ⟨rfl, rfl⟩)
    (fun hopened _ => by simp at hopened) fun _ id => ?_
  exact always_assignIn rfl (Store.unitOf_own rfl rfl) fun _ _ hends => hends.onceClosed

theorem always_provision (t : Tables) (ctx : Ctx) (new : NewProfile) :
    (provision ctx new).Always (AllOrNothing t (ProfileStored t new)) ⟨t, none⟩ := by
  unfold provision
  rw [always_bind, always_ofResult]
  cases Ruled.check new with
  | error e => exact ⟨rfl, rfl⟩
  | ok u =>
    simp only [Onward]
    rw [always_bind]
    apply (always_provision_unit t ctx new).mono
    intro reply hreply
    cases reply with
    | stuck after => exact hreply.elim
    | ended result after => cases result <;> exact hreply

/-- The reading back of a link may fail, but the unit is closed by then. -/
theorem always_assignGuardian (t : Tables) (ctx : Ctx) (new : NewGuardian) :
    (assignGuardian ctx new).Always
      (fun reply => ∃ result after, reply = .ended result after ∧ after.opened = none ∧
        (after.tables = t ∨ ∃ row, LinkStored t new row after.tables)) ⟨t, none⟩ := by
  have hvalid : Ruled.check new = .ok () := rfl
  unfold assignGuardian
  rw [always_bind, always_ofResult]
  simp only [Onward, hvalid]
  rw [always_bind]
  apply (always_assign_unit t ctx new).mono
  intro reply hreply
  cases reply with
  | stuck after => exact hreply.elim
  | ended result after =>
    cases result with
    | error e => exact ⟨_, after, rfl, hreply.1, .inl hreply.2⟩
    | ok row =>
      obtain ⟨hopened, hstored⟩ := hreply
      simp only [Onward]
      rw [always_bind, always_report]
      apply ((readsOnly_guardianById ctx row.id).always after).mono
      rintro reply ⟨hstate, hstuck⟩
      cases reply with
      | stuck later =>
        cases hstate
        simpa [hopened] using hstuck rfl
      | ended result later =>
        cases hstate
        exact ⟨result, later, rfl, hopened, .inr ⟨row, hstored⟩⟩

/-- From any tables with no unit open and at any moments, provisioning a profile
and the unit in which a guardian is assigned store both of their rows or leave
the tables as they were; the lock is free in either case, also once the link has
been read back. -/
theorem units_all_or_nothing (t : Tables) (moments : Nat → Tick) (ctx : Ctx) :
    (∀ new : NewProfile,
      AllOrNothing t (ProfileStored t new)
        (Course.run ⟨⟨t, none⟩, moments⟩ (provision ctx new))) ∧
    (∀ new : NewGuardian,
      AllOrNothing t (LinkStored t new)
        (Course.run ⟨⟨t, none⟩, moments⟩ (inUnit ctx fun inside => assignIn inside new))) ∧
    ∀ new : NewGuardian, ∃ result after,
      Course.run ⟨⟨t, none⟩, moments⟩ (assignGuardian ctx new) = .ended result after ∧
        after.opened = none ∧
        (after.tables = t ∨ ∃ row, LinkStored t new row after.tables) :=
  ⟨fun new => (always_provision t ctx new).run moments,
    fun new => (always_assign_unit t ctx new).run moments,
    fun new => (always_assignGuardian t ctx new).run moments⟩

end Registrar
