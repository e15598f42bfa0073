import Registrar.Proofs.UnitOfWork

/-!
# A seat and its candidates

A seat is a profile of one kind for one user in one scope.  While it is vacant, the
checks of the store let any candidate have it; once it is taken they refuse the
grant of everybody else.
-/

namespace Registrar

open Program Service

theorem checkGrant_grant {t : Tables} {new : NewProfile} (first : Stamp)
    (huser : (t.user? new.userId).isSome) (hscope : t.scopeExists new.kind new.scopeId)
    (hgroup : ∀ id, new.placedIn = some id → (t.group? id).isSome) :
    Memory.checkGrant t (new.grant first) =
      Memory.refuseIf (t.grantTaken (new.grant first))
        (.roleAlreadyAssigned new.userId new.kind.role (some new.scopeId)) := by
  unfold Tables.scopeExists at hscope
  have hshape : (new.grant first).scope = new.scope := rfl
  rw [← new.key_scope]
  rcases new.scope_cases with ⟨hkind, hparts⟩ | ⟨hkind, hparts⟩
  · rw [hkind] at hscope
    apply Memory.checkGrant_eq_refuseIf huser
    · simpa [hshape, hparts] using hscope
    · simp [hshape, hparts]
    · simpa [hshape, hparts] using hgroup
  · rw [hkind] at hscope
    apply Memory.checkGrant_eq_refuseIf huser
    · simp [hshape, hparts]
    · simpa [hshape, hparts] using hscope
    · simp [hshape, hparts]

/-- The tables once a new profile is stored with its grant. -/
def seated (t : Tables) (new : NewProfile) (first second : Stamp) : Tables :=
  (t.addGrant (new.grant first)).addProfile (new.row first.id second)

theorem grantTaken_eq_true_iff {t : Tables} {row : RoleGrantRow} {key : Uuid}
    (hunique : row.role.isScopeUnique) (hkey : row.scope.key = some key) :
    t.grantTaken row = true ↔
      ∃ grant ∈ t.grants, grant.userId = row.userId ∧ grant.role = row.role ∧
        grant.scope.key = some key := by
  unfold Tables.grantTaken
  simp [hunique, hkey, and_assoc]

/-- A profile of one kind for one user in one scope, and those who want to add it to
the tables. -/
structure Contest where
  tables : Tables
  kind : ProfileKind
  userId : Uuid
  scopeId : Uuid
  news : List NewProfile

namespace Contest

variable {c : Contest}

/-- The user and the scope are there, and the user does not hold the role of the
kind in the scope. -/
structure Vacant (c : Contest) : Prop where
  user : (c.tables.user? c.userId).isSome
  scope : c.tables.scopeExists c.kind c.scopeId
  free : ∀ grant ∈ c.tables.grants,
    ¬(grant.userId = c.userId ∧ grant.role = c.kind.role ∧ grant.scope.key = some c.scopeId)

/-- A valid new profile for the seat, in a group that is there and with a phone and
an e-mail address that no profile of the kind has. -/
structure Candidate (c : Contest) (new : NewProfile) : Prop where
  kind : new.kind = c.kind
  user : new.userId = c.userId
  scope : new.scopeId = c.scopeId
  valid : Ruled.check new = .ok ()
  group : ∀ id, new.placedIn = some id → (c.tables.group? id).isSome
  phone : ∀ other ∈ c.tables.profilesOf c.kind, new.phone.isSome → other.phone ≠ new.phone
  email : ∀ other ∈ c.tables.profilesOf c.kind, new.email.isSome → other.email ≠ new.email

theorem Candidate.grant_passes {new : NewProfile} (hnew : c.Candidate new)
    (hvacant : c.Vacant) (first : Stamp) :
    Memory.checkGrant c.tables (new.grant first) = .ok () := by
  have huser := hnew.user ▸ hvacant.user
  have hscope := hnew.kind ▸ hnew.scope ▸ hvacant.scope
  rw [checkGrant_grant first huser hscope hnew.group, Memory.refuseIf_eq_ok_iff,
    Bool.eq_false_iff]
  intro htaken
  rw [grantTaken_eq_true_iff new.kind.isScopeUnique_role new.key_scope] at htaken
  obtain ⟨grant, hgrant, hholder, hrole, hkey⟩ := htaken
  refine hvacant.free grant hgrant ⟨hholder.trans hnew.user, ?_, ?_⟩
  · exact hrole.trans (congrArg ProfileKind.role hnew.kind)
  · exact hkey.trans (congrArg some hnew.scope)

theorem Candidate.profile_passes {new : NewProfile} (hnew : c.Candidate new)
    (hvacant : c.Vacant) (first second : Stamp) :
    Memory.checkProfile second.order (c.tables.addGrant (new.grant first))
      (new.row first.id second) = .ok () := by
  have huser := hnew.user ▸ hvacant.user
  have hscope := hnew.kind ▸ hnew.scope ▸ hvacant.scope
  refine Memory.checkProfile_eq_ok_iff.mpr ⟨?_, huser, hscope, ?_⟩
  · unfold Tables.grant? Tables.addGrant
    rw [List.find?_isSome]
    have hstored : new.grant first ∈ c.tables.grants ++ [new.grant first] :=
      List.mem_append_right _ (List.mem_singleton_self _)
    exact ⟨new.grant first, hstored, beq_self_eq_true first.id⟩
  · apply Memory.checkContacts_eq_ok_iff.mpr
    intro other hother
    have hofKind : other ∈ c.tables.profilesOf c.kind := hnew.kind ▸ hother
    exact Memory.contactTaken?_eq_none_iff.mpr
      ⟨hnew.phone other hofKind, hnew.email other hofKind⟩

theorem Candidate.grant_refused {new other : NewProfile} (hnew : c.Candidate new)
    (hother : c.Candidate other) (hvacant : c.Vacant) (first second third : Stamp) :
    Memory.checkGrant (seated c.tables new first second) (other.grant third) =
      .error (.roleAlreadyAssigned c.userId c.kind.role (some c.scopeId)) := by
  have htaken : (seated c.tables new first second).grantTaken (other.grant third) = true := by
    rw [grantTaken_eq_true_iff other.kind.isScopeUnique_role other.key_scope]
    have hstored : new.grant first ∈ (seated c.tables new first second).grants :=
      List.mem_append_right _ (List.mem_singleton_self _)
    refine ⟨new.grant first, hstored, ?_, ?_, ?_⟩
    · exact hnew.user.trans hother.user.symm
    · exact congrArg ProfileKind.role (hnew.kind.trans hother.kind.symm)
    · exact new.key_scope.trans (congrArg some (hnew.scope.trans hother.scope.symm))
  have hrefuse : Memory.checkGrant (seated c.tables new first second) (other.grant third) =
      Memory.refuseIf ((seated c.tables new first second).grantTaken (other.grant third))
        (.roleAlreadyAssigned other.userId other.kind.role (some other.scopeId)) := by
    have huser := hother.user ▸ hvacant.user
    have hscope := hother.kind ▸ hother.scope ▸ hvacant.scope
    exact checkGrant_grant third huser hscope hother.group
  rw [hrefuse, htaken, hother.user, hother.kind, hother.scope]
  rfl

end Contest

end Registrar
