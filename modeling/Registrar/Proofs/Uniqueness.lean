import Registrar.Proofs.ReferentialIntegrity

/-!
# Rows that may not repeat

Five sorts of rows have a key that no two of them share: the electronic address of a user,
the place where a user holds a role, the level of a grade in its school, the student of a
guardian, and the phone and the electronic address of a profile among those of its kind.
There is no index: each insertion looks through the table first.  The keys stay unique in
every store that calls lead to, inside units of work and after they are undone
(`keys_unique`).
-/

namespace Registrar

namespace Tables

/-- No two rows of a table share a key.  A key that is absent is shared with nobody, and the
guardian's role may be held any number of times. -/
structure Unique (t : Tables) : Prop where
  users : t.users.Pairwise fun a b => a.email ≠ b.email
  grants : t.grants.Pairwise fun a b =>
    a.role ≠ .guardian → a.scope.key.isSome →
      ¬(a.userId = b.userId ∧ a.role = b.role ∧ a.scope.key = b.scope.key)
  grades : t.grades.Pairwise fun a b => ¬(a.schoolId = b.schoolId ∧ a.level = b.level)
  guardians : t.guardians.Pairwise fun a b => ¬(a.userId = b.userId ∧ a.studentId = b.studentId)
  phones : ∀ kind, (t.profilesOf kind).Pairwise fun a b => a.phone.isSome → a.phone ≠ b.phone
  emails : ∀ kind, (t.profilesOf kind).Pairwise fun a b => a.email.isSome → a.email ≠ b.email

theorem unique_empty : empty.Unique := by
  constructor <;> intros <;> exact .nil

private theorem pairwise_concat {α : Type} {r : α → α → Prop} {rows : List α} {row : α}
    (hrows : rows.Pairwise r) (hrow : ∀ other ∈ rows, r other row) :
    (rows ++ [row]).Pairwise r := by
  refine List.pairwise_append.mpr ⟨hrows, List.pairwise_singleton r row, ?_⟩
  intro other hother last hlast
  rw [List.mem_singleton.mp hlast]
  exact hrow other hother

private theorem pairwise_profilesOf_addProfile {t : Tables} {row : ProfileRow}
    {r : ProfileRow → ProfileRow → Prop} {kind : ProfileKind}
    (hrows : (t.profilesOf kind).Pairwise r)
    (hrow : ∀ other ∈ t.profilesOf row.kind, r other row) :
    ((t.addProfile row).profilesOf kind).Pairwise r := by
  rw [profilesOf_addProfile]
  by_cases hkind : row.kind = kind
  · subst hkind
    rw [if_pos rfl]
    exact pairwise_concat hrows hrow
  · rw [if_neg hkind, List.append_nil]
    exact hrows

theorem grantTaken_eq_false_iff {t : Tables} {row : RoleGrantRow} :
    t.grantTaken row = false ↔
      (row.role ≠ .guardian → row.scope.key.isSome → ∀ other ∈ t.grants,
        ¬(other.userId = row.userId ∧ other.role = row.role ∧
          other.scope.key = row.scope.key)) := by
  have hrole : row.role.isScopeUnique = true ↔ row.role ≠ .guardian := by
    cases row.role <;> simp [Role.isScopeUnique]
  rw [grantTaken, ← Bool.not_eq_true, Bool.and_eq_true, Bool.and_eq_true, hrole]
  simp only [List.any_eq_true, Bool.and_eq_true, beq_iff_eq, not_and, not_exists, and_assoc]

/-- A row that passes its check shares no key with the rows that are there. -/
theorem Unique.insertion {t t' : Tables} (h : t.Unique) (hinsertion : t.Insertion t') :
    t'.Unique := by
  cases hinsertion with
  | organization row => exact { h with }
  | school row hcheck => exact { h with }
  | group row hcheck => exact { h with }
  | grade row hcheck =>
    exact { h with grades := pairwise_concat h.grades (Memory.checkGrade_eq_ok_iff.mp hcheck).2 }
  | user row hcheck =>
    exact { h with users := pairwise_concat h.users (Memory.checkUser_eq_ok_iff.mp hcheck) }
  | grant row hcheck =>
    obtain ⟨_, _, _, _, hfree⟩ := Memory.checkGrant_eq_ok_iff.mp hcheck
    refine { h with grants := pairwise_concat h.grants ?_ }
    rintro other hother hrole hkey ⟨husers, hroles, hkeys⟩
    exact grantTaken_eq_false_iff.mp hfree (hroles ▸ hrole) (hkeys ▸ hkey) other hother
      ⟨husers, hroles, hkeys⟩
  | profile row hcheck =>
    obtain ⟨_, _, _, hcontacts⟩ := Memory.checkProfile_eq_ok_iff.mp hcheck
    have hfree : ∀ other ∈ t.profilesOf row.kind,
        (row.phone.isSome → other.phone ≠ row.phone) ∧
          (row.email.isSome → other.email ≠ row.email) := fun other hother =>
      Memory.contactTaken?_eq_none_iff.mp (Memory.checkContacts_eq_ok_iff.mp hcontacts other hother)
    exact
      { h with
        phones := fun kind => pairwise_profilesOf_addProfile (h.phones kind)
          fun other hother hphone hsame => (hfree other hother).1 (hsame ▸ hphone) hsame
        emails := fun kind => pairwise_profilesOf_addProfile (h.emails kind)
          fun other hother hemail hsame => (hfree other hother).2 (hsame ▸ hemail) hsame }
  | guardian row hcheck =>
    obtain ⟨_, _, _, hfree⟩ := Memory.checkGuardian_eq_ok_iff.mp hcheck
    exact { h with guardians := pairwise_concat h.guardians hfree }

end Tables

/-- Whatever is called, inside units of work or outside, and whether they are committed,
rolled back or dropped, no two rows share a key. -/
theorem keys_unique {s : Store} (hcalled : Called s) : s.tables.Unique :=
  (hcalled.holds Tables.unique_empty fun _ _ hunique => hunique.insertion).now

/-- The store after a call at the beginning of the clock. -/
def Store.afterCall (s : Store) (first : Nat) (made : Call) : Store :=
  (s.answer ⟨⟨0⟩, ⟨.ofNat first, default, default⟩⟩ made).state

theorem Called.afterCall {s : Store} (h : Called s) (first : Nat) (made : Call) :
    Called (s.afterCall first made) :=
  h.later (s.later_answer _ made)

/-- A unit of work is open on the first class; in it a guardian has been granted that role
once more in the same school. -/
def firstClassAtWork : Store :=
  firstClass
    |>.afterCall 110 (.begin .background)
    |>.afterCall 111 (.ask (Ctx.background.withHandle ⟨.ofNat 110, .memory 0⟩)
      (.createGrant ⟨.ofNat 40, .guardian, Scope.school (.ofNat 20)⟩))

theorem keys_unique_firstClassAtWork :
    (Called firstClassAtWork ∧ firstClassAtWork.opened.isSome ∧
      (firstClassAtWork.tables.grants.filter (·.role = .guardian)).length = 2) ∧
      firstClassAtWork.tables.Unique := by
  have hcalled : Called firstClassAtWork :=
    (reachable_firstClass.reached.called.afterCall 110 _).afterCall 111 _
  exact ⟨⟨hcalled, by decide +kernel, by decide +kernel⟩, keys_unique hcalled⟩

end Registrar
