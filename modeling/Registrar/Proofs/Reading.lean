import Registrar.Proofs.Course
import Registrar.Service.Guardians

/-!
# Programs that only read

A program that makes nothing but look-ups leaves the store as it is, whatever
the answers and whatever goes wrong.  All reading services are of this sort.
-/

namespace Registrar

open Program Service

namespace Program

variable {α β : Type}

/-- All the calls of a program are look-ups in one context. -/
def ReadsOnly (ctx : Ctx) : Program α → Prop
  | .done _ | .fail _ => True
  | .note _ next => next.ReadsOnly ctx
  | .call (.ask ctx' request) next =>
    ctx' = ctx ∧ request.isLookup ∧ ∀ answer, (next answer).ReadsOnly ctx
  | .call _ _ => False

theorem readsOnly_bind {ctx : Ctx} {p : Program α} {f : α → Program β}
    (hp : p.ReadsOnly ctx) (hf : ∀ a, (f a).ReadsOnly ctx) :
    (p >>= f).ReadsOnly ctx := by
  change (p.bind f).ReadsOnly ctx
  induction p with
  | done a => exact hf a
  | fail e => trivial
  | note event next ih => exact ih hp
  | call c next ih =>
    cases c with
    | ask ctx' request => exact ⟨hp.1, hp.2.1, fun answer => ih answer (hp.2.2 answer)⟩
    | begin _ | commit _ | rollback _ => exact hp.elim

theorem readsOnly_ask {ctx : Ctx} {request : Request} (h : request.isLookup) :
    (ask ctx request).ReadsOnly ctx :=
  ⟨rfl, h, fun answer => by cases answer <;> trivial⟩

/-- The store is the same after a program that only reads, also if a look-up has
failed; it waits for ever only while a unit is open. -/
theorem ReadsOnly.always {ctx : Ctx} {p : Program α} (h : p.ReadsOnly ctx)
    (s : Store) :
    p.Always (fun reply => reply.state = s ∧ (reply = .stuck s → s.opened.isSome)) s := by
  induction p with
  | done a => exact ⟨rfl, fun hstuck => nomatch hstuck⟩
  | fail e => exact ⟨rfl, fun hstuck => nomatch hstuck⟩
  | note event next ih => exact ih h
  | call c next ih =>
    cases c with
    | begin _ | commit _ | rollback _ => exact h.elim
    | ask ctx' request =>
      obtain ⟨_, hlookup, hnext⟩ := h
      intro tick
      rcases s.answer_ask tick ctx' request with ⟨e, he⟩ | ⟨hstuck, hopened⟩ | hserved
      · rw [he]
        exact ih _ (hnext _)
      · rw [hstuck]
        exact ⟨rfl, fun _ => hopened⟩
      · rw [hserved, Store.perform_lookup s tick.stamp hlookup]
        exact ih _ (hnext _)

end Program

/-! ## Looking up relations -/

/-- A property of programs that look-ups in a context have, and that does not get
lost when programs are put together. -/
structure Composable (ctx : Ctx) (holds : (α : Type) → Program α → Prop) : Prop where
  value {α : Type} (a : α) : holds α (.done a)
  event (e : Event) : holds Unit (report e)
  lookup (request : Request) (h : request.isLookup) : holds request.Answer (ask ctx request)
  bind {α β : Type} {p : Program α} {f : α → Program β} (hp : holds α p)
    (hf : ∀ a, holds β (f a)) : holds β (p >>= f)

namespace Composable

variable {ctx : Ctx} {holds : (α : Type) → Program α → Prop} {α : Type}

theorem fetchSchools (h : Composable ctx holds) (mode : FetchMode) (ids : List Uuid) :
    holds _ (fetchSchools ctx mode ids) := by
  unfold Service.fetchSchools
  split
  · exact h.value _
  · cases mode
    · exact h.bind (h.lookup (.schoolById _) rfl) fun _ => h.value _
    · exact h.lookup (.schoolsByIds _) rfl
  · exact h.lookup (.schoolsByIds _) rfl

theorem fetchUsers (h : Composable ctx holds) (mode : FetchMode) (ids : List Uuid) :
    holds _ (fetchUsers ctx mode ids) := by
  unfold Service.fetchUsers
  split
  · exact h.value _
  · cases mode
    · exact h.bind (h.lookup (.userById _) rfl) fun _ => h.value _
    · exact h.lookup (.usersByIds _) rfl
  · exact h.lookup (.usersByIds _) rfl

theorem fetchBatch (h : Composable ctx holds) {ids : List Uuid} {call : Program (List α)}
    (hcall : holds _ call) : holds _ (fetchBatch ids call) := by
  unfold Service.fetchBatch
  split
  · exact h.value _
  · exact hcall

theorem resolve (h : Composable ctx holds) (mode : FetchMode) (keys : RelationKeys) :
    holds _ (resolve ctx mode keys) := by
  unfold Service.resolve
  apply h.bind (h.fetchSchools mode _)
  intro schools
  apply h.bind (h.fetchBatch (h.lookup (.groupsByIds _) rfl))
  intro groups
  apply h.bind (h.fetchBatch (h.lookup (.organizationsByIds _) rfl))
  intro organizations
  apply h.bind (h.fetchBatch (h.lookup (.gradesByIds _) rfl))
  intro grades
  apply h.bind (h.fetchBatch (h.lookup (.teachersByIds _) rfl))
  intro teachers
  apply h.bind (h.fetchBatch (h.lookup (.studentsByIds _) rfl))
  intro students
  apply h.bind (h.fetchUsers mode _)
  intro users
  exact h.bind (h.event _) fun _ => h.value _

theorem hydrateMany [Hydratable α] (h : Composable ctx holds) (items : List α) :
    holds _ (hydrateMany ctx items) := by
  unfold Service.hydrateMany
  split
  · exact h.value _
  · exact h.bind (h.resolve _ _) fun _ => h.value _

end Composable

/-! ## The reading services -/

namespace Service

variable {α : Type} (ctx : Ctx)

theorem composable_readsOnly : Composable ctx fun _ p => p.ReadsOnly ctx where
  value _ := trivial
  event _ := trivial
  lookup _ := readsOnly_ask
  bind := readsOnly_bind

theorem readsOnly_hydrateOne [Hydratable α] (item : α) :
    (hydrateOne ctx item).ReadsOnly ctx :=
  readsOnly_bind ((composable_readsOnly ctx).resolve _ _) fun _ => trivial

theorem readsOnly_hydrateMany [Hydratable α] (items : List α) :
    (hydrateMany ctx items).ReadsOnly ctx :=
  (composable_readsOnly ctx).hydrateMany items

theorem readsOnly_found (entity : String) (id : Uuid) (row : Option α) :
    (found entity id row).ReadsOnly ctx := by
  cases row <;> trivial

theorem readsOnly_profileById (kind : ProfileKind) (id : Uuid) :
    (profileById ctx kind id).ReadsOnly ctx := by
  apply readsOnly_bind (readsOnly_ask rfl)
  intro row
  exact readsOnly_bind (readsOnly_found ctx _ _ row) fun row => readsOnly_hydrateOne ctx _

theorem readsOnly_guardianById (id : Uuid) : (guardianById ctx id).ReadsOnly ctx := by
  apply readsOnly_bind (readsOnly_ask rfl)
  intro row
  exact readsOnly_bind (readsOnly_found ctx _ _ row) fun row => readsOnly_hydrateOne ctx _

theorem readsOnly_schoolById (id : Uuid) : (schoolById ctx id).ReadsOnly ctx := by
  apply readsOnly_bind (readsOnly_ask rfl)
  intro row
  exact readsOnly_bind (readsOnly_found ctx _ _ row) fun row => readsOnly_hydrateOne ctx _

theorem readsOnly_userById (id : Uuid) : (userById ctx id).ReadsOnly ctx :=
  readsOnly_bind (readsOnly_ask rfl) fun row => readsOnly_found ctx _ _ row

theorem readsOnly_groupsByIds (ids : List Uuid) : (groupsByIds ctx ids).ReadsOnly ctx :=
  readsOnly_bind (readsOnly_ask rfl) fun _ => readsOnly_hydrateMany ctx _

theorem readsOnly_rolesOfUser (userId : Uuid) : (rolesOfUser ctx userId).ReadsOnly ctx :=
  readsOnly_bind (readsOnly_ask rfl) fun _ => readsOnly_hydrateMany ctx _

theorem readsOnly_listProfiles (kind : ProfileKind) (query : ProfileQuery)
    (listing : Listing) : (listProfiles ctx kind query listing).ReadsOnly ctx := by
  apply readsOnly_bind (readsOnly_ask rfl)
  intro rows
  apply readsOnly_bind (readsOnly_ask rfl)
  intro total
  exact readsOnly_bind (readsOnly_hydrateMany ctx _) fun _ => trivial

theorem readsOnly_countProfiles (kind : ProfileKind) (query : ProfileQuery) :
    (countProfiles ctx kind query).ReadsOnly ctx :=
  readsOnly_ask rfl

theorem readsOnly_listGuardians (query : GuardianQuery) (listing : Listing) :
    (listGuardians ctx query listing).ReadsOnly ctx := by
  apply readsOnly_bind (readsOnly_ask rfl)
  intro rows
  apply readsOnly_bind (readsOnly_ask rfl)
  intro total
  exact readsOnly_bind (readsOnly_hydrateMany ctx _) fun _ => trivial

end Service

end Registrar
