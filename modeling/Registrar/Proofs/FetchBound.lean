import Registrar.Proofs.Conversation
import Registrar.Proofs.Hydration

/-!
# How much is fetched for a page of values

Whatever the number of values, the rows that they refer to are fetched by at most seven calls,
one for each sort of row (`Batch`).  Which calls these are, and with which identifiers, is
settled by the keys of the values and by the schools and groups that were fetched for them
(`Wanted`).  The calls are made one after another until one fails (`RunsThrough`), and this
holds on every storage, whatever rows it answers with (`page_fetch_bound`).
-/

namespace Registrar

open Program Service

/-! ## Planned calls -/

/-- The sorts of related rows, in the order in which they are fetched. -/
inductive Batch where
  | schools | groups | organizations | grades | teachers | students | users
  deriving DecidableEq

namespace Batch

def all : List Batch :=
  [.schools, .groups, .organizations, .grades, .teachers, .students, .users]

def request (ids : List Uuid) : Batch → Request
  | .schools => .schoolsByIds ids
  | .groups => .groupsByIds ids
  | .organizations => .organizationsByIds ids
  | .grades => .gradesByIds ids
  | .teachers => .teachersByIds ids
  | .students => .studentsByIds ids
  | .users => .usersByIds ids

def column : Batch → RelationKeys → List Uuid
  | .schools => RelationKeys.schools
  | .groups => RelationKeys.groups
  | .organizations => RelationKeys.organizations
  | .grades => RelationKeys.grades
  | .teachers => RelationKeys.teachers
  | .students => RelationKeys.students
  | .users => RelationKeys.users

/-- One call for each sort of row that is wanted at all. -/
def plan (ctx : Ctx) (ids : Batch → List Uuid) (sorts : List Batch) : List Call :=
  (sorts.filter fun sort => ids sort ≠ []).map fun sort => .ask ctx (sort.request (ids sort))

end Batch

def errorOf {α : Type} : Result α → Option AppError
  | .ok _ => none
  | .error e => some e

/-- The planned calls are made one after another.  The first that fails is the last one, and
its error is that of the whole; there is none if all of them succeed. -/
inductive RunsThrough : List Call → List Answered → Option AppError → Prop
  | done : RunsThrough [] [] none
  | failed (call : Call) (e : AppError) (planned : List Call) :
    RunsThrough (call :: planned) [⟨call, .error e⟩] (some e)
  | answered (call : Call) (a : call.Answer) {planned : List Call} {rest : List Answered}
      {failure : Option AppError} (hrest : RunsThrough planned rest failure) :
    RunsThrough (call :: planned) (⟨call, .ok a⟩ :: rest) failure

/-! ## What is wanted -/

def Answered.schools : Answered → List SchoolShort
  | ⟨.ask _ (.schoolsByIds _), .ok rows⟩ => rows
  | _ => []

def Answered.groups : Answered → List GroupShort
  | ⟨.ask _ (.groupsByIds _), .ok rows⟩ => rows
  | _ => []

/-- The rows of a sort that some values refer to, directly or by the schools and groups that
have been fetched for them. -/
def Wanted {α : Type} [Hydratable α] (items : List α) (schools : List SchoolShort)
    (groups : List GroupShort) (id : Uuid) (sort : Batch) : Prop :=
  (∃ item ∈ items, id ∈ sort.column (Hydratable.keys item)) ∨
    match sort with
    | .organizations => ∃ school ∈ schools, school.organizationId = id
    | .grades => ∃ group ∈ groups, group.gradeId = id
    | .teachers => ∃ group ∈ groups, group.classTeacherId = some id
    | _ => False

/-- The calls made for a page of values, and what becomes of it: the rows of every sort are
asked for by the increasing list of the identifiers that are wanted, without repetition. -/
structure FetchesOnce {α : Type} [Hydratable α] (ctx : Ctx) (items : List α)
    (trace : List Answered) (result : Result (List α)) : Prop where
  empty : items = [] → trace = [] ∧ result = .ok []
  calls : ∃ ids : Batch → List Uuid,
    (∀ sort, (ids sort).Pairwise (·.toNat < ·.toNat)) ∧
    (∀ sort id, id ∈ ids sort ↔ Wanted items
      (indexById SchoolShort.id (trace.flatMap Answered.schools))
      (indexById GroupShort.id (trace.flatMap Answered.groups)) id sort) ∧
    RunsThrough (Batch.plan ctx ids Batch.all) trace (errorOf result)

/-! ## Sets of keys -/

theorem pairwise_insertKey {id : Uuid} {ids : List Uuid}
    (h : ids.Pairwise (·.toNat < ·.toNat)) :
    (insertKey id ids).Pairwise (·.toNat < ·.toNat) := by
  induction ids with
  | nil => exact List.pairwise_singleton _ id
  | cons first rest ih =>
    obtain ⟨hfirst, hrest⟩ := List.pairwise_cons.mp h
    rw [insertKey]
    split
    next hless =>
      refine List.pairwise_cons.mpr ⟨?_, h⟩
      intro other hother
      rcases List.mem_cons.mp hother with rfl | hlater
      · exact hless
      · exact Nat.lt_trans hless (hfirst other hlater)
    next hnot =>
      split
      next => exact h
      next hne =>
        have hgreater : first.toNat < id.toNat := by omega
        refine List.pairwise_cons.mpr ⟨?_, ih hrest⟩
        intro other hother
        rcases mem_insertKey.mp hother with rfl | hlater
        · exact hgreater
        · exact hfirst other hlater

theorem pairwise_keySet (ids : List Uuid) : (keySet ids).Pairwise (·.toNat < ·.toNat) := by
  induction ids with
  | nil => exact .nil
  | cons first rest ih => exact pairwise_insertKey ih

theorem Batch.isColumn (sort : Batch) : RelationKeys.Column sort.column := by
  cases sort <;> exact ⟨rfl, fun _ _ => rfl, fun _ => rfl⟩

/-! ## Stages -/

/-- The identifiers asked for, sort by sort. -/
def Batch.idsIn (keys : RelationKeys) (schools : List SchoolShort) (groups : List GroupShort) :
    Batch → List Uuid
  | .schools => keys.schools
  | .groups => keys.groups
  | sort => sort.column (cascade keys schools groups)

/-- What is fetched after the schools and groups. -/
def fetchOthers (ctx : Ctx) (keys : RelationKeys) (schools : List SchoolShort)
    (groups : List GroupShort) : Program Related := do
  let organizations ← fetchBatch keys.organizations
    (ask ctx (.organizationsByIds keys.organizations))
  let grades ← fetchBatch keys.grades (ask ctx (.gradesByIds keys.grades))
  let teachers ← fetchBatch keys.teachers (ask ctx (.teachersByIds keys.teachers))
  let students ← fetchBatch keys.students (ask ctx (.studentsByIds keys.students))
  let users ← fetchBatch keys.users (ask ctx (.usersByIds keys.users))
  let found : Related :=
    { users := indexById User.id users
      organizations := indexById OrganizationShort.id organizations
      grades := indexById Grade.id grades
      teachers := indexById TeacherShort.id teachers
      students := indexById StudentShort.id students }
  let related : Related :=
    { found with
      schools := hydrateAll found schools
      groups := hydrateAll found groups }
  report (.relationsResolved (countsOf related))
  return related

theorem fetchKeys_batch {α : Type} {single : Uuid → Program (Option α)}
    {batch : List Uuid → Program (List α)} {ids : List Uuid} :
    fetchKeys .batch single batch ids = fetchBatch ids (batch ids) := by
  rcases ids with _ | ⟨id, _ | ⟨other, rest⟩⟩ <;> rfl

theorem resolve_batch (ctx : Ctx) (keys : RelationKeys) :
    resolve ctx .batch keys = (do
      let schools ← fetchBatch keys.schools (ask ctx (.schoolsByIds keys.schools))
      let groups ← fetchBatch keys.groups (ask ctx (.groupsByIds keys.groups))
      fetchOthers ctx
        (cascade keys (indexById SchoolShort.id schools) (indexById GroupShort.id groups))
        (indexById SchoolShort.id schools) (indexById GroupShort.id groups)) := by
  unfold resolve fetchOthers
  simp only [fetchSchools_eq, fetchUsers_eq, fetchKeys_batch]

section Stages

variable {α β : Type} {ctx : Ctx} {ids : Batch → List Uuid} {sort : Batch} {sorts : List Batch}
  {trace : List Answered} {result : Result β}

theorem converses_ask_bind {request : Request} {f : request.Answer → Program β}
    (h : (ask ctx request >>= f).Converses trace result) :
    (∃ e, trace = [⟨.ask ctx request, .error e⟩] ∧ result = .error e) ∨
      ∃ rows rest, trace = ⟨.ask ctx request, .ok rows⟩ :: rest ∧
        (f rows).Converses rest result := by
  rcases converses_bind.mp h with ⟨e, rfl, hask⟩ | ⟨rows, first, rest, rfl, hask, hrest⟩
  · exact .inl ⟨e, converses_request.mp hask, rfl⟩
  · rw [converses_request.mp hask]
    exact .inr ⟨rows, rest, rfl, hrest⟩

theorem plan_cons_of_wanted (hwanted : ids sort ≠ []) :
    Batch.plan ctx ids (sort :: sorts) =
      .ask ctx (sort.request (ids sort)) :: Batch.plan ctx ids sorts := by
  simp [Batch.plan, hwanted]

theorem plan_cons_of_unwanted (hnone : ids sort = []) :
    Batch.plan ctx ids (sort :: sorts) = Batch.plan ctx ids sorts := by
  simp [Batch.plan, hnone]

/-- A program that makes just this call, and ends as the call is answered. -/
def Program.Consists (p : Program α) (call : Call) : Prop :=
  ∀ trace result, p.Converses trace result →
    (∃ e, trace = [⟨call, .error e⟩] ∧ result = .error e) ∨
      ∃ answer a, trace = [⟨call, .ok answer⟩] ∧ result = .ok a

theorem consists_ask (ctx : Ctx) (request : Request) :
    (ask ctx request).Consists (.ask ctx request) := by
  intro trace result hconverses
  rw [converses_request.mp hconverses]
  cases result with
  | error e => exact .inl ⟨e, rfl, rfl⟩
  | ok a => exact .inr ⟨a, a, rfl, rfl⟩

theorem runsThrough_stage {call : Program (List α)} {f : List α → Program β}
    (hcall : call.Consists (.ask ctx (sort.request (ids sort))))
    (hrest : ∀ rows rest, (f rows).Converses rest result →
      RunsThrough (Batch.plan ctx ids sorts) rest (errorOf result))
    (h : (fetchBatch (ids sort) call >>= f).Converses trace result) :
    RunsThrough (Batch.plan ctx ids (sort :: sorts)) trace (errorOf result) := by
  by_cases hids : ids sort = []
  · rw [fetchBatch, if_pos hids] at h
    rw [plan_cons_of_unwanted hids]
    exact hrest [] trace h
  · rw [fetchBatch, if_neg hids] at h
    rw [plan_cons_of_wanted hids]
    rcases converses_bind.mp h with ⟨e, rfl, hfirst⟩ | ⟨rows, first, rest, rfl, hfirst, hlater⟩
    · rcases hcall trace _ hfirst with ⟨e', rfl, he⟩ | ⟨_, _, _, hok⟩
      · cases he
        exact .failed _ e _
      · cases hok
    · rcases hcall first _ hfirst with ⟨_, _, herror⟩ | ⟨answer, _, rfl, _⟩
      · cases herror
      · exact .answered _ answer (hrest rows rest hlater)

theorem runsThrough_fetchOthers {keys : RelationKeys} {schools : List SchoolShort}
    (groups : List GroupShort) {result : Result Related}
    (h : (fetchOthers ctx (cascade keys schools groups) schools groups).Converses trace result) :
    RunsThrough (Batch.plan ctx (Batch.idsIn keys schools groups)
      [.organizations, .grades, .teachers, .students, .users]) trace (errorOf result) := by
  unfold fetchOthers at h
  refine runsThrough_stage (consists_ask ctx _) (fun organizations trace h => ?_) h
  refine runsThrough_stage (consists_ask ctx _) (fun grades trace h => ?_) h
  refine runsThrough_stage (consists_ask ctx _) (fun teachers trace h => ?_) h
  refine runsThrough_stage (consists_ask ctx _) (fun students trace h => ?_) h
  refine runsThrough_stage (consists_ask ctx _) (fun users trace h => ?_) h
  obtain ⟨rfl, rfl⟩ := h
  exact .done

theorem RunsThrough.calls {planned : List Call} {failure : Option AppError}
    (h : RunsThrough planned trace failure) : ∀ x ∈ trace, x.call ∈ planned := by
  induction h with
  | done => exact fun _ hx => nomatch hx
  | failed call e planned =>
    intro x hx
    rw [List.mem_singleton.mp hx]
    exact List.mem_cons_self
  | answered call a hrest ih =>
    intro x hx
    rcases List.mem_cons.mp hx with rfl | hlater
    · exact List.mem_cons_self
    · exact List.mem_cons_of_mem _ (ih x hlater)

theorem exists_of_mem_plan {call : Call} (h : call ∈ Batch.plan ctx ids sorts) :
    ∃ sort ∈ sorts, .ask ctx (sort.request (ids sort)) = call := by
  obtain ⟨sort, hsort, hcall⟩ := List.mem_map.mp h
  exact ⟨sort, (List.mem_filter.mp hsort).1, hcall⟩

theorem RunsThrough.sees_nothing {see : Answered → List α} {failure : Option AppError}
    (h : RunsThrough (Batch.plan ctx ids sorts) trace failure)
    (hsee : ∀ sort ∈ sorts, ∀ answer, see ⟨.ask ctx (sort.request (ids sort)), answer⟩ = []) :
    trace.flatMap see = [] := by
  apply List.flatMap_eq_nil_iff.mpr
  intro x hx
  obtain ⟨sort, hsort, hcall⟩ := exists_of_mem_plan (h.calls x hx)
  obtain ⟨call, answer⟩ := x
  subst hcall
  exact hsee sort hsort answer

theorem RunsThrough.no_schools {failure : Option AppError}
    (h : RunsThrough (Batch.plan ctx ids sorts) trace failure) (hsorts : .schools ∉ sorts) :
    trace.flatMap Answered.schools = [] := by
  refine h.sees_nothing fun sort hsort answer => ?_
  cases sort with
  | schools => exact absurd hsort hsorts
  | groups | organizations | grades | teachers | students | users => rfl

theorem RunsThrough.no_groups {failure : Option AppError}
    (h : RunsThrough (Batch.plan ctx ids sorts) trace failure) (hsorts : .groups ∉ sorts) :
    trace.flatMap Answered.groups = [] := by
  refine h.sees_nothing fun sort hsort answer => ?_
  cases sort with
  | groups => exact absurd hsort hsorts
  | schools | organizations | grades | teachers | students | users => rfl

/-- The groups are known only from the answers; what is fetched later depends on them. -/
theorem runsThrough_groups {keys : RelationKeys} (schools : List SchoolShort)
    {result : Result Related}
    (h : (fetchBatch keys.groups (ask ctx (.groupsByIds keys.groups)) >>= fun groups =>
      fetchOthers ctx (cascade keys schools (indexById GroupShort.id groups)) schools
        (indexById GroupShort.id groups)).Converses trace result) :
    RunsThrough (Batch.plan ctx
      (Batch.idsIn keys schools (indexById GroupShort.id (trace.flatMap Answered.groups)))
      [.groups, .organizations, .grades, .teachers, .students, .users]) trace
      (errorOf result) := by
  by_cases hids : keys.groups = []
  · rw [fetchBatch, if_pos hids] at h
    have hothers := runsThrough_fetchOthers [] h
    rw [hothers.no_groups (by decide), plan_cons_of_unwanted hids]
    exact hothers
  · rw [fetchBatch, if_neg hids] at h
    rw [plan_cons_of_wanted hids]
    rcases converses_ask_bind h with ⟨e, rfl, rfl⟩ | ⟨rows, rest, rfl, hrest⟩
    · exact .failed _ e _
    · have hothers := runsThrough_fetchOthers _ hrest
      have hgroups : List.flatMap Answered.groups
          (⟨.ask ctx (.groupsByIds keys.groups), .ok rows⟩ :: rest) = rows := by
        rw [List.flatMap_cons, hothers.no_groups (by decide), List.append_nil]
        rfl
      rw [hgroups]
      exact .answered _ rows hothers

theorem runsThrough_resolve {keys : RelationKeys} {result : Result Related}
    (h : (resolve ctx .batch keys).Converses trace result) :
    RunsThrough (Batch.plan ctx
      (Batch.idsIn keys (indexById SchoolShort.id (trace.flatMap Answered.schools))
        (indexById GroupShort.id (trace.flatMap Answered.groups))) Batch.all) trace
      (errorOf result) := by
  rw [resolve_batch] at h
  unfold Batch.all
  by_cases hids : keys.schools = []
  · rw [fetchBatch, if_pos hids] at h
    have hgroups := runsThrough_groups [] h
    rw [hgroups.no_schools (by decide), plan_cons_of_unwanted hids]
    exact hgroups
  · rw [fetchBatch, if_neg hids] at h
    rw [plan_cons_of_wanted hids]
    rcases converses_ask_bind h with ⟨e, rfl, rfl⟩ | ⟨rows, rest, rfl, hrest⟩
    · exact .failed _ e _
    · have hgroups := runsThrough_groups _ hrest
      have hschools : List.flatMap Answered.schools
          (⟨.ask ctx (.schoolsByIds keys.schools), .ok rows⟩ :: rest) = rows := by
        rw [List.flatMap_cons, hgroups.no_schools (by decide), List.append_nil]
        rfl
      rw [hschools]
      exact .answered _ rows hgroups

end Stages

/-! ## The bound -/

section Bound

variable {α : Type} [Hydratable α] {ctx : Ctx} {items : List α}

theorem mem_idsIn {schools : List SchoolShort} {groups : List GroupShort} {sort : Batch}
    {id : Uuid} :
    id ∈ Batch.idsIn (RelationKeys.ofAll items) schools groups sort ↔
      Wanted items schools groups id sort := by
  have hown : id ∈ sort.column (RelationKeys.ofAll items) ↔
      ∃ item ∈ items, id ∈ sort.column (Hydratable.keys item) := sort.isColumn.mem_ofAll
  have hcascade : id ∈ sort.column (cascade (RelationKeys.ofAll items) schools groups) ↔ _ :=
    sort.isColumn.mem_cascade
  rw [hown] at hcascade
  cases sort with
  | schools | groups => exact hown.trans (or_false _).symm.to_iff
  | organizations | grades | teachers | students | users =>
    refine hcascade.trans ?_
    simp [Wanted, Batch.column, Hydratable.keys, eq_comm]

theorem pairwise_idsIn (schools : List SchoolShort) (groups : List GroupShort) (sort : Batch) :
    (Batch.idsIn (RelationKeys.ofAll items) schools groups sort).Pairwise
      (·.toNat < ·.toNat) := by
  have hnormalized : ∀ keys : RelationKeys,
      (sort.column keys.normalize).Pairwise (·.toNat < ·.toNat) := by
    intro keys
    rw [sort.isColumn.normalize]
    exact pairwise_keySet _
  cases sort <;> exact hnormalized _

theorem fetchesOnce_of_converses {trace : List Answered} {result : Result (List α)}
    (h : (hydrateMany ctx items).Converses trace result) : FetchesOnce ctx items trace result := by
  cases items with
  | nil =>
    obtain ⟨rfl, rfl⟩ := h
    have hunwanted : ∀ sort id, id ∈ ([] : List Uuid) ↔ Wanted ([] : List α) [] [] id sort := by
      intro sort id
      cases sort <;> simp [Wanted]
    exact ⟨fun _ => ⟨rfl, rfl⟩, fun _ => [], fun _ => .nil, hunwanted, .done⟩
  | cons first others =>
    have hresolve : (resolve ctx .batch (RelationKeys.ofAll (first :: others)) >>= fun related =>
      pure (hydrateAll related (first :: others))).Converses trace result := h
    refine ⟨(fun hnone => nomatch hnone), _, pairwise_idsIn _ _, fun sort id => mem_idsIn, ?_⟩
    rcases converses_bind.mp hresolve with
      ⟨e, rfl, hfetched⟩ | ⟨related, trace, last, rfl, hfetched, hlast⟩
    · exact runsThrough_resolve hfetched
    · obtain ⟨rfl, rfl⟩ := hlast
      rw [List.append_nil]
      exact runsThrough_resolve hfetched

/-- The calls for a page of values, on any storage. -/
theorem page_fetch_bound {σ : Type} (h : Handler σ) (s : σ) (ctx : Ctx) (items : List α) :
    Recorded (FetchesOnce ctx items) ((hydrateMany ctx items).run h.recording { state := s }) :=
  recorded_of_converses fun _ _ => fetchesOnce_of_converses

end Bound

end Registrar
