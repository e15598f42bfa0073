import Mathlib.Data.List.Basic
import Registrar.Proofs.Joins
import Registrar.Proofs.Reading

/-!
# Looking up relations computes the join

The relations of a value are fetched by several look-ups one after another.  `Program.Reads`
says what a program that only reads comes to, whatever tables its look-ups are answered from,
as long as these tables are as expected.  If they agree on the keys in question, the program
that looks relations up comes to the join, for a single value and for a list
(`hydration_joins`).
-/

namespace Registrar

open Program Service

namespace Program

variable {α β : Type} {ctx : Ctx} {sees : Tables → Prop}

/-- Answered from tables that are as expected, the program comes to a value that is wanted.
It makes nothing but look-ups in one context, and ends with the error of one that is
stopped. -/
def Reads (ctx : Ctx) (sees : Tables → Prop) (wanted : α → Prop) : Program α → Prop
  | .done a => wanted a
  | .fail _ => False
  | .note _ next => next.Reads ctx sees wanted
  | .call (.ask ctx' request) next =>
    ctx' = ctx ∧ request.isLookup ∧ (∀ e, next (.error e) = .fail e) ∧
      ∀ t, sees t → ∀ stamp,
        (next (t.serve Memory.policy stamp request).1).Reads ctx sees wanted
  | .call _ _ => False

theorem reads_bind {p : Program α} {f : α → Program β} (middle : α → Prop)
    {wanted : β → Prop} (hp : p.Reads ctx sees middle)
    (hf : ∀ a, middle a → (f a).Reads ctx sees wanted) : (p >>= f).Reads ctx sees wanted := by
  change (p.bind f).Reads ctx sees wanted
  induction p with
  | done a => exact hf a hp
  | fail e => exact hp.elim
  | note event next ih => exact ih hp
  | call c next ih =>
    cases c with
    | begin _ | commit _ | rollback _ => exact hp.elim
    | ask ctx' request =>
      obtain ⟨hctx, hlookup, hstopped, hserved⟩ := hp
      refine ⟨hctx, hlookup, fun e => ?_, fun t ht stamp => ih _ (hserved t ht stamp)⟩
      change (next (.error e)).bind f = .fail e
      rw [hstopped e]
      rfl

theorem reads_ask {request : Request} {wanted : request.Answer → Prop}
    (hlookup : request.isLookup)
    (hserved : ∀ t, sees t → ∀ stamp, ∃ answer,
      (t.serve Memory.policy stamp request).1 = .ok answer ∧ wanted answer) :
    (ask ctx request).Reads ctx sees wanted := by
  refine ⟨rfl, hlookup, fun e => rfl, fun t ht stamp => ?_⟩
  obtain ⟨answer, hanswer, hwanted⟩ := hserved t ht stamp
  rw [hanswer]
  exact hwanted

end Program

/-! ## Tables that agree -/

/-- `t'` answers the look-ups of the keys as `t` does. -/
structure Tables.Agrees (t t' : Tables) (keys : RelationKeys) : Prop where
  users : ∀ id ∈ keys.users, t'.user? id = t.user? id
  schools : ∀ id ∈ keys.schools, t'.schoolShort? id = t.schoolShort? id
  organizations : ∀ id ∈ keys.organizations, t'.organizationShort? id = t.organizationShort? id
  groups : ∀ id ∈ keys.groups, t'.groupShort? id = t.groupShort? id
  grades : ∀ id ∈ keys.grades, t'.grade? id = t.grade? id
  teachers : ∀ id ∈ keys.teachers, t'.teacherShort? id = t.teacherShort? id
  students : ∀ id ∈ keys.students, t'.studentShort? id = t.studentShort? id

/-! ## Fetching -/

section Fetch

variable {ctx : Ctx} {sees : Tables → Prop} {t : Tables} {mode : FetchMode} {ids : List Uuid}

def fetchKeys {α : Type} (mode : FetchMode) (single : Uuid → Program (Option α))
    (batch : List Uuid → Program (List α)) : List Uuid → Program (List α)
  | [] => return []
  | [id] =>
    match mode with
    | .single => return (← single id).toList
    | .batch => batch [id]
  | ids => batch ids

theorem fetchSchools_eq : fetchSchools ctx mode ids =
    fetchKeys mode (fun id => ask ctx (.schoolById id)) (fun ids => ask ctx (.schoolsByIds ids))
      ids := by
  rcases ids with _ | ⟨id, _ | ⟨other, rest⟩⟩ <;> rfl

theorem fetchUsers_eq : fetchUsers ctx mode ids =
    fetchKeys mode (fun id => ask ctx (.userById id)) (fun ids => ask ctx (.usersByIds ids))
      ids := by
  rcases ids with _ | ⟨id, _ | ⟨other, rest⟩⟩ <;> rfl

theorem reads_fetchKeys {α : Type} {lookup : Uuid → Option α}
    {single : Uuid → Program (Option α)} {batch : List Uuid → Program (List α)}
    (hsingle : ∀ id ∈ ids, (single id).Reads ctx sees (· = lookup id))
    (hbatch : (batch ids).Reads ctx sees (· = ids.filterMap lookup)) :
    (fetchKeys mode single batch ids).Reads ctx sees (· = ids.filterMap lookup) := by
  unfold fetchKeys
  split
  next => rfl
  next id =>
    cases mode with
    | batch => exact hbatch
    | single =>
      refine reads_bind _ (hsingle id (List.mem_singleton_self id)) ?_
      rintro _ rfl
      change (lookup id).toList = [id].filterMap lookup
      rw [List.filterMap_cons]
      cases lookup id <;> rfl
  next => exact hbatch

theorem reads_fetchSchools
    (hagree : ∀ t', sees t' → ∀ id ∈ ids, t'.schoolShort? id = t.schoolShort? id) :
    (fetchSchools ctx mode ids).Reads ctx sees (· = ids.filterMap t.schoolShort?) := by
  rw [fetchSchools_eq]
  apply reads_fetchKeys
  · exact fun id hid => reads_ask rfl fun t' ht' _ => ⟨_, rfl, hagree t' ht' id hid⟩
  · exact reads_ask rfl fun t' ht' _ => ⟨_, rfl, List.filterMap_congr (hagree t' ht')⟩

theorem reads_fetchUsers (hagree : ∀ t', sees t' → ∀ id ∈ ids, t'.user? id = t.user? id) :
    (fetchUsers ctx mode ids).Reads ctx sees (· = ids.filterMap t.user?) := by
  rw [fetchUsers_eq]
  apply reads_fetchKeys
  · exact fun id hid => reads_ask rfl fun t' ht' _ => ⟨_, rfl, hagree t' ht' id hid⟩
  · exact reads_ask rfl fun t' ht' _ => ⟨_, rfl, List.filterMap_congr (hagree t' ht')⟩

theorem reads_fetchBatch {α : Type} {lookup : Uuid → Option α} {call : Program (List α)}
    (hcall : call.Reads ctx sees (· = ids.filterMap lookup)) :
    (fetchBatch ids call).Reads ctx sees (· = ids.filterMap lookup) := by
  unfold fetchBatch
  split
  next hnone =>
    subst hnone
    rfl
  next => exact hcall

theorem reads_resolve {keys : RelationKeys}
    (hagree : ∀ t', sees t' → t.Agrees t' (t.cascaded keys)) :
    (resolve ctx mode keys).Reads ctx sees (· = t.fetched keys) := by
  have hschools := fun t' ht' id hid =>
    (hagree t' ht').schools id (RelationKeys.column_schools.mem_cascade.mpr (.inl hid))
  have hgroups := fun t' ht' id hid =>
    (hagree t' ht').groups id (RelationKeys.column_groups.mem_cascade.mpr (.inl hid))
  unfold resolve
  refine reads_bind _ (reads_fetchSchools hschools) ?_
  rintro _ rfl
  refine reads_bind _ (reads_fetchBatch (reads_ask rfl fun t' ht' _ =>
    ⟨_, rfl, List.filterMap_congr (hgroups t' ht')⟩)) ?_
  rintro _ rfl
  change Reads ctx sees _ (fetchBatch (t.cascaded keys).organizations _ >>= _)
  refine reads_bind _ (reads_fetchBatch (reads_ask rfl fun t' ht' _ =>
    ⟨_, rfl, List.filterMap_congr (hagree t' ht').organizations⟩)) ?_
  rintro _ rfl
  refine reads_bind _ (reads_fetchBatch (reads_ask rfl fun t' ht' _ =>
    ⟨_, rfl, List.filterMap_congr (hagree t' ht').grades⟩)) ?_
  rintro _ rfl
  refine reads_bind _ (reads_fetchBatch (reads_ask rfl fun t' ht' _ =>
    ⟨_, rfl, List.filterMap_congr (hagree t' ht').teachers⟩)) ?_
  rintro _ rfl
  refine reads_bind _ (reads_fetchBatch (reads_ask rfl fun t' ht' _ =>
    ⟨_, rfl, List.filterMap_congr (hagree t' ht').students⟩)) ?_
  rintro _ rfl
  refine reads_bind _ (reads_fetchUsers fun t' ht' => (hagree t' ht').users) ?_
  rintro _ rfl
  rfl

variable {α : Type} [Hydratable α] {join : α → α}

theorem reads_hydrateOne {item : α}
    (hjoin : ∀ {r : Related} {item : α}, r.Shows t (Hydratable.keys item) →
      Hydratable.hydrate r item = join item)
    (hagree : ∀ t', sees t' → t.Agrees t' (t.cascaded (RelationKeys.ofAll [item]))) :
    (hydrateOne ctx item).Reads ctx sees (· = join item) := by
  unfold hydrateOne
  refine reads_bind _ (reads_resolve hagree) ?_
  rintro _ rfl
  exact hjoin (Tables.shows_fetched.item (List.mem_singleton_self item))

theorem reads_hydrateMany {items : List α}
    (hjoin : ∀ {r : Related} {item : α}, r.Shows t (Hydratable.keys item) →
      Hydratable.hydrate r item = join item)
    (hagree : ∀ t', sees t' → t.Agrees t' (t.cascaded (RelationKeys.ofAll items))) :
    (hydrateMany ctx items).Reads ctx sees (· = items.map join) := by
  unfold hydrateMany
  split
  next => rfl
  next =>
    refine reads_bind _ (reads_resolve hagree) ?_
    rintro _ rfl
    exact List.map_congr_left fun item hitem => hjoin (Tables.shows_fetched.item hitem)

end Fetch

/-! ## On a course -/

namespace Store

/-- Calls in the context are let through to the tables. -/
def Admits (s : Store) (ctx : Ctx) : Prop :=
  match ctx.handle with
  | none => s.opened = none
  | some h => ∃ u, s.unitOf h = .ok u

variable {s : Store} {ctx : Ctx} {request : Request}

theorem ask_admitted (hadmits : s.Admits ctx) {tick : Tick}
    (htime : ctx.isOver tick.now = false) :
    s.ask tick ctx request =
      .answered (s.perform tick.stamp request).1 (s.perform tick.stamp request).2 := by
  unfold Admits at hadmits
  cases hhandle : ctx.handle with
  | none =>
    rw [hhandle] at hadmits
    exact ask_plain hhandle hadmits htime
  | some h =>
    rw [hhandle] at hadmits
    obtain ⟨u, hunit⟩ := hadmits
    exact ask_inside hhandle hunit htime

theorem answer_lookup (hlookup : request.isLookup) (hadmits : s.Admits ctx) {tick : Tick}
    (htime : ctx.isOver tick.now = false) :
    s.answer tick (.ask ctx request) =
      .ended (s.tables.serve Memory.policy tick.stamp request).1 s := by
  have hserved : s.ask tick ctx request = _ := ask_admitted hadmits htime
  rw [perform_lookup s tick.stamp hlookup] at hserved
  exact answer_of_answered hserved

theorem answer_lookup_cases (hlookup : request.isLookup) (tick : Tick) :
    (∃ e, e.isStop ∧ s.answer tick (.ask ctx request) = .ended (.error e) s) ∨
      s.answer tick (.ask ctx request) = .stuck s ∨
      s.answer tick (.ask ctx request) =
        .ended (s.tables.serve Memory.policy tick.stamp request).1 s := by
  rcases s.ask_cases tick ctx request with ⟨e, hstop, hask⟩ | ⟨hask, _⟩ | ⟨hask, _⟩
  · exact .inl ⟨e, hstop, answer_of_answered hask⟩
  · cases hdeadline : ctx.deadline with
    | none =>
      exact .inr (.inl (by simp [answer, serve, hask, World.deadlineOf, hdeadline]))
    | some deadline =>
      exact .inl ⟨.deadlineExceeded (Memory.operation request), rfl, by
        simp [answer, serve, hask, World.deadlineOf, hdeadline, Backing.operation]⟩
  · rw [perform_lookup s tick.stamp hlookup] at hask
    exact .inr (.inr (answer_of_answered hask))

end Store

/-- What a program that reads in a context comes to on a course: it ends with no other value,
with no error unless it is stopped, and with the value if the store admits the context and
the deadline does not come. -/
structure Course.ComesTo {α : Type} (c : Course) (ctx : Ctx) (p : Program α) (value : α) :
    Prop where
  only : ∀ a s, c.run p = .ended (.ok a) s → a = value ∧ s = c.store
  stopped : ∀ e s, c.run p = .ended (.error e) s → e.isStop
  ends : c.store.Admits ctx → (∀ n, ctx.isOver (c.moments n).now = false) →
    c.run p = .ended (.ok value) c.store

theorem Course.run_lookup_cases {α : Type} (c : Course) (ctx : Ctx) {request : Request}
    {next : Result request.Answer → Program α} (hlookup : request.isLookup)
    (hstopped : ∀ e, next (.error e) = .fail e) :
    (∃ e, e.isStop ∧ c.run (.call (.ask ctx request) next) = .ended (.error e) c.store) ∨
      c.run (.call (.ask ctx request) next) = .stuck c.store ∨
      c.run (.call (.ask ctx request) next) =
        (c.after c.store).run
          (next (c.store.tables.serve Memory.policy (c.moments 0).stamp request).1) := by
  rw [run_call]
  rcases c.store.answer_lookup_cases hlookup (c.moments 0) with
    ⟨e, hstop, hanswer⟩ | hanswer | hanswer
  · rw [hanswer]
    refine .inl ⟨e, hstop, ?_⟩
    change (c.after c.store).run (next (.error e)) = _
    rw [hstopped e]
    rfl
  · rw [hanswer]
    exact .inr (.inl rfl)
  · rw [hanswer]
    exact .inr (.inr rfl)

theorem Program.Reads.comesTo {α : Type} {ctx : Ctx} {p : Program α} {c : Course} {value : α}
    (h : p.Reads ctx (· = c.store.tables) (· = value)) : c.ComesTo ctx p value := by
  induction p generalizing c with
  | done a =>
    cases h
    refine ⟨fun a s hrun => ?_, fun e s hrun => ?_, fun _ _ => rfl⟩
    · cases hrun
      exact ⟨rfl, rfl⟩
    · cases hrun
  | fail e => exact h.elim
  | note event next ih => exact ⟨(ih h).only, (ih h).stopped, (ih h).ends⟩
  | call made next ih =>
    cases made with
    | begin _ | commit _ | rollback _ => exact h.elim
    | ask ctx' request =>
      obtain ⟨rfl, hlookup, hstopped, hserved⟩ := h
      have hnext := ih _ (c := c.after c.store) (hserved _ rfl (c.moments 0).stamp)
      have hcases := c.run_lookup_cases ctx' hlookup hstopped
      refine ⟨fun a s hrun => ?_, fun e s hrun => ?_, fun hadmits htime => ?_⟩
      · rcases hcases with ⟨e, _, hended⟩ | hstuck | hgoes
        · cases hended.symm.trans hrun
        · cases hstuck.symm.trans hrun
        · exact hnext.only a s (hgoes.symm.trans hrun)
      · rcases hcases with ⟨e', hstop, hended⟩ | hstuck | hgoes
        · cases hended.symm.trans hrun
          exact hstop
        · cases hstuck.symm.trans hrun
        · exact hnext.stopped e s (hgoes.symm.trans hrun)
      · rw [Course.run_call, Store.answer_lookup hlookup hadmits (htime 0)]
        exact hnext.ends hadmits fun n => htime (n + 1)

/-- A join is what a list comes to and what a single value comes to. -/
def Course.Hydrates {α : Type} [Hydratable α] (c : Course) (ctx : Ctx) (join : α → α) : Prop :=
  (∀ items : List α, c.ComesTo ctx (hydrateMany ctx items) (items.map join)) ∧
    ∀ item : α, c.ComesTo ctx (hydrateOne ctx item) (join item)

theorem Course.hydrates_of_hydrate {α : Type} [Hydratable α] {c : Course} {ctx : Ctx}
    {join : α → α}
    (hjoin : ∀ {r : Related} {item : α}, r.Shows c.store.tables (Hydratable.keys item) →
      Hydratable.hydrate r item = join item) : c.Hydrates ctx join := by
  have hagree : ∀ keys t', t' = c.store.tables → c.store.tables.Agrees t' keys := by
    rintro keys _ rfl
    constructor <;> exact fun _ _ => rfl
  exact ⟨fun items => (reads_hydrateMany hjoin (hagree _)).comesTo,
    fun item => (reads_hydrateOne hjoin (hagree _)).comesTo⟩

/-- Schools, groups, role grants, guardian links and profiles are all joined with what their
keys name, by looking up a list of them just as by looking up each of them. -/
theorem hydration_joins (c : Course) (ctx : Ctx) :
    c.Hydrates ctx c.store.tables.joinSchool ∧ c.Hydrates ctx c.store.tables.joinGroup ∧
      c.Hydrates ctx c.store.tables.joinGrant ∧ c.Hydrates ctx c.store.tables.joinLink ∧
      c.Hydrates ctx c.store.tables.joinProfile :=
  ⟨Course.hydrates_of_hydrate hydrate_school, Course.hydrates_of_hydrate hydrate_group,
    Course.hydrates_of_hydrate hydrate_grant, Course.hydrates_of_hydrate hydrate_link,
    Course.hydrates_of_hydrate hydrate_profile⟩

end Registrar
