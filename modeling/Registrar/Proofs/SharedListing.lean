import Registrar.Proofs.Following
import Registrar.Proofs.Listing
import Registrar.Proofs.ReadBack

/-!
# Lists that are read while others write

A list of profiles or guardian links is read by up to nine look-ups: the rows, their number
and at most seven for their relations.  Between them others write, in units of work that they
may yet abandon.  What is seen only grows, so there are never more rows than are counted; and
whatever is shown stands, so no unit that is abandoned later has written any of it
(`listed_rows_stand`).
-/

namespace Registrar

open Program Service

/-! ## Look-ups whose answers stay -/

/-- Under an identifier there is a row that has it, and in grown tables it is still there. -/
structure Stays {α : Type} (key : α → Uuid) (lookup : Tables → Uuid → Option α) : Prop where
  own : ∀ {t id row}, lookup t id = some row → key row = id
  kept : ∀ {t t' : Tables}, t.GrowsTo t' → ∀ {id row},
    lookup t id = some row → lookup t' id = some row

namespace Tables

theorem stays_users : Stays User.id user? :=
  ⟨id_of_user?, GrowsTo.user?⟩

theorem stays_schools : Stays SchoolShort.id schoolShort? :=
  ⟨id_of_schoolShort?, GrowsTo.schoolShort?⟩

theorem stays_organizations : Stays OrganizationShort.id organizationShort? :=
  ⟨id_of_organizationShort?, GrowsTo.organizationShort?⟩

theorem stays_groups : Stays GroupShort.id groupShort? :=
  ⟨id_of_groupShort?, GrowsTo.groupShort?⟩

theorem stays_grades : Stays Grade.id grade? :=
  ⟨id_of_grade?, GrowsTo.grade?⟩

theorem stays_teachers : Stays TeacherShort.id teacherShort? :=
  ⟨id_of_teacherShort?, GrowsTo.teacherShort?⟩

theorem stays_students : Stays StudentShort.id studentShort? :=
  ⟨id_of_studentShort?, GrowsTo.studentShort?⟩

end Tables

section Fetch

variable {α : Type} {key : α → Uuid} {lookup : Tables → Uuid → Option α} {ctx : Ctx}
  {most : Nat} {seen seen' : List Tables} {ids : List Uuid} {t : Tables}

/-- Rows that were fetched by one look-up at most, and stand under their identifiers. -/
structure Fetched (key : α → Uuid) (lookup : Tables → Uuid → Option α)
    (seen seen' : List Tables) (rows : List α) : Prop where
  few : seen'.length ≤ seen.length + 1
  stand : ∀ t, Beyond seen' t → ∀ row ∈ rows, lookup t (key row) = some row

theorem fetched_nil : Fetched key lookup seen seen [] :=
  ⟨Nat.le_succ _, fun _ _ _ hnone => nomatch hnone⟩

theorem Stays.fetched (h : Stays key lookup) :
    Fetched key lookup seen (seen ++ [t]) (ids.filterMap (lookup t)) := by
  have hfew : (seen ++ [t]).length ≤ seen.length + 1 := by simp
  refine ⟨hfew, fun t' ht' row hrow => ?_⟩
  obtain ⟨id, _, hfound⟩ := List.mem_filterMap.mp hrow
  have hgrows : t.GrowsTo t' := ht' t (List.mem_append_right _ List.mem_cons_self)
  rw [h.own hfound]
  exact h.kept hgrows hfound

theorem follows_fetchBatch {call : Program (List α)} (hstays : Stays key lookup)
    (hcall : call.Looks ctx fun t => ids.filterMap (lookup t)) (hroom : seen.length < most) :
    (fetchBatch ids call).Follows ctx most (Fetched key lookup seen) seen := by
  unfold fetchBatch
  split
  next => exact fetched_nil
  next => exact hcall _ _ _ hroom fun t _ => hstays.fetched

theorem follows_fetchKeys {mode : FetchMode} {single : Uuid → Program (Option α)}
    {batch : List Uuid → Program (List α)} (hstays : Stays key lookup)
    (hsingle : ∀ id, (single id).Looks ctx fun t => lookup t id)
    (hbatch : ∀ ids, (batch ids).Looks ctx fun t => ids.filterMap (lookup t))
    (hroom : seen.length < most) :
    (fetchKeys mode single batch ids).Follows ctx most (Fetched key lookup seen) seen := by
  unfold fetchKeys
  split
  next => exact fetched_nil
  next id =>
    cases mode with
    | batch => exact hbatch [id] _ _ _ hroom fun t _ => hstays.fetched
    | single =>
      have hone : ∀ t, (lookup t id).toList = [id].filterMap (lookup t) := by
        intro t
        cases hrow : lookup t id <;> simp [hrow]
      refine follows_bind (fun seen' row => Fetched key lookup seen seen' row.toList)
        (hsingle id _ _ _ hroom fun t _ => ?_) ?_
      · rw [hone]
        exact hstays.fetched
      · intro seen' row _ hfetched
        exact hfetched
  next => exact hbatch _ _ _ _ hroom fun t _ => hstays.fetched

end Fetch

/-! ## Relations that stand -/

/-- What is shown, if anything, is what is looked up. -/
def Shown {α : Type} (shown looked : Option α) : Prop :=
  ∀ a, shown = some a → looked = some a

structure SchoolShort.StandsIn (t : Tables) (school : SchoolShort) : Prop where
  row : t.schoolShort? school.id = some { school with organization := none }
  organization : Shown school.organization (t.organizationShort? school.organizationId)

structure GroupShort.StandsIn (t : Tables) (group : GroupShort) : Prop where
  row : t.groupShort? group.id = some { group with grade := none, classTeacher := none }
  grade : Shown group.grade (t.grade? group.gradeId)
  classTeacher : Shown group.classTeacher (group.classTeacherId.bind t.teacherShort?)

/-- All that is shown with a profile is what its keys name in the tables. -/
structure Profile.StandsIn (t : Tables) (p : Profile) : Prop where
  user : Shown p.user (t.user? p.userId)
  school : ∀ school, p.school = some school → school.id = p.scopeId ∧ school.StandsIn t
  organization : Shown p.organization (t.organizationShort? p.scopeId)
  group : ∀ group, p.group = some group → p.placedIn = some group.id ∧ group.StandsIn t

structure GuardianLink.StandsIn (t : Tables) (link : GuardianLink) : Prop where
  user : Shown link.user (t.user? link.userId)
  student : Shown link.student (t.studentShort? link.studentId)

/-- What related rows show under an identifier, if anything, is what the tables have. -/
structure Related.StandsIn (t : Tables) (r : Related) : Prop where
  users : ∀ id, Shown (r.user? id) (t.user? id)
  organizations : ∀ id, Shown (r.organization? id) (t.organizationShort? id)
  grades : ∀ id, Shown (r.grade? id) (t.grade? id)
  teachers : ∀ id, Shown (r.teacher? id) (t.teacherShort? id)
  students : ∀ id, Shown (r.student? id) (t.studentShort? id)
  schools : ∀ id school, r.school? id = some school → school.id = id ∧ school.StandsIn t
  groups : ∀ id group, r.group? id = some group → group.id = id ∧ group.StandsIn t

section Related

variable {t : Tables} {r : Related}

theorem shown_find? {α : Type} {key : α → Uuid} {lookup : Uuid → Option α} {rows : List α}
    (hrows : ∀ row ∈ rows, lookup (key row) = some row) (id : Uuid) :
    Shown ((indexById key rows).find? (key · == id)) (lookup id) := by
  intro row hfound
  have hkey : key row = id := by simpa using List.find?_some hfound
  rw [← hkey]
  exact hrows row (mem_of_mem_indexById (List.mem_of_find?_eq_some hfound))

theorem Shown.bind {α : Type} {key : Option Uuid} {shown looked : Uuid → Option α}
    (h : ∀ id, Shown (shown id) (looked id)) : Shown (key.bind shown) (key.bind looked) := by
  cases key with
  | none => exact fun _ hnone => nomatch hnone
  | some id => exact h id

theorem SchoolShort.standsIn_hydrate (h : r.StandsIn t) {school : SchoolShort}
    (hrow : t.schoolShort? school.id = some school) :
    SchoolShort.StandsIn t (Hydratable.hydrate r school) := by
  refine ⟨?_, h.organizations school.organizationId⟩
  obtain ⟨row, _, rfl⟩ := Option.map_eq_some_iff.mp hrow
  exact hrow

theorem GroupShort.standsIn_hydrate (h : r.StandsIn t) {group : GroupShort}
    (hrow : t.groupShort? group.id = some group) :
    GroupShort.StandsIn t (Hydratable.hydrate r group) := by
  refine ⟨?_, h.grades group.gradeId, Shown.bind h.teachers⟩
  obtain ⟨row, _, rfl⟩ := Option.map_eq_some_iff.mp hrow
  exact hrow

theorem Profile.standsIn_hydrate (h : r.StandsIn t) (row : ProfileRow) :
    Profile.StandsIn t (Hydratable.hydrate r row.bare) := by
  have hgroup : ∀ group, row.placedIn.bind r.group? = some group →
      row.placedIn = some group.id ∧ group.StandsIn t := by
    intro group hshown
    obtain ⟨id, hplaced, hfound⟩ := Option.bind_eq_some_iff.mp hshown
    obtain ⟨hid, hstands⟩ := h.groups id group hfound
    exact ⟨hid ▸ hplaced, hstands⟩
  simp only [Hydratable.hydrate]
  cases row.bare.kind.role.scopeKind with
  | school =>
    exact ⟨h.users _, h.schools _, fun _ hnone => (nomatch hnone), hgroup⟩
  | organization =>
    exact ⟨h.users _, fun _ hnone => (nomatch hnone), h.organizations _,
      fun _ hnone => nomatch hnone⟩

theorem GuardianLink.standsIn_hydrate (h : r.StandsIn t) (row : GuardianRow) :
    GuardianLink.StandsIn t (Hydratable.hydrate r row.bare) :=
  ⟨h.users _, h.students _⟩

end Related

theorem find?_hydrateAll {α : Type} [Hydratable α] {found : Related} {key : α → Uuid}
    {rows : List α} {id : Uuid} {row : α}
    (h : (hydrateAll found rows).find? (key · == id) = some row) :
    key row = id ∧ ∃ bare ∈ rows, Hydratable.hydrate found bare = row := by
  have hkey : key row = id := by simpa using List.find?_some h
  exact ⟨hkey, List.mem_map.mp (List.mem_of_find?_eq_some h)⟩

theorem Related.StandsIn.hydrated {t : Tables} {found : Related} (h : found.StandsIn t)
    {schools : List SchoolShort} {groups : List GroupShort}
    (hschools : ∀ school ∈ schools, t.schoolShort? school.id = some school)
    (hgroups : ∀ group ∈ groups, t.groupShort? group.id = some group) :
    Related.StandsIn t
      { found with
        schools := hydrateAll found (indexById SchoolShort.id schools)
        groups := hydrateAll found (indexById GroupShort.id groups) } where
  users := h.users
  organizations := h.organizations
  grades := h.grades
  teachers := h.teachers
  students := h.students
  schools id school hfound := by
    obtain ⟨hid, bare, hbare, rfl⟩ := find?_hydrateAll hfound
    exact ⟨hid, SchoolShort.standsIn_hydrate h (hschools bare (mem_of_mem_indexById hbare))⟩
  groups id group hfound := by
    obtain ⟨hid, bare, hbare, rfl⟩ := find?_hydrateAll hfound
    exact ⟨hid, GroupShort.standsIn_hydrate h (hgroups bare (mem_of_mem_indexById hbare))⟩

section Lists

open Tables

variable {ctx : Ctx} {most : Nat} {seen : List Tables}

/-- All relations are found by at most seven look-ups. -/
theorem follows_resolve {mode : FetchMode} {keys : RelationKeys}
    (hroom : seen.length + 7 ≤ most) :
    (resolve ctx mode keys).Follows ctx most
      (fun seen' r => ∀ t, Beyond seen' t → r.StandsIn t) seen := by
  unfold resolve
  rw [fetchSchools_eq]
  refine follows_bind _ (follows_fetchKeys stays_schools (fun id => looks_ask rfl fun _ _ => rfl)
    (fun ids => looks_ask rfl fun _ _ => rfl) (by omega)) ?_
  intro seen₁ schools _ hschools
  have hfew₁ := hschools.few
  refine follows_bind _ (follows_fetchBatch stays_groups (looks_ask rfl fun _ _ => rfl)
    (by omega)) ?_
  intro seen₂ groups hseen₂ hgroups
  have hfew₂ := hgroups.few
  refine follows_bind _ (follows_fetchBatch stays_organizations (looks_ask rfl fun _ _ => rfl)
    (by omega)) ?_
  intro seen₃ organizations hseen₃ horganizations
  have hfew₃ := horganizations.few
  refine follows_bind _ (follows_fetchBatch stays_grades (looks_ask rfl fun _ _ => rfl)
    (by omega)) ?_
  intro seen₄ grades hseen₄ hgrades
  have hfew₄ := hgrades.few
  refine follows_bind _ (follows_fetchBatch stays_teachers (looks_ask rfl fun _ _ => rfl)
    (by omega)) ?_
  intro seen₅ teachers hseen₅ hteachers
  have hfew₅ := hteachers.few
  refine follows_bind _ (follows_fetchBatch stays_students (looks_ask rfl fun _ _ => rfl)
    (by omega)) ?_
  intro seen₆ students hseen₆ hstudents
  have hfew₆ := hstudents.few
  rw [fetchUsers_eq]
  refine follows_bind _ (follows_fetchKeys stays_users (fun id => looks_ask rfl fun _ _ => rfl)
    (fun ids => looks_ask rfl fun _ _ => rfl) (by omega)) ?_
  intro seen₇ users hseen₇ husers t ht₇
  -- What was fetched earlier still stands where all look-ups lead to.
  have ht₆ := ht₇.earlier hseen₇
  have ht₅ := ht₆.earlier hseen₆
  have ht₄ := ht₅.earlier hseen₅
  have ht₃ := ht₄.earlier hseen₄
  have ht₂ := ht₃.earlier hseen₃
  have ht₁ := ht₂.earlier hseen₂
  have hleaves : Related.StandsIn t
      { users := indexById User.id users
        organizations := indexById OrganizationShort.id organizations
        grades := indexById Grade.id grades
        teachers := indexById TeacherShort.id teachers
        students := indexById StudentShort.id students } :=
    { users := shown_find? (husers.stand t ht₇)
      organizations := shown_find? (horganizations.stand t ht₃)
      grades := shown_find? (hgrades.stand t ht₄)
      teachers := shown_find? (hteachers.stand t ht₅)
      students := shown_find? (hstudents.stand t ht₆)
      schools := fun _ _ hnone => nomatch hnone
      groups := fun _ _ hnone => nomatch hnone }
  exact hleaves.hydrated (hschools.stand t ht₁) (hgroups.stand t ht₂)

theorem Related.standsIn_empty (t : Tables) : Related.StandsIn t {} := by
  constructor <;> exact fun _ _ hnone => nomatch hnone

theorem follows_hydrateMany {α : Type} [Hydratable α] {items : List α}
    (hroom : seen.length + 7 ≤ most) :
    (hydrateMany ctx items).Follows ctx most
      (fun seen' shown => ∃ r : Related, (∀ t, Beyond seen' t → r.StandsIn t) ∧
        shown = hydrateAll r items) seen := by
  unfold hydrateMany
  split
  next => exact ⟨{}, fun t _ => Related.standsIn_empty t, rfl⟩
  next => exact follows_bind _ (follows_resolve hroom) fun seen' r _ hr => ⟨r, hr, rfl⟩

/-- The rows are listed as they were when the client looked for the first time, and counted
as they were when it looked for the second; what they are shown with stands. -/
def ListedAs {ρ α : Type} (key : ρ → SortKey) (found : Tables → List ρ) (row : α → ρ)
    (stands : Tables → α → Prop) (listing : Listing) (seen : List Tables)
    (answer : List α × Nat) : Prop :=
  ∃ first second later, seen = first :: second :: later ∧ first.GrowsTo second ∧
    answer.1.map row = listing.apply key (found first) ∧ answer.2 = (found second).length ∧
    ∀ t, Beyond seen t → ∀ item ∈ answer.1, stands t item

theorem follows_listed {ρ α : Type} [Hydratable α] {key : ρ → SortKey}
    {found : Tables → List ρ} {row : α → ρ} {bare : ρ → α} {stands : Tables → α → Prop}
    {listing : Listing} {list : Program (List ρ)} {count : Program Nat}
    (hrow : ∀ r x, row (Hydratable.hydrate r (bare x)) = x)
    (hstands : ∀ {t r}, Related.StandsIn t r → ∀ x, stands t (Hydratable.hydrate r (bare x)))
    (hlist : list.Looks ctx fun t => listing.apply key (found t))
    (hcount : count.Looks ctx fun t => (found t).length) :
    (do
      let rows ← list
      let total ← count
      let items ← hydrateMany ctx (rows.map bare)
      return (items, total) : Program (List α × Nat)).Follows ctx 9
        (ListedAs key found row stands listing) [] := by
  refine follows_bind (fun seen rows => ∃ first, seen = [first] ∧
    rows = listing.apply key (found first)) (hlist _ _ _ (by decide) fun t _ => ⟨t, rfl, rfl⟩) ?_
  rintro _ _ _ ⟨first, rfl, rfl⟩
  refine follows_bind (fun seen total => ∃ second, seen = [first, second] ∧
    first.GrowsTo second ∧ total = (found second).length)
    (hcount _ _ _ (by simp) fun t ht => ⟨t, rfl, ht first List.mem_cons_self, rfl⟩) ?_
  rintro _ _ _ ⟨second, rfl, hgrows, rfl⟩
  refine follows_bind _ (follows_hydrateMany (by simp)) ?_
  rintro _ _ ⟨later, rfl⟩ ⟨r, hr, rfl⟩
  refine ⟨first, second, later, rfl, hgrows, ?_, rfl, fun t ht item hitem => ?_⟩
  · simp only [hydrateAll, List.map_map]
    exact (List.map_congr_left fun x _ => hrow r x).trans (List.map_id' _)
  · obtain ⟨_, hbare, rfl⟩ := List.mem_map.mp hitem
    obtain ⟨x, _, rfl⟩ := List.mem_map.mp hbare
    exact hstands (hr t ht) x

end Lists

/-! ## A client who lists -/

section Client

variable {ρ α : Type} {key : ρ → SortKey} {found : Tables → List ρ} {row : α → ρ}
  {stands : Tables → α → Prop} {listing : Listing} {log : List Passage}

/-- What a list is answered with among others: there are not more items than are counted, and
as many for a whole list if the same tables stood at all calls; and each of them is stored as
it is shown, in whatever comes later, even if the unit of work that is open then is dropped. -/
structure ListAnswer (found : Tables → List ρ) (row : α → ρ) (stands : Tables → α → Prop)
    (listing : Listing) (log : List Passage) (s : Store) (items : List α) (total : Nat) :
    Prop where
  within : items.length ≤ total
  whole : listing.page = none → (∀ m ∈ log, ∀ m' ∈ log, m.before = m'.before) →
    items.length = total
  stand : ∀ s', s.Later s' →
    s'.Holds fun t => ∀ item ∈ items, row item ∈ found t ∧ stands t item

/-- A client who lists, among others: it makes nine calls at most, waits only while somebody
else has a unit open, never fails, and is given an answer if it may finish. -/
structure Client.ListsAmong (found : Tables → List ρ) (row : α → ρ)
    (stands : Tables → α → Prop) (listing : Listing) (log : List Passage)
    (c : Client (List α × Nat)) : Prop where
  few : log.length ≤ 9
  waits : c.Waits → c.held = none ∧ c.store.opened.isSome
  succeeds : ∀ e, c.rest ≠ .fail e
  returns : c.store.opened = none → ∀ moments, ∃ answer,
    Course.run ⟨c.store, moments⟩ c.rest = .ended (.ok answer) c.store
  answer : ∀ items total, c.rest = .done (items, total) →
    ListAnswer found row stands listing log c.store items total

theorem Store.Holds.mono {P Q : Tables → Prop} {s : Store} (h : s.Holds P)
    (himp : ∀ t, P t → Q t) : s.Holds Q :=
  ⟨himp _ h.now, fun u hu => himp _ (h.before u hu)⟩

theorem Beyond.holds {seen : List Tables} {s s' : Store} (h : Beyond seen s.standing)
    (hcalled : Called s) (hlater : s.Later s') : s'.Holds (Beyond seen) := by
  have hstanding := h.grow (hcalled.stands hlater)
  refine ⟨hstanding.grow (hcalled.later hlater).ahead, fun u hu => ?_⟩
  simpa only [Store.standing, hu] using hstanding

theorem Client.Following.listAnswer {ctx : Ctx} {c : Client (List α × Nat)} {items : List α}
    {total : Nat} (hfound : ∀ t t', t.GrowsTo t' → found t <+: found t')
    (h : c.Following ctx 9 (ListedAs key found row stands listing) log)
    (hdone : c.rest = .done (items, total)) :
    ListAnswer found row stands listing log c.store items total := by
  obtain ⟨first, second, later, hseen, hgrows, hrows, htotal, hstands⟩ :
      ListedAs key found row stands listing (seen log) (items, total) := by
    have hrest := h.rest
    rw [hdone] at hrest
    exact hrest
  have hlength : items.length = (listing.apply key (found first)).length :=
    (List.length_map row).symm.trans (congrArg List.length hrows)
  refine ⟨?_, fun hpage hsame => ?_, fun s' hlater => ?_⟩
  · calc items.length = (listing.apply key (found first)).length := hlength
      _ ≤ (found first).length := listing.length_apply_le
      _ ≤ (found second).length := (hfound _ _ hgrows).length_le
      _ = total := htotal.symm
  · -- The first two calls of the log are the list and the count.
    have hmoment : ∀ t ∈ seen log, ∀ t' ∈ seen log, t = t' := by
      intro t ht t' ht'
      obtain ⟨m, hm, rfl⟩ := List.mem_map.mp ht
      obtain ⟨m', hm', rfl⟩ := List.mem_map.mp ht'
      exact hsame m hm m' hm'
    have hfirst : first = second := by
      apply hmoment <;> simp [hseen]
    rw [hlength, listing.length_apply hpage, hfirst]
    exact htotal.symm
  · apply (h.beyond.holds h.called hlater).mono
    intro t ht item hitem
    refine ⟨?_, hstands t ht item hitem⟩
    have hlisted : row item ∈ listing.apply key (found first) := by
      rw [← hrows]
      exact List.mem_map_of_mem hitem
    have hgrown : first.GrowsTo t := by
      apply ht
      simp [hseen]
    exact (hfound _ _ hgrown).subset (listing.mem_of_mem_apply hlisted)

theorem Client.listsAmong {ctx : Ctx} {p : Program (List α × Nat)} {s : Store}
    {c : Client (List α × Nat)} (hcalled : Called s) (hplain : ctx.handle = none)
    (htime : ctx.deadline = none) (hfound : ∀ t t', t.GrowsTo t' → found t <+: found t')
    (hp : p.Follows ctx 9 (ListedAs key found row stands listing) [])
    (hruns : Client.Runs ⟨s, p, none⟩ log c) :
    c.ListsAmong found row stands listing log := by
  have h := (following_start hcalled hp).runs hplain htime hruns
  refine ⟨h.few, ?_, fun e hfailed => ?_, fun hopened moments => ?_,
    fun items total hdone => h.listAnswer hfound hdone⟩
  · rintro ⟨tick, made, next, _, hwaiting⟩
    exact ⟨h.held, Store.opened_of_waiting hwaiting⟩
  · have hrest := h.rest
    rw [hfailed] at hrest
    exact hrest
  · exact h.rest.run hplain htime hopened h.beyond moments

end Client

theorem Tables.GrowsTo.profilesMatching {t t' : Tables} (h : t.GrowsTo t') (kind : ProfileKind)
    (query : ProfileQuery) : t.profilesMatching kind query <+: t'.profilesMatching kind query :=
  (h.profiles.filter _).filter _

theorem Tables.GrowsTo.guardiansMatching {t t' : Tables} (h : t.GrowsTo t')
    (query : GuardianQuery) : t.guardiansMatching query <+: t'.guardiansMatching query :=
  h.guardians.filter _

theorem follows_listProfiles (ctx : Ctx) (kind : ProfileKind) (query : ProfileQuery)
    (listing : Listing) :
    (listProfiles ctx kind query listing).Follows ctx 9
      (ListedAs ProfileRow.sortKey (·.profilesMatching kind query) Profile.toProfileRow
        Profile.StandsIn listing) [] := by
  apply follows_listed (fun r row => toProfileRow_hydrate r row.bare) Profile.standsIn_hydrate
  · exact looks_ask rfl fun _ _ => rfl
  · exact looks_ask rfl fun _ _ => rfl

theorem follows_listGuardians (ctx : Ctx) (query : GuardianQuery) (listing : Listing) :
    (listGuardians ctx query listing).Follows ctx 9
      (ListedAs GuardianRow.sortKey (·.guardiansMatching query) GuardianLink.toGuardianRow
        GuardianLink.StandsIn listing) [] := by
  apply follows_listed (fun _ _ => rfl) GuardianLink.standsIn_hydrate
  · exact looks_ask rfl fun _ _ => rfl
  · exact looks_ask rfl fun _ _ => rfl

/-- Profiles and guardian links are listed in a context without a unit of work and without a
deadline, while others use the store in whatever way.  The client is given an answer; and no
row that it is shown, nor any relation of it, is ever lost. -/
theorem listed_rows_stand {s : Store} (hcalled : Called s) {ctx : Ctx}
    (hplain : ctx.handle = none) (htime : ctx.deadline = none) (listing : Listing) :
    (∀ kind query log c, Client.Runs ⟨s, listProfiles ctx kind query listing, none⟩ log c →
      c.ListsAmong (·.profilesMatching kind query) Profile.toProfileRow Profile.StandsIn listing
        log) ∧
    (∀ query log c, Client.Runs ⟨s, listGuardians ctx query listing, none⟩ log c →
      c.ListsAmong (·.guardiansMatching query) GuardianLink.toGuardianRow
        GuardianLink.StandsIn listing log) := by
  constructor
  · intro kind query log c hruns
    exact Client.listsAmong hcalled hplain htime (fun _ _ h => h.profilesMatching kind query)
      (follows_listProfiles ctx kind query listing) hruns
  · intro query log c hruns
    exact Client.listsAmong hcalled hplain htime (fun _ _ h => h.guardiansMatching query)
      (follows_listGuardians ctx query listing) hruns

/-- Somebody lists the students of the first class. -/
def classList : Client (List Profile × Nat) :=
  ⟨firstClass, listProfiles .background .student {} {}, none⟩

def classListed : List Passage × Client (List Profile × Nat) :=
  classList.advances (ticksFrom 110 1)

/-- One more student is stored before the students are counted. -/
def classJoined : Client (List Profile × Nat) :=
  classListed.2.disturb ⟨.ofNat 120, default, default⟩
    (.createProfile (.ofNat 51) ⟨.student, .ofNat 40, .ofNat 20, none, none, none⟩)

def classShown : List Passage × Client (List Profile × Nat) :=
  classJoined.advances (ticksFrom 130 10)

theorem runs_classShown : classList.Runs (classListed.1 ++ classShown.1) classShown.2 := by
  have hlisted : classList.Runs classListed.1 classListed.2 :=
    Client.runs_advances .refl (ticksFrom 110 1)
  have hopened : classListed.2.store.opened = none := by decide +kernel
  have hjoined : classList.Runs classListed.1 classJoined :=
    Client.runs_disturb hlisted hopened _ _
  exact Client.runs_advances hjoined (ticksFrom 130 10)

theorem listed_rows_stand_classList :
    (Called firstClass ∧ Ctx.background.handle = none ∧ Ctx.background.deadline = none ∧
      classList.Runs (classListed.1 ++ classShown.1) classShown.2) ∧
      ∃ p, classShown.2.rest = .done ([p], 2) ∧
        p.toProfileRow ∈ classShown.2.store.tables.profiles ∧
        p.StandsIn classShown.2.store.tables := by
  have hcalled : Called firstClass := reachable_firstClass.reached.called
  refine ⟨⟨hcalled, rfl, rfl, runs_classShown⟩, ?_⟩
  obtain ⟨⟨items, total⟩, hdone⟩ :=
    Program.exists_done_of_value? classShown.2.rest (by decide +kernel)
  have hsizes : (classShown.2.rest.value?.map fun a => (a.1.length, a.2)) = some (1, 2) := by
    decide +kernel
  simp only [hdone, Program.value?, Option.map_some, Option.some.injEq, Prod.mk.injEq] at hsizes
  obtain ⟨hone, rfl⟩ := hsizes
  obtain ⟨p, rfl⟩ := List.length_eq_one_iff.mp hone
  have hlists := (listed_rows_stand hcalled rfl rfl {}).1 .student {} _ _ runs_classShown
  obtain ⟨hrow, hstands⟩ :=
    ((hlists.answer [p] 2 hdone).stand _ .refl).now p List.mem_cons_self
  exact ⟨p, hdone, (Tables.mem_profilesMatching.mp hrow).1, hstands⟩

end Registrar
