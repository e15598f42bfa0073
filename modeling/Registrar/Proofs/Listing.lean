import Mathlib.Data.List.Nodup
import Registrar.Proofs.Calls
import Registrar.Proofs.Hydration
import Registrar.Proofs.RoleGrounding

/-!
# Lists, pages and counts

The rows of a table come in no particular order.  A list is sorted by a key that no two rows
share, so it is the same list however the rows come; its pages, put together, are the list,
and there are as many rows as are counted (`lists_agree`).
-/

namespace Registrar

open Program Service

/-! ## The order of lists -/

namespace SortKey

instance : LT SortKey where
  lt a b := a.createdAt < b.createdAt ∨ a.createdAt = b.createdAt ∧ a.id < b.id

variable {a b c : SortKey}

theorem lt_iff : a < b ↔ a.createdAt.nanos < b.createdAt.nanos ∨
    a.createdAt.nanos = b.createdAt.nanos ∧ a.id.toNat < b.id.toNat := by
  have htime : a.createdAt = b.createdAt ↔ a.createdAt.nanos = b.createdAt.nanos :=
    ⟨congrArg _, fun h => congrArg Timestamp.mk h⟩
  rw [← htime]
  rfl

theorem le_iff : a.le b = true ↔ a.createdAt.nanos < b.createdAt.nanos ∨
    a.createdAt.nanos = b.createdAt.nanos ∧ a.id.toNat ≤ b.id.toNat := by
  have htime : a.createdAt = b.createdAt ↔ a.createdAt.nanos = b.createdAt.nanos :=
    ⟨congrArg _, fun h => congrArg Timestamp.mk h⟩
  rw [← htime]
  simp [le, LT.lt]

theorem le_trans (hab : a.le b) (hbc : b.le c) : a.le c := by
  rw [le_iff] at hab hbc ⊢
  omega

theorem le_total (a b : SortKey) : a.le b || b.le a := by
  rw [Bool.or_eq_true, le_iff, le_iff]
  omega

theorem lt_of_le (hle : a.le b) (hid : a.id ≠ b.id) : a < b := by
  rw [le_iff] at hle
  rw [lt_iff]
  have hnumber : a.id.toNat ≠ b.id.toNat := fun h => hid (Uuid.toNat_inj.mp h)
  omega

theorem lt_irrefl (a : SortKey) : ¬ a < a := by
  rw [lt_iff]
  omega

theorem lt_asymm (hab : a < b) : ¬ b < a := by
  rw [lt_iff] at hab ⊢
  omega

end SortKey

section Upwards

variable {α : Type} {key : α → SortKey} {wanted : α → Prop} {rows found : List α}

/-- All the rows that are wanted, each once, upwards in the order of lists. -/
structure Upwards (key : α → SortKey) (wanted : α → Prop) (rows : List α) : Prop where
  mem_iff : ∀ row, row ∈ rows ↔ wanted row
  increasing : rows.Pairwise fun a b => key a < key b

theorem Upwards.nodup (h : Upwards key wanted rows) : rows.Nodup := by
  refine List.Pairwise.imp ?_ h.increasing
  rintro a _ hlt rfl
  exact SortKey.lt_irrefl (key a) hlt

/-- There is one such list at most. -/
theorem Upwards.unique {other : List α} (h : Upwards key wanted rows)
    (hother : Upwards key wanted other) : rows = other := by
  have hperm : rows.Perm other :=
    (List.perm_ext_iff_of_nodup h.nodup hother.nodup).mpr fun row =>
      (h.mem_iff row).trans (hother.mem_iff row).symm
  exact hperm.eq_of_pairwise (fun a b _ _ hab hba => absurd hba (SortKey.lt_asymm hab))
    h.increasing hother.increasing

theorem upwards_mergeSort (hwanted : ∀ row, row ∈ found ↔ wanted row)
    (hids : (found.map fun row => (key row).id).Nodup) :
    Upwards key wanted (found.mergeSort fun a b => (key a).le (key b)) := by
  let le := fun a b => (key a).le (key b)
  have hperm := List.mergeSort_perm found le
  have htrans : ∀ a b c, le a b → le b c → le a c := fun _ _ _ => SortKey.le_trans
  have htotal : ∀ a b, le a b || le b a := fun _ _ => SortKey.le_total _ _
  have hsorted : (found.mergeSort le).Pairwise fun a b => le a b :=
    List.pairwise_mergeSort htrans htotal found
  -- Neighbours may have equal times, but never equal identifiers.
  have hdistinct := List.pairwise_map.mp ((hperm.map _).nodup_iff.mpr hids)
  refine ⟨fun row => hperm.mem_iff.trans (hwanted row), ?_⟩
  exact (hsorted.and hdistinct).imp fun ⟨hle, hid⟩ => SortKey.lt_of_le hle hid

end Upwards

section Window

variable {α : Type} {key : α → SortKey} {rows : List α} (listing : Listing)

theorem Listing.perm_arrange : (listing.arrange key rows).Perm rows := by
  have hsorted := List.mergeSort_perm rows fun a b => (key a).le (key b)
  unfold Listing.arrange
  cases listing.order with
  | ascending => exact hsorted
  | descending => exact (List.reverse_perm _).trans hsorted

theorem Listing.sublist_apply : (listing.apply key rows).Sublist (listing.arrange key rows) := by
  unfold Listing.apply
  cases listing.page with
  | none => exact List.Sublist.refl _
  | some page => exact (List.take_sublist _ _).trans (List.drop_sublist _ _)

theorem Listing.length_apply_le : (listing.apply key rows).length ≤ rows.length :=
  Nat.le_trans listing.sublist_apply.length_le (Nat.le_of_eq listing.perm_arrange.length_eq)

theorem Listing.mem_of_mem_apply {row : α} (h : row ∈ listing.apply key rows) : row ∈ rows :=
  listing.perm_arrange.mem_iff.mp (listing.sublist_apply.subset h)

theorem Listing.length_apply (hpage : listing.page = none) :
    (listing.apply key rows).length = rows.length := by
  unfold Listing.apply
  rw [hpage]
  exact listing.perm_arrange.length_eq

end Window

/-! ## Pages of a list -/

def maxPageNumber : Nat := 4294967295

def maxOffset : Nat := 9223372036854775807

/-- How many pages are needed for so many rows. -/
def pageCount (count perPage : Nat) : Nat :=
  (count + perPage - 1) / perPage

section Pages

variable {α : Type} {rows : List α} {perPage : Nat}

theorem length_le_pageCount (hperPage : 1 ≤ perPage) (count : Nat) :
    count ≤ pageCount count perPage * perPage := by
  have hdivided := Nat.div_add_mod (count + perPage - 1) perPage
  have hrest := Nat.mod_lt (count + perPage - 1) hperPage
  rw [Nat.mul_comm] at hdivided
  unfold pageCount
  omega

/-- The rows of a page; the first page has the number one. -/
def pageOf (rows : List α) (perPage n : Nat) : List α :=
  (rows.drop ((n - 1) * perPage)).take perPage

theorem flatMap_pageOf (rows : List α) (perPage count : Nat) :
    (List.range' 1 count).flatMap (pageOf rows perPage) = rows.take (count * perPage) := by
  induction count with
  | zero => simp
  | succ count ih =>
    rw [List.range'_1_concat, List.flatMap_append, ih, Nat.succ_mul, List.take_add]
    simp [pageOf]

theorem flatMap_pages (hperPage : 1 ≤ perPage) (rows : List α) :
    (List.range' 1 (pageCount rows.length perPage)).flatMap (pageOf rows perPage) = rows := by
  rw [flatMap_pageOf]
  exact List.take_of_length_le (length_le_pageCount hperPage rows.length)

theorem pageOf_beyond (hperPage : 1 ≤ perPage) {n : Nat}
    (hn : pageCount rows.length perPage < n) : pageOf rows perPage n = [] := by
  have hlast : pageCount rows.length perPage * perPage ≤ (n - 1) * perPage :=
    Nat.mul_le_mul_right perPage (by omega)
  have hdrop : rows.drop ((n - 1) * perPage) = [] :=
    List.drop_of_length_le (Nat.le_trans (length_le_pageCount hperPage _) hlast)
  rw [pageOf, hdrop, List.take_nil]

/-- The window of a page can be made, and for all page numbers of 32 bits its end is a number
of 63 bits. -/
theorem Page.make_window {n : Nat} (hn : 1 ≤ n) (hperPage : 1 ≤ perPage)
    (hmost : perPage ≤ maxPerPage) :
    Page.make n perPage = .ok ⟨perPage, (n - 1) * perPage⟩ ∧
      (n ≤ maxPageNumber → (n - 1) * perPage + perPage ≤ maxOffset) := by
  refine ⟨?_, fun hlast => ?_⟩
  · unfold Page.make
    rw [if_neg (by omega), if_neg (by omega)]
  · have hend : (n - 1) * perPage + perPage ≤ maxPageNumber * maxPerPage := by
      rw [← Nat.succ_mul]
      exact Nat.mul_le_mul (by omega) hmost
    exact Nat.le_trans hend (by decide)

end Pages

/-! ## What is answered to lists -/

def SortOrder.turn {α : Type} : SortOrder → List α → List α
  | .ascending, rows => rows
  | .descending, rows => rows.reverse

@[simp] theorem SortOrder.length_turn {α : Type} (order : SortOrder) (rows : List α) :
    (order.turn rows).length = rows.length := by
  cases order
  · rfl
  · exact List.length_reverse

/-- The list `all` is read in so many pages, one after another. -/
structure Pages {α : Type} (list : Listing → Result (List α)) (order : SortOrder)
    (perPage count : Nat) (all : List α) (page : Nat → List α) : Prop where
  read : ∀ n, 1 ≤ n → ∃ window, Page.make n perPage = .ok window ∧
    (n ≤ maxPageNumber → window.offset + window.limit ≤ maxOffset) ∧
    list { order, page := some window } = .ok (page n)
  whole : (List.range' 1 count).flatMap page = all
  beyond : ∀ n, count < n → page n = []

/-- Lists and the count of the same condition are answered from `rows`. -/
structure Lists {α : Type} (list : Listing → Result (List α)) (count : Result Nat)
    (rows : List α) : Prop where
  whole : ∀ order, list { order } = .ok (order.turn rows)
  count : count = .ok rows.length
  pages : ∀ order perPage, 1 ≤ perPage → perPage ≤ maxPerPage →
    ∃ page, Pages list order perPage (pageCount rows.length perPage) (order.turn rows) page

section Lists

variable {α : Type} {key : α → SortKey} {wanted : α → Prop} {rows found : List α}

theorem Upwards.arrange (hrows : Upwards key wanted rows)
    (hwanted : ∀ row, row ∈ found ↔ wanted row)
    (hids : (found.map fun row => (key row).id).Nodup) (listing : Listing) :
    listing.arrange key found = listing.order.turn rows := by
  unfold Listing.arrange
  rw [(upwards_mergeSort hwanted hids).unique hrows]
  cases listing.order <;> rfl

theorem Upwards.lists {list : Listing → Result (List α)} {count : Result Nat}
    (hrows : Upwards key wanted rows) (hwanted : ∀ row, row ∈ found ↔ wanted row)
    (hids : (found.map fun row => (key row).id).Nodup)
    (hlist : ∀ listing, list listing = .ok (listing.apply key found))
    (hcount : count = .ok found.length) : Lists list count rows := by
  have harrange := hrows.arrange hwanted hids
  refine ⟨fun order => ?_, ?_, fun order perPage hperPage hmost =>
    ⟨pageOf (order.turn rows) perPage, fun n hn => ?_, ?_, fun n hn => ?_⟩⟩
  · rw [hlist]
    exact congrArg Except.ok (harrange _)
  · -- Sorting loses no row, so what was found is as long as the list.
    have hlength := congrArg List.length (harrange {})
    rw [hcount, ← SortOrder.length_turn .ascending rows, ← hlength]
    exact congrArg Except.ok (List.length_mergeSort found).symm
  · obtain ⟨hmake, hfits⟩ := Page.make_window hn hperPage hmost
    refine ⟨_, hmake, hfits, ?_⟩
    rw [hlist, pageOf, ← harrange ⟨order, none⟩]
    rfl
  · rw [← order.length_turn rows]
    exact flatMap_pages hperPage _
  · rw [← order.length_turn rows] at hn
    exact pageOf_beyond hperPage hn

end Lists

/-! ## Tables in any order -/

/-- The same rows in every table, in whatever order they come. -/
structure Tables.Shuffled (t t' : Tables) : Prop where
  organizations : t.organizations.Perm t'.organizations
  schools : t.schools.Perm t'.schools
  grades : t.grades.Perm t'.grades
  groups : t.groups.Perm t'.groups
  users : t.users.Perm t'.users
  grants : t.grants.Perm t'.grants
  profiles : t.profiles.Perm t'.profiles
  guardians : t.guardians.Perm t'.guardians

theorem Tables.Shuffled.refl (t : Tables) : t.Shuffled t := by
  constructor <;> exact List.Perm.refl _

namespace Tables

variable {t t' : Tables}

/-- Rows that are picked from a shuffled table have identifiers of their own. -/
private theorem nodup_picked {α : Type} {id : α → Uuid} {table shuffled picked : List α}
    (hids : (table.map id).Nodup) (hperm : table.Perm shuffled)
    (hpicked : picked.Sublist shuffled) : (picked.map id).Nodup :=
  ((hperm.map id).nodup_iff.mp hids).sublist (hpicked.map id)

theorem Distinct.profilesMatching (h : t.Distinct) (hshuffled : t.Shuffled t')
    (kind : ProfileKind) (query : ProfileQuery) :
    ((t'.profilesMatching kind query).map (·.id)).Nodup := by
  simp only [Distinct, ids, List.nodup_append] at h
  obtain ⟨⟨_, hprofiles, _⟩, _⟩ := h
  exact nodup_picked hprofiles hshuffled.profiles
    (List.filter_sublist.trans List.filter_sublist)

theorem Distinct.guardiansMatching (h : t.Distinct) (hshuffled : t.Shuffled t')
    (query : GuardianQuery) : ((t'.guardiansMatching query).map (·.id)).Nodup := by
  simp only [Distinct, ids, List.nodup_append] at h
  obtain ⟨_, hguardians, _⟩ := h
  exact nodup_picked hguardians hshuffled.guardians List.filter_sublist

theorem Distinct.grantsOfUser (h : t.Distinct) (hshuffled : t.Shuffled t') (userId : Uuid) :
    ((t'.grants.filter (·.userId == userId)).map (·.id)).Nodup := by
  simp only [Distinct, ids, List.nodup_append] at h
  obtain ⟨⟨⟨_, hgrants, _⟩, _⟩, _⟩ := h
  exact nodup_picked hgrants hshuffled.grants List.filter_sublist

theorem mem_profilesMatching {kind : ProfileKind} {query : ProfileQuery} {row : ProfileRow} :
    row ∈ t.profilesMatching kind query ↔
      row ∈ t.profiles ∧ row.kind = kind ∧ query.accepts row := by
  simp only [profilesMatching, profilesOf, List.mem_filter, beq_iff_eq, and_assoc]

end Tables

def RoleGrantRow.sortKey (row : RoleGrantRow) : SortKey :=
  ⟨row.createdAt, row.id⟩

/-! ## The services that list -/

section Services

variable {ctx : Ctx} {t : Tables} {ρ α : Type} [Hydratable α] {bare : ρ → α} {join : α → α}
  {rows : List ρ} {total : Nat} {list : Program (List ρ)} {count : Program Nat}

theorem reads_shown
    (hjoin : ∀ {r : Related} {item : α}, r.Shows t (Hydratable.keys item) →
      Hydratable.hydrate r item = join item) :
    (hydrateMany ctx (rows.map bare)).Reads ctx (· = t)
      (· = rows.map fun row => join (bare row)) := by
  have hmap : (rows.map fun row => join (bare row)) = (rows.map bare).map join :=
    List.map_map.symm
  rw [hmap]
  apply reads_hydrateMany hjoin
  rintro _ rfl
  constructor <;> exact fun _ _ => rfl

theorem reads_listed
    (hjoin : ∀ {r : Related} {item : α}, r.Shows t (Hydratable.keys item) →
      Hydratable.hydrate r item = join item)
    (hlist : list.Reads ctx (· = t) (· = rows)) (hcount : count.Reads ctx (· = t) (· = total)) :
    (do
      let rows ← list
      let total ← count
      let items ← hydrateMany ctx (rows.map bare)
      return (items, total) : Program (List α × Nat)).Reads ctx (· = t)
        (· = (rows.map fun row => join (bare row), total)) := by
  refine reads_bind _ hlist ?_
  rintro _ rfl
  refine reads_bind _ hcount ?_
  rintro _ rfl
  refine reads_bind _ (reads_shown hjoin) ?_
  rintro _ rfl
  rfl

end Services

namespace Course

/-- Lists and counts are answered from `rows`, and the service of the list shows the rows of
each answer with their relations and with the count. -/
structure Serves {ρ α : Type} (c : Course) (stored : Listing → Result (List ρ))
    (counted : Result Nat) (service : Ctx → Listing → Program (List α × Nat)) (shown : ρ → α)
    (rows : List ρ) : Prop extends Lists stored counted rows where
  served : ∀ ctx listing, ∃ page, stored listing = .ok page ∧
    c.ComesTo ctx (service ctx listing) (page.map shown, rows.length)

theorem serves_of_reads {ρ α : Type} {c : Course} {key : ρ → SortKey} {wanted : ρ → Prop}
    {found rows : List ρ} {stored : Listing → Result (List ρ)} {counted : Result Nat}
    {service : Ctx → Listing → Program (List α × Nat)} {shown : ρ → α}
    (hrows : Upwards key wanted rows) (hwanted : ∀ row, row ∈ found ↔ wanted row)
    (hids : (found.map fun row => (key row).id).Nodup)
    (hstored : ∀ listing, stored listing = .ok (listing.apply key found))
    (hcounted : counted = .ok found.length)
    (hservice : ∀ ctx listing, (service ctx listing).Reads ctx (· = c.store.tables)
      (· = ((listing.apply key found).map shown, found.length))) :
    c.Serves stored counted service shown rows := by
  have hlists := hrows.lists hwanted hids hstored hcounted
  have hlength : found.length = rows.length :=
    Except.ok.inj (hcounted.symm.trans hlists.count)
  refine ⟨hlists, fun ctx listing => ⟨_, hstored listing, ?_⟩⟩
  rw [← hlength]
  exact (hservice ctx listing).comesTo

variable (c : Course)

def ListsProfiles (kind : ProfileKind) (query : ProfileQuery) (rows : List ProfileRow) : Prop :=
  ∀ stamp, c.Serves
    (fun listing =>
      (c.store.tables.serve Memory.policy stamp (.listProfiles kind query listing)).1)
    (c.store.tables.serve Memory.policy stamp (.countProfiles kind query)).1
    (fun ctx listing => listProfiles ctx kind query listing)
    (fun row => c.store.tables.joinProfile row.bare) rows

def ListsGuardians (query : GuardianQuery) (rows : List GuardianRow) : Prop :=
  ∀ stamp, c.Serves
    (fun listing => (c.store.tables.serve Memory.policy stamp (.listGuardians query listing)).1)
    (c.store.tables.serve Memory.policy stamp (.countGuardians query)).1
    (fun ctx listing => listGuardians ctx query listing)
    (fun row => c.store.tables.joinLink row.bare) rows

variable {c}

theorem comesTo_countProfiles {ctx : Ctx} {kind : ProfileKind} {query : ProfileQuery}
    {rows : List ProfileRow} (hlists : c.ListsProfiles kind query rows) :
    c.ComesTo ctx (countProfiles ctx kind query) rows.length := by
  have hcount : (c.store.tables.profilesMatching kind query).length = rows.length :=
    Except.ok.inj (hlists default).count
  rw [← hcount]
  exact (reads_ask rfl fun t ht _ => ⟨_, rfl, ht ▸ rfl⟩).comesTo

variable {s : Store} (hdistinct : s.tables.Distinct)
  (hshuffled : s.tables.Shuffled c.store.tables)
include hdistinct hshuffled

theorem listsProfiles {kind : ProfileKind} {query : ProfileQuery} {rows : List ProfileRow}
    (hrows : Upwards ProfileRow.sortKey
      (fun row => row ∈ s.tables.profiles ∧ row.kind = kind ∧ query.accepts row) rows) :
    c.ListsProfiles kind query rows := by
  intro stamp
  refine serves_of_reads hrows (fun row => ?_) (hdistinct.profilesMatching hshuffled kind query)
    (fun _ => rfl) rfl fun ctx listing => reads_listed hydrate_profile ?_ ?_
  · rw [Tables.mem_profilesMatching, hshuffled.profiles.mem_iff]
  · exact reads_ask rfl fun t ht _ => ⟨_, rfl, ht ▸ rfl⟩
  · exact reads_ask rfl fun t ht _ => ⟨_, rfl, ht ▸ rfl⟩

theorem listsGuardians {query : GuardianQuery} {rows : List GuardianRow}
    (hrows : Upwards GuardianRow.sortKey
      (fun row => row ∈ s.tables.guardians ∧ query.accepts row) rows) :
    c.ListsGuardians query rows := by
  intro stamp
  refine serves_of_reads hrows (fun row => ?_) (hdistinct.guardiansMatching hshuffled query)
    (fun _ => rfl) rfl fun ctx listing => reads_listed hydrate_link ?_ ?_
  · rw [Tables.guardiansMatching, List.mem_filter, hshuffled.guardians.mem_iff]
  · exact reads_ask rfl fun t ht _ => ⟨_, rfl, ht ▸ rfl⟩
  · exact reads_ask rfl fun t ht _ => ⟨_, rfl, ht ▸ rfl⟩

theorem comesTo_rolesOfUser {ctx : Ctx} {userId : Uuid} {rows : List RoleGrantRow}
    (hrows : Upwards RoleGrantRow.sortKey
      (fun row => row ∈ s.tables.grants ∧ row.userId = userId) rows) :
    c.ComesTo ctx (rolesOfUser ctx userId)
      (rows.map fun row => c.store.tables.joinGrant row.bare) := by
  have hgrants : ∀ t, t = c.store.tables → t.grantsInOrder userId = rows := by
    rintro t rfl
    refine hrows.arrange (fun row => ?_) (hdistinct.grantsOfUser hshuffled userId) {}
    rw [List.mem_filter, hshuffled.grants.mem_iff, beq_iff_eq]
  apply Reads.comesTo
  refine reads_bind (· = rows) (reads_ask rfl fun t ht _ => ⟨_, rfl, hgrants t ht⟩) ?_
  rintro _ rfl
  exact reads_shown hydrate_grant

end Course

/-- For every condition there is one list of the rows that match it, each once and strictly
upwards.  In whatever order the tables yield their rows, lists upwards are answered with this
list, lists downwards with its reverse, counts with its length, and the pages of any size that
is admitted, put together, are the list, while all later pages are empty.  The services show
these rows with their relations, and the roles of a user in the same way. -/
theorem lists_agree {s : Store} (hcalled : CalledAnew s) :
    (∀ kind query, ∃ rows,
      Upwards ProfileRow.sortKey
        (fun row => row ∈ s.tables.profiles ∧ row.kind = kind ∧ query.accepts row) rows ∧
      ∀ c : Course, s.tables.Shuffled c.store.tables → c.ListsProfiles kind query rows ∧
        ∀ ctx, c.ComesTo ctx (countProfiles ctx kind query) rows.length) ∧
    (∀ query, ∃ rows,
      Upwards GuardianRow.sortKey
        (fun row => row ∈ s.tables.guardians ∧ query.accepts row) rows ∧
      ∀ c : Course, s.tables.Shuffled c.store.tables → c.ListsGuardians query rows) ∧
    (∀ userId, ∃ rows,
      Upwards RoleGrantRow.sortKey
        (fun row => row ∈ s.tables.grants ∧ row.userId = userId) rows ∧
      ∀ c : Course, s.tables.Shuffled c.store.tables → ∀ ctx,
        c.ComesTo ctx (rolesOfUser ctx userId)
          (rows.map fun row => c.store.tables.joinGrant row.bare)) := by
  have hdistinct := hcalled.distinct.now
  have hsame := Tables.Shuffled.refl s.tables
  refine ⟨fun kind query => ?_, fun query => ?_, fun userId => ?_⟩
  · have hrows : Upwards ProfileRow.sortKey
        (fun row => row ∈ s.tables.profiles ∧ row.kind = kind ∧ query.accepts row) _ :=
      upwards_mergeSort (fun row => Tables.mem_profilesMatching)
        (hdistinct.profilesMatching hsame kind query)
    refine ⟨_, hrows, fun c hshuffled => ?_⟩
    have hlists := Course.listsProfiles hdistinct hshuffled hrows
    exact ⟨hlists, fun ctx => Course.comesTo_countProfiles hlists⟩
  · have hrows : Upwards GuardianRow.sortKey
        (fun row => row ∈ s.tables.guardians ∧ query.accepts row) _ :=
      upwards_mergeSort (fun row => List.mem_filter)
        (hdistinct.guardiansMatching hsame query)
    exact ⟨_, hrows, fun c hshuffled => Course.listsGuardians hdistinct hshuffled hrows⟩
  · have hrows : Upwards RoleGrantRow.sortKey
        (fun row => row ∈ s.tables.grants ∧ row.userId = userId) _ :=
      upwards_mergeSort (fun row => by simp) (hdistinct.grantsOfUser hsame userId)
    exact ⟨_, hrows, fun c hshuffled ctx =>
      Course.comesTo_rolesOfUser hdistinct hshuffled hrows⟩

/-- The two users of the first school are its students, from the same moment on. -/
def classmates : Store :=
  firstUsers
    |>.afterService 50 (.addProfile ⟨.student, .ofNat 30, .ofNat 20, none, none, none⟩)
    |>.afterService 60 (.addProfile ⟨.student, .ofNat 40, .ofNat 20, none, none, none⟩)

/-- The tables of the classmates, yielded the other way round. -/
def classmatesReversed : Course :=
  ⟨{ tables := { classmates.tables with profiles := classmates.tables.profiles.reverse } },
    default⟩

theorem lists_agree_classmates :
    CalledAnew classmates ∧ ∃ rows, rows.length = 2 ∧
      Upwards ProfileRow.sortKey
        (fun row => row ∈ classmates.tables.profiles ∧ row.kind = .student ∧
          ProfileQuery.accepts {} row) rows ∧
      classmatesReversed.ListsProfiles .student {} rows := by
  have hcalled : CalledAnew classmates := by
    refine Reachable.calledAnew ?_
    unfold classmates
    refine (reachable_firstUsers.afterService ?_).afterService ?_
    all_goals decide
  have hshuffled : classmates.tables.Shuffled classmatesReversed.store.tables :=
    { Tables.Shuffled.refl _ with profiles := (List.reverse_perm _).symm }
  obtain ⟨rows, hrows, hlists⟩ := (lists_agree hcalled).1 .student {}
  have hreversed := (hlists classmatesReversed hshuffled).1
  refine ⟨hcalled, rows, ?_, hrows, hreversed⟩
  exact (Except.ok.inj (hreversed default).count).symm.trans (by decide +kernel)

end Registrar
