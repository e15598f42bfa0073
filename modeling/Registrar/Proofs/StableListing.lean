import Registrar.Proofs.Listing

/-!
# Listing arbitrary rows

No two stored rows have the same key, but a listing may be applied to any rows, also to some with
equal keys.  Upwards it gives the one stable order of the rows, downwards the reverse of that,
and the pages of every admitted size are the windows of the list one after another
(`listing_stable`).
-/

namespace Registrar

theorem SortKey.le_refl (a : SortKey) : a.le a :=
  le_iff.mpr (.inr ⟨rfl, Nat.le_refl _⟩)

theorem SortKey.le_antisymm {a b : SortKey} (hab : a.le b) (hba : b.le a) : a = b := by
  rw [le_iff] at hab hba
  have hnanos : a.createdAt.nanos = b.createdAt.nanos := by omega
  have htime : a.createdAt = b.createdAt := congrArg Timestamp.mk hnanos
  have hid : a.id = b.id := Uuid.toNat_inj.mp (by omega)
  cases a
  cases b
  simp_all

section Stable

variable {α : Type} {key : α → SortKey} {rows sorted other : List α}

/-- The rows in the order of their keys, rows with equal keys in the order in which they came. -/
structure StablyOrdered (key : α → SortKey) (rows sorted : List α) : Prop where
  perm : sorted.Perm rows
  ordered : sorted.Pairwise fun a b => (key a).le (key b)
  stable : ∀ k, (sorted.filter fun row => key row = k) = rows.filter fun row => key row = k

/-- A row is in every list that has the same rows with its key. -/
theorem mem_of_same_filter {row : α}
    (hsame : ∀ k, (sorted.filter fun row => key row = k) = other.filter fun row => key row = k)
    (hrow : row ∈ sorted) : row ∈ other := by
  have hfiltered : row ∈ sorted.filter fun other => key other = key row :=
    List.mem_filter.mpr ⟨hrow, by simp⟩
  rw [hsame] at hfiltered
  exact (List.mem_filter.mp hfiltered).1

/-- What is in order is known from its rows with each key. -/
theorem eq_of_same_filter (hsorted : sorted.Pairwise fun a b => (key a).le (key b))
    (hother : other.Pairwise fun a b => (key a).le (key b))
    (hsame : ∀ k, (sorted.filter fun row => key row = k) = other.filter fun row => key row = k) :
    sorted = other := by
  induction sorted generalizing other with
  | nil =>
    cases other with
    | nil => rfl
    | cons b other => exact nomatch mem_of_same_filter (fun k => (hsame k).symm) List.mem_cons_self
  | cons a sorted ih =>
    cases other with
    | nil => exact nomatch mem_of_same_filter hsame List.mem_cons_self
    | cons b other =>
      obtain ⟨hleast, hsorted⟩ := List.pairwise_cons.mp hsorted
      obtain ⟨hleast', hrest⟩ := List.pairwise_cons.mp hother
      -- The two first rows have the least key, so they are the first rows with it.
      have hkey : key a = key b := by
        have ha := mem_of_same_filter hsame List.mem_cons_self
        have hb := mem_of_same_filter (fun k => (hsame k).symm) List.mem_cons_self
        rcases List.mem_cons.mp ha with rfl | ha
        · rfl
        rcases List.mem_cons.mp hb with rfl | hb
        · rfl
        exact SortKey.le_antisymm (hleast b hb) (hleast' a ha)
      obtain ⟨rfl, -⟩ : a = b ∧ _ := by simpa [hkey] using hsame (key a)
      refine congrArg (a :: ·) (ih hsorted hrest fun k => ?_)
      have hk := hsame k
      by_cases hak : key a = k
      · simpa [hak] using hk
      · simpa [hak] using hk

theorem stablyOrdered_mergeSort :
    StablyOrdered key rows (rows.mergeSort fun a b => (key a).le (key b)) := by
  let le := fun a b => (key a).le (key b)
  have hperm := List.mergeSort_perm rows le
  have htrans : ∀ a b c, le a b → le b c → le a c := fun _ _ _ => SortKey.le_trans
  have htotal : ∀ a b, le a b || le b a := fun _ _ => SortKey.le_total _ _
  refine ⟨hperm, List.pairwise_mergeSort htrans htotal rows, fun k => ?_⟩
  -- Rows with equal keys are in order already, and what is in order stays a part of the list.
  have hequal : (rows.filter fun row => key row = k).Pairwise fun a b => le a b := by
    refine List.pairwise_of_forall_mem_list fun a ha b hb => ?_
    have hkey : key a = key b :=
      (of_decide_eq_true (List.mem_filter.mp ha).2).trans
        (of_decide_eq_true (List.mem_filter.mp hb).2).symm
    change (key a).le (key b)
    rw [hkey]
    exact SortKey.le_refl (key b)
  have hpart : (rows.filter fun row => key row = k).Sublist (rows.mergeSort le) :=
    List.sublist_mergeSort htrans htotal hequal List.filter_sublist
  have hfiltered := hpart.filter fun row => key row = k
  rw [List.filter_filter] at hfiltered
  simp only [Bool.and_self] at hfiltered
  exact (hfiltered.eq_of_length (hperm.symm.filter _).length_eq).symm

theorem stablyOrdered_iff :
    StablyOrdered key rows sorted ↔ Listing.apply {} key rows = sorted := by
  have hsort : StablyOrdered key rows (Listing.apply {} key rows) := stablyOrdered_mergeSort
  constructor
  · intro h
    refine eq_of_same_filter hsort.ordered h.ordered fun k => ?_
    exact (hsort.stable k).trans (h.stable k).symm
  · rintro rfl
    exact hsort

theorem length_pageOf (rows : List α) (perPage n : Nat) :
    (pageOf rows perPage n).length = min perPage (rows.length - (n - 1) * perPage) := by
  rw [pageOf, List.length_take, List.length_drop]

/-- Whatever the keys of the rows are, they are listed upwards in the one stable order, and
downwards in the reverse of it.  The pages of any size that is admitted start where the pages
before them end, have as many rows as are left up to that size, and put together are the list. -/
theorem listing_stable (key : α → SortKey) (rows : List α) :
    (∀ sorted, StablyOrdered key rows sorted ↔ Listing.apply {} key rows = sorted) ∧
    Listing.apply { order := .descending } key rows = (Listing.apply {} key rows).reverse ∧
    ∀ order perPage, 1 ≤ perPage → perPage ≤ maxPerPage → ∃ page : Nat → List α,
      (∀ n, 1 ≤ n → ∃ window, Page.make n perPage = .ok window ∧
        window.offset = (n - 1) * perPage ∧ (n ≤ maxPageNumber → window.offset ≤ maxOffset) ∧
        Listing.apply { order, page := some window } key rows = page n ∧
        (page n).length = min perPage (rows.length - (n - 1) * perPage)) ∧
      ∀ count, rows.length ≤ count * perPage →
        (List.range' 1 count).flatMap page = Listing.apply { order } key rows := by
  refine ⟨fun sorted => stablyOrdered_iff, rfl, fun order perPage hperPage hmost => ?_⟩
  have hlength : (Listing.apply { order } key rows).length = rows.length :=
    Listing.length_apply _ rfl
  refine ⟨pageOf (Listing.apply { order } key rows) perPage, fun n hn => ?_, fun count hcount => ?_⟩
  · obtain ⟨hmake, hfits⟩ := Page.make_window hn hperPage hmost
    refine ⟨_, hmake, rfl, fun hlast => ?_, rfl, ?_⟩
    · exact Nat.le_trans (Nat.le_add_right _ perPage) (hfits hlast)
    · rw [length_pageOf, hlength]
  · rw [flatMap_pageOf]
    exact List.take_of_length_le (hlength ▸ hcount)

end Stable

/-! Of four rows two share the earlier key and two the later one. -/

def earlierKey : SortKey :=
  ⟨⟨3⟩, .ofNat 1⟩

def laterKey : SortKey :=
  ⟨⟨5⟩, .ofNat 1⟩

def tiedRows : List (SortKey × Nat) :=
  [(laterKey, 0), (earlierKey, 1), (laterKey, 2), (earlierKey, 3)]

def tiedRowsUpwards : List (SortKey × Nat) :=
  [(earlierKey, 1), (earlierKey, 3), (laterKey, 0), (laterKey, 2)]

theorem stablyOrdered_tiedRows : StablyOrdered Prod.fst tiedRows tiedRowsUpwards where
  perm := by decide
  ordered := by decide
  stable k := by
    have hdistinct : laterKey ≠ earlierKey := by decide
    by_cases hearlier : earlierKey = k
    · have hlater : laterKey ≠ k := hearlier ▸ hdistinct
      simp [tiedRows, tiedRowsUpwards, hearlier, hlater]
    · simp [tiedRows, tiedRowsUpwards, hearlier, List.filter_cons]

theorem listing_stable_tiedRows :
    1 ≤ 3 ∧ 3 ≤ maxPerPage ∧
    Listing.apply {} Prod.fst tiedRows = tiedRowsUpwards ∧
    ∃ page : Nat → List (SortKey × Nat), (page 1).length = 3 ∧ (page 2).length = 1 ∧
      [1, 2].flatMap page = [(laterKey, 2), (laterKey, 0), (earlierKey, 3), (earlierKey, 1)] := by
  obtain ⟨hstable, hreverse, hpages⟩ := listing_stable Prod.fst tiedRows
  have hupwards := (hstable _).mp stablyOrdered_tiedRows
  obtain ⟨page, hpage, hwhole⟩ := hpages .descending 3 (by decide) (by decide)
  obtain ⟨_, _, _, _, _, hfirst⟩ := hpage 1 (by decide)
  obtain ⟨_, _, _, _, _, hsecond⟩ := hpage 2 (by decide)
  refine ⟨by decide, by decide, hupwards, page, hfirst, hsecond, ?_⟩
  rw [hupwards] at hreverse
  exact (hwhole 2 (by decide)).trans hreverse

end Registrar
