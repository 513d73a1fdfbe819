import ComputeDirectory.Proofs.Binary64.Quotient
import ComputeDirectory.Proofs.Provider.Query
import ComputeDirectory.Proofs.Registry.Enrolment

/-!
# Pages

A listing is served in pages of a size that the caller chooses. A page is a slice of what is listed,
cut at whole numbers, so the pages share out the listing (`pages_share_out`): each record is on the
page that its index tells, and on no other.

How many pages there are is counted apart from the slices, by a division of binary64 numbers. The
count is the number of pages that hold something as long as neither number is out of proportion
(`page_count_reported`); for a huge page size it is zero, even if the first page holds all there is
(`pages_uncounted`).
-/

namespace ComputeDirectory.Registry

open Provider (Record Registration Status Query Page)

variable {σ : Type}

/-! ## Slices -/

section

variable {α : Type} {l : List α} {size : Nat}

/-- What stands at a place of a slice stands in the list, at the index with this quotient and
remainder. -/
theorem getElem?_slice (hsize : 0 < size) (n place : Nat) (a : α) :
    ((l.drop (n * size)).take size)[place]? = some a ↔
      ∃ j, l[j]? = some a ∧ n = j / size ∧ place = j % size := by
  rw [List.getElem?_take, List.getElem?_drop]
  constructor
  · intro h
    split at h
    · next hplace =>
      obtain ⟨hquotient, hremainder⟩ :=
        (Nat.div_mod_unique hsize).2 ⟨Nat.add_comm place (size * n), hplace⟩
      rw [Nat.mul_comm n] at h
      exact ⟨size * n + place, h, hquotient.symm, hremainder.symm⟩
    · cases h
  · rintro ⟨j, hj, rfl, rfl⟩
    rw [if_pos (Nat.mod_lt j hsize), Nat.div_add_mod', hj]

theorem slice_eq_nil_iff (hsize : 0 < size) (n : Nat) :
    (l.drop (n * size)).take size = [] ↔ l.length ≤ n * size := by
  rw [List.take_eq_nil_iff, List.drop_eq_nil_iff]
  omega

/-- Slices that follow each other join up. -/
theorem flatMap_slices (l : List α) (size n : Nat) :
    ((List.range n).flatMap fun i => (l.drop (i * size)).take size) = l.take (n * size) := by
  induction n with
  | zero => rw [List.range_zero, List.flatMap_nil, Nat.zero_mul, List.take_zero]
  | succ n ih =>
    rw [List.range_succ, List.flatMap_append, ih, List.flatMap_singleton, Nat.succ_mul,
      List.take_add]

end

/-! ## Listings -/

/-- The listed providers with a status, or all. -/
def shown (status : Option Status) (listed : List Record) : List Record :=
  listed.filter fun r => ∀ wanted ∈ status, r.status = wanted

theorem withStatus_eq_shown (status : Option Status) (listed : List Record) :
    withStatus status listed = shown status listed := by
  refine List.filter_congr fun r _ => ?_
  rw [Bool.eq_iff_iff, Query.asks_iff, decide_eq_true_eq]
  simp

/-- A page is a slice. -/
theorem items_pageOf (records : List Record) (n size : Nat) :
    (pageOf records (1 + n) size).items = (records.drop (n * size)).take size := by
  have hstart : ((1 + (n : Int) - 1) * size).toNat = n * size := by
    rw [add_sub_cancel_left, ← Int.natCast_mul, Int.toNat_natCast]
  rw [pageOf, hstart, Int.toNat_natCast]

theorem totalPages_pageOf (records : List Record) (number size : Int) :
    (pageOf records number size).totalPages = pageCount records.length size := by
  rw [pageOf]

/-! ## Sharing out -/

/-- Pages that share out some records, so many to a page. Pages count from one, and the places on a
page from zero. -/
structure SharesOut (size : Int) (records : List Record) (page : Int → Page) : Prop where
  /-- A record is on the page and at the place that its index tells, and nothing else is there. -/
  placed : ∀ {number : Int}, 1 ≤ number → ∀ (place : Nat) (r : Record),
    (page number).items[place]? = some r ↔
      ∃ j : Nat, records[j]? = some r ∧ number = 1 + j / size ∧ (place : Int) = j % size
  /-- If no provider is listed twice, each is on this page only. -/
  once : (records.map (·.id)).Nodup → ∀ {j : Nat} {r : Record}, records[j]? = some r →
    ∀ {number : Int}, 1 ≤ number →
      (r.id ∈ (page number).items.map (·.id) ↔ number = 1 + j / size)
  length_le : ∀ {number : Int}, 1 ≤ number → ((page number).items.length : Int) ≤ size
  empty_iff : ∀ {number : Int}, 1 ≤ number →
    ((page number).items = [] ↔ (records.length : Int) ≤ (number - 1) * size)
  /-- So many pages as have room for all records give them in order. -/
  joined : ∀ {n : Nat}, (records.length : Int) ≤ n * size →
    ((List.range n).flatMap fun i : Nat => (page (1 + i)).items) = records
  totalItems : ∀ number, (page number).totalItems = records.length

section

variable {records : List Record} {size : Nat} (hsize : 0 < size)

include hsize

theorem getElem?_pageOf {number : Int} (hnumber : 1 ≤ number) (place : Nat) (r : Record) :
    (pageOf records number size).items[place]? = some r ↔
      ∃ j : Nat, records[j]? = some r ∧ number = 1 + j / size ∧ (place : Int) = j % size := by
  obtain ⟨n, rfl⟩ := Int.le.dest hnumber
  rw [items_pageOf, getElem?_slice hsize]
  refine exists_congr fun j => and_congr_right fun _ => and_congr ?_ ?_
  · rw [Int.add_right_inj, ← Int.natCast_ediv, Int.natCast_inj]
  · rw [← Int.natCast_emod, Int.natCast_inj]

theorem id_mem_pageOf_iff (hnodup : (records.map (·.id)).Nodup) {j : Nat} {r : Record}
    (hj : records[j]? = some r) {number : Int} (hnumber : 1 ≤ number) :
    r.id ∈ (pageOf records number size).items.map (·.id) ↔ number = 1 + j / size := by
  rw [List.mem_map]
  constructor
  · rintro ⟨other, hother, hid⟩
    obtain ⟨place, hplace⟩ := List.mem_iff_getElem?.1 hother
    obtain ⟨i, hi, hpage, -⟩ := (getElem?_pageOf hsize hnumber place other).1 hplace
    -- records with one identifier have one index
    have hids : (records.map (·.id))[i]? = (records.map (·.id))[j]? := by
      rw [List.getElem?_map, List.getElem?_map, hi, hj, Option.map_some, Option.map_some, hid]
    have hlt : i < (records.map (·.id)).length := by
      rw [List.length_map]
      exact (List.getElem?_eq_some_iff.1 hi).1
    rw [hpage, (List.getElem?_inj hlt hnodup).1 hids]
  · intro hpage
    have hplace := (getElem?_pageOf hsize hnumber (j % size) r).2
      ⟨j, hj, hpage, Int.natCast_emod ..⟩
    exact ⟨r, List.mem_of_getElem? hplace, rfl⟩

end

theorem sharesOut_pageOf (records : List Record) {size : Int} (hsize : 1 ≤ size) :
    SharesOut size records (pageOf records · size) := by
  obtain ⟨size, rfl⟩ := Int.eq_ofNat_of_zero_le (Int.le_of_lt hsize)
  replace hsize : 0 < size := by omega
  refine ⟨getElem?_pageOf hsize, id_mem_pageOf_iff hsize, ?_, ?_, ?_, fun _ => rfl⟩
  · intro number hnumber
    obtain ⟨n, rfl⟩ := Int.le.dest hnumber
    rw [items_pageOf]
    exact Int.ofNat_le.2 (List.length_take_le ..)
  · intro number hnumber
    obtain ⟨n, rfl⟩ := Int.le.dest hnumber
    rw [items_pageOf, slice_eq_nil_iff hsize, add_sub_cancel_left, ← Int.natCast_mul, Int.ofNat_le]
  · intro n hn
    rw [← Int.natCast_mul, Int.ofNat_le] at hn
    simp only [items_pageOf]
    rw [flatMap_slices, List.take_of_length_le hn]

/-- Providers that register one after the other. -/
def registering (ids : List Text) : List (Moment × Operation) :=
  ids.map fun id => (0, .call (.register { sampleRegistration with id := id }))

/-- How many pages of a size are needed for so many records. -/
def pagesNeeded (total : Nat) (size : Int) : Int := ⌈(total : ℚ) / size⌉

/-- A page is needed if those before it have no room for all records. -/
theorem le_pagesNeeded_iff {total : Nat} {number size : Int} (hsize : 1 ≤ size) :
    number ≤ pagesNeeded total size ↔ (number - 1) * size < total := by
  have hpos : (0 : ℚ) < size := by exact_mod_cast hsize
  rw [pagesNeeded, ← Int.sub_one_lt_iff, Int.lt_ceil, lt_div_iff₀ hpos]
  exact_mod_cast Iff.rfl

theorem le_pagesNeeded_mul (total : Nat) {size : Int} (hsize : 1 ≤ size) :
    (total : Int) ≤ (pagesNeeded total size).toNat * size := by
  have hnext : ¬ pagesNeeded total size + 1 ≤ pagesNeeded total size := by omega
  rw [le_pagesNeeded_iff hsize, add_sub_cancel_right, Int.not_lt] at hnext
  exact hnext.trans (Int.mul_le_mul_of_nonneg_right (Int.self_le_toNat _) (Int.le_of_lt hsize))

/-- The number of pages that is reported, by the range of what is divided. -/
theorem pageCount_eq {total : Nat} {size : Int} (hsize : 1 ≤ size) (htotal : total ≤ Nat.pow 2 53) :
    pageCount total size =
      if size < (Nat.pow 2 1075 * total : Nat) then pagesNeeded total size else 0 := by
  obtain ⟨size, rfl⟩ := Int.eq_ofNat_of_zero_le (Int.le_of_lt hsize)
  replace hsize : 0 < size := by omega
  have hunits : 2 * Binary64.unitsPerOne = Nat.pow 2 1075 := by decide +kernel
  have hrange : size < 2 * (total * Binary64.unitsPerOne) ↔
      (size : Int) < (Nat.pow 2 1075 * total : Nat) := by
    rw [Int.ofNat_lt, ← hunits, Nat.mul_assoc, Nat.mul_comm total]
  rw [pageCount, Int.toNat_natCast, Binary64.ceil?_quotient hsize htotal, Option.getD_some,
    pagesNeeded, Int.cast_natCast]
  exact if_congr hrange rfl rfl

/-- With one record more the division is not exact. -/
example : pageCount (Nat.pow 2 53 + 1) 1 = Nat.pow 2 53 := by decide +kernel

/-- Pages that are counted: the ones up to the number that is needed hold something, and give all
records. This number is reported for at most `2 ^ 53` records, unless a page has room for `2 ^ 1075`
times as many: then no pages are reported. -/
structure AreCounted (size : Int) (records : List Record) (page : Int → Page) : Prop where
  ne_nil_iff : ∀ {number : Int}, 1 ≤ number →
    ((page number).items ≠ [] ↔ number ≤ pagesNeeded records.length size)
  walked : ((List.range (pagesNeeded records.length size).toNat).flatMap fun i : Nat =>
    (page (1 + i)).items) = records
  totalItems : ∀ number, (page number).totalItems = records.length
  totalPages : records.length ≤ Nat.pow 2 53 → ∀ number, (page number).totalPages =
    if size < (Nat.pow 2 1075 * records.length : Nat) then pagesNeeded records.length size else 0

theorem areCounted_pageOf (records : List Record) {size : Int} (hsize : 1 ≤ size) :
    AreCounted size records (pageOf records · size) := by
  have hshared := sharesOut_pageOf records hsize
  refine ⟨?_, hshared.joined (le_pagesNeeded_mul _ hsize), hshared.totalItems, ?_⟩
  · intro number hnumber
    rw [ne_eq, hshared.empty_iff hnumber, Int.not_le, le_pagesNeeded_iff hsize]
  · intro hlength number
    rw [totalPages_pageOf, pageCount_eq hsize hlength]

/-- The reported number of pages agrees with the pages served, up to the range of binary64 numbers.
Over any store that can be listed, whatever the page size and the status asked for, a page holds
something exactly if its number is at most the ceiling of the quotient of the number of records and
the page size; and this ceiling is reported unless there are more than `2 ^ 53` records, or the page
size is at least `2 ^ 1075` times their number. -/
theorem page_count_reported {store : ProviderStore σ} {s s' : σ} {listed : List Record}
    (hall : store.all s = (.ok listed, s')) (status : Option Status) {size : Int}
    (hsize : 1 ≤ size) :
    ∃ page : Int → Page, AreCounted size (shown status listed) page ∧
      ∀ number, 1 ≤ number → list store number size status s = (.ok (page number), s') := by
  refine ⟨_, areCounted_pageOf _ hsize, fun number hnumber => ?_⟩
  rw [list_of_all hall status hnumber hsize, withStatus_eq_shown]

/-- Three providers need two pages of two, and two pages are reported. -/
theorem page_count_reported_sample :
    let p : Policy := ⟨60, .nan⟩
    let s := shelfAfter p (registering ["a", "b", "c"])
    s.listing = ["a", "b", "c"] ∧
      (list shelfStore 2 2 none s).1.map
        (fun page => (page.items.map (·.id), page.totalItems, page.totalPages)) =
          .ok (["c"], 3, 2) ∧
      ∃ page : Int → Page, AreCounted 2 (shown none s.providers.values) page ∧
        ∀ number, 1 ≤ number → list shelfStore number 2 none s = (.ok (page number), s) := by
  intro p s
  have hall : shelfStore.all s = (.ok s.providers.values, s) := rfl
  exact ⟨by decide +kernel, by decide +kernel, page_count_reported hall none (by decide)⟩

/-- A page with more room than there are binary64 numbers holds the only provider, and it is reported
that there are no pages. -/
theorem pages_uncounted :
    let s := shelfAfter ⟨60, .nan⟩ (registering ["a"])
    let size : Int := Nat.pow 10 400
    (list shelfStore 1 size none s).1.map
        (fun page => (page.items.map (·.id), page.totalItems, page.totalPages)) =
          .ok (["a"], 1, 0) ∧
      pagesNeeded 1 size = 1 := by
  intro s size
  refine ⟨by decide +kernel, ?_⟩
  rw [pagesNeeded, Int.cast_natCast]
  exact Binary64.ceil_div_eq (n := 0) (by decide +kernel) (by decide +kernel) (by decide +kernel)

end ComputeDirectory.Registry
