import Mathlib

/-!
# Sorting by keys

Items are sorted by their keys, and those of equal keys keep their order. Two things determine the
sorted list, and nothing else: its keys ascend, and the items of each key stand in it as they stood
in the list that was sorted (`eq_of_ascends`). So sorting commutes with filters (`filter_sortBy`),
and of two items the sorted list tells which has the lesser key or, between equal keys, which came
first (`pairwise_sortBy`). The order in which the items came shows only between equal keys
(`map_key_sortBy_of_perm`, `sortBy_eq_of_perm`).
-/

namespace ComputeDirectory

variable {α κ : Type} [LinearOrder κ] {key : α → κ} {items : List α}

/-- Items in the order of their keys; items of equal keys keep their order. -/
def sortBy (key : α → κ) (items : List α) : List α :=
  items.mergeSort fun a b => decide (key a ≤ key b)

/-- No item has a greater key than one that follows. -/
def Ascends (key : α → κ) (items : List α) : Prop := items.Pairwise fun a b => key a ≤ key b

theorem sortBy_perm (key : α → κ) (items : List α) : (sortBy key items).Perm items :=
  List.mergeSort_perm ..

theorem ascends_sortBy (key : α → κ) (items : List α) : Ascends key (sortBy key items) := by
  have h : (sortBy key items).Pairwise fun a b => decide (key a ≤ key b) = true :=
    List.pairwise_mergeSort (by simpa using fun _ _ _ => le_trans)
      (by simpa using fun a b => le_total (key a) (key b)) items
  exact h.imp of_decide_eq_true

/-- The items of one key stand in the sorted list as they stood before. -/
theorem filter_key_sortBy (key : α → κ) (items : List α) (k : κ) :
    (sortBy key items).filter (key · = k) = items.filter (key · = k) := by
  -- items of one key are in order already, and what is in order is not moved
  have hascends : (items.filter (key · = k)).Pairwise fun a b => decide (key a ≤ key b) = true := by
    refine List.pairwise_iff_forall_sublist.2 fun {a b} h => ?_
    have hof (c : α) (hc : c ∈ [a, b]) : key c = k :=
      of_decide_eq_true (List.mem_filter.1 (h.subset hc)).2
    rw [hof a (by simp), hof b (by simp)]
    exact decide_eq_true (le_refl k)
  have hsublist : (items.filter (key · = k)).Sublist (sortBy key items) :=
    List.sublist_mergeSort (by simpa using fun _ _ _ => le_trans)
      (by simpa using fun a b => le_total (key a) (key b)) hascends List.filter_sublist
  have hfiltered := hsublist.filter (key · = k)
  rw [List.filter_filter] at hfiltered
  simp only [Bool.and_self] at hfiltered
  exact (hfiltered.eq_of_length ((sortBy_perm key items).filter _).length_eq.symm).symm

/-- A list whose keys ascend is determined by the items of each key. -/
theorem eq_of_ascends {l m : List α} (hl : Ascends key l) (hm : Ascends key m)
    (h : ∀ k, l.filter (key · = k) = m.filter (key · = k)) : l = m := by
  induction l generalizing m with
  | nil =>
    cases m with
    | nil => rfl
    | cons b m =>
      have hb := h (key b)
      simp at hb
  | cons a l ih =>
    have hmem : a ∈ m := by
      have ha : a ∈ (a :: l).filter (key · = key a) := by simp
      rw [h] at ha
      exact (List.mem_filter.1 ha).1
    cases m with
    | nil => cases hmem
    | cons b m =>
      obtain ⟨hleast, hrest⟩ := List.pairwise_cons.1 hl
      obtain ⟨hleast', hrest'⟩ := List.pairwise_cons.1 hm
      -- neither of the first items has the greater key, so they head the same class
      have hle : key b ≤ key a := by
        rcases List.mem_cons.1 hmem with rfl | hmem
        · exact le_refl _
        · exact hleast' a hmem
      have hge : key a ≤ key b := by
        have hb : b ∈ (b :: m).filter (key · = key b) := by simp
        rw [← h] at hb
        rcases List.mem_cons.1 (List.mem_filter.1 hb).1 with rfl | hb
        · exact le_refl _
        · exact hleast b hb
      have hkey := le_antisymm hge hle
      have hclass := h (key a)
      simp only [hkey, List.filter_cons, decide_true, if_true, List.cons.injEq] at hclass
      obtain ⟨rfl, -⟩ := hclass
      refine congrArg (a :: ·) (ih hrest hrest' fun k => ?_)
      have hk := h k
      simp only [List.filter_cons] at hk
      split at hk
      · exact (List.cons.inj hk).2
      · exact hk

/-- Sorting what passes a test gives what passes it of the sorted list. -/
theorem filter_sortBy (key : α → κ) (p : α → Bool) (items : List α) :
    (sortBy key items).filter p = sortBy key (items.filter p) := by
  refine eq_of_ascends ((ascends_sortBy key items).filter p) (ascends_sortBy key _) fun k => ?_
  have hswap (l : List α) : (l.filter p).filter (key · = k) = (l.filter (key · = k)).filter p := by
    simp only [List.filter_filter, Bool.and_comm]
  rw [filter_key_sortBy, hswap, filter_key_sortBy, hswap]

/-- Of two items in the sorted list, the earlier one has the lesser key, or it has the same key and
came first. -/
theorem pairwise_sortBy (key : α → κ) (items : List α) :
    (sortBy key items).Pairwise fun a b =>
      key a < key b ∨ (key a = key b ∧ [a, b].Sublist items) := by
  refine List.pairwise_iff_forall_sublist.2 fun {a b} h => ?_
  have hle := List.pairwise_iff_forall_sublist.1 (ascends_sortBy key items) h
  rcases lt_or_eq_of_le hle with hlt | heq
  · exact .inl hlt
  · have hclass := h.filter (key · = key b)
    rw [filter_key_sortBy] at hclass
    simp only [List.filter_cons, heq, decide_true, if_true, List.filter_nil] at hclass
    exact .inr ⟨heq, hclass.trans List.filter_sublist⟩

/-- Sorting by a comparison that the keys tell is sorting by the keys. -/
theorem mergeSort_eq_sortBy {le : α → α → Bool}
    (h : ∀ a ∈ items, ∀ b ∈ items, le a b = decide (key a ≤ key b)) :
    items.mergeSort le = sortBy key items := by
  have hmap := List.map_mergeSort (s := fun a b => decide (key a ≤ key b)) (f := id) h
  rwa [List.map_id, List.map_id] at hmap

/-! ## Items that come in another order -/

section

variable {l m : List α}

theorem sortBy_perm_sortBy (key : α → κ) (h : l.Perm m) : (sortBy key l).Perm (sortBy key m) :=
  ((sortBy_perm key l).trans h).trans (sortBy_perm key m).symm

/-- The keys of a sorted list do not tell in which order the items came. -/
theorem map_key_sortBy_of_perm (key : α → κ) (h : l.Perm m) :
    (sortBy key l).map key = (sortBy key m).map key := by
  have hascends (items : List α) : ((sortBy key items).map key).Pairwise (· ≤ ·) :=
    List.pairwise_map.2 (ascends_sortBy key items)
  exact ((sortBy_perm_sortBy key h).map key).eq_of_pairwise (fun _ _ _ _ => le_antisymm)
    (hascends l) (hascends m)

/-- Nor do the items, if no two of them have the same key. -/
theorem sortBy_eq_of_perm (h : l.Perm m) (hkeys : (l.map key).Nodup) :
    sortBy key l = sortBy key m := by
  refine List.Perm.eq_of_pairwise (fun a b ha hb hab hba => ?_) (ascends_sortBy key l)
    (ascends_sortBy key m) (sortBy_perm_sortBy key h)
  have ha : a ∈ l := (sortBy_perm key l).mem_iff.1 ha
  have hb : b ∈ l := h.mem_iff.2 ((sortBy_perm key m).mem_iff.1 hb)
  exact List.inj_on_of_nodup_map hkeys ha hb (le_antisymm hab hba)

end

end ComputeDirectory
