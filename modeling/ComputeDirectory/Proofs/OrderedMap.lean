import ComputeDirectory.OrderedMap
import Mathlib.Data.List.Nodup
import Mathlib.Data.List.Perm.Subperm

/-!
# Entries and keys of ordered maps

An entry is found under its key, since no key stands twice. So the keys and the values of a map can
be told from its view, and an operation changes the number of entries by one at most.
-/

namespace ComputeDirectory.OrderedMap

variable {α β : Type} [DecidableEq α]

theorem get?_eq_some_iff {m : OrderedMap α β} {k : α} {v : β} :
    m.get? k = some v ↔ (k, v) ∈ m.entries := by
  constructor
  · intro h
    obtain ⟨⟨k', v'⟩, hfind, rfl⟩ := Option.map_eq_some_iff.1 h
    have hkey := List.find?_some hfind
    rw [decide_eq_true_eq] at hkey
    rw [← hkey]
    exact List.mem_of_find?_eq_some hfind
  · intro h
    cases hget : m.get? k with
    | none => exact absurd (List.mem_map.2 ⟨_, h, rfl⟩) (get?_eq_none_iff.1 hget)
    | some w =>
      obtain ⟨⟨k', v'⟩, hfind, rfl⟩ := Option.map_eq_some_iff.1 hget
      have hkey := List.find?_some hfind
      rw [decide_eq_true_eq] at hkey
      have heq := List.inj_on_of_nodup_map m.nodup_keys (List.mem_of_find?_eq_some hfind) h hkey
      rw [heq]

theorem mem_keys_iff {m : OrderedMap α β} {k : α} : k ∈ m.keys ↔ m.get? k ≠ none := by
  rw [ne_eq, get?_eq_none_iff, not_not]

theorem mem_keys_of_get? {m : OrderedMap α β} {k : α} {v : β} (h : m.get? k = some v) :
    k ∈ m.keys :=
  mem_keys_iff.2 (by rw [h]; exact Option.some_ne_none v)

theorem exists_get?_of_mem_values {m : OrderedMap α β} {v : β} (h : v ∈ m.values) :
    ∃ k, m.get? k = some v := by
  obtain ⟨⟨k, v⟩, hentry, rfl⟩ := List.mem_map.1 h
  exact ⟨k, get?_eq_some_iff.2 hentry⟩

/-- The keys and the view tell the entries. -/
theorem entries_eq (m : OrderedMap α β) :
    m.entries = m.keys.filterMap fun k => (m.get? k).map (Prod.mk k) := by
  rw [keys, List.filterMap_map]
  refine (List.filterMap_some.symm.trans (List.filterMap_congr ?_))
  rintro ⟨k, v⟩ hentry
  rw [Function.comp_apply, get?_eq_some_iff.2 hentry]
  rfl

theorem values_eq (m : OrderedMap α β) : m.values = m.keys.filterMap m.get? := by
  rw [values, entries_eq, List.map_filterMap]
  refine List.filterMap_congr fun k _ => ?_
  cases m.get? k <;> rfl

/-- Maps with the same keys in the same order and the same view are equal. -/
theorem eq_of_get? {m n : OrderedMap α β} (hkeys : m.keys = n.keys)
    (hget : ∀ k, m.get? k = n.get? k) : m = n := by
  apply ext
  rw [m.entries_eq, n.entries_eq, hkeys]
  exact List.filterMap_congr fun k _ => by rw [hget k]

/-- Storing what is stored changes nothing. -/
theorem insert_of_get? {m : OrderedMap α β} {k : α} {v : β} (h : m.get? k = some v) :
    m.insert k v = m := by
  have hcontains : m.contains k = true := by rw [contains, h, Option.isSome_some]
  apply ext
  simp only [insert, dif_pos hcontains]
  refine (List.map_congr_left fun e he => ?_).trans (List.map_id _)
  split
  · next hkey =>
    have hget : m.get? e.1 = some e.2 := get?_eq_some_iff.2 he
    rw [hkey, h] at hget
    rw [Option.some.inj hget, ← hkey]
    rfl
  · rfl

/-- Erasing what is not stored changes nothing. -/
theorem erase_of_get? {m : OrderedMap α β} {k : α} (h : m.get? k = none) : m.erase k = m := by
  apply ext
  refine List.filter_eq_self.2 fun e he => ?_
  have hkey : e.1 ≠ k := fun hkey =>
    get?_eq_none_iff.1 h (List.mem_map.2 ⟨e, he, hkey⟩)
  rw [decide_eq_true_eq]
  exact hkey

/-- Filtering splits the keys into those that stay and those that go. -/
theorem keys_perm_filter (m : OrderedMap α β) (p : α → β → Bool) :
    m.keys.Perm ((m.filter p).keys ++ m.keys.filter fun k => ((m.filter p).get? k).isNone) := by
  have hkept : ∀ k ∈ (m.filter p).keys, k ∈ m.keys := by
    intro k hk
    rw [mem_keys_iff, get?_filter] at hk
    rw [mem_keys_iff]
    intro hnone
    rw [hnone] at hk
    exact hk rfl
  refine (List.perm_ext_iff_of_nodup m.nodup_keys ?_).2 fun k => ?_
  · refine List.nodup_append.2 ⟨(m.filter p).nodup_keys, m.nodup_keys.filter _, ?_⟩
    rintro k hk _ hgone rfl
    rw [mem_keys_iff] at hk
    exact hk (Option.isNone_iff_eq_none.1 (List.mem_filter.1 hgone).2)
  · rw [List.mem_append, List.mem_filter]
    constructor
    · intro hk
      cases hget : (m.filter p).get? k with
      | none => exact .inr ⟨hk, rfl⟩
      | some v =>
        refine .inl (mem_keys_iff.2 ?_)
        rw [hget]
        exact Option.some_ne_none v
    · rintro (hk | ⟨hk, -⟩)
      · exact hkept k hk
      · exact hk

/-- Erasing takes away at most the one key. -/
theorem keys_perm_erase (m : OrderedMap α β) (k : α) :
    m.keys.Perm ((m.erase k).keys ++ if (m.get? k).isSome then [k] else []) := by
  refine (m.keys_perm_filter fun a _ => a ≠ k).trans ?_
  refine List.Perm.append_left _ ?_
  refine (List.perm_ext_iff_of_nodup (m.nodup_keys.filter _) ?_).2 fun a => ?_
  · split <;> simp
  · show a ∈ m.keys.filter (fun a => ((m.erase k).get? a).isNone) ↔ _
    rw [List.mem_filter, get?_erase, mem_keys_iff]
    by_cases ha : a = k
    · rw [ha, if_pos rfl]
      cases m.get? k <;> simp
    · rw [if_neg ha]
      cases m.get? a <;> cases m.get? k <;> simp [ha]

omit [DecidableEq α] in
/-- Filtering twice keeps what passes both times. -/
theorem filter_filter (m : OrderedMap α β) (p q : α → β → Bool) :
    (m.filter p).filter q = m.filter fun k v => p k v && q k v := by
  apply ext
  refine List.filter_filter.trans (List.filter_congr fun e _ => ?_)
  exact Bool.and_comm ..

/-- Erasing keys one after the other leaves what has none of them. -/
theorem foldl_erase (m : OrderedMap α β) (keys : List α) :
    keys.foldl erase m = m.filter fun k _ => k ∉ keys := by
  induction keys generalizing m with
  | nil =>
    apply ext
    exact (List.filter_eq_self.2 fun _ _ => decide_eq_true List.not_mem_nil).symm
  | cons key keys ih =>
    rw [List.foldl_cons, ih, erase, filter_filter]
    congr
    funext k v
    rw [← Bool.decide_and]
    exact decide_eq_decide.2 (by rw [List.mem_cons, not_or])

/-- Erasing the keys of what passes leaves what does not. -/
theorem foldl_erase_keys_filter (m : OrderedMap α β) (p : α → β → Bool) :
    (m.filter p).keys.foldl erase m = m.filter fun k v => !p k v := by
  rw [foldl_erase]
  apply ext
  refine List.filter_congr fun e he => ?_
  have hget : (m.filter p).get? e.1 = (some e.2).filter (p e.1) := by
    rw [get?_filter, get?_eq_some_iff.2 he]
  have hkey : e.1 ∈ (m.filter p).keys ↔ p e.1 e.2 = true := by
    rw [mem_keys_iff, hget]
    cases hp : p e.1 e.2 <;> simp [hp]
  simp only [hkey, decide_not, Bool.decide_eq_true]

/-! ## How much a map holds -/

omit [DecidableEq α] in
theorem length_keys (m : OrderedMap α β) : m.keys.length = m.size := List.length_map ..

omit [DecidableEq α] in
theorem length_values (m : OrderedMap α β) : m.values.length = m.size := List.length_map ..

omit [DecidableEq α] in
/-- Every entry passes or does not. -/
theorem size_filter_add (m : OrderedMap α β) (p : α → β → Bool) :
    (m.filter p).size + (m.filter fun k v => !p k v).size = m.size :=
  (List.length_eq_length_filter_add _).symm

omit [DecidableEq α] in
theorem values_filter_sublist (m : OrderedMap α β) (p : α → β → Bool) :
    (m.filter p).values.Sublist m.values := List.filter_sublist.map Prod.snd

omit [DecidableEq α] in
theorem size_filter_le (m : OrderedMap α β) (p : α → β → Bool) : (m.filter p).size ≤ m.size :=
  List.length_filter_le ..

theorem size_erase_le (m : OrderedMap α β) (k : α) : (m.erase k).size ≤ m.size :=
  m.size_filter_le _

/-- Storing a value adds it, in the place of another one or not. -/
theorem values_insert_subperm (m : OrderedMap α β) (k : α) (v : β) :
    (m.insert k v).values.Subperm (v :: m.values) := by
  by_cases hk : m.contains k = true
  · -- the one entry under the key makes room for the new one
    suffices h : ∀ l : List (α × β), (l.map Prod.fst).Nodup →
        ((l.map fun e => if e.1 = k then (k, v) else e).map Prod.snd).Subperm
          (v :: l.map Prod.snd) by
      simpa only [insert, dif_pos hk, values] using h m.entries m.nodup_keys
    intro l hl
    induction l with
    | nil => exact List.nil_subperm
    | cons e l ih =>
      obtain ⟨hfresh, hl⟩ := List.nodup_cons.1 hl
      by_cases he : e.1 = k
      · have hrest : l.map (fun e => if e.1 = k then (k, v) else e) = l := by
          refine (List.map_congr_left fun f hf => ?_).trans (List.map_id _)
          exact if_neg fun hfk => hfresh (List.mem_map.2 ⟨f, hf, hfk.trans he.symm⟩)
        rw [List.map_cons, hrest, if_pos he]
        exact (List.subperm_cons v).2 (List.sublist_cons_self ..).subperm
      · simp only [List.map_cons, if_neg he]
        exact ((List.subperm_cons e.2).2 (ih hl)).trans (List.Perm.swap ..).subperm
  · simp only [insert, dif_neg hk, values, List.map_append]
    exact List.perm_append_comm.subperm

theorem size_insert_le (m : OrderedMap α β) (k : α) (v : β) :
    (m.insert k v).size ≤ m.size + 1 := by
  have hlength := (m.values_insert_subperm k v).length_le
  rwa [List.length_cons, length_values, length_values] at hlength

/-- Storing a value under a key that is there makes the map no larger. -/
theorem size_insert_of_get? {m : OrderedMap α β} {k : α} {w : β} (h : m.get? k = some w) (v : β) :
    (m.insert k v).size = m.size := by
  have hkeys := congrArg List.length (keys_insert_of_mem (mem_keys_of_get? h) v)
  rwa [length_keys, length_keys] at hkeys

/-- Erasing a key takes its value away. -/
theorem values_perm_erase {m : OrderedMap α β} {k : α} {v : β} (h : m.get? k = some v) :
    m.values.Perm (v :: (m.erase k).values) := by
  suffices hperm : ∀ l : List (α × β), (l.map Prod.fst).Nodup → (k, v) ∈ l →
      (l.map Prod.snd).Perm (v :: (l.filter fun e => decide (e.1 ≠ k)).map Prod.snd) from
    hperm m.entries m.nodup_keys (get?_eq_some_iff.1 h)
  intro l hl hmem
  induction l with
  | nil => cases hmem
  | cons e l ih =>
    obtain ⟨hfresh, hl⟩ := List.nodup_cons.1 hl
    rcases List.mem_cons.1 hmem with rfl | hmem
    · have hrest : (l.filter fun e => decide (e.1 ≠ k)) = l :=
        List.filter_eq_self.2 fun f hf => by
          simpa using fun hfk => hfresh (List.mem_map.2 ⟨f, hf, hfk⟩)
      rw [List.filter_cons, if_neg (by simp), hrest]
      rfl
    · have he : e.1 ≠ k := fun hek => hfresh (List.mem_map.2 ⟨_, hmem, hek.symm⟩)
      rw [List.filter_cons, if_pos (by simpa using he)]
      exact ((ih hl hmem).cons e.2).trans (List.Perm.swap ..)

/-! ## Values that tell their key -/

section Keyed

variable {m : OrderedMap α β} {key : β → α} (hkey : ∀ k v, m.get? k = some v → key v = k)

include hkey

theorem key_of_mem_entries {e : α × β} (he : e ∈ m.entries) : key e.2 = e.1 :=
  hkey e.1 e.2 (get?_eq_some_iff.2 he)

/-- What is found under a key is what tells it. -/
theorem filter_values_key (k : α) : m.values.filter (fun v => key v = k) = (m.get? k).toList := by
  have hentries : ∀ l : List (α × β), (l.map Prod.fst).Nodup →
      (l.filter fun e => decide (e.1 = k)).map Prod.snd =
        ((l.find? fun e => decide (e.1 = k)).map Prod.snd).toList := by
    intro l hl
    induction l with
    | nil => rfl
    | cons e l ih =>
      obtain ⟨hfresh, hl⟩ := List.nodup_cons.1 hl
      by_cases he : e.1 = k
      · have hrest : (l.filter fun f => decide (f.1 = k)) = [] :=
          List.filter_eq_nil_iff.2 fun f hf hfk =>
            hfresh (List.mem_map.2 ⟨f, hf, (of_decide_eq_true hfk).trans he.symm⟩)
        rw [List.filter_cons_of_pos (by simpa using he), List.find?_cons_of_pos (by simpa using he),
          hrest]
        rfl
      · rw [List.filter_cons_of_neg (by simpa using he), List.find?_cons_of_neg (by simpa using he)]
        exact ih hl
  rw [values, List.filter_map, get?, ← hentries m.entries m.nodup_keys]
  refine congrArg (List.map Prod.snd) (List.filter_congr fun e he => ?_)
  rw [Function.comp_apply, key_of_mem_entries hkey he]

theorem any_values_key (k : α) : (m.values.any fun v => key v = k) = m.contains k := by
  have hfilter (v : β) := congrArg (v ∈ ·) (filter_values_key hkey k)
  simp only [List.mem_filter, decide_eq_true_eq, Option.mem_toList, eq_iff_iff] at hfilter
  rw [Bool.eq_iff_iff, List.any_eq_true, contains, Option.isSome_iff_exists]
  exact exists_congr fun v => by rw [decide_eq_true_eq, hfilter]

theorem values_erase (k : α) : (m.erase k).values = m.values.filter fun v => key v ≠ k := by
  rw [values, values, List.filter_map]
  refine congrArg (List.map Prod.snd) (List.filter_congr fun e he => ?_)
  rw [Function.comp_apply, key_of_mem_entries hkey he]

/-- A value takes the place of the one with its key, or comes last. -/
theorem values_insert (v : β) :
    (m.insert (key v) v).values =
      if m.contains (key v) then m.values.map fun w => if key w = key v then v else w
      else m.values ++ [v] := by
  rw [insert]
  split
  · rw [values, values, List.map_map, List.map_map]
    refine List.map_congr_left fun e he => ?_
    rw [Function.comp_apply, Function.comp_apply, key_of_mem_entries hkey he]
    split <;> rfl
  · rw [values, List.map_append]
    rfl

end Keyed

end ComputeDirectory.OrderedMap
