/-!
# Maps that remember the order of insertion

`OrderedMap α β` is a list of entries in which no key stands twice. A key keeps its place when its
value is replaced, and a key that was erased and inserted again goes to the end. The stores of the
library (pending challenges, consumed markers, challenge states, providers, identities) are such
maps, so their listings come in order of first insertion.

`get?` is the view: the lemmas below say what each operation does to it, and to the list of keys.
-/

namespace ComputeDirectory

/-- Entries in order of first insertion, with no key twice. -/
structure OrderedMap (α β : Type) where
  /-- The entries, oldest first. -/
  entries : List (α × β)
  /-- No key stands twice. -/
  nodup_keys : (entries.map Prod.fst).Nodup

namespace OrderedMap

variable {α β : Type}

@[ext] theorem ext {m n : OrderedMap α β} (h : m.entries = n.entries) : m = n := by
  cases m; cases n; simp_all

/-- The map without entries. -/
def empty : OrderedMap α β := ⟨[], by simp⟩

instance : Inhabited (OrderedMap α β) := ⟨empty⟩

/-- The keys, oldest first. -/
def keys (m : OrderedMap α β) : List α := m.entries.map Prod.fst

/-- The values, in the order of their keys. -/
def values (m : OrderedMap α β) : List β := m.entries.map Prod.snd

/-- How many entries there are. -/
def size (m : OrderedMap α β) : Nat := m.entries.length

/-- Keeps the entries that satisfy `p`, in their order. -/
def filter (p : α → β → Bool) (m : OrderedMap α β) : OrderedMap α β where
  entries := m.entries.filter fun e => p e.1 e.2
  nodup_keys := m.nodup_keys.sublist (List.filter_sublist.map Prod.fst)

@[simp] theorem keys_empty : (empty : OrderedMap α β).keys = [] := rfl

variable [DecidableEq α]

/-- The value stored under `k`. -/
def get? (m : OrderedMap α β) (k : α) : Option β := (m.entries.find? (·.1 = k)).map Prod.snd

/-- Whether `k` is a key. -/
def contains (m : OrderedMap α β) (k : α) : Bool := (m.get? k).isSome

/-- Removes the entry under `k`, if there is one. -/
def erase (m : OrderedMap α β) (k : α) : OrderedMap α β := m.filter fun a _ => a ≠ k

theorem get?_eq_none_iff {m : OrderedMap α β} {k : α} : m.get? k = none ↔ k ∉ m.keys := by
  simp only [get?, Option.map_eq_none_iff, List.find?_eq_none, keys, List.mem_map, not_exists]
  constructor
  · rintro h ⟨a, b⟩ ⟨he, rfl⟩
    exact h _ he (by simp)
  · rintro h ⟨a, b⟩ he hk
    exact h (a, b) ⟨he, by simpa using hk⟩

theorem contains_eq_false_iff {m : OrderedMap α β} {k : α} :
    m.contains k = false ↔ k ∉ m.keys := by
  rw [← get?_eq_none_iff, contains]
  cases m.get? k <;> simp

theorem contains_iff {m : OrderedMap α β} {k : α} : m.contains k = true ↔ k ∈ m.keys := by
  rw [← Bool.not_eq_false, contains_eq_false_iff, Classical.not_not]

private theorem keys_replace (l : List (α × β)) (k : α) (v : β) :
    (l.map fun e => if e.1 = k then (k, v) else e).map Prod.fst = l.map Prod.fst := by
  induction l with
  | nil => rfl
  | cons e l ih => by_cases h : e.1 = k <;> simp [h, ih]

/-- Stores `v` under `k`: in the place that `k` has, or at the end when `k` is new. -/
def insert (m : OrderedMap α β) (k : α) (v : β) : OrderedMap α β :=
  if h : m.contains k then
    { entries := m.entries.map fun e => if e.1 = k then (k, v) else e
      nodup_keys := by rw [keys_replace]; exact m.nodup_keys }
  else
    { entries := m.entries ++ [(k, v)]
      nodup_keys := by
        rw [List.map_append, List.nodup_append]
        have hk : k ∉ m.keys := contains_eq_false_iff.1 (by simpa using h)
        exact ⟨m.nodup_keys, by simp, by rintro a ha b hb rfl; simp_all [keys]⟩ }

/-! ## What the operations do to the keys -/

theorem keys_insert_of_mem {m : OrderedMap α β} {k : α} (h : k ∈ m.keys) (v : β) :
    (m.insert k v).keys = m.keys := by
  rw [insert, dif_pos (contains_iff.2 h)]
  exact keys_replace _ _ _

theorem keys_insert_of_not_mem {m : OrderedMap α β} {k : α} (h : k ∉ m.keys) (v : β) :
    (m.insert k v).keys = m.keys ++ [k] := by
  rw [insert, dif_neg (by simpa using contains_eq_false_iff.2 h)]
  simp [keys]

theorem keys_erase (m : OrderedMap α β) (k : α) :
    (m.erase k).keys = m.keys.filter (· ≠ k) := by
  simp only [erase, filter, keys, List.filter_map]
  rfl

/-! ## What the operations do to the view -/

@[simp] theorem get?_empty (k : α) : (empty : OrderedMap α β).get? k = none := rfl

private theorem find?_replace (l : List (α × β)) (k k' : α) (v : β) :
    ((l.map fun e => if e.1 = k then (k, v) else e).find? (·.1 = k')).map Prod.snd =
      if k' = k then (l.find? (·.1 = k)).map (fun _ => v)
      else (l.find? (·.1 = k')).map Prod.snd := by
  induction l with
  | nil => simp
  | cons e l ih => grind

private theorem find?_append_fresh (l : List (α × β)) (k k' : α) (v : β)
    (h : k ∉ l.map Prod.fst) :
    ((l ++ [(k, v)]).find? (·.1 = k')).map Prod.snd =
      if k' = k then some v else (l.find? (·.1 = k')).map Prod.snd := by
  induction l with
  | nil => grind
  | cons e l ih => grind

theorem get?_insert (m : OrderedMap α β) (k k' : α) (v : β) :
    (m.insert k v).get? k' = if k' = k then some v else m.get? k' := by
  by_cases h : m.contains k
  · have hs : (m.get? k).isSome := h
    simp only [insert, dif_pos h, get?, find?_replace]
    split
    · simp only [get?, Option.isSome_map, Option.isSome_iff_exists] at hs
      obtain ⟨e, he⟩ := hs
      simp [he]
    · rfl
  · have hk : k ∉ m.keys := contains_eq_false_iff.1 (by simpa using h)
    simp only [insert, dif_neg h, get?]
    exact find?_append_fresh _ _ _ _ hk

private theorem find?_erase (l : List (α × β)) (k k' : α) :
    ((l.filter fun e => decide (e.1 ≠ k)).find? (·.1 = k')).map Prod.snd =
      if k' = k then none else (l.find? (·.1 = k')).map Prod.snd := by
  induction l with
  | nil => simp
  | cons e l ih => grind

theorem get?_erase (m : OrderedMap α β) (k k' : α) :
    (m.erase k).get? k' = if k' = k then none else m.get? k' :=
  find?_erase m.entries k k'

private theorem find?_keep (l : List (α × β)) (h : (l.map Prod.fst).Nodup) (p : α → β → Bool)
    (k : α) :
    ((l.filter fun e => p e.1 e.2).find? (·.1 = k)).map Prod.snd =
      ((l.find? (·.1 = k)).map Prod.snd).filter (p k) := by
  induction l with
  | nil => rfl
  | cons e l ih =>
    rw [List.map_cons, List.nodup_cons] at h
    have hrest := ih h.2
    by_cases he : e.1 = k
    · -- no later entry has this key, so dropping this one leaves none
      have hnone : l.find? (·.1 = k) = none := by
        rw [List.find?_eq_none]
        intro f hf hk
        exact h.1 (List.mem_map.2 ⟨f, hf, by rw [he]; simpa using hk⟩)
      rw [hnone] at hrest
      rw [List.filter_cons, List.find?_cons_of_pos (by simpa using he), Option.map_some, ← he]
      rw [← he] at hrest
      cases hp : p e.1 e.2
      · rw [if_neg (by simp), hrest, Option.filter_some_neg hp]
        rfl
      · rw [if_pos rfl, List.find?_cons_of_pos (by simp), Option.filter_some_pos hp]
        rfl
    · rw [List.filter_cons, List.find?_cons_of_neg (by simpa using he)]
      split
      · rw [List.find?_cons_of_neg (by simpa using he)]
        exact hrest
      · exact hrest

theorem get?_filter (m : OrderedMap α β) (p : α → β → Bool) (k : α) :
    (m.filter p).get? k = (m.get? k).filter (p k) :=
  find?_keep m.entries m.nodup_keys p k

/-! ## What the operations do to the values -/

theorem mem_values_of_get? {m : OrderedMap α β} {k : α} {v : β} (h : m.get? k = some v) :
    v ∈ m.values := by
  obtain ⟨e, he, hv⟩ := Option.map_eq_some_iff.1 h
  exact List.mem_map.2 ⟨e, List.mem_of_find?_eq_some he, hv⟩

theorem mem_values_insert {m : OrderedMap α β} {k : α} {v w : β}
    (h : w ∈ (m.insert k v).values) : w = v ∨ w ∈ m.values := by
  obtain ⟨e, he, rfl⟩ := List.mem_map.1 h
  rw [insert] at he
  split at he
  · obtain ⟨f, hf, rfl⟩ := List.mem_map.1 he
    split
    · exact .inl rfl
    · exact .inr (List.mem_map.2 ⟨f, hf, rfl⟩)
  · rcases List.mem_append.1 he with he | he
    · exact .inr (List.mem_map.2 ⟨e, he, rfl⟩)
    · rw [List.mem_singleton.1 he]
      exact .inl rfl

theorem mem_values_erase {m : OrderedMap α β} {k : α} {v : β} (h : v ∈ (m.erase k).values) :
    v ∈ m.values := by
  obtain ⟨e, he, rfl⟩ := List.mem_map.1 h
  exact List.mem_map.2 ⟨e, (List.mem_filter.1 he).1, rfl⟩

/-- Of two values stored under one key in turn, the second stays. -/
theorem insert_insert (m : OrderedMap α β) (k : α) (v w : β) :
    (m.insert k v).insert k w = m.insert k w := by
  have hk : (m.insert k v).contains k = true := by rw [contains, get?_insert, if_pos rfl]; rfl
  apply ext
  rw [insert, dif_pos hk]
  by_cases h : m.contains k = true
  · simp only [insert, dif_pos h, List.map_map]
    apply List.map_congr_left
    intro e _
    by_cases he : e.1 = k <;> simp [he]
  · have hnew : k ∉ m.keys := contains_eq_false_iff.1 (by simpa using h)
    have hkeep : m.entries.map (fun e => if e.1 = k then (k, w) else e) = m.entries := by
      refine (List.map_congr_left fun e he => ?_).trans (List.map_id _)
      exact if_neg fun hek => hnew (List.mem_map.2 ⟨e, he, hek⟩)
    simp only [insert, dif_neg h, List.map_append, hkeep]
    simp

end OrderedMap

end ComputeDirectory
