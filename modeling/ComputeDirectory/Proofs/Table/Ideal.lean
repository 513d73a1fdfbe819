import ComputeDirectory.Proofs.OrderedMap
import ComputeDirectory.Proofs.Table.Rows

/-!
# Ideal tables

A `Database` holds the rows of each table in the order in which they came. A statement that asks for
rows gives them as they were written, in that order or stably sorted by the instants of a column. A
row that is put in the place of another one stands where that one stood. `Backend.IsIdeal` says that
a service never fails and does with its database what the statements say; `ideal` is such a service.

Rows that were written in the order of time are not moved when they are sorted by it
(`Chronological.mergeSort_rows`).
-/

namespace ComputeDirectory.Table

/-! ## Rows -/

/-- Whether a column of a row is a given text. -/
def shows (column : String) (value : Text) (row : Json) : Bool :=
  match row.get? column with
  | some (.str text) => text = value
  | _ => false

/-- The instant in a column of a row, if there is one. -/
def instant? (column : String) (row : Json) : Option Moment :=
  match (row.get? column).map Schema.Reader.timestamp with
  | some (.valid t) => t.moment?
  | _ => none

/-- Whether one row may stand before another one in ascending order of a column of instants. Rows
without an instant come last. -/
def notAfter (column : String) (a b : Json) : Bool :=
  match instant? column a, instant? column b with
  | some m, some n => m ≤ n
  | none, some _ => false
  | _, none => true

/-- Puts a row in the place of those with its text in the column that identifies rows, or last. -/
def putRow (column : String) (row : Json) (rows : List Json) : List Json :=
  match row.get? column with
  | some (.str value) =>
    if rows.any (shows column value) then
      rows.map fun old => if shows column value old then row else old
    else rows ++ [row]
  | _ => rows ++ [row]

theorem shows_of_get? {column : String} {row : Json} {text : Text}
    (h : row.get? column = some (.str text)) (value : Text) :
    shows column value row = decide (text = value) := by
  rw [shows, h]

/-- The rows with a text in a column, where the column is a function of what the rows show. -/
theorem filter_rows {α : Type} {toJson : α → Json} {column : String} {key : α → Text}
    (hcolumn : ∀ a, (toJson a).get? column = some (.str (key a))) (value : Text)
    (values : List α) :
    (values.map toJson).filter (shows column value) =
      (values.filter fun a => key a = value).map toJson := by
  rw [List.filter_map]
  exact congrArg (List.map toJson) (List.filter_congr fun a _ => shows_of_get? (hcolumn a) value)

/-- The rows of the values of a map, once a value is put among them. -/
theorem putRow_values {α : Type} {toJson : α → Json} {column : String} {key : α → Text}
    (hcolumn : ∀ a, (toJson a).get? column = some (.str (key a))) {m : OrderedMap Text α}
    (hkey : ∀ k a, m.get? k = some a → key a = k) (a : α) :
    putRow column (toJson a) (m.values.map toJson) =
      (m.insert (key a) a).values.map toJson := by
  have hany : (m.values.map toJson).any (shows column (key a)) = m.contains (key a) := by
    rw [List.any_map, ← OrderedMap.any_values_key hkey]
    exact congrArg _ (funext fun other => shows_of_get? (hcolumn other) (key a))
  rw [putRow, hcolumn, OrderedMap.values_insert hkey a]
  simp only [hany]
  split
  · rw [List.map_map, List.map_map]
    refine List.map_congr_left fun other _ => ?_
    simp only [Function.comp_apply, shows_of_get? (hcolumn other), decide_eq_true_eq]
    split <;> rfl
  · rw [List.map_append, List.map_singleton]

/-- The rows of the values of a map that show a key are the row of the value under it. -/
theorem filter_rows_values {α : Type} {toJson : α → Json} {column : String} {key : α → Text}
    (hcolumn : ∀ a, (toJson a).get? column = some (.str (key a))) {m : OrderedMap Text α}
    (hkey : ∀ k a, m.get? k = some a → key a = k) (k : Text) :
    (m.values.map toJson).filter (shows column k) = (m.get? k).toList.map toJson := by
  rw [filter_rows hcolumn, OrderedMap.filter_values_key hkey]

/-- The other rows are those of the values that are left once the key is erased. -/
theorem erase_rows_values {α : Type} {toJson : α → Json} {column : String} {key : α → Text}
    (hcolumn : ∀ a, (toJson a).get? column = some (.str (key a))) {m : OrderedMap Text α}
    (hkey : ∀ k a, m.get? k = some a → key a = k) (k : Text) :
    (m.values.map toJson).filter (fun row => !shows column k row) =
      (m.erase k).values.map toJson := by
  rw [OrderedMap.values_erase hkey, List.filter_map]
  refine congrArg (List.map toJson) (List.filter_congr fun a _ => ?_)
  simp [shows_of_get? (hcolumn a)]

/-! ## Databases -/

/-- The rows of every table, in the order in which they came. -/
abbrev Database := String → List Json

namespace Database

/-- Writes the rows of a table. -/
def write (table : String) (rows : List Json) (d : Database) : Database :=
  fun other => if other = table then rows else d other

@[simp] theorem write_self (table : String) (rows : List Json) (d : Database) :
    d.write table rows table = rows := if_pos rfl

theorem write_of_ne {table other : String} (h : other ≠ table) (rows : List Json) (d : Database) :
    d.write table rows other = d other := if_neg h

/-- The rows whose column has a value, or all, in ascending order of a column, or as they came. -/
def select (table : String) (equals : Option (String × Text)) (order : Option String)
    (d : Database) : List Json :=
  let rows :=
    match equals with
    | some (column, value) => (d table).filter (shows column value)
    | none => d table
  match order with
  | some column => rows.mergeSort (notAfter column)
  | none => rows

/-- Inserts a row, or replaces the one with the same identifying column. -/
def upsert (table : String) (row : Json) (onConflict : Option String) (d : Database) : Database :=
  d.write table (putRow (onConflict.getD "id") row (d table))

/-- Inserts a row. -/
def insert (table : String) (row : Json) (d : Database) : Database :=
  d.write table (d table ++ [row])

/-- Deletes the rows whose column has a value. -/
def delete (table column : String) (value : Text) (d : Database) : Database :=
  d.write table ((d table).filter fun row => !shows column value row)

end Database

/-! ## Services -/

/-- A service that never fails, gives the whole rows that are asked for, and does to its database
what it is asked to do. What it answers when rows are written is left open. -/
structure Backend.IsIdeal {τ : Type} (b : Backend τ) (database : τ → Database) : Prop where
  selects : ∀ table equals order t, ∃ t',
    b.execute (.select table "*" equals order none) t =
        (.ok ((database t).select table equals order), t') ∧
      database t' = database t
  upserts : ∀ table row onConflict t, ∃ rows t',
    b.execute (.upsert table row onConflict) t = (.ok rows, t') ∧
      database t' = (database t).upsert table row onConflict
  inserts : ∀ table row t, ∃ rows t', b.execute (.insert table row) t = (.ok rows, t') ∧
    database t' = (database t).insert table row
  deletes : ∀ table column value t, ∃ t',
    b.execute (.delete table column value) t =
        (.ok ((database t).select table (some (column, value)) none), t') ∧
      database t' = (database t).delete table column value

/-- A service that holds nothing but its database. Its stopwatch stands still. -/
def ideal : Backend Database where
  execute statement := fun d =>
    match statement with
    | .select table _ equals order limit =>
      let rows := d.select table equals order
      (.ok (rows.take (limit.getD rows.length)), d)
    | .upsert table row onConflict => (.ok [row], d.upsert table row onConflict)
    | .insert table row => (.ok [row], d.insert table row)
    | .delete table column value =>
      (.ok (d.select table (some (column, value)) none), d.delete table column value)
  stopwatch d := (.zero, d)

theorem ideal_isIdeal : ideal.IsIdeal id where
  selects table equals order d := by
    refine ⟨d, ?_, rfl⟩
    show (Except.ok (List.take (List.length (d.select table equals order)) _), d) = _
    rw [List.take_length]
    rfl
  upserts table row onConflict d := ⟨[row], d.upsert table row onConflict, rfl, rfl⟩
  inserts table row d := ⟨[row], d.insert table row, rfl, rfl⟩
  deletes table column value d := ⟨d.delete table column value, rfl, rfl⟩

/-! ## Rows in the order of time -/

/-- Timestamps in the order of the moments that they name, which are no later than `now`. -/
structure Chronological (now : Moment) (times : List Timestamp) : Prop where
  named : ∀ t ∈ times, ∃ m, t.moment? = some m ∧ m ≤ now
  ascending : times.Pairwise fun t u =>
    ∀ m n, t.moment? = some m → u.moment? = some n → m ≤ n

namespace Chronological

variable {now later : Moment} {times : List Timestamp}

theorem nil (now : Moment) : Chronological now [] := ⟨by simp, .nil⟩

theorem mono (h : Chronological now times) (hle : now ≤ later) : Chronological later times where
  named t ht := by
    obtain ⟨m, hm, hnow⟩ := h.named t ht
    exact ⟨m, hm, Int.le_trans hnow hle⟩
  ascending := h.ascending

theorem sublist (h : Chronological now times) {part : List Timestamp} (hpart : part.Sublist times) :
    Chronological now part where
  named t ht := h.named t (hpart.subset ht)
  ascending := h.ascending.sublist hpart

/-- What happens now comes last. -/
theorem concat (h : Chronological now times) : Chronological now (times ++ [.utc now]) where
  named t ht := by
    rcases List.mem_append.1 ht with hold | hnew
    · exact h.named t hold
    · rw [List.mem_singleton.1 hnew]
      exact ⟨now, Timestamp.moment?_utc now, Int.le_refl now⟩
  ascending := by
    refine List.pairwise_append.2 ⟨h.ascending, List.pairwise_singleton .., ?_⟩
    intro t ht u hu m n hm hn
    obtain ⟨m', hm', hle⟩ := h.named t ht
    rw [List.mem_singleton.1 hu, Timestamp.moment?_utc] at hn
    rw [hm'] at hm
    cases hm
    cases hn
    exact hle

/-- Rows that came in the order of their instants stand in that order. -/
theorem mergeSort_rows {α : Type} {values : List α} {toJson : α → Json} {time : α → Timestamp}
    {column : String} (h : Chronological now (values.map time))
    (hcolumn : ∀ a ∈ values, instant? column (toJson a) = (time a).moment?) :
    (values.map toJson).mergeSort (notAfter column) = values.map toJson := by
  refine List.mergeSort_of_pairwise (List.pairwise_map.2 ?_)
  refine (List.pairwise_map.1 h.ascending).imp_of_mem fun {a b} ha hb hle => ?_
  obtain ⟨m, hm, -⟩ := h.named (time a) (List.mem_map_of_mem ha)
  obtain ⟨n, hn, -⟩ := h.named (time b) (List.mem_map_of_mem hb)
  rw [notAfter, hcolumn a ha, hcolumn b hb, hm, hn]
  exact decide_eq_true (hle m n hm hn)

end Chronological

/-- A timestamp that is written in a column tells its moment. -/
theorem instant?_of_get? {column : String} {row : Json} {t : Timestamp} (ht : t.IsWritable)
    (h : row.get? column = some (.str t.render)) : instant? column row = t.moment? := by
  rw [instant?, h, Option.map_some, Schema.Reader.timestamp_render ht]

end ComputeDirectory.Table
