import ComputeDirectory.Proofs.Schema.Reader
import ComputeDirectory.Table.Client

/-!
# Rows that are read

What a store over a table service gives was read from the rows of an answer: the first row, or all
of them (`firstRow_cons_eq_ok_iff`, `exists_of_mem_allRows`). The answer is the one of the service
(`execute_of_run_ok`, `execute_of_run_error`).
-/

namespace ComputeDirectory.Table

variable {τ α : Type} {b : Backend τ} {statement : Statement} {t t' : τ}

theorem execute_of_run_ok {rows : List Json} (h : run b statement t = (.ok rows, t')) :
    b.execute statement t = (.ok rows, t') := by
  rw [run, Attempt.mapError] at h
  split at h
  · next hexecute =>
    cases h
    exact hexecute
  · cases h

theorem execute_of_run_error {e : Failure} (h : run b statement t = (.error e, t')) :
    ∃ message, b.execute statement t = (.error message, t') := by
  rw [run, Attempt.mapError] at h
  split at h
  · cases h
  · next message _ hexecute =>
    cases h
    exact ⟨message, hexecute⟩

theorem run_of_execute_ok {rows : List Json} (h : b.execute statement t = (.ok rows, t')) :
    run b statement t = (.ok rows, t') := by
  rw [run, Attempt.mapError, h]

theorem run_of_execute_error {message : Text} (h : b.execute statement t = (.error message, t')) :
    run b statement t = (.error (.outage message), t') := by
  rw [run, Attempt.mapError, h]

/-- What is read from the rows of an answer. -/
theorem read_of_execute_ok {rows : List Json} (h : b.execute statement t = (.ok rows, t'))
    (read : List Json → Except Failure α) :
    (run b statement >>= fun rows => Attempt.ofExcept (read rows)) t = (read rows, t') :=
  Attempt.bind_of_ok (run_of_execute_ok h)

variable {read : Schema.Reader α} {row : Json} {rows : List Json}

theorem checkRow_eq_ok_iff {a : α} : checkRow read row = .ok a ↔ read row = .valid a :=
  Schema.Checked.toExcept_eq_ok_iff

theorem firstRow_cons_eq_ok_iff {found : Option α} :
    firstRow read (row :: rows) = .ok found ↔ ∃ a, found = some a ∧ read row = .valid a := by
  rw [firstRow]
  cases hrow : checkRow read row with
  | error e =>
    constructor
    · rintro ⟨⟩
    · rintro ⟨a, -, hread⟩
      rw [checkRow_eq_ok_iff.2 hread] at hrow
      cases hrow
  | ok first =>
    rw [checkRow_eq_ok_iff] at hrow
    constructor
    · rintro ⟨⟩
      exact ⟨first, rfl, hrow⟩
    · rintro ⟨a, rfl, hread⟩
      rw [hrow] at hread
      cases hread
      rfl

theorem exists_of_mem_allRows {found : List α} (h : allRows read rows = .ok found) {a : α}
    (ha : a ∈ found) : ∃ row ∈ rows, read row = .valid a := by
  induction rows generalizing found with
  | nil =>
    cases h
    cases ha
  | cons row rows ih =>
    rw [allRows, List.mapM_cons] at h
    cases hrow : checkRow read row with
    | error e =>
      rw [hrow] at h
      cases h
    | ok first =>
      cases hrest : rows.mapM (checkRow read) with
      | error e =>
        rw [hrow, hrest] at h
        cases h
      | ok rest =>
        rw [hrow, hrest] at h
        cases h
        rcases List.mem_cons.1 ha with rfl | ha
        · exact ⟨row, List.mem_cons_self .., checkRow_eq_ok_iff.1 hrow⟩
        · obtain ⟨row', hrow', hread⟩ := ih hrest ha
          exact ⟨row', List.mem_cons_of_mem _ hrow', hread⟩

/-- Values whose rows are read back are what is read from these rows. -/
theorem allRows_map {toJson : α → Json} {values : List α}
    (h : ∀ a ∈ values, read (toJson a) = .valid a) :
    allRows read (values.map toJson) = .ok values := by
  induction values with
  | nil => rfl
  | cons a values ih =>
    have hrest := ih fun b hb => h b (List.mem_cons_of_mem _ hb)
    rw [allRows] at hrest ⊢
    rw [List.map_cons, List.mapM_cons, checkRow_eq_ok_iff.2 (h a (List.mem_cons_self ..)), hrest]
    rfl

theorem firstRow_map {toJson : α → Json} {found : Option α}
    (h : ∀ a, found = some a → read (toJson a) = .valid a) :
    firstRow read (found.toList.map toJson) = .ok found := by
  cases found with
  | none => rfl
  | some a => exact firstRow_cons_eq_ok_iff.2 ⟨a, rfl, h a rfl⟩

end ComputeDirectory.Table
