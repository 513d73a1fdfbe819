import ComputeDirectory.Attempt
import ComputeDirectory.Json.Basic

/-!
# Statements to a hosted table service

A statement asks the service for one thing. Its `calls` are the steps in which a client builds the
statement up and has it executed; a service that logs them shows what was asked, and in which order.

A `Backend` is any such service: it answers a statement with rows, or fails with a message, and has
a stopwatch by which its response time is measured.
-/

namespace ComputeDirectory.Table

/-- What is asked of the service. -/
inductive Statement
  /-- The columns of the rows whose column has a value, in the order of a column, up to a limit. -/
  | select (table columns : String) (equals : Option (String × Text)) (order : Option String)
      (limit : Option Nat)
  /-- Inserts a row, or replaces the row with the same identifying column. -/
  | upsert (table : String) (row : Json) (onConflict : Option String)
  /-- Inserts a row. -/
  | insert (table : String) (row : Json)
  /-- Deletes the rows whose column has a value. -/
  | delete (table column : String) (value : Text)
  deriving Repr

/-- A step in which a statement is built up. -/
structure Call where
  name : String
  arguments : List Json
  options : List (String × Json)
  deriving Repr

/-- A step without options. -/
def Call.plain (name : String) (arguments : List Json) : Call := ⟨name, arguments, []⟩

/-- The steps of a statement, the last of which has it executed. -/
def Statement.calls : Statement → List Call
  | .select table columns equals order limit =>
    [.plain "table" [.str table], .plain "select" [.str columns]] ++
      (equals.toList.map fun e => .plain "eq" [.str e.1, .str e.2]) ++
      (order.toList.map fun (column : String) => .plain "order" [.str column]) ++
      (limit.toList.map fun n => .plain "limit" [.int n]) ++ [.plain "execute" []]
  | .upsert table row onConflict =>
    [.plain "table" [.str table],
      ⟨"upsert", [row],
        onConflict.toList.map fun (column : String) => ("on_conflict", .str column)⟩,
      .plain "execute" []]
  | .insert table row =>
    [.plain "table" [.str table], .plain "insert" [row], .plain "execute" []]
  | .delete table column value =>
    [.plain "table" [.str table], .plain "delete" [], .plain "eq" [.str column, .str value],
      .plain "execute" []]

/-- A table service whose state is a `τ`. -/
structure Backend (τ : Type) where
  /-- Executes a statement; a failure comes with a message. -/
  execute : Statement → Attempt Text τ (List Json)
  /-- Reads the stopwatch, in seconds. -/
  stopwatch : τ → Binary64 × τ

/-! ## A scripted service -/

/-- What a scripted service answers next. -/
inductive Reply
  | rows (rows : List Json)
  | failure (message : Text)
  deriving Repr

/-- The state of a scripted service. -/
structure Script where
  /-- What is still to be answered; afterwards there are no rows. -/
  replies : List Reply
  /-- What the stopwatch is still to show; afterwards it shows zero. -/
  readings : List Binary64
  /-- The statements that were executed, the latest first. -/
  executed : List Statement

/-- A service that answers from a script and keeps a log. -/
def scripted : Backend Script where
  execute statement := fun s =>
    let t := { s with executed := statement :: s.executed, replies := s.replies.drop 1 }
    match s.replies.head? with
    | some (.rows rows) => (.ok rows, t)
    | some (.failure message) => (.error message, t)
    | none => (.ok [], t)
  stopwatch s := (s.readings.head?.getD .zero, { s with readings := s.readings.drop 1 })

/-- The calls in the log, the earliest first. -/
def Script.calls (s : Script) : List Call := s.executed.reverse.flatMap Statement.calls

end ComputeDirectory.Table
