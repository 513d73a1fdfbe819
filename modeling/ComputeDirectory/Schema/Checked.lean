import ComputeDirectory.Schema.Issue

/-!
# Checking input and collecting every issue

`Checked α` is a value that passed all checks, or the issues that were found. Records are read
member by member with the applicative operations, and two faulty members give the issues of both, in
the order in which the members are declared. A record that lacks a time takes it from the clock;
when the clock shows none, that is no fault of the input, and no issues are reported.
-/

namespace ComputeDirectory.Schema

/-- A checked value, or everything that is wrong with the input. -/
inductive Checked (α : Type)
  | valid (value : α)
  | invalid (issues : List Issue)
  /-- A time that the input lacks cannot be taken from the clock. -/
  | untimed (fault : Moment.Fault)
  deriving Repr

namespace Checked

variable {α β : Type}

/-- Changes a valid value. -/
def map (f : α → β) : Checked α → Checked β
  | valid a => valid (f a)
  | invalid issues => invalid issues
  | untimed fault => untimed fault

/-- Applies a checked function; the issues of both sides are kept, those of the function first. -/
def seq (f : Checked (α → β)) (x : Unit → Checked α) : Checked β :=
  match f, x () with
  | untimed fault, _ => untimed fault
  | _, untimed fault => untimed fault
  | valid g, valid a => valid (g a)
  | valid _, invalid issues => invalid issues
  | invalid issues, valid _ => invalid issues
  | invalid first, invalid second => invalid (first ++ second)

instance : Applicative Checked where
  pure := valid
  map := map
  seq := seq

/-- A single issue with the value itself. -/
def fault (problem : Problem) : Checked α := invalid [⟨[], problem⟩]

/-- Goes on with a further check that looks at the valid value. -/
def andThen (x : Checked α) (f : α → Checked β) : Checked β :=
  match x with
  | valid a => f a
  | invalid issues => invalid issues
  | untimed fault => untimed fault

/-- Moves the issues to a part of a larger value. -/
def under (place : Place) : Checked α → Checked α
  | valid a => valid a
  | invalid issues => invalid (issues.map fun i => { i with path := place :: i.path })
  | untimed fault => untimed fault

/-- The value, if it is valid. -/
def toOption : Checked α → Option α
  | valid a => some a
  | invalid _ => none
  | untimed _ => none

@[simp] theorem pure_eq (a : α) : (pure a : Checked α) = valid a := rfl

@[simp] theorem map_valid (f : α → β) (a : α) : f <$> valid a = valid (f a) := rfl

@[simp] theorem seq_valid (f : α → β) (a : α) : valid f <*> valid a = valid (f a) := rfl

end Checked

end ComputeDirectory.Schema
