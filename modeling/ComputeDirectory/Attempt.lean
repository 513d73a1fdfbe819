/-!
# Attempts

An attempt is a step on a state that may fail. What it wrote before it failed stays written: both
outcomes come with the state that they leave behind. The stores, the registry, the authentication
session and the service are all written as attempts, so a failure half way through an operation is
seen exactly where it strikes.
-/

namespace ComputeDirectory

/-- A step on a state `σ` that gives a value or fails with an `ε`, and leaves a state either way. -/
def Attempt (ε σ α : Type) : Type := σ → Except ε α × σ

namespace Attempt

variable {ε σ τ α β : Type}

/-- Gives a value and leaves the state alone. -/
protected def pure (a : α) : Attempt ε σ α := fun s => (.ok a, s)

/-- Goes on with the value; after a failure nothing more is done. -/
protected def bind (x : Attempt ε σ α) (f : α → Attempt ε σ β) : Attempt ε σ β := fun s =>
  match x s with
  | (.ok a, t) => f a t
  | (.error e, t) => (.error e, t)

instance : Monad (Attempt ε σ) where
  pure := Attempt.pure
  bind := Attempt.bind

/-- Fails and leaves the state alone. -/
def fail (e : ε) : Attempt ε σ α := fun s => (.error e, s)

/-- The state. -/
def get : Attempt ε σ σ := fun s => (.ok s, s)

/-- Puts another state in place. -/
def set (s : σ) : Attempt ε σ Unit := fun _ => (.ok (), s)

/-- Changes the state. -/
def modify (f : σ → σ) : Attempt ε σ Unit := fun s => (.ok (), f s)

/-- An outcome that needs no state. -/
def ofExcept (r : Except ε α) : Attempt ε σ α := fun s => (r, s)

/-- Renames the failures. -/
def mapError {δ : Type} (f : ε → δ) (x : Attempt ε σ α) : Attempt δ σ α := fun s =>
  match x s with
  | (.ok a, t) => (.ok a, t)
  | (.error e, t) => (.error (f e), t)

/-- Does something with the state when the attempt fails; the failure stays. -/
def onFailure (x : Attempt ε σ α) (f : σ → σ) : Attempt ε σ α := fun s =>
  match x s with
  | (.ok a, t) => (.ok a, t)
  | (.error e, t) => (.error e, f t)

/-- Runs an attempt on a part of a larger state. -/
def within (part : τ → σ) (replace : σ → τ → τ) (x : Attempt ε σ α) : Attempt ε τ α := fun t =>
  let (r, s) := x (part t)
  (r, replace s t)

/-! ## What the steps do -/

@[simp] theorem pure_apply (a : α) (s : σ) : (pure a : Attempt ε σ α) s = (.ok a, s) := rfl

theorem bind_apply (x : Attempt ε σ α) (f : α → Attempt ε σ β) (s : σ) :
    (x >>= f) s = match x s with
      | (.ok a, t) => f a t
      | (.error e, t) => (.error e, t) := rfl

theorem bind_of_ok {x : Attempt ε σ α} {f : α → Attempt ε σ β} {s t : σ} {a : α}
    (h : x s = (.ok a, t)) : (x >>= f) s = f a t := by
  rw [bind_apply, h]

theorem bind_of_error {x : Attempt ε σ α} {f : α → Attempt ε σ β} {s t : σ} {e : ε}
    (h : x s = (.error e, t)) : (x >>= f) s = (.error e, t) := by
  rw [bind_apply, h]

@[simp] theorem fail_apply (e : ε) (s : σ) : (fail e : Attempt ε σ α) s = (.error e, s) := rfl

@[simp] theorem get_apply (s : σ) : (get : Attempt ε σ σ) s = (.ok s, s) := rfl

@[simp] theorem set_apply (s t : σ) : (set s : Attempt ε σ Unit) t = (.ok (), s) := rfl

@[simp] theorem modify_apply (f : σ → σ) (s : σ) :
    (modify f : Attempt ε σ Unit) s = (.ok (), f s) := rfl

@[simp] theorem ofExcept_apply (r : Except ε α) (s : σ) :
    (ofExcept r : Attempt ε σ α) s = (r, s) := rfl

end Attempt

end ComputeDirectory
