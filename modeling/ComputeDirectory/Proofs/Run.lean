/-!
# Runs

A machine takes an input in a state, tells what happens and leaves another state. A run is what
happens when it takes one input after the other. Runs of parts of the input can be joined, and what
holds at the start and is kept by every input holds after every run (`steps_induction`); that
statement may look back at all that happened.
-/

namespace ComputeDirectory.Run

variable {κ σ τ : Type} (machine : κ → σ → τ × σ)

/-- What happens in a run, the oldest first. -/
def steps : List κ → σ → List τ
  | [], _ => []
  | input :: inputs, s => (machine input s).1 :: steps inputs (machine input s).2

/-- The state that a run leaves. -/
def final : List κ → σ → σ
  | [], s => s
  | input :: inputs, s => final inputs (machine input s).2

theorem final_append (before after : List κ) (s : σ) :
    final machine (before ++ after) s = final machine after (final machine before s) := by
  induction before generalizing s with
  | nil => rfl
  | cons input before ih => exact ih _

/-- All that happens in a run comes of an input in some state. -/
theorem exists_of_mem_steps {inputs : List κ} {s : σ} {t : τ} (h : t ∈ steps machine inputs s) :
    ∃ input ∈ inputs, ∃ s', t = (machine input s').1 := by
  induction inputs generalizing s with
  | nil => cases h
  | cons input inputs ih =>
    rcases List.mem_cons.1 h with rfl | h
    · exact ⟨input, List.mem_cons_self .., s, rfl⟩
    · obtain ⟨later, hlater, s', ht⟩ := ih h
      exact ⟨later, List.mem_cons_of_mem _ hlater, s', ht⟩

/-- What holds at the start, and is kept by every input, holds after every run. It may look back at
what happened. -/
theorem steps_induction {P : List τ → σ → Prop} {s : σ} (hstart : P [] s)
    (hstep : ∀ past s input, P past s → P (past ++ [(machine input s).1]) (machine input s).2)
    (inputs : List κ) : P (steps machine inputs s) (final machine inputs s) := by
  -- the run may start anywhere in the middle of a longer one, whose past is carried along
  suffices h : ∀ past s, P past s →
      P (past ++ steps machine inputs s) (final machine inputs s) from h [] s hstart
  clear hstart s
  induction inputs with
  | nil =>
    intro past s hpast
    rwa [steps, List.append_nil]
  | cons input inputs ih =>
    intro past s hpast
    have hrest := ih (past ++ [(machine input s).1]) _ (hstep past s input hpast)
    rwa [List.append_assoc] at hrest

/-- An invariant that does not look back holds after every run. -/
theorem final_induction {P : σ → Prop} {s : σ} (hstart : P s)
    (hstep : ∀ s input, P s → P (machine input s).2) (inputs : List κ) :
    P (final machine inputs s) :=
  steps_induction machine (P := fun _ => P) hstart (fun _ => hstep) inputs

end ComputeDirectory.Run
