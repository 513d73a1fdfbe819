import ComputeDirectory.Attempt

/-!
# Reasoning about attempts

Ways to say what attempts do, all of which follow the steps of an attempt. `Keeps` is about one
attempt: whether it succeeds or fails, an invariant of the state survives, and what it gives has a
property. `Spares` is about what is left of the state when an attempt comes to nothing; it is built
from steps that never change the state (`Quiet`) and steps that never fail that way (`Avoids`).
`Agrees` is about two attempts on states of different kinds: from related states they come to the
same outcome and to related states. `AgreesAt` says so of two given states; with it, what a step has
found in the first of them is known in the steps that follow.
-/

namespace ComputeDirectory.Attempt

variable {ε σ τ α β : Type}

/-- The attempt keeps an invariant of the state, and what it gives has a property. -/
def Keeps (I : σ → Prop) (Q : α → Prop) (x : Attempt ε σ α) : Prop :=
  ∀ s, I s → I (x s).2 ∧ ∀ a, (x s).1 = .ok a → Q a

/-- Two attempts come to the same outcome from two given states, and leave related states. -/
def AgreesAt (R : σ → τ → Prop) (x : Attempt ε σ α) (y : Attempt ε τ α) (s : σ) (t : τ) : Prop :=
  (x s).1 = (y t).1 ∧ R (x s).2 (y t).2

/-- Two attempts come to the same outcome from related states, and leave related states. -/
def Agrees (R : σ → τ → Prop) (x : Attempt ε σ α) (y : Attempt ε τ α) : Prop :=
  ∀ s t, R s t → (x s).1 = (y t).1 ∧ R (x s).2 (y t).2

theorem map_apply (f : α → β) (x : Attempt ε σ α) (s : σ) :
    (f <$> x) s = ((x s).1.map f, (x s).2) := by
  show (x >>= fun a => Pure.pure (f a)) s = _
  rw [bind_apply]
  rcases x s with ⟨_ | a, t⟩ <;> rfl

/-- Two steps end with the failure of the first one, or with the second one. -/
theorem bind_cases {x : Attempt ε σ α} {f : α → Attempt ε σ β} {s t : σ} {outcome : Except ε β}
    (h : (x >>= f) s = (outcome, t)) :
    (∃ e, x s = (.error e, t) ∧ outcome = .error e) ∨
      ∃ a u, x s = (.ok a, u) ∧ f a u = (outcome, t) := by
  cases hx : x s with
  | mk first u =>
    cases first with
    | error e =>
      rw [bind_of_error hx] at h
      cases h
      exact .inl ⟨e, rfl, rfl⟩
    | ok a =>
      rw [bind_of_ok hx] at h
      exact .inr ⟨a, u, rfl, h⟩

/-! ## One attempt -/

namespace Keeps

variable {I : σ → Prop} {Q : α → Prop} {P : β → Prop}

theorem pure {a : α} (h : Q a) : Keeps I Q (Pure.pure a : Attempt ε σ α) := by
  intro s hs
  refine ⟨hs, ?_⟩
  rintro b ⟨⟩
  exact h

theorem fail (e : ε) : Keeps I Q (Attempt.fail e : Attempt ε σ α) := by
  intro s hs
  refine ⟨hs, ?_⟩
  rintro b ⟨⟩

theorem ofExcept {r : Except ε α} (h : ∀ a, r = .ok a → Q a) :
    Keeps I Q (Attempt.ofExcept r : Attempt ε σ α) :=
  fun _ hs => ⟨hs, h⟩

theorem modify {f : σ → σ} (h : ∀ s, I s → I (f s)) :
    Keeps I (fun _ => True) (Attempt.modify f : Attempt ε σ Unit) :=
  fun s hs => ⟨h s hs, fun _ _ => True.intro⟩

/-- Where a first step succeeds, the next one starts from the same invariant. -/
theorem bind {x : Attempt ε σ α} {f : α → Attempt ε σ β} (hx : Keeps I Q x)
    (hf : ∀ a, Q a → Keeps I P (f a)) : Keeps I P (x >>= f) := by
  intro s hs
  obtain ⟨hkept, hgiven⟩ := hx s hs
  cases hstep : x s with
  | mk outcome t =>
    rw [hstep] at hkept hgiven
    cases outcome with
    | ok a =>
      rw [bind_of_ok hstep]
      exact hf a (hgiven a rfl) t hkept
    | error e =>
      rw [bind_of_error hstep]
      refine ⟨hkept, ?_⟩
      rintro b ⟨⟩

theorem map {x : Attempt ε σ α} {f : α → β} (h : Keeps I Q x) (hf : ∀ a, Q a → P (f a)) :
    Keeps I P (f <$> x) :=
  bind h fun a ha => pure (hf a ha)

/-- Of an attempt that anything may come of, nothing is claimed. -/
theorem trivial (x : Attempt ε σ α) : Keeps (fun _ => True) (fun _ => True) x :=
  fun _ _ => ⟨True.intro, fun _ _ => True.intro⟩

/-- An attempt on the first half of a state leaves the second half alone. -/
theorem within_fst {J : τ → Prop} {x : Attempt ε σ α} (h : Keeps I Q x) :
    Keeps (fun t => I t.1 ∧ J t.2) Q (x.within Prod.fst fun s (t : σ × τ) => (s, t.2)) := by
  rintro ⟨s, t⟩ ⟨hs, ht⟩
  obtain ⟨hkept, hgiven⟩ := h s hs
  exact ⟨⟨hkept, ht⟩, hgiven⟩

end Keeps

/-! ## Attempts that come to nothing -/

/-- The attempt leaves the state alone, whatever comes of it. -/
def Quiet (x : Attempt ε σ α) : Prop := ∀ s, (x s).2 = s

/-- The attempt never fails in a given way. -/
def Avoids (E : ε → Prop) (x : Attempt ε σ α) : Prop := ∀ s e, (x s).1 = .error e → ¬ E e

/-- The attempt leaves the state alone when it fails in a given way, or gives a value of a given
kind. -/
def Spares (E : ε → Prop) (Q : α → Prop) (x : Attempt ε σ α) : Prop :=
  ∀ s, (∀ e, (x s).1 = .error e → E e → (x s).2 = s) ∧ ∀ a, (x s).1 = .ok a → Q a → (x s).2 = s

namespace Quiet

theorem pure (a : α) : Quiet (Pure.pure a : Attempt ε σ α) := fun _ => rfl

theorem fail (e : ε) : Quiet (Attempt.fail e : Attempt ε σ α) := fun _ => rfl

theorem ofExcept (r : Except ε α) : Quiet (Attempt.ofExcept r : Attempt ε σ α) := fun _ => rfl

theorem bind {x : Attempt ε σ α} {f : α → Attempt ε σ β} (hx : Quiet x) (hf : ∀ a, Quiet (f a)) :
    Quiet (x >>= f) := by
  intro s
  have hleft := hx s
  cases hstep : x s with
  | mk outcome t =>
    rw [hstep] at hleft
    subst hleft
    cases outcome with
    | ok a =>
      rw [bind_of_ok hstep]
      exact hf a t
    | error e => rw [bind_of_error hstep]

theorem map {x : Attempt ε σ α} (f : α → β) (hx : Quiet x) : Quiet (f <$> x) :=
  bind hx fun a => pure (f a)

/-- On a part of a larger state that can be put back where it came from. -/
theorem within {part : τ → σ} {replace : σ → τ → τ} (hback : ∀ t, replace (part t) t = t)
    {x : Attempt ε σ α} (hx : Quiet x) : Quiet (x.within part replace) := by
  intro t
  show replace (x (part t)).2 t = t
  rw [hx, hback]

theorem spares {x : Attempt ε σ α} (hx : Quiet x) (E : ε → Prop) (Q : α → Prop) : Spares E Q x :=
  fun s => ⟨fun _ _ _ => hx s, fun _ _ _ => hx s⟩

end Quiet

namespace Avoids

variable {E : ε → Prop}

theorem pure (a : α) : Avoids E (Pure.pure a : Attempt ε σ α) := by
  rintro s e ⟨⟩

theorem ofExcept {r : Except ε α} (h : ∀ e, r = .error e → ¬ E e) :
    Avoids E (Attempt.ofExcept r : Attempt ε σ α) :=
  fun _ => h

theorem bind {x : Attempt ε σ α} {f : α → Attempt ε σ β} (hx : Avoids E x)
    (hf : ∀ a, Avoids E (f a)) : Avoids E (x >>= f) := by
  intro s e h
  have hoverall : (x >>= f) s = (.error e, ((x >>= f) s).2) := by rw [← h]
  rcases bind_cases hoverall with ⟨e', hfirst, herror⟩ | ⟨a, u, -, hrest⟩
  · cases herror
    exact hx s e (by rw [hfirst])
  · exact hf a u e (by rw [hrest])

theorem within (part : τ → σ) (replace : σ → τ → τ) {x : Attempt ε σ α} (hx : Avoids E x) :
    Avoids E (x.within part replace) :=
  fun t e h => hx (part t) e h

theorem spares {x : Attempt ε σ α} (hx : Avoids E x) : Spares E (fun _ => False) x :=
  fun s => ⟨fun e h he => absurd he (hx s e h), fun _ _ h => h.elim⟩

end Avoids

namespace Spares

variable {E : ε → Prop} {Q : α → Prop} {P : β → Prop}

/-- A first step that leaves the state alone makes no difference. -/
theorem bind {x : Attempt ε σ α} {f : α → Attempt ε σ β} (hx : Quiet x)
    (hf : ∀ a, Spares E P (f a)) : Spares E P (x >>= f) := by
  intro s
  have hleft := hx s
  cases hstep : x s with
  | mk outcome t =>
    rw [hstep] at hleft
    subst hleft
    cases outcome with
    | ok a =>
      rw [bind_of_ok hstep]
      exact hf a t
    | error e =>
      rw [bind_of_error hstep]
      exact ⟨fun _ _ _ => rfl, fun _ _ _ => rfl⟩

theorem within {part : τ → σ} {replace : σ → τ → τ} (hback : ∀ t, replace (part t) t = t)
    {x : Attempt ε σ α} (hx : Spares E Q x) : Spares E Q (x.within part replace) := by
  intro t
  obtain ⟨herror, hok⟩ := hx (part t)
  refine ⟨fun e h he => ?_, fun a h ha => ?_⟩
  · show replace (x (part t)).2 t = t
    rw [herror e h he, hback]
  · show replace (x (part t)).2 t = t
    rw [hok a h ha, hback]

end Spares

/-! ## Two attempts -/

namespace AgreesAt

variable {R : σ → τ → Prop} {s : σ} {t : τ}

theorem pure (h : R s t) (a : α) :
    AgreesAt R (Pure.pure a : Attempt ε σ α) (Pure.pure a) s t := ⟨rfl, h⟩

theorem fail (h : R s t) (e : ε) :
    AgreesAt R (Attempt.fail e : Attempt ε σ α) (Attempt.fail e) s t := ⟨rfl, h⟩

theorem bind {x : Attempt ε σ α} {y : Attempt ε τ α} {f : α → Attempt ε σ β}
    {g : α → Attempt ε τ β} (hxy : AgreesAt R x y s t)
    (hfg : ∀ a s' t', x s = (.ok a, s') → R s' t' → AgreesAt R (f a) (g a) s' t') :
    AgreesAt R (x >>= f) (y >>= g) s t := by
  obtain ⟨houtcome, hleft⟩ := hxy
  rw [AgreesAt]
  cases hx : x s with
  | mk outcome s' =>
    cases hy : y t with
    | mk outcome' t' =>
      rw [hx, hy] at houtcome hleft
      cases houtcome
      cases outcome with
      | ok a =>
        rw [bind_of_ok hx, bind_of_ok hy]
        exact hfg a s' t' hx hleft
      | error e =>
        rw [bind_of_error hx, bind_of_error hy]
        exact ⟨rfl, hleft⟩

theorem map {x : Attempt ε σ α} {y : Attempt ε τ α} (f : α → β) (h : AgreesAt R x y s t) :
    AgreesAt R (f <$> x) (f <$> y) s t :=
  bind h fun a _ _ _ hleft => pure hleft (f a)

theorem ofExcept_bind {r : Except ε α} {f : α → Attempt ε σ β} {g : α → Attempt ε τ β}
    (hst : R s t) (hfg : ∀ a, r = .ok a → AgreesAt R (f a) (g a) s t) :
    AgreesAt R (Attempt.ofExcept r >>= f) (Attempt.ofExcept r >>= g) s t := by
  cases r with
  | ok a => exact hfg a rfl
  | error e => exact ⟨rfl, hst⟩

end AgreesAt

namespace Agrees

variable {R : σ → τ → Prop}

theorem pure (a : α) : Agrees R (Pure.pure a : Attempt ε σ α) (Pure.pure a) :=
  fun _ _ h => ⟨rfl, h⟩

theorem fail (e : ε) : Agrees R (Attempt.fail e : Attempt ε σ α) (Attempt.fail e) :=
  fun _ _ h => ⟨rfl, h⟩

theorem ofExcept (r : Except ε α) :
    Agrees R (Attempt.ofExcept r : Attempt ε σ α) (Attempt.ofExcept r) :=
  fun _ _ h => ⟨rfl, h⟩

theorem bind {x : Attempt ε σ α} {y : Attempt ε τ α} {f : α → Attempt ε σ β}
    {g : α → Attempt ε τ β} (hxy : Agrees R x y) (hfg : ∀ a, Agrees R (f a) (g a)) :
    Agrees R (x >>= f) (y >>= g) :=
  fun s t hst => AgreesAt.bind (hxy s t hst) fun a s' t' _ hleft => hfg a s' t' hleft

theorem map {x : Attempt ε σ α} {y : Attempt ε τ α} (f : α → β) (h : Agrees R x y) :
    Agrees R (f <$> x) (f <$> y) :=
  bind h fun a => pure (f a)

end Agrees

end ComputeDirectory.Attempt
