import ComputeDirectory.Proofs.Registry.Locality

/-!
# Providers do not interfere

What becomes of one provider in a run depends on the calls that concern it alone: those that are
addressed to it, and the searches for silent providers. The calls to other providers may be dropped
from the run, and no reply about the provider changes, nor its record, nor its history.

The proof follows two runs at once. The invariant is that their shelves agree on the one provider,
whatever else they hold; a call that concerns it is made in both runs and looks only at what they
agree on, and any other call is made in one of them and leaves the provider alone
(`sameFor_of_filter_eq`). It compares any two runs with the same calls to a provider, so it also
says that neighbouring calls to different providers may be exchanged.
-/

namespace ComputeDirectory.Registry

open Provider (Registration)

/-! ## What is seen of one provider -/

/-- Two shelves hold the same about a provider. -/
structure Shelf.AgreeOn (id : Text) (s t : Shelf) : Prop where
  record : s.providers.get? id = t.providers.get? id
  history : s.history id = t.history id

/-- A step as one provider sees it: when the call was made, the call, and what of the reply is about
the provider. -/
def Step.report (id : Text) (step : Step Shelf) : Moment × Call × Except Failure Reply :=
  (step.now, step.call, step.outcome.map (Reply.seenBy id))

/-- What a provider sees of a run in memory. -/
def reports (p : Policy) (id : Text) (calls : List (Moment × Call)) (s : Shelf) :
    List (Moment × Call × Except Failure Reply) :=
  ((steps p (fun _ => shelfStore) calls s).filter (·.call.concerns id)).map (Step.report id)

/-- Two runs in memory come to the same for a provider. -/
structure SameFor (p : Policy) (id : Text) (calls calls' : List (Moment × Call)) : Prop where
  reports : reports p id calls .empty = reports p id calls' .empty
  left : (final p (fun _ => shelfStore) calls .empty).AgreeOn id
    (final p (fun _ => shelfStore) calls' .empty)

/-! ## Two runs with the same calls to a provider -/

section

variable {p : Policy} {id : Text} {s t : Shelf} {now : Moment} {call : Call}

/-- A call that concerns a provider comes to the same for it on shelves that agree on it. -/
theorem agreeOn_perform (h : s.AgreeOn id t) (hs : s.IsTidy) (ht : t.IsTidy)
    (hcall : call.concerns id = true) :
    (perform shelfStore p now call s).1.map (Reply.seenBy id) =
        (perform shelfStore p now call t).1.map (Reply.seenBy id) ∧
      (perform shelfStore p now call s).2.AgreeOn id
        (perform shelfStore p now call t).2 := by
  obtain ⟨hseen, hrecord, hhistory⟩ := perform_share p now hcall hs
  obtain ⟨hseen', hrecord', hhistory'⟩ := perform_share p now hcall ht
  rw [← h.record] at hseen' hrecord' hhistory'
  rw [← h.history] at hhistory'
  exact ⟨hseen.trans hseen'.symm, hrecord.trans hrecord'.symm, hhistory.trans hhistory'.symm⟩

/-- A call that does not concern a provider may be made on one of two shelves that agree on it. -/
theorem agreeOn_perform_left (h : s.AgreeOn id t) (hs : s.IsTidy)
    (hcall : call.concerns id = false) : (perform shelfStore p now call s).2.AgreeOn id t := by
  obtain ⟨hrecord, hhistory⟩ := perform_of_not_concerns p now hcall hs
  exact ⟨hrecord.trans h.record, hhistory.trans h.history⟩

theorem reports_cons_of_concerns (hcall : call.concerns id = true)
    (calls : List (Moment × Call)) (s : Shelf) :
    reports p id ((now, call) :: calls) s =
      (now, call, (perform shelfStore p now call s).1.map (Reply.seenBy id)) ::
        reports p id calls (perform shelfStore p now call s).2 := by
  have hkept : (stepOf p shelfStore now call s).call.concerns id = true := hcall
  rw [reports, steps, List.filter_cons, if_pos hkept]
  rfl

theorem reports_cons_of_not_concerns (hcall : call.concerns id = false)
    (calls : List (Moment × Call)) (s : Shelf) :
    reports p id ((now, call) :: calls) s =
      reports p id calls (perform shelfStore p now call s).2 := by
  have hdropped : ¬ (stepOf p shelfStore now call s).call.concerns id = true :=
    Bool.not_eq_true _ |>.mpr hcall
  rw [reports, steps, List.filter_cons, if_neg hdropped]
  rfl

/-- The calls that do not concern a provider may be dropped from a run. -/
theorem run_filter (p : Policy) (h : s.AgreeOn id t) (hs : s.IsTidy) (ht : t.IsTidy)
    (calls : List (Moment × Call)) :
    reports p id calls s = reports p id (calls.filter (·.2.concerns id)) t ∧
      (final p (fun _ => shelfStore) calls s).AgreeOn id
        (final p (fun _ => shelfStore) (calls.filter (·.2.concerns id)) t) := by
  -- on the calls; the shelves move apart, but stay tidy and agree on the provider
  induction calls generalizing s t with
  | nil => exact ⟨rfl, h⟩
  | cons first calls ih =>
    obtain ⟨now, call⟩ := first
    cases hcall : call.concerns id with
    | true =>
      obtain ⟨hseen, hafter⟩ := agreeOn_perform (p := p) h hs ht hcall
      obtain ⟨hreports, hleft⟩ :=
        ih hafter (isTidy_perform p now hs call) (isTidy_perform p now ht call)
      simp only [List.filter_cons, hcall, if_true]
      rw [reports_cons_of_concerns hcall, reports_cons_of_concerns hcall, hseen, hreports]
      exact ⟨rfl, hleft⟩
    | false =>
      obtain ⟨hreports, hleft⟩ := ih (agreeOn_perform_left h hs hcall)
        (isTidy_perform p now hs call) ht
      simp only [List.filter_cons, hcall, Bool.false_eq_true, if_false]
      rw [reports_cons_of_not_concerns hcall, hreports]
      exact ⟨rfl, hleft⟩

end

/-! ## Main statement -/

section

variable {p : Policy} {id : Text} {calls calls' : List (Moment × Call)}

theorem sameFor_filter (p : Policy) (id : Text) (calls : List (Moment × Call)) :
    SameFor p id calls (calls.filter (·.2.concerns id)) := by
  have hempty : Shelf.empty.AgreeOn id .empty := ⟨rfl, rfl⟩
  obtain ⟨hreports, hleft⟩ := run_filter p hempty Shelf.isTidy_empty Shelf.isTidy_empty calls
  exact ⟨hreports, hleft⟩

/-- Runs with the same calls to a provider come to the same for it. -/
theorem sameFor_of_filter_eq
    (h : calls.filter (·.2.concerns id) = calls'.filter (·.2.concerns id)) :
    SameFor p id calls calls' := by
  have hfirst := sameFor_filter p id calls
  have hsecond := sameFor_filter p id calls'
  rw [h] at hfirst
  refine ⟨hfirst.reports.trans hsecond.reports.symm, ?_, ?_⟩
  · exact hfirst.left.record.trans hsecond.left.record.symm
  · exact hfirst.left.history.trans hsecond.left.history.symm

/-- Two calls that are addressed to different providers. -/
def Call.Apart (a b : Call) : Prop :=
  ∃ x y, a.provider? = some x ∧ b.provider? = some y ∧ x ≠ y

/-- No provider is concerned by two calls to different ones, so none sees in which order they are
made. -/
theorem filter_concerns_swap {a b : Moment × Call} (hapart : Call.Apart a.2 b.2) (id : Text)
    (before after : List (Moment × Call)) :
    (before ++ a :: b :: after).filter (·.2.concerns id) =
      (before ++ b :: a :: after).filter (·.2.concerns id) := by
  obtain ⟨x, y, ha, hb, hne⟩ := hapart
  have hconcerns : ∀ {call : Call} {z}, call.provider? = some z →
      call.concerns id = decide (z = id) := by
    intro call z hz
    rw [Call.concerns, hz, Option.all_some]
  simp only [List.filter_append, List.filter_cons, hconcerns ha, hconcerns hb]
  by_cases hx : x = id
  · have hy : ¬ y = id := fun hy => hne (hx.trans hy.symm)
    simp only [hx, hy, decide_true, decide_false, Bool.false_eq_true, if_true, if_false]
  · simp only [hx, decide_false, Bool.false_eq_true, if_false]

/-- Providers do not interfere: for any one of them, a run in memory comes to the same when all calls
to others are dropped. So calls to different providers commute: when two neighbouring ones are
exchanged, a run comes to the same for every provider. -/
theorem providers_independent (p : Policy) :
    (∀ calls id, SameFor p id calls (calls.filter (·.2.concerns id))) ∧
      ∀ before a b after, Call.Apart a.2 b.2 → ∀ id,
        SameFor p id (before ++ a :: b :: after) (before ++ b :: a :: after) := by
  refine ⟨fun calls id => sameFor_filter p id calls, ?_⟩
  intro before a b after hapart id
  exact sameFor_of_filter_eq (filter_concerns_swap hapart id before after)

/-- Two providers register. -/
def sampleNewcomers : List (Moment × Call) :=
  [(0, .register ⟨"gpu", none, none, .none, .hundred, none⟩),
    (1, .register ⟨"cpu", none, none, .none, .hundred, none⟩)]

/-- The last second of the calendar, as a clock shows it that is an hour behind UTC. -/
def sampleLastSecond : Moment × Int := (253402300799000000, -3600000000)

/-- One provider gains while the other one is busy; then both are silent at a time that UTC has no
date for. -/
theorem providers_independent_sample :
    Call.Apart (.applyDelta "gpu" .hundred none none) (.updateStatus "cpu" .busy) ∧
      SameFor ⟨60, .nan⟩ "gpu"
        (sampleNewcomers ++ (2, .applyDelta "gpu" .hundred none none) ::
          (3, .updateStatus "cpu" .busy) :: [(4, .markStale (some sampleLastSecond))])
        (sampleNewcomers ++ (3, .updateStatus "cpu" .busy) ::
          (2, .applyDelta "gpu" .hundred none none) :: [(4, .markStale (some sampleLastSecond))]) := by
  have hapart : Call.Apart (.applyDelta "gpu" .hundred none none) (.updateStatus "cpu" .busy) :=
    ⟨"gpu", "cpu", rfl, rfl, by decide⟩
  exact ⟨hapart, (providers_independent _).2 _ (2, _) (3, _) _ hapart "gpu"⟩

end

end ComputeDirectory.Registry
