import ComputeDirectory.Proofs.Registry.Locality

/-!
# The history explains the score

In memory, what was entered in the history of a provider since it was last created is, in order, one
change for each change of its reputation that succeeded, and these lead from the score with which it
was created to the score that it has now: `history_explains`. What was entered before belongs to
earlier lives of the provider, which ended when it was removed.

The induction is on the run. A call can do four things to a provider (`Step.Course`), and only a
success enters a change. Runs are those of a clock that shows moments of the calendar, as the clocks
of systems do; then no change of reputation ends half way.
-/

namespace ComputeDirectory.Registry

open Provider (Record Registration ReputationChange clampReputation)

/-! ## Chains of scores -/

/-- Changes lead from one score to another: each starts from the score that the one before it left,
and leaves the sum with its delta, kept in range. -/
def Leads : Binary64 → List ReputationChange → Binary64 → Prop
  | first, [], last => last = first
  | first, c :: cs, last =>
    c.oldScore = first ∧ c.newScore = clampReputation (c.oldScore.add c.delta) ∧
      Leads c.newScore cs last

/-- One more change leads on from where a chain has led to. -/
theorem Leads.concat {first last : Binary64} {cs : List ReputationChange} (h : Leads first cs last)
    {c : ReputationChange} (hold : c.oldScore = last)
    (hnew : c.newScore = clampReputation (c.oldScore.add c.delta)) :
    Leads first (cs ++ [c]) c.newScore := by
  induction cs generalizing first with
  | nil =>
    have hfirst : last = first := h
    exact ⟨hold.trans hfirst, hnew, rfl⟩
  | cons b cs ih =>
    obtain ⟨hb, hsum, hrest⟩ := h
    exact ⟨hb, hsum, ih hrest⟩

/-! ## What a step does to a score -/

/-- Whether a call is to change the reputation of a provider. -/
def Call.rescores (id : Text) : Call → Bool
  | .applyDelta target _ _ _ => target = id
  | .register _ | .deregister _ | .updateStatus _ _ | .heartbeat _ _ | .markStale _ => false

/-- Whether a step changed the reputation of a provider with success. -/
def Step.rescores (id : Text) (step : Step Shelf) : Bool :=
  step.call.rescores id && step.outcome.isOk

/-- The step registered a provider of which there was no record, and stored one. -/
structure Step.Creates (id : Text) (step : Step Shelf) (created : Record) : Prop where
  call : ∃ r, step.call = .register r ∧ r.id = id
  before : step.before.providers.get? id = none
  after : step.after.providers.get? id = some created

/-- The change is the one that a successful change of the reputation of a provider is to enter: from
the score that was stored to the one that was returned. -/
structure Step.Entered (id : Text) (step : Step Shelf) (c : ReputationChange) : Prop where
  call : step.call = .applyDelta id c.delta c.reason c.jobId
  provider : c.providerId = id
  before : ∃ old, step.before.providers.get? id = some old ∧ c.oldScore = old.reputation
  outcome : ∃ new, step.outcome = .ok (.record new) ∧ c.newScore = new.reputation
  new_score : c.newScore = clampReputation (c.oldScore.add c.delta)
  time : c.timestamp = .utc step.now

/-- What a step does to a provider. -/
inductive Step.Course (id : Text) (step : Step Shelf) : Prop
  | removed (after : step.after.providers.get? id = none)
  | created {r : Record} (creates : step.Creates id r)
  /-- The score and the history stay what they are. -/
  | kept {old r : Record} (before : step.before.providers.get? id = some old)
      (after : step.after.providers.get? id = some r) (score : r.reputation = old.reputation)
      (history : step.after.history id = step.before.history id)
      (idle : step.rescores id = false)
  | entered {old r : Record} {c : ReputationChange}
      (before : step.before.providers.get? id = some old)
      (after : step.after.providers.get? id = some r) (entry : step.Entered id c)
      (score : r.reputation = c.newScore)
      (history : step.after.history id = step.before.history id ++ [c])
      (done : step.rescores id = true)

section

variable {id : Text} {p : Policy} {now : Moment} {call : Call} {s : Shelf}

theorem Call.rescores_eq_false_of_not_concerns (h : call.concerns id = false) :
    call.rescores id = false := by
  cases call with
  | applyDelta target delta reason jobId => exact h
  | register r => rfl
  | deregister target => rfl
  | updateStatus target status => rfl
  | heartbeat target status => rfl
  | markStale given => rfl

theorem Step.rescores_eq_false {step : Step Shelf} (h : step.call.rescores id = false) :
    step.rescores id = false := by
  rw [Step.rescores, h, Bool.false_and]

/-- A call that does not concern a provider keeps its score and its history. -/
theorem course_of_not_concerns (hs : s.IsTidy) (hcall : call.concerns id = false) :
    (stepOf p shelfStore now call s).Course id := by
  obtain ⟨hrecord, hhistory⟩ := perform_of_not_concerns p now hcall hs
  cases hget : s.providers.get? id with
  | none => exact .removed (hrecord.trans hget)
  | some old =>
    exact .kept hget (hrecord.trans hget) rfl hhistory
      (Step.rescores_eq_false (Call.rescores_eq_false_of_not_concerns hcall))

theorem Step.rescores_eq_false_of_error {step : Step Shelf} {f : Failure}
    (h : step.outcome = .error f) : step.rescores id = false := by
  rw [Step.rescores, h]
  exact Bool.and_false _

/-- A call keeps the score of a provider when its share stores a record with the same score and
enters nothing. -/
theorem course_of_share_keeps (hs : s.IsTidy) (hcall : call.concerns id = true) {old r : Record}
    (hget : s.providers.get? id = some old)
    (hrecord : (call.share p now id (some old)).record? = some r)
    (hscore : r.reputation = old.reputation)
    (hentered : (call.share p now id (some old)).entered = [])
    (hidle : (stepOf p shelfStore now call s).rescores id = false) :
    (stepOf p shelfStore now call s).Course id := by
  obtain ⟨-, hafter, hhistory⟩ := perform_share p now hcall hs
  rw [hget] at hafter hhistory
  rw [hentered, List.append_nil] at hhistory
  exact .kept hget (hafter.trans hrecord) hscore hhistory hidle

/-- After a call that leaves no record of a provider there is none. -/
theorem course_of_share_removes (hs : s.IsTidy) (hcall : call.concerns id = true)
    (hrecord : (call.share p now id (s.providers.get? id)).record? = none) :
    (stepOf p shelfStore now call s).Course id :=
  .removed ((perform_share p now hcall hs).2.1.trans hrecord)

/-- A call that is refused keeps the score of a provider, or there is no provider. -/
theorem course_of_share_refused (hs : s.IsTidy) (hcall : call.concerns id = true) {f : Failure}
    (hshare : call.share p now id (s.providers.get? id) = .refused (s.providers.get? id) f) :
    (stepOf p shelfStore now call s).Course id := by
  cases hget : s.providers.get? id with
  | none =>
    refine course_of_share_removes hs hcall ?_
    rw [hshare]
    exact hget
  | some old =>
    have hseen := (perform_share p now hcall hs).1
    rw [hshare] at hseen
    have houtcome : (stepOf p shelfStore now call s).outcome = .error f := by
      have hmap : (perform shelfStore p now call s).1.map (Reply.seenBy id) = .error f := hseen
      cases houtcome : (perform shelfStore p now call s).1 with
      | error e =>
        rw [houtcome] at hmap
        exact houtcome.trans (congrArg _ (Except.error.inj hmap))
      | ok reply =>
        rw [houtcome] at hmap
        cases hmap
    rw [hget] at hshare
    refine course_of_share_keeps hs hcall hget ?_ rfl ?_ (Step.rescores_eq_false_of_error houtcome)
    · rw [hshare]
      rfl
    · rw [hshare]
      rfl

theorem course_register (hs : s.IsTidy) {r : Registration} (hid : r.id = id) :
    (stepOf p shelfStore now (.register r) s).Course id := by
  have hcall : Call.concerns id (.register r) = true := decide_eq_true hid
  cases hstamp : stamp now with
  | error f =>
    refine course_of_share_refused (f := f) hs hcall ?_
    rw [Call.share, hstamp]
  | ok seen =>
    cases hget : s.providers.get? id with
    | none =>
      refine .created (r := newRecord p seen r) ⟨⟨r, rfl, hid⟩, hget, ?_⟩
      refine (perform_share p now hcall hs).2.1.trans ?_
      rw [hget, Call.share, hstamp]
      rfl
    | some old =>
      refine course_of_share_keeps (r := refreshed seen r old) hs hcall hget ?_ rfl ?_
        (Step.rescores_eq_false rfl)
      · rw [Call.share, hstamp]
        rfl
      · rw [Call.share, hstamp]
        rfl

theorem course_applyDelta (hnow : now.isInCalendar = true) (hs : s.IsTidy) (delta : Binary64)
    (reason jobId : Option Text) :
    (stepOf p shelfStore now (.applyDelta id delta reason jobId) s).Course id := by
  have hcall : Call.concerns id (.applyDelta id delta reason jobId) = true := decide_eq_true rfl
  have hprovider : Call.provider? (.applyDelta id delta reason jobId) = some id := rfl
  have hperform := perform_addressed p now hprovider hs
  cases hfinite : delta.isFinite with
  | false =>
    refine course_of_share_refused hs hcall ?_
      (f := .refused (.invalidConfiguration (.reputationDelta delta)))
    rw [Call.share, hfinite, if_neg Bool.false_ne_true]
  | true =>
    cases hget : s.providers.get? id with
    | none =>
      refine course_of_share_refused hs hcall (f := .refused (.providerNotFound id)) ?_
      rw [hget, Call.share, hfinite, if_pos rfl]
      rfl
    | some old =>
      obtain ⟨-, hafter, hhistory⟩ := perform_share p now hcall hs
      rw [hget, Call.share, hfinite, if_pos rfl, Share.required] at hperform hafter hhistory
      -- the record is saved before the clock is read, so here the clock must not fail
      have hstamp : stamp now = .ok (.utc now) := stamp_of_isInCalendar hnow
      rw [hstamp] at hperform hafter hhistory
      have houtcome : (stepOf p shelfStore now (.applyDelta id delta reason jobId) s).outcome =
          .ok (.record (rescored delta old)) := congrArg Prod.fst hperform
      refine .entered (c := changeOf id delta reason jobId old (.utc now)) hget hafter ?_ rfl hhistory
        ?_
      · exact ⟨rfl, rfl, ⟨old, hget, rfl⟩, ⟨_, houtcome, rfl⟩, rfl, rfl⟩
      · rw [Step.rescores, houtcome]
        exact Bool.and_true _ |>.trans (decide_eq_true rfl)

theorem stepOf_course (p : Policy) (hnow : now.isInCalendar = true) (hs : s.IsTidy) (id : Text)
    (call : Call) :
    (stepOf p shelfStore now call s).Course id := by
  cases hcall : call.concerns id with
  | false => exact course_of_not_concerns hs hcall
  | true =>
    cases call with
    | register r => exact course_register hs (of_decide_eq_true hcall)
    | deregister target => exact course_of_share_removes hs hcall rfl
    | updateStatus target status =>
      cases hget : s.providers.get? id with
      | none => exact course_of_share_refused hs hcall (by rw [hget]; rfl)
      | some old => exact course_of_share_keeps hs hcall hget rfl rfl rfl (Step.rescores_eq_false rfl)
    | heartbeat target status =>
      cases hget : s.providers.get? id with
      | none => exact course_of_share_refused hs hcall (by rw [hget]; rfl)
      | some old =>
        cases hstamp : stamp now with
        | error f =>
          refine course_of_share_refused hs hcall (f := f) ?_
          rw [hget, Call.share, hstamp]
          rfl
        | ok seen =>
          refine course_of_share_keeps (r := revived seen status old) hs hcall hget ?_ rfl ?_
            (Step.rescores_eq_false rfl)
          · rw [Call.share, hstamp]
            rfl
          · rw [Call.share, hstamp]
            rfl
    | applyDelta target delta reason jobId =>
      obtain rfl : target = id := of_decide_eq_true hcall
      exact course_applyDelta hnow hs delta reason jobId
    | markStale given =>
      cases hsince : soughtSince p now given with
      | error fault =>
        refine course_of_share_refused hs hcall (f := .time fault) ?_
        rw [Call.share, hsince]
      | ok before =>
        cases hget : s.providers.get? id with
        | none =>
          refine course_of_share_removes hs hcall ?_
          rw [Call.share, hsince, hget]
          rfl
        | some old =>
          refine course_of_share_keeps (r := settled before old) hs hcall hget ?_ ?_ ?_
            (Step.rescores_eq_false rfl)
          · rw [Call.share, hsince]
            rfl
          · rw [settled]
            split <;> rfl
          · rw [Call.share, hsince]

end

/-! ## What a run tells about a score -/

/-- How a provider came by its score in a run: it was created by a step, with a score, and not again
after it. What was entered in its history since then is, in order, one change for each step that
changed its reputation with success, and these changes lead from the score with which it was created
to the score that it has. -/
structure Explained (id : Text) (past : List (Step Shelf)) (s : Shelf) (r : Record)
    (before : List (Step Shelf)) (creation : Step Shelf) (since : List (Step Shelf))
    (created : Record) (entries : List ReputationChange) : Prop where
  run : past = before ++ creation :: since
  creates : creation.Creates id created
  latest : ∀ step ∈ since, ∀ r, ¬ step.Creates id r
  history : s.history id = creation.after.history id ++ entries
  entered : List.Forall₂ (Step.Entered id) (since.filter (Step.rescores id)) entries
  leads : Leads created.reputation entries r.reputation

section

variable {id : Text} {past before since : List (Step Shelf)} {s : Shelf} {creation : Step Shelf}
  {old created : Record} {entries : List ReputationChange}

/-- A provider that is just created needs no changes to be explained. -/
theorem explained_of_creates (past : List (Step Shelf)) {step : Step Shelf}
    (h : step.Creates id created) :
    Explained id (past ++ [step]) step.after created past step [] created [] where
  run := rfl
  creates := h
  latest := by simp
  history := (List.append_nil _).symm
  entered := .nil
  leads := rfl

/-- A step on a registered provider is one more step since it was created. -/
theorem Explained.concat (h : Explained id past s old before creation since created entries)
    {step : Step Shelf} {r : Record} (new : List ReputationChange)
    (hbefore : step.before.providers.get? id = some old)
    (hhistory : step.after.history id = s.history id ++ new)
    (hentered : List.Forall₂ (Step.Entered id) ([step].filter (Step.rescores id)) new)
    (hleads : Leads created.reputation (entries ++ new) r.reputation) :
    Explained id (past ++ [step]) step.after r before creation (since ++ [step]) created
      (entries ++ new) where
  run := by rw [h.run, List.append_assoc, List.cons_append]
  creates := h.creates
  latest := by
    intro later hlater r' hcreates
    rcases List.mem_append.1 hlater with hlater | hlater
    · exact h.latest later hlater r' hcreates
    · rw [List.mem_singleton.1 hlater] at hcreates
      rw [hcreates.before] at hbefore
      cases hbefore
  history := by rw [hhistory, h.history, List.append_assoc]
  entered := by
    rw [List.filter_append]
    exact List.rel_append h.entered hentered
  leads := hleads

/-- What one step does to a provider is explained if what was done before is. -/
theorem explained_step (p : Policy) {now : Moment} (hnow : now.isInCalendar = true) (call : Call)
    (hs : s.IsTidy)
    (hpast : ∀ old, s.providers.get? id = some old →
      ∃ before creation since created entries,
        Explained id past s old before creation since created entries) {r : Record}
    (hget : (perform shelfStore p now call s).2.providers.get? id = some r) :
    ∃ before creation since created entries,
      Explained id (past ++ [stepOf p shelfStore now call s]) (perform shelfStore p now call s).2 r
        before creation since created entries := by
  cases stepOf_course p hnow hs id call with
  | removed hafter =>
    have hnone := hafter.symm.trans hget
    cases hnone
  | created hcreates =>
    -- a new life begins, whatever was explained before
    obtain rfl := Option.some.inj (hcreates.after.symm.trans hget)
    exact ⟨_, _, _, _, _, explained_of_creates past hcreates⟩
  | kept hbefore hafter hscore hhistory hidle =>
    obtain ⟨before, creation, since, created, entries, h⟩ := hpast _ hbefore
    obtain rfl := Option.some.inj (hafter.symm.trans hget)
    refine ⟨_, _, _, _, _, h.concat [] hbefore ?_ ?_ ?_⟩
    · exact hhistory.trans (List.append_nil _).symm
    · rw [List.filter_cons, hidle]
      exact .nil
    · rw [List.append_nil, hscore]
      exact h.leads
  | entered hbefore hafter hentry hscore hhistory hdone =>
    obtain ⟨before, creation, since, created, entries, h⟩ := hpast _ hbefore
    obtain rfl := Option.some.inj (hafter.symm.trans hget)
    refine ⟨_, _, _, _, _, h.concat [_] hbefore hhistory ?_ ?_⟩
    · rw [List.filter_cons, hdone]
      exact .cons hentry .nil
    · obtain ⟨stored, hstored, hold⟩ := hentry.before
      obtain rfl := Option.some.inj (hstored.symm.trans hbefore)
      rw [hscore]
      exact h.leads.concat hold hentry.new_score

end

/-! ## Main statement -/

/-- In memory, the history of a registered provider explains its score, after every run of calls
at moments of the calendar. -/
theorem history_explains (p : Policy) (calls : List (Moment × Call))
    (hclock : ∀ call ∈ calls, call.1.isInCalendar = true) (id : Text) (r : Record)
    (hget : (final p (fun _ => shelfStore) calls .empty).providers.get? id = some r) :
    ∃ before creation since created entries,
      Explained id (steps p (fun _ => shelfStore) calls .empty)
        (final p (fun _ => shelfStore) calls .empty) r before creation since created entries := by
  rw [steps_eq, final_eq]
  rw [final_eq] at hget
  have hsteps : ∀ step ∈ Run.steps (machine p fun _ => shelfStore) calls .empty,
      step.now.isInCalendar = true := by
    intro step hstep
    obtain ⟨call, hcall, s, rfl⟩ := Run.exists_of_mem_steps _ hstep
    exact hclock call hcall
  -- the shelf stays tidy, and whatever is stored is explained by what has happened so far
  have hrun := Run.steps_induction (machine p fun _ => shelfStore)
    (P := fun past s => s.IsTidy ∧ ((∀ step ∈ past, step.now.isInCalendar = true) →
      ∀ r, s.providers.get? id = some r → ∃ before creation since created entries,
        Explained id past s r before creation since created entries))
    (s := Shelf.empty) ⟨Shelf.isTidy_empty, by rintro - r ⟨⟩⟩ ?_ calls
  · exact hrun.2 hsteps r hget
  · rintro past s ⟨now, call⟩ ⟨hs, hpast⟩
    refine ⟨isTidy_perform p now hs call, fun hnow r hafter => ?_⟩
    rw [List.forall_mem_append, List.forall_mem_singleton] at hnow
    exact explained_step p hnow.2 call hs (hpast hnow.1) hafter

/-- A provider registers, and its reputation is changed. -/
def callsOfMerit : List (Moment × Call) :=
  [(0, .register sampleOffer), (1, .applyDelta "gpu" .hundred none none)]

theorem history_explains_sample :
    (∀ call ∈ callsOfMerit, call.1.isInCalendar = true) ∧
      (final ⟨60, .nan⟩ (fun _ => shelfStore) callsOfMerit .empty).providers.get? "gpu" =
        some (rescored .hundred sampleRecord) ∧
      ∃ before creation since created entries,
        Explained "gpu" (steps ⟨60, .nan⟩ (fun _ => shelfStore) callsOfMerit .empty)
          (final ⟨60, .nan⟩ (fun _ => shelfStore) callsOfMerit .empty)
          (rescored .hundred sampleRecord) before creation since created entries := by
  have hclock : ∀ call ∈ callsOfMerit, call.1.isInCalendar = true := by
    simp only [callsOfMerit, List.forall_mem_cons]
    exact ⟨by decide, by decide, by simp⟩
  exact ⟨hclock, rfl, history_explains _ _ hclock _ _ rfl⟩

end ComputeDirectory.Registry
