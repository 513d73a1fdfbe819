import ComputeDirectory.Proofs.Identity.Replay
import ComputeDirectory.Proofs.OrderedMap

/-!
# How challenges end

Every challenge that is registered is pending until it ends in one of three ways: it is claimed, it
is invalidated, or a sweep drops it. It ends once and never comes back, whatever the calls are, the
sweeps that come with issues among them, and whatever the clock shows.

This is a law of conservation. Each step books the identifiers that it registers and those that it
takes from the pending ones; `keys_perm_perform` says that the books of a step balance, and
`keys_perm_final` adds them up over a run. Identifiers that never repeat are registered once
(`registered_history`), so each of them is in exactly one place. Main statement: `ends_once`.

A registered challenge is issued, that is handed out, unless its lifetime cannot be written
(`issued_stepOf`). So the books are those of the issued challenges when every lifetime can be.
-/

namespace ComputeDirectory.Identity.Issuer

/-! ## The books of a step -/

/-- The identifier of the challenge that a step registered: the one that it drew. -/
def Step.registered (p : Policy) (s : Step) : List Text :=
  if s.after.drawn = s.before.drawn then [] else [p.token s.before.drawn]

/-- The identifier of the challenge that a step issued. -/
def Step.issued (s : Step) : List Text :=
  match s.reply with
  | .issued (.ok c) => [c.id]
  | .issued (.error _) | .claimed _ | .swept _ | .done => []

/-- The identifier that a step claimed. -/
def Step.claimed (s : Step) : List Text :=
  match s.call, s.reply with
  | .claim id, .claimed (.ok _) => [id]
  | _, _ => []

/-- The identifier of the pending challenge that a step invalidated. -/
def Step.dropped (s : Step) : List Text :=
  match s.call with
  | .invalidate id => if (s.before.get? id).isSome then [id] else []
  | .issue _ _ _ | .claim _ | .sweep _ => []

/-- The identifiers of the pending challenges that went with the sweep of a step, if it swept. -/
def Step.swept (p : Policy) (s : Step) : List Text :=
  match s.sweepSecond? p with
  | some _ => s.before.pending.keys.filter fun id => (s.after.get? id).isNone
  | none => []

theorem mem_claimed_iff {s : Step} {id : Text} : id ∈ s.claimed ↔ ∃ c, s.Claims id c := by
  obtain ⟨now, call, before, reply, after⟩ := s
  simp only [Step.claimed, Step.Claims]
  split
  · next other c =>
    constructor
    · intro h
      rw [List.mem_singleton.1 h]
      exact ⟨c, rfl, rfl⟩
    · rintro ⟨d, hcall, -⟩
      cases hcall
      exact List.mem_singleton_self _
  · next hother =>
    constructor
    · intro h
      cases h
    · rintro ⟨c, hcall, hreply⟩
      exact absurd hreply (hother id c hcall)

theorem nodup_claimed (s : Step) : s.claimed.Nodup := by
  unfold Step.claimed
  split <;> simp

theorem nodup_dropped (s : Step) : s.dropped.Nodup := by
  unfold Step.dropped
  split
  · split <;> simp
  all_goals simp

theorem nodup_swept (p : Policy) (s : Step) : (s.swept p).Nodup := by
  unfold Step.swept
  split
  · exact s.before.pending.nodup_keys.filter _
  · simp

/-! ## What is registered and issued -/

section

variable {p : Policy} {now : Moment} {s : Issuer}

/-- Whether a call asks for no challenge whose lifetime cannot be written. -/
def Call.isNameable : Call → Bool
  | .issue _ _ lifetime => Json.isShort lifetime
  | .claim _ | .invalidate _ | .sweep _ => true

/-- A request that is granted registers a challenge, and no other call does. -/
theorem registered_stepOf (now : Moment) (call : Call) (s : Issuer) :
    (stepOf p now call s).registered p =
      match call with
      | .issue serverKey claimantKey lifetime =>
        match p.grant now serverKey claimantKey lifetime with
        | .ok _ => [p.token s.drawn]
        | .error _ => []
      | .claim _ | .invalidate _ | .sweep _ => [] := by
  have hdrawn : (stepOf p now call s).after.drawn = (change p now call s).drawn := by
    show (perform p now call s).2.drawn = _
    rw [perform_eq, drawn_sweepAt]
  have hnone (h : (change p now call s).drawn = s.drawn) :
      (stepOf p now call s).registered p = [] := if_pos (hdrawn.trans h)
  have hone (h : (change p now call s).drawn = s.drawn + 1) :
      (stepOf p now call s).registered p = [p.token s.drawn] :=
    if_neg fun hsame => Nat.succ_ne_self s.drawn ((hdrawn.trans h).symm.trans hsame)
  cases call with
  | issue serverKey claimantKey lifetime =>
    cases hgrant : p.grant now serverKey claimantKey lifetime with
    | error f =>
      simp only [hgrant]
      exact hnone (by simp only [change, hgrant])
    | ok second =>
      simp only [hgrant]
      exact hone (by simp only [change, hgrant, file])
  | claim id =>
    refine hnone ?_
    simp only [change, claim]
    cases s.pending.get? id <;> rfl
  | invalidate id => exact hnone rfl
  | sweep second => exact hnone rfl

/-- What a step registers it issues, if the lifetime can be written. -/
theorem issued_stepOf (now : Moment) (call : Call) (s : Issuer) :
    (stepOf p now call s).issued =
      if call.isNameable then (stepOf p now call s).registered p else [] := by
  rw [registered_stepOf]
  cases call with
  | issue serverKey claimantKey lifetime =>
    simp only [Step.issued, stepOf, perform, issue_eq, Call.isNameable]
    cases p.grant now serverKey claimantKey lifetime with
    | error f => exact (ite_self _).symm
    | ok second =>
      by_cases hshort : Json.isShort lifetime = true <;> simp only [handOut, hshort] <;> rfl
  | claim id => rfl
  | invalidate id => rfl
  | sweep second => cases second <;> rfl

theorem issued_subset_registered {t : Step} {calls : List (Moment × Call)}
    (ht : t ∈ history p calls s) {id : Text} (hid : id ∈ t.issued) : id ∈ t.registered p := by
  obtain ⟨⟨now, call⟩, -, s', rfl⟩ := Run.exists_of_mem_steps (machine p) ht
  have hissued : id ∈ (stepOf p now call s').issued := hid
  rw [issued_stepOf] at hissued
  split at hissued
  · exact hissued
  · cases hissued

/-- Where every lifetime can be written, all that is registered is issued. -/
theorem issued_history {calls : List (Moment × Call)}
    (hname : ∀ call ∈ calls, call.2.isNameable = true) (s : Issuer) :
    (history p calls s).flatMap Step.issued =
      (history p calls s).flatMap (Step.registered p) := by
  refine List.flatMap_congr fun t ht => ?_
  obtain ⟨⟨now, call⟩, hcall, s', rfl⟩ := Run.exists_of_mem_steps (machine p) ht
  exact (issued_stepOf now call s').trans (if_pos (hname _ hcall))

/-! ## The books balance -/

/-- A challenge that is filed adds its identifier, which is new, to the pending ones. -/
theorem keys_file (hs : Orderly p s) (htoken : Function.Injective p.token)
    (serverKey claimantKey : Text) (lifetime second : Int) :
    (s.file (s.nextChallenge p second serverKey claimantKey lifetime)).pending.keys =
      s.pending.keys ++ [p.token s.drawn] := by
  refine OrderedMap.keys_insert_of_not_mem ?_ _
  intro hmem
  obtain ⟨c, hget⟩ := Option.ne_none_iff_exists'.1 (OrderedMap.mem_keys_iff.1 hmem)
  exact (hs.drawn_of_get? hget).ne_token htoken rfl

/-- A change books what it adds to the pending challenges and what it takes from them. -/
theorem keys_perm_change (hs : Orderly p s) (htoken : Function.Injective p.token) (now : Moment)
    (call : Call) :
    (s.pending.keys ++ (stepOf p now call s).registered p).Perm
      ((change p now call s).pending.keys ++
        ((stepOf p now call s).claimed ++ (stepOf p now call s).dropped)) := by
  rw [registered_stepOf]
  cases call with
  | issue serverKey claimantKey lifetime =>
    simp only [change]
    cases p.grant now serverKey claimantKey lifetime with
    | error f => exact List.Perm.refl _
    | ok second =>
      simp only [keys_file hs htoken]
      exact List.Perm.of_eq (List.append_nil _).symm
  | claim id =>
    simp only [change, Step.claimed, Step.dropped, stepOf, perform, List.append_nil]
    cases hget : s.get? id with
    | none =>
      rw [claim_of_get?_eq_none hget]
      simp
    | some c =>
      rw [claim_of_get?_eq_some hget]
      have hkeys := s.pending.keys_perm_erase id
      have hpending : s.pending.get? id = some c := hget
      rwa [hpending] at hkeys
  | invalidate id =>
    simp only [change, Step.claimed, Step.dropped, stepOf, perform, List.append_nil]
    exact s.pending.keys_perm_erase id
  | sweep second => exact List.Perm.refl _

/-- Of the challenges pending before its sweep, a call leaves out those that were pending when it
was made: the one that it has just issued stays. -/
theorem filter_keys_change (hs : Orderly p s) (htoken : Function.Injective p.token) {call : Call}
    {second : Int} (hsecond : sweepSecond? p now call s = some second) :
    ((change p now call s).pending.keys.filter fun id =>
        ((perform p now call s).2.get? id).isNone) =
      s.pending.keys.filter fun id => ((perform p now call s).2.get? id).isNone := by
  cases call with
  | issue serverKey claimantKey lifetime =>
    cases hgrant : p.grant now serverKey claimantKey lifetime with
    | error f =>
      simp only [sweepSecond?, hgrant] at hsecond
      cases hsecond
    | ok granted =>
      have hperform : (perform p now (.issue serverKey claimantKey lifetime) s).2 =
          (s.register p granted serverKey claimantKey lifetime).2 := by
        simp only [perform, issue_eq, hgrant]
      have hstays := get?_register_self p granted serverKey claimantKey lifetime s
        (Policy.grant_eq_ok hgrant).1
      simp only [change, hgrant, keys_file hs htoken, hperform, List.filter_append]
      simp [hstays]
  | claim id => cases hsecond
  | invalidate id => cases hsecond
  | sweep asked => rfl

/-- A sweep books what it drops. -/
theorem keys_perm_sweep (hs : Orderly p s) (htoken : Function.Injective p.token) (now : Moment)
    (call : Call) :
    (change p now call s).pending.keys.Perm
      ((perform p now call s).2.pending.keys ++ (stepOf p now call s).swept p) := by
  have hafter := perform_eq p now call s
  have hstep : (stepOf p now call s).sweepSecond? p = sweepSecond? p now call s := rfl
  cases hsecond : sweepSecond? p now call s with
  | none =>
    rw [hsecond] at hstep hafter
    simp only [Step.swept, hstep, List.append_nil, hafter]
    exact List.Perm.refl _
  | some second =>
    rw [hsecond] at hstep hafter
    have hgone := filter_keys_change hs htoken hsecond
    have hsplit := (change p now call s).pending.keys_perm_filter fun _ c => !c.isExpired second
    simp only [Step.swept, hstep]
    refine List.Perm.trans ?_ (List.Perm.append_left _ (List.Perm.of_eq hgone))
    rw [hafter]
    exact hsplit

/-- The books of a step balance: what was pending or is registered in it is pending after it, or was
claimed, invalidated or swept in it. -/
theorem keys_perm_perform (hs : Orderly p s) (htoken : Function.Injective p.token) (now : Moment)
    (call : Call) :
    (s.pending.keys ++ (stepOf p now call s).registered p).Perm
      ((perform p now call s).2.pending.keys ++ ((stepOf p now call s).claimed ++
        ((stepOf p now call s).dropped ++ (stepOf p now call s).swept p))) := by
  rw [List.perm_iff_count]
  intro id
  have hchange := (keys_perm_change hs htoken now call).count_eq id
  have hsweep := (keys_perm_sweep hs htoken now call).count_eq id
  simp only [List.count_append] at hchange hsweep ⊢
  omega

/-- The books of a run balance. -/
theorem keys_perm_final (hs : Orderly p s) (htoken : Function.Injective p.token)
    (calls : List (Moment × Call)) :
    (s.pending.keys ++ (history p calls s).flatMap (Step.registered p)).Perm
      ((final p calls s).pending.keys ++ ((history p calls s).flatMap Step.claimed ++
        ((history p calls s).flatMap Step.dropped ++
          (history p calls s).flatMap (Step.swept p)))) := by
  induction calls generalizing s with
  | nil => exact List.Perm.refl _
  | cons first calls ih =>
    obtain ⟨now, call⟩ := first
    have hhistory : history p ((now, call) :: calls) s =
        stepOf p now call s :: history p calls (perform p now call s).2 := rfl
    have hfinal : final p ((now, call) :: calls) s = final p calls (perform p now call s).2 := rfl
    rw [List.perm_iff_count]
    intro id
    have hfirst := (keys_perm_perform hs htoken now call).count_eq id
    have hrest := (ih (hs.perform htoken now call)).count_eq id
    rw [hhistory, hfinal]
    simp only [List.flatMap_cons, List.count_append] at hfirst hrest ⊢
    omega

/-! ## Identifiers are registered once -/

/-- A step registers nothing, or the identifier that is drawn next. -/
theorem registered_stepOf_or (now : Moment) (call : Call) (s : Issuer) :
    (stepOf p now call s).registered p = [] ∨
      (stepOf p now call s).registered p = [p.token s.drawn] ∧
        s.drawn < (perform p now call s).2.drawn := by
  have hdrawn := drawn_perform (p := p) now call s
  rw [Step.registered]
  split
  · exact .inl rfl
  · next hne => exact .inr ⟨rfl, Nat.lt_of_le_of_ne hdrawn fun h => hne h.symm⟩

/-- No identifier is registered twice in a run, and those that are registered have been drawn. -/
theorem registered_history (htoken : Function.Injective p.token) (calls : List (Moment × Call))
    (s : Issuer) :
    ((history p calls s).flatMap (Step.registered p)).Nodup ∧
      ∀ id ∈ (history p calls s).flatMap (Step.registered p), Drawn p (final p calls s) id := by
  refine Run.steps_induction (machine p)
    (P := fun past s => (past.flatMap (Step.registered p)).Nodup ∧
      ∀ id ∈ past.flatMap (Step.registered p), Drawn p s id) (by simp) ?_ calls
  rintro past s ⟨now, call⟩ ⟨hnodup, hpast⟩
  have hlater {id : Text} (hid : id ∈ past.flatMap (Step.registered p)) :
      Drawn p (perform p now call s).2 id := (hpast id hid).mono (drawn_perform now call s)
  have hregistered : (past ++ [stepOf p now call s]).flatMap (Step.registered p) =
      past.flatMap (Step.registered p) ++ (stepOf p now call s).registered p := by simp
  simp only [machine]
  rw [hregistered]
  rcases registered_stepOf_or (p := p) now call s with hnone | ⟨hone, hdrawn⟩
  · rw [hnone, List.append_nil]
    exact ⟨hnodup, fun id hid => hlater hid⟩
  · rw [hone]
    refine ⟨List.nodup_append.2 ⟨hnodup, List.nodup_singleton _, ?_⟩, ?_⟩
    · -- what was registered before was drawn before
      intro id hid next hnext
      rw [List.mem_singleton.1 hnext]
      exact (hpast id hid).ne_token htoken
    · intro id hid
      rcases List.mem_append.1 hid with hid | hid
      · exact hlater hid
      · exact ⟨s.drawn, hdrawn, (List.mem_singleton.1 hid).symm⟩

/-! ## Counting -/

/-- In how many steps an identifier is booked. -/
def timesBooked (book : Step → List Text) (steps : List Step) (id : Text) : Nat :=
  steps.countP fun s => id ∈ book s

theorem count_flatMap {book : Step → List Text} (hbook : ∀ s, (book s).Nodup) (steps : List Step)
    (id : Text) : (steps.flatMap book).count id = timesBooked book steps id := by
  induction steps with
  | nil => rfl
  | cons s steps ih =>
    rw [List.flatMap_cons, List.count_append, ih, (hbook s).count, timesBooked, timesBooked,
      List.countP_cons, Nat.add_comm]
    by_cases hid : id ∈ book s <;> simp [hid]

theorem timesBooked_pos {book : Step → List Text} {steps : List Step} {s : Step} {id : Text}
    (hs : s ∈ steps) (hid : id ∈ book s) : 0 < timesBooked book steps id :=
  List.countP_pos_iff.2 ⟨s, hs, by simpa using hid⟩

/-- Where an identifier is: pending, or as often as it was registered in one of the three other
books. -/
theorem timesBooked_final (hs : Orderly p s) (htoken : Function.Injective p.token)
    (hempty : s.pending.keys = []) (calls : List (Moment × Call)) (id : Text) :
    (if ((final p calls s).get? id).isSome then 1 else 0) +
        timesBooked Step.claimed (history p calls s) id +
        timesBooked Step.dropped (history p calls s) id +
        timesBooked (Step.swept p) (history p calls s) id =
      ((history p calls s).flatMap (Step.registered p)).count id := by
  have hbalance := (keys_perm_final hs htoken calls).count_eq id
  have hpending : (final p calls s).pending.keys.count id =
      if ((final p calls s).get? id).isSome then 1 else 0 := by
    have hnodup : (final p calls s).pending.keys.Nodup := (final p calls s).pending.nodup_keys
    rw [hnodup.count]
    refine if_congr ?_ rfl rfl
    rw [OrderedMap.mem_keys_iff, Option.isSome_iff_ne_none]
    rfl
  simp only [List.count_append, hempty, List.count_nil, hpending, count_flatMap nodup_claimed,
    count_flatMap nodup_dropped, count_flatMap (nodup_swept p)] at hbalance
  omega

/-! ## Main statement -/

/-- How the challenges of a run end. A run may stop after any call, so this tells where they are at
every point of a run. -/
structure EndsOnce (p : Policy) (calls : List (Moment × Call)) : Prop where
  /-- What was issued was registered. -/
  registered : ∀ s ∈ history p calls start, ∀ id ∈ s.issued, id ∈ s.registered p
  /-- What was registered is pending, or was claimed, invalidated or swept, and that once. -/
  ending : ∀ id, (∃ s ∈ history p calls start, id ∈ s.registered p) →
    (if ((final p calls start).get? id).isSome then 1 else 0) +
        timesBooked Step.claimed (history p calls start) id +
        timesBooked Step.dropped (history p calls start) id +
        timesBooked (Step.swept p) (history p calls start) id = 1
  /-- What is no longer pending never is again. -/
  gone : ∀ before after, calls = before ++ after →
    ∀ id, (∃ s ∈ history p before start, id ∈ s.registered p) →
      (final p before start).get? id = none → (final p calls start).get? id = none
  claimedOnce : ∀ id, timesBooked Step.claimed (history p calls start) id ≤ 1
  unclaimed : ∀ s ∈ history p calls start, ∀ id, id ∈ s.dropped ∨ id ∈ s.swept p →
    ∀ t ∈ history p calls start, id ∉ t.claimed
  disjoint : ∀ id c, (final p calls start).get? id = some c →
    (final p calls start).isConsumed id = false
  consumed : ∀ id, (final p calls start).isConsumed id = true →
    ∃ s ∈ history p calls start, id ∈ s.claimed
  pendingCount : (final p calls start).pendingCount +
      ((history p calls start).flatMap Step.claimed).length +
      ((history p calls start).flatMap Step.dropped).length +
      ((history p calls start).flatMap (Step.swept p)).length =
    ((history p calls start).flatMap (Step.registered p)).length
  /-- Where every lifetime can be written, the challenges registered are those issued. -/
  allIssued : (∀ call ∈ calls, call.2.isNameable = true) →
    (history p calls start).flatMap Step.issued =
      (history p calls start).flatMap (Step.registered p)
  wellFormed : ∀ id c, (final p calls start).get? id = some c → c.IsWellFormed

/-- Every challenge that is registered ends once and in one way, in every run of every issuer; and
so does every one that is issued. -/
theorem ends_once (p : Policy) (htoken : Function.Injective p.token)
    (calls : List (Moment × Call)) : EndsOnce p calls := by
  have hkept := orderly_final htoken calls
  obtain ⟨hnodup, -⟩ := registered_history htoken calls start
  have htimes := timesBooked_final (orderly_start p) htoken rfl calls
  have hle (id : Text) : ((history p calls start).flatMap (Step.registered p)).count id ≤ 1 :=
    List.nodup_iff_count_le_one.1 hnodup id
  exact {
    registered := fun s hs id hid => issued_subset_registered hs hid
    ending := by
      rintro id ⟨s, hs, hid⟩
      rw [htimes, hnodup.count, if_pos (List.mem_flatMap.2 ⟨s, hs, hid⟩)]
    gone := by
      rintro before after rfl id ⟨s, hs, hid⟩ hget
      have hdrawn := (registered_history htoken before start).2 id (List.mem_flatMap.2 ⟨s, hs, hid⟩)
      have hgone := Gone.final htoken ⟨hdrawn, hget⟩ after
      rw [final, Run.final_append]
      exact hgone.get?_eq_none
    claimedOnce := by
      intro id
      have hsum := htimes id
      have hone := hle id
      omega
    unclaimed := by
      intro s hs id hended t ht hclaimed
      have hsum := htimes id
      have hone := hle id
      have hclaim := timesBooked_pos ht hclaimed
      rcases hended with hdropped | hswept
      · have hdrop := timesBooked_pos hs hdropped
        omega
      · have hsweep := timesBooked_pos hs hswept
        omega
    disjoint := fun id c hget => hkept.disjoint hget
    consumed := by
      intro id hconsumed
      obtain ⟨c, before, s, after, hpast, hclaims, -⟩ :=
        (isConsumed_final_iff htoken calls id).1 hconsumed
      refine ⟨s, ?_, mem_claimed_iff.2 ⟨c, hclaims⟩⟩
      rw [hpast]
      simp
    pendingCount := by
      have hbalance := (keys_perm_final (orderly_start p) htoken calls).length_eq
      have hempty : start.pending.keys = [] := rfl
      have hcount : (final p calls start).pending.keys.length =
          (final p calls start).pendingCount := List.length_map ..
      simp only [List.length_append, hempty, List.length_nil, hcount] at hbalance
      omega
    allIssued := fun hname => issued_history hname start
    wellFormed := fun id c hget => hkept.wellFormed hget }

/-- Of four challenges one is claimed and one invalidated, the sweep that comes with the fourth
drops the third, and the fourth stays. All of them were issued. -/
theorem ends_once_sample :
    let p := (Session.samplePolicy 256 4 3600).issuer
    let issue : Call := .issue Session.sampleKey Session.sampleKey 60
    let calls := [(0, issue), (0, issue), (1000000, .claim (Session.sampleToken 0)),
      (2000000, .invalidate (Session.sampleToken 1)), (3000000, issue), (90000000, issue)]
    EndsOnce p calls ∧ (final p calls start).pendingCount = 1 ∧
      (history p calls start).flatMap Step.issued =
        (history p calls start).flatMap (Step.registered p) ∧
      (final p calls start).get? (Session.sampleToken 2) = none := by
  intro p issue calls
  have hends := ends_once p Session.sampleToken_injective calls
  exact ⟨hends, by decide +kernel, hends.allIssued (by decide), by decide +kernel⟩

end

end ComputeDirectory.Identity.Issuer
