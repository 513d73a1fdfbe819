import ComputeDirectory.Proofs.Identity.Issuer
import ComputeDirectory.Proofs.Run

/-!
# Histories of an issuer

A run of an issuer is a list of calls, each with the moment at which it is made; moments are free to
go back, and a sweep may be asked for at any second. `history` is what happens in a run: one `Step`
for each call, with its reply and the issuers before and after it.

Every call is a change followed by at most one sweep (`perform_eq`): `change` files, spends or drops
a challenge, and `sweepSecond?` is the second of the sweep. So what a call does to a view is told by
one lemma on changes and one on sweeps.

`Orderly` is what every run keeps when identifiers never repeat (`orderly_final`), and a challenge
that is no longer pending never comes back (`Gone.final`).
-/

namespace ComputeDirectory.Identity

/-- A challenge with a lifetime, between two keys. -/
structure Challenge.IsWellFormed (c : Challenge) : Prop where
  window : c.issuedAt < c.expiresAt
  serverKey : isKey c.serverKey = true
  claimantKey : isKey c.claimantKey = true

namespace Issuer

/-- A call of an issuer. -/
inductive Call
  | issue (serverKey claimantKey : Text) (lifetime : Int)
  | claim (id : Text)
  | invalidate (id : Text)
  /-- A sweep: at the second of the clock, or at a given one. -/
  | sweep (second : Option Int)

/-- What a call gives back. -/
inductive Reply
  | issued (result : Except Failure Challenge)
  | claimed (result : Except Refusal Challenge)
  | swept (result : Except Failure Nat)
  | done

/-- Makes a call. -/
def perform (p : Policy) (now : Moment) : Call → Issuer → Reply × Issuer
  | .issue serverKey claimantKey lifetime, s =>
    let (result, s) := issue p now serverKey claimantKey lifetime s
    (.issued result, s)
  | .claim id, s =>
    let (result, s) := claim id s
    (.claimed result, s)
  | .invalidate id, s => (.done, s.invalidate id)
  | .sweep none, s =>
    let (result, s) := sweepNow p now s
    (.swept result, s)
  | .sweep (some second), s =>
    let (removed, s) := s.sweep p second
    (.swept (.ok removed), s)

/-- A call in a run, with what came of it. -/
structure Step where
  now : Moment
  call : Call
  before : Issuer
  reply : Reply
  after : Issuer

/-- The step that a call makes. -/
def stepOf (p : Policy) (now : Moment) (call : Call) (s : Issuer) : Step where
  now := now
  call := call
  before := s
  reply := (perform p now call s).1
  after := (perform p now call s).2

/-- A step that claims a challenge. -/
def Step.Claims (s : Step) (id : Text) (c : Challenge) : Prop :=
  s.call = .claim id ∧ s.reply = .claimed (.ok c)

/-- An issuer that takes one call after the other. -/
def machine (p : Policy) (input : Moment × Call) (s : Issuer) : Step × Issuer :=
  (stepOf p input.1 input.2 s, (perform p input.1 input.2 s).2)

/-- What happens in a run, oldest step first. -/
def history (p : Policy) (calls : List (Moment × Call)) (s : Issuer) : List Step :=
  Run.steps (machine p) calls s

/-- What is left after some calls. -/
def final (p : Policy) (calls : List (Moment × Call)) (s : Issuer) : Issuer :=
  Run.final (machine p) calls s

/-! ## A change, and at most one sweep -/

/-- What a call changes, apart from any sweep. -/
def change (p : Policy) (now : Moment) : Call → Issuer → Issuer
  | .issue serverKey claimantKey lifetime, s =>
    match p.grant now serverKey claimantKey lifetime with
    | .ok second => s.file (s.nextChallenge p second serverKey claimantKey lifetime)
    | .error _ => s
  | .claim id, s => (claim id s).2
  | .invalidate id, s => s.invalidate id
  | .sweep _, s => s

/-- The second at which a call sweeps, if it does. -/
def sweepSecond? (p : Policy) (now : Moment) : Call → Issuer → Option Int
  | .issue serverKey claimantKey lifetime, s =>
    match p.grant now serverKey claimantKey lifetime with
    | .ok second => if s.SweepsNext p lifetime then some second else none
    | .error _ => none
  | .sweep (some second), _ => some second
  | .sweep none, _ =>
    match p.second now with
    | .ok second => some second
    | .error _ => none
  | .claim _, _ | .invalidate _, _ => none

/-- Sweeps at a second, if there is one. -/
def sweepAt (p : Policy) (second? : Option Int) (s : Issuer) : Issuer :=
  match second? with
  | some second => (s.sweep p second).2
  | none => s

/-- The second at which a step swept, if it did. -/
def Step.sweepSecond? (p : Policy) (s : Step) : Option Int :=
  Issuer.sweepSecond? p s.now s.call s.before

theorem perform_eq (p : Policy) (now : Moment) (call : Call) (s : Issuer) :
    (perform p now call s).2 = (change p now call s).sweepAt p (sweepSecond? p now call s) := by
  cases call with
  | issue serverKey claimantKey lifetime =>
    simp only [perform, issue_eq, change, sweepSecond?]
    cases p.grant now serverKey claimantKey lifetime with
    | error f => rfl
    | ok second =>
      simp only [register_eq]
      by_cases hdue : s.SweepsNext p lifetime <;> simp only [hdue, if_true, if_false] <;> rfl
  | claim id => rfl
  | invalidate id => rfl
  | sweep second =>
    cases second with
    | some second => rfl
    | none =>
      simp only [perform, sweepNow_eq, change, sweepSecond?]
      cases p.second now <;> rfl

section Views

variable {p : Policy} {now : Moment} {call : Call} {s : Issuer} {second? : Option Int} {id : Text}

theorem get?_sweepAt :
    (s.sweepAt p second?).get? id =
      (s.get? id).filter fun c => second?.all fun second => !c.isExpired second := by
  cases second? with
  | none =>
    show s.get? id = _
    cases s.get? id <;> rfl
  | some second => exact get?_sweep p second s id

theorem get?_consumed_sweepAt :
    (s.sweepAt p second?).consumed.get? id =
      (s.consumed.get? id).filter fun expiresAt =>
        second?.all fun second => !isStale p second expiresAt := by
  cases second? with
  | none =>
    show s.consumed.get? id = _
    cases s.consumed.get? id <;> rfl
  | some second => exact get?_consumed_sweep p second s id

@[simp] theorem drawn_sweepAt : (s.sweepAt p second?).drawn = s.drawn := by
  cases second? <;> rfl

theorem get?_of_get?_sweepAt {c : Challenge} (h : (s.sweepAt p second?).get? id = some c) :
    s.get? id = some c := by
  rw [get?_sweepAt, Option.filter_eq_some_iff] at h
  exact h.1

theorem isConsumed_of_isConsumed_sweepAt (h : (s.sweepAt p second?).isConsumed id = true) :
    s.isConsumed id = true := by
  cases second? with
  | none => exact h
  | some second => exact isConsumed_of_isConsumed_sweep h

/-- What is pending after a change was pending before, or was just granted. -/
theorem get?_of_get?_change {c : Challenge} (h : (change p now call s).get? id = some c) :
    s.get? id = some c ∨
      ∃ serverKey claimantKey lifetime second, call = .issue serverKey claimantKey lifetime ∧
        p.grant now serverKey claimantKey lifetime = .ok second ∧ id = p.token s.drawn ∧
        c = s.nextChallenge p second serverKey claimantKey lifetime := by
  cases call with
  | issue serverKey claimantKey lifetime =>
    simp only [change] at h
    cases hgrant : p.grant now serverKey claimantKey lifetime with
    | error f =>
      rw [hgrant] at h
      exact .inl h
    | ok second =>
      have hfile : (s.file (s.nextChallenge p second serverKey claimantKey lifetime)).get? id =
          some c := by rwa [hgrant] at h
      rw [get?_file, nextChallenge_id] at hfile
      by_cases hid : id = p.token s.drawn
      · rw [if_pos hid, Option.some.injEq] at hfile
        exact .inr ⟨serverKey, claimantKey, lifetime, second, rfl, hgrant, hid, hfile.symm⟩
      · rw [if_neg hid] at hfile
        exact .inl hfile
  | claim other =>
    simp only [change] at h
    cases hget : s.get? other with
    | none =>
      rw [claim_of_get?_eq_none hget] at h
      exact .inl h
    | some d =>
      rw [claim_of_get?_eq_some hget] at h
      exact .inl (get?_of_get?_spend h).2
  | invalidate other => exact .inl (get?_of_get?_invalidate h).2
  | sweep second => exact .inl h

/-- A claim succeeds exactly for a pending challenge. -/
theorem claims_stepOf_iff {c : Challenge} :
    (stepOf p now call s).Claims id c ↔ call = .claim id ∧ s.get? id = some c := by
  constructor
  · rintro ⟨hcall, hreply⟩
    have hclaim : call = .claim id := hcall
    subst hclaim
    refine ⟨rfl, ?_⟩
    have hclaimed : (claim id s).1 = .ok c := Reply.claimed.inj hreply
    cases hget : s.get? id with
    | none =>
      rw [claim_of_get?_eq_none hget] at hclaimed
      cases hclaimed
    | some d =>
      rw [claim_of_get?_eq_some hget] at hclaimed
      cases hclaimed
      rfl
  · rintro ⟨rfl, hget⟩
    refine ⟨rfl, ?_⟩
    show Reply.claimed (claim id s).1 = _
    rw [claim_of_get?_eq_some hget]

/-- A claim leaves a marker with the expiry of the challenge. -/
theorem get?_consumed_change_of_claims {c : Challenge} (h : (stepOf p now call s).Claims id c) :
    (change p now call s).consumed.get? id = some c.expiresAt := by
  obtain ⟨rfl, hget⟩ := claims_stepOf_iff.1 h
  show (claim id s).2.consumed.get? id = _
  rw [claim_of_get?_eq_some hget]
  exact (OrderedMap.get?_insert ..).trans (if_pos rfl)

/-- Nothing else changes a marker. -/
theorem get?_consumed_change_of_not_claims (h : ∀ c, ¬ (stepOf p now call s).Claims id c) :
    (change p now call s).consumed.get? id = s.consumed.get? id := by
  cases call with
  | issue serverKey claimantKey lifetime =>
    simp only [change]
    cases p.grant now serverKey claimantKey lifetime <;> rfl
  | claim other =>
    show (claim other s).2.consumed.get? id = _
    cases hget : s.get? other with
    | none => rw [claim_of_get?_eq_none hget]
    | some c =>
      have hne : id ≠ other := by
        rintro rfl
        exact h c (claims_stepOf_iff.2 ⟨rfl, hget⟩)
      rw [claim_of_get?_eq_some hget]
      exact (OrderedMap.get?_insert ..).trans (if_neg hne)
  | invalidate other => rfl
  | sweep second => rfl

theorem drawn_change : s.drawn ≤ (change p now call s).drawn := by
  cases call with
  | issue serverKey claimantKey lifetime =>
    simp only [change]
    cases p.grant now serverKey claimantKey lifetime with
    | error f => exact Nat.le_refl _
    | ok second => exact Nat.le_succ _
  | claim id =>
    simp only [change, claim]
    cases s.pending.get? id <;> exact Nat.le_refl _
  | invalidate id => exact Nat.le_refl _
  | sweep second => exact Nat.le_refl _

end Views

/-! ## What every run keeps -/

/-- Whether an identifier was drawn. -/
def Drawn (p : Policy) (s : Issuer) (id : Text) : Prop := ∃ k < s.drawn, p.token k = id

/-- What holds of an issuer at any time, when identifiers never repeat. -/
structure Orderly (p : Policy) (s : Issuer) : Prop where
  filed : ∀ {id c}, s.get? id = some c → c.id = id
  wellFormed : ∀ {id c}, s.get? id = some c → c.IsWellFormed
  drawn_of_get? : ∀ {id c}, s.get? id = some c → Drawn p s id
  drawn_of_isConsumed : ∀ {id}, s.isConsumed id = true → Drawn p s id
  disjoint : ∀ {id c}, s.get? id = some c → s.isConsumed id = false

theorem orderly_start (p : Policy) : Orderly p start where
  filed h := by cases h
  wellFormed h := by cases h
  drawn_of_get? h := by cases h
  drawn_of_isConsumed h := by cases h
  disjoint h := by cases h

section

variable {p : Policy} {now : Moment} {s : Issuer}

theorem isKey_of_checkRequest {serverKey claimantKey : Text} {lifetime : Int}
    (h : checkRequest serverKey claimantKey lifetime = .ok ()) :
    isKey serverKey = true ∧ isKey claimantKey = true := by
  unfold checkRequest at h
  split at h
  · cases h
  · cases hserver : isKey serverKey <;> cases hclaimant : isKey claimantKey <;>
      simp [hserver, hclaimant] at h ⊢

theorem Policy.isKey_of_grant {serverKey claimantKey : Text} {lifetime second : Int}
    (h : p.grant now serverKey claimantKey lifetime = .ok second) :
    isKey serverKey = true ∧ isKey claimantKey = true := by
  cases hcheck : checkRequest serverKey claimantKey lifetime with
  | error refusal =>
    rw [Policy.grant, hcheck] at h
    cases h
  | ok => exact isKey_of_checkRequest hcheck

theorem Policy.isWellFormed_of_grant {serverKey claimantKey : Text} {lifetime second : Int}
    (h : p.grant now serverKey claimantKey lifetime = .ok second) (s : Issuer) :
    (s.nextChallenge p second serverKey claimantKey lifetime).IsWellFormed := by
  obtain ⟨hserver, hclaimant⟩ := Policy.isKey_of_grant h
  refine ⟨?_, hserver, hclaimant⟩
  show second < second + lifetime
  have hlifetime := (Policy.grant_eq_ok h).1
  omega

theorem Drawn.mono {s' : Issuer} {id : Text} (hid : Drawn p s id) (h : s.drawn ≤ s'.drawn) :
    Drawn p s' id := by
  obtain ⟨k, hk, hid⟩ := hid
  exact ⟨k, by omega, hid⟩

theorem Drawn.ne_token {id : Text} (htoken : Function.Injective p.token) (hid : Drawn p s id) :
    id ≠ p.token s.drawn := by
  obtain ⟨k, hk, rfl⟩ := hid
  intro heq
  exact absurd (htoken heq) (by omega)

theorem Orderly.sweepAt (hs : Orderly p s) (second? : Option Int) :
    Orderly p (s.sweepAt p second?) where
  filed h := hs.filed (get?_of_get?_sweepAt h)
  wellFormed h := hs.wellFormed (get?_of_get?_sweepAt h)
  drawn_of_get? h := (hs.drawn_of_get? (get?_of_get?_sweepAt h)).mono (by simp)
  drawn_of_isConsumed h :=
    (hs.drawn_of_isConsumed (isConsumed_of_isConsumed_sweepAt h)).mono (by simp)
  disjoint h := by
    cases hconsumed : (s.sweepAt p second?).isConsumed _ with
    | false => rfl
    | true =>
      have hmarker := isConsumed_of_isConsumed_sweepAt hconsumed
      rw [hs.disjoint (get?_of_get?_sweepAt h)] at hmarker
      cases hmarker

theorem Orderly.file (hs : Orderly p s) (htoken : Function.Injective p.token)
    {serverKey claimantKey : Text} {lifetime second : Int}
    (hgrant : p.grant now serverKey claimantKey lifetime = .ok second) :
    Orderly p (s.file (s.nextChallenge p second serverKey claimantKey lifetime)) := by
  have hdrawn {id : Text} (hid : Drawn p s id) :
      Drawn p (s.file (s.nextChallenge p second serverKey claimantKey lifetime)) id :=
    hid.mono (Nat.le_succ _)
  refine ⟨?_, ?_, ?_, ?_, ?_⟩ <;> intro id
  · intro c h
    rw [get?_file] at h
    split at h
    · next hid =>
      cases h
      exact hid.symm
    · exact hs.filed h
  · intro c h
    rw [get?_file] at h
    split at h
    · cases h
      exact Policy.isWellFormed_of_grant hgrant s
    · exact hs.wellFormed h
  · intro c h
    rw [get?_file] at h
    split at h
    · next hid => exact ⟨s.drawn, Nat.lt_succ_self _, hid.symm⟩
    · exact hdrawn (hs.drawn_of_get? h)
  · intro h
    exact hdrawn (hs.drawn_of_isConsumed h)
  · intro c h
    rw [get?_file] at h
    show s.isConsumed id = false
    split at h
    · next hid =>
      -- the identifier is new, and all markers have identifiers drawn before
      cases hconsumed : s.isConsumed id with
      | false => rfl
      | true => exact absurd hid ((hs.drawn_of_isConsumed hconsumed).ne_token htoken)
    · exact hs.disjoint h

theorem Orderly.spend (hs : Orderly p s) {id : Text} {c : Challenge} (hget : s.get? id = some c) :
    Orderly p (s.spend id c.expiresAt) where
  filed h := hs.filed (get?_of_get?_spend h).2
  wellFormed h := hs.wellFormed (get?_of_get?_spend h).2
  drawn_of_get? h := hs.drawn_of_get? (get?_of_get?_spend h).2
  drawn_of_isConsumed h := by
    rw [isConsumed_spend, Bool.or_eq_true, decide_eq_true_eq] at h
    rcases h with rfl | h
    · exact hs.drawn_of_get? hget
    · exact hs.drawn_of_isConsumed h
  disjoint h := by
    obtain ⟨hne, hother⟩ := get?_of_get?_spend h
    rw [isConsumed_spend, hs.disjoint hother, decide_eq_false hne]
    rfl

theorem Orderly.invalidate (hs : Orderly p s) (id : Text) : Orderly p (s.invalidate id) where
  filed h := hs.filed (get?_of_get?_invalidate h).2
  wellFormed h := hs.wellFormed (get?_of_get?_invalidate h).2
  drawn_of_get? h := hs.drawn_of_get? (get?_of_get?_invalidate h).2
  drawn_of_isConsumed h := hs.drawn_of_isConsumed h
  disjoint h := hs.disjoint (get?_of_get?_invalidate h).2

theorem Orderly.change (hs : Orderly p s) (htoken : Function.Injective p.token) (call : Call) :
    Orderly p (change p now call s) := by
  cases call with
  | issue serverKey claimantKey lifetime =>
    simp only [Issuer.change]
    cases hgrant : p.grant now serverKey claimantKey lifetime with
    | error f => exact hs
    | ok second => exact hs.file htoken hgrant
  | claim id =>
    simp only [Issuer.change]
    cases hget : s.get? id with
    | none =>
      rw [claim_of_get?_eq_none hget]
      exact hs
    | some c =>
      rw [claim_of_get?_eq_some hget]
      exact hs.spend hget
  | invalidate id => exact hs.invalidate id
  | sweep second => exact hs

theorem Orderly.perform (hs : Orderly p s) (htoken : Function.Injective p.token) (now : Moment)
    (call : Call) : Orderly p (perform p now call s).2 := by
  rw [perform_eq]
  exact (hs.change htoken call).sweepAt _

theorem Orderly.final (hs : Orderly p s) (htoken : Function.Injective p.token)
    (calls : List (Moment × Call)) : Orderly p (final p calls s) :=
  Run.final_induction (machine p) hs (fun _ input h => h.perform htoken input.1 input.2) calls

/-- Any run leads to an orderly issuer. -/
theorem orderly_final (htoken : Function.Injective p.token) (calls : List (Moment × Call)) :
    Orderly p (Issuer.final p calls start) :=
  (orderly_start p).final htoken calls

/-! ## Challenges that are gone -/

/-- An identifier that was drawn and is not pending. -/
structure Gone (p : Policy) (s : Issuer) (id : Text) : Prop where
  drawn : Drawn p s id
  get?_eq_none : s.get? id = none

theorem drawn_perform (now : Moment) (call : Call) (s : Issuer) :
    s.drawn ≤ (perform p now call s).2.drawn := by
  rw [perform_eq, drawn_sweepAt]
  exact drawn_change

theorem Gone.perform {id : Text} (htoken : Function.Injective p.token) (hid : Gone p s id)
    (now : Moment) (call : Call) : Gone p (perform p now call s).2 id where
  drawn := hid.drawn.mono (drawn_perform now call s)
  get?_eq_none := by
    cases hget : (Issuer.perform p now call s).2.get? id with
    | none => rfl
    | some c =>
      rw [perform_eq] at hget
      rcases get?_of_get?_change (get?_of_get?_sweepAt hget) with
        hold | ⟨_, _, _, _, -, -, hnew, -⟩
      · rw [hid.get?_eq_none] at hold
        cases hold
      · exact absurd hnew (hid.drawn.ne_token htoken)

/-- With identifiers that never repeat, a challenge that is gone never comes back. -/
theorem Gone.final {id : Text} (htoken : Function.Injective p.token) (hid : Gone p s id)
    (calls : List (Moment × Call)) : Gone p (final p calls s) id :=
  Run.final_induction (machine p) (P := fun s => Gone p s id) hid
    (fun _ input h => h.perform htoken input.1 input.2) calls

end

end Issuer

end ComputeDirectory.Identity
