import ComputeDirectory.Proofs.Attempt
import ComputeDirectory.Proofs.Registry.Refusal
import ComputeDirectory.Proofs.Service.Handling

/-!
# What the endpoints do

With the stores in memory every endpoint but two is `Careful`: it never touches the session, and it
leaves the stores alone when it refuses (`answer_careful`). This follows the steps of an endpoint:
those before its work leave everything alone, and its work is spared by refusals.

The other two are the endpoints of the session. Each of them makes at most one call of it
(`issueChallenge_cases`, `verifyAnswer_cases`).
-/

namespace ComputeDirectory.Service

open Attempt (Avoids Quiet Spares)
open Identity (Session SignedEvent ChallengeRequest)

variable {τ α : Type} {d : Deployment τ}

/-! ## Stores in memory -/

/-- The hosted table service is not used. -/
def Deployment.InMemory (d : Deployment τ) : Prop := ∀ s, d.settings = .ok s → s.usesTable = false

/-- Without the hosted table service there is nothing to connect. -/
theorem connect_of_not_usesTable (d : Deployment τ) {s : Settings} (h : s.usesTable = false)
    (state : State τ) : d.connect s state = (.ok (), state) := by
  rw [Deployment.connect, h, Bool.false_and]
  rfl

/-- Putting the registry together changes nothing when there is nothing to connect. -/
theorem prepareRegistry_apply (h : d.InMemory) (state : State τ) :
    d.prepareRegistry state = (d.settings, state) := by
  rw [Deployment.prepareRegistry, Attempt.bind_apply, Attempt.ofExcept_apply]
  cases hs : d.settings with
  | error f => rfl
  | ok s => exact Attempt.bind_of_ok (connect_of_not_usesTable d (h s hs) state)

/-- The settings and the session policy of a deployment. -/
def Deployment.sessionSettings (d : Deployment τ) :
    Except Failure (Settings × Identity.Session.Policy) := do
  let s ← d.settings
  let policy ← d.sessionPolicy s
  return (s, policy)

theorem prepareSession_apply (h : d.InMemory) (state : State τ) :
    d.prepareSession state = (d.sessionSettings, state) := by
  cases hs : d.settings with
  | error f =>
    rw [Deployment.prepareSession, Attempt.bind_apply, Attempt.ofExcept_apply,
      Deployment.sessionSettings, hs]
    rfl
  | ok s =>
    cases hpolicy : d.sessionPolicy s with
    | error f =>
      rw [prepareSession_of_error hs hpolicy, Deployment.sessionSettings, hs]
      simp only [bind, Except.bind, hpolicy]
    | ok policy =>
      have hconnect : d.connect s state = (.ok (), state) :=
        connect_of_not_usesTable d (h s hs) state
      rw [prepareSession_of_ok hs hpolicy, Attempt.bind_of_ok hconnect,
        Deployment.sessionSettings, hs]
      simp only [bind, Except.bind, hpolicy]
      rfl

theorem preparing_of_error (h : d.InMemory) (state : State τ) {f : Failure}
    (hs : d.sessionSettings = .error f) :
    preparing d.prepareSession state = (.error .internalError, state) := by
  rw [preparing, Attempt.mapError, prepareSession_apply h, hs]

theorem preparing_of_ok (h : d.InMemory) (state : State τ) {s : Settings}
    {p : Identity.Session.Policy} (hs : d.sessionSettings = .ok (s, p)) :
    preparing d.prepareSession state = (.ok (s, p), state) := by
  rw [preparing, Attempt.mapError, prepareSession_apply h, hs]

theorem providerStore_isCalm {s : Settings} (h : s.usesTable = false) (d : Deployment τ)
    (now : Moment) : (d.providerStore s now).IsCalm := by
  have hcalm := Registry.shelfStore_isCalm
  unfold Deployment.providerStore
  simp only [h]
  exact {
    find? := fun id => (hcalm.find? id).within fun _ => rfl
    all := hcalm.all.within fun _ => rfl
    history := fun id => (hcalm.history id).within fun _ => rfl
    save := fun r => (hcalm.save r).within _ _
    append := fun c => (hcalm.append c).within _ _
    erase := fun id => (hcalm.erase id).within fun _ => rfl }

/-- Saving a record of an identity in memory is never refused. -/
theorem recordStore_avoids {s : Settings} (h : s.usesTable = false) (d : Deployment τ)
    (now : Moment) (record : Identity.AuthRecord) :
    Avoids Failure.IsRefused ((d.recordStore s now).save record) := by
  unfold Deployment.recordStore
  simp only [h]
  rintro stores e ⟨⟩

/-! ## The work of an endpoint -/

/-- The response to the outcome of the work of an endpoint. -/
def answerOf (f : α → Response) : Except Failure α → Response
  | .ok a => f a
  | .error e => .ofFailure e

theorem performing_apply (x : Attempt Failure (State τ) α) (f : α → Response) (state : State τ) :
    responseOf ((performing x >>= fun a => Pure.pure (f a)) state).1 = answerOf f (x state).1 ∧
      ((performing x >>= fun a => Pure.pure (f a)) state).2 = (x state).2 := by
  rw [Attempt.bind_apply, performing, Attempt.mapError]
  cases x state with
  | mk outcome state' =>
    cases outcome with
    | ok a => exact ⟨rfl, rfl⟩
    | error e => exact ⟨rfl, rfl⟩

/-- A check of a body gives what was read, or ends the request; it is never a verdict. -/
theorem checkingBody_cases (body : Json) (check : Json → Schema.Checked α) (state : State τ) :
    (∃ a, check body = .valid a ∧ checkingBody body check state = (.ok a, state)) ∨
      ∃ response : Response, checkingBody body check state = (.error response, state) ∧
        response.status ≠ 401 := by
  unfold checkingBody
  cases check body with
  | valid a => exact .inl ⟨a, rfl, rfl⟩
  | invalid issues =>
    refine .inr ⟨_, rfl, ?_⟩
    rcases status_unprocessable (.obj [("body", body)]) _ with hstatus | hstatus
    · rw [hstatus]
      decide
    · rw [hstatus]
      decide
  | untimed fault => exact .inr ⟨_, rfl, by decide⟩

/-! ## Endpoints of the registry -/

/-- A step of a request that leaves the session alone, and the stores, too, when it refuses. -/
def Careful (x : Handling τ Response) : Prop :=
  ∀ state, (x state).2.session = state.session ∧
    ((responseOf (x state).1).IsRefusal → (x state).2.stores = state.stores)

namespace Careful

/-- A first step that leaves the state alone makes no difference. -/
theorem bind {x : Handling τ α} {f : α → Handling τ Response} (hx : Quiet x)
    (hf : ∀ a, Careful (f a)) : Careful (x >>= f) := by
  intro state
  have hleft := hx state
  cases hstep : x state with
  | mk outcome state' =>
    rw [hstep] at hleft
    subst hleft
    cases outcome with
    | ok a =>
      rw [Attempt.bind_of_ok hstep]
      exact hf a state'
    | error response =>
      rw [Attempt.bind_of_error hstep]
      exact ⟨rfl, fun _ => rfl⟩

theorem preparing (h : d.InMemory) {f : Settings → Handling τ Response}
    (hf : ∀ s, s.usesTable = false → Careful (f s)) :
    Careful (Service.preparing d.prepareRegistry >>= f) := by
  intro state
  rw [Attempt.bind_apply, Service.preparing, Attempt.mapError, prepareRegistry_apply h]
  cases hs : d.settings with
  | error f => exact ⟨rfl, fun _ => rfl⟩
  | ok s => exact hf s (h s hs) state

theorem checkingParameters (c : Schema.Checked α) {f : α → Handling τ Response}
    (hf : ∀ a, Careful (f a)) : Careful (Service.checkingParameters c >>= f) := by
  refine bind ?_ hf
  cases c with
  | valid a => exact .pure a
  | invalid issues => exact .fail _
  | untimed fault => exact .fail _

theorem checkingBody (body : Json) (check : Json → Schema.Checked α) {f : α → Handling τ Response}
    (hf : ∀ a, Careful (f a)) : Careful (Service.checkingBody body check >>= f) := by
  refine bind ?_ hf
  unfold Service.checkingBody
  split
  · exact .pure _
  · exact .fail _
  · exact .fail _

/-- Work on the stores is careful when the stores are spared by every failure that is a refusal, and
by every value that is answered with one. -/
theorem performing {x : Attempt Failure (Stores τ) α} {Q : α → Prop} {f : α → Response}
    (hx : Spares Failure.IsRefused Q x) (hf : ∀ a, (f a).IsRefusal → Q a) :
    Careful (Service.performing (onStores x) >>= fun a => Pure.pure (f a)) := by
  intro state
  obtain ⟨herror, hok⟩ := hx state.stores
  obtain ⟨hresponse, hleft⟩ := performing_apply (onStores x) f state
  rw [hresponse, hleft]
  refine ⟨rfl, ?_⟩
  show (answerOf f (x state.stores).1).IsRefusal → (x state.stores).2 = state.stores
  intro hrefusal
  cases houtcome : (x state.stores).1 with
  | ok a =>
    rw [houtcome] at hrefusal
    exact hok a houtcome (hf a hrefusal)
  | error e =>
    rw [houtcome] at hrefusal
    exact herror e houtcome (isRefused_of_ofFailure hrefusal)

/-- Work that only looks is careful whatever is made of it. -/
theorem looking {x : Attempt Failure (Stores τ) α} (hx : Quiet x) (f : α → Response) :
    Careful (Service.performing (onStores x) >>= fun a => Pure.pure (f a)) :=
  performing (hx.spares _ fun _ => True) fun _ _ => trivial

/-- Work that is answered with success is careful when it is spared by refusals. -/
theorem writing {x : Attempt Failure (Stores τ) α} {f : α → Response}
    (hx : Spares Failure.IsRefused (fun _ => False) x) (hf : ∀ a, (f a).status < 400) :
    Careful (Service.performing (onStores x) >>= fun a => Pure.pure (f a)) :=
  performing hx fun a hrefusal => absurd hrefusal.1 (Nat.not_le.2 (hf a))

end Careful

theorem status_ok_lt (value : Json) : (Response.ok value).status < 400 := by
  show 200 < 400
  decide

section

variable (h : d.InMemory) (now : Moment)

include h

theorem health_careful : Careful (health d now) := by
  refine .preparing h fun s hs => ?_
  simp only [hs]
  exact .looking (Registry.stats_quiet (providerStore_isCalm hs d now)) _

theorem listProviders_careful (target : Target) : Careful (listProviders d now target) := by
  refine .preparing h fun s hs => ?_
  refine .checkingParameters _ fun p => ?_
  exact .looking (Registry.list_quiet (providerStore_isCalm hs d now) _ _ _) _

theorem registerProvider_careful (body : Json) : Careful (registerProvider d now body) := by
  refine .preparing h fun s hs => ?_
  -- once the identifier is drawn, session and stores are still those of before
  have hrest : ∀ freshId, Careful (do
      let registration ← checkingBody body
        (requiredBody (Provider.Registration.read .request freshId))
      let record ← performing (onStores (Registry.register (d.providerStore s now)
        (Deployment.registryPolicy s) now registration))
      return ⟨201, .json record.toJson⟩) := by
    intro freshId
    refine .checkingBody _ _ fun registration => ?_
    refine .writing (Registry.register_spares (providerStore_isCalm hs d now) _ now _) fun _ => ?_
    show 201 < 400
    decide
  intro state
  rw [Attempt.bind_of_ok (Attempt.get_apply state)]
  by_cases hdraws : Provider.Registration.drawsId body = true
  · rw [if_pos hdraws]
    exact hrest _ { state with providersDrawn := state.providersDrawn + 1 }
  · rw [if_neg hdraws]
    exact hrest _ state

theorem getProvider_careful (id : Text) : Careful (getProvider d now id) := by
  refine .preparing h fun s hs => ?_
  exact .looking (Registry.get_quiet (providerStore_isCalm hs d now) id) _

theorem removeProvider_careful (id : Text) : Careful (removeProvider d now id) := by
  refine .preparing h fun s hs => ?_
  have hanswer : (fun found : Bool => if found = true then
      (return ⟨204, .empty⟩ : Handling τ Response)
      else return .ofRefusal (.providerNotFound id)) =
      fun found => pure (if found = true then ⟨204, .empty⟩
        else .ofRefusal (.providerNotFound id)) := by
    funext found
    split
    · rfl
    · rfl
  rw [hanswer]
  refine .performing ((providerStore_isCalm hs d now).erase id) ?_
  intro found hrefusal
  cases found with
  | false => rfl
  | true =>
    obtain ⟨hlow, -⟩ := hrefusal
    have hstatus : 400 ≤ 204 := hlow
    omega

theorem updateStatus_careful (id : Text) (body : Json) : Careful (updateStatus d now id body) := by
  refine .preparing h fun s hs => ?_
  refine .checkingBody _ _ fun update => ?_
  exact .writing (Registry.updateStatus_spares (providerStore_isCalm hs d now) id _)
    fun _ => status_ok_lt _

theorem heartbeat_careful (id : Text) (body : Json) : Careful (heartbeat d now id body) := by
  refine .preparing h fun s hs => ?_
  refine .checkingBody _ _ fun update => ?_
  exact .writing (Registry.heartbeat_spares (providerStore_isCalm hs d now) now id _)
    fun _ => status_ok_lt _

theorem applyReputation_careful (id : Text) (body : Json) :
    Careful (applyReputation d now id body) := by
  refine .preparing h fun s hs => ?_
  refine .checkingBody _ _ fun change => ?_
  exact .writing (Registry.applyDelta_spares (providerStore_isCalm hs d now) now id _ _ _)
    fun _ => status_ok_lt _

theorem reputationHistory_careful (id : Text) : Careful (reputationHistory d now id) := by
  refine .preparing h fun s hs => ?_
  exact .looking (Registry.history_quiet (providerStore_isCalm hs d now) id) _

theorem discover_careful (body : Json) : Careful (discover d now body) := by
  refine .preparing h fun s hs => ?_
  refine .checkingBody _ _ fun request => ?_
  exact .looking (Registry.discover_quiet (providerStore_isCalm hs d now) _ _ _) _

end

/-- Apart from the endpoints of the session, every endpoint is careful. -/
theorem answer_careful (h : d.InMemory) (now : Moment) (target : Target) (body : List UInt8)
    (id : Text) {endpoint : Endpoint} (hissue : endpoint ≠ .issueChallenge)
    (hverify : endpoint ≠ .verifyAnswer) : Careful (answer d now target body id endpoint) := by
  cases endpoint with
  | health => exact health_careful h now
  | issueChallenge => exact absurd rfl hissue
  | verifyAnswer => exact absurd rfl hverify
  | listProviders => exact listProviders_careful h now target
  | registerProvider => exact .bind (.ofExcept _) fun body => registerProvider_careful h now body
  | getProvider => exact getProvider_careful h now id
  | removeProvider => exact removeProvider_careful h now id
  | updateStatus => exact .bind (.ofExcept _) fun body => updateStatus_careful h now id body
  | heartbeat => exact .bind (.ofExcept _) fun body => heartbeat_careful h now id body
  | applyReputation => exact .bind (.ofExcept _) fun body => applyReputation_careful h now id body
  | reputationHistory => exact reputationHistory_careful h now id
  | discover => exact .bind (.ofExcept _) fun body => discover_careful h now body

/-! ## Endpoints of the session -/

section

variable (h : d.InMemory) (now : Moment) (body : Json) (state : State τ)

include h

/-- A request for a challenge changes nothing, or it is one call of the session. -/
theorem issueChallenge_cases :
    (issueChallenge d now body state).2 = state ∨
      ∃ s p, ∃ request : ChallengeRequest, d.sessionSettings = .ok (s, p) ∧
        requiredBody (ChallengeRequest.read .request) body = .valid request ∧
        (issueChallenge d now body state).2 = { state with
          session := (Session.issue p now request.publicKey request.lifetime state.session).2 } ∧
        responseOf (issueChallenge d now body state).1 =
          answerOf (fun c => .ok (Identity.ChallengeResponse.mk c c.template).toJson)
            (Session.issue p now request.publicKey request.lifetime state.session).1 := by
  cases hs : d.sessionSettings with
  | error f =>
    rw [issueChallenge, Attempt.bind_of_error (preparing_of_error h state hs)]
    exact .inl rfl
  | ok settings =>
    obtain ⟨s, p⟩ := settings
    rw [issueChallenge, Attempt.bind_of_ok (preparing_of_ok h state hs)]
    dsimp only
    rcases checkingBody_cases body (requiredBody (ChallengeRequest.read .request)) state with
      ⟨request, hread, hcheck⟩ | ⟨response, hcheck, -⟩
    · obtain ⟨hresponse, hleft⟩ := performing_apply
        (onSession (Session.issue p now request.publicKey request.lifetime))
        (fun c => .ok (Identity.ChallengeResponse.mk c c.template).toJson) state
      refine .inr ⟨s, p, request, rfl, hread, ?_⟩
      rw [Attempt.bind_of_ok hcheck]
      exact ⟨hleft, hresponse⟩
    · rw [Attempt.bind_of_error hcheck]
      exact .inl rfl

/-- An answer to a challenge is no verdict and changes nothing, or it is one call of the session. -/
theorem verifyAnswer_cases :
    ((verifyAnswer d now body state).2 = state ∧
        (responseOf (verifyAnswer d now body state).1).status ≠ 401) ∨
      ∃ s p e, d.sessionSettings = .ok (s, p) ∧
        requiredBody (SignedEvent.read .request) body = .valid e ∧
        (verifyAnswer d now body state).2 = { state with
          session := (Session.submit p Identity.schnorrVerifier (d.recordStore s now) now e
            (state.session, state.stores)).2.1
          stores := (Session.submit p Identity.schnorrVerifier (d.recordStore s now) now e
            (state.session, state.stores)).2.2 } ∧
        responseOf (verifyAnswer d now body state).1 =
          answerOf (fun record => .ok record.toJson)
            (Session.submit p Identity.schnorrVerifier (d.recordStore s now) now e
              (state.session, state.stores)).1 := by
  cases hs : d.sessionSettings with
  | error f =>
    rw [verifyAnswer, Attempt.bind_of_error (preparing_of_error h state hs)]
    exact .inl ⟨rfl, (by decide : Response.internalError.status ≠ 401)⟩
  | ok settings =>
    obtain ⟨s, p⟩ := settings
    rw [verifyAnswer, Attempt.bind_of_ok (preparing_of_ok h state hs)]
    dsimp only
    rcases checkingBody_cases body (requiredBody (SignedEvent.read .request)) state with
      ⟨e, hread, hcheck⟩ | ⟨response, hcheck, hstatus⟩
    · obtain ⟨hresponse, hleft⟩ := performing_apply
        (onBoth (Session.submit p Identity.schnorrVerifier (d.recordStore s now) now e))
        (fun record => .ok record.toJson) state
      refine .inr ⟨s, p, e, rfl, hread, ?_⟩
      rw [Attempt.bind_of_ok hcheck]
      exact ⟨hleft, hresponse⟩
    · rw [Attempt.bind_of_error hcheck]
      exact .inl ⟨rfl, hstatus⟩

end

end ComputeDirectory.Service
