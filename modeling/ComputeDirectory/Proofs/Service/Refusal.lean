import ComputeDirectory.Proofs.Identity.Refusal
import ComputeDirectory.Proofs.Run
import ComputeDirectory.Proofs.Service.Lifetimes

/-!
# Refused requests

With the stores in memory a request that is refused changes nothing, with one exception: a verdict
on the answer to a challenge, which ends that challenge. This holds of every request of every run
(`refusal_spares`).

For the endpoints of the registry that is so in any state. For an answer to a challenge it rests on
the history of the session: its calls are made through the endpoints only, which keep it accounted
for (`Sound`).
-/

namespace ComputeDirectory.Service

open Identity (Session SignedEvent)

variable {τ : Type} {d : Deployment τ}

/-! ## One request -/

/-- A body that cannot be read is answered with no verdict. -/
theorem status_of_readBody {body : List UInt8} {response : Response}
    (h : readBody body = .error response) : response.status ≠ 401 := by
  have hunreadable : Response.unreadableBody.status ≠ 401 := by decide
  unfold readBody at h
  split at h
  · cases h
  · split at h
    · cases h
      exact hunreadable
    · split at h
      · cases h
      · cases h
        rcases status_unprocessable .null _ with hstatus | hstatus
        · rw [hstatus]
          decide
        · rw [hstatus]
          decide
      · cases h
        exact hunreadable
      · cases h
        exact hunreadable

/-- Verdicts, and no other refusals, are answered with 401. -/
theorem statusOf_eq_401_iff (refusal : Refusal) :
    Response.statusOf refusal = 401 ↔ refusal.isVerdict = true := by
  cases refusal <;> simp [Response.statusOf, Refusal.isVerdict]

/-- A request in a run, with what came of it. -/
structure Exchange (τ : Type) where
  now : Moment
  request : Request
  before : State τ
  response : Response
  after : State τ

namespace Exchange

/-- The session and all stores are as they were. -/
def Unchanged (x : Exchange τ) : Prop :=
  x.after.session = x.before.session ∧ x.after.stores = x.before.stores

/-- An answer to a challenge was answered with 401. -/
def IsVerdict (x : Exchange τ) : Prop :=
  (∃ id, x.request.routing = .found .verifyAnswer id) ∧ x.response.status = 401

/-- The challenge that the event in the body names was pending and issued, and has ended as rejected
or expired: it is consumed now. Nothing else has changed. -/
def EndsChallenge (x : Exchange τ) : Prop :=
  ∃ body e c ending, readBody x.request.body = .ok body ∧
    requiredBody (SignedEvent.read .request) body = .valid e ∧ e.challengeId? = some c.id ∧
    x.before.session.issuer.get? c.id = some c ∧ x.before.session.state? c.id = some .issued ∧
    (ending = .rejected ∨ ending = .expired) ∧
    x.after.session = x.before.session.conclude c ending ∧ x.after.stores = x.before.stores

end Exchange

/-- Serves a request. -/
def exchange (d : Deployment τ) (now : Moment) (r : Request) (state : State τ) : Exchange τ where
  now := now
  request := r
  before := state
  response := (handle d now r state).1
  after := (handle d now r state).2

/-- The session is accounted for under the settings of the deployment. -/
def Sound (d : Deployment τ) (state : State τ) : Prop :=
  ∀ s p, d.sessionSettings = .ok (s, p) → Session.Accounted p state.session

section

variable (h : d.InMemory) {now : Moment} {r : Request} {state : State τ}

include h

/-- A refused request for a challenge changes nothing. -/
theorem issueChallenge_refused {body : Json}
    (hrefusal : (responseOf (issueChallenge d now body state).1).IsRefusal) :
    (issueChallenge d now body state).2 = state := by
  rcases issueChallenge_cases h now body state with
    hsame | ⟨s, p, request, -, -, hafter, hresponse⟩
  · exact hsame
  · cases houtcome : (Session.issue p now request.publicKey request.lifetime state.session).1 with
    | ok c =>
      rw [hresponse, houtcome] at hrefusal
      exact absurd hrefusal.1 (Nat.not_le.2 (status_ok_lt _))
    | error f =>
      rw [hresponse, houtcome] at hrefusal
      obtain ⟨refusal, rfl⟩ := isRefused_of_ofFailure hrefusal
      rw [hafter, Session.issue_refused houtcome]

/-- A refused answer ends the challenge that it names if the refusal is a verdict, and changes
nothing otherwise. -/
theorem verifyAnswer_refused (hs : Sound d state) {body : Json}
    (hrefusal : (responseOf (verifyAnswer d now body state).1).IsRefusal) :
    ((responseOf (verifyAnswer d now body state).1).status ≠ 401 ∧
        (verifyAnswer d now body state).2 = state) ∨
      ((responseOf (verifyAnswer d now body state).1).status = 401 ∧
        ∃ e c ending, requiredBody (SignedEvent.read .request) body = .valid e ∧
          e.challengeId? = some c.id ∧ state.session.issuer.get? c.id = some c ∧
          state.session.state? c.id = some .issued ∧ (ending = .rejected ∨ ending = .expired) ∧
          (verifyAnswer d now body state).2 =
            { state with session := state.session.conclude c ending }) := by
  rcases verifyAnswer_cases h now body state with
    ⟨hsame, hstatus⟩ | ⟨s, p, e, hsettings, hread, hafter, hresponse⟩
  · exact .inl ⟨hstatus, hsame⟩
  have hmemory := h s (sessionPolicy_of_sessionSettings hsettings).1
  cases houtcome : (Session.submit p Identity.schnorrVerifier (d.recordStore s now) now e
      (state.session, state.stores)).1 with
  | ok record =>
    rw [hresponse, houtcome] at hrefusal
    exact absurd hrefusal.1 (Nat.not_le.2 (status_ok_lt _))
  | error f =>
    rw [hresponse, houtcome] at hrefusal
    obtain ⟨refusal, rfl⟩ := isRefused_of_ofFailure hrefusal
    have hstatus : (responseOf (verifyAnswer d now body state).1).status =
        Response.statusOf refusal := by
      rw [hresponse, houtcome]
      rfl
    rw [hstatus, hafter]
    rcases (hs s p hsettings).submit_refused (recordStore_avoids hmemory d now) houtcome with
      ⟨hverdict, hleft⟩ | ⟨hverdict, c, ending, htag, hget, hstate, hending, hleft⟩
    · left
      rw [hleft]
      refine ⟨fun h401 => ?_, rfl⟩
      rw [(statusOf_eq_401_iff refusal).1 h401] at hverdict
      cases hverdict
    · right
      rw [hleft]
      exact ⟨(statusOf_eq_401_iff refusal).2 hverdict, e, c, ending, hread, htag, hget, hstate,
        hending, rfl⟩

variable {target : Target} {body : List UInt8} {id : Text}

theorem answer_verifyAnswer_refused (hs : Sound d state)
    (hrefusal : (responseOf (answer d now target body id .verifyAnswer state).1).IsRefusal) :
    ((responseOf (answer d now target body id .verifyAnswer state).1).status ≠ 401 ∧
        (answer d now target body id .verifyAnswer state).2 = state) ∨
      ((responseOf (answer d now target body id .verifyAnswer state).1).status = 401 ∧
        ∃ value e c ending, readBody body = .ok value ∧
          requiredBody (SignedEvent.read .request) value = .valid e ∧
          e.challengeId? = some c.id ∧ state.session.issuer.get? c.id = some c ∧
          state.session.state? c.id = some .issued ∧ (ending = .rejected ∨ ending = .expired) ∧
          (answer d now target body id .verifyAnswer state).2 =
            { state with session := state.session.conclude c ending }) := by
  rw [answer] at hrefusal ⊢
  cases hbody : readBody body with
  | error response => exact .inl ⟨status_of_readBody hbody, rfl⟩
  | ok value =>
    rw [hbody] at hrefusal
    rcases verifyAnswer_refused h hs hrefusal with
      hother | ⟨h401, e, c, ending, hread, htag, hget, hstate, hending, hleft⟩
    · exact .inl hother
    · exact .inr ⟨h401, value, e, c, ending, rfl, hread, htag, hget, hstate, hending, hleft⟩

/-- A refusal that is no answer to a challenge changes nothing. -/
theorem answer_refused {endpoint : Endpoint} (hverify : endpoint ≠ .verifyAnswer)
    (hrefusal : (responseOf (answer d now target body id endpoint state).1).IsRefusal) :
    (answer d now target body id endpoint state).2.session = state.session ∧
      (answer d now target body id endpoint state).2.stores = state.stores := by
  by_cases hissue : endpoint = .issueChallenge
  · subst hissue
    rw [answer] at hrefusal ⊢
    cases hbody : readBody body with
    | error response => exact ⟨rfl, rfl⟩
    | ok value =>
      rw [hbody] at hrefusal
      have hsame := issueChallenge_refused h hrefusal
      exact ⟨congrArg State.session hsame, congrArg State.stores hsame⟩
  · obtain ⟨hsession, hstores⟩ := answer_careful h now target body id hissue hverify state
    exact ⟨hsession, hstores hrefusal⟩

/-- A refused request ends a challenge if it is a verdict, and changes nothing otherwise. -/
theorem exchange_refused (hs : Sound d state)
    (hrefusal : (exchange d now r state).response.IsRefusal) :
    ((exchange d now r state).IsVerdict → (exchange d now r state).EndsChallenge) ∧
      (¬ (exchange d now r state).IsVerdict → (exchange d now r state).Unchanged) := by
  by_cases hfound : ∃ endpoint id, r.routing = .found endpoint id
  · obtain ⟨endpoint, id, hrouting⟩ := hfound
    have hresponse : (exchange d now r state).response =
        r.sent (responseOf (answer d now r.target r.body id endpoint state).1) :=
      congrArg Prod.fst (handle_of_found hrouting)
    have hafter : (exchange d now r state).after =
        (answer d now r.target r.body id endpoint state).2 :=
      congrArg Prod.snd (handle_of_found hrouting)
    rw [hresponse] at hrefusal
    have hstatus := status_of_isRefusal_sent hrefusal
    rw [Response.IsRefusal, hstatus] at hrefusal
    rw [← hresponse] at hstatus
    by_cases hverify : endpoint = .verifyAnswer
    · subst hverify
      rcases answer_verifyAnswer_refused h hs hrefusal with
        ⟨hother, hsame⟩ | ⟨h401, value, e, c, ending, hbody, hread, htag, hget, hstate, hending,
          hleft⟩
      · refine ⟨fun hverdict => absurd (hstatus ▸ hverdict.2) hother, fun _ => ?_⟩
        rw [Exchange.Unchanged, hafter, hsame]
        exact ⟨rfl, rfl⟩
      · refine ⟨fun _ => ?_, fun hverdict => ?_⟩
        · refine ⟨value, e, c, ending, hbody, hread, htag, hget, hstate, hending, ?_⟩
          rw [hafter, hleft]
          exact ⟨rfl, rfl⟩
        · exact absurd ⟨⟨id, hrouting⟩, hstatus.trans h401⟩ hverdict
    · refine ⟨?_, fun _ => ?_⟩
      · rintro ⟨⟨id', hrouting'⟩, -⟩
        cases hrouting.symm.trans hrouting'
        exact absurd rfl hverify
      · rw [Exchange.Unchanged, hafter]
        exact answer_refused h hverify hrefusal
  · have hafter : (exchange d now r state).after = state :=
      handle_of_not_found fun endpoint id hrouting => hfound ⟨endpoint, id, hrouting⟩
    refine ⟨?_, fun _ => ?_⟩
    · rintro ⟨⟨id, hrouting⟩, -⟩
      exact absurd ⟨_, id, hrouting⟩ hfound
    · rw [Exchange.Unchanged, hafter]
      exact ⟨rfl, rfl⟩

/-! ## Runs of requests -/

/-- What a request makes of the session is one call of its own, or nothing. A challenge that it asks
for has a lifetime that can be written. -/
theorem session_handle :
    (handle d now r state).2.session = state.session ∨
      ∃ s p, ∃ call : Session.Call (Stores τ), d.sessionSettings = .ok (s, p) ∧
        call.isOwn = true ∧ call.isNameable p = true ∧ (handle d now r state).2.session =
          (Session.perform p now call (state.session, state.stores)).2.1 := by
  by_cases hfound : ∃ endpoint id, r.routing = .found endpoint id
  · obtain ⟨endpoint, id, hrouting⟩ := hfound
    rw [handle_of_found hrouting]
    by_cases hissue : endpoint = .issueChallenge
    · subst hissue
      rw [answer]
      cases hbody : readBody r.body with
      | error response => exact .inl rfl
      | ok value =>
        rcases issueChallenge_cases h now value state with
          hsame | ⟨s, p, request, hsettings, hread, hleft, -⟩
        · exact .inl (congrArg State.session hsame)
        · exact .inr ⟨s, p, .issue request.publicKey request.lifetime, hsettings, rfl,
            isNameable_of_request hsettings hbody hread, congrArg State.session hleft⟩
    · by_cases hverify : endpoint = .verifyAnswer
      · subst hverify
        rw [answer]
        cases hbody : readBody r.body with
        | error response => exact .inl rfl
        | ok value =>
          rcases verifyAnswer_cases h now value state with
            ⟨hsame, -⟩ | ⟨s, p, e, hsettings, -, hleft, -⟩
          · exact .inl (congrArg State.session hsame)
          · exact .inr ⟨s, p, .submit Identity.schnorrVerifier (d.recordStore s now) e, hsettings,
              rfl, rfl, congrArg State.session hleft⟩
      · exact .inl (answer_careful h now r.target r.body id hissue hverify state).1
  · rw [handle_of_not_found fun endpoint id hrouting => hfound ⟨endpoint, id, hrouting⟩]
    exact .inl rfl

/-- A request keeps the session accounted for. -/
theorem Sound.handle (hs : Sound d state) : Sound d (handle d now r state).2 := by
  intro s p hsettings
  have hsession : (Service.handle d now r state).2.session = state.session ∨ _ := session_handle h
  rcases hsession with
    hsame | ⟨s', p', call, hsettings', hown, hname, hafter⟩
  · rw [hsame]
    exact hs s p hsettings
  · rw [hsettings] at hsettings'
    cases hsettings'
    rw [hafter]
    have hstep : p.InStep := Session.Policy.inStep_of_eq
      (Deployment.sweepEvery_sessionPolicy (sessionPolicy_of_sessionSettings hsettings).2)
    have haccounted : Session.Accounted p (state.session, state.stores).1 := hs s p hsettings
    exact haccounted.perform hstep now hown hname

end

/-- Serves a request of a run. -/
def serve (d : Deployment τ) (input : Moment × Request) (state : State τ) : Exchange τ × State τ :=
  (exchange d input.1 input.2 state, (handle d input.1 input.2 state).2)

/-- What happens when requests are served one after the other, the oldest first. -/
def exchanges (d : Deployment τ) (requests : List (Moment × Request)) (state : State τ) :
    List (Exchange τ) :=
  Run.steps (serve d) requests state

/-- With the stores in memory, whatever is asked of the service in whatever order and at whatever
moments: a refused request changes neither the session nor any store. The one exception is an answer
to a challenge that is refused with 401, which ends that challenge and changes nothing else. -/
theorem refusal_spares (h : d.InMemory) (requests : List (Moment × Request)) (remote : τ) :
    ∀ x ∈ exchanges d requests (.start remote), x.response.IsRefusal →
      (x.IsVerdict → x.EndsChallenge) ∧ (¬ x.IsVerdict → x.Unchanged) := by
  have hrun := Run.steps_induction (serve d) (s := State.start remote)
    (P := fun past state => Sound d state ∧ ∀ x ∈ past, x.response.IsRefusal →
      (x.IsVerdict → x.EndsChallenge) ∧ (¬ x.IsVerdict → x.Unchanged))
    ⟨fun s p _ => Session.accounted_start p, by simp⟩ ?_ requests
  · exact hrun.2
  · rintro past state ⟨now, r⟩ ⟨hs, hpast⟩
    refine ⟨hs.handle h, fun x hx => ?_⟩
    rcases List.mem_append.1 hx with hx | hx
    · exact hpast x hx
    · obtain rfl := List.mem_singleton.1 hx
      exact exchange_refused h hs

/-- A challenge is issued, and an answer of the wrong kind is given to it, twice. The first answer
ends the challenge, and the second one, which is told that it was consumed, changes nothing. -/
theorem refusal_spares_sample :
    let key := String.ofList (List.replicate 64 'a')
    let asks := sampleRequest "POST" ["auth", "challenge"]
      ("\x7b\"public_key\":\"" ++ key ++ "\"\x7d")
    let answers := sampleRequest "POST" ["auth", "verify"]
      ("\x7b\"pubkey\":\"\",\"created_at\":0,\"kind\":1,\"tags\":[[\"challenge\",\"\"]]," ++
        "\"content\":\"\",\"sig\":\"\"\x7d")
    let steps := exchanges (sampleDeployment []) [(0, asks), (0, answers), (0, answers)]
      (.start ⟨[], [], []⟩)
    steps.map (·.response.status) = [200, 401, 409] ∧
      (∀ x ∈ steps.drop 1 |>.take 1, x.EndsChallenge) ∧ ∀ x ∈ steps.drop 2, x.Unchanged := by
  intro key asks answers steps
  have hmemory : (sampleDeployment []).InMemory := by
    intro s hs
    have hunused : (sampleDeployment []).settings.toOption.any Settings.usesTable = false := by
      decide +kernel
    rw [hs] at hunused
    exact hunused
  have hrun := refusal_spares hmemory [(0, asks), (0, answers), (0, answers)] ⟨[], [], []⟩
  have hstatus : steps.map (·.response.status) = [200, 401, 409] := by decide +kernel
  refine ⟨hstatus, ?_, ?_⟩
  · intro x hx
    have hmem : x ∈ steps := List.mem_of_mem_drop (List.mem_of_mem_take hx)
    obtain rfl := List.mem_singleton.1 hx
    have h401 := Option.some.inj (congrArg (·[1]?) hstatus)
    beta_reduce at h401
    refine (hrun _ hmem ?_).1 ⟨⟨"", by decide +kernel⟩, h401⟩
    rw [Response.IsRefusal, h401]
    decide
  · intro x hx
    have hmem : x ∈ steps := List.mem_of_mem_drop hx
    obtain rfl := List.mem_singleton.1 hx
    have h409 := Option.some.inj (congrArg (·[2]?) hstatus)
    beta_reduce at h409
    refine (hrun _ hmem ?_).2 ?_
    · rw [Response.IsRefusal, h409]
      decide
    · rintro ⟨-, h401⟩
      rw [h409] at h401
      cases h401

end ComputeDirectory.Service
