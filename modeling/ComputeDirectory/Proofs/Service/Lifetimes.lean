import ComputeDirectory.Proofs.Identity.Coherence
import ComputeDirectory.Proofs.Schema.Integers
import ComputeDirectory.Proofs.Service.Endpoints

/-!
# Lifetimes that reach the service

A lifetime comes from the body of a request or from an environment variable. Both are read with the
limit on the digits of integers, so a lifetime that is asked for over the service can be written, and
a session never registers a challenge that it does not hand out (`isNameable_of_request`).
-/

namespace ComputeDirectory

open Schema (Checked MemberReader Reader)

/-! ## Settings -/

/-- Environment variables are texts, so they hold no integers. -/
theorem Settings.holdsShort_members (env : Environment) :
    ∀ m ∈ members env, m.2.HoldsShort := by
  suffices h : ∀ found : List (Text × Json), (∀ m ∈ found, m.2.HoldsShort) →
      ∀ m ∈ env.foldl (fun found v =>
        Json.setMember (.ofChars (v.1.toList.map lowered)) (.str v.2) found) found,
        m.2.HoldsShort from h [] (by simp)
  -- on the variables, with those that were filed before left open
  induction env with
  | nil => exact fun found hfound => hfound
  | cons v env ih => exact fun found hfound => ih _ (Json.holdsShort_setMember (.str _) hfound)

/-- The lifetime of challenges that the settings give can be written. -/
theorem Settings.isShort_challengeLifetime {env : Environment} {s : Settings}
    (h : read env = .valid s) : Json.isShort s.challengeLifetime = true := by
  obtain ⟨_, maintenanceEnabled, h₁, -, hs⟩ := Checked.seq_eq_valid_iff.1 h
  obtain ⟨_, discoveryLimit, h₂, -, rfl⟩ := Checked.seq_eq_valid_iff.1 h₁
  obtain ⟨_, defaultReputation, h₃, -, rfl⟩ := Checked.seq_eq_valid_iff.1 h₂
  obtain ⟨_, heartbeatTimeout, h₄, -, rfl⟩ := Checked.seq_eq_valid_iff.1 h₃
  obtain ⟨_, consumedRetention, h₅, -, rfl⟩ := Checked.seq_eq_valid_iff.1 h₄
  obtain ⟨_, sweepEvery, h₆, -, rfl⟩ := Checked.seq_eq_valid_iff.1 h₅
  obtain ⟨_, sweepInterval, h₇, -, rfl⟩ := Checked.seq_eq_valid_iff.1 h₆
  obtain ⟨_, challengeLifetime, h₈, hlifetime, rfl⟩ := Checked.seq_eq_valid_iff.1 h₇
  obtain ⟨_, debug, h₉, -, rfl⟩ := Checked.seq_eq_valid_iff.1 h₈
  obtain ⟨_, port, h₁₀, -, rfl⟩ := Checked.seq_eq_valid_iff.1 h₉
  obtain ⟨_, host, h₁₁, -, rfl⟩ := Checked.seq_eq_valid_iff.1 h₁₀
  obtain ⟨_, tableKey, h₁₂, -, rfl⟩ := Checked.seq_eq_valid_iff.1 h₁₁
  obtain ⟨_, tableUrl, h₁₃, -, rfl⟩ := Checked.seq_eq_valid_iff.1 h₁₂
  obtain ⟨serverKey, -, rfl⟩ := Checked.map_eq_valid_iff.1 h₁₃
  rw [← hs]
  rcases MemberReader.defaulted_eq_valid_iff.1 hlifetime with ⟨value, hmember, hvalue⟩ | ⟨-, hdefault⟩
  · have hholds := Json.holdsShort_of_member? (holdsShort_members env) hmember
    exact Reader.isShort_of_integer hholds hvalue
  · rw [← hdefault]
    rfl

/-! ## Requests -/

/-- A lifetime that a request for a challenge names can be written. -/
theorem Identity.ChallengeRequest.isShort_lifetime {source : Schema.Source} {body : Json}
    {r : ChallengeRequest} (hbody : body.HoldsShort) (h : read source body = .valid r) :
    ∀ n ∈ r.lifetime, Json.isShort n = true := by
  obtain ⟨members, rfl, hmembers⟩ := Reader.record_eq_valid_iff.1 h
  cases hbody with
  | obj hholds =>
    obtain ⟨_, lifetime, h₁, hlifetime, hr⟩ := Checked.seq_eq_valid_iff.1 hmembers
    obtain ⟨publicKey, -, rfl⟩ := Checked.map_eq_valid_iff.1 h₁
    rw [← hr]
    rintro n rfl
    rcases MemberReader.defaulted_eq_valid_iff.1 hlifetime with ⟨value, hmember, hvalue⟩ | ⟨-, hnone⟩
    · have hinteger := (Reader.nullable_eq_valid_some_iff.1 hvalue).2
      exact Reader.isShort_of_integer (Json.holdsShort_of_member? hholds hmember) hinteger
    · cases hnone

namespace Service

variable {τ : Type} {d : Deployment τ}

theorem holdsShort_of_readBody {octets : List UInt8} {body : Json} (h : readBody octets = .ok body) :
    body.HoldsShort := by
  unfold readBody at h
  split at h
  · cases h
    exact .null
  · split at h
    · cases h
    · split at h
      · next hread =>
        cases h
        exact Json.holdsShort_of_read hread
      · cases h
      · cases h
      · cases h

theorem requiredBody_eq_valid_iff {α : Type} {read : Reader α} {body : Json} {a : α} :
    requiredBody read body = .valid a ↔ body ≠ .null ∧ read body = .valid a := by
  cases body <;> simp [requiredBody, Checked.fault]

/-- The settings and the session policy of a deployment come from its environment. -/
theorem sessionPolicy_of_sessionSettings {s : Settings} {p : Identity.Session.Policy}
    (h : d.sessionSettings = .ok (s, p)) : d.settings = .ok s ∧ d.sessionPolicy s = .ok p := by
  rw [Deployment.sessionSettings] at h
  cases hs : d.settings with
  | error f =>
    rw [hs] at h
    cases h
  | ok s' =>
    cases hp : d.sessionPolicy s' with
    | error f =>
      rw [hs] at h
      simp only [bind, Except.bind, hp] at h
      cases h
    | ok p' =>
      rw [hs] at h
      simp only [bind, Except.bind, hp] at h
      cases h
      exact ⟨rfl, hp⟩

theorem defaultLifetime_sessionPolicy {s : Settings} {p : Identity.Session.Policy}
    (h : d.sessionPolicy s = .ok p) : p.defaultLifetime = s.challengeLifetime := by
  rw [Deployment.sessionPolicy] at h
  cases hissuer : Identity.Issuer.Policy.make? s.sweepEvery s.consumedRetention d.challengeToken
      .truncated with
  | error f =>
    rw [hissuer] at h
    cases h
  | ok issuer =>
    rw [hissuer] at h
    cases h
    rfl

/-- The lifetime of a challenge that is asked for over the service can be written. -/
theorem isNameable_of_request {s : Settings} {p : Identity.Session.Policy}
    (hsettings : d.sessionSettings = .ok (s, p)) {octets : List UInt8} {body : Json}
    (hbody : readBody octets = .ok body) {request : Identity.ChallengeRequest}
    (hrequest : requiredBody (Identity.ChallengeRequest.read .request) body = .valid request) :
    p.isNameable request.lifetime = true := by
  obtain ⟨hs, hp⟩ := sessionPolicy_of_sessionSettings hsettings
  rw [Identity.Session.Policy.isNameable, defaultLifetime_sessionPolicy hp]
  cases hlifetime : request.lifetime with
  | none => exact Settings.isShort_challengeLifetime (Checked.toExcept_eq_ok_iff.1 hs)
  | some n =>
    exact Identity.ChallengeRequest.isShort_lifetime (holdsShort_of_readBody hbody)
      (requiredBody_eq_valid_iff.1 hrequest).2 n hlifetime

end Service

end ComputeDirectory
