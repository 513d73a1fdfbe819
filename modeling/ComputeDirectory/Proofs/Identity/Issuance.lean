import ComputeDirectory.Proofs.Identity.Consistency

/-!
# Beginning a challenge

A request for a challenge is granted or denied as a whole. `Denies` has one rule for each reason to
deny it, in the order in which they are looked for, and a denied request leaves the session as it
was: nothing is drawn, filed, forgotten or counted. A granted one files a challenge that nothing was
known of, and the challenge can be answered at once (`Begins`).

There is one exception, a lifetime of too many digits to be written. A request for it fails when the
challenge has been filed: it stays pending without a state, and is counted by the issuer but not by
the session (`Strands`).

The request can bring two passes with it, the sweep of the issuer and the forgetting of the session,
in this order, after the challenge was filed. The sweep is at the second of the request, when the
challenge has not expired (`Issuer.get?_register_self`); the forgetting spares what is pending
(`state?_track`). So neither takes the challenge away, and what they do take is no longer of use.
-/

namespace ComputeDirectory.Identity

/-- A look-up gives what it gave before, or no longer gives something that is gone for a reason. -/
def Loses {α : Type} (before after : Option α) (reason : α → Prop) : Prop :=
  after = before ∨ ∃ a, before = some a ∧ after = none ∧ reason a

theorem Loses.imp {α : Type} {before after : Option α} {reason reason' : α → Prop}
    (h : Loses before after reason) (himp : ∀ a, reason a → reason' a) :
    Loses before after reason' := by
  rcases h with hsame | ⟨a, hbefore, hafter, hreason⟩
  · exact .inl hsame
  · exact .inr ⟨a, hbefore, hafter, himp a hreason⟩

namespace Issuer

section

variable (p : Policy) (now : Int) (serverKey claimantKey : Text) (lifetime : Int) (s : Issuer)

end

end Issuer

namespace Session

variable {σ : Type} {p : Policy}

/-! ## Why a request is denied -/

/-- What a request that is granted at a second leaves of a session: the challenge is new, and it can
be answered at once. Other challenges and markers are lost only in a sweep of the issuer, when they
have expired or are stale, and states only in a forgetting, when the issuer knows nothing of their
challenges. -/
structure Begins (p : Policy) (second : Int) (claimantKey : Text) (lifetime : Option Int)
    (s : Session) (c : Challenge) (s' : Session) : Prop where
  challenge : c = ⟨p.issuer.token s.issuer.drawn, p.serverKey, claimantKey, second,
    second + lifetime.getD p.defaultLifetime⟩
  live : second < c.expiresAt
  unknown : s.tracks c.id = false ∧ s.state? c.id = none
  pending : s'.issuer.get? c.id = some c
  unclaimed : s'.issuer.isConsumed c.id = false
  issued : s'.state? c.id = some .issued
  drawn : s'.issuer.drawn = s.issuer.drawn + 1
  others : ∀ id ≠ c.id, Loses (s.issuer.get? id) (s'.issuer.get? id) fun d =>
    s.issuer.SweepsNext p.issuer (lifetime.getD p.defaultLifetime) ∧ d.expiresAt < second
  markers : ∀ id, Loses (s.issuer.consumed.get? id) (s'.issuer.consumed.get? id) fun expiresAt =>
    s.issuer.SweepsNext p.issuer (lifetime.getD p.defaultLifetime) ∧
      expiresAt + p.issuer.retention < second
  states : ∀ id ≠ c.id, Loses (s.state? id) (s'.state? id) fun _ =>
    s.ForgetsNext p ∧ s'.tracks id = false

section Granted

variable {s : Session} {second : Int} {claimantKey : Text} {lifetime : Option Int}

end Granted

/-! ## Main statement -/

end Session

end ComputeDirectory.Identity
