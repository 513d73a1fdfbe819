import ComputeDirectory.Refusal
import ComputeDirectory.Schema.Checked

/-!
# Failures

Everything that can go wrong inside the directory. A refusal is an answer to the client; the other
failures are faults of what the directory relies on: a collaborator that is out of order, input or
stored rows that do not pass their checks, a text that cannot be written as octets, a number that is
too long to be named, a time that cannot be written down, counted or compared.
-/

namespace ComputeDirectory

/-- Why an operation fails. -/
inductive Failure
  /-- What was asked is refused. -/
  | refused (refusal : Refusal)
  /-- A collaborator failed. -/
  | outage (message : Text)
  /-- Values do not pass their checks. -/
  | invalid (issues : List Schema.Issue)
  /-- A text to be digested holds half of a surrogate pair. -/
  | undigestible (text : Text)
  /-- A number that a refusal has to name has too many digits to be written. -/
  | unwritable
  /-- A timestamp without offset was to be compared with a moment. -/
  | unknownOffset
  /-- A moment or a span of time cannot be worked with. -/
  | time (fault : Moment.Fault)
  deriving DecidableEq, Repr

/-- Whether a failure is an answer to the client. -/
def Failure.IsRefused (f : Failure) : Prop := ∃ refusal, f = .refused refusal

/-- What comes of refusing a request. A refusal is worded at once, so it fails itself when it has to
spell out an integer of too many digits. -/
def Failure.ofRefusal (refusal : Refusal) : Failure :=
  if refusal.numbers.all Json.isShort then .refused refusal else .unwritable

theorem Failure.ofRefusal_of_isShort {refusal : Refusal}
    (h : ∀ n ∈ refusal.numbers, Json.isShort n = true) : ofRefusal refusal = .refused refusal :=
  if_pos (List.all_eq_true.2 h)

theorem Failure.ofRefusal_of_not_isShort {refusal : Refusal} {n : Int}
    (hn : n ∈ refusal.numbers) (h : Json.isShort n = false) : ofRefusal refusal = .unwritable := by
  refine if_neg fun hall => ?_
  rw [List.all_eq_true.1 hall n hn] at h
  cases h

/-- A request that is refused is refused with the refusal that was meant. -/
theorem Failure.eq_of_ofRefusal_eq_refused {refusal meant : Refusal}
    (h : ofRefusal meant = .refused refusal) : refusal = meant := by
  unfold ofRefusal at h
  split at h
  · cases h
    rfl
  · cases h

/-- The timestamp of a moment, which has to lie in the calendar. -/
def stamp (now : Moment) : Except Failure Timestamp := (Timestamp.ofMoment now).mapError .time

theorem stamp_of_isInCalendar {now : Moment} (h : now.isInCalendar = true) :
    stamp now = .ok (.utc now) := by
  rw [stamp, Timestamp.ofMoment, Moment.placed_eq_ok_iff.2 ⟨rfl, h⟩]
  rfl

/-- A clock that no timestamp shows is nobody's fault. -/
theorem not_isRefused_of_stamp {now : Moment} {f : Failure} (h : stamp now = .error f) :
    ¬ f.IsRefused := by
  rintro ⟨refusal, rfl⟩
  cases htime : Timestamp.ofMoment now with
  | ok t =>
    rw [stamp, htime] at h
    cases h
  | error fault =>
    rw [stamp, htime] at h
    cases h

/-- A checked value, or why there is none. -/
def Schema.Checked.toExcept {α : Type} : Schema.Checked α → Except Failure α
  | valid a => .ok a
  | invalid issues => .error (.invalid issues)
  | untimed fault => .error (.time fault)

end ComputeDirectory
