import ComputeDirectory.Proofs.Schema.Reader
import ComputeDirectory.Provider.Basic

/-!
# Scores and prices in their ranges

A score is a number from zero to one hundred, a price a number that is not negative, and `nan` is
neither. Keeping a score between its bounds makes a score of any number at all
(`isScore_clampReputation`), and readers let only scores and prices through.

A record is sound when its score and price are in range and its times can be written. These are the
records that pass the checks of a stored row: a row gives sound records only (`isSound_of_read`),
and a record is read back from its own row exactly if it is sound (`read_toJson_iff`).
-/

namespace ComputeDirectory

namespace Binary64

theorem ofNat_zero : ofNat 0 = zero := by decide +kernel

theorem ofNat_hundred : ofNat 100 = hundred := by decide +kernel

theorem le_of_lt {x y : Binary64} (h : x.lt y = true) : x.le y = true := by
  rw [le, h, Bool.true_or]

end Binary64

namespace Provider

open Schema

/-- A number from zero to one hundred. -/
structure IsScore (x : Binary64) : Prop where
  ne_nan : x ≠ .nan
  zero_le : Binary64.zero.le x = true
  le_hundred : x.le .hundred = true

/-- A number that is not negative. -/
structure IsPrice (x : Binary64) : Prop where
  ne_nan : x ≠ .nan
  zero_le : Binary64.zero.le x = true

theorem isScore_zero : IsScore .zero := ⟨by decide, by decide, by decide +kernel⟩

theorem isScore_hundred : IsScore .hundred := ⟨by decide, by decide +kernel, by decide +kernel⟩

theorem isPrice_zero : IsPrice .zero := ⟨by decide, by decide⟩

/-- Any number becomes a score, `nan` and the infinities included. -/
theorem isScore_clampReputation (x : Binary64) : IsScore (clampReputation x) := by
  have hcapped : ∀ capped : Binary64, capped.le .hundred = true →
      IsScore (if Binary64.zero.lt capped then capped else .zero) := by
    intro capped hle
    by_cases hlt : Binary64.zero.lt capped = true
    · rw [if_pos hlt]
      refine ⟨?_, Binary64.le_of_lt hlt, hle⟩
      rintro rfl
      cases hlt
    · rw [if_neg hlt]
      exact isScore_zero
  unfold clampReputation Binary64.clamp
  by_cases hlt : x.lt .hundred = true
  · simp only [if_pos hlt]
    exact hcapped x (Binary64.le_of_lt hlt)
  · simp only [if_neg hlt]
    exact hcapped .hundred isScore_hundred.le_hundred

/-! ## What readers let through -/

theorem percentage_eq_valid_iff {value : Json} {x : Binary64} :
    Reader.percentage value = .valid x ↔ Reader.number value = .valid x ∧ IsScore x := by
  rw [Reader.percentage_eq_valid_iff, Binary64.ofNat_zero, Binary64.ofNat_hundred]
  constructor
  · rintro ⟨hx, hle, hge⟩
    refine ⟨hx, ?_, hge, hle⟩
    rintro rfl
    cases hle
  · rintro ⟨hx, hscore⟩
    exact ⟨hx, hscore.le_hundred, hscore.zero_le⟩

theorem nonNegative_eq_valid_iff {value : Json} {x : Binary64} :
    Reader.nonNegative value = .valid x ↔ Reader.number value = .valid x ∧ IsPrice x := by
  rw [Reader.nonNegative_eq_valid_iff, Binary64.ofNat_zero]
  constructor
  · rintro ⟨hx, hge⟩
    refine ⟨hx, ?_, hge⟩
    rintro rfl
    cases hge
  · rintro ⟨hx, hprice⟩
    exact ⟨hx, hprice.zero_le⟩

/-! ## Records -/

/-- Score and price of a record are in range. -/
structure Record.InRange (r : Record) : Prop where
  reputation : IsScore r.reputation
  price : IsPrice r.price

/-- A record that passes the checks of a stored row. -/
structure Record.IsSound (r : Record) : Prop extends r.InRange where
  registeredAt : r.registeredAt.IsWritable
  lastSeen : r.lastSeen.IsWritable

/-- A sound record with another status stays sound. -/
theorem Record.IsSound.withStatus {r : Record} (h : r.IsSound) (status : Status) :
    IsSound { r with status } :=
  ⟨⟨h.reputation, h.price⟩, h.registeredAt, h.lastSeen⟩

/-- A sound record that is seen at a time that can be written stays sound. -/
theorem Record.IsSound.withSeen {r : Record} (h : r.IsSound) {seen : Timestamp}
    (hseen : seen.IsWritable) (status : Status) : IsSound { r with lastSeen := seen, status } :=
  ⟨⟨h.reputation, h.price⟩, h.registeredAt, hseen⟩

/-- Score, if there is one, and price of a registration are in range. -/
structure Registration.InRange (r : Registration) : Prop where
  price : IsPrice r.price
  reputation : ∀ x, r.reputation = some x → IsScore x

/-- The scores of a change are in range. -/
structure ReputationChange.InRange (c : ReputationChange) : Prop where
  oldScore : IsScore c.oldScore
  newScore : IsScore c.newScore

theorem isScore_of_defaulted {default x : Binary64} {name : String} {members : List (Text × Json)}
    (hdefault : IsScore default)
    (h : MemberReader.defaulted name default .percentage members = .valid x) : IsScore x := by
  rcases MemberReader.defaulted_eq_valid_iff.1 h with ⟨value, -, hvalue⟩ | ⟨-, rfl⟩
  · exact (percentage_eq_valid_iff.1 hvalue).2
  · exact hdefault

theorem isPrice_of_defaulted {default x : Binary64} {name : String} {members : List (Text × Json)}
    (hdefault : IsPrice default)
    (h : MemberReader.defaulted name default .nonNegative members = .valid x) : IsPrice x := by
  rcases MemberReader.defaulted_eq_valid_iff.1 h with ⟨value, -, hvalue⟩ | ⟨-, rfl⟩
  · exact (nonNegative_eq_valid_iff.1 hvalue).2
  · exact hdefault

theorem isWritable_of_stamped {name : String} {now : Moment} {members : List (Text × Json)}
    {t : Timestamp} (h : MemberReader.stamped name now members = .valid t) : t.IsWritable := by
  rcases MemberReader.stamped_eq_valid_iff.1 h with ⟨value, -, hvalue⟩ | ⟨-, hnow⟩
  · exact Reader.isWritable_of_timestamp hvalue
  · exact Timestamp.isWritable_of_ofMoment hnow

theorem isScore_defaultReputation : IsScore defaultReputation :=
  ⟨by decide +kernel, by decide +kernel, by decide +kernel⟩

theorem text_eq_valid_iff {value : Json} {t : Text} :
    Reader.text value = .valid t ↔ value = .str t := by
  cases value <;> simp [Reader.text, Checked.fault]

/-- What is known of a row and the record that is read from it. -/
theorem Record.of_read {source : Source} {now : Moment} {value : Json} {r : Record}
    (h : Record.read source now value = .valid r) :
    r.IsSound ∧ value.get? "id" = some (.str r.id) := by
  obtain ⟨members, rfl, hmembers⟩ := Reader.record_eq_valid_iff.1 h
  obtain ⟨_, lastSeen, h₁, hlastSeen, hr⟩ := Checked.seq_eq_valid_iff.1 hmembers
  obtain ⟨_, registeredAt, h₂, hregisteredAt, rfl⟩ := Checked.seq_eq_valid_iff.1 h₁
  obtain ⟨_, price, h₃, hprice, rfl⟩ := Checked.seq_eq_valid_iff.1 h₂
  obtain ⟨_, reputation, h₄, hreputation, rfl⟩ := Checked.seq_eq_valid_iff.1 h₃
  obtain ⟨_, status, h₅, -, rfl⟩ := Checked.seq_eq_valid_iff.1 h₄
  obtain ⟨_, capabilities, h₆, -, rfl⟩ := Checked.seq_eq_valid_iff.1 h₅
  obtain ⟨_, endpoint, h₇, -, rfl⟩ := Checked.seq_eq_valid_iff.1 h₆
  obtain ⟨_, publicKey, h₈, -, rfl⟩ := Checked.seq_eq_valid_iff.1 h₇
  obtain ⟨id, hid, rfl⟩ := Checked.map_eq_valid_iff.1 h₈
  obtain ⟨value, hmember, htext⟩ := MemberReader.required_eq_valid_iff.1 hid
  rw [text_eq_valid_iff.1 htext] at hmember
  rw [← hr]
  have hreputation' := isScore_of_defaulted isScore_defaultReputation hreputation
  have hprice' := isPrice_of_defaulted isPrice_zero hprice
  exact ⟨⟨⟨hreputation', hprice'⟩, isWritable_of_stamped hregisteredAt,
    isWritable_of_stamped hlastSeen⟩, hmember⟩

/-- A row gives sound records only. -/
theorem Record.isSound_of_read {source : Source} {now : Moment} {value : Json} {r : Record}
    (h : Record.read source now value = .valid r) : r.IsSound :=
  (of_read h).1

/-- A row shows the identifier of its record. -/
theorem Record.get?_id_of_read {source : Source} {now : Moment} {value : Json} {r : Record}
    (h : Record.read source now value = .valid r) : value.get? "id" = some (.str r.id) :=
  (of_read h).2

/-- A registration that was read is in range. -/
theorem Registration.inRange_of_read {source : Source} {freshId : Text} {value : Json}
    {r : Registration} (h : Registration.read source freshId value = .valid r) : r.InRange := by
  obtain ⟨members, -, hmembers⟩ := Reader.record_eq_valid_iff.1 h
  obtain ⟨_, reputation, h₁, hreputation, hr⟩ := Checked.seq_eq_valid_iff.1 hmembers
  obtain ⟨_, price, h₂, hprice, rfl⟩ := Checked.seq_eq_valid_iff.1 h₁
  obtain ⟨_, capabilities, h₃, -, rfl⟩ := Checked.seq_eq_valid_iff.1 h₂
  obtain ⟨_, endpoint, h₄, -, rfl⟩ := Checked.seq_eq_valid_iff.1 h₃
  obtain ⟨_, publicKey, h₅, -, rfl⟩ := Checked.seq_eq_valid_iff.1 h₄
  obtain ⟨id, -, rfl⟩ := Checked.map_eq_valid_iff.1 h₅
  rw [← hr]
  refine ⟨isPrice_of_defaulted isPrice_zero hprice, ?_⟩
  rintro x rfl
  rcases MemberReader.defaulted_eq_valid_iff.1 hreputation with ⟨value, -, hvalue⟩ | ⟨-, hnone⟩
  · exact (percentage_eq_valid_iff.1 (Reader.nullable_eq_valid_some_iff.1 hvalue).2).2
  · cases hnone

/-! ## Rows that are read back -/

theorem text_ofText? (t : Option Text) : Reader.nullable .text (.ofText? t) = .valid t := by
  cases t <;> rfl

theorem Status.read_name (s : Status) : Status.read (.str s.name) = .valid s := by
  cases s <;> simp [read, Reader.choice, names, name, Text.ofString_inj]

theorem Capabilities.read_toJson (source : Source) (c : Capabilities) :
    Capabilities.read source c.toJson = .valid c := by
  have hnumber : ∀ x, Reader.number (.float x) = .valid x := fun _ => rfl
  have hinteger : Reader.integer (.int c.cudaCores) = .valid c.cudaCores := rfl
  simp [Capabilities.read, Capabilities.toJson, Reader.record, MemberReader.defaulted,
    MemberReader.optional, Json.member?_cons, Text.ofString_inj, hnumber, hinteger, text_ofText?,
    Checked.under]

theorem Record.read_toJson {source : Source} {now : Moment} {r : Record} (h : r.IsSound) :
    Record.read source now r.toJson = .valid r := by
  have hreputation : Reader.percentage (.float r.reputation) = .valid r.reputation :=
    percentage_eq_valid_iff.2 ⟨rfl, h.reputation⟩
  have hprice : Reader.nonNegative (.float r.price) = .valid r.price :=
    nonNegative_eq_valid_iff.2 ⟨rfl, h.price⟩
  simp [Record.read, Record.toJson, Reader.record, MemberReader.required, MemberReader.defaulted,
    MemberReader.optional, MemberReader.stamped, Json.member?_cons, Text.ofString_inj, Reader.text,
    text_ofText?, Capabilities.read_toJson, Status.read_name, hreputation, hprice,
    Reader.timestamp_render h.registeredAt, Reader.timestamp_render h.lastSeen, Checked.under]

theorem Record.get?_id_toJson (r : Record) : r.toJson.get? "id" = some (.str r.id) := by
  simp [Json.get?, toJson, Json.member?_cons]

/-- A change is read back from its row if its time can be written, whatever its scores are. -/
theorem ReputationChange.read_toJson {source : Source} {now : Moment} {c : ReputationChange}
    (h : c.timestamp.IsWritable) : ReputationChange.read source now c.toJson = .valid c := by
  have hnumber : ∀ x, Reader.number (.float x) = .valid x := fun _ => rfl
  simp [ReputationChange.read, ReputationChange.toJson, Reader.record, MemberReader.required,
    MemberReader.defaulted, MemberReader.optional, MemberReader.stamped, Json.member?_cons,
    Text.ofString_inj, Reader.text, text_ofText?, hnumber, Reader.timestamp_render h, Checked.under]

theorem ReputationChange.get?_providerId_toJson (c : ReputationChange) :
    c.toJson.get? "provider_id" = some (.str c.providerId) := by
  simp [Json.get?, toJson, Json.member?_cons]

/-- A record is read back from its row exactly if it is sound. -/
theorem Record.read_toJson_iff {source : Source} {now : Moment} {r : Record} :
    Record.read source now r.toJson = .valid r ↔ r.IsSound :=
  ⟨isSound_of_read, read_toJson⟩

end Provider

end ComputeDirectory
