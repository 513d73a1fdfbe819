import ComputeDirectory.Failure
import ComputeDirectory.Proofs.Time.Timestamp
import ComputeDirectory.Schema.Reader

/-!
# What a valid reading tells

A check gives a valid value only if all its parts do, so a valid record is traced back to valid
members, one lemma for each way to combine checks. Of what the readers of single values let through,
`isWritable_of_timestamp` and the lemmas on bounds say what it is like.
-/

namespace ComputeDirectory

theorem Text.ofString_inj {s t : String} : Text.ofString s = Text.ofString t ↔ s = t := by
  constructor
  · intro h
    have hchars := congrArg Text.chars? h
    rw [ofString, ofString, chars?_ofChars, chars?_ofChars, Option.some.injEq] at hchars
    exact String.toList_inj.1 hchars
  · rintro rfl
    rfl

theorem Json.member?_cons (name other : Text) (value : Json) (members : List (Text × Json)) :
    member? name ((other, value) :: members) =
      if other = name then some value else member? name members := by
  rw [member?, List.find?_cons]
  by_cases h : other = name
  · simp [h]
  · simp [h, member?]

namespace Schema

namespace Checked

variable {α β : Type}

theorem map_eq_valid_iff {f : α → β} {x : Checked α} {b : β} :
    f <$> x = .valid b ↔ ∃ a, x = .valid a ∧ f a = b := by
  cases x with
  | valid a => simp
  | invalid issues =>
    have hmap : f <$> invalid issues = invalid issues := rfl
    simp [hmap]
  | untimed fault =>
    have hmap : f <$> untimed fault = untimed fault := rfl
    simp [hmap]

theorem seq_eq_valid_iff {f : Checked (α → β)} {x : Checked α} {b : β} :
    f <*> x = .valid b ↔ ∃ g a, f = .valid g ∧ x = .valid a ∧ g a = b := by
  constructor
  · intro h
    have hseq : f <*> x = f.seq fun _ => x := rfl
    rw [hseq] at h
    -- both parts are checked, and a fault of either one is a fault of the whole
    cases f with
    | valid g =>
      cases x with
      | valid a => exact ⟨g, a, rfl, rfl, Checked.valid.inj h⟩
      | invalid issues => cases h
      | untimed fault => cases h
    | invalid issues => cases x <;> cases h
    | untimed fault => cases h
  · rintro ⟨g, a, rfl, rfl, rfl⟩
    rfl

theorem andThen_eq_valid_iff {x : Checked α} {f : α → Checked β} {b : β} :
    x.andThen f = .valid b ↔ ∃ a, x = .valid a ∧ f a = .valid b := by
  cases x <;> simp [andThen]

theorem under_eq_valid_iff {place : Place} {x : Checked α} {a : α} :
    x.under place = .valid a ↔ x = .valid a := by
  cases x <;> simp [under]

theorem toExcept_eq_ok_iff {x : Checked α} {a : α} : x.toExcept = .ok a ↔ x = .valid a := by
  cases x <;> simp [toExcept]

end Checked

/-! ## Members -/

namespace MemberReader

variable {α : Type} {name : String} {read : Reader α} {members : List (Text × Json)}

theorem required_eq_valid_iff {a : α} :
    required name read members = .valid a ↔
      ∃ value, Json.member? name members = some value ∧ read value = .valid a := by
  rw [required]
  cases Json.member? name members with
  | none => simp
  | some value => simp [Checked.under_eq_valid_iff]

theorem defaulted_eq_valid_iff {default a : α} :
    defaulted name default read members = .valid a ↔
      (∃ value, Json.member? name members = some value ∧ read value = .valid a) ∨
        Json.member? name members = none ∧ default = a := by
  rw [defaulted]
  cases Json.member? name members with
  | none => simp
  | some value => simp [Checked.under_eq_valid_iff]

theorem stamped_eq_valid_iff {now : Moment} {t : Timestamp} :
    stamped name now members = .valid t ↔
      (∃ value, Json.member? name members = some value ∧ Reader.timestamp value = .valid t) ∨
        Json.member? name members = none ∧ Timestamp.ofMoment now = .ok t := by
  rw [stamped]
  cases Json.member? name members with
  | none => cases Timestamp.ofMoment now <;> simp
  | some value => simp [Checked.under_eq_valid_iff]

end MemberReader

/-! ## Values -/

namespace Reader

variable {α : Type}

theorem record_eq_valid_iff {source : Source} {name : String} {read : MemberReader α} {value : Json}
    {a : α} :
    record source name read value = .valid a ↔
      ∃ members, value = .obj members ∧ read members = .valid a := by
  cases value <;> cases source <;> simp [record, Checked.fault]

theorem atLeast_eq_valid_iff {bound : Nat} {x y : Binary64} :
    atLeast bound x = .valid y ↔ x = y ∧ (Binary64.ofNat bound).le y = true := by
  rw [atLeast]
  split
  · next h =>
    rw [Checked.valid.injEq]
    exact ⟨fun hxy => ⟨hxy, hxy ▸ h⟩, fun hy => hy.1⟩
  · next h =>
    refine ⟨fun hy => absurd hy (by simp [Checked.fault]), ?_⟩
    rintro ⟨rfl, hy⟩
    exact absurd hy h

theorem atMost_eq_valid_iff {bound : Nat} {x y : Binary64} :
    atMost bound x = .valid y ↔ x = y ∧ y.le (Binary64.ofNat bound) = true := by
  rw [atMost]
  split
  · next h =>
    rw [Checked.valid.injEq]
    exact ⟨fun hxy => ⟨hxy, hxy ▸ h⟩, fun hy => hy.1⟩
  · next h =>
    refine ⟨fun hy => absurd hy (by simp [Checked.fault]), ?_⟩
    rintro ⟨rfl, hy⟩
    exact absurd hy h

theorem nonNegative_eq_valid_iff {value : Json} {x : Binary64} :
    nonNegative value = .valid x ↔
      number value = .valid x ∧ (Binary64.ofNat 0).le x = true := by
  rw [nonNegative, Checked.andThen_eq_valid_iff]
  constructor
  · rintro ⟨y, hy, hbound⟩
    obtain ⟨rfl, hle⟩ := atLeast_eq_valid_iff.1 hbound
    exact ⟨hy, hle⟩
  · rintro ⟨hx, hle⟩
    exact ⟨x, hx, atLeast_eq_valid_iff.2 ⟨rfl, hle⟩⟩

theorem percentage_eq_valid_iff {value : Json} {x : Binary64} :
    percentage value = .valid x ↔
      number value = .valid x ∧ x.le (Binary64.ofNat 100) = true ∧
        (Binary64.ofNat 0).le x = true := by
  rw [percentage, Checked.andThen_eq_valid_iff]
  constructor
  · rintro ⟨y, hy, hbound⟩
    obtain ⟨rfl, hle⟩ := atLeast_eq_valid_iff.1 hbound
    obtain ⟨z, hz, hbound⟩ := Checked.andThen_eq_valid_iff.1 hy
    obtain ⟨rfl, hle'⟩ := atMost_eq_valid_iff.1 hbound
    exact ⟨hz, hle', hle⟩
  · rintro ⟨hx, hle', hle⟩
    refine ⟨x, Checked.andThen_eq_valid_iff.2 ⟨x, hx, ?_⟩, atLeast_eq_valid_iff.2 ⟨rfl, hle⟩⟩
    exact atMost_eq_valid_iff.2 ⟨rfl, hle'⟩

theorem nullable_eq_valid_some_iff {read : Reader α} {value : Json} {a : α} :
    nullable read value = .valid (some a) ↔ value ≠ .null ∧ read value = .valid a := by
  cases value <;> simp [nullable, Checked.map_eq_valid_iff]

/-! ### Timestamps -/

/-- A timestamp that was read can be written. -/
theorem isWritable_of_timestamp {value : Json} {t : Timestamp} (h : timestamp value = .valid t) :
    t.IsWritable := by
  unfold timestamp at h
  split at h
  · rw [plain] at h
    split at h
    · split at h
      · next u hu =>
        cases h
        exact Timestamp.isWritable_of_ofChars hu
      · cases h
    · cases h
  · split at h
    · cases h
    · split at h
      · next u hu =>
        cases h
        exact Timestamp.isWritable_of_ofMicros hu
      · cases h
  · split at h
    · next u hu =>
      cases h
      exact Timestamp.isWritable_of_ofNumber hu
    · cases h
  · cases h

theorem timestamp_render {t : Timestamp} (h : t.IsWritable) :
    timestamp (.str t.render) = .valid t := by
  have hchars : (Text.ofString t.render).chars? = some t.chars := by
    rw [Text.ofString, Text.chars?_ofChars, Timestamp.render, String.toList_ofList]
  simp only [timestamp, plain, hchars, Timestamp.ofChars_chars h]

end Reader

end Schema

end ComputeDirectory
