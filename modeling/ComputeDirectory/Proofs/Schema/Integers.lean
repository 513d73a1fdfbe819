import ComputeDirectory.Json.Reader
import ComputeDirectory.Proofs.Json.Short
import ComputeDirectory.Proofs.Schema.Reader

/-!
# Integers that were read can be written

The limit on the digits of an integer is one for reading and writing. So every integer in a JSON text
that was read can be written (`holdsShort_of_read`), and so can every integer that is made of a member:
of a numeral in a text, of a truth value, or of a binary64 number that fits 64 bits
(`isShort_of_integer`).
-/

namespace ComputeDirectory

/-! ## Numerals -/

namespace Text

/-- Digits that follow a number leave less than if they were all replaced by carrying one. -/
theorem foldl_digits_lt (digits : List Char) (hdigits : ∀ c ∈ digits, c.isDigit = true) (n : Nat) :
    digits.foldl (fun n c => 10 * n + (c.toNat - '0'.toNat)) n <
      (n + 1) * Nat.pow 10 digits.length := by
  induction digits generalizing n with
  | nil =>
    show n < (n + 1) * 1
    omega
  | cons c digits ih =>
    have hc : c.toNat - '0'.toNat ≤ 9 := by
      have hdigit := hdigits c (List.mem_cons_self ..)
      rw [Char.isDigit, Bool.and_eq_true, decide_eq_true_eq, decide_eq_true_eq] at hdigit
      have hle : c.toNat ≤ '9'.toNat := hdigit.2
      have hnine : '9'.toNat = '0'.toNat + 9 := by decide
      omega
    have hrest := ih (fun d hd => hdigits d (List.mem_cons_of_mem c hd))
      (10 * n + (c.toNat - '0'.toNat))
    have hpow : Nat.pow 10 (c :: digits).length = 10 * Nat.pow 10 digits.length :=
      Nat.pow_succ'
    rw [List.foldl_cons, hpow, ← Nat.mul_assoc]
    exact Nat.lt_of_lt_of_le hrest (Nat.mul_le_mul_right _ (by omega))

theorem natOfDigits_lt {digits : List Char} (hdigits : ∀ c ∈ digits, c.isDigit = true) :
    natOfDigits digits < Nat.pow 10 digits.length := by
  have h := foldl_digits_lt digits hdigits 0
  rwa [Nat.zero_add, Nat.one_mul] at h

theorem isShort_intOfDigits {digits : List Char} (hdigits : ∀ c ∈ digits, c.isDigit = true)
    (hlength : digits.length ≤ Json.maxDigits) (negative : Bool) :
    Json.isShort (intOfDigits negative digits) = true := by
  have hbound : natOfDigits digits < Json.tooManyDigitsFrom := by
    rw [Json.tooManyDigitsFrom_eq]
    generalize Json.maxDigits = most at hlength
    exact Nat.lt_of_lt_of_le (natOfDigits_lt hdigits) (Nat.pow_le_pow_right (by decide) hlength)
  have habs : (intOfDigits negative digits).natAbs = natOfDigits digits := by
    cases negative with
    | false => exact Int.natAbs_natCast _
    | true => exact (Int.natAbs_neg _).trans (Int.natAbs_natCast _)
  rw [Json.isShort, habs]
  exact decide_eq_true hbound

theorem isShort_of_plainInteger {text : List Char} {n : Int} (h : plainInteger text = .ok n) :
    Json.isShort n = true := by
  unfold plainInteger at h
  dsimp only at h
  split at h
  · cases h
  · split at h
    · cases h
      decide
    · cases h
  · split at h
    · cases h
    · next hlength =>
      split at h
      · cases h
        exact isShort_intOfDigits (List.all_eq_true.1 List.all_takeWhile) (Nat.not_lt.1 hlength) _
      · cases h

theorem isShort_of_integer {text : List Char} {n : Int} (h : integer text = .ok n) :
    Json.isShort n = true := by
  unfold integer at h
  split at h
  · next hplain =>
    cases h
    exact isShort_of_plainInteger hplain
  · cases h
  · split at h
    · next htidied =>
      cases h
      obtain ⟨tidied, -, hplain⟩ := Option.map_eq_some_iff.1 htidied
      exact isShort_of_plainInteger hplain
    · cases h

end Text

/-! ## JSON -/

namespace Json

/-- Every integer that a value holds, at any depth, can be written. -/
inductive HoldsShort : Json → Prop
  | null : HoldsShort .null
  | bool (b : Bool) : HoldsShort (.bool b)
  | int {n : Int} (h : isShort n = true) : HoldsShort (.int n)
  | float (x : Binary64) : HoldsShort (.float x)
  | str (text : Text) : HoldsShort (.str text)
  | arr {items : List Json} (h : ∀ item ∈ items, HoldsShort item) : HoldsShort (.arr items)
  | obj {members : List (Text × Json)} (h : ∀ m ∈ members, HoldsShort m.2) :
    HoldsShort (.obj members)

theorem mem_of_mem_setMember {name : Text} {value : Json} {members : List (Text × Json)}
    {m : Text × Json} (h : m ∈ setMember name value members) :
    m = (name, value) ∨ m ∈ members := by
  induction members with
  | nil => exact .inl (List.mem_singleton.1 h)
  | cons first members ih =>
    obtain ⟨other, v⟩ := first
    rw [setMember] at h
    split at h
    · rcases List.mem_cons.1 h with rfl | h
      · exact .inl rfl
      · exact .inr (List.mem_cons_of_mem _ h)
    · rcases List.mem_cons.1 h with rfl | h
      · exact .inr (List.mem_cons_self ..)
      · rcases ih h with h | h
        · exact .inl h
        · exact .inr (List.mem_cons_of_mem _ h)

theorem holdsShort_setMember {name : Text} {value : Json} {members : List (Text × Json)}
    (hvalue : value.HoldsShort) (hmembers : ∀ m ∈ members, m.2.HoldsShort) :
    ∀ m ∈ setMember name value members, m.2.HoldsShort := by
  intro m hm
  rcases mem_of_mem_setMember hm with rfl | hm
  · exact hvalue
  · exact hmembers m hm

theorem holdsShort_of_member? {name : Text} {value : Json} {members : List (Text × Json)}
    (hmembers : ∀ m ∈ members, m.2.HoldsShort) (h : member? name members = some value) :
    value.HoldsShort := by
  rw [member?] at h
  obtain ⟨m, hfind, rfl⟩ := Option.map_eq_some_iff.1 h
  exact hmembers m (List.mem_of_find?_eq_some hfind)

theorem isDigit_of_mem_digits {text : List Symbol} {c : Char} (h : c ∈ (digits text).1) :
    c.isDigit = true := by
  obtain ⟨s, hs, hchar⟩ := List.mem_filterMap.1 h
  have hdigit : s.satisfies Char.isDigit = true := List.all_eq_true.1 List.all_takeWhile s hs
  cases s with
  | char d =>
    cases hchar
    exact hdigit
  | half code => cases hchar

theorem isDigit_of_wholePart? {text : List Symbol} {whole : List Char} {rest : List Symbol}
    (h : wholePart? text = some (whole, rest)) : ∀ c ∈ whole, c.isDigit = true := by
  unfold wholePart? at h
  split at h
  · cases h
    intro c hc
    rw [List.mem_singleton.1 hc]
    decide
  · dsimp only at h
    split at h
    · cases h
    · cases h
      exact fun c hc => isDigit_of_mem_digits hc

theorem holdsShort_of_number {text left : List Symbol} {v : Json}
    (h : number text = .ok (v, left)) : v.HoldsShort := by
  unfold number at h
  dsimp only at h
  split at h
  · cases h
  · next whole rest hwhole =>
    split at h
    · split at h
      · cases h
      · next hlength =>
        cases h
        exact .int (Text.isShort_intOfDigits (isDigit_of_wholePart? hwhole) (Nat.not_lt.1 hlength) _)
    · cases h
      exact .float _

theorem holdsShort_of_word? {text left : List Symbol} {v : Json} (h : word? text = some (v, left)) :
    v.HoldsShort := by
  obtain ⟨word, hfind, hword⟩ := Option.map_eq_some_iff.1 h
  cases hword
  have hmem := List.mem_of_find?_eq_some hfind
  simp only [words, List.mem_cons, List.not_mem_nil, or_false] at hmem
  rcases hmem with rfl | rfl | rfl | rfl | rfl | rfl
  · exact .null
  · exact .bool true
  · exact .bool false
  · exact .float _
  · exact .float _
  · exact .float _

/-- What the parts of the reader give with some fuel: values, and arrays and objects from what was
found before. -/
structure GivesShort (fuel : Nat) : Prop where
  value : ∀ {depth text v left}, value fuel depth text = .ok (v, left) → v.HoldsShort
  items : ∀ {depth found text v left}, (∀ item ∈ found, item.HoldsShort) →
    items fuel depth found text = .ok (v, left) → v.HoldsShort
  members : ∀ {depth found text v left}, (∀ m ∈ found, m.2.HoldsShort) →
    members fuel depth found text = .ok (v, left) → v.HoldsShort

section

variable {fuel depth : Nat} {text left : List Symbol} {v : Json}

theorem GivesShort.value_succ (hfuel : GivesShort fuel)
    (h : Json.value (fuel + 1) depth text = .ok (v, left)) : v.HoldsShort := by
  rw [Json.value.eq_def] at h
  dsimp only at h
  split at h
  · -- a string
    cases hstring : string _ _ with
    | error fault =>
      rw [hstring] at h
      cases h
    | ok found =>
      rw [hstring] at h
      cases h
      exact .str _
  · split at h
    · cases h
    · split at h
      · cases h
        exact .arr (by simp)
      · exact hfuel.items (by simp) h
  · split at h
    · cases h
    · split at h
      · cases h
        exact .obj (by simp)
      · exact hfuel.members (by simp) h
  · split at h
    · next hword =>
      cases h
      exact holdsShort_of_word? hword
    · exact holdsShort_of_number h

theorem GivesShort.items_succ (hfuel : GivesShort fuel) {found : List Json}
    (hfound : ∀ item ∈ found, item.HoldsShort)
    (h : Json.items (fuel + 1) depth found text = .ok (v, left)) : v.HoldsShort := by
  rw [Json.items.eq_def] at h
  dsimp only at h
  split at h
  · cases h
  · next item rest hvalue =>
    have hall : ∀ later ∈ item :: found, later.HoldsShort :=
      List.forall_mem_cons.2 ⟨hfuel.value hvalue, hfound⟩
    split at h
    · cases h
      exact .arr fun later hlater => hall later (List.mem_reverse.1 hlater)
    · exact hfuel.items hall h
    · cases h

theorem GivesShort.members_succ (hfuel : GivesShort fuel) {found : List (Text × Json)}
    (hfound : ∀ m ∈ found, m.2.HoldsShort)
    (h : Json.members (fuel + 1) depth found text = .ok (v, left)) : v.HoldsShort := by
  rw [Json.members.eq_def] at h
  dsimp only at h
  split at h
  · split at h
    · cases h
    · split at h
      · split at h
        · cases h
        · next hvalue =>
          have hitem := hfuel.value hvalue
          split at h
          · cases h
            exact .obj (holdsShort_setMember hitem hfound)
          · exact hfuel.members (holdsShort_setMember hitem hfound) h
          · cases h
      · cases h
  · cases h

end

theorem givesShort (fuel : Nat) : GivesShort fuel := by
  induction fuel with
  | zero =>
    refine ⟨?_, ?_, ?_⟩
    · rintro depth text v left ⟨⟩
    · rintro depth found text v left - ⟨⟩
    · rintro depth found text v left - ⟨⟩
  | succ fuel ih => exact ⟨ih.value_succ, ih.items_succ, ih.members_succ⟩

/-- Every integer in a text that was read can be written. -/
theorem holdsShort_of_read {depth : Nat} {text : Text} {v : Json} (h : read depth text = .ok v) :
    v.HoldsShort := by
  unfold read at h
  dsimp only at h
  split at h
  · cases h
  · next hvalue =>
    split at h
    · cases h
      exact (givesShort _).value hvalue
    · cases h

end Json

/-! ## Members -/

namespace Schema.Reader

/-- An integer that was read of a member can be written. -/
theorem isShort_of_integer {value : Json} {n : Int} (hvalue : value.HoldsShort)
    (h : integer value = .valid n) : Json.isShort n = true := by
  cases hvalue with
  | int hshort =>
    cases h
    exact hshort
  | bool b =>
    cases h
    cases b <;> decide
  | float x =>
    rw [integer] at h
    split at h
    · cases h
    · split at h
      · cases h
      · split at h
        · next hword =>
          cases h
          rw [Text.isWord, Bool.and_eq_true, Bool.and_eq_true, decide_eq_true_eq, decide_eq_true_eq]
            at hword
          refine Json.isShort_of_natAbs_lt ?_
          have hrange : 9223372036854775808 < Nat.pow 10 20 := by decide
          omega
        · cases h
  | str text =>
    rw [integer, plain] at h
    split at h
    · split at h
      · next hinteger =>
        cases h
        exact Text.isShort_of_integer hinteger
      · cases h
      · cases h
    · cases h
  | null => cases h
  | arr _ => cases h
  | obj _ => cases h

end Schema.Reader

end ComputeDirectory
