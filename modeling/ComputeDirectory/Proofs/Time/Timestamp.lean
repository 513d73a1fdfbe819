import ComputeDirectory.Proofs.Time.Calendar
import ComputeDirectory.Time.Timestamp

/-!
# Timestamps are read as they were written

A timestamp is written as a text that is read as that timestamp, to the microsecond, exactly if it
shows one of the years 1 to 9999 and an offset of less than a day (`ofChars_chars_iff`). Every
timestamp that was read, or taken from the clock, is of this kind (`isWritable_of_ofChars`,
`isWritable_of_ofNumber`, `isWritable_of_ofMoment`).

The parts of a text are read from the front, so each lemma on reading a part allows for what
follows it.
-/

namespace ComputeDirectory

/-- A text has as many octets as characters, or more. -/
theorem length_le_utf8ByteSize (chars : List Char) :
    chars.length ≤ (String.ofList chars).utf8ByteSize := by
  induction chars with
  | nil => simp
  | cons c chars ih =>
    have hsize := Char.utf8Size_pos c
    rw [String.ofList_cons, String.utf8ByteSize_append, String.utf8ByteSize_singleton,
      List.length_cons]
    omega

/-- Where two steps succeed, the first one does, and the second one from there. -/
theorem exists_of_bind_eq_ok {ε α β : Type} {x : Except ε α} {f : α → Except ε β} {b : β}
    (h : (x >>= f) = .ok b) : ∃ a, x = .ok a ∧ f a = .ok b := by
  cases x with
  | error e => cases h
  | ok a => exact ⟨a, rfl, h⟩

namespace Timestamp

/-- A timestamp that can be written: the wall shows one of the years 1 to 9999, and the offset is
less than a day. -/
structure IsWritable (t : Timestamp) : Prop where
  wall_ge : -62135596800000000 ≤ t.wall
  wall_lt : t.wall < 253402300800000000
  offset_natAbs_lt : ∀ minutes, t.offset = some minutes → minutes.natAbs < 1440

/-! ## Numbers of fixed width -/

theorem natOfDigits_padded (width n : Nat) : Text.natOfDigits (padded width n) = n := by
  have hvalue : Text.natOfDigits (padded width n) = Nat.ofDigitChars 10 (padded width n) 0 := rfl
  rw [hvalue, padded, Nat.ofDigitChars_append, Nat.ofDigitChars_replicate_zero, Nat.mul_zero,
    Nat.ofDigitChars_toDigits (by decide) (by decide)]

theorem isDigit_of_mem_padded {width n : Nat} {c : Char} (h : c ∈ padded width n) :
    c.isDigit = true := by
  rcases List.mem_append.1 h with h | h
  · rw [List.eq_of_mem_replicate h]
    rfl
  · exact Nat.isDigit_of_mem_toDigits (by decide) (by decide) h

theorem length_padded {width n : Nat} (hwidth : 0 < width) (h : n < Nat.pow 10 width) :
    (padded width n).length = width := by
  have hlength := (Nat.length_toDigits_le_iff (by decide : 1 < 10) hwidth).2 h
  rw [padded, List.length_append, List.length_replicate]
  omega

/-- The last digit comes off the end. -/
theorem padded_succ {width : Nat} (hwidth : 0 < width) (n : Nat) :
    padded (width + 1) n = padded width (n / 10) ++ [Nat.digitChar (n % 10)] := by
  by_cases h : n < 10
  · have hzero : n / 10 = 0 := by omega
    have hrest : n % 10 = n := by omega
    obtain ⟨width, rfl⟩ : ∃ k, width = k + 1 := ⟨width - 1, by omega⟩
    rw [hzero, hrest, padded, padded, Nat.toDigits_of_lt_base h, Nat.toDigits_of_lt_base (by decide),
      List.length_singleton, List.length_singleton]
    simp only [Nat.add_sub_cancel, List.replicate_succ']
    rfl
  · have hdigits := @Nat.toDigits_eq_if 10 n (by decide)
    rw [if_neg h] at hdigits
    rw [padded, padded, hdigits, List.length_append, List.length_singleton, Nat.add_sub_add_right,
      List.append_assoc]

theorem padded_one {n : Nat} (h : n < 10) : padded 1 n = [Nat.digitChar n] := by
  rw [padded, Nat.toDigits_of_lt_base h]
  rfl

theorem padded_two {n : Nat} (h : n < 100) :
    padded 2 n = [Nat.digitChar (n / 10), Nat.digitChar (n % 10)] := by
  rw [padded_succ (by decide), padded_one (by omega), List.singleton_append]

/-- A number of four digits is two numbers of two digits. -/
theorem padded_four (n : Nat) : padded 4 n = padded 2 (n / 100) ++ padded 2 (n % 100) := by
  have hquot : n / 10 / 10 = n / 100 := by omega
  have htens : n % 100 / 10 = n / 10 % 10 := by omega
  have hunits : n % 100 % 10 = n % 10 := by omega
  rw [padded_succ (by decide), padded_succ (by decide) (n / 10), hquot,
    padded_two (by omega : n % 100 < 100), htens, hunits, List.append_assoc,
    List.singleton_append]

/-! ## Reading the parts -/

theorem twoDigits?_append {n : Nat} (h : n < 100) (rest : List Char) :
    twoDigits? (padded 2 n ++ rest) = some (n, rest) := by
  have hvalue := natOfDigits_padded 2 n
  have hdigit : ∀ c ∈ padded 2 n, c.isDigit = true := fun c hc => isDigit_of_mem_padded hc
  rw [padded_two h] at hvalue hdigit ⊢
  simp [twoDigits?, hdigit _ (List.mem_cons_self ..), hdigit (Nat.digitChar (n % 10)), hvalue]

theorem twoDigits_append {n : Nat} (fault : Fault) (h : n < 100) (rest : List Char) :
    twoDigits fault (padded 2 n ++ rest) = .ok (n, rest) := by
  rw [twoDigits, twoDigits?_append h]

theorem datePart_append {date : Time.CivilDate} (hcivil : date.IsCivil)
    (hyear : 0 ≤ date.year ∧ date.year ≤ 9999) (rest : List Char) :
    datePart (padded 4 date.year.toNat ++ '-' :: (padded 2 date.month.toNat ++
      '-' :: (padded 2 date.day.toNat ++ rest))) = .ok (Time.daysOfCivil date, rest) := by
  obtain ⟨hmonth, hmonth', hday, hday'⟩ := hcivil
  have hlength := Time.daysInMonth_le date.year date.month
  have hsize := length_le_utf8ByteSize (padded 4 date.year.toNat ++ '-' ::
    (padded 2 date.month.toNat ++ '-' :: (padded 2 date.day.toNat ++ rest)))
  simp only [List.length_append, List.length_cons] at hsize
  rw [length_padded (by decide) (by simp only [Nat.pow_eq]; omega),
    length_padded (by decide) (by simp only [Nat.pow_eq]; omega),
    length_padded (by decide) (by simp only [Nat.pow_eq]; omega)] at hsize
  have hyearValue : ((date.year.toNat / 100 : Nat) : Int) * 100 + (date.year.toNat % 100 : Nat) =
      date.year := by omega
  have hmonthValue : ((date.month.toNat : Nat) : Int) = date.month := by omega
  have hdayValue : ((date.day.toNat : Nat) : Int) = date.day := by omega
  rw [datePart, if_neg (by omega), padded_four, List.append_assoc, twoDigits_append _ (by omega)]
  simp only [bind, Except.bind]
  rw [twoDigits_append _ (by omega)]
  simp only [hyphen]
  rw [twoDigits_append _ (by omega)]
  simp only
  rw [twoDigits_append _ (by omega)]
  simp only [hyearValue, hmonthValue, hdayValue]
  rw [if_neg (by omega), if_neg (by omega)]

/-- An offset begins with a sign or a letter. -/
theorem exists_renderOffset_eq_cons (minutes : Int) :
    ∃ c rest, renderOffset (some minutes) = c :: rest ∧ (c = 'Z' ∨ c = '-' ∨ c = '+') := by
  rw [renderOffset]
  split
  · exact ⟨_, _, rfl, .inl rfl⟩
  · split
    · exact ⟨_, _, rfl, .inr (.inl rfl)⟩
    · exact ⟨_, _, rfl, .inr (.inr rfl)⟩

theorem takeWhile_renderOffset (offset : Option Int) :
    (renderOffset offset).takeWhile Char.isDigit = [] ∧
      (renderOffset offset).dropWhile Char.isDigit = renderOffset offset := by
  cases offset with
  | none => exact ⟨rfl, rfl⟩
  | some minutes =>
    obtain ⟨c, rest, hoffset, hc⟩ := exists_renderOffset_eq_cons minutes
    rw [hoffset]
    rcases hc with rfl | rfl | rfl <;> exact ⟨rfl, rfl⟩

theorem microsOfDigits_padded {micro : Nat} (h : micro < 1000000) :
    microsOfDigits (padded 6 micro) = micro := by
  have hlength : (padded 6 micro).length = 6 := length_padded (by decide) h
  rw [microsOfDigits, hlength, List.take_of_length_le (Nat.le_of_eq hlength), Nat.sub_self,
    List.replicate_zero, List.append_nil, natOfDigits_padded]

theorem secondsPart?_append {second micro : Nat} (hsecond : second < 60) (hmicro : micro < 1000000)
    (offset : Option Int) :
    secondsPart? (':' :: (padded 2 second ++ ((if micro = 0 then [] else '.' :: padded 6 micro) ++
      renderOffset offset))) = some (second * 1000000 + micro, renderOffset offset) := by
  simp only [secondsPart?]
  rw [twoDigits?_append (by omega)]
  simp only
  rw [if_neg (by omega)]
  by_cases hzero : micro = 0
  -- without a fraction the offset follows, and it begins with no mark of a fraction
  · rw [if_pos hzero, List.nil_append, hzero]
    cases offset with
    | none => simp only [renderOffset, Nat.add_zero]
    | some minutes =>
      obtain ⟨c, rest, hoffset, hc⟩ := exists_renderOffset_eq_cons minutes
      have hmark : ¬ (c = '.' ∨ c = ',') := by rcases hc with rfl | rfl | rfl <;> decide
      rw [hoffset]
      simp only [if_neg hmark, Nat.add_zero]
  · obtain ⟨htake, hdrop⟩ := takeWhile_renderOffset offset
    have hdigits : ∀ c ∈ padded 6 micro, c.isDigit = true := fun c hc => isDigit_of_mem_padded hc
    have hlength : (padded 6 micro).length = 6 := length_padded (by decide) hmicro
    have hne : (padded 6 micro).isEmpty = false := by
      rw [List.isEmpty_eq_false_iff_exists_mem]
      exact List.exists_mem_of_length_pos (by omega)
    rw [if_neg hzero, List.cons_append]
    simp only [true_or, if_true, List.takeWhile_append_of_pos hdigits,
      List.dropWhile_append_of_pos hdigits, htake, hdrop, List.append_nil, hne,
      microsOfDigits_padded hmicro]
    rfl

theorem offsetMinutes?_padded {minutes : Nat} (h : minutes < 1440) :
    offsetMinutes? (padded 2 (minutes / 60) ++ ':' :: padded 2 (minutes % 60)) =
      some (minutes : Int) := by
  have hminute := twoDigits?_append (by omega : minutes % 60 < 100) []
  rw [List.append_nil] at hminute
  simp only [offsetMinutes?]
  rw [twoDigits?_append (by omega)]
  simp only [hminute]
  rw [if_neg (by omega)]
  congr 1
  omega

theorem offsetPart?_minus (text : List Char) :
    offsetPart? ('-' :: text) = (offsetMinutes? text).map fun m => some (-m) := by
  cases text <;> rfl

theorem offsetPart?_renderOffset {offset : Option Int}
    (h : ∀ minutes, offset = some minutes → minutes.natAbs < 1440) :
    offsetPart? (renderOffset offset) = some offset := by
  cases offset with
  | none => rfl
  | some minutes =>
    have hminutes := offsetMinutes?_padded (h minutes rfl)
    rw [renderOffset]
    by_cases hzero : minutes = 0
    · rw [if_pos hzero, hzero]
      rfl
    · rw [if_neg hzero]
      by_cases hneg : minutes < 0
      · rw [if_pos hneg, offsetPart?_minus, hminutes, Option.map_some]
        congr 2
        omega
      · rw [if_neg hneg]
        simp only [offsetPart?, hminutes, Option.map_some]
        congr 2
        omega

theorem clockPart?_append {time : Nat} (htime : time < 86400000000) {offset : Option Int}
    (hoffset : ∀ minutes, offset = some minutes → minutes.natAbs < 1440) :
    clockPart? ('T' :: (padded 2 (time / 1000000 / 3600) ++
      ':' :: (padded 2 (time / 1000000 / 60 % 60) ++ ':' :: (padded 2 (time / 1000000 % 60) ++
        ((if time % 1000000 = 0 then [] else '.' :: padded 6 (time % 1000000)) ++
          renderOffset offset))))) = some (time, offset) := by
  simp only [clockPart?, true_or, if_true, timePart?]
  rw [twoDigits?_append (by omega)]
  simp only
  rw [twoDigits?_append (by omega)]
  simp only
  rw [if_neg (by omega), secondsPart?_append (by omega) (by omega)]
  simp only [Option.map_some, offsetPart?_renderOffset hoffset]
  congr 2
  omega

/-! ## Reading what was written -/

/-- What is written is read as it was. -/
theorem ofChars_chars {t : Timestamp} (h : t.IsWritable) : ofChars t.chars = .ok t := by
  obtain ⟨hge, hlt, hoffset⟩ := h
  have hlength : Moment.dayLength = 86400000000 := rfl
  have hspan : -719162 ≤ t.wall / Moment.dayLength ∧ t.wall / Moment.dayLength < 2932897 := by
    rw [hlength]
    omega
  have htime : (t.wall % Moment.dayLength).toNat < 86400000000 := by
    rw [hlength]
    omega
  have hwall : t.wall / Moment.dayLength * Moment.dayLength +
      ((t.wall % Moment.dayLength).toNat : Int) = t.wall := by
    rw [hlength]
    omega
  -- the day is one of the years 1 to 9999, which are written with four digits
  have hcivil := Time.isCivil_civilOfDays (t.wall / Moment.dayLength)
  have hdays := Time.daysOfCivil_civilOfDays (t.wall / Moment.dayLength)
  have hyear := hcivil.one_le_year_iff
  have hyear' := hcivil.year_le_iff
  rw [hdays] at hyear hyear'
  simp only [chars, List.append_assoc, List.cons_append]
  rw [ofChars, datePart_append hcivil ⟨by omega, by omega⟩, hdays]
  simp only [ofDate, clockPart?_append htime hoffset, hwall, checkYear]
  rw [if_neg (by omega)]

/-! ## What is read can be written -/

theorem isWritable_of_ofMoment {now : Moment} {t : Timestamp} (h : ofMoment now = .ok t) :
    t.IsWritable := by
  cases hplaced : now.placed with
  | error fault =>
    rw [ofMoment, hplaced] at h
    cases h
  | ok m =>
    rw [ofMoment, hplaced] at h
    cases h
    obtain ⟨rfl, hcalendar⟩ := Moment.placed_eq_ok_iff.1 hplaced
    have hseconds : Moment.seconds m = m / 1000000 := rfl
    simp only [Moment.isInCalendar, Bool.and_eq_true, decide_eq_true_eq] at hcalendar
    refine ⟨?_, ?_, ?_⟩
    · simp only [utc]
      omega
    · simp only [utc]
      omega
    · rintro minutes ⟨⟩
      decide

theorem isWritable_utc {now : Moment} (h : now.isInCalendar = true) : (utc now).IsWritable :=
  isWritable_of_ofMoment (by rw [ofMoment, Moment.placed_eq_ok_iff.2 ⟨rfl, h⟩]; rfl)

theorem isWritable_of_checkYear {t u : Timestamp} (h : checkYear t = .ok u)
    (hwall : t.wall < 253402300800000000)
    (hoffset : ∀ minutes, t.offset = some minutes → minutes.natAbs < 1440) : u.IsWritable := by
  rw [checkYear] at h
  split at h
  · cases h
  · cases h
    exact ⟨by omega, hwall, hoffset⟩

theorem isWritable_of_ofMicros {micros : Int} {t : Timestamp} (h : ofMicros micros = .ok t) :
    t.IsWritable := by
  simp only [ofMicros] at h
  split at h
  · cases h
  · split at h
    · cases h
    · refine isWritable_of_checkYear h ?_ ?_
      · simp only [utc]
        omega
      · rintro minutes ⟨⟩
        decide

theorem isWritable_of_ofNumber {x : Binary64} {t : Timestamp} (h : ofNumber x = .ok t) :
    t.IsWritable := by
  cases x with
  | nan => cases h
  | infinity negative => cases h
  | finite negative magnitude => exact isWritable_of_ofMicros h

/-! ### Bounds of the parts -/

theorem toNat_le_of_isDigit {c : Char} (h : c.isDigit = true) : c.toNat ≤ 57 := by
  simp only [Char.isDigit, Bool.and_eq_true, decide_eq_true_eq] at h
  exact UInt32.le_iff_toNat_le.1 h.2

theorem twoDigits?_lt {text rest : List Char} {n : Nat} (h : twoDigits? text = some (n, rest)) :
    n < 100 := by
  match text, h with
  | a :: b :: text, h =>
    rw [twoDigits?] at h
    split at h
    · next hdigits =>
      rw [Bool.and_eq_true] at hdigits
      have ha := toNat_le_of_isDigit hdigits.1
      have hb := toNat_le_of_isDigit hdigits.2
      have hzero : '0'.toNat = 48 := rfl
      cases h
      simp only [Text.natOfDigits, List.foldl_cons, List.foldl_nil]
      omega
    · cases h

theorem twoDigits_lt {fault : Fault} {text rest : List Char} {n : Nat}
    (h : twoDigits fault text = .ok (n, rest)) : n < 100 := by
  rw [twoDigits] at h
  split at h
  · next found hfound =>
    cases h
    exact twoDigits?_lt hfound
  · cases h

theorem natOfDigits_lt {digits : List Char} (h : ∀ c ∈ digits, c.isDigit = true) :
    Text.natOfDigits digits < Nat.pow 10 digits.length := by
  -- what the digits so far stand for counts once for each value of the digits to come
  have hstep : ∀ n, digits.foldl (fun n c => 10 * n + (c.toNat - '0'.toNat)) n <
      (n + 1) * Nat.pow 10 digits.length := by
    induction digits with
    | nil => simp
    | cons c digits ih =>
      intro n
      have hc := toNat_le_of_isDigit (h c (List.mem_cons_self ..))
      have hzero : '0'.toNat = 48 := rfl
      have hrest := ih (fun d hd => h d (List.mem_cons_of_mem _ hd)) (10 * n + (c.toNat - '0'.toNat))
      have hle : (10 * n + (c.toNat - '0'.toNat) + 1) * Nat.pow 10 digits.length ≤
          (n + 1) * 10 * Nat.pow 10 digits.length := Nat.mul_le_mul_right _ (by omega)
      rw [List.foldl_cons, List.length_cons, Nat.pow_eq, Nat.pow_succ, Nat.mul_comm _ 10,
        ← Nat.mul_assoc]
      exact Nat.lt_of_lt_of_le hrest hle
  have hvalue := hstep 0
  rwa [Nat.zero_add, Nat.one_mul] at hvalue

theorem microsOfDigits_lt {digits : List Char} (h : ∀ c ∈ digits, c.isDigit = true) :
    microsOfDigits digits < 1000000 := by
  have hlength : (digits.take 6 ++ List.replicate (6 - digits.length) '0').length = 6 := by
    rw [List.length_append, List.length_take, List.length_replicate]
    omega
  have hlt : microsOfDigits digits <
      Nat.pow 10 (digits.take 6 ++ List.replicate (6 - digits.length) '0').length := by
    apply natOfDigits_lt
    intro c hc
    rcases List.mem_append.1 hc with hc | hc
    · exact h c (List.mem_of_mem_take hc)
    · rw [List.eq_of_mem_replicate hc]
      rfl
  rwa [hlength] at hlt

theorem isDigit_of_mem_takeWhile {c : Char} {text : List Char}
    (h : c ∈ text.takeWhile Char.isDigit) : c.isDigit = true := by
  have hall := @List.all_takeWhile _ Char.isDigit text
  rw [List.all_eq_true] at hall
  exact hall c h

theorem secondsPart?_lt {text rest : List Char} {micro : Nat}
    (h : secondsPart? text = some (micro, rest)) : micro < 60000000 := by
  unfold secondsPart? at h
  split at h
  · next more =>
    split at h
    · cases h
    · next second left hsecond =>
      split at h
      · cases h
      · next hle =>
        split at h
        · next c more =>
          split at h
          · simp only at h
            split at h
            · cases h
            · cases h
              have hmicro : microsOfDigits (more.takeWhile Char.isDigit) < 1000000 :=
                microsOfDigits_lt fun c hc => isDigit_of_mem_takeWhile hc
              omega
          · cases h
            omega
        · cases h
          omega
  · cases h
    decide

theorem timePart?_lt {text rest : List Char} {micro : Nat}
    (h : timePart? text = some (micro, rest)) : micro < 86400000000 := by
  unfold timePart? at h
  split at h
  · next hour more hhour =>
    split at h
    · next minute left hminute =>
      split at h
      · cases h
      · next hle =>
        obtain ⟨⟨second, rest'⟩, hsecond, heq⟩ := Option.map_eq_some_iff.1 h
        cases heq
        have hlt := secondsPart?_lt hsecond
        omega
    · cases h
  · cases h

theorem offsetMinutes?_lt {text : List Char} {minutes : Int}
    (h : offsetMinutes? text = some minutes) : minutes.natAbs < 1440 := by
  unfold offsetMinutes? at h
  split at h
  · next hour rest hhour =>
    simp only at h
    split at h
    · split at h
      · cases h
      · cases h
        omega
    · cases h
  · cases h

theorem offsetPart?_lt {text : List Char} {offset : Option Int}
    (h : offsetPart? text = some offset) {minutes : Int} (hoffset : offset = some minutes) :
    minutes.natAbs < 1440 := by
  subst hoffset
  unfold offsetPart? at h
  split at h
  · cases h
  · cases h
    decide
  · cases h
    decide
  · obtain ⟨found, hfound, heq⟩ := Option.map_eq_some_iff.1 h
    cases heq
    exact offsetMinutes?_lt hfound
  · split at h
    · obtain ⟨found, hfound, heq⟩ := Option.map_eq_some_iff.1 h
      cases heq
      rw [Int.natAbs_neg]
      exact offsetMinutes?_lt hfound
    · cases h

theorem clockPart?_bounds {text : List Char} {micro : Nat} {offset : Option Int}
    (h : clockPart? text = some (micro, offset)) :
    micro < 86400000000 ∧ ∀ minutes, offset = some minutes → minutes.natAbs < 1440 := by
  unfold clockPart? at h
  split at h
  · split at h
    · split at h
      · next time left htime =>
        obtain ⟨found, hfound, heq⟩ := Option.map_eq_some_iff.1 h
        cases heq
        exact ⟨timePart?_lt htime, fun _ hoffset => offsetPart?_lt hfound hoffset⟩
      · cases h
    · cases h
  · cases h

theorem datePart_lt {text rest : List Char} {days : Int} (h : datePart text = .ok (days, rest)) :
    days < 2932897 := by
  unfold datePart at h
  split at h
  · cases h
  obtain ⟨⟨century, _⟩, hcentury, h⟩ := exists_of_bind_eq_ok h
  obtain ⟨⟨year, _⟩, hyear, h⟩ := exists_of_bind_eq_ok h
  obtain ⟨_, -, h⟩ := exists_of_bind_eq_ok h
  obtain ⟨⟨month, _⟩, hmonth, h⟩ := exists_of_bind_eq_ok h
  obtain ⟨_, -, h⟩ := exists_of_bind_eq_ok h
  obtain ⟨⟨day, _⟩, hday, h⟩ := exists_of_bind_eq_ok h
  simp only at h
  split at h
  · cases h
  next hmonths =>
  split at h
  · cases h
  next hdays =>
  cases h
  have hcentury' := twoDigits_lt hcentury
  have hyear' := twoDigits_lt hyear
  have hcivil : Time.CivilDate.IsCivil ⟨(century : Int) * 100 + year, month, day⟩ :=
    ⟨by simp only; omega, by simp only; omega, by simp only; omega, by simp only; omega⟩
  exact hcivil.year_le_iff.1 (by simp only; omega)

/-- What was read from a text can be written. -/
theorem isWritable_of_ofChars {text : List Char} {t : Timestamp} (h : ofChars text = .ok t) :
    t.IsWritable := by
  unfold ofChars at h
  split at h
  · next days rest hdate =>
    have hdays := datePart_lt hdate
    unfold ofDate at h
    split at h
    · refine isWritable_of_checkYear h ?_ (by simp)
      simp only [Moment.dayLength]
      omega
    · next micro offset hclock =>
      obtain ⟨hmicro, hoffset⟩ := clockPart?_bounds hclock
      refine isWritable_of_checkYear h ?_ hoffset
      simp only [Moment.dayLength]
      omega
    · cases h
  · split at h
    · exact isWritable_of_ofMicros h
    · split at h
      · next u hnumber =>
        cases h
        exact isWritable_of_ofNumber hnumber
      · cases h
      · cases h
    · cases h

theorem ofChars_chars_iff {t : Timestamp} : ofChars t.chars = .ok t ↔ t.IsWritable :=
  ⟨isWritable_of_ofChars, ofChars_chars⟩

end Timestamp

end ComputeDirectory
