import ComputeDirectory.Proofs.Provider.Range
import ComputeDirectory.Proofs.Sorting
import ComputeDirectory.Provider.Query
import Mathlib

/-!
# What queries ask for and how they rank

Numbers of binary64 other than `nan` are ordered like their values (`Binary64.value`), and values
are in a linear order. So a bound that a number does not miss is one that it meets, as long as
neither of them is `nan`: readers see to that for the numbers of a query and for scores and prices,
but the memory of a provider may be any number at all (`Query.admits_iff`). A bound that is not
missed is not missed when it is relaxed, whatever the number is, so a query admits what a stricter
one admits (`Query.IsAsStrictAs.admits`).

A provider outranks another one by a higher score, or by the same score and a lower price. This is
the order of a key (`Record.rank`), so ranking is sorting by a key: the ranking is told by
`Query.ranked_perm` and `Query.ranked_pairwise`, and it commutes with filters
(`Query.filter_ranked`).
-/

namespace ComputeDirectory

namespace Binary64

/-! ## The order of numbers -/

/-- A number in units of `2 ^ -1074`; `nan` has no value of its own. -/
def value : Binary64 → EInt
  | .nan | .infinity true => ⊥
  | .infinity false => ⊤
  | .finite negative magnitude => signedUnits negative magnitude.units

variable {x y : Binary64}

theorem lt_iff_value (hx : x ≠ .nan) (hy : y ≠ .nan) : x.lt y = true ↔ x.value < y.value := by
  cases x with
  | nan => exact absurd rfl hx
  | infinity s =>
    cases y with
    | nan => exact absurd rfl hy
    | infinity t => cases s <;> cases t <;> simp [lt, value]
    | finite t n => cases s <;> simp [lt, value, bot_lt_iff_ne_bot]
  | finite s m =>
    cases y with
    | nan => exact absurd rfl hy
    | infinity t => cases t <;> simp [lt, value, lt_top_iff_ne_top]
    | finite t n => simp [lt, value]

theorem eq_iff_value (hx : x ≠ .nan) (hy : y ≠ .nan) : x.eq y = true ↔ x.value = y.value := by
  cases x with
  | nan => exact absurd rfl hx
  | infinity s =>
    cases y with
    | nan => exact absurd rfl hy
    | infinity t => cases s <;> cases t <;> simp [eq, value]
    | finite t n =>
      have htop := (WithBotTop.coe_ne_top (signedUnits t n.units)).symm
      have hbot := (WithBotTop.coe_ne_bot (signedUnits t n.units)).symm
      cases s <;> simp [eq, value, htop, hbot]
  | finite s m =>
    cases y with
    | nan => exact absurd rfl hy
    | infinity t => cases t <;> simp [eq, value]
    | finite t n => simp [eq, value, WithBotTop.coe_injective.eq_iff]

theorem le_iff_value (hx : x ≠ .nan) (hy : y ≠ .nan) : x.le y = true ↔ x.value ≤ y.value := by
  rw [le, Bool.or_eq_true, lt_iff_value hx hy, eq_iff_value hx hy, le_iff_lt_or_eq]

/-- A number that does not miss a bound meets it, unless one of them is `nan`. -/
theorem not_lt_iff_le (hx : x ≠ .nan) (hy : y ≠ .nan) : (!x.lt y) = true ↔ y.le x = true := by
  rw [Bool.not_eq_true', Bool.eq_false_iff, ne_eq, lt_iff_value hx hy, le_iff_value hy hx, not_lt]

theorem nan_lt (x : Binary64) : nan.lt x = false := rfl

theorem ne_nan_of_lt (h : x.lt y = true) : x ≠ .nan ∧ y ≠ .nan := by
  cases x <;> cases y <;> simp_all [lt]

theorem ne_nan_of_le (h : x.le y = true) : x ≠ .nan ∧ y ≠ .nan := by
  cases x <;> cases y <;> simp_all [le, lt, eq]

theorem lt_of_lt_of_le {z : Binary64} (hxy : x.lt y = true) (hyz : y.le z = true) :
    x.lt z = true := by
  obtain ⟨hx, hy⟩ := ne_nan_of_lt hxy
  obtain ⟨-, hz⟩ := ne_nan_of_le hyz
  rw [lt_iff_value hx hy] at hxy
  rw [le_iff_value hy hz] at hyz
  exact (lt_iff_value hx hz).2 (hxy.trans_le hyz)

theorem lt_of_le_of_lt {z : Binary64} (hxy : x.le y = true) (hyz : y.lt z = true) :
    x.lt z = true := by
  obtain ⟨hx, hy⟩ := ne_nan_of_le hxy
  obtain ⟨-, hz⟩ := ne_nan_of_lt hyz
  rw [le_iff_value hx hy] at hxy
  rw [lt_iff_value hy hz] at hyz
  exact (lt_iff_value hx hz).2 (hxy.trans_lt hyz)

end Binary64

namespace Provider

open Schema

/-! ## Requirements -/

/-- The numbers of a query are in range, as far as they are set. -/
structure Query.InRange (q : Query) : Prop where
  minVram : ∀ x, q.minVram = some x → IsPrice x
  minCudaCores : ∀ n, q.minCudaCores = some n → 0 ≤ n
  minReputation : ∀ x, q.minReputation = some x → IsScore x
  maxPrice : ∀ x, q.maxPrice = some x → IsPrice x
  limit : ∀ n, q.limit = some n → 0 < n

theorem inRange_any : Query.any.InRange := by
  refine ⟨?_, ?_, ?_, ?_, ?_⟩ <;> rintro x ⟨⟩

/-- A member that may be absent has a value only if one was read. -/
theorem exists_of_optional {α : Type} {name : String} {read : Reader α}
    {members : List (Text × Json)} {a : α}
    (h : MemberReader.optional name read members = .valid (some a)) :
    ∃ value, read value = .valid a := by
  rcases MemberReader.defaulted_eq_valid_iff.1 h with ⟨value, -, hvalue⟩ | ⟨-, hnone⟩
  · exact ⟨value, (Reader.nullable_eq_valid_some_iff.1 hvalue).2⟩
  · cases hnone

theorem nonneg_of_naturalInteger {value : Json} {n : Int}
    (h : Reader.naturalInteger value = .valid n) : 0 ≤ n := by
  obtain ⟨m, -, hm⟩ := Checked.andThen_eq_valid_iff.1 h
  split at hm
  · next hle =>
    cases hm
    exact hle
  · cases hm

theorem pos_of_positiveInteger {value : Json} {n : Int}
    (h : Reader.positiveInteger value = .valid n) : 0 < n := by
  obtain ⟨m, -, hm⟩ := Checked.andThen_eq_valid_iff.1 h
  split at hm
  · next hlt =>
    cases hm
    exact hlt
  · cases hm

/-- A query that was read is in range. -/
theorem Query.inRange_of_read {source : Source} {value : Json} {q : Query}
    (h : Query.read source value = .valid q) : q.InRange := by
  obtain ⟨members, -, hmembers⟩ := Reader.record_eq_valid_iff.1 h
  obtain ⟨_, limit, h₁, hlimit, hq⟩ := Checked.seq_eq_valid_iff.1 hmembers
  obtain ⟨_, maxPrice, h₂, hmaxPrice, rfl⟩ := Checked.seq_eq_valid_iff.1 h₁
  obtain ⟨_, minReputation, h₃, hminReputation, rfl⟩ := Checked.seq_eq_valid_iff.1 h₂
  obtain ⟨_, status, h₄, -, rfl⟩ := Checked.seq_eq_valid_iff.1 h₃
  obtain ⟨_, gpuModel, h₅, -, rfl⟩ := Checked.seq_eq_valid_iff.1 h₄
  obtain ⟨_, minCudaCores, h₆, hminCudaCores, rfl⟩ := Checked.seq_eq_valid_iff.1 h₅
  obtain ⟨minVram, hminVram, rfl⟩ := Checked.map_eq_valid_iff.1 h₆
  rw [← hq]
  refine ⟨?_, ?_, ?_, ?_, ?_⟩
  · rintro x rfl
    obtain ⟨value, hvalue⟩ := exists_of_optional hminVram
    exact (nonNegative_eq_valid_iff.1 hvalue).2
  · rintro n rfl
    obtain ⟨value, hvalue⟩ := exists_of_optional hminCudaCores
    exact nonneg_of_naturalInteger hvalue
  · rintro x rfl
    obtain ⟨value, hvalue⟩ := exists_of_optional hminReputation
    exact (percentage_eq_valid_iff.1 hvalue).2
  · rintro x rfl
    obtain ⟨value, hvalue⟩ := exists_of_optional hmaxPrice
    exact (nonNegative_eq_valid_iff.1 hvalue).2
  · rintro n rfl
    obtain ⟨value, hvalue⟩ := exists_of_optional hlimit
    exact pos_of_positiveInteger hvalue

/-- A provider meets all requirements that are set. -/
structure Query.Meets (q : Query) (r : Record) : Prop where
  vram : ∀ least, q.minVram = some least → least.le r.capabilities.vram = true
  cudaCores : ∀ least, q.minCudaCores = some least → least ≤ r.capabilities.cudaCores
  gpuModel : ∀ piece, q.gpuModel = some piece → piece.isEmpty = false →
    ∃ name, r.capabilities.gpuModel = some name ∧ piece.symbols <:+: name.symbols
  status : ∀ status, q.status = some status → r.status = status
  reputation : ∀ least, q.minReputation = some least → least.le r.reputation = true
  price : ∀ most, q.maxPrice = some most → r.price.le most = true

namespace Query

theorem asks_iff {α : Type} {requirement : Option α} {holds : α → Bool} :
    asks requirement holds = true ↔ ∀ a, requirement = some a → holds a = true := by
  cases requirement <;> simp [asks]

theorem asksModel_iff {wanted model : Option Text} :
    asksModel wanted model = true ↔ ∀ piece, wanted = some piece → piece.isEmpty = false →
      ∃ name, model = some name ∧ piece.symbols <:+: name.symbols := by
  cases wanted with
  | none => simp [asksModel]
  | some piece => cases model <;> cases h : piece.isEmpty <;> simp [asksModel, occursIn_iff, h]

/-- A least number that was set counts as met exactly if it is, or if the number asked about is
`nan`. -/
theorem asks_least_iff {requirement : Option Binary64} (hleast : requirement ≠ some .nan)
    (x : Binary64) :
    asks requirement (fun least => !x.lt least) = true ↔
      x = .nan ∨ ∀ least, requirement = some least → least.le x = true := by
  rw [asks_iff]
  by_cases hx : x = .nan
  · subst hx
    simp [Binary64.nan_lt]
  · simp only [hx, false_or]
    refine forall₂_congr fun least h => Binary64.not_lt_iff_le hx ?_
    rintro rfl
    exact hleast h

/-- Which providers are admitted: those that meet all requirements, except that the memory `nan`
counts as enough. -/
theorem admits_iff {q : Query} (hq : q.InRange) {r : Record} (hr : r.InRange) :
    q.admits r = true ↔
      Meets { q with minVram := none } r ∧ (r.capabilities.vram ≠ .nan → q.Meets r) := by
  have hvram := asks_least_iff (fun h => (hq.minVram _ h).ne_nan rfl) r.capabilities.vram
  have hreputation := asks_least_iff (fun h => (hq.minReputation _ h).ne_nan rfl) r.reputation
  have hprice : asks q.maxPrice (fun most => !most.lt r.price) = true ↔
      ∀ most, q.maxPrice = some most → r.price.le most = true :=
    asks_iff.trans (forall₂_congr fun most h =>
      Binary64.not_lt_iff_le (hq.maxPrice most h).ne_nan hr.price.ne_nan)
  simp only [hr.reputation.ne_nan, false_or] at hreputation
  simp only [admits, Bool.and_eq_true, hvram, hreputation, hprice, asksModel_iff, asks_iff,
    beq_iff_eq, Bool.not_eq_true', decide_eq_false_iff_not, Int.not_lt]
  constructor
  · rintro ⟨⟨⟨⟨⟨hstatus, hmemory⟩, hcores⟩, hmodel⟩, hscore⟩, hcost⟩
    refine ⟨⟨by rintro _ ⟨⟩, hcores, hmodel, hstatus, hscore, hcost⟩, fun hnan => ?_⟩
    exact ⟨hmemory.resolve_left hnan, hcores, hmodel, hstatus, hscore, hcost⟩
  · rintro ⟨h, hmeets⟩
    refine ⟨⟨⟨⟨⟨h.status, ?_⟩, h.cudaCores⟩, h.gpuModel⟩, h.reputation⟩, h.price⟩
    by_cases hnan : r.capabilities.vram = .nan
    · exact .inl hnan
    · exact .inr (hmeets hnan).vram

/-! ## Stricter queries -/

/-- Every requirement of the second query is set in the first one too, and is no weaker there. -/
structure IsAsStrictAs (strict lax : Query) : Prop where
  minVram : ∀ least, lax.minVram = some least →
    ∃ more, strict.minVram = some more ∧ least.le more = true
  minCudaCores : ∀ least, lax.minCudaCores = some least →
    ∃ more, strict.minCudaCores = some more ∧ least ≤ more
  gpuModel : ∀ piece, lax.gpuModel = some piece → piece.isEmpty = false →
    ∃ longer, strict.gpuModel = some longer ∧ piece.symbols <:+: longer.symbols
  status : ∀ status, lax.status = some status → strict.status = some status
  minReputation : ∀ least, lax.minReputation = some least →
    ∃ more, strict.minReputation = some more ∧ least.le more = true
  maxPrice : ∀ most, lax.maxPrice = some most →
    ∃ less, strict.maxPrice = some less ∧ less.le most = true

/-- A requirement holds if it follows from one that is set and holds. -/
theorem asks_of_stricter {α : Type} {lax strict : Option α} {holds : α → Bool}
    (hstrict : ∀ a, lax = some a → ∃ b, strict = some b ∧ (holds b = true → holds a = true))
    (h : asks strict holds = true) : asks lax holds = true := by
  rw [asks_iff] at h ⊢
  intro a ha
  obtain ⟨b, hb, hfollows⟩ := hstrict a ha
  exact hfollows (h b hb)

/-- A number that does not miss a bound does not miss a lower one; this goes for `nan` too. -/
theorem asks_least_of_stricter {lax strict : Option Binary64}
    (hstrict : ∀ least, lax = some least → ∃ more, strict = some more ∧ least.le more = true)
    (x : Binary64) (h : asks strict (fun least => !x.lt least) = true) :
    asks lax (fun least => !x.lt least) = true := by
  refine asks_of_stricter (fun least hleast => ?_) h
  obtain ⟨more, hmore, hle⟩ := hstrict least hleast
  refine ⟨more, hmore, fun hmet => ?_⟩
  rw [Bool.not_eq_true', Bool.eq_false_iff] at hmet ⊢
  exact fun hmissed => hmet (Binary64.lt_of_lt_of_le hmissed hle)

/-- A name that has a piece has the pieces of that piece. -/
theorem asksModel_of_stricter {lax strict model : Option Text}
    (hstrict : ∀ piece, lax = some piece → piece.isEmpty = false →
      ∃ longer, strict = some longer ∧ piece.symbols <:+: longer.symbols)
    (h : asksModel strict model = true) : asksModel lax model = true := by
  rw [asksModel_iff] at h ⊢
  intro piece hpiece hset
  obtain ⟨longer, hlonger, hinfix⟩ := hstrict piece hpiece hset
  have hlongerSet : longer.isEmpty = false := by
    rw [Text.isEmpty, List.isEmpty_eq_false_iff] at hset ⊢
    intro hnil
    rw [hnil] at hinfix
    exact hset (List.infix_nil.1 hinfix)
  obtain ⟨name, hname, hhas⟩ := h longer hlonger hlongerSet
  exact ⟨name, hname, hinfix.trans hhas⟩

/-- What a query admits is admitted by every query that it is as strict as. -/
theorem IsAsStrictAs.admits {strict lax : Query} (h : strict.IsAsStrictAs lax) {r : Record}
    (hr : strict.admits r = true) : lax.admits r = true := by
  simp only [Query.admits, Bool.and_eq_true] at hr ⊢
  obtain ⟨⟨⟨⟨⟨hstatus, hvram⟩, hcores⟩, hmodel⟩, hscore⟩, hprice⟩ := hr
  refine ⟨⟨⟨⟨⟨?_, asks_least_of_stricter h.minVram _ hvram⟩, ?_⟩,
    asksModel_of_stricter h.gpuModel hmodel⟩, asks_least_of_stricter h.minReputation _ hscore⟩, ?_⟩
  · exact asks_of_stricter (fun status hset => ⟨status, h.status status hset, id⟩) hstatus
  · refine asks_of_stricter (fun least hleast => ?_) hcores
    obtain ⟨more, hmore, hle⟩ := h.minCudaCores least hleast
    refine ⟨more, hmore, fun hmet => ?_⟩
    rw [Bool.not_eq_true', decide_eq_false_iff_not, not_lt] at hmet ⊢
    exact hle.trans hmet
  · refine asks_of_stricter (fun most hmost => ?_) hprice
    obtain ⟨less, hless, hle⟩ := h.maxPrice most hmost
    refine ⟨less, hless, fun hmet => ?_⟩
    rw [Bool.not_eq_true', Bool.eq_false_iff] at hmet ⊢
    exact fun hmissed => hmet (Binary64.lt_of_le_of_lt hle hmissed)

/-! ## Ranks -/

/-- The first provider has the higher score, or the same score and the lower price. -/
def Outranks (a b : Record) : Prop :=
  b.reputation.lt a.reputation = true ∨
    a.reputation.eq b.reputation = true ∧ a.price.lt b.price = true

/-- Two providers have the same score and the same price. -/
def Ties (a b : Record) : Prop :=
  a.reputation.eq b.reputation = true ∧ a.price.eq b.price = true

end Query

/-- Score and price as one key: the higher score comes first, then the lower price. -/
def Record.rank (r : Record) : EIntᵒᵈ ×ₗ EInt :=
  toLex (OrderDual.toDual r.reputation.value, r.price.value)

namespace Query

section

variable {a b : Record}

theorem outranks_iff_rank (ha : a.InRange) (hb : b.InRange) : Outranks a b ↔ a.rank < b.rank := by
  rw [Outranks, Binary64.lt_iff_value hb.reputation.ne_nan ha.reputation.ne_nan,
    Binary64.eq_iff_value ha.reputation.ne_nan hb.reputation.ne_nan,
    Binary64.lt_iff_value ha.price.ne_nan hb.price.ne_nan, Record.rank, Record.rank,
    Prod.Lex.toLex_lt_toLex, OrderDual.toDual_lt_toDual, OrderDual.toDual_inj]

theorem ties_iff_rank (ha : a.InRange) (hb : b.InRange) : Ties a b ↔ a.rank = b.rank := by
  rw [Ties, Binary64.eq_iff_value ha.reputation.ne_nan hb.reputation.ne_nan,
    Binary64.eq_iff_value ha.price.ne_nan hb.price.ne_nan, Record.rank, Record.rank,
    toLex_inj, Prod.mk.injEq, OrderDual.toDual_inj]

theorem ranksBefore_eq_rank (ha : a.InRange) (hb : b.InRange) :
    ranksBefore a b = decide (a.rank ≤ b.rank) := by
  rw [Bool.eq_iff_iff, decide_eq_true_eq, ranksBefore, Bool.or_eq_true, Bool.and_eq_true,
    Binary64.not_lt_iff_le hb.price.ne_nan ha.price.ne_nan,
    Binary64.lt_iff_value hb.reputation.ne_nan ha.reputation.ne_nan,
    Binary64.eq_iff_value ha.reputation.ne_nan hb.reputation.ne_nan,
    Binary64.le_iff_value ha.price.ne_nan hb.price.ne_nan, Record.rank, Record.rank,
    Prod.Lex.toLex_le_toLex, OrderDual.toDual_lt_toDual, OrderDual.toDual_inj]

end

section

variable {records : List Record} (hrecords : ∀ r ∈ records, r.InRange)

theorem ranked_perm (records : List Record) : (ranked records).Perm records :=
  List.mergeSort_perm ..

include hrecords

theorem inRange_filter (p : Record → Bool) : ∀ r ∈ records.filter p, r.InRange :=
  fun r hr => hrecords r (List.mem_filter.1 hr).1

/-- Records in range are ranked by one key. -/
theorem ranked_eq_sortBy : ranked records = sortBy Record.rank records :=
  mergeSort_eq_sortBy fun a ha b hb => ranksBefore_eq_rank (hrecords a ha) (hrecords b hb)

/-- Of two ranked records the first one outranks the other, or they tie and it came first. -/
theorem ranked_pairwise :
    (ranked records).Pairwise fun a b =>
      Outranks a b ∨ Ties a b ∧ [a, b].Sublist records := by
  have hsorted := pairwise_sortBy Record.rank records
  rw [← ranked_eq_sortBy hrecords] at hsorted
  refine hsorted.imp_of_mem fun {a b} ha hb h => ?_
  have ha := hrecords a ((ranked_perm records).mem_iff.1 ha)
  have hb := hrecords b ((ranked_perm records).mem_iff.1 hb)
  rwa [outranks_iff_rank ha hb, ties_iff_rank ha hb]

/-- Ranking what passes a test gives what passes it of the ranking. -/
theorem filter_ranked (p : Record → Bool) :
    (ranked records).filter p = ranked (records.filter p) := by
  rw [ranked_eq_sortBy hrecords, filter_sortBy, ranked_eq_sortBy (inRange_filter hrecords p)]

/-- Providers that come in another order are ranked with the same scores and prices. -/
theorem ties_ranked_of_perm {reordered : List Record} (h : records.Perm reordered) :
    List.Forall₂ Ties (ranked records) (ranked reordered) := by
  have hreordered : ∀ r ∈ reordered, r.InRange := fun r hr => hrecords r (h.mem_iff.2 hr)
  have hkeys : (ranked records).map Record.rank = (ranked reordered).map Record.rank := by
    rw [ranked_eq_sortBy hrecords, ranked_eq_sortBy hreordered]
    exact map_key_sortBy_of_perm Record.rank h
  rw [← List.forall₂_eq_eq_eq, List.forall₂_map_left_iff, List.forall₂_map_right_iff,
    List.forall₂_iff_zip] at hkeys
  refine List.forall₂_iff_zip.2 ⟨hkeys.1, fun {a b} hab => ?_⟩
  obtain ⟨ha, hb⟩ := List.of_mem_zip hab
  have ha := hrecords a ((ranked_perm records).mem_iff.1 ha)
  have hb := hreordered b ((ranked_perm reordered).mem_iff.1 hb)
  exact (ties_iff_rank ha hb).2 (hkeys.2 hab)

/-- If no two of them tie, they are ranked alike. -/
theorem ranked_eq_of_perm {reordered : List Record} (h : records.Perm reordered)
    (hties : records.Pairwise fun a b => ¬ Ties a b) : ranked records = ranked reordered := by
  have hreordered : ∀ r ∈ reordered, r.InRange := fun r hr => hrecords r (h.mem_iff.2 hr)
  rw [ranked_eq_sortBy hrecords, ranked_eq_sortBy hreordered]
  refine sortBy_eq_of_perm h (List.pairwise_map.2 (hties.imp_of_mem fun ha hb hab hrank => ?_))
  exact hab ((ties_iff_rank (hrecords _ ha) (hrecords _ hb)).2 hrank)

end

end Query

end Provider

end ComputeDirectory
