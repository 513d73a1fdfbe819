import ComputeDirectory.Proofs.Provider.Query
import ComputeDirectory.Proofs.Registry.Enrolment

/-!
# Finding and discovering providers

A search lists the store once, ranks the providers that the query admits, and cuts the ranking at a
limit; discovery also leaves out the excluded ones before it cuts. Whatever is said of searches here
follows from that ranking (`ranking`, `find_of_all`) and from the laws of ranks, which need scores
and prices in range: a shelf that was given validated registrations only has such records
(`isSound_shelfAfter`), and a table service shows no others.

* `found_meet`: who is found meets the requirements, up to the memory `nan`, which passes for any.
* `find_best_first`: the ranking is complete and in order, and a limit cuts its end.
* `discover_paths_agree`: the two ways of discovery come to the same, and leaving out providers is
  like removing them first.
-/

namespace ComputeDirectory.Registry

open Provider (Record Registration Query takeUpTo takeLimit)
open Attempt (AgreesAt)

variable {σ τ : Type}

/-! ## Limits -/

theorem takeUpTo_of_nonneg {α : Type} {bound : Int} (h : 0 ≤ bound) (items : List α) :
    takeUpTo bound items = items.take bound.toNat := if_pos h

theorem length_takeUpTo {α : Type} {bound : Int} (hbound : 0 ≤ bound) {items : List α}
    (h : bound ≤ items.length) : (takeUpTo bound items).length = bound := by
  rw [takeUpTo_of_nonneg hbound, List.length_take]
  omega

theorem takeLimit_sublist {α : Type} (limit : Option Int) (items : List α) :
    (takeLimit limit items).Sublist items := by
  cases limit with
  | none => exact List.Sublist.refl items
  | some bound =>
    show (takeUpTo bound items).Sublist items
    unfold takeUpTo
    split <;> exact List.take_sublist ..

/-- A limit that is set and positive cuts once and for all. -/
theorem takeLimit_or {α : Type} {limit : Option Int} (hlimit : ∀ n, limit = some n → 0 < n)
    (default : Option Int) (items : List α) :
    takeLimit (limit.or default) (takeLimit limit items) = takeLimit (limit.or default) items := by
  cases limit with
  | none => rfl
  | some n =>
    have hn : 0 ≤ n := Int.le_of_lt (hlimit n rfl)
    show takeUpTo n (takeUpTo n items) = takeUpTo n items
    rw [takeUpTo_of_nonneg hn, takeUpTo_of_nonneg hn, List.take_take, Nat.min_self]

/-! ## Searches -/

/-- The providers that are not among some. -/
def excluding (ids : List Text) (records : List Record) : List Record :=
  records.filter fun r => !ids.contains r.id

@[simp] theorem excluding_nil (records : List Record) : excluding [] records = records :=
  List.filter_eq_self.2 fun _ _ => rfl

theorem excluding_sublist (ids : List Text) (records : List Record) :
    (excluding ids records).Sublist records := List.filter_sublist

/-- The listed providers that a query admits, the best first. -/
def ranking (q : Query) (listed : List Record) : List Record :=
  Query.ranked (listed.filter q.admits)

section

variable {store : ProviderStore σ} {s s' : σ} {listed : List Record}

theorem find_of_all (hall : store.all s = (.ok listed, s')) (q : Query) :
    find store q s = (.ok (takeLimit q.limit (ranking q listed)), s') :=
  Attempt.bind_of_ok hall

theorem find_of_outage {f : Failure} (hall : store.all s = (.error f, s')) (q : Query) :
    find store q s = (.error f, s') :=
  Attempt.bind_of_error hall

theorem mem_ranking_iff {q : Query} {r : Record} :
    r ∈ ranking q listed ↔ r ∈ listed ∧ q.admits r = true := by
  rw [ranking, (Query.ranked_perm _).mem_iff, List.mem_filter]

end

/-- What is found was listed and is admitted. -/
theorem mem_find {store : ProviderStore σ} {q : Query} {s s' : σ} {found : List Record}
    (h : find store q s = (.ok found, s')) :
    ∃ listed, store.all s = (.ok listed, s') ∧ ∀ r ∈ found, r ∈ listed ∧ q.admits r = true := by
  cases hall : store.all s with
  | mk outcome t =>
    cases outcome with
    | error f =>
      rw [find_of_outage hall] at h
      cases h
    | ok listed =>
      rw [find_of_all hall] at h
      cases h
      exact ⟨listed, rfl, fun r hr => mem_ranking_iff.1 ((takeLimit_sublist ..).subset hr)⟩

/-- Discovery, on either way: rank everything, leave out what is excluded, and cut the rest. -/
theorem discover_eq (store : ProviderStore σ) (defaultLimit : Option Int) {q : Query}
    (hq : q.InRange) (exclude : List Text) :
    discover store defaultLimit q exclude =
      (fun ranked => takeLimit (q.limit.or defaultLimit) (excluding exclude ranked)) <$>
        find store { q with limit := none } := by
  funext s
  rw [Attempt.map_apply]
  unfold discover
  cases hall : store.all s with
  | mk outcome s' =>
    cases outcome with
    | error f =>
      rw [find_of_outage hall]
      split
      · exact Attempt.bind_of_error (find_of_outage hall q)
      · exact Attempt.bind_of_error (find_of_outage hall _)
    | ok listed =>
      rw [find_of_all hall]
      split
      · next hnone =>
        -- the short way cuts the ranking twice
        refine (Attempt.bind_of_ok (find_of_all hall q)).trans ?_
        rw [Attempt.pure_apply, takeLimit_or hq.limit, List.isEmpty_iff.1 hnone]
        simp only [excluding_nil]
        rfl
      · exact Attempt.bind_of_ok (find_of_all hall _)

/-- What is discovered was listed and is admitted. -/
theorem mem_discover {store : ProviderStore σ} {defaultLimit : Option Int} {q : Query}
    (hq : q.InRange) {exclude : List Text} {s s' : σ} {found : List Record}
    (h : discover store defaultLimit q exclude s = (.ok found, s')) :
    ∃ listed, store.all s = (.ok listed, s') ∧ ∀ r ∈ found, r ∈ listed ∧ q.admits r = true := by
  rw [discover_eq store defaultLimit hq, Attempt.map_apply] at h
  cases hfind : find store { q with limit := none } s with
  | mk outcome t =>
    rw [hfind] at h
    cases outcome with
    | error f => cases h
    | ok ranked =>
      cases h
      obtain ⟨listed, hall, hranked⟩ := mem_find hfind
      refine ⟨listed, hall, fun r hr => hranked r ?_⟩
      exact (excluding_sublist ..).subset ((takeLimit_sublist ..).subset hr)

/-! ## Listings in range -/

/-- Validated operations leave sound records on a shelf. -/
theorem isSound_shelfAfter (p : Policy) {operations : List (Moment × Operation)}
    (hvalid : ∀ operation ∈ operations, operation.2.IsValidated) :
    (shelfAfter p operations).IsSound := by
  have hcalls : ∀ call ∈ callsOf operations, call.2.IsValidated := by
    intro call hcall
    obtain ⟨⟨now, operation⟩, hoperation, hsome⟩ := List.mem_filterMap.1 hcall
    have hvalid := hvalid _ hoperation
    cases operation with
    | call c =>
      cases hsome
      exact hvalid
    | get id => cases hsome
    | list number size status => cases hsome
    | find q => cases hsome
    | history id => cases hsome
    | stats => cases hsome
  have hempty : Shelf.empty.IsSound := by
    rintro r ⟨⟩
  rw [shelfAfter_eq_final]
  exact (keeps_run (fun now call => perform_keeps shelfStore_givesSound p now) hcalls hempty).1

/-- A table service shows records in range, whatever its rows are. -/
theorem inRange_of_all {b : Table.Backend τ} {now : Moment} {t t' : τ} {listed : List Record}
    (h : (Table.providerStore b now).all t = (.ok listed, t')) : ∀ r ∈ listed, r.InRange := by
  have hsound := ((providerStore_givesSound b now).all t trivial).2 listed (by rw [h])
  exact fun r hr => (hsound r hr).toInRange

/-! ## Who is found -/

/-- Whoever is found, if anyone is, meets the requirements of a query; only for the memory `nan` is
nothing said about the memory. -/
def AllMeet (q : Query) (result : Except Failure (List Record)) : Prop :=
  ∀ found, result = .ok found → ∀ r ∈ found,
    Query.Meets { q with minVram := none } r ∧ (r.capabilities.vram ≠ .nan → q.Meets r)

/-- Searches in a store find providers that meet the requirements if it shows records in range. -/
theorem allMeet_of_inRange {store : ProviderStore σ} {s : σ} {q : Query} (hq : q.InRange)
    (hstore : ∀ listed s', store.all s = (.ok listed, s') → ∀ r ∈ listed, r.InRange)
    (defaultLimit : Option Int) (exclude : List Text) :
    AllMeet q (find store q s).1 ∧ AllMeet q (discover store defaultLimit q exclude s).1 := by
  have hmeet {found listed : List Record} {s' : σ} (hall : store.all s = (.ok listed, s'))
      (hlisted : ∀ r ∈ found, r ∈ listed ∧ q.admits r = true) : ∀ r ∈ found,
      Query.Meets { q with minVram := none } r ∧ (r.capabilities.vram ≠ .nan → q.Meets r) := by
    intro r hr
    obtain ⟨hmem, hadmits⟩ := hlisted r hr
    exact (Query.admits_iff hq (hstore listed s' hall r hmem)).1 hadmits
  constructor
  · intro found hfound
    obtain ⟨listed, hall, hlisted⟩ := mem_find (Prod.ext hfound rfl)
    exact hmeet hall hlisted
  · intro found hfound
    obtain ⟨listed, hall, hlisted⟩ := mem_discover hq (Prod.ext hfound rfl)
    exact hmeet hall hlisted

/-- Whoever is found or discovered meets the requirements: in memory after any validated operations,
and over a table service with any rows. The requirement on the memory is the one exception: it is
not missed by `nan`, which registers like any other number. -/
theorem found_meet (p : Policy) (operations : List (Moment × Operation))
    (hvalid : ∀ operation ∈ operations, operation.2.IsValidated) (q : Query) (hq : q.InRange)
    (defaultLimit : Option Int) (exclude : List Text) :
    (AllMeet q (find shelfStore q (shelfAfter p operations)).1 ∧
        AllMeet q (discover shelfStore defaultLimit q exclude (shelfAfter p operations)).1) ∧
      ∀ {τ : Type} (b : Table.Backend τ) (now : Moment) (t : τ),
        AllMeet q (find (Table.providerStore b now) q t).1 ∧
          AllMeet q (discover (Table.providerStore b now) defaultLimit q exclude t).1 := by
  refine ⟨?_, ?_⟩
  · refine allMeet_of_inRange hq ?_ defaultLimit exclude
    rintro listed s' ⟨⟩ r hr
    exact (isSound_shelfAfter p hvalid r hr).toInRange
  · intro τ b now t
    exact allMeet_of_inRange hq (fun listed t' hall => inRange_of_all hall) defaultLimit exclude

theorem sampleRegistration_inRange : sampleRegistration.InRange := by
  have hprice := Provider.isScore_hundred
  refine ⟨⟨hprice.ne_nan, hprice.zero_le⟩, ?_⟩
  rintro x ⟨⟩

/-- The query for providers with a hundred gigabytes of memory. -/
def sampleQuery : Query := { Query.any with minVram := some .hundred }

theorem sampleQuery_inRange : sampleQuery.InRange := by
  have hleast := Provider.isScore_hundred
  refine ⟨?_, ?_, ?_, ?_, ?_⟩
  · rintro x ⟨⟩
    exact ⟨hleast.ne_nan, hleast.zero_le⟩
  all_goals rintro x ⟨⟩

/-- Of two providers that register, the one with memory enough is found. -/
theorem found_meet_sample :
    let p : Policy := ⟨60, .nan⟩
    let large : Registration :=
      { sampleRegistration with id := "tpu", capabilities := ⟨.ofNat 120, 0, none, .zero⟩ }
    let operations : List (Moment × Operation) :=
      [(0, .call (.register sampleRegistration)), (0, .call (.register large))]
    AllMeet sampleQuery (find shelfStore sampleQuery (shelfAfter p operations)).1 ∧
      (find shelfStore sampleQuery (shelfAfter p operations)).1.map (·.map (·.id)) = .ok ["tpu"] := by
  intro p large operations
  have hsample := sampleRegistration_inRange
  have hlarge : large.InRange := ⟨hsample.price, hsample.reputation⟩
  have hvalid : ∀ operation ∈ operations, operation.2.IsValidated := by
    simp [operations, Operation.IsValidated, Call.IsValidated, hsample, hlarge]
  exact ⟨(found_meet p operations hvalid sampleQuery sampleQuery_inRange none []).1.1,
    by decide +kernel⟩

/-- A provider registers with `nan` gigabytes of memory, and is found by a query for a hundred. -/
theorem found_unmeasured :
    let p : Policy := ⟨60, .nan⟩
    let unmeasured : Registration :=
      { sampleRegistration with capabilities := ⟨.nan, 0, none, .zero⟩ }
    let s := shelfAfter p [(0, .call (.register unmeasured))]
    unmeasured.InRange ∧ sampleQuery.InRange ∧
      ∃ r, (find shelfStore sampleQuery s).1 = .ok [r] ∧ ¬ sampleQuery.Meets r := by
  intro p unmeasured s
  have hsample := sampleRegistration_inRange
  refine ⟨⟨hsample.price, hsample.reputation⟩, sampleQuery_inRange,
    newRecord p (.utc 0) unmeasured, by decide +kernel, fun hmeets => ?_⟩
  have hvram := hmeets.vram _ rfl
  cases hvram

/-! ## The best first -/

/-- A ranking of the listed providers for a query: all that are admitted, as often as they are listed,
such that of any two the earlier one outranks the other, or ties with it and is listed before it. -/
structure RanksBestFirst (q : Query) (listed ranked : List Record) : Prop where
  complete : ranked.Perm (listed.filter q.admits)
  ordered : ranked.Pairwise fun a b =>
    Query.Outranks a b ∨ Query.Ties a b ∧ [a, b].Sublist listed

/-- A search without limit gives a ranking of the listed providers. One with a limit gives as many of
the first ones, and outranked by none that is left out. -/
def FindsBestFirst (store : ProviderStore σ) (q : Query) (s s' : σ) (listed : List Record) : Prop :=
  ∃ ranked, RanksBestFirst q listed ranked ∧
    find store { q with limit := none } s = (.ok ranked, s') ∧
    ∀ limit, 0 < limit →
      find store { q with limit := some limit } s = (.ok (ranked.take limit.toNat), s') ∧
        ∀ a ∈ ranked.take limit.toNat, ∀ b ∈ ranked.drop limit.toNat, ¬ Query.Outranks b a

section

variable {listed : List Record} (hlisted : ∀ r ∈ listed, r.InRange) (q : Query)

include hlisted

theorem ranksBestFirst_ranking : RanksBestFirst q listed (ranking q listed) where
  complete := Query.ranked_perm _
  ordered := (Query.ranked_pairwise (Query.inRange_filter hlisted q.admits)).imp fun h =>
    h.imp_right fun h => ⟨h.1, h.2.trans List.filter_sublist⟩

/-- Nobody who is cut off a ranking outranks anyone who is kept. -/
theorem not_outranks_of_cut {k : Nat} {kept cut : Record} (hkept : kept ∈ (ranking q listed).take k)
    (hcut : cut ∈ (ranking q listed).drop k) : ¬ Query.Outranks cut kept := by
  have hrange (r : Record) (hr : r ∈ ranking q listed) : r.InRange :=
    hlisted r (mem_ranking_iff.1 hr).1
  have hkept' := hrange kept (List.mem_of_mem_take hkept)
  have hcut' := hrange cut (List.mem_of_mem_drop hcut)
  have hordered := (ranksBestFirst_ranking hlisted q).ordered
  rw [← List.take_append_drop k (ranking q listed), List.pairwise_append] at hordered
  intro hout
  rw [Query.outranks_iff_rank hcut' hkept'] at hout
  rcases hordered.2.2 kept hkept cut hcut with hkeptFirst | ⟨hties, -⟩
  · exact lt_asymm ((Query.outranks_iff_rank hkept' hcut').1 hkeptFirst) hout
  · exact absurd ((Query.ties_iff_rank hkept' hcut').1 hties) (ne_of_gt hout)

/-- Ranking the providers that are not excluded is leaving out the excluded ones of the ranking. -/
theorem ranking_excluding (ids : List Text) :
    ranking q (excluding ids listed) = excluding ids (ranking q listed) := by
  rw [ranking, ranking, excluding, excluding,
    Query.filter_ranked (Query.inRange_filter hlisted q.admits)]
  simp only [List.filter_filter, Bool.and_comm]

theorem findsBestFirst_of_all {store : ProviderStore σ} {s s' : σ}
    (hall : store.all s = (.ok listed, s')) : FindsBestFirst store q s s' listed := by
  refine ⟨ranking q listed, ranksBestFirst_ranking hlisted q, find_of_all hall _, ?_⟩
  intro limit hlimit
  refine ⟨?_, fun a ha b hb => not_outranks_of_cut hlisted q ha hb⟩
  rw [find_of_all hall]
  exact congrArg (fun kept => (Except.ok kept, s')) (takeUpTo_of_nonneg (Int.le_of_lt hlimit) _)

end

/-- The best providers come first. In memory, after any validated operations, a search ranks the
registered providers that match, each once, by score and price, and those that tie in the order of
registration; a limit cuts the end of the ranking. A search over a table service ranks the rows that
the service lists in the same way, whatever they are. -/
theorem find_best_first (p : Policy) (operations : List (Moment × Operation))
    (hvalid : ∀ operation ∈ operations, operation.2.IsValidated) (q : Query) :
    let s := shelfAfter p operations
    (FindsBestFirst shelfStore q s s s.providers.values ∧ s.listing.Nodup ∧
        s.listing = (enrolment (pastOf p operations)).filter s.providers.contains) ∧
      ∀ {τ : Type} (b : Table.Backend τ) (now : Moment) (t t' : τ) (listed : List Record),
        (Table.providerStore b now).all t = (.ok listed, t') →
        FindsBestFirst (Table.providerStore b now) q t t' listed := by
  intro s
  refine ⟨⟨?_, ?_⟩, ?_⟩
  · refine findsBestFirst_of_all ?_ q rfl
    exact fun r hr => (isSound_shelfAfter p hvalid r hr).toInRange
  · obtain ⟨hs, hlist⟩ := listing_final p (callsOf operations)
    rw [← shelfAfter_eq_final] at hs hlist
    exact ⟨hs.nodup_ids, hlist⟩
  · intro τ b now t t' listed hall
    exact findsBestFirst_of_all (inRange_of_all hall) q hall

/-- Three providers register, of which two tie and the last one is cheaper. -/
theorem find_best_first_sample :
    let p : Policy := ⟨60, .nan⟩
    let second : Registration := { sampleRegistration with id := "cpu" }
    let cheap : Registration := { sampleRegistration with id := "tpu", price := .zero }
    let operations : List (Moment × Operation) :=
      [(0, .call (.register sampleRegistration)), (0, .call (.register second)),
        (0, .call (.register cheap))]
    let s := shelfAfter p operations
    FindsBestFirst shelfStore .any s s s.providers.values ∧
      s.providers.values.map (·.id) = ["gpu", "cpu", "tpu"] := by
  intro p second cheap operations s
  have hsample := sampleRegistration_inRange
  have hsecond : second.InRange := ⟨hsample.price, hsample.reputation⟩
  have hcheap : cheap.InRange := ⟨Provider.isPrice_zero, hsample.reputation⟩
  have hvalid : ∀ operation ∈ operations, operation.2.IsValidated := by
    simp [operations, Operation.IsValidated, Call.IsValidated, hsample, hsecond, hcheap]
  exact ⟨(find_best_first p operations hvalid .any).1.1, by decide +kernel⟩

/-! ## The two ways of discovery -/

/-- Removals of some providers. -/
def removals (now : Moment) (ids : List Text) : List (Moment × Call) :=
  ids.map fun id => (now, .deregister id)

/-- Removing some providers leaves the others where they are listed. -/
theorem values_removals (p : Policy) (now : Moment) (ids : List Text) {s : Shelf}
    (hs : s.IsFiled) :
    (final p (fun _ => shelfStore) (removals now ids) s).providers.values =
      excluding ids s.providers.values := by
  induction ids generalizing s with
  | nil => exact (excluding_nil _).symm
  | cons id ids ih =>
    let erased : Shelf := { s with providers := s.providers.erase id }
    have herased : erased.IsFiled := by
      intro other r hget
      rw [OrderedMap.get?_erase] at hget
      split at hget
      · cases hget
      · exact hs other r hget
    have hfirst : erased.providers.values = s.providers.values.filter fun r => r.id ≠ id :=
      OrderedMap.values_erase hs id
    refine (ih herased).trans ?_
    rw [hfirst, excluding, List.filter_filter]
    refine List.filter_congr fun r _ => ?_
    by_cases hid : r.id = id <;> simp [hid]

theorem discover_of_all {store : ProviderStore σ} {s s' : σ} {listed : List Record}
    (hall : store.all s = (.ok listed, s')) (defaultLimit : Option Int) {q : Query}
    (hq : q.InRange) (exclude : List Text) :
    discover store defaultLimit q exclude s =
      (.ok (takeLimit (q.limit.or defaultLimit) (excluding exclude (ranking q listed))), s') := by
  rw [discover_eq store defaultLimit hq, Attempt.map_apply, find_of_all hall]
  rfl

/-- In memory, leaving providers out gives what is given after they were removed. -/
theorem discover_removals (p : Policy) (now : Moment) {s : Shelf} (hs : s.IsFiled)
    (hsound : s.IsSound) (defaultLimit : Option Int) {q : Query} (hq : q.InRange)
    (exclude : List Text) :
    (discover shelfStore defaultLimit q exclude s).1 =
      (discover shelfStore defaultLimit q []
        (final p (fun _ => shelfStore) (removals now exclude) s)).1 := by
  have hlisted : ∀ r ∈ s.providers.values, r.InRange := fun r hr => (hsound r hr).toInRange
  rw [discover_of_all rfl defaultLimit hq, discover_of_all rfl defaultLimit hq, excluding_nil,
    values_removals p now exclude hs, ranking_excluding hlisted]

section

variable {b : Table.Backend τ} {database : τ → Table.Database} (hb : b.IsIdeal database)
  {now clock : Moment} {s : Shelf} {t : τ}

include hb

theorem discover_agreesAt (hm : Mirrors database now s t) (defaultLimit : Option Int) (q : Query)
    (exclude : List Text) :
    AgreesAt (Mirrors database now) (discover shelfStore defaultLimit q exclude)
      (discover (Table.providerStore b clock) defaultLimit q exclude) s t := by
  have hfind (q : Query) : AgreesAt (Mirrors database now) (find shelfStore q)
      (find (Table.providerStore b clock) q) s t :=
    (hm.all_agreesAt hb).bind fun listed _ _ _ hm' => .pure hm' _
  unfold discover
  split
  · exact (hfind q).bind fun found _ _ _ hm' => .pure hm' _
  · exact (hfind _).bind fun found _ _ _ hm' => .pure hm' _

/-- Removals keep tables and shelf alike. -/
theorem Mirrors.removals (hm : Mirrors database now s t) (p : Policy) (ids : List Text) :
    Mirrors database now (final p (fun _ => shelfStore) (removals now ids) s)
      (final p (Table.providerStore b) (Registry.removals now ids) t) := by
  induction ids generalizing s t with
  | nil => exact hm
  | cons id ids ih =>
    have hfirst : AgreesAt (Mirrors database now) (perform shelfStore p now (.deregister id))
        (perform (Table.providerStore b now) p now (.deregister id)) s t :=
      perform_agreesAt hb hm p trivial
    exact ih hfirst.2

end

/-- What both ways of discovery come to, in every state of a store. -/
structure PathsAgree (store : ProviderStore σ) (defaultLimit : Option Int) (q : Query)
    (exclude : List Text) : Prop where
  /-- The full ranking without the excluded providers, up to the limit of the query, else up to the
  default limit; a negative limit counts from the end. -/
  composed : discover store defaultLimit q exclude =
    (fun ranked => takeLimit (q.limit.or defaultLimit) (excluding exclude ranked)) <$>
      find store { q with limit := none }
  /-- While enough others match, as many are discovered as without exclusions. -/
  undiminished : ∀ s s' ranked limit, find store { q with limit := none } s = (.ok ranked, s') →
    q.limit.or defaultLimit = some limit → 0 ≤ limit →
    limit ≤ (excluding exclude ranked).length →
    ∃ found unrestricted, discover store defaultLimit q exclude s = (.ok found, s') ∧
      discover store defaultLimit q [] s = (.ok unrestricted, s') ∧
      found.length = limit ∧ unrestricted.length = limit

theorem pathsAgree (store : ProviderStore σ) (defaultLimit : Option Int) {q : Query}
    (hq : q.InRange) (exclude : List Text) : PathsAgree store defaultLimit q exclude where
  composed := discover_eq store defaultLimit hq exclude
  undiminished := by
    intro s s' ranked limit hfind hlimit hnonneg henough
    have hdiscover (ids : List Text) : discover store defaultLimit q ids s =
        (.ok (takeUpTo limit (excluding ids ranked)), s') := by
      rw [discover_eq store defaultLimit hq, Attempt.map_apply, hfind, hlimit]
      rfl
    have hmore : limit ≤ (excluding [] ranked).length := by
      have hfewer := (excluding_sublist exclude ranked).length_le
      rw [excluding_nil]
      omega
    exact ⟨_, _, hdiscover exclude, hdiscover [], length_takeUpTo hnonneg henough,
      length_takeUpTo hnonneg hmore⟩

/-- The two ways of discovery agree: over any store, in any state and with any exclusions, limits and
default limits, discovery cuts what is left of the full ranking. So exclusions never leave fewer than
are wanted while enough others match; and leaving providers out gives what is given without exclusions
once they were removed, in memory after any validated operations as well as over ideal tables that
show a shelf. -/
theorem discover_paths_agree (q : Query) (hq : q.InRange) (defaultLimit : Option Int)
    (exclude : List Text) :
    (∀ {σ : Type} (store : ProviderStore σ), PathsAgree store defaultLimit q exclude) ∧
      (∀ (p : Policy) (operations : List (Moment × Operation)),
        (∀ operation ∈ operations, operation.2.IsValidated) → ∀ now,
        (discover shelfStore defaultLimit q exclude (shelfAfter p operations)).1 =
          (discover shelfStore defaultLimit q []
            (final p (fun _ => shelfStore) (removals now exclude) (shelfAfter p operations))).1) ∧
      ∀ {τ : Type} (b : Table.Backend τ) (database : τ → Table.Database), b.IsIdeal database →
        ∀ (p : Policy) (now : Moment) (s : Shelf) (t : τ), Mirrors database now s t →
        (discover (Table.providerStore b now) defaultLimit q exclude t).1 =
          (discover (Table.providerStore b now) defaultLimit q []
            (final p (Table.providerStore b) (removals now exclude) t)).1 := by
  refine ⟨fun store => pathsAgree store defaultLimit hq exclude, ?_, ?_⟩
  · intro p operations hvalid now
    obtain ⟨hs, -⟩ := listing_final p (callsOf operations)
    rw [← shelfAfter_eq_final] at hs
    exact discover_removals p now hs.filed (isSound_shelfAfter p hvalid) defaultLimit hq exclude
  · intro τ b database hb p now s t hm
    have hremoved := hm.removals hb p exclude
    calc (discover (Table.providerStore b now) defaultLimit q exclude t).1
        = (discover shelfStore defaultLimit q exclude s).1 :=
          (discover_agreesAt hb hm defaultLimit q exclude).1.symm
      _ = (discover shelfStore defaultLimit q []
            (final p (fun _ => shelfStore) (removals now exclude) s)).1 :=
          discover_removals p now hm.orderly.filed hm.orderly.sound defaultLimit hq exclude
      _ = _ := (discover_agreesAt hb hremoved defaultLimit q []).1

/-- One of two providers is left out, and the default limit asks for one. -/
theorem discover_paths_agree_sample :
    let p : Policy := ⟨60, .nan⟩
    let second : Registration := { sampleRegistration with id := "cpu" }
    let operations : List (Moment × Operation) :=
      [(0, .call (.register sampleRegistration)), (0, .call (.register second))]
    let s := shelfAfter p operations
    PathsAgree shelfStore (some 1) .any ["gpu"] ∧
      (discover shelfStore (some 1) .any ["gpu"] s).1 =
        (discover shelfStore (some 1) .any []
          (final p (fun _ => shelfStore) (removals 0 ["gpu"]) s)).1 ∧
      s.listing = ["gpu", "cpu"] := by
  intro p second operations s
  have hsample := sampleRegistration_inRange
  have hsecond : second.InRange := ⟨hsample.price, hsample.reputation⟩
  have hvalid : ∀ operation ∈ operations, operation.2.IsValidated := by
    simp [operations, Operation.IsValidated, Call.IsValidated, hsample, hsecond]
  obtain ⟨hpaths, hremoved, -⟩ :=
    discover_paths_agree .any Provider.inRange_any (some 1) ["gpu"]
  exact ⟨hpaths shelfStore, hremoved p operations hvalid 0, by decide +kernel⟩

end ComputeDirectory.Registry
