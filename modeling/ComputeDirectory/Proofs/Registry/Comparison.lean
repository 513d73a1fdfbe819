import ComputeDirectory.Proofs.Registry.Discovery

/-!
# Comparing searches

What becomes of a search when its query or the listing is another one. Both answers rest on what is
known of rankings: they commute with filters, and their keys do not tell in which order the providers
were listed.

* `stricter_finds_less`: a stricter query finds a part of what a laxer one finds, in the same order.
  It is the part that the stricter query admits (`ranking_of_stricter`).
* `reordered_agree_up_to_ties`: when the same providers are listed in another order, searches and
  discoveries give the same scores and prices in the same order, wherever a limit cuts; and they give
  the same providers if no two that match tie.
-/

namespace ComputeDirectory.Registry

open Provider (Record Registration Query takeUpTo takeLimit)

variable {σ τ : Type}

/-! ## Listings -/

/-- What a registry lists, and the state that listing leaves: in memory, records whose scores and
prices are in range, as they are after validated operations (`lists_shelfAfter`); over a table
service, the records that its rows are, whatever they are. -/
inductive Lists : {σ : Type} → ProviderStore σ → σ → List Record → σ → Prop
  | memory {s : Shelf} (inRange : ∀ r ∈ s.providers.values, r.InRange) :
    Lists shelfStore s s.providers.values s
  | table {τ : Type} {b : Table.Backend τ} {now : Moment} {t t' : τ} {listed : List Record}
      (all : (Table.providerStore b now).all t = (.ok listed, t')) :
    Lists (Table.providerStore b now) t listed t'

theorem lists_shelfAfter (p : Policy) {operations : List (Moment × Operation)}
    (hvalid : ∀ operation ∈ operations, operation.2.IsValidated) :
    Lists shelfStore (shelfAfter p operations) (shelfAfter p operations).providers.values
      (shelfAfter p operations) :=
  .memory fun r hr => (isSound_shelfAfter p hvalid r hr).toInRange

namespace Lists

variable {store : ProviderStore σ} {s s' : σ} {listed : List Record}

theorem all_eq (h : Lists store s listed s') : store.all s = (.ok listed, s') := by
  cases h with
  | memory inRange => rfl
  | table all => exact all

theorem inRange (h : Lists store s listed s') : ∀ r ∈ listed, r.InRange := by
  cases h with
  | memory inRange => exact inRange
  | table all => exact inRange_of_all all

end Lists

/-! ## Stricter queries -/

/-- The ranking for a stricter query is what it admits of the ranking for a laxer one. -/
theorem ranking_of_stricter {lax strict : Query} (h : strict.IsAsStrictAs lax) {listed : List Record}
    (hlisted : ∀ r ∈ listed, r.InRange) :
    ranking strict listed = (ranking lax listed).filter strict.admits := by
  rw [ranking, ranking, Query.filter_ranked (Query.inRange_filter hlisted lax.admits),
    List.filter_filter]
  refine congrArg Query.ranked (List.filter_congr fun r _ => ?_)
  cases hadmits : strict.admits r with
  | false => rfl
  | true => rw [h.admits hadmits, Bool.and_true]

/-- A stricter query finds less, in the same order. Of two queries without limit that are made in one
state, the one that sets no weaker requirements finds a part of what the other one finds, whatever
hardware the providers have, infinite or `nan`. If the providers cannot be listed, both queries fail
alike. -/
theorem stricter_finds_less {lax strict : Query} (hstrict : strict.IsAsStrictAs lax)
    (hlax : lax.limit = none) (hlimit : strict.limit = none) :
    (∀ {σ : Type} {store : ProviderStore σ} {s s' : σ} {listed : List Record},
        Lists store s listed s' →
        ∃ found part, find store lax s = (.ok found, s') ∧ find store strict s = (.ok part, s') ∧
          part.Sublist found) ∧
      ∀ {σ : Type} {store : ProviderStore σ} {s s' : σ} {f : Failure},
        store.all s = (.error f, s') →
        find store lax s = (.error f, s') ∧ find store strict s = (.error f, s') := by
  refine ⟨?_, fun hall => ⟨find_of_outage hall lax, find_of_outage hall strict⟩⟩
  intro σ store s s' listed h
  have hfind (q : Query) (hq : q.limit = none) :
      find store q s = (.ok (ranking q listed), s') := by
    rw [find_of_all h.all_eq, hq]
    rfl
  refine ⟨_, _, hfind lax hlax, hfind strict hlimit, ?_⟩
  rw [ranking_of_stricter hstrict h.inRange]
  exact List.filter_sublist

/-- Of three providers, one of which has `nan` gigabytes of memory, a piece of a name finds two and a
longer piece with a bound on the memory finds one. -/
theorem stricter_finds_less_sample :
    let p : Policy := ⟨60, .nan⟩
    let named (id name : String) (vram : Binary64) : Registration :=
      { sampleRegistration with id := id, capabilities := ⟨vram, 0, some name, .zero⟩ }
    let operations : List (Moment × Operation) :=
      [(0, .call (.register sampleRegistration)), (0, .call (.register (named "a" "RTX 4090" .nan))),
        (0, .call (.register (named "b" "RTX 3080" .hundred)))]
    let s := shelfAfter p operations
    let lax : Query := { Query.any with gpuModel := some "RTX" }
    let strict : Query := { sampleQuery with gpuModel := some "RTX 4" }
    strict.IsAsStrictAs lax ∧
      (s.providers.values.filter lax.admits).map (·.id) = ["a", "b"] ∧
      (find shelfStore strict s).1.map (·.map (·.id)) = .ok ["a"] ∧
      ∃ found part, find shelfStore lax s = (.ok found, s) ∧
        find shelfStore strict s = (.ok part, s) ∧ part.Sublist found := by
  intro p named operations s lax strict
  have hsample := sampleRegistration_inRange
  have hnamed (id name : String) (vram : Binary64) : (named id name vram).InRange :=
    ⟨hsample.price, hsample.reputation⟩
  have hvalid : ∀ operation ∈ operations, operation.2.IsValidated := by
    simp [operations, Operation.IsValidated, Call.IsValidated, hsample, hnamed]
  have hstrict : strict.IsAsStrictAs lax := by
    refine ⟨?_, ?_, ?_, ?_, ?_, ?_⟩
    · rintro least ⟨⟩
    · rintro least ⟨⟩
    · rintro piece ⟨⟩ -
      exact ⟨_, rfl, by decide⟩
    · rintro status ⟨⟩
      rfl
    · rintro least ⟨⟩
    · rintro most ⟨⟩
  exact ⟨hstrict, by decide +kernel, by decide +kernel,
    (stricter_finds_less hstrict rfl rfl).1 (lists_shelfAfter p hvalid)⟩

/-! ## Listings in another order -/

/-- Two lists that agree item by item agree after a limit has cut them. -/
theorem forall₂_takeLimit {α β : Type} {R : α → β → Prop} {l : List α} {m : List β}
    (h : List.Forall₂ R l m) (limit : Option Int) :
    List.Forall₂ R (takeLimit limit l) (takeLimit limit m) := by
  cases limit with
  | none => exact h
  | some bound =>
    show List.Forall₂ R (takeUpTo bound l) (takeUpTo bound m)
    unfold takeUpTo
    split
    · exact List.forall₂_take _ h
    · rw [h.length_eq]
      exact List.forall₂_take _ h

/-- Two searches both find providers, with the same scores and prices in the same order, and they find
the same providers if no two that match tie. -/
def AgreeUpToTies (q : Query) (listed : List Record) (x y : Except Failure (List Record)) : Prop :=
  ∃ found found', x = .ok found ∧ y = .ok found' ∧ List.Forall₂ Query.Ties found found' ∧
    ((listed.filter q.admits).Pairwise (fun a b => ¬ Query.Ties a b) → found = found')

/-- What is left of rankings of the same providers agrees up to ties, whoever is left out and wherever
the rest is cut. -/
theorem agreeUpToTies_of_perm {listed reordered : List Record} (hlisted : ∀ r ∈ listed, r.InRange)
    (hperm : listed.Perm reordered) (q : Query) (limit : Option Int) (ids : List Text) :
    AgreeUpToTies q listed (.ok (takeLimit limit (excluding ids (ranking q listed))))
      (.ok (takeLimit limit (excluding ids (ranking q reordered)))) := by
  have hreordered : ∀ r ∈ reordered, r.InRange := fun r hr => hlisted r (hperm.mem_iff.2 hr)
  let matching (records : List Record) : List Record := (excluding ids records).filter q.admits
  have hmatching : ∀ r ∈ matching listed, r.InRange := fun r hr =>
    hlisted r ((excluding_sublist ids listed).subset (List.mem_filter.1 hr).1)
  have hsame : (matching listed).Perm (matching reordered) := (hperm.filter _).filter _
  rw [← ranking_excluding hlisted, ← ranking_excluding hreordered]
  refine ⟨_, _, rfl, rfl, forall₂_takeLimit (Query.ties_ranked_of_perm hmatching hsame) limit, ?_⟩
  intro hties
  -- whoever is left out ties with nobody who is left
  have hfewer : (matching listed).Sublist (listed.filter q.admits) :=
    (excluding_sublist ids listed).filter q.admits
  exact congrArg (takeLimit limit) (Query.ranked_eq_of_perm hmatching hsame (hties.sublist hfewer))

/-- The order of registration shows among exact ties only. When two stores, of one kind or of two,
hold the same records in different orders, then a query gives the same scores and prices in the same
order over both, as a search and as a discovery with any exclusions and any default limit; and it
gives the same providers if no two of those that match have the same score and the same price. Scores
and prices are compared as numbers, so the two zeros are the same. -/
theorem reordered_agree_up_to_ties {A : ProviderStore σ} {B : ProviderStore τ} {s s' : σ} {t t' : τ}
    {listed reordered : List Record} (hA : Lists A s listed s') (hB : Lists B t reordered t')
    (hperm : listed.Perm reordered) {q : Query} (hq : q.InRange) (defaultLimit : Option Int)
    (exclude : List Text) :
    AgreeUpToTies q listed (find A q s).1 (find B q t).1 ∧
      AgreeUpToTies q listed (discover A defaultLimit q exclude s).1
        (discover B defaultLimit q exclude t).1 := by
  constructor
  · rw [find_of_all hA.all_eq, find_of_all hB.all_eq, ← excluding_nil (ranking q listed),
      ← excluding_nil (ranking q reordered)]
    exact agreeUpToTies_of_perm hA.inRange hperm q q.limit []
  · rw [discover_of_all hA.all_eq defaultLimit hq, discover_of_all hB.all_eq defaultLimit hq]
    exact agreeUpToTies_of_perm hA.inRange hperm q _ exclude

/-- Two providers that tie register in one order and in the other, and one is asked for. -/
theorem reordered_agree_up_to_ties_sample :
    let p : Policy := ⟨60, .nan⟩
    let second : Registration := { sampleRegistration with id := "cpu" }
    let run (registrations : List Registration) : Shelf :=
      shelfAfter p (registrations.map fun r => (0, .call (.register r)))
    let s := run [sampleRegistration, second]
    let t := run [second, sampleRegistration]
    let q : Query := { Query.any with limit := some 1 }
    s.listing = ["gpu", "cpu"] ∧ t.listing = ["cpu", "gpu"] ∧
      s.providers.values.Perm t.providers.values ∧ q.InRange ∧
      AgreeUpToTies q s.providers.values (find shelfStore q s).1 (find shelfStore q t).1 := by
  intro p second run s t q
  have hsample := sampleRegistration_inRange
  have hsecond : second.InRange := ⟨hsample.price, hsample.reputation⟩
  have hrun (registrations : List Registration) (h : ∀ r ∈ registrations, r.InRange) :
      Lists shelfStore (run registrations) (run registrations).providers.values
        (run registrations) := by
    refine lists_shelfAfter p fun operation hoperation => ?_
    obtain ⟨r, hr, rfl⟩ := List.mem_map.1 hoperation
    exact h r hr
  have hs := hrun [sampleRegistration, second] (by simp [hsample, hsecond])
  have ht := hrun [second, sampleRegistration] (by simp [hsample, hsecond])
  have hperm : s.providers.values.Perm t.providers.values := by decide +kernel
  have hq : q.InRange := by
    refine ⟨?_, ?_, ?_, ?_, ?_⟩ <;> rintro x ⟨⟩
    exact Int.one_pos
  exact ⟨by decide +kernel, by decide +kernel, hperm, hq,
    (reordered_agree_up_to_ties hs ht hperm hq none []).1⟩

end ComputeDirectory.Registry
