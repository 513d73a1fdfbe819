import ComputeDirectory.Provider.Basic

/-!
# Queries

Requirements that a provider has to meet. A requirement that is not set rules nobody out; the status
is asked to be `available` unless the query says otherwise. `Query.ranked` puts providers in order:
the higher reputation first, then the lower price, then the order in which they came.
-/

namespace ComputeDirectory.Provider

/-- Requirements on providers. -/
structure Query where
  minVram : Option Binary64
  minCudaCores : Option Int
  /-- A piece of the name of the graphics card. -/
  gpuModel : Option Text
  status : Option Status
  minReputation : Option Binary64
  maxPrice : Option Binary64
  /-- How many providers are wanted at most. -/
  limit : Option Int
  deriving DecidableEq, Repr

/-- The query that asks for nothing but availability. -/
def Query.any : Query := ⟨none, none, none, some .available, none, none, none⟩

/-- Requirements, and providers to leave out. -/
structure DiscoveryRequest where
  requirements : Query
  exclude : List Text
  deriving DecidableEq, Repr

/-- Whether a piece of text stands somewhere in a text. -/
def occursIn (piece text : List Symbol) : Bool :=
  match text with
  | [] => piece.isEmpty
  | s :: rest => piece.isPrefixOf (s :: rest) || occursIn piece rest

theorem occursIn_iff {piece text : List Symbol} : occursIn piece text = true ↔ piece <:+: text := by
  induction text with
  | nil => simp [occursIn]
  | cons s rest ih => simp [occursIn, ih, List.infix_cons_iff]

namespace Query

/-- Whether a requirement, if it is set, holds. -/
def asks {α : Type} (requirement : Option α) (holds : α → Bool) : Bool :=
  match requirement with
  | none => true
  | some a => holds a

/-- Whether the name of a graphics card has the wanted piece; an empty piece is no requirement. -/
def asksModel (wanted model : Option Text) : Bool :=
  match wanted with
  | none => true
  | some piece =>
    piece.isEmpty ||
      match model with
      | none => false
      | some name => occursIn piece.symbols name.symbols

/-- Whether a provider meets the requirements. -/
def admits (q : Query) (r : Record) : Bool :=
  asks q.status (r.status == ·) &&
    asks q.minVram (fun least => !r.capabilities.vram.lt least) &&
    asks q.minCudaCores (fun least => !(r.capabilities.cudaCores < least)) &&
    asksModel q.gpuModel r.capabilities.gpuModel &&
    asks q.minReputation (fun least => !r.reputation.lt least) &&
    asks q.maxPrice fun most => !most.lt r.price

/-- Whether `a` may stand before `b`: a higher reputation, or the same and no higher price. -/
def ranksBefore (a b : Record) : Bool :=
  b.reputation.lt a.reputation || (a.reputation.eq b.reputation && !b.price.lt a.price)

/-- Providers in order of rank; those of equal rank keep their order. -/
def ranked (records : List Record) : List Record := records.mergeSort ranksBefore

end Query

/-- The items before a bound; a negative bound counts from the end. -/
def takeUpTo {α : Type} (bound : Int) (items : List α) : List α :=
  if 0 ≤ bound then items.take bound.toNat else items.take (items.length - bound.natAbs)

/-- The items before a bound, or all. -/
def takeLimit {α : Type} (limit : Option Int) (items : List α) : List α :=
  match limit with
  | none => items
  | some bound => takeUpTo bound items

/-! ## Reading and writing -/

open Schema

/-- Reads a query. -/
def Query.read (source : Source) : Reader Query :=
  .record source "CapabilityQuery" fun m =>
    Query.mk <$> MemberReader.optional "min_vram" .nonNegative m
      <*> MemberReader.optional "min_cuda_cores" .naturalInteger m
      <*> MemberReader.optional "gpu_model" .text m
      <*> MemberReader.defaulted "status" (some .available) (.nullable Status.read) m
      <*> MemberReader.optional "min_reputation" .percentage m
      <*> MemberReader.optional "max_price" .nonNegative m
      <*> MemberReader.optional "limit" .positiveInteger m

/-- Writes a query. -/
def Query.toJson (q : Query) : Json :=
  .obj [("min_vram", .ofFloat? q.minVram), ("min_cuda_cores", .ofInt? q.minCudaCores),
    ("gpu_model", .ofText? q.gpuModel), ("status", .ofText? (q.status.map fun s => s.name)),
    ("min_reputation", .ofFloat? q.minReputation), ("max_price", .ofFloat? q.maxPrice),
    ("limit", .ofInt? q.limit)]

/-- Reads a request for providers. -/
def DiscoveryRequest.read (source : Source) : Reader DiscoveryRequest :=
  .record source "DiscoveryRequest" fun m =>
    DiscoveryRequest.mk <$> MemberReader.defaulted "requirements" .any (Query.read source) m
      <*> MemberReader.defaulted "exclude" [] (.list .text) m

/-- Writes a request for providers. -/
def DiscoveryRequest.toJson (r : DiscoveryRequest) : Json :=
  .obj [("requirements", r.requirements.toJson), ("exclude", .arr (r.exclude.map .str))]

end ComputeDirectory.Provider
