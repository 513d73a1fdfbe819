import ComputeDirectory.Identity.Event
import ComputeDirectory.Proofs.Json.Printer

/-!
# What a signature covers

A signature is made over the digest of an event, and the digest is taken of the octets of its
serialized fields. These octets tell the fields: two events with the same octets agree in all that
is signed (`eq_of_octets?_serialized` for texts, `Json.render_injective` for what they hold). So
events that differ in a signed field share a digest, or an identifier, only when SHA-256 maps the
two lists of octets to one digest.
-/

namespace ComputeDirectory

/-! ## Octets -/

namespace Text

private theorem toList_loop (bytes : ByteArray) (i : Nat) (r : List UInt8) :
    ByteArray.toList.loop bytes i r = r.reverse ++ bytes.data.toList.drop i := by
  fun_induction ByteArray.toList.loop bytes i r with
  | case1 i r h ih =>
    have hlength : i < bytes.data.toList.length := by simpa using h
    have hget : bytes.get! i = bytes.data.toList[i] := getElem!_pos bytes.data i h
    rw [ih, List.drop_eq_getElem_cons hlength, List.reverse_cons, List.append_assoc, hget]
    rfl
  | case2 i r h =>
    have hsize : bytes.data.toList.length ≤ i := by simpa using h
    rw [List.drop_eq_nil_of_le hsize, List.append_nil]

private theorem toList_injective {a b : ByteArray} (h : a.toList = b.toList) : a = b := by
  rw [ByteArray.toList, ByteArray.toList, toList_loop, toList_loop] at h
  exact ByteArray.ext (Array.toList_inj.1 h)

/-- A plain text is told by its octets. -/
theorem eq_of_octets? {t u : Text} {octets : List UInt8} (ht : t.octets? = some octets)
    (hu : u.octets? = some octets) : t = u := by
  obtain ⟨chars, hchars, hoctets⟩ := Option.map_eq_some_iff.1 ht
  obtain ⟨chars', hchars', hoctets'⟩ := Option.map_eq_some_iff.1 hu
  have hstring : String.ofList chars = String.ofList chars' :=
    String.toByteArray_inj.1 (toList_injective (hoctets.trans hoctets'.symm))
  rw [String.ofList_inj] at hstring
  rw [chars?_eq_some_iff.1 hchars, chars?_eq_some_iff.1 hchars', hstring]

end Text

namespace Identity.SignedEvent

/-! ## Signed fields -/

/-- Two events agree in all that is signed. -/
structure SignsSame (e e' : SignedEvent) : Prop where
  publicKey : e.publicKey = e'.publicKey
  createdAt : e.createdAt = e'.createdAt
  kind : e.kind = e'.kind
  tags : e.tags = e'.tags
  content : e.content = e'.content

theorem isExact_signedFields (e : SignedEvent) : e.signedFields.isExact = true := by
  have htexts (tag : List Text) : Json.itemsExact (tag.map .str) = true := by
    induction tag with
    | nil => rfl
    | cons text tag ih => simpa [Json.itemsExact, Json.isExact] using ih
  have htags (tags : List (List Text)) :
      Json.itemsExact (tags.map fun tag => Json.arr (tag.map .str)) = true := by
    induction tags with
    | nil => rfl
    | cons tag tags ih => simpa [Json.itemsExact, Json.isExact, htexts] using ih
  simp [signedFields, Json.isExact, Json.itemsExact, htags]

theorem signsSame_of_signedFields_eq {e e' : SignedEvent} (h : e.signedFields = e'.signedFields) :
    SignsSame e e' := by
  have htexts : Function.Injective fun tag : List Text => Json.arr (tag.map .str) := by
    intro tag tag' htag
    exact (List.map_inj_right fun _ _ => Json.str.inj).1 (Json.arr.inj htag)
  simp only [signedFields, Json.arr.injEq, List.cons.injEq, Json.str.injEq, Json.int.injEq,
    true_and, and_true] at h
  obtain ⟨hkey, hcreated, hkind, htags, hcontent⟩ := h
  exact ⟨hkey, hcreated, hkind, (List.map_inj_right fun _ _ h => htexts h).1 htags, hcontent⟩

theorem serialized_eq_iff {e e' : SignedEvent} : e.serialized = e'.serialized ↔ SignsSame e e' := by
  constructor
  · intro h
    exact signsSame_of_signedFields_eq
      (Json.render_injective (isExact_signedFields e) (isExact_signedFields e') h)
  · rintro ⟨hkey, hcreated, hkind, htags, hcontent⟩
    rw [serialized, serialized, signedFields, signedFields, hkey, hcreated, hkind, htags, hcontent]

/-! ## Identifiers -/

theorem hexDigit_injective : ∀ m < 16, ∀ n < 16, Text.hexDigit m = Text.hexDigit n → m = n := by
  decide

/-- Octets are told by their digits. -/
theorem hexOfOctets_injective : Function.Injective Text.hexOfOctets := by
  intro a b h
  induction a generalizing b with
  | nil =>
    cases b with
    | nil => rfl
    | cons y b => simp [Text.hexOfOctets] at h
  | cons x a ih =>
    cases b with
    | nil => simp [Text.hexOfOctets] at h
    | cons y b =>
      simp only [Text.hexOfOctets, List.flatMap_cons, List.cons_append, List.nil_append,
        List.cons.injEq] at h
      obtain ⟨hupper, hlower, hrest⟩ := h
      have hx := x.toNat_lt
      have hy := y.toNat_lt
      have hdiv := hexDigit_injective _ (by omega) _ (by omega) hupper
      have hmod := hexDigit_injective _ (by omega) _ (by omega) hlower
      have hxy : x = y := UInt8.toNat_inj.1 (by omega)
      rw [hxy, ih hrest]

theorem idOfDigest_injective : Function.Injective idOfDigest := by
  intro digest digest' h
  have hchars := congrArg Text.chars? h
  rw [idOfDigest, idOfDigest, Text.chars?_ofChars, Text.chars?_ofChars, Option.some.injEq] at hchars
  exact hexOfOctets_injective hchars

/-- The digest of an event is that of the octets of its serialized fields. -/
theorem digest?_eq_some_iff {e : SignedEvent} {digest : List UInt8} :
    e.digest? = some digest ↔ e.isShort = true ∧
      ∃ octets, e.serialized.octets? = some octets ∧ Crypto.Sha256.digest octets = digest := by
  unfold digest?
  split
  · next h => simp only [h, true_and, Option.map_eq_some_iff]
  · next h => simp [h]

/-! ## Main statement -/

/-- Two lists of octets that SHA-256 does not tell apart. -/
def Collide (octets octets' : List UInt8) : Prop :=
  octets ≠ octets' ∧ Crypto.Sha256.digest octets = Crypto.Sha256.digest octets'

/-- What is signed is unambiguous. Two events are serialized alike, as texts or as octets, only when
they agree in all signed fields; and events that do not, but have one digest or one identifier, are
serialized to octets that collide. -/
theorem serialized_unambiguous (e e' : SignedEvent) :
    (e.serialized = e'.serialized ↔ SignsSame e e') ∧
    (∀ octets, e.serialized.octets? = some octets → e'.serialized.octets? = some octets →
      SignsSame e e') ∧
    (∀ digest digest', e.digest? = some digest → e'.digest? = some digest' →
      digest = digest' ∨ idOfDigest digest = idOfDigest digest' → ¬ SignsSame e e' →
      ∃ octets octets', e.serialized.octets? = some octets ∧
        e'.serialized.octets? = some octets' ∧ Collide octets octets') := by
  have hoctets : ∀ octets, e.serialized.octets? = some octets →
      e'.serialized.octets? = some octets → SignsSame e e' :=
    fun octets h h' => serialized_eq_iff.1 (Text.eq_of_octets? h h')
  refine ⟨serialized_eq_iff, hoctets, ?_⟩
  intro digest digest' h h' heq hdiffer
  have hdigest : digest = digest' := by
    rcases heq with heq | heq
    · exact heq
    · exact idOfDigest_injective heq
  obtain ⟨-, octets, hserialized, rfl⟩ := digest?_eq_some_iff.1 h
  obtain ⟨-, octets', hserialized', rfl⟩ := digest?_eq_some_iff.1 h'
  refine ⟨octets, octets', hserialized, hserialized', ?_, hdigest⟩
  rintro rfl
  exact hdiffer (hoctets octets hserialized hserialized')

end Identity.SignedEvent

end ComputeDirectory
