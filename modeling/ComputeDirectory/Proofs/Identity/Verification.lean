import ComputeDirectory.Identity.Verifier
import ComputeDirectory.Proofs.Crypto.Secp256k1
import ComputeDirectory.Proofs.Identity.Event
import ComputeDirectory.Proofs.Json.Short
import ComputeDirectory.Proofs.Text.Hex

/-!
# How signed events are verified

The first condition that fails decides what is wrong with an event, and the conditions come in a
fixed order: the key, the digest, the identifier, the signature as text, the point of the key, the
signature as a signature. `Verdict` has one rule for each way to end, with everything that has to be
right before it, in terms of the texts and octets themselves; `verifySignature_eq_iff` says that
nothing else happens.

Two things make the order complete. Texts of lowercase digits decode, to the octets that they are
the digits of (`isHex_iff_octets`), so once a text has passed its check nothing can go wrong with
it. And an event has a digest exactly if its integers can be written and its texts are plain
(`isSome_digest?_iff`). Where that fails for an event with a well-formed key the verification stops,
and that is no refusal: an integer has too many digits for the text that is signed, or a tag or the
content holds half of a surrogate pair, so that this text has no octets (`half_unrefused`).
-/

namespace ComputeDirectory

/-! ## Plain values -/

namespace Text

theorem isPlain_append (a b : List Symbol) :
    (mk (a ++ b)).isPlain = ((mk a).isPlain && (mk b).isPlain) := List.all_append

theorem isPlain_char_cons (c : Char) (rest : List Symbol) :
    (mk (.char c :: rest)).isPlain = (mk rest).isPlain := Bool.true_and _

end Text

namespace Json

theorem isPlain_escapeSymbol (s : Symbol) : (Text.mk (escapeSymbol s)).isPlain
    = (Text.mk [s]).isPlain := by
  cases s with
  | char c => exact Text.isPlain_ofChars (escapeChar c)
  | half index => rfl

theorem isPlain_flatMap_escapeSymbol (symbols : List Symbol) :
    (Text.mk (symbols.flatMap escapeSymbol)).isPlain = (Text.mk symbols).isPlain := by
  induction symbols with
  | nil => rfl
  | cons s symbols ih =>
    rw [List.flatMap_cons, Text.isPlain_append, ih, isPlain_escapeSymbol, ← Text.isPlain_append]
    rfl

theorem isPlain_render_str (text : Text) : (str text).render.isPlain = text.isPlain := by
  rw [render, symbols, renderText, Text.isPlain_char_cons, Text.isPlain_append,
    isPlain_flatMap_escapeSymbol]
  exact Bool.and_true _

theorem isPlain_itemSymbols (items : List Json) :
    (Text.mk (itemSymbols items)).isPlain = items.all fun item => item.render.isPlain := by
  induction items with
  | nil => rfl
  | cons item items ih =>
    rw [itemSymbols, Text.isPlain_char_cons, Text.isPlain_append, ih]
    rfl

/-- An array is written as a plain text exactly if its items are. -/
theorem isPlain_render_arr (items : List Json) :
    (arr items).render.isPlain = items.all fun item => item.render.isPlain := by
  cases items with
  | nil => rfl
  | cons item items =>
    rw [render, symbols, Text.isPlain_char_cons, Text.isPlain_append, isPlain_itemSymbols]
    rfl

theorem isPlain_render_int (n : Int) : (int n).render.isPlain = true :=
  Text.isPlain_ofChars (renderInt n)

end Json

namespace Identity

open Text

namespace SignedEvent

/-- No text that is signed holds half of a surrogate pair. -/
structure IsPlain (e : SignedEvent) : Prop where
  publicKey : e.publicKey.isPlain = true
  tags : ∀ tag ∈ e.tags, ∀ text ∈ tag, text.isPlain = true
  content : e.content.isPlain = true

theorem isPlain_serialized_iff (e : SignedEvent) : e.serialized.isPlain = true ↔ e.IsPlain := by
  simp only [serialized, signedFields, Json.isPlain_render_arr, List.all_cons, List.all_nil,
    List.all_map, Function.comp_def, Json.isPlain_render_int, Json.isPlain_render_str,
    Bool.true_and, Bool.and_true, Bool.and_eq_true, List.all_eq_true]
  constructor
  · rintro ⟨hkey, htags, hcontent⟩
    exact ⟨hkey, htags, hcontent⟩
  · intro h
    exact ⟨h.publicKey, h.tags, h.content⟩

/-- An event has a digest exactly if its integers can be written and its texts are plain. -/
theorem isSome_digest?_iff (e : SignedEvent) :
    e.digest?.isSome = true ↔ e.isShort = true ∧ e.IsPlain := by
  unfold digest?
  split
  · next h =>
    rw [← isPlain_serialized_iff, Text.octets?, Option.isSome_map, Option.isSome_map, chars?_isSome]
    exact (and_iff_right h).symm
  · next h => simp [h]

end SignedEvent

/-! ## Well-formed texts -/

theorem isHexOfLength_iff {count : Nat} {text : Text} :
    isHexOfLength count text = true ↔ IsHex count text := by
  constructor
  · intro h
    obtain ⟨hlength, hdigits⟩ := of_decide_eq_true h
    have hplain : text.isPlain = true := by
      rw [Text.isPlain, List.all_eq_true]
      intro s hs
      have hdigit := List.all_eq_true.1 hdigits s hs
      cases s with
      | char c => rfl
      | half index => cases hdigit
    rw [← chars?_isSome] at hplain
    obtain ⟨chars, hchars⟩ := Option.isSome_iff_exists.1 hplain
    obtain rfl := chars?_eq_some_iff.1 hchars
    refine ⟨chars, rfl, by simpa [Text.length, ofChars] using hlength, ?_⟩
    intro c hc
    exact (isLowerHex_iff_mem c).1 (List.all_eq_true.1 hdigits (.char c) (List.mem_map_of_mem hc))
  · rintro ⟨chars, rfl, rfl, hdigits⟩
    refine decide_eq_true ⟨List.length_map .., List.all_eq_true.2 ?_⟩
    intro s hs
    obtain ⟨c, hc, rfl⟩ := List.mem_map.1 hs
    exact isLowerHex_of_mem c (hdigits c hc)

theorem octets?_hexOfOctets (octets : List UInt8) :
    octets? (ofChars (hexOfOctets octets)) = some octets := by
  rw [octets?, chars?_ofChars, Option.bind_some, octetsOfHex?_hexOfOctets]

theorem octets_hexOfOctets (octets : List UInt8) :
    Identity.octets (ofChars (hexOfOctets octets)) = octets := by
  rw [Identity.octets, octets?_hexOfOctets, Option.getD_some]

/-! ## The rules -/

open Crypto.Secp256k1 (Point)
open Crypto.Schnorr (natOfOctets verify)

/-- The key of an event is well formed, the event has this digest, and it carries no other
identifier. -/
structure Identified (e : SignedEvent) (digest : List UInt8) : Prop where
  isHex : IsHex 64 e.publicKey
  digested : e.digest? = some digest
  identifier : ∀ id, e.id = some id → id = SignedEvent.idOfDigest digest

/-- Key and signature of an event are the digits of these octets, 32 and 64 of them. -/
structure Decoded (e : SignedEvent) (key signature : List UInt8) : Prop where
  keyDigits : e.publicKey = ofChars (hexOfOctets key)
  keyLength : key.length = 32
  signatureDigits : e.signature = ofChars (hexOfOctets signature)
  signatureLength : signature.length = 64

/-- A point is the one that a key names: the key is its first coordinate, and its second one is
even. -/
structure IsNamedBy (point : Point) (key : List UInt8) : Prop where
  isOnCurve : point.IsOnCurve
  x : point.x = natOfOctets key
  even : point.y % 2 = 0

/-- What verifying an event comes to. -/
inductive Verdict (e : SignedEvent) : Except Failure Unit → Prop
  /-- The key is malformed; nothing else about the event is looked at. -/
  | malformedKey (hkey : ¬ IsHex 64 e.publicKey) :
    Verdict e (.error (.refused (.invalidIdentity e.publicKey)))
  /-- The creation time or the kind has too many digits, so that there is nothing to digest. -/
  | unwritable (hkey : IsHex 64 e.publicKey) (hlong : e.isShort = false) :
    Verdict e (.error .unwritable)
  /-- A text holds half of a surrogate pair, so that there is no digest. -/
  | undigestible (hkey : IsHex 64 e.publicKey) (hshort : e.isShort = true) (hhalf : ¬ e.IsPlain) :
    Verdict e (.error (.undigestible e.serialized))
  | idDiffers {digest id} (hkey : IsHex 64 e.publicKey) (hdigest : e.digest? = some digest)
      (hid : e.id = some id) (hdiffers : id ≠ SignedEvent.idOfDigest digest) :
    Verdict e (.error (.refused (.signatureMismatch e.publicKey .idDiffers)))
  | malformedSignature {digest} (hidentified : Identified e digest)
      (hsignature : ¬ IsHex 128 e.signature) :
    Verdict e (.error (.refused (.signatureMismatch e.publicKey .malformedSignature)))
  | keyNotOnCurve {digest key signature} (hidentified : Identified e digest)
      (hdecoded : Decoded e key signature)
      (hcurve : ¬ ∃ point : Point, point.IsOnCurve ∧ point.x = natOfOctets key) :
    Verdict e (.error (.refused (.signatureMismatch e.publicKey .keyNotOnCurve)))
  | invalidSignature {digest key signature point} (hidentified : Identified e digest)
      (hdecoded : Decoded e key signature) (hpoint : IsNamedBy point key)
      (hverify : verify point key digest signature = false) :
    Verdict e (.error (.refused (.signatureMismatch e.publicKey .invalidSignature)))
  | accepted {digest key signature point} (hidentified : Identified e digest)
      (hdecoded : Decoded e key signature) (hpoint : IsNamedBy point key)
      (hverify : verify point key digest signature = true) :
    Verdict e (.ok ())

variable {e : SignedEvent} {digest key signature : List UInt8}

theorem publicKey?_eq_some_iff {point : Point} :
    Crypto.Schnorr.publicKey? key = some point ↔ IsNamedBy point key := by
  rw [Crypto.Schnorr.publicKey?, Crypto.Secp256k1.liftX?_eq_some_iff]
  exact ⟨fun ⟨hx, hcurve, heven⟩ => ⟨hcurve, hx, heven⟩,
    fun ⟨hcurve, hx, heven⟩ => ⟨hx, hcurve, heven⟩⟩

theorem publicKey?_eq_none_iff : Crypto.Schnorr.publicKey? key = none ↔
    ¬ ∃ point : Point, point.IsOnCurve ∧ point.x = natOfOctets key := by
  rw [← Crypto.Secp256k1.isSome_liftX?_iff, Bool.not_eq_true, Option.isSome_eq_false_iff,
    Option.isNone_iff_eq_none, Crypto.Schnorr.publicKey?]

theorem exists_isNamedBy (h : ∃ point : Point, point.IsOnCurve ∧ point.x = natOfOctets key) :
    ∃ point, IsNamedBy point key := by
  obtain ⟨point, hpoint⟩ :=
    Option.isSome_iff_exists.1 ((Crypto.Secp256k1.isSome_liftX?_iff (natOfOctets key)).2 h)
  exact ⟨point, publicKey?_eq_some_iff.1 hpoint⟩

theorem exists_decoded (hkey : IsHex 64 e.publicKey) (hsignature : IsHex 128 e.signature) :
    ∃ key signature, Decoded e key signature := by
  obtain ⟨key, hkeyDigits, hkeyLength⟩ := (isHex_iff_octets 32).1 hkey
  obtain ⟨signature, hsignatureDigits, hsignatureLength⟩ :=
    (isHex_iff_octets 64).1 hsignature
  exact ⟨key, signature, hkeyDigits, hkeyLength, hsignatureDigits, hsignatureLength⟩

/-! ## What each check decides -/

theorem verifySignature_of_malformedKey (h : ¬ IsHex 64 e.publicKey) :
    verifySignature e = .error (.refused (.invalidIdentity e.publicKey)) := by
  have hkey : isKey e.publicKey = false := by
    rw [isKey, ← Bool.not_eq_true, isHexOfLength_iff]
    exact h
  rw [verifySignature, hkey]
  rfl

theorem verifySignature_of_no_digest (hkey : IsHex 64 e.publicKey)
    (h : ¬ (e.isShort = true ∧ e.IsPlain)) :
    verifySignature e = .error (digestFailure e) := by
  rw [← SignedEvent.isSome_digest?_iff, Bool.not_eq_true, Option.isSome_eq_false_iff,
    Option.isNone_iff_eq_none] at h
  rw [verifySignature, isKey, isHexOfLength_iff.2 hkey, h]
  rfl

theorem verifySignature_of_long (hkey : IsHex 64 e.publicKey) (h : e.isShort = false) :
    verifySignature e = .error .unwritable := by
  rw [verifySignature_of_no_digest hkey (by simp [h]), digestFailure, h]
  rfl

theorem verifySignature_of_half (hkey : IsHex 64 e.publicKey) (hshort : e.isShort = true)
    (h : ¬ e.IsPlain) : verifySignature e = .error (.undigestible e.serialized) := by
  rw [verifySignature_of_no_digest hkey fun hdigest => h hdigest.2, digestFailure, hshort]
  rfl

theorem verifySignature_of_digest (hkey : IsHex 64 e.publicKey)
    (hdigest : e.digest? = some digest) :
    verifySignature e = (verifyDigest e digest).mapError
      fun fault => .refused (.signatureMismatch e.publicKey fault) := by
  rw [verifySignature, isKey, isHexOfLength_iff.2 hkey, hdigest]
  rfl

theorem verifyDigest_of_otherId {id : Text} (hid : e.id = some id)
    (h : id ≠ SignedEvent.idOfDigest digest) : verifyDigest e digest = .error .idDiffers := by
  rw [verifyDigest, hid, if_pos (by simpa using h)]

/-- An event does not carry another identifier than that of its digest. -/
theorem carriesOther_eq_false (hid : ∀ id, e.id = some id → id = SignedEvent.idOfDigest digest) :
    (e.id.isSome && e.id != some (SignedEvent.idOfDigest digest)) = false := by
  cases hcarried : e.id with
  | none => rfl
  | some id =>
    rw [hid id hcarried]
    simp

theorem verifyDigest_of_malformedSignature
    (hid : ∀ id, e.id = some id → id = SignedEvent.idOfDigest digest)
    (h : ¬ IsHex 128 e.signature) : verifyDigest e digest = .error .malformedSignature := by
  have hsignature : isSignature e.signature = false := by
    rw [isSignature, ← Bool.not_eq_true, isHexOfLength_iff]
    exact h
  rw [verifyDigest, carriesOther_eq_false hid, hsignature]
  rfl

theorem verifyDigest_of_decoded (hid : ∀ id, e.id = some id → id = SignedEvent.idOfDigest digest)
    (h : Decoded e key signature) :
    verifyDigest e digest =
      match Crypto.Schnorr.publicKey? key with
      | none => .error .keyNotOnCurve
      | some point =>
        if verify point key digest signature then .ok () else .error .invalidSignature := by
  have hsignature : isSignature e.signature = true := by
    rw [isSignature, isHexOfLength_iff, h.signatureDigits]
    exact (isHex_iff_octets 64).2 ⟨signature, rfl, h.signatureLength⟩
  rw [verifyDigest, carriesOther_eq_false hid, hsignature, h.keyDigits, h.signatureDigits,
    octets_hexOfOctets, octets_hexOfOctets]
  rfl

theorem verifyDigest_of_keyNotOnCurve
    (hid : ∀ id, e.id = some id → id = SignedEvent.idOfDigest digest)
    (hdecoded : Decoded e key signature)
    (h : ¬ ∃ point : Point, point.IsOnCurve ∧ point.x = natOfOctets key) :
    verifyDigest e digest = .error .keyNotOnCurve := by
  rw [verifyDigest_of_decoded hid hdecoded, publicKey?_eq_none_iff.2 h]

theorem verifyDigest_of_isNamedBy
    (hid : ∀ id, e.id = some id → id = SignedEvent.idOfDigest digest)
    (hdecoded : Decoded e key signature) {point : Point} (h : IsNamedBy point key) :
    verifyDigest e digest =
      if verify point key digest signature then .ok () else .error .invalidSignature := by
  rw [verifyDigest_of_decoded hid hdecoded, publicKey?_eq_some_iff.2 h]

/-! ## The rules are sound and complete -/

theorem verdict_of_identified (h : Identified e digest) : Verdict e (verifySignature e) := by
  rw [verifySignature_of_digest h.isHex h.digested]
  by_cases hsignature : IsHex 128 e.signature
  · obtain ⟨key, signature, hdecoded⟩ := exists_decoded h.isHex hsignature
    by_cases hcurve : ∃ point : Point, point.IsOnCurve ∧ point.x = natOfOctets key
    · obtain ⟨point, hpoint⟩ := exists_isNamedBy hcurve
      rw [verifyDigest_of_isNamedBy h.identifier hdecoded hpoint]
      cases hverify : verify point key digest signature with
      | false => exact .invalidSignature h hdecoded hpoint hverify
      | true => exact .accepted h hdecoded hpoint hverify
    · rw [verifyDigest_of_keyNotOnCurve h.identifier hdecoded hcurve]
      exact .keyNotOnCurve h hdecoded hcurve
  · rw [verifyDigest_of_malformedSignature h.identifier hsignature]
    exact .malformedSignature h hsignature

theorem verdict_verifySignature (e : SignedEvent) : Verdict e (verifySignature e) := by
  by_cases hkey : IsHex 64 e.publicKey
  · cases hdigest : e.digest? with
    | none =>
      have hnone : ¬ (e.isShort = true ∧ e.IsPlain) := by
        rw [← SignedEvent.isSome_digest?_iff, hdigest]
        exact Bool.false_ne_true
      cases hshort : e.isShort with
      | false =>
        rw [verifySignature_of_long hkey hshort]
        exact .unwritable hkey hshort
      | true =>
        have hhalf : ¬ e.IsPlain := fun hplain => hnone ⟨hshort, hplain⟩
        rw [verifySignature_of_half hkey hshort hhalf]
        exact .undigestible hkey hshort hhalf
    | some digest =>
      by_cases hid : ∀ id, e.id = some id → id = SignedEvent.idOfDigest digest
      · exact verdict_of_identified ⟨hkey, hdigest, hid⟩
      · simp only [not_forall] at hid
        obtain ⟨id, hid, hdiffers⟩ := hid
        rw [verifySignature_of_digest hkey hdigest, verifyDigest_of_otherId hid hdiffers]
        exact .idDiffers hkey hdigest hid hdiffers
  · rw [verifySignature_of_malformedKey hkey]
    exact .malformedKey hkey

theorem Verdict.verifySignature_eq {result : Except Failure Unit} (h : Verdict e result) :
    verifySignature e = result := by
  cases h with
  | malformedKey hkey => exact verifySignature_of_malformedKey hkey
  | unwritable hkey hlong => exact verifySignature_of_long hkey hlong
  | undigestible hkey hshort hhalf => exact verifySignature_of_half hkey hshort hhalf
  | idDiffers hkey hdigest hid hdiffers =>
    rw [verifySignature_of_digest hkey hdigest, verifyDigest_of_otherId hid hdiffers]
    rfl
  | malformedSignature h hsignature =>
    rw [verifySignature_of_digest h.isHex h.digested,
      verifyDigest_of_malformedSignature h.identifier hsignature]
    rfl
  | keyNotOnCurve h hdecoded hcurve =>
    rw [verifySignature_of_digest h.isHex h.digested,
      verifyDigest_of_keyNotOnCurve h.identifier hdecoded hcurve]
    rfl
  | invalidSignature h hdecoded hpoint hverify =>
    rw [verifySignature_of_digest h.isHex h.digested,
      verifyDigest_of_isNamedBy h.identifier hdecoded hpoint, hverify]
    rfl
  | accepted h hdecoded hpoint hverify =>
    rw [verifySignature_of_digest h.isHex h.digested,
      verifyDigest_of_isNamedBy h.identifier hdecoded hpoint, hverify]
    rfl

theorem verifySignature_eq_iff {result : Except Failure Unit} :
    verifySignature e = result ↔ Verdict e result := by
  constructor
  · rintro rfl
    exact verdict_verifySignature e
  · exact Verdict.verifySignature_eq

/-- Identifiers that do not differ from that of the digest are judged alike. -/
theorem verifySignature_congr_id (hdigest : e.digest? = some digest) {id id' : Option Text}
    (hid : ∀ found, id = some found → found = SignedEvent.idOfDigest digest)
    (hid' : ∀ found, id' = some found → found = SignedEvent.idOfDigest digest) :
    verifySignature { e with id := id } = verifySignature { e with id := id' } := by
  by_cases hkey : IsHex 64 e.publicKey
  · rw [verifySignature_of_digest (e := { e with id := id }) hkey hdigest,
      verifySignature_of_digest (e := { e with id := id' }) hkey hdigest, verifyDigest,
      verifyDigest, carriesOther_eq_false (e := { e with id := id }) hid,
      carriesOther_eq_false (e := { e with id := id' }) hid']
  · rw [verifySignature_of_malformedKey (e := { e with id := id }) hkey,
      verifySignature_of_malformedKey (e := { e with id := id' }) hkey]

/-! ## Main statement -/

/-- What a signed event is refused for, in the order of the checks. -/
def signatureFaults : List SignatureFault :=
  [.idDiffers, .malformedSignature, .keyNotOnCurve, .invalidSignature]

theorem isVerdict_of_isPlain {result : Except Failure Unit}
    (h : e.isShort = true ∧ e.IsPlain ∨ ¬ IsHex 64 e.publicKey) (hverdict : Verdict e result) :
    result = .ok () ∨ result = .error (.refused (.invalidIdentity e.publicKey)) ∨
      ∃ fault ∈ signatureFaults,
        result = .error (.refused (.signatureMismatch e.publicKey fault)) := by
  cases hverdict with
  | malformedKey => exact .inr (.inl rfl)
  | unwritable hkey hlong =>
    rcases h with h | h
    · rw [h.1] at hlong
      cases hlong
    · exact absurd hkey h
  | undigestible hkey hshort hhalf =>
    rcases h with h | h
    · exact absurd h.2 hhalf
    · exact absurd hkey h
  | idDiffers => exact .inr (.inr ⟨.idDiffers, by decide, rfl⟩)
  | malformedSignature => exact .inr (.inr ⟨.malformedSignature, by decide, rfl⟩)
  | keyNotOnCurve => exact .inr (.inr ⟨.keyNotOnCurve, by decide, rfl⟩)
  | invalidSignature => exact .inr (.inr ⟨.invalidSignature, by decide, rfl⟩)
  | accepted => exact .inl rfl

/-- The first condition that fails decides what is wrong with a signed event. Every event comes to
the end that the rules give it, and to no other. It is accepted exactly if its key is 64 lowercase
digits, it carries no identifier but the one of its digest, its signature is 128 lowercase digits,
its key names a point of the curve, and the signature is valid for the digest under that point. A
malformed key comes before everything else. An event whose integers can be written and whose texts
are plain fails with a refusal that names its key, if it fails; with a well-formed key, the two other
ways to fail are open to all other events, and to no event besides. Keys, signatures and identifiers
that pass their checks decode to 32, 64 and 32 octets; and an absent identifier is judged as the
right one. -/
theorem signature_judged_in_order (e : SignedEvent) :
    (∀ result, verifySignature e = result ↔ Verdict e result) ∧
    (verifySignature e = .ok () ↔ ∃ digest key signature point, Identified e digest ∧
      Decoded e key signature ∧ IsNamedBy point key ∧ verify point key digest signature = true) ∧
    ((∃ key, verifySignature e = .error (.refused (.invalidIdentity key))) ↔
      ¬ IsHex 64 e.publicKey) ∧
    (e.isShort = true ∧ e.IsPlain ∨ ¬ IsHex 64 e.publicKey →
      verifySignature e = .ok () ∨
      verifySignature e = .error (.refused (.invalidIdentity e.publicKey)) ∨
      ∃ fault ∈ signatureFaults,
        verifySignature e = .error (.refused (.signatureMismatch e.publicKey fault))) ∧
    ((verifySignature e = .error .unwritable ↔ IsHex 64 e.publicKey ∧ e.isShort = false) ∧
      (verifySignature e = .error (.undigestible e.serialized) ↔
        IsHex 64 e.publicKey ∧ e.isShort = true ∧ ¬ e.IsPlain)) ∧
    (IsHex 64 e.publicKey → ∃ key, octets? e.publicKey = some key ∧ key.length = 32) ∧
    (IsHex 128 e.signature → ∃ signature, octets? e.signature = some signature ∧
      signature.length = 64) ∧
    (∀ digest, e.digest? = some digest →
      octets? (SignedEvent.idOfDigest digest) = some digest ∧ digest.length = 32 ∧
      verifySignature { e with id := none } =
        verifySignature { e with id := some (SignedEvent.idOfDigest digest) }) := by
  refine ⟨fun result => verifySignature_eq_iff, ⟨?_, ?_⟩, ⟨?_, ?_⟩, ?_, ⟨⟨?_, ?_⟩, ?_, ?_⟩, ?_, ?_,
    ?_⟩
  · intro h
    cases verifySignature_eq_iff.1 h with
    | accepted hidentified hdecoded hpoint hverify =>
      exact ⟨_, _, _, _, hidentified, hdecoded, hpoint, hverify⟩
  · rintro ⟨digest, key, signature, point, hidentified, hdecoded, hpoint, hverify⟩
    exact (Verdict.accepted hidentified hdecoded hpoint hverify).verifySignature_eq
  · rintro ⟨key, h⟩
    cases verifySignature_eq_iff.1 h with
    | malformedKey hkey => exact hkey
  · intro hkey
    exact ⟨_, verifySignature_of_malformedKey hkey⟩
  · intro h
    exact isVerdict_of_isPlain h (verdict_verifySignature e)
  · intro h
    cases verifySignature_eq_iff.1 h with
    | unwritable hkey hlong => exact ⟨hkey, hlong⟩
  · rintro ⟨hkey, hlong⟩
    exact verifySignature_of_long hkey hlong
  · intro h
    cases verifySignature_eq_iff.1 h with
    | undigestible hkey hshort hhalf => exact ⟨hkey, hshort, hhalf⟩
  · rintro ⟨hkey, hshort, hhalf⟩
    exact verifySignature_of_half hkey hshort hhalf
  · intro h
    exact @octets?_of_isHexOfLength 32 _ (isHexOfLength_iff.2 h)
  · intro h
    exact @octets?_of_isHexOfLength 64 _ (isHexOfLength_iff.2 h)
  · intro digest hdigest
    obtain ⟨-, octets, -, rfl⟩ := SignedEvent.digest?_eq_some_iff.1 hdigest
    exact ⟨octets?_hexOfOctets _, Crypto.Sha256.length_digest octets,
      verifySignature_congr_id hdigest (by simp) (by simp)⟩

/-- An event with half of a surrogate pair for its content, and without a signature. -/
def halfEvent : SignedEvent where
  id := none
  kind := authEventKind
  createdAt := 1
  tags := []
  content := ⟨[.half ⟨0, by decide⟩]⟩
  signature := ""
  publicKey := .ofChars (List.replicate 64 'a')

/-- Half of a surrogate pair stops the verification before the missing signature is seen, with a
failure that is no refusal. -/
theorem half_unrefused :
    isKey halfEvent.publicKey = true ∧ isSignature halfEvent.signature = false ∧
      ∃ f, verifySignature halfEvent = .error f ∧ ¬ f.IsRefused := by
  have hkey : isKey halfEvent.publicKey = true := by decide
  refine ⟨hkey, by decide, _, verifySignature_of_half (isHexOfLength_iff.1 hkey) ?_ ?_, ?_⟩
  · rw [SignedEvent.isShort, Json.isShort_of_natAbs_lt (by decide),
      Json.isShort_of_natAbs_lt (by decide), Bool.and_self]
  · intro hplain
    exact absurd hplain.content (by decide)
  · rintro ⟨refusal, h⟩
    cases h

end Identity

end ComputeDirectory
