import Darcbench.Report.Redaction
import Darcbench.Report.StandIns
import Darcbench.Report.Verification

/-!
# Altering a verified bundle

Signatures and digests are idealised: a signature value belongs to one message
and a digest to one byte string.  Then two bundles that verify with the same
public key and the same signature value differ at most in their sensitive texts
and in the key fingerprint of the signature record.  Nothing checks that
fingerprint, and the digest covers it and, where the ambient policy reveals
them, the sensitive texts.
-/

namespace Darcbench

/-- The idealised primitives. -/
structure IdealCrypto [Crypto] : Prop where
  verify_injective : ∀ key message message' signature,
    Crypto.verify key message signature = true →
      Crypto.verify key message' signature = true → message = message'
  sha256_injective : Function.Injective Crypto.sha256

/-! ## Digests -/

theorem hexDigit_injOn : ∀ m < 16, ∀ n < 16,
    hexDigit m = hexDigit n → m = n := by
  decide

theorem hexEncode_injective : Function.Injective hexEncode := by
  intro bytes bytes' h
  have hchars := String.ofList_injective h
  clear h
  induction bytes generalizing bytes' with
  | nil =>
      cases bytes' with
      | nil => rfl
      | cons b' bytes' => exact absurd hchars.symm (List.cons_ne_nil _ _)
  | cons b bytes ih =>
      cases bytes' with
      | nil => exact absurd hchars (List.cons_ne_nil _ _)
      | cons b' bytes' =>
          simp only [List.flatMap_cons, List.cons_append, List.nil_append,
            List.cons.injEq] at hchars
          obtain ⟨hhigh, hlow, hrest⟩ := hchars
          have hb := b.toNat_lt
          have hb' := b'.toNat_lt
          have hdiv := hexDigit_injOn (b.toNat / 16) (by omega)
            (b'.toNat / 16) (by omega) hhigh
          have hmod := hexDigit_injOn (b.toNat % 16) (by omega)
            (b'.toNat % 16) (by omega) hlow
          have hnat : b.toNat = b'.toNat := by omega
          rw [UInt8.toNat_inj.mp hnat, ih hrest]

section

variable {F : Type} [F64 F] [JsonText F] [Crypto]

theorem canonicalDigest_injective (ideal : IdealCrypto)
    (htext : Function.Injective (JsonText.toVec (F := F))) :
    Function.Injective (canonicalDigest : Value F → String) := by
  intro a b h
  have hhex := String.append_right_inj _ |>.mp h
  exact htext (ideal.sha256_injective (hexEncode_injective hhex))

/-! ## What a signature fixes -/

/-- The fingerprint that goes with the public key. -/
def Signature.HasOwnKeyId (signature : Signature) : Prop :=
  ∃ key, Crypto.base64Decode signature.publicKey = some key ∧
    signature.keyId = fingerprint key

/-- What a signature that verifies is known to be. -/
theorem verifies_of_verify_eq_ok {payload : Value F} {signature : Signature}
    (h : verify payload signature = .ok ()) :
    signature.algorithm = "ed25519" ∧
      signature.canonicalization = canonicalization ∧
      ∃ key sig, Crypto.base64Decode signature.publicKey = some key ∧
        Crypto.base64Decode signature.value = some sig ∧
        Crypto.verify key (canonicalJson payload) sig = true := by
  unfold verify at h
  split at h
  · exact absurd h (by simp)
  next halgorithm =>
  split at h
  · exact absurd h (by simp)
  next hcanonicalization =>
  split at h
  · exact absurd h (by simp)
  next key hkey =>
  split at h
  · exact absurd h (by simp)
  split at h
  · exact absurd h (by simp)
  split at h
  · exact absurd h (by simp)
  next sig hsig =>
  split at h
  · exact absurd h (by simp)
  split at h
  · next hverify =>
      exact ⟨not_not.mp halgorithm, not_not.mp hcanonicalization, key, sig,
        hkey, hsig, hverify⟩
  · exact absurd h (by simp)

/-- Under idealised primitives a signature value belongs to one payload. -/
theorem payload_eq_of_verify (ideal : IdealCrypto)
    (htext : Function.Injective (JsonText.toVec (F := F)))
    {payload payload' : Value F} {signature signature' : Signature}
    (hverify : verify payload signature = .ok ())
    (hverify' : verify payload' signature' = .ok ())
    (hkey : signature.publicKey = signature'.publicKey)
    (hvalue : signature.value = signature'.value) :
    payload = payload' := by
  obtain ⟨-, -, key, sig, hdecode, hsig, hv⟩ :=
    verifies_of_verify_eq_ok hverify
  obtain ⟨-, -, key', sig', hdecode', hsig', hv'⟩ :=
    verifies_of_verify_eq_ok hverify'
  rw [← hkey, hdecode] at hdecode'
  rw [← hvalue, hsig] at hsig'
  obtain rfl := Option.some.inj hdecode'
  obtain rfl := Option.some.inj hsig'
  exact htext (ideal.verify_injective key _ _ sig hv hv')

namespace Bundle

variable [Chrono]

/-- The bundle was read from JSON and its own signature verifies. -/
structure Verified (bundle : Bundle F) (signature : Signature) : Prop where
  read : ∃ tree, bundleCodec.decode tree = some bundle
  signature_eq : bundle.signature = some signature
  verifies : bundle.verifySignature = .ok ()

namespace Verified

variable {bundle bundle' : Bundle F} {signature signature' : Signature}

theorem representable (h : bundle.Verified signature) :
    bundleCodec.Representable bundle := by
  obtain ⟨tree, htree⟩ := h.read
  exact bundleCodec.representable_of_decode tree bundle htree

theorem verify_eq_ok (h : bundle.Verified signature) :
    verify bundle.signable signature = .ok () := by
  rw [← verifySignature_eq h.signature_eq]
  exact h.verifies

/-- All but the sensitive texts and the signature record is fixed by the
signature value. -/
theorem body_eq (ideal : IdealCrypto)
    (htext : Function.Injective (JsonText.toVec (F := F)))
    (h : bundle.Verified signature) (h' : bundle'.Verified signature')
    (hkey : signature.publicKey = signature'.publicKey)
    (hvalue : signature.value = signature'.value) :
    (bundle.mapSensitive (Sensitive.mask .redact)).body =
      (bundle'.mapSensitive (Sensitive.mask .redact)).body := by
  have hsignable := payload_eq_of_verify ideal htext h.verify_eq_ok
    h'.verify_eq_ok hkey hvalue
  have hmask := bodyCodec.mask_eq_of_encode_eq
    (representable_body h.representable)
    (representable_body h'.representable) hsignable
  rw [bodyCodec_mask, bodyCodec_mask] at hmask
  exact hmask

/-- Records that verify agree on what they say about the procedure. -/
theorem signature_eq_of_keyId (h : bundle.Verified signature)
    (h' : bundle'.Verified signature')
    (hkey : signature.publicKey = signature'.publicKey)
    (hvalue : signature.value = signature'.value)
    (hkeyId : signature.keyId = signature'.keyId) :
    signature = signature' := by
  obtain ⟨halgorithm, hcanonicalization, -⟩ :=
    verifies_of_verify_eq_ok h.verify_eq_ok
  obtain ⟨halgorithm', hcanonicalization', -⟩ :=
    verifies_of_verify_eq_ok h'.verify_eq_ok
  cases signature
  cases signature'
  simp_all only

/-- Bundles that verify with the same signature value, and whose records carry
the same fingerprint, agree on all but the sensitive texts. -/
theorem sameButSensitive (ideal : IdealCrypto)
    (htext : Function.Injective (JsonText.toVec (F := F)))
    (h : bundle.Verified signature) (h' : bundle'.Verified signature')
    (hkey : signature.publicKey = signature'.publicKey)
    (hvalue : signature.value = signature'.value)
    (hkeyId : signature.keyId = signature'.keyId) :
    bundle.SameButSensitive bundle' := by
  have hsignature : bundle.signature = bundle'.signature := by
    rw [h.signature_eq, h'.signature_eq,
      signature_eq_of_keyId h h' hkey hvalue hkeyId]
  rw [sameButSensitive_iff ⟨redacted⟩]
  exact eq_of_body_eq (h.body_eq ideal htext h' hkey hvalue) hsignature

end Verified

/-- Bundles have one digest if they differ in nothing that the policy
shows. -/
theorem digest_eq_iff (ideal : IdealCrypto)
    (htext : Function.Injective (JsonText.toVec (F := F)))
    {policy : RedactionPolicy} {bundle bundle' : Bundle F}
    (h : bundleCodec.Representable bundle)
    (h' : bundleCodec.Representable bundle') :
    bundle.digest policy = bundle'.digest policy ↔
      bundle.mapSensitive (Sensitive.mask policy) =
        bundle'.mapSensitive (Sensitive.mask policy) := by
  rw [← bundleCodec_mask, ← bundleCodec_mask]
  constructor
  · intro hdigest
    exact bundleCodec.mask_eq_of_encode_eq h h'
      (canonicalDigest_injective ideal htext hdigest)
  · intro hmask
    exact congrArg canonicalDigest (bundleCodec.encode_eq_of_mask_eq hmask)

/-- Altering a verified bundle under its signature value goes unnoticed in the
fingerprint of the signature record and, where the policy reveals them, in the
sensitive texts, and in nothing else. -/
theorem unaltered_iff (ideal : IdealCrypto)
    (htext : Function.Injective (JsonText.toVec (F := F)))
    {bundle bundle' : Bundle F} {signature signature' : Signature}
    (h : bundle.Verified signature) (h' : bundle'.Verified signature')
    (hkey : signature.publicKey = signature'.publicKey)
    (hvalue : signature.value = signature'.value)
    (policy : RedactionPolicy) :
    (bundle.SameButSensitive bundle' ∧ signature.HasOwnKeyId ∧
        signature'.HasOwnKeyId ∧
        bundle.digest policy = bundle'.digest policy) ↔
      signature.HasOwnKeyId ∧ signature'.HasOwnKeyId ∧
        (policy = .reveal → bundle.environment = bundle'.environment) := by
  constructor
  · rintro ⟨-, hown, hown', hdigest⟩
    refine ⟨hown, hown', ?_⟩
    rintro rfl
    rw [digest_eq_iff ideal htext h.representable h'.representable,
      mapSensitive_reveal, mapSensitive_reveal] at hdigest
    rw [hdigest]
  · rintro ⟨hown, hown', henvironment⟩
    have hkeyId : signature.keyId = signature'.keyId := by
      obtain ⟨key, hdecode, hid⟩ := hown
      obtain ⟨key', hdecode', hid'⟩ := hown'
      rw [← hkey, hdecode] at hdecode'
      rw [hid, hid', Option.some.inj hdecode']
    have hsame := h.sameButSensitive ideal htext h' hkey hvalue hkeyId
    refine ⟨hsame, hown, hown', ?_⟩
    rw [digest_eq_iff ideal htext h.representable h'.representable]
    cases policy with
    | redact => exact (sameButSensitive_iff ⟨redacted⟩).mp hsame
    | reveal =>
        have hblank : bundle.mapSensitive (fun _ => ⟨""⟩) =
            bundle'.mapSensitive (fun _ => ⟨""⟩) := hsame
        have hfields := congrArg body hblank
        have hsignature := congrArg Bundle.signature hblank
        rw [mapSensitive_reveal, mapSensitive_reveal]
        refine eq_of_body_eq ?_ hsignature
        simp only [body, mapSensitive, Prod.mk.injEq] at hfields ⊢
        obtain ⟨hmeta, hrun, -, hrest⟩ := hfields
        exact ⟨hmeta, hrun, henvironment rfl, hrest⟩

end Bundle

end

/-! ## A signed bundle and an altered one -/

namespace StandIns

/-- Keys that have signed the messages of a log and nothing else.  A signature
value belongs to the first message of the log that it fits. -/
abbrev sealing (log : List (List UInt8)) : Crypto :=
  { (inferInstance : Crypto) with
    verify := fun key message signature =>
      decide (log.find? (fun m => signature = key ++ summarise m) =
        some message) }

theorem idealCrypto_sealing (log : List (List UInt8)) :
    @IdealCrypto (sealing log) := by
  refine @IdealCrypto.mk (sealing log) ?_ fun _ _ h => h
  intro key message message' signature h h'
  have hfirst := of_decide_eq_true h
  have hfirst' := of_decide_eq_true h'
  exact Option.some.inj (hfirst.symm.trans hfirst')

/-- The scores of a run that measured nothing. -/
def noScores : ScoreCard Float where
  scoringModel := scoringModelVersion
  referenceProfile := ""
  uncalibrated := true
  profile := .quick
  total := none
  totalIsStandard := false
  categories := []
  facets := ∅
  composites := []
  stabilityScore := 0.0
  stabilityIndex := 0.0
  stabilityMultiplier := 0.0
  uncappedTotal := none
  weakLinkApplied := false
  balanceIndex := none
  efficiencyScore := none
  medianCv := none
  instabilityFlags := 0
  missingRequiredCategories := []
  unreferencedMetrics := []
  sustained := none

def unsigned : Bundle Float :=
  bundle [] [] noScores

/-- The bytes that a signature of that bundle covers. -/
def signedBytes : List UInt8 :=
  canonicalJson unsigned.signable

def genuine : Signature :=
  zeroKey.sign unsigned.signable

/-- The same record with another fingerprint. -/
def forged : Signature :=
  { genuine with keyId := "" }

theorem representable_zero :
    (f64Codec : Codec (Number Float) RedactionPolicy Float).Representable
      0.0 :=
  (toLiteral_isSome_iff _).mpr F64.isFinite_zero

theorem representable_facets :
    (Codec.map f64Codec :
      Codec (Number Float) RedactionPolicy (BTreeMap String Float)).Representable
      ∅ := by
  intro key a h
  exact absurd h (by simp)

theorem representable_unsigned : bundleCodec.Representable unsigned := by
  repeat' apply And.intro
  all_goals first
    | trivial
    | exact representable_zero
    | exact representable_facets
    | (intro _ h; cases h)

/-- The bundle with a signature record. -/
def withRecord (signature : Signature) : Bundle Float :=
  { unsigned with signature := some signature }

theorem representable_withRecord (signature : Signature) :
    bundleCodec.Representable (withRecord signature) := by
  obtain ⟨hmeta, hrun, henvironment, hmodules, hscores, hverdict, htelemetry,
    hdiagnosis, -⟩ := representable_unsigned
  refine ⟨hmeta, hrun, henvironment, hmodules, hscores, hverdict, htelemetry,
    hdiagnosis, ?_⟩
  rintro _ ⟨⟩
  exact ⟨trivial, trivial, trivial, trivial, trivial⟩

theorem verify_sealing (key message : List UInt8) :
    (sealing [message]).verify key message (key ++ summarise message) =
      true := by
  refine decide_eq_true ?_
  rw [List.find?_cons_of_pos (by simp)]

/-- The record verifies whatever fingerprint it carries. -/
theorem verify_sealed (payload : Value Float) (keyId : String) :
    @verify Float _ _ (sealing [canonicalJson payload]) payload
      { zeroKey.sign payload with keyId := keyId } = .ok () :=
  @verify_eq_ok Float _ (sealing [canonicalJson payload]) _ payload _ _ _
    rfl rfl (congrArg some (decodeBytes_encodeBytes zeroKey.signing))
    zeroKey.length_eq (decide_eq_true zeroKey.length_eq)
    (congrArg some (decodeBytes_encodeBytes _))
    (cryptoLaws.length_sign zeroKey.signing _ zeroKey.length_eq)
    (verify_sealing zeroKey.signing (canonicalJson payload))

theorem verified_withRecord (keyId : String) :
    @Bundle.Verified Float _ _ (sealing [signedBytes]) _
      (withRecord { genuine with keyId := keyId })
      { genuine with keyId := keyId } := by
  refine @Bundle.Verified.mk Float _ _ (sealing [signedBytes]) _ _ _
    (Bundle.read_of_representable (representable_withRecord _)) rfl ?_
  refine (@Bundle.verifySignature_eq Float _ (sealing [signedBytes]) _ _
    (withRecord _) _ rfl).trans ?_
  rw [withRecord, Bundle.signable_withSignature]
  exact verify_sealed unsigned.signable keyId

theorem hasOwnKeyId_genuine :
    @Signature.HasOwnKeyId (sealing [signedBytes]) genuine :=
  ⟨zeroKey.signing, congrArg some (decodeBytes_encodeBytes _), rfl⟩

theorem not_hasOwnKeyId_forged :
    ¬ @Signature.HasOwnKeyId (sealing [signedBytes]) forged := by
  rintro ⟨key, hkey, hid⟩
  have hdecode := decodeBytes_encodeBytes zeroKey.signing
  obtain rfl : decodeBytes (encodeBytes zeroKey.signing) = key :=
    Option.some.inj hkey
  rw [hdecode] at hid
  exact absurd hid (by decide)

end StandIns

open StandIns in
theorem Bundle.unaltered_iff_forged :
    ((withRecord genuine).SameButSensitive (withRecord forged) ∧
        @Signature.HasOwnKeyId (sealing [signedBytes]) genuine ∧
        @Signature.HasOwnKeyId (sealing [signedBytes]) forged ∧
        @Bundle.digest Float _ _ _ (sealing [signedBytes]) .redact
            (withRecord genuine) =
          @Bundle.digest Float _ _ _ (sealing [signedBytes]) .redact
            (withRecord forged)) ↔
      @Signature.HasOwnKeyId (sealing [signedBytes]) genuine ∧
        @Signature.HasOwnKeyId (sealing [signedBytes]) forged ∧
        (RedactionPolicy.redact = .reveal →
          (withRecord genuine).environment =
            (withRecord forged).environment) :=
  @Bundle.unaltered_iff Float _ _ (sealing [signedBytes]) _
    (idealCrypto_sealing _) toBytes_injective _ _ _ _
    (verified_withRecord genuine.keyId) (verified_withRecord "") rfl rfl
    .redact

open StandIns in
/-- The fingerprint can be replaced: the altered bundle verifies, names no key
and has another digest. -/
theorem Bundle.not_unaltered_forged :
    @IdealCrypto (sealing [signedBytes]) ∧
      Function.Injective (JsonText.toVec (F := Float)) ∧
      @Bundle.Verified Float _ _ (sealing [signedBytes]) _
        (withRecord genuine) genuine ∧
      @Bundle.Verified Float _ _ (sealing [signedBytes]) _
        (withRecord forged) forged ∧
      genuine.publicKey = forged.publicKey ∧ genuine.value = forged.value ∧
      ¬ ((withRecord genuine).SameButSensitive (withRecord forged) ∧
        @Signature.HasOwnKeyId (sealing [signedBytes]) forged ∧
        @Bundle.digest Float _ _ _ (sealing [signedBytes]) .redact
            (withRecord genuine) =
          @Bundle.digest Float _ _ _ (sealing [signedBytes]) .redact
            (withRecord forged)) := by
  refine ⟨idealCrypto_sealing _, toBytes_injective,
    verified_withRecord genuine.keyId, verified_withRecord "", rfl, rfl, ?_⟩
  rintro ⟨-, hown, -⟩
  exact not_hasOwnKeyId_forged hown

end Darcbench
