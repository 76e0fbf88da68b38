import Darcbench.Report.Signing

/-!
# Signatures that verify

What the cryptographic library promises about keys and signatures, and that a
bundle verifies once it is signed.
-/

namespace Darcbench

/-- The documented behaviour of the cryptographic library on well-formed
keys. -/
structure CryptoLaws [Crypto] : Prop where
  base64Decode_base64Encode : ∀ bytes,
    Crypto.base64Decode (Crypto.base64Encode bytes) = some bytes
  length_verifyingKey : ∀ secret : List UInt8, secret.length = 32 →
    (Crypto.verifyingKey secret).length = 32
  isVerifyingKey_verifyingKey : ∀ secret : List UInt8, secret.length = 32 →
    Crypto.isVerifyingKey (Crypto.verifyingKey secret) = true
  length_sign : ∀ secret message : List UInt8, secret.length = 32 →
    (Crypto.sign secret message).length = 64
  verify_sign : ∀ secret message : List UInt8, secret.length = 32 →
    Crypto.verify (Crypto.verifyingKey secret) message
      (Crypto.sign secret message) = true

variable {F : Type} [F64 F] [Crypto] [JsonText F]

/-- What it takes for a signature to verify. -/
theorem verify_eq_ok {payload : Value F} {signature : Signature}
    {key sig : List UInt8}
    (halgorithm : signature.algorithm = "ed25519")
    (hcanonicalization : signature.canonicalization = canonicalization)
    (hkey : Crypto.base64Decode signature.publicKey = some key)
    (hkeyLength : key.length = 32)
    (hvalid : Crypto.isVerifyingKey key = true)
    (hsig : Crypto.base64Decode signature.value = some sig)
    (hsigLength : sig.length = 64)
    (hverify : Crypto.verify key (canonicalJson payload) sig = true) :
    verify payload signature = .ok () := by
  simp only [verify, halgorithm, hcanonicalization, hkey, hkeyLength, hvalid,
    hsig, hsigLength, hverify, ne_eq, not_true_eq_false, if_false,
    Bool.not_true, Bool.false_eq_true, if_true]

/-- A payload verifies against its own signature. -/
theorem verify_sign (laws : CryptoLaws) (key : AgentKey) (payload : Value F) :
    verify payload (key.sign payload) = .ok () :=
  verify_eq_ok rfl rfl (laws.base64Decode_base64Encode _)
    (laws.length_verifyingKey key.signing key.length_eq)
    (laws.isVerifyingKey_verifyingKey key.signing key.length_eq)
    (laws.base64Decode_base64Encode _)
    (laws.length_sign key.signing _ key.length_eq)
    (laws.verify_sign key.signing _ key.length_eq)

section

variable [Chrono]

omit [Crypto] [JsonText F] in
/-- No signature covers itself. -/
theorem Bundle.signable_withSignature (bundle : Bundle F)
    (signature : Option Signature) :
    { bundle with signature := signature }.signable = bundle.signable :=
  rfl

theorem Bundle.verifySignature_eq {bundle : Bundle F} {signature : Signature}
    (h : bundle.signature = some signature) :
    bundle.verifySignature = verify bundle.signable signature := by
  rw [verifySignature, h]

/-- A signed bundle verifies. -/
theorem Bundle.verifySignature_sign (laws : CryptoLaws)
    (bundle : Bundle F) (key : AgentKey) :
    (bundle.sign key).verifySignature = .ok () :=
  verify_sign laws key bundle.signable

end

end Darcbench
