import Darcbench.Report.Codec

/-!
# Canonical bytes and signatures

A signature covers the canonical bytes of everything in a bundle but the
signature itself, with the redaction policy pinned.  The text form of JSON
trees and the cryptographic primitives come from libraries and are parameters.
-/

namespace Darcbench

/-- The text form of JSON trees, as the serialisation library provides it. -/
class JsonText (F : Type) [F64 F] where
  toVec : Value F → List UInt8
  toVecPretty : Value F → List UInt8

/-- The primitives of the cryptographic and encoding libraries. -/
class Crypto where
  sha256 : List UInt8 → List UInt8
  base64Encode : List UInt8 → String
  base64Decode : String → Option (List UInt8)
  /-- The public half of the key with the given secret half. -/
  verifyingKey : List UInt8 → List UInt8
  /-- Whether the bytes are a public key. -/
  isVerifyingKey : List UInt8 → Bool
  sign (secret message : List UInt8) : List UInt8
  verify (key message signature : List UInt8) : Bool

variable {F : Type} [F64 F]

/-! ## Canonical form -/

def canonicalization : String := "DCJ/1"

/-- Canonical bytes of a tree.  A tree holds no non-finite number, so the walk
that rejects one finds nothing. -/
def canonicalJson [JsonText F] (payload : Value F) : List UInt8 :=
  JsonText.toVec payload

def hexDigit (n : ℕ) : Char :=
  if n < 10 then Char.ofNat (48 + n) else Char.ofNat (87 + n)

def hexEncode (bytes : List UInt8) : String :=
  String.ofList <| bytes.flatMap fun b =>
    [hexDigit (b.toNat / 16), hexDigit (b.toNat % 16)]

/-- Self-describing SHA-256 of some bytes. -/
def sha256Text [Crypto] (bytes : List UInt8) : String :=
  "sha256:" ++ hexEncode (Crypto.sha256 bytes)

def canonicalDigest [JsonText F] [Crypto] (payload : Value F) : String :=
  sha256Text (canonicalJson payload)

/-! ## Keys -/

inductive SigningError where
  | badSignature
  | badPublicKey
  deriving DecidableEq

/-- The long-lived signing identity of an agent. -/
structure AgentKey where
  signing : List UInt8
  length_eq : signing.length = 32

/-- Fingerprint of a public key: its first eight hash bytes. -/
def fingerprint [Crypto] (key : List UInt8) : String :=
  hexEncode ((Crypto.sha256 key).take 8)

namespace AgentKey

variable [Crypto]

def publicKeyB64 (key : AgentKey) : String :=
  Crypto.base64Encode (Crypto.verifyingKey key.signing)

def keyId (key : AgentKey) : String :=
  fingerprint (Crypto.verifyingKey key.signing)

/-- Signs the canonical form of a payload. -/
def sign [JsonText F] (key : AgentKey) (payload : Value F) : Signature where
  algorithm := "ed25519"
  canonicalization := canonicalization
  publicKey := key.publicKeyB64
  value := Crypto.base64Encode
    (Crypto.sign key.signing (canonicalJson payload))
  keyId := key.keyId

end AgentKey

/-- Verifies a signature against the canonical form of a payload. -/
def verify [JsonText F] [Crypto] (payload : Value F) (signature : Signature) :
    Except SigningError Unit :=
  if signature.algorithm ≠ "ed25519" then
    .error .badSignature
  else if signature.canonicalization ≠ canonicalization then
    .error .badSignature
  else
    match Crypto.base64Decode signature.publicKey with
    | none => .error .badPublicKey
    | some key =>
        if key.length ≠ 32 then
          .error .badPublicKey
        else if !Crypto.isVerifyingKey key then
          .error .badPublicKey
        else
          match Crypto.base64Decode signature.value with
          | none => .error .badSignature
          | some sig =>
              if sig.length ≠ 64 then
                .error .badSignature
              else if Crypto.verify key (canonicalJson payload) sig then
                .ok ()
              else
                .error .badSignature

/-! ## Signed bundles -/

namespace Bundle

variable [Chrono]

/-- Everything in a bundle except the signature. -/
abbrev Body (F : Type) [F64 F] : Type :=
  BundleMeta × RunRecord × Inventory F × List (ModuleResult F) ×
    ScoreCard F × Verdict × TelemetrySummary F ×
      Option (SustainedDiagnosis F)

def body (bundle : Bundle F) : Body F :=
  (bundle.metadata, bundle.run, bundle.environment, bundle.modules,
    bundle.scores, bundle.verdict, bundle.telemetry,
    bundle.sustainedDiagnosis)

/-- The members that a signature covers.  Unlike the stored form, this one
writes an absent diagnosis as `null`. -/
def bodyCodec : Codec (Number F) RedactionPolicy (Body F) :=
  Fields.toCodec
    (.pair (.field "meta" bundleMetaCodec) <|
      .pair (.field "run" runRecordCodec) <|
      .pair (.field "environment" inventoryCodec) <|
      .pair (.field "modules" moduleResultCodec.list) <|
      .pair (.field "scores" scoreCardCodec) <|
      .pair (.field "verdict" verdictCodec) <|
      .pair (.field "telemetry" telemetrySummaryCodec) <|
      .optional "sustained_diagnosis" sustainedDiagnosisCodec
        sustainedDiagnosisCodec_decode_null)
    (of_decide_eq_true rfl)

/-- The tree a signature covers, under the pinned redaction policy. -/
def signable (bundle : Bundle F) : Value F :=
  bodyCodec.encode .redact bundle.body

variable [JsonText F] [Crypto]

/-- Signs the bundle. -/
def sign (bundle : Bundle F) (key : AgentKey) : Bundle F :=
  { bundle with signature := some (key.sign bundle.signable) }

/-- Verifies the bundle's own signature. -/
def verifySignature (bundle : Bundle F) : Except SigningError Unit :=
  match bundle.signature with
  | none => .error .badSignature
  | some signature => verify bundle.signable signature

/-- Digest of the whole bundle, signature included, under the ambient
redaction policy. -/
def digest (policy : RedactionPolicy) (bundle : Bundle F) : String :=
  canonicalDigest (bundleCodec.encode policy bundle)

end Bundle

end Darcbench
