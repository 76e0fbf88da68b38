import Darcbench.Report.Verification
import Darcbench.Support.JsonText
import Std.Data.String.ToInt

/-!
# Plain libraries

Simple instances of the libraries, and a plain bundle, for results about fixed
inputs.  Timestamps are written in their text form for the epoch and as numbers
elsewhere, and trees are written without white space and with sorted members.
-/

namespace Darcbench

namespace StandIns

/-- The epoch, as the date library writes it. -/
def epochText : String := "1970-01-01T00:00:00Z"

def formatTimestamp (t : Timestamp) : String :=
  if t = 0 then epochText else Int.repr t

def parseTimestamp (s : String) : Option Timestamp :=
  if s = epochText then some 0 else s.toInt?

theorem toInt?_epochText : epochText.toInt? = none := by
  refine String.toInt?_eq_none (Bool.eq_false_of_not_eq_true fun h => ?_)
  rcases String.isInt_iff.mp h with hnat | ⟨t, ht, -⟩
  · have hcolon := (String.isNat_iff.mp hnat).2.1 ':' (by decide)
    exact absurd hcolon (by decide)
  · have hhead := congrArg (fun s => s.toList.head?) ht
    simp [epochText] at hhead

theorem parseTimestamp_formatTimestamp (t : Timestamp) :
    parseTimestamp (formatTimestamp t) = some t := by
  rw [formatTimestamp]
  split
  · next h =>
      rw [h, parseTimestamp, if_pos rfl]
  · rw [parseTimestamp]
    split
    · next h =>
        have hint : epochText.toInt? = some t := by
          rw [← h]
          exact Int.toInt?_repr t
        rw [toInt?_epochText] at hint
        exact absurd hint (by simp)
    · exact Int.toInt?_repr t

scoped instance : Chrono where
  format := formatTimestamp
  parse := parseTimestamp
  parse_format := parseTimestamp_formatTimestamp

/-! ## Text of trees -/

section

variable {F : Type} [F64 F] (float : F → List Char)

def literal : Number F → List Char
  | .posInt n => Nat.toDigits 10 n
  | .negInt n => '-' :: Nat.toDigits 10 (n + 1)
  | .float x _ => float x

def toBytes (tree : Value F) : List UInt8 :=
  (String.ofList (tree.text (literal float))).toByteArray.data.toList

end

theorem toDigits_injective : Function.Injective (Nat.toDigits 10) := by
  intro n m h
  rw [← Nat.ofDigitChars_ten_toDigits (n := n), h,
    Nat.ofDigitChars_ten_toDigits]

theorem isNumberChar_of_mem_toDigits {n : ℕ} {c : Char}
    (h : c ∈ Nat.toDigits 10 n) : Json.isNumberChar c = true := by
  have hdigit := Nat.isDigit_of_mem_toDigits (by decide) (by decide) h
  simp only [Json.isNumberChar, hdigit, Bool.true_or]

theorem not_mem_toDigits {n : ℕ} {c : Char} (h : c.isDigit = false) :
    c ∉ Nat.toDigits 10 n := by
  intro hmem
  have hdigit := Nat.isDigit_of_mem_toDigits (by decide) (by decide) hmem
  rw [h] at hdigit
  exact absurd hdigit Bool.false_ne_true

/-- A literal for every bit pattern, which is the usual one for zero. -/
def floatLiteral (x : Float) : List Char :=
  Nat.toDigits 10 x.toBits.toNat ++ ['.', '0']

theorem floatLiteral_injective : Function.Injective floatLiteral := by
  intro x y h
  have hbits := toDigits_injective (List.append_cancel_right h)
  have hmodel : x.toModel.toBits = y.toModel.toBits := UInt64.toNat_inj.mp hbits
  cases x with
  | ofModel x =>
      cases y with
      | ofModel y =>
          cases x
          cases y
          cases hmodel
          rfl

theorem dot_mem_floatLiteral (x : Float) : '.' ∈ floatLiteral x :=
  List.mem_append_right _ List.mem_cons_self

theorem dot_notMem_neg (n : ℕ) : '.' ∉ '-' :: Nat.toDigits 10 n := by
  rintro (_ | ⟨_, h⟩)
  exact not_mem_toDigits rfl h

theorem literal_injective : Function.Injective (literal floatLiteral) := by
  intro a b h
  have hdot : '.' ∈ literal floatLiteral a ↔ '.' ∈ literal floatLiteral b := by
    rw [h]
  have hminus : '-' ∈ literal floatLiteral a ↔
      '-' ∈ literal floatLiteral b := by
    rw [h]
  cases a with
  | posInt n =>
      cases b with
      | posInt m => exact congrArg Number.posInt (toDigits_injective h)
      | negInt m =>
          exact absurd (hminus.mpr List.mem_cons_self) (not_mem_toDigits rfl)
      | float y hy =>
          exact absurd (hdot.mpr (dot_mem_floatLiteral y))
            (not_mem_toDigits rfl)
  | negInt n =>
      cases b with
      | posInt m =>
          exact absurd (hminus.mp List.mem_cons_self) (not_mem_toDigits rfl)
      | negInt m =>
          have hnm := toDigits_injective (List.cons.inj h).2
          exact congrArg Number.negInt (Nat.succ.inj hnm)
      | float y hy =>
          exact absurd (hdot.mpr (dot_mem_floatLiteral y)) (dot_notMem_neg _)
  | float x hx =>
      cases b with
      | posInt m =>
          exact absurd (hdot.mp (dot_mem_floatLiteral x))
            (not_mem_toDigits rfl)
      | negInt m =>
          exact absurd (hdot.mp (dot_mem_floatLiteral x)) (dot_notMem_neg _)
      | float y hy =>
          obtain rfl := floatLiteral_injective h
          rfl

theorem literals : Json.Literals (literal floatLiteral) where
  injective := literal_injective
  ne_nil n := by
    cases n with
    | posInt n => exact Nat.toDigits_ne_nil
    | negInt n => exact List.cons_ne_nil _ _
    | float x hx => exact List.ne_nil_of_mem (dot_mem_floatLiteral x)
  mem n c hc := by
    cases n with
    | posInt n => exact isNumberChar_of_mem_toDigits hc
    | negInt n =>
        rcases List.mem_cons.mp hc with rfl | hc
        · rfl
        · exact isNumberChar_of_mem_toDigits hc
    | float x hx =>
        rcases List.mem_append.mp hc with hc | hc
        · exact isNumberChar_of_mem_toDigits hc
        · rcases List.mem_pair.mp hc with rfl | rfl
          · rfl
          · rfl

theorem toBytes_injective : Function.Injective (toBytes floatLiteral) := by
  intro a b h
  refine Json.text_injective literals (String.ofList_injective ?_)
  exact String.toByteArray_inj.mp (ByteArray.ext (Array.ext' h))

scoped instance : JsonText Float where
  toVec := toBytes floatLiteral
  toVecPretty := toBytes floatLiteral

/-! ## Primitives -/

def encodeBytes (bytes : List UInt8) : String :=
  String.ofList (bytes.map fun b => Char.ofNat b.toNat)

def decodeBytes (s : String) : List UInt8 :=
  s.toList.map fun c => UInt8.ofNat c.toNat

theorem decodeBytes_encodeBytes (bytes : List UInt8) :
    decodeBytes (encodeBytes bytes) = bytes := by
  rw [decodeBytes, encodeBytes, String.toList_ofList, List.map_map]
  refine List.map_id'' (fun b => ?_) bytes
  have hvalid : b.toNat.isValidChar := .inl (by have := b.toNat_lt; omega)
  have hnat : (Char.ofNat b.toNat).toNat = b.toNat := by
    rw [Char.ofNat, dif_pos hvalid]
    rfl
  rw [Function.comp_apply, hnat]
  exact UInt8.ofNat_toNat

/-- The first bytes of a message, up to 32 of them. -/
def summarise (message : List UInt8) : List UInt8 :=
  (message ++ List.replicate 32 0).take 32

/-- Hashes that hide nothing, and keys that are their own public halves. -/
scoped instance : Crypto where
  sha256 bytes := bytes
  base64Encode := encodeBytes
  base64Decode s := some (decodeBytes s)
  verifyingKey secret := secret
  isVerifyingKey bytes := decide (bytes.length = 32)
  sign secret message := secret ++ summarise message
  verify key message signature :=
    decide (signature = key ++ summarise message)

theorem length_summarise (message : List UInt8) :
    (summarise message).length = 32 := by
  rw [summarise, List.length_take, List.length_append, List.length_replicate]
  omega

theorem cryptoLaws : CryptoLaws where
  base64Decode_base64Encode bytes :=
    congrArg some (decodeBytes_encodeBytes bytes)
  length_verifyingKey _ h := h
  isVerifyingKey_verifyingKey _ h := decide_eq_true h
  length_sign secret message h := by
    have hlength := length_summarise message
    exact (List.length_append).trans (by rw [h, hlength])
  verify_sign _ _ _ := decide_eq_true rfl

/-- The key of an agent whose secret is all zeros. -/
def zeroKey : AgentKey where
  signing := List.replicate 32 0
  length_eq := List.length_replicate

/-! ## A bundle -/

section

variable {F : Type} [F64 F]

/-- A machine of which next to nothing is known. -/
def inventory : Inventory F where
  schema := "darcbench.inventory/1"
  collectedAt := 0
  platform :=
    { os := "linux"
      distribution := none
      distributionVersion := none
      kernelRelease := none
      architecture := "x86_64"
      scope := .unknown
      virtualization := none
      virtualizationEvidence := []
      containerRuntime := none
      cgroupCpuLimit := none
      cgroupMemLimitBytes := none
      uptimeSeconds := none
      load1 := none
      load5 := none
      load15 := none
      runningAsRoot := false
      hostname := ⟨"localhost"⟩
      dmiVendor := none
      dmiProduct := none
      cloudHint := none
      securityModules := [] }
  cpu :=
    { vendor := none
      model := none
      family := none
      stepping := none
      microcode := none
      logicalCpus := 4
      physicalCores := none
      sockets := none
      numaNodes := none
      smtEnabled := none
      baseMhz := none
      maxMhz := none
      minMhz := none
      governor := none
      scalingDriver := none
      caches := []
      instructionSets := []
      mitigations := [] }
  memory := ⟨1024, 0, 0, 0, 0, 0, 0, 0, none, false⟩
  storage := ⟨[], [], false, []⟩
  network := ⟨[], none, false⟩
  software := ⟨[], [], [], [], [], [], [], .unlikely, []⟩
  gaps := []

def runId : RunId where
  asStr := "run_00000000000000000000000000000000"
  valid := RunId.check_zeros

/-- The bundle of a quick run at the epoch. -/
def bundle (modules : List ModuleRef) (results : List (ModuleResult F))
    (scores : ScoreCard F) : Bundle F where
  metadata :=
    { schema := bundleSchemaVersion
      protocol := protocolVersion
      agentVersion := "0.1.0"
      buildTarget := "x86_64-linux"
      buildProfile := "release"
      generatedAt := 0
      agentBuildHash := none }
  run :=
    { runId := runId
      profile := .quick
      state := .completed
      startedAt := 0
      finishedAt := 0
      durationMs := 0
      modules := modules
      environmentDigest := "sha256:0"
      eventsDigest := "sha256:0"
      eventCount := 1
      stoppedBecause := none
      guardsNotEnforced := []
      comparabilityNotRecorded := [] }
  environment := inventory
  modules := results
  scores := scores
  verdict := ⟨.localState, [], "dbv/0.1.0"⟩
  telemetry :=
    { samples := 0
      cpuBusyPctMean := 0.0
      cpuExternalBusyPctMax := 0.0
      cpuStealPctMax := 0.0
      cpuStealPctMean := 0.0
      cpuIowaitPctMean := 0.0
      load1Max := 0.0
      memUsedBytesMax := 0
      swapUsedBytesMax := 0
      cpuFreqMhzFirst := none
      cpuFreqMhzLast := none
      cpuTempCMax := none
      psiCpuSomeAvg10Max := none }
  sustainedDiagnosis := none
  signature := none

end

end StandIns

end Darcbench
