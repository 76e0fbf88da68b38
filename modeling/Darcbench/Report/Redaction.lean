import Darcbench.Report.Signing

/-!
# What redaction hides

Only two members of the whole format depend on the redaction policy: the host
name and the hardware addresses of the network interfaces.  Everything else in
a bundle reads back under any policy as it was written.
-/

namespace Darcbench

open Codec Fields

variable {F : Type} [F64 F] {P : Type}

/-! ## Parts of the format without sensitive texts -/

theorem cacheLevelCodec_plain :
    (cacheLevelCodec : Codec (Number F) P CacheLevel).Plain := by
  refine plain_toCodec _ (plain_iso _ ?_)
  repeat' apply plain_pair
  all_goals first
    | exact fun _ _ => rfl
    | exact plain_optional _ rfl fun _ _ => rfl

theorem cpuInfoCodec_plain :
    (cpuInfoCodec : Codec (Number F) P (CpuInfo F)).Plain := by
  refine plain_toCodec _ (plain_iso _ ?_)
  repeat' apply plain_pair
  all_goals first
    | exact fun _ _ => rfl
    | exact plain_optional _ rfl fun _ _ => rfl
    | exact plain_field _ stringsCodec_plain
    | exact plain_field _ (plain_list cacheLevelCodec_plain)

theorem memoryInfoCodec_plain :
    (memoryInfoCodec : Codec (Number F) P MemoryInfo).Plain := by
  refine plain_toCodec _ (plain_iso _ ?_)
  repeat' apply plain_pair
  all_goals first
    | exact fun _ _ => rfl
    | exact plain_optional _ rfl fun _ _ => rfl

theorem blockDeviceCodec_plain :
    (blockDeviceCodec : Codec (Number F) P BlockDevice).Plain := by
  refine plain_toCodec _ (plain_iso _ ?_)
  repeat' apply plain_pair
  all_goals first
    | exact fun _ _ => rfl
    | exact plain_optional _ rfl fun _ _ => rfl

theorem mountCodec_plain : (mountCodec : Codec (Number F) P Mount).Plain := by
  refine plain_toCodec _ (plain_iso _ ?_)
  repeat' apply plain_pair
  all_goals first
    | exact fun _ _ => rfl
    | exact plain_field _ stringsCodec_plain

theorem storageInfoCodec_plain :
    (storageInfoCodec : Codec (Number F) P StorageInfo).Plain := by
  refine plain_toCodec _ (plain_iso _ ?_)
  repeat' apply plain_pair
  · exact plain_field _ (plain_list blockDeviceCodec_plain)
  · exact plain_field _ (plain_list mountCodec_plain)
  · exact fun _ _ => rfl
  · exact plain_field _ stringsCodec_plain

theorem softwareInfoCodec_plain :
    (softwareInfoCodec : Codec (Number F) P SoftwareInfo).Plain := by
  refine plain_toCodec _ (plain_iso _ ?_)
  repeat' apply plain_pair
  all_goals first
    | exact fun _ _ => rfl
    | exact plain_field _ stringsCodec_plain
    | exact plain_field _ (plain_list fun _ _ => rfl)

theorem runRecordCodec_plain [Chrono] :
    (runRecordCodec : Codec (Number F) P RunRecord).Plain := by
  refine plain_toCodec _ (plain_iso _ ?_)
  repeat' apply plain_pair
  all_goals first
    | exact fun _ _ => rfl
    | exact plain_field _ (plain_list fun _ _ => rfl)

theorem summaryCodec_plain :
    (summaryCodec : Codec (Number F) P (Summary F)).Plain := by
  refine plain_toCodec _ (plain_iso _ ?_)
  repeat' apply plain_pair
  all_goals first
    | exact fun _ _ => rfl
    | exact plain_optional _ rfl fun _ _ => rfl

theorem metricCodec_plain :
    (metricCodec : Codec (Number F) P (Metric F)).Plain := by
  refine plain_toCodec _ (plain_iso _ ?_)
  repeat' apply plain_pair
  all_goals first
    | exact fun _ _ => rfl
    | exact plain_field _ summaryCodec_plain
    | exact plain_field _ (plain_list fun _ _ => rfl)
    | exact plain_defaulted _ _ _ (plain_list natCodec_plain)

theorem moduleResultCodec_plain [Chrono] :
    (moduleResultCodec : Codec (Number F) P (ModuleResult F)).Plain := by
  refine plain_toCodec _ (plain_iso _ ?_)
  repeat' apply plain_pair
  all_goals first
    | exact fun _ _ => rfl
    | exact plain_field _ (plain_list metricCodec_plain)
    | exact plain_defaulted _ _ _ (plain_list fun _ _ => rfl)
    | exact plain_defaulted _ _ _ (plain_map fun _ _ => rfl)

theorem categoryOutcomeCodec_plain :
    (categoryOutcomeCodec :
      Codec (Number F) P (CategoryOutcome F)).Plain := by
  refine plain_toCodec _ (plain_iso _ ?_)
  repeat' apply plain_pair
  all_goals first
    | exact fun _ _ => rfl
    | exact plain_defaulted _ _ _ (plain_list fun _ _ => rfl)

theorem scoreCardCodec_plain :
    (scoreCardCodec : Codec (Number F) P (ScoreCard F)).Plain := by
  refine plain_toCodec _ (plain_iso _ ?_)
  repeat' apply plain_pair
  all_goals first
    | exact fun _ _ => rfl
    | exact plain_optional _ rfl f64Codec_plain
    | exact plain_field _ (plain_list categoryOutcomeCodec_plain)
    | exact plain_field _ (plain_map f64Codec_plain)
    | exact plain_field _ (plain_list fun _ _ => rfl)

theorem VerdictReason.Kind.codec_plain (kind : VerdictReason.Kind) :
    (codec kind : Codec (Number F) P kind.Payload).Plain := by
  cases kind <;> exact fun _ _ => rfl

theorem verdictCodec_plain :
    (verdictCodec : Codec (Number F) P Verdict).Plain := by
  have hreason : (verdictReasonCodec :
      Codec (Number F) P VerdictReason).Plain :=
    Codec.plain_iso _ (plain_variants VerdictReason.Kind.codec_plain)
  refine plain_toCodec _ (Fields.plain_iso _ ?_)
  repeat' apply plain_pair
  all_goals first
    | exact fun _ _ => rfl
    | exact plain_field _ (plain_list hreason)

theorem telemetrySummaryCodec_plain :
    (telemetrySummaryCodec :
      Codec (Number F) P (TelemetrySummary F)).Plain := by
  refine plain_toCodec _ (plain_iso _ ?_)
  repeat' apply plain_pair
  all_goals first
    | exact fun _ _ => rfl
    | exact plain_optional _ rfl f64Codec_plain

/-! ## The sensitive texts -/

/-- The inventory with other sensitive texts. -/
def Inventory.mapSensitive (f : Sensitive → Sensitive) (a : Inventory F) :
    Inventory F :=
  { a with
    platform := { a.platform with hostname := f a.platform.hostname }
    network :=
      { a.network with
        interfaces := a.network.interfaces.map fun interface =>
          { interface with mac := f interface.mac } } }

/-- The bundle with other sensitive texts. -/
def Bundle.mapSensitive (f : Sensitive → Sensitive) (bundle : Bundle F) :
    Bundle F :=
  { bundle with environment := bundle.environment.mapSensitive f }

/-- The bundles agree on every member that is not a sensitive text. -/
def Bundle.SameButSensitive (bundle bundle' : Bundle F) : Prop :=
  bundle.mapSensitive (fun _ => ⟨""⟩) = bundle'.mapSensitive (fun _ => ⟨""⟩)

theorem Bundle.mapSensitive_mapSensitive (f g : Sensitive → Sensitive)
    (bundle : Bundle F) :
    (bundle.mapSensitive f).mapSensitive g =
      bundle.mapSensitive (g ∘ f) := by
  simp only [mapSensitive, Inventory.mapSensitive, List.map_map,
    Function.comp_def]

/-- It does not matter with which text the sensitive ones are replaced. -/
theorem Bundle.sameButSensitive_iff (text : Sensitive)
    {bundle bundle' : Bundle F} :
    bundle.SameButSensitive bundle' ↔
      bundle.mapSensitive (fun _ => text) =
        bundle'.mapSensitive (fun _ => text) := by
  have hreplace : ∀ (old new : Sensitive) (b : Bundle F),
      (b.mapSensitive fun _ => old).mapSensitive (fun _ => new) =
        b.mapSensitive fun _ => new := fun old new b =>
    mapSensitive_mapSensitive _ _ b
  constructor
  · intro h
    rw [← hreplace ⟨""⟩ text bundle, ← hreplace ⟨""⟩ text bundle']
    exact congrArg _ h
  · intro h
    rw [SameButSensitive, ← hreplace text ⟨""⟩ bundle,
      ← hreplace text ⟨""⟩ bundle', h]

theorem Bundle.mapSensitive_reveal (bundle : Bundle F) :
    bundle.mapSensitive (Sensitive.mask .reveal) = bundle := by
  cases bundle
  simp only [mapSensitive, Inventory.mapSensitive, Sensitive.mask,
    List.map_id']

theorem Bundle.eq_of_body_eq {bundle bundle' : Bundle F}
    (hbody : bundle.body = bundle'.body)
    (hsignature : bundle.signature = bundle'.signature) :
    bundle = bundle' := by
  cases bundle
  cases bundle'
  simp only [body, Prod.mk.injEq] at hbody
  obtain ⟨rfl, rfl, rfl, rfl, rfl, rfl, rfl, rfl⟩ := hbody
  obtain rfl := hsignature
  rfl

/-! ## What is read back -/

theorem interfaceCodec_mask (p : RedactionPolicy) (a : Interface) :
    (interfaceCodec : Codec (Number F) _ Interface).mask p a =
      { a with mac := a.mac.mask p } := by
  change Interface.mk _ _ _ _ _ _ = _
  congr 1
  all_goals exact Option.map_id'

theorem networkInfoCodec_mask (p : RedactionPolicy) (a : NetworkInfo) :
    (networkInfoCodec : Codec (Number F) _ NetworkInfo).mask p a =
      { a with
        interfaces := a.interfaces.map fun interface =>
          { interface with mac := interface.mac.mask p } } := by
  change NetworkInfo.mk _ _ _ = _
  congr 1
  · exact List.map_congr_left fun i _ => interfaceCodec_mask p i
  · exact Option.map_id'

theorem platformCodec_mask (p : RedactionPolicy) (a : Platform F) :
    platformCodec.mask p a = { a with hostname := a.hostname.mask p } := by
  change Platform.mk _ _ _ _ _ _ _ _ _ _ _ _ _ _ _ _ _ _ _ _ _ = _
  congr 1
  all_goals first
    | exact Option.map_id'
    | exact stringsCodec_plain p _

section

variable [Chrono]

theorem inventoryCodec_mask (p : RedactionPolicy) (a : Inventory F) :
    inventoryCodec.mask p a = a.mapSensitive (Sensitive.mask p) := by
  change Inventory.mk _ _ _ _ _ _ _ _ _ = _
  rw [Inventory.mapSensitive]
  congr 1
  · exact platformCodec_mask p a.platform
  · exact cpuInfoCodec_plain p a.cpu
  · exact memoryInfoCodec_plain p a.memory
  · exact storageInfoCodec_plain p a.storage
  · exact networkInfoCodec_mask p a.network
  · exact softwareInfoCodec_plain p a.software
  · exact List.map_id' _

/-- A bundle reads back with its sensitive texts replaced as the policy asks
and without any other change. -/
theorem bundleCodec_mask (p : RedactionPolicy) (bundle : Bundle F) :
    bundleCodec.mask p bundle = bundle.mapSensitive (Sensitive.mask p) := by
  change Bundle.mk _ _ _ _ _ _ _ _ _ = _
  rw [Bundle.mapSensitive]
  congr 1
  · exact runRecordCodec_plain p bundle.run
  · exact inventoryCodec_mask p bundle.environment
  · exact plain_list moduleResultCodec_plain p bundle.modules
  · exact scoreCardCodec_plain p bundle.scores
  · exact verdictCodec_plain p bundle.verdict
  · exact telemetrySummaryCodec_plain p bundle.telemetry

theorem bodyCodec_mask (p : RedactionPolicy) (bundle : Bundle F) :
    Bundle.bodyCodec.mask p bundle.body =
      (bundle.mapSensitive (Sensitive.mask p)).body := by
  refine Prod.ext rfl (Prod.ext (runRecordCodec_plain p bundle.run)
    (Prod.ext (inventoryCodec_mask p bundle.environment)
    (Prod.ext (plain_list moduleResultCodec_plain p bundle.modules)
    (Prod.ext (scoreCardCodec_plain p bundle.scores)
    (Prod.ext (verdictCodec_plain p bundle.verdict)
    (Prod.ext (telemetrySummaryCodec_plain p bundle.telemetry)
    (plain_option _ rfl sustainedDiagnosisCodec_plain p _)))))))

theorem Bundle.representable_body {bundle : Bundle F}
    (h : bundleCodec.Representable bundle) :
    bodyCodec.Representable bundle.body := by
  obtain ⟨hmeta, hrun, henvironment, hmodules, hscores, hverdict, htelemetry,
    hdiagnosis, -⟩ := h
  exact ⟨hmeta, hrun, henvironment, hmodules, hscores, hverdict, htelemetry,
    hdiagnosis⟩

/-- A bundle that can be read back can be read from some tree. -/
theorem Bundle.read_of_representable {bundle : Bundle F}
    (h : bundleCodec.Representable bundle) :
    ∃ tree, bundleCodec.decode tree = some bundle := by
  refine ⟨bundleCodec.encode .reveal bundle, ?_⟩
  rw [bundleCodec.decode_encode _ _ h, bundleCodec_mask, mapSensitive_reveal]

end

end Darcbench
