import Darcbench.Protocol.Codec
import Darcbench.Scoring.Model

/-!
# Serialised form of the score card
-/

namespace Darcbench

variable {F : Type} [F64 F] {P : Type}

def CategoryKey.naming : Naming CategoryKey where
  name
    | compute => "compute"
    | memory => "memory"
    | storage => "storage"
    | network => "network"
    | web => "web"
    | database => "database"
    | deployment => "deployment"
  members := [ compute, memory, storage, network, web, database, deployment]
  mem a := by cases a <;> decide
  nodup := by decide

def CompositeKey.naming : Naming CompositeKey where
  name
    | wordpressHosting => "wordpress_hosting"
    | phpCommerce => "php_commerce"
    | nodeNextjs => "node_nextjs"
    | databaseServer => "database_server"
    | staticMediaServer => "static_media_server"
    | buildServer => "build_server"
    | generalPurposeVps => "general_purpose_vps"
  members := [ wordpressHosting, phpCommerce, nodeNextjs, databaseServer,
    staticMediaServer, buildServer, generalPurposeVps]
  mem a := by cases a <;> decide
  nodup := by decide

def categoryOutcomeCodec : Codec (Number F) P (CategoryOutcome F) :=
  Fields.toCodec
    (.iso
      ⟨fun a => (a.key, a.label, a.score, a.weight, a.metricCount, a.modules),
        fun (key, label, score, weight, metricCount, modules) =>
          ⟨key, label, score, weight, metricCount, modules⟩,
        fun _ => rfl, fun _ => rfl⟩ <|
      .pair (.field "key" (.names CategoryKey.naming)) <|
      .pair (.field "label" .string) <|
      .pair (.field "score" f64Codec) <|
      .pair (.field "weight" f64Codec) <|
      .pair (.field "metric_count" natCodec) <|
      .defaulted "modules" Codec.string.list []
        stringCodec_representable_nil)
    (of_decide_eq_true rfl)

def compositeOutcomeCodec : Codec (Number F) P (CompositeOutcome F) :=
  Fields.toCodec
    (.iso
      ⟨fun a => (a.key, a.label, a.score, a.weightCoverage),
        fun (key, label, score, weightCoverage) =>
          ⟨key, label, score, weightCoverage⟩,
        fun _ => rfl, fun _ => rfl⟩ <|
      .pair (.field "key" (.names CompositeKey.naming)) <|
      .pair (.field "label" .string) <|
      .pair (.field "score" f64Codec) <|
      .field "weight_coverage" f64Codec)
    (of_decide_eq_true rfl)

def sustainedOutcomeCodec : Codec (Number F) P (SustainedOutcome F) :=
  Fields.toCodec
    (.iso
      ⟨fun a => (a.retention, a.score, a.cycles, a.scoredCycle, a.byMetric),
        fun (retention, score, cycles, scoredCycle, byMetric) =>
          ⟨retention, score, cycles, scoredCycle, byMetric⟩,
        fun _ => rfl, fun _ => rfl⟩ <|
      .pair (.field "retention" f64Codec) <|
      .pair (.field "score" f64Codec) <|
      .pair (.field "cycles" natCodec) <|
      .pair (.field "scored_cycle" natCodec) <|
      .field "by_metric" (Codec.map f64Codec))
    (of_decide_eq_true rfl)

theorem sustainedOutcomeCodec_plain :
    (sustainedOutcomeCodec : Codec (Number F) P (SustainedOutcome F)).Plain :=
  Fields.plain_toCodec _ <| Fields.plain_iso _ <|
    Fields.plain_pair (fun _ _ => rfl) <|
    Fields.plain_pair (fun _ _ => rfl) <|
    Fields.plain_pair (fun _ _ => rfl) <|
    Fields.plain_pair (fun _ _ => rfl) <|
    Fields.plain_field _ (Codec.plain_map f64Codec_plain)

def scoreCardCodec : Codec (Number F) P (ScoreCard F) :=
  Fields.toCodec
    (.iso
      ⟨fun a => (a.scoringModel, a.referenceProfile, a.uncalibrated, a.profile,
          a.total, a.totalIsStandard, a.categories, a.facets, a.composites,
          a.stabilityScore, a.stabilityIndex, a.stabilityMultiplier,
          a.uncappedTotal, a.weakLinkApplied, a.balanceIndex,
          a.efficiencyScore, a.medianCv, a.instabilityFlags,
          a.missingRequiredCategories, a.unreferencedMetrics, a.sustained),
        fun (scoringModel, referenceProfile, uncalibrated, profile, total,
            totalIsStandard, categories, facets, composites, stabilityScore,
            stabilityIndex, stabilityMultiplier, uncappedTotal,
            weakLinkApplied, balanceIndex, efficiencyScore, medianCv,
            instabilityFlags, missingRequiredCategories, unreferencedMetrics,
            sustained) =>
          ⟨scoringModel, referenceProfile, uncalibrated, profile, total,
            totalIsStandard, categories, facets, composites, stabilityScore,
            stabilityIndex, stabilityMultiplier, uncappedTotal,
            weakLinkApplied, balanceIndex, efficiencyScore, medianCv,
            instabilityFlags, missingRequiredCategories, unreferencedMetrics,
            sustained⟩,
        fun _ => rfl, fun _ => rfl⟩ <|
      .pair (.field "scoring_model" .string) <|
      .pair (.field "reference_profile" .string) <|
      .pair (.field "uncalibrated" .bool) <|
      .pair (.field "profile" (.names Profile.naming)) <|
      .pair (.optional "total" f64Codec f64Codec_decode_null) <|
      .pair (.field "total_is_standard" .bool) <|
      .pair (.field "categories" categoryOutcomeCodec.list) <|
      .pair (.field "facets" (Codec.map f64Codec)) <|
      .pair (.field "composites" compositeOutcomeCodec.list) <|
      .pair (.field "stability_score" f64Codec) <|
      .pair (.field "stability_index" f64Codec) <|
      .pair (.field "stability_multiplier" f64Codec) <|
      .pair (.optional "uncapped_total" f64Codec f64Codec_decode_null) <|
      .pair (.field "weak_link_applied" .bool) <|
      .pair (.optional "balance_index" f64Codec f64Codec_decode_null) <|
      .pair (.optional "efficiency_score" f64Codec f64Codec_decode_null) <|
      .pair (.optional "median_cv" f64Codec f64Codec_decode_null) <|
      .pair (.field "instability_flags" natCodec) <|
      .pair (.field "missing_required_categories" (Codec.names CategoryKey.naming).list) <|
      .pair (.field "unreferenced_metrics" Codec.string.list) <|
      .skipNone "sustained" sustainedOutcomeCodec rfl
        sustainedOutcomeCodec_plain)
    (of_decide_eq_true rfl)

end Darcbench
