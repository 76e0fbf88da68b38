import Darcbench.Modules.DatabaseCache
import Darcbench.Support.Lists

/-!
# Figures that were printed

A figure of a database is to be a positive number that the tool has printed
under its name.  When the two modules publish such figures only.
-/

namespace Darcbench

/-! ## Labels -/

section

variable {F : Type} [F64 F]

/-- A line with one label does not have another. -/
theorem dropPrefix?_other {line label other rest : List Char}
    (hlabel : label.isPrefixOf other = false)
    (hother : other.isPrefixOf label = false)
    (h : line.dropPrefix? label = some rest) :
    line.dropPrefix? other = none := by
  obtain ⟨start, hline, hstart⟩ := List.dropPrefix?_eq_some_iff.mp h
  rw [Option.eq_none_iff_forall_ne_some]
  intro rest' h'
  obtain ⟨start', hline', hstart'⟩ := List.dropPrefix?_eq_some_iff.mp h'
  have hpre : label <+: line :=
    ⟨rest, by rw [hline, beq_iff_eq.mp hstart]⟩
  have hpre' : other <+: line :=
    ⟨rest', by rw [hline', beq_iff_eq.mp hstart']⟩
  rcases List.prefix_or_prefix_of_prefix hpre hpre' with hle | hle
  · rw [List.isPrefixOf_iff_prefix.mpr hle] at hlabel
    exact Bool.noConfusion hlabel
  · rw [List.isPrefixOf_iff_prefix.mpr hle] at hother
    exact Bool.noConfusion hother

/-- What follows a label, on a line or a part of one. -/
def labelled (label text : List Char) : Option (List Char) :=
  (Words.trim text).dropPrefix? label

/-- One of the pieces has the number under the label. -/
def HasNumber (label : List Char) (pieces : List (List Char)) (value : F) :
    Prop :=
  ∃ piece ∈ pieces, ∃ rest,
    labelled label piece = some rest ∧ leadingNumber rest = some value

/-- The number of the last piece with a label. -/
def lastNumber (label : List Char) (pieces : List (List Char)) : Option F :=
  (pieces.filterMap (labelled label)).getLast?.bind leadingNumber

theorem hasNumber_of_lastNumber {label : List Char}
    {pieces : List (List Char)} {value : F}
    (h : lastNumber label pieces = some value) :
    HasNumber label pieces value := by
  obtain ⟨rest, hlast, hnumber⟩ := Option.bind_eq_some_iff.mp h
  obtain ⟨piece, hpiece, hlabelled⟩ :=
    List.mem_filterMap.mp (List.mem_of_getLast? hlast)
  exact ⟨piece, hpiece, rest, hlabelled, hnumber⟩

/-- A figure that every piece with a label overwrites. -/
theorem foldl_eq_lastNumber {σ : Type} {step : σ → List Char → σ}
    {field : σ → F} {label : List Char}
    (h : ∀ s piece, field (step s piece) =
      ((labelled label piece).map fun rest =>
        (leadingNumber rest).getD 0.0).getD (field s))
    {s : σ} (hzero : field s = 0.0) (pieces : List (List Char)) :
    field (pieces.foldl step s) =
      (lastNumber label pieces : Option F).getD 0.0 := by
  rw [foldl_overwritten h, hzero, ← List.map_filterMap, List.getLast?_map,
    lastNumber]
  cases (pieces.filterMap (labelled label)).getLast? with
  | none => rfl
  | some rest => rfl

/-- A number that is also read where there is none. -/
theorem exists_of_isPositive_getD {number : Option F}
    (hzero : ¬ (0.0 : F) < 0.0) (h : F64.IsPositive (number.getD 0.0)) :
    ∃ value, number = some value ∧ F64.IsPositive value := by
  cases number with
  | none => exact absurd h.2 hzero
  | some value => exact ⟨value, rfl, h⟩

end

/-! ## Running programs -/

/-- What is published of the programs that were run. -/
theorem mem_metrics_runEach {F P : Type} {exec : Answers}
    {args : P → List String} {measured : P → List Char → Measured F}
    {phases : List P} {result : Measured F}
    (h : runEach exec args measured phases = .ok result) {m : Metric F} :
    m ∈ result.metrics ↔
      ∃ phase ∈ phases, ∃ output, exec (args phase) = .ok output ∧
        m ∈ (measured phase output.text).metrics := by
  induction phases generalizing result with
  | nil =>
      obtain rfl := Except.ok.inj h
      simp
  | cons phase rest ih =>
      rw [runEach] at h
      split at h
      · exact absurd h (by simp)
      · next output hexec =>
          cases hrest : runEach exec args measured rest with
          | error error => simp [hrest, bind, Except.bind] at h
          | ok others =>
              rw [hrest] at h
              obtain rfl := Except.ok.inj h
              rw [Measured.append, List.mem_append, ih hrest]
              constructor
              · rintro (hm | ⟨other, hmem, hother⟩)
                · exact ⟨phase, List.mem_cons_self, output, hexec, hm⟩
                · exact ⟨other, List.mem_cons_of_mem _ hmem, hother⟩
              · rintro ⟨other, hmem, output', hexec', hm⟩
                rcases List.mem_cons.mp hmem with rfl | hmem
                · rw [hexec] at hexec'
                  obtain rfl := Except.ok.inj hexec'
                  exact .inl hm
                · exact .inr ⟨other, hmem, output', hexec', hm⟩

theorem exists_runEach_eq_ok {F P : Type} {exec : Answers}
    {args : P → List String} (measured : P → List Char → Measured F)
    {phases : List P}
    (h : ∀ phase ∈ phases, ∃ output, exec (args phase) = .ok output) :
    ∃ result, runEach exec args measured phases = .ok result := by
  induction phases with
  | nil => exact ⟨_, rfl⟩
  | cons phase rest ih =>
      obtain ⟨output, hexec⟩ := h phase List.mem_cons_self
      obtain ⟨others, hrest⟩ :=
        ih fun other hother => h other (List.mem_cons_of_mem _ hother)
      refine ⟨(measured phase output.text).append others, ?_⟩
      rw [runEach, hexec, hrest]
      rfl

/-! ## Transactions -/

namespace DatabaseOltp

section

variable {F : Type} [F64 F] [F64.Round F]

/-- The lines of an output, where the labels stand. -/
def Prints (label output : List Char) (value : F) : Prop :=
  HasNumber label (Words.lines output) value

/-- The figure is a positive number that a run has printed under its name. -/
def Reported (exec : Answers) (m : Metric F) : Prop :=
  F64.IsPositive m.value ∧
    ((∃ phase ∈ throughputPhases, m.key = phase.key ∧
        ∃ output, exec phase.args = .ok output ∧
          Prints tpsLabel output.text m.value) ∨
      ∃ phase ∈ latencyPhases, ∃ output, exec phase.args = .ok output ∧
        (m.key = phase.meanKey ∧ Prints averageLabel output.text m.value ∨
          m.key = phase.p95Key ∧ ∃ mean stddev : F,
            Prints averageLabel output.text mean ∧
            Prints stddevLabel output.text stddev ∧
            m.value = mean + 1.645 * stddev))

/-- If the run did work, its last average is a positive number, and so is what
the last deviation makes of it. -/
def HasLatency (F : Type) [F64 F] [F64.Round F] (output : List Char) :
    Prop :=
  (parsePgbench output : BenchResult F).isCredible = true →
    ∃ mean : F, lastNumber averageLabel (Words.lines output) = some mean ∧
      F64.IsPositive mean ∧
      ∀ stddev : F,
        lastNumber stddevLabel (Words.lines output) = some stddev →
        F64.IsPositive (mean + 1.645 * stddev)

theorem latencyMeanMs_readLine (result : BenchResult F) (line : List Char) :
    (result.readLine line).latencyMeanMs =
      ((labelled averageLabel line).map fun rest =>
        (leadingNumber rest).getD 0.0).getD result.latencyMeanMs := by
  rw [BenchResult.readLine, labelled]
  cases htps : (Words.trim line).dropPrefix? tpsLabel with
  | some rest =>
      rw [dropPrefix?_other (by decide) (by decide) htps]
      dsimp only
      split_ifs <;> rfl
  | none =>
      cases haverage : (Words.trim line).dropPrefix? averageLabel with
      | some rest => rfl
      | none =>
          dsimp only
          split
          · rfl
          · split
            · rfl
            · split
              · rfl
              · split
                · rfl
                · split_ifs <;> rfl

theorem latencyStddevMs_readLine (result : BenchResult F)
    (line : List Char) :
    (result.readLine line).latencyStddevMs =
      ((labelled stddevLabel line).map leadingNumber).getD
        result.latencyStddevMs := by
  rw [BenchResult.readLine, labelled]
  cases htps : (Words.trim line).dropPrefix? tpsLabel with
  | some rest =>
      have hnone : (Words.trim line).dropPrefix? stddevLabel = none :=
        dropPrefix?_other (by decide) (by decide) htps
      rw [hnone]
      dsimp only
      split_ifs <;> rfl
  | none =>
      cases haverage : (Words.trim line).dropPrefix? averageLabel with
      | some rest =>
          have hnone : (Words.trim line).dropPrefix? stddevLabel = none :=
            dropPrefix?_other (by decide) (by decide) haverage
          rw [hnone]
          rfl
      | none =>
          cases hstddev : (Words.trim line).dropPrefix? stddevLabel with
          | some rest => rfl
          | none =>
              dsimp only
              split
              · rfl
              · split
                · rfl
                · split
                  · rfl
                  · split_ifs <;> rfl

/-- A rate is kept, or it is the number of its line. -/
theorem tps_readLine (result : BenchResult F) (line : List Char) :
    (result.readLine line).tps = result.tps ∨
      ∃ rest, labelled tpsLabel line = some rest ∧
        (result.readLine line).tps = (leadingNumber rest).getD 0.0 := by
  rw [BenchResult.readLine, labelled]
  cases htps : (Words.trim line).dropPrefix? tpsLabel with
  | some rest =>
      dsimp only
      split_ifs
      · exact .inr ⟨rest, rfl, rfl⟩
      · exact .inl rfl
  | none =>
      refine .inl ?_
      dsimp only
      split
      · rfl
      · split
        · rfl
        · split
          · rfl
          · split
            · rfl
            · split
              · rfl
              · split_ifs <;> rfl

theorem tps_foldl (lines : List (List Char)) {result : BenchResult F}
    (hzero : result.tps = 0.0) :
    (lines.foldl BenchResult.readLine result).tps = 0.0 ∨
      HasNumber tpsLabel lines
        (lines.foldl BenchResult.readLine result).tps := by
  induction lines using List.reverseRecOn with
  | nil => exact .inl hzero
  | append_singleton lines line ih =>
      rw [List.foldl_append, List.foldl_cons, List.foldl_nil]
      rcases tps_readLine (lines.foldl BenchResult.readLine result) line with
        hkept | ⟨rest, hlabelled, hread⟩
      · rw [hkept]
        refine ih.imp_right ?_
        rintro ⟨piece, hpiece, hnumber⟩
        exact ⟨piece, List.mem_append_left _ hpiece, hnumber⟩
      · rw [hread]
        cases hnumber : (leadingNumber rest : Option F) with
        | none => exact .inl rfl
        | some value =>
            exact .inr ⟨line, List.mem_append_right _ List.mem_cons_self, rest,
              hlabelled, hnumber⟩

theorem latencyMeanMs_parsePgbench (output : List Char) :
    (parsePgbench output : BenchResult F).latencyMeanMs =
      (lastNumber averageLabel (Words.lines output)).getD 0.0 :=
  foldl_eq_lastNumber latencyMeanMs_readLine rfl (Words.lines output)

theorem latencyStddevMs_parsePgbench (output : List Char) :
    (parsePgbench output : BenchResult F).latencyStddevMs =
      lastNumber stddevLabel (Words.lines output) := by
  rw [parsePgbench, foldl_overwritten latencyStddevMs_readLine,
    ← List.map_filterMap, List.getLast?_map, lastNumber]
  cases ((Words.lines output).filterMap (labelled stddevLabel)).getLast? with
  | none => rfl
  | some rest => rfl

/-- A credible rate was printed. -/
theorem prints_tps {output : List Char} (hzero : ¬ (0.0 : F) < 0.0)
    (h : (parsePgbench output : BenchResult F).isCredible = true) :
    F64.IsPositive (parsePgbench output : BenchResult F).tps ∧
      Prints tpsLabel output (parsePgbench output : BenchResult F).tps := by
  rw [BenchResult.isCredible, Bool.and_eq_true, Bool.and_eq_true,
    Bool.and_eq_true] at h
  obtain ⟨⟨⟨-, hpos⟩, hfinite⟩, -⟩ := h
  have hlt := of_decide_eq_true hpos
  refine ⟨⟨hfinite, hlt⟩, ?_⟩
  rcases tps_foldl (Words.lines output)
    (show (BenchResult.default : BenchResult F).tps = 0.0 from rfl) with
    hnone | hprints
  · rw [parsePgbench, hnone] at hlt
    exact absurd hlt hzero
  · exact hprints

theorem reported_of_mem_throughput {exec : Answers}
    {phase : ThroughputPhase} (hphase : phase ∈ throughputPhases)
    {output : Container.Output} (hexec : exec phase.args = .ok output)
    (hzero : ¬ (0.0 : F) < 0.0) {m : Metric F}
    (hm : m ∈ (phase.measured (parsePgbench output.text)).metrics) :
    Reported exec m := by
  rw [ThroughputPhase.measured] at hm
  split at hm
  · exact absurd hm List.not_mem_nil
  · next hcredible =>
      obtain rfl := List.mem_singleton.mp hm
      obtain ⟨hpositive, hprints⟩ :=
        prints_tps hzero (by simpa using hcredible)
      exact ⟨hpositive, .inl ⟨phase, hphase, rfl, output, hexec, hprints⟩⟩

/-- The metrics of a latency phase that did work. -/
theorem metrics_latency [F64.Display F] (phase : LatencyPhase)
    {output : List Char}
    (h : (parsePgbench output : BenchResult F).isCredible = true) :
    (phase.measured (parsePgbench output : BenchResult F)).metrics =
      .single phase.meanKey (phase.label ++ " latency, mean") "ms"
          .lowerIsBetter
          ((lastNumber averageLabel (Words.lines output)).getD 0.0) ::
        ((lastNumber stddevLabel (Words.lines output)).map fun stddev =>
          .single phase.p95Key
            (phase.label ++ " latency, estimated 95th percentile") "ms"
            .lowerIsBetter
            ((lastNumber averageLabel (Words.lines output)).getD 0.0 +
              1.645 * stddev)).toList := by
  rw [LatencyPhase.measured, if_neg (by simp [h]),
    BenchResult.estimatedP95Ms, latencyMeanMs_parsePgbench,
    latencyStddevMs_parsePgbench, Option.map_map]
  rfl

theorem reported_latency_iff [F64.Display F] {exec : Answers}
    {phase : LatencyPhase} (hphase : phase ∈ latencyPhases)
    {output : Container.Output} (hexec : exec phase.args = .ok output)
    (hzero : ¬ (0.0 : F) < 0.0) :
    (∀ m ∈ (phase.measured (parsePgbench output.text : BenchResult F)).metrics,
        Reported exec m) ↔
      HasLatency F output.text := by
  constructor
  · intro hall hcredible
    rw [metrics_latency phase hcredible, List.forall_mem_cons] at hall
    obtain ⟨mean, hmean, hpositive⟩ :=
      exists_of_isPositive_getD hzero hall.1.1
    refine ⟨mean, hmean, hpositive, ?_⟩
    intro stddev hstddev
    have hp95 := hall.2 _ (by rw [hstddev]; exact List.mem_singleton_self _)
    rw [hmean] at hp95
    exact hp95.1
  · intro hlatency m hm
    by_cases hcredible :
        (parsePgbench output.text : BenchResult F).isCredible = true
    · obtain ⟨mean, hmean, hpositive, hp95⟩ := hlatency hcredible
      rw [metrics_latency phase hcredible, hmean] at hm
      rcases List.mem_cons.mp hm with rfl | hm
      · exact ⟨hpositive, .inr ⟨phase, hphase, output, hexec,
          .inl ⟨rfl, hasNumber_of_lastNumber hmean⟩⟩⟩
      · obtain ⟨stddev, hstddev, rfl⟩ :=
          Option.map_eq_some_iff.mp (Option.mem_toList.mp hm)
        exact ⟨hp95 stddev hstddev, .inr ⟨phase, hphase, output, hexec,
          .inr ⟨rfl, mean, stddev, hasNumber_of_lastNumber hmean,
            hasNumber_of_lastNumber hstddev, rfl⟩⟩⟩
    · rw [LatencyPhase.measured, if_pos (by simpa using hcredible)] at hm
      exact absurd hm List.not_mem_nil

theorem exists_of_measure_eq_ok [F64.Display F] {exec : Answers}
    {measured : Measured F} (h : measure exec = .ok measured) :
    ∃ throughput latency : Measured F,
      runThroughput exec = .ok throughput ∧ runLatency exec = .ok latency ∧
        measured = throughput.append latency := by
  rw [measure] at h
  cases hbuild : build exec with
  | error error => simp [hbuild, bind, Except.bind] at h
  | ok built =>
      cases hthroughput : (runThroughput exec :
          Except ModuleError (Measured F)) with
      | error error => simp [hbuild, hthroughput, bind, Except.bind] at h
      | ok throughput =>
          cases hlatency : (runLatency exec :
              Except ModuleError (Measured F)) with
          | error error =>
              simp [hbuild, hthroughput, hlatency, bind, Except.bind] at h
          | ok latency =>
              rw [hbuild, hthroughput, hlatency] at h
              exact ⟨throughput, latency, rfl, rfl, (Except.ok.inj h).symm⟩

theorem reported_iff [F64.Display F] {exec : Answers} {measured : Measured F}
    (hzero : ¬ (0.0 : F) < 0.0) (h : measure exec = .ok measured) :
    (∀ m ∈ measured.metrics, Reported exec m) ↔
      ∀ phase ∈ latencyPhases, ∀ output : Container.Output,
        exec phase.args = .ok output → HasLatency F output.text := by
  obtain ⟨throughput, latency, hthroughput, hlatency, rfl⟩ :=
    exists_of_measure_eq_ok h
  rw [Measured.append, List.forall_mem_append]
  constructor
  · rintro ⟨-, hall⟩ phase hphase output hexec
    refine (reported_latency_iff hphase hexec hzero).mp ?_
    intro m hm
    exact hall m ((mem_metrics_runEach hlatency).mpr
      ⟨phase, hphase, output, hexec, hm⟩)
  · intro hall
    constructor
    · intro m hm
      obtain ⟨phase, hphase, output, hexec, hmem⟩ :=
        (mem_metrics_runEach hthroughput).mp hm
      exact reported_of_mem_throughput hphase hexec hzero hmem
    · intro m hm
      obtain ⟨phase, hphase, output, hexec, hmem⟩ :=
        (mem_metrics_runEach hlatency).mp hm
      exact (reported_latency_iff hphase hexec hzero).mpr
        (hall phase hphase output hexec) m hmem

end

end DatabaseOltp

end Darcbench
