import Darcbench.Modules.Reported

/-!
# Figures of the cache that were printed

A rate is to be that of the command that was asked for, and the latency of an
idle server a positive number.
-/

namespace Darcbench

namespace DatabaseCache

section

variable {F : Type} [F64 F]

/-- A line of an output is a row with the rate of a command. -/
def HasRow (command : String) (output : List Char) (rate : F) : Prop :=
  ∃ line ∈ Words.lines output, ∃ result : CommandResult F,
    commandResult? line = some result ∧
      eqIgnoreAsciiCase result.name command.toList = true ∧
      result.opsPerSecond = rate

/-- If a line is a row with a rate, such a line is of the command. -/
def HasOwnRow (F : Type) [F64 F] (command : String) (output : List Char) :
    Prop :=
  (∃ line ∈ Words.lines output, ∃ result : CommandResult F,
      commandResult? line = some result) →
    ∃ rate : F, HasRow command output rate

/-- A line of an output has the number in the part with a label, or at a place
among its four numbers. -/
def PrintsPart (label : List Char) (place : ℕ) (output : List Char)
    (value : F) : Prop :=
  (∃ line ∈ Words.lines output,
      HasNumber label ((Words.trim line).splitOn ',') value) ∨
    ∃ line ∈ Words.lines output, ∃ numbers : List F,
      numbers? (Words.trim line) = some numbers ∧ numbers.length = 4 ∧
        numbers[place]? = some value

/-- The number that the line of a probe has under a label, or at a place if the
line has no labels. -/
def namedNumber (label : List Char) (place : ℕ) (output : List Char) :
    Option F :=
  match labelledLine output with
  | some line => lastNumber label (line.splitOn ',')
  | none => (pipedLine output).bind (·[place]?)

theorem isPositive_of_commandResult? {line : List Char}
    {result : CommandResult F} (h : commandResult? line = some result) :
    F64.IsPositive result.opsPerSecond := by
  rw [commandResult?] at h
  split at h
  · split at h
    · exact absurd h (by simp)
    · split at h
      · exact absurd h (by simp)
      · split at h
        · next hpositive =>
            obtain rfl := Option.some.inj h
            exact hpositive
        · exact absurd h (by simp)
  · exact absurd h (by simp)

theorem mem_parseCsv {output : List Char} {result : CommandResult F} :
    result ∈ parseCsv output ↔
      ∃ line ∈ Words.lines output, commandResult? line = some result :=
  List.mem_filterMap

theorem mem_of_labelledLine {output line : List Char}
    (h : labelledLine output = some line) :
    ∃ raw ∈ Words.lines output, Words.trim raw = line := by
  have hmem := List.mem_of_find?_eq_some h
  rw [List.mem_reverse, List.mem_map] at hmem
  exact hmem

theorem mem_of_pipedLine {output : List Char} {numbers : List F}
    (h : pipedLine output = some numbers) :
    numbers.length = 4 ∧
      ∃ raw ∈ Words.lines output, numbers? (Words.trim raw) = some numbers := by
  have hmem := List.mem_of_find?_eq_some h
  rw [List.mem_reverse, List.mem_filterMap] at hmem
  obtain ⟨line, hline, hnumbers⟩ := hmem
  obtain ⟨raw, hraw, rfl⟩ := List.mem_map.mp (List.mem_of_mem_filter hline)
  have hlength := @List.find?_some _ _ _ _ h
  exact ⟨of_decide_eq_true hlength, raw, hraw, hnumbers⟩

theorem printsPart_of_namedNumber {label : List Char} {place : ℕ}
    {output : List Char} {value : F}
    (h : namedNumber label place output = some value) :
    PrintsPart label place output value := by
  rw [namedNumber] at h
  split at h
  · next line hline =>
      obtain ⟨raw, hraw, rfl⟩ := mem_of_labelledLine hline
      exact .inl ⟨raw, hraw, hasNumber_of_lastNumber h⟩
  · obtain ⟨numbers, hnumbers, hvalue⟩ := Option.bind_eq_some_iff.mp h
    obtain ⟨hlength, raw, hraw, hread⟩ := mem_of_pipedLine hnumbers
    exact .inr ⟨raw, hraw, numbers, hread, hlength, hvalue⟩

/-- The figure is a positive number that a run has printed under its name. -/
def Reported (exec : Answers) (m : Metric F) : Prop :=
  F64.IsPositive m.value ∧
    ((∃ shape ∈ shapes, m.key = shape.key ∧
        ∃ output, exec shape.args = .ok output ∧
          HasRow shape.command output.text m.value) ∨
      ∃ output, exec latencyArgs = .ok output ∧
        (m.key = meanKey ∧ PrintsPart averageLabel 2 output.text m.value ∨
          m.key = maxKey ∧ PrintsPart maxLabel 1 output.text m.value))

/-- The rate that is published is that of the command if one is printed. -/
theorem exists_isNamed {shape : Shape} {output : List Char}
    (h : HasOwnRow F shape.command output)
    {result : CommandResult F}
    (hfound : ((parseCsv output).find? shape.isNamed).or
      (parseCsv output).head? = some result) :
    result ∈ parseCsv output ∧ shape.isNamed result = true := by
  have hmem : result ∈ parseCsv output := by
    rcases Option.or_eq_some_iff.mp hfound with hnamed | ⟨-, hhead⟩
    · exact List.mem_of_find?_eq_some hnamed
    · exact List.mem_of_head? hhead
  obtain ⟨rate, line, hline, named, hrow, hname, -⟩ :=
    h ((mem_parseCsv.mp hmem).imp fun _ hand => ⟨hand.1, result, hand.2⟩)
  refine ⟨hmem, ?_⟩
  rcases Option.or_eq_some_iff.mp hfound with hnamed | ⟨hnone, -⟩
  · exact List.find?_some hnamed
  · exact absurd hname (List.find?_eq_none.mp hnone named
      (mem_parseCsv.mpr ⟨line, hline, hrow⟩))

theorem key_inj {shape shape' : Shape} (h : shape ∈ shapes)
    (h' : shape' ∈ shapes) (hkey : shape.key = shape'.key) :
    shape = shape' := by
  have hall : ∀ s ∈ shapes, ∀ s' ∈ shapes, s.key = s'.key → s = s' := by
    decide
  exact hall shape h shape' h' hkey

theorem key_ne {shape : Shape} (h : shape ∈ shapes) :
    shape.key ≠ meanKey ∧ shape.key ≠ maxKey := by
  have hall : ∀ s ∈ shapes, s.key ≠ meanKey ∧ s.key ≠ maxKey := by
    decide
  exact hall shape h

theorem reported_rate_iff {exec : Answers} {shape : Shape}
    (hshape : shape ∈ shapes) {output : Container.Output}
    (hexec : exec shape.args = .ok output) :
    (∀ m ∈ (shape.measured
        (parseCsv output.text : List (CommandResult F))).metrics,
      Reported exec m) ↔
      HasOwnRow F shape.command output.text := by
  constructor
  · rintro hall ⟨line, hline, result, hrow⟩
    have hmem : result ∈ parseCsv output.text :=
      mem_parseCsv.mpr ⟨line, hline, hrow⟩
    cases hfound : (((parseCsv output.text).find? shape.isNamed).or
        (parseCsv output.text).head? : Option (CommandResult F)) with
    | none =>
        obtain ⟨-, hhead⟩ := Option.or_eq_none_iff.mp hfound
        rw [List.head?_eq_none_iff.mp hhead] at hmem
        exact absurd hmem List.not_mem_nil
    | some found =>
        rw [Shape.measured, hfound] at hall
        obtain ⟨-, ⟨shape', hshape', hkey, output', hexec', hown⟩ |
          ⟨-, -, ⟨hkey, -⟩ | ⟨hkey, -⟩⟩⟩ :=
          hall _ (List.mem_singleton_self _)
        · obtain rfl := key_inj hshape hshape' hkey
          rw [hexec] at hexec'
          obtain rfl := Except.ok.inj hexec'
          exact ⟨_, hown⟩
        · exact absurd hkey (key_ne hshape).1
        · exact absurd hkey (key_ne hshape).2
  · intro hown m hm
    rw [Shape.measured] at hm
    split at hm
    · next found hfound =>
        obtain rfl := List.mem_singleton.mp hm
        obtain ⟨hmem, hnamed⟩ := exists_isNamed hown hfound
        obtain ⟨line, hline, hrow⟩ := mem_parseCsv.mp hmem
        exact ⟨isPositive_of_commandResult? hrow, .inl ⟨shape, hshape, rfl,
          output, hexec, line, hline, found, hrow, hnamed, rfl⟩⟩
    · exact absurd hm List.not_mem_nil

theorem metrics_measured {probe : LatencyProbe F}
    (h : probe.isCredible = true) :
    probe.measured.metrics =
      [.single meanKey "Round-trip on an idle server, mean" "ms"
         .lowerIsBetter probe.meanMs,
       .single maxKey "Round-trip on an idle server, worst observed" "ms"
         .lowerIsBetter probe.maxMs] := by
  rw [LatencyProbe.measured, if_pos h]

variable [F64.Round F]

theorem maxMs_readPart (probe : LatencyProbe F) (part : List Char) :
    (probe.readPart part).maxMs =
      ((labelled maxLabel part).map fun rest =>
        (leadingNumber rest).getD 0.0).getD probe.maxMs := by
  rw [LatencyProbe.readPart, labelled]
  cases hmin : (Words.trim part).dropPrefix? minLabel with
  | some rest =>
      have hnone : (Words.trim part).dropPrefix? maxLabel = none :=
        dropPrefix?_other (by decide) (by decide) hmin
      rw [hnone]
      rfl
  | none =>
      cases hmax : (Words.trim part).dropPrefix? maxLabel with
      | some rest => rfl
      | none =>
          dsimp only
          split
          · rfl
          · rfl

theorem meanMs_readPart (probe : LatencyProbe F) (part : List Char) :
    (probe.readPart part).meanMs =
      ((labelled averageLabel part).map fun rest =>
        (leadingNumber rest).getD 0.0).getD probe.meanMs := by
  rw [LatencyProbe.readPart, labelled]
  cases hmin : (Words.trim part).dropPrefix? minLabel with
  | some rest =>
      have hnone : (Words.trim part).dropPrefix? averageLabel = none :=
        dropPrefix?_other (by decide) (by decide) hmin
      rw [hnone]
      rfl
  | none =>
      cases hmax : (Words.trim part).dropPrefix? maxLabel with
      | some rest =>
          have hnone : (Words.trim part).dropPrefix? averageLabel = none :=
            dropPrefix?_other (by decide) (by decide) hmax
          rw [hnone]
          rfl
      | none =>
          cases haverage : (Words.trim part).dropPrefix? averageLabel with
          | some rest => rfl
          | none => rfl

/-- The figures of a probe are those that the output names. -/
theorem parseLatency_eq (output : List Char) :
    (parseLatency output : LatencyProbe F).meanMs =
        (namedNumber averageLabel 2 output).getD 0.0 ∧
      (parseLatency output : LatencyProbe F).maxMs =
        (namedNumber maxLabel 1 output).getD 0.0 := by
  rw [parseLatency, namedNumber, namedNumber]
  cases hline : labelledLine output with
  | some line =>
      exact ⟨foldl_eq_lastNumber meanMs_readPart rfl (line.splitOn ','),
        foldl_eq_lastNumber maxMs_readPart rfl (line.splitOn ',')⟩
  | none =>
      cases hnumbers : (pipedLine output : Option (List F)) with
      | none => exact ⟨rfl, rfl⟩
      | some numbers =>
          obtain ⟨hlength, -⟩ := mem_of_pipedLine hnumbers
          obtain ⟨min, max, mean, samples, rfl⟩ :=
            List.length_eq_four.mp hlength
          exact ⟨rfl, rfl⟩

/-- If the probe ran, its line names a positive mean and a positive maximum. -/
def HasProbe (F : Type) [F64 F] [F64.Round F] (output : List Char) : Prop :=
  (parseLatency output : LatencyProbe F).isCredible = true →
    ∃ mean max : F,
      namedNumber averageLabel 2 output = some mean ∧ F64.IsPositive mean ∧
      namedNumber maxLabel 1 output = some max ∧ F64.IsPositive max

theorem reported_probe_iff {exec : Answers} {output : Container.Output}
    (hexec : exec latencyArgs = .ok output) (hzero : ¬ (0.0 : F) < 0.0) :
    (∀ m ∈ (parseLatency output.text : LatencyProbe F).measured.metrics,
        Reported exec m) ↔
      HasProbe F output.text := by
  obtain ⟨hmean, hmax⟩ := @parseLatency_eq F _ _ output.text
  constructor
  · intro hall hcredible
    rw [metrics_measured hcredible, List.forall_mem_cons, hmean, hmax] at hall
    obtain ⟨mean, hname, hpositive⟩ :=
      exists_of_isPositive_getD hzero hall.1.1
    obtain ⟨max, hname', hpositive'⟩ := exists_of_isPositive_getD hzero
      (hall.2 _ (List.mem_singleton_self _)).1
    exact ⟨mean, max, hname, hpositive, hname', hpositive'⟩
  · intro hprobe m hm
    by_cases hcredible :
        (parseLatency output.text : LatencyProbe F).isCredible = true
    · obtain ⟨mean, max, hname, hpositive, hname', hpositive'⟩ :=
        hprobe hcredible
      rw [metrics_measured hcredible, hmean, hmax, hname, hname'] at hm
      rcases List.mem_cons.mp hm with rfl | hm
      · exact ⟨hpositive, .inr ⟨output, hexec,
          .inl ⟨rfl, printsPart_of_namedNumber hname⟩⟩⟩
      · obtain rfl := List.mem_singleton.mp hm
        exact ⟨hpositive', .inr ⟨output, hexec,
          .inr ⟨rfl, printsPart_of_namedNumber hname'⟩⟩⟩
    · rw [LatencyProbe.measured, if_neg hcredible] at hm
      exact absurd hm List.not_mem_nil

theorem reported_iff {exec : Answers} {measured : Measured F}
    (hzero : ¬ (0.0 : F) < 0.0) (h : measure exec = .ok measured) :
    (∀ m ∈ measured.metrics, Reported exec m) ↔
      (∀ shape ∈ shapes, ∀ output : Container.Output,
        exec shape.args = .ok output →
          HasOwnRow F shape.command output.text) ∧
      ∀ output : Container.Output, exec latencyArgs = .ok output →
        HasProbe F output.text := by
  rw [measure] at h
  cases hrates : (runShapes exec : Except ModuleError (Measured F)) with
  | error error => simp [hrates, bind, Except.bind] at h
  | ok rates =>
      rw [hrates] at h
      obtain rfl := Except.ok.inj h
      rw [Measured.append, List.forall_mem_append]
      refine and_congr ?_ ?_
      · constructor
        · intro hall shape hshape output hexec
          refine (reported_rate_iff hshape hexec).mp ?_
          intro m hm
          exact hall m ((mem_metrics_runEach hrates).mpr
            ⟨shape, hshape, output, hexec, hm⟩)
        · intro hall m hm
          obtain ⟨shape, hshape, output, hexec, hmem⟩ :=
            (mem_metrics_runEach hrates).mp hm
          exact (reported_rate_iff hshape hexec).mpr
            (hall shape hshape output hexec) m hmem
      · rw [probe]
        cases hexec : exec latencyArgs with
        | error error =>
            constructor
            · intro _ output houtput
              exact absurd houtput (by simp)
            · intro _ m hm
              rw [LatencyProbe.measured, if_neg (by
                simp [LatencyProbe.isCredible, LatencyProbe.default])] at hm
              exact absurd hm List.not_mem_nil
        | ok output =>
            rw [reported_probe_iff hexec hzero]
            constructor
            · intro hprobe output' houtput
              obtain rfl := Except.ok.inj houtput
              exact hprobe
            · intro hprobe
              exact hprobe output rfl

end

end DatabaseCache

/-! ## Both modules -/

/-- A figure of a database is one that was printed unless a phase that did work
has no average, or a row stands for another command, or the line of a probe has
no number where it is read. -/
theorem database_reported_iff (exec : Answers) :
    (∀ measured : Measured Float, DatabaseOltp.measure exec = .ok measured →
      ((∀ m ∈ measured.metrics, DatabaseOltp.Reported exec m) ↔
        ∀ phase ∈ DatabaseOltp.latencyPhases, ∀ output : Container.Output,
          exec phase.args = .ok output →
            DatabaseOltp.HasLatency Float output.text)) ∧
    ∀ measured : Measured Float, DatabaseCache.measure exec = .ok measured →
      ((∀ m ∈ measured.metrics, DatabaseCache.Reported exec m) ↔
        (∀ shape ∈ DatabaseCache.shapes, ∀ output : Container.Output,
          exec shape.args = .ok output →
            DatabaseCache.HasOwnRow Float shape.command output.text) ∧
        ∀ output : Container.Output,
          exec DatabaseCache.latencyArgs = .ok output →
            DatabaseCache.HasProbe Float output.text) := by
  have hzero : ¬ (0.0 : Float) < 0.0 := by decide
  constructor
  · intro measured h
    exact DatabaseOltp.reported_iff hzero h
  · intro measured h
    exact DatabaseCache.reported_iff hzero h

/-! ## A latency that was not printed -/

/-- A summary without an average. -/
def noAverage : Container.Output where
  stdout := "tps = 9\nnumber of transactions actually processed: 7\n"
  stderr := ""
  status := some 0
  elapsed := 0

/-- Every run prints it. -/
def withoutAverage : Answers :=
  fun _ => .ok noAverage

theorem not_hasLatency_noAverage :
    ¬ DatabaseOltp.HasLatency Float noAverage.text := by
  intro hlatency
  have hcredible : (DatabaseOltp.parsePgbench noAverage.text :
      DatabaseOltp.BenchResult Float).isCredible = true := by
    decide +kernel
  have hnone : (Words.lines noAverage.text).filterMap
      (labelled DatabaseOltp.averageLabel) = [] := by
    decide +kernel
  obtain ⟨mean, hmean, -⟩ := hlatency hcredible
  rw [lastNumber, hnone] at hmean
  exact absurd hmean (by simp)

/-- A mean latency of zero is published that no line has. -/
theorem not_database_reported :
    ¬ ∀ (exec : Answers) (measured : Measured Float),
      DatabaseOltp.measure exec = .ok measured →
        ∀ m ∈ measured.metrics, DatabaseOltp.Reported exec m := by
  intro hall
  obtain ⟨throughput, hthroughput⟩ :=
    @exists_runEach_eq_ok _ _ withoutAverage DatabaseOltp.ThroughputPhase.args
      (fun phase text => phase.measured
        (DatabaseOltp.parsePgbench text : DatabaseOltp.BenchResult Float))
      DatabaseOltp.throughputPhases fun _ _ => ⟨noAverage, rfl⟩
  obtain ⟨latency, hlatency⟩ :=
    @exists_runEach_eq_ok _ _ withoutAverage DatabaseOltp.LatencyPhase.args
      (fun phase text => phase.measured
        (DatabaseOltp.parsePgbench text : DatabaseOltp.BenchResult Float))
      DatabaseOltp.latencyPhases fun _ _ => ⟨noAverage, rfl⟩
  have hmeasure : DatabaseOltp.measure withoutAverage =
      .ok (throughput.append latency) := by
    rw [DatabaseOltp.measure, DatabaseOltp.runThroughput,
      DatabaseOltp.runLatency, hthroughput, hlatency]
    rfl
  have hreported := (DatabaseOltp.reported_iff
    (show ¬ (0.0 : Float) < 0.0 by decide) hmeasure).mp
    (hall _ _ hmeasure)
  exact not_hasLatency_noAverage
    (hreported ⟨true, "read", "Select-only"⟩ List.mem_cons_self noAverage rfl)

end Darcbench
