import Darcbench.Agent.Replayed
import Darcbench.Support.Runs

/-!
# The end of a run on disk

When a run ends, one task reads the digest and the number of its events, writes
the report, announces the end and writes the event log.  The telemetry task was
stopped before that, but takes notice only when it waits the next time, so it
may still complete the iteration it is in.
-/

namespace Darcbench

variable {F : Type} [F64 F]

/-! ## The permanent record -/

namespace RunHandle

variable [Chrono] [JsonText F]

/-- The permanent record holds every event. -/
structure Recorded (handle : RunHandle F) : Prop where
  ndjson_eq : handle.record.ndjson =
    handle.emitted.flatMap EventRecord.logLine
  digest_eq : handle.record.digest =
    handle.emitted.flatMap EventRecord.digestLine

namespace Recorded

theorem new (id : RunId) (replayBuffer channel : ℕ) :
    (RunHandle.new (F := F) id replayBuffer channel).Recorded :=
  ⟨rfl, rfl⟩

variable {handle : RunHandle F}

theorem emit (h : handle.Recorded) (now : ClockReading) (event : Event F) :
    (handle.emit now event).Recorded where
  ndjson_eq := by
    rw [emitted_emit, List.flatMap_append, List.flatMap_singleton,
      ← h.ndjson_eq]
    rfl
  digest_eq := by
    rw [emitted_emit, List.flatMap_append, List.flatMap_singleton,
      ← h.digest_eq]
    rfl

theorem emitAll (h : handle.Recorded)
    (emissions : List (ClockReading × Event F)) :
    (handle.emitAll emissions).Recorded := by
  induction emissions generalizing handle with
  | nil => exact h
  | cons e rest ih => exact ih (h.emit e.1 e.2)

theorem setState (h : handle.Recorded) (state : RunState) :
    (handle.setState state).Recorded :=
  ⟨h.ndjson_eq, h.digest_eq⟩

end Recorded

end RunHandle

/-! ## The finalising task -/

/-- What the finalising task does next. -/
inductive Finalise.Pc where
  | scoring
  | digesting
  | counting
  | reporting
  | numbering
  | completing
  | logging
  | publishing
  | finished
  deriving DecidableEq

/-- The end of a run. -/
structure Finalise (F : Type) [F64 F] where
  handle : RunHandle F
  /-- What the telemetry task will still emit in its iteration. -/
  iteration : List (Event F)
  pc : Finalise.Pc
  state : RunState
  /-- The digest in the bundle. -/
  eventsDigest : String
  /-- The number of events in the bundle. -/
  eventCount : ℕ
  finalSeq : ℕ
  /-- The file `events.ndjson`, once it is written. -/
  eventLog : Option (List UInt8)

namespace Finalise

inductive Action (F : Type) [F64 F] where
  | telemetry (now : ClockReading)
  | score (now : ClockReading) (score : ScoreEvent F)
  | digest
  | count
  /-- The bundle is written and announced, or it could not be written. -/
  | report (now : ClockReading) (report : Option ReportGenerated)
  | number
  | complete (now : ClockReading) (completed : RunCompleted)
  /-- The event log is written, or it could not be. -/
  | log (written : Bool)
  | publish

/-- What one iteration of the telemetry task emits. -/
def telemetryEvents (warning : Option ModuleWarningEvent)
    (telemetry : Option (TelemetryEvent F)) (heartbeat : Option Heartbeat) :
    List (Event F) :=
  (warning.map .moduleWarning).toList ++
    (telemetry.map .moduleTelemetry).toList ++
      (heartbeat.map .heartbeat).toList

section Steps

variable [Chrono] [JsonText F]

/-- Emits an event, if a number is left for it, and goes on. -/
def emit (s : Finalise F) (now : ClockReading) (event : Event F) (pc : Pc) :
    Option (Finalise F) :=
  if s.handle.canEmit then
    some { s with handle := s.handle.emit now event, pc := pc }
  else
    none

def step [Crypto] (s : Finalise F) : Action F → Option (Finalise F)
  | .telemetry now =>
      match s.iteration with
      | [] => none
      | event :: rest => { s with iteration := rest }.emit now event s.pc
  | .score now score =>
      match s.pc with
      | .scoring => s.emit now (.scoreFinal score) .digesting
      | _ => none
  | .digest =>
      match s.pc with
      | .digesting =>
          some { s with
            eventsDigest := s.handle.record.digestSoFar
            pc := .counting }
      | _ => none
  | .count =>
      match s.pc with
      | .counting =>
          some { s with eventCount := s.handle.lastSeq + 1, pc := .reporting }
      | _ => none
  | .report now report =>
      match s.pc, report with
      | .reporting, some report =>
          s.emit now (.reportGenerated report) .numbering
      | .reporting, none => some { s with pc := .numbering }
      | _, _ => none
  | .number =>
      match s.pc with
      | .numbering =>
          some { s with finalSeq := s.handle.lastSeq + 1, pc := .completing }
      | _ => none
  | .complete now completed =>
      match s.pc with
      | .completing =>
          s.emit now
            (.runCompleted
              { completed with state := s.state, finalSeq := s.finalSeq })
            .logging
      | _ => none
  | .log written =>
      match s.pc with
      | .logging =>
          some { s with
            eventLog := if written then some s.handle.record.ndjson else none
            pc := .publishing }
      | _ => none
  | .publish =>
      match s.pc with
      | .publishing =>
          some { s with handle := s.handle.setState s.state, pc := .finished }
      | _ => none

/-- A run that has emitted some events and is about to be finalised, with the
rest of one iteration of the telemetry task. -/
def Initial (s : Finalise F) : Prop :=
  ∃ (id : RunId) (replayBuffer channel : ℕ)
    (emissions : List (ClockReading × Event F))
    (warning : Option ModuleWarningEvent)
    (telemetry : Option (TelemetryEvent F)) (heartbeat : Option Heartbeat),
    emissions.length ≤ 2 ^ 64 ∧
      s.handle =
        ((RunHandle.new id replayBuffer channel).emitAll emissions).setState
          .finalizing ∧
      s.iteration <:+ telemetryEvents warning telemetry heartbeat ∧
      s.pc = .scoring ∧ s.eventLog = none

/-- The finalising task and the rest of the telemetry task, interleaved in any
order. -/
def system [Crypto] : TransitionSystem (Finalise F) (Action F) where
  initial := Initial
  step := step

/-! ## What the evidence of a run promises -/

/-- The digest and the count of the bundle belong to the first events of a
log. -/
def Covers [Crypto] (s : Finalise F) (log : List (Envelope F)) : Prop :=
  s.eventCount ≤ log.length ∧
    s.eventsDigest = sha256Text
      ((log.take s.eventCount).flatMap EventRecord.digestLine)

/-- The last event of a log announces the end, and its own number. -/
def EndsItself (log : List (Envelope F)) : Prop :=
  ∃ e completed, log.getLast? = some e ∧ e.event = .runCompleted completed ∧
    completed.finalSeq = e.seq

/-- The digest, the count and the log on disk agree. -/
def Agrees [Crypto] (s : Finalise F) : Prop :=
  ∃ log, log <+: s.handle.emitted ∧ s.Covers log ∧ EndsItself log ∧
    ∀ bytes, s.eventLog = some bytes → bytes = log.flatMap EventRecord.logLine

/-- The telemetry task is quiet between the readings of the digest and of the
count, between the reading of the final number and the event that carries it,
and between that event and the writing of the log. -/
def Quiet (s : Finalise F) : Action F → Prop
  | .telemetry _ => s.pc ≠ .counting ∧ s.pc ≠ .completing ∧ s.pc ≠ .logging
  | _ => True

/-! ## The invariant -/

section Invariant

variable [Crypto]

/-- What is settled before each step of the finalising task. -/
def Settled (s : Finalise F) : Prop :=
  match s.pc with
  | .scoring | .digesting => True
  | .counting => s.eventsDigest = sha256Text
      (s.handle.emitted.flatMap EventRecord.digestLine)
  | .reporting | .numbering => s.Covers s.handle.emitted
  | .completing =>
      s.Covers s.handle.emitted ∧ s.finalSeq = s.handle.emitted.length
  | .logging => s.Covers s.handle.emitted ∧ EndsItself s.handle.emitted
  | .publishing | .finished => s.Agrees

/-- The invariant of the system. -/
structure Invariant (s : Finalise F) : Prop where
  sound : s.handle.Sound
  recorded : s.handle.Recorded
  started : s.pc ≠ .scoring → 0 < s.handle.emitted.length
  settled : s.Settled

/-- A log that grows keeps its first events. -/
theorem Covers.append {s : Finalise F} {log : List (Envelope F)}
    (h : s.Covers log) (more : List (Envelope F)) :
    s.Covers (log ++ more) := by
  obtain ⟨hle, hdigest⟩ := h
  refine ⟨?_, ?_⟩
  · rw [List.length_append]
    exact hle.trans (Nat.le_add_right _ _)
  · rw [List.take_append_of_le_length hle]
    exact hdigest

theorem Agrees.append {s : Finalise F} (h : s.Agrees) {handle : RunHandle F}
    (hpre : s.handle.emitted <+: handle.emitted) :
    ({ s with handle := handle } : Finalise F).Agrees := by
  obtain ⟨log, hlog, hrest⟩ := h
  exact ⟨log, hlog.trans hpre, hrest⟩

namespace Invariant

variable {s t : Finalise F}

/-- The number that the next event would get, as the task reads it. -/
theorem lastSeq_succ (h : s.Invariant) (hpc : s.pc ≠ .scoring) :
    s.handle.lastSeq + 1 = s.handle.emitted.length := by
  have hpos := h.started hpc
  rw [RunHandle.lastSeq, h.sound.seq_eq]
  omega

/-- What every event emitted preserves. -/
theorem emit (h : s.Invariant) {now : ClockReading} {event : Event F} {pc : Pc}
    (hstep : s.emit now event pc = some t)
    (hsettled : ({ s with handle := s.handle.emit now event, pc := pc } :
      Finalise F).Settled) :
    t.Invariant := by
  rw [Finalise.emit, Option.ite_none_right_eq_some, Option.some_inj] at hstep
  obtain ⟨hcan, rfl⟩ := hstep
  exact
    { sound := h.sound.emit hcan now event
      recorded := h.recorded.emit now event
      started := fun _ => by
        rw [RunHandle.emitted_emit, List.length_append, List.length_singleton]
        exact Nat.succ_pos _
      settled := hsettled }

theorem telemetry (h : s.Invariant) {now : ClockReading}
    (hquiet : s.Quiet (.telemetry now))
    (hstep : s.step (.telemetry now) = some t) :
    t.Invariant := by
  obtain ⟨handle, iteration, pc, state, eventsDigest, eventCount, finalSeq,
    eventLog⟩ := s
  cases iteration with
  | nil => exact absurd hstep (by simp [Finalise.step])
  | cons event rest =>
      have hrest : Invariant (F := F)
          ⟨handle, rest, pc, state, eventsDigest, eventCount, finalSeq,
            eventLog⟩ :=
        ⟨h.sound, h.recorded, h.started, h.settled⟩
      refine hrest.emit hstep ?_
      have hsettled := h.settled
      have hpre : handle.emitted <+: (handle.emit now event).emitted :=
        List.prefix_append _ _
      cases pc with
      | scoring | digesting => trivial
      | counting => exact absurd rfl hquiet.1
      | completing => exact absurd rfl hquiet.2.1
      | logging => exact absurd rfl hquiet.2.2
      | reporting | numbering => exact Covers.append hsettled _
      | publishing | finished => exact Agrees.append hsettled hpre

theorem score (h : s.Invariant) {now : ClockReading} {score : ScoreEvent F}
    (hstep : s.step (.score now score) = some t) :
    t.Invariant := by
  obtain ⟨handle, iteration, pc, state, eventsDigest, eventCount, finalSeq,
    eventLog⟩ := s
  cases pc with
  | scoring => exact h.emit hstep trivial
  | _ => exact absurd hstep (by simp [Finalise.step])

theorem digest (h : s.Invariant) (hstep : s.step .digest = some t) :
    t.Invariant := by
  obtain ⟨handle, iteration, pc, state, eventsDigest, eventCount, finalSeq,
    eventLog⟩ := s
  cases pc with
  | digesting =>
      obtain rfl := Option.some.inj hstep
      exact
        { sound := h.sound
          recorded := h.recorded
          started := fun _ => h.started (by simp)
          settled := congrArg sha256Text h.recorded.digest_eq }
  | _ => exact absurd hstep (by simp [Finalise.step])

theorem count (h : s.Invariant) (hstep : s.step .count = some t) :
    t.Invariant := by
  obtain ⟨handle, iteration, pc, state, eventsDigest, eventCount, finalSeq,
    eventLog⟩ := s
  cases pc with
  | counting =>
      obtain rfl := Option.some.inj hstep
      have hcount : handle.lastSeq + 1 = handle.emitted.length :=
        h.lastSeq_succ (by simp)
      have hdigest : eventsDigest = sha256Text
          (handle.emitted.flatMap EventRecord.digestLine) :=
        h.settled
      exact
        { sound := h.sound
          recorded := h.recorded
          started := fun _ => h.started (by simp)
          settled := ⟨hcount.le, by rw [hcount, List.take_length, hdigest]⟩ }
  | _ => exact absurd hstep (by simp [Finalise.step])

theorem report (h : s.Invariant) {now : ClockReading}
    {report : Option ReportGenerated}
    (hstep : s.step (.report now report) = some t) :
    t.Invariant := by
  obtain ⟨handle, iteration, pc, state, eventsDigest, eventCount, finalSeq,
    eventLog⟩ := s
  cases pc with
  | reporting =>
      cases report with
      | some report => exact h.emit hstep (Covers.append h.settled _)
      | none =>
          obtain rfl := Option.some.inj hstep
          exact ⟨h.sound, h.recorded, fun _ => h.started (by simp), h.settled⟩
  | _ => exact absurd hstep (by simp [Finalise.step])

theorem number (h : s.Invariant) (hstep : s.step .number = some t) :
    t.Invariant := by
  obtain ⟨handle, iteration, pc, state, eventsDigest, eventCount, finalSeq,
    eventLog⟩ := s
  cases pc with
  | numbering =>
      obtain rfl := Option.some.inj hstep
      exact
        { sound := h.sound
          recorded := h.recorded
          started := fun _ => h.started (by simp)
          settled := ⟨h.settled, h.lastSeq_succ (by simp)⟩ }
  | _ => exact absurd hstep (by simp [Finalise.step])

theorem complete (h : s.Invariant) {now : ClockReading}
    {completed : RunCompleted}
    (hstep : s.step (.complete now completed) = some t) :
    t.Invariant := by
  obtain ⟨handle, iteration, pc, state, eventsDigest, eventCount, finalSeq,
    eventLog⟩ := s
  cases pc with
  | completing =>
      have hsettled : Covers _ handle.emitted ∧
          finalSeq = handle.emitted.length :=
        h.settled
      have hseq : finalSeq = handle.seq := hsettled.2.trans h.sound.seq_eq.symm
      have hends : EndsItself (handle.emit now (.runCompleted
          { completed with state := state, finalSeq := finalSeq })).emitted :=
        ⟨handle.envelope now _, _, List.getLast?_concat, rfl, hseq⟩
      exact h.emit hstep ⟨Covers.append hsettled.1 _, hends⟩
  | _ => exact absurd hstep (by simp [Finalise.step])

theorem log (h : s.Invariant) {written : Bool}
    (hstep : s.step (.log written) = some t) :
    t.Invariant := by
  obtain ⟨handle, iteration, pc, state, eventsDigest, eventCount, finalSeq,
    eventLog⟩ := s
  cases pc with
  | logging =>
      obtain rfl := Option.some.inj hstep
      have hsettled : Covers _ handle.emitted ∧ EndsItself handle.emitted :=
        h.settled
      have hbytes : ∀ bytes,
          (if written = true then some handle.record.ndjson else none) =
              some bytes →
            bytes = handle.emitted.flatMap EventRecord.logLine := by
        intro bytes hlog
        rw [Option.ite_none_right_eq_some, Option.some_inj] at hlog
        exact hlog.2.symm.trans h.recorded.ndjson_eq
      exact
        { sound := h.sound
          recorded := h.recorded
          started := fun _ => h.started (by simp)
          settled := ⟨handle.emitted, List.prefix_rfl, hsettled.1, hsettled.2,
            hbytes⟩ }
  | _ => exact absurd hstep (by simp [Finalise.step])

theorem publish (h : s.Invariant) (hstep : s.step .publish = some t) :
    t.Invariant := by
  obtain ⟨handle, iteration, pc, state, eventsDigest, eventCount, finalSeq,
    eventLog⟩ := s
  cases pc with
  | publishing =>
      obtain rfl := Option.some.inj hstep
      exact
        { sound := h.sound.setState state
          recorded := h.recorded.setState state
          started := fun _ => h.started (by simp)
          settled := h.settled }
  | _ => exact absurd hstep (by simp [Finalise.step])

/-- One step of either task. -/
theorem step (h : s.Invariant) {action : Action F} (hquiet : s.Quiet action)
    (hstep : s.step action = some t) :
    t.Invariant := by
  cases action with
  | telemetry now => exact h.telemetry hquiet hstep
  | score now score => exact h.score hstep
  | digest => exact h.digest hstep
  | count => exact h.count hstep
  | report now report => exact h.report hstep
  | number => exact h.number hstep
  | complete now completed => exact h.complete hstep
  | log written => exact h.log hstep
  | publish => exact h.publish hstep

theorem initial (h : Initial s) : s.Invariant := by
  obtain ⟨handle, iteration, pc, state, eventsDigest, eventCount, finalSeq,
    eventLog⟩ := s
  obtain ⟨id, replayBuffer, channel, emissions, -, -, -, hcount, rfl, -, rfl,
    -⟩ := h
  have hsound := RunHandle.Sound.emitAll_new id replayBuffer channel hcount
  have hrecorded := (RunHandle.Recorded.new (F := F) id replayBuffer
    channel).emitAll emissions
  exact
    { sound := hsound.setState .finalizing
      recorded := hrecorded.setState .finalizing
      started := fun hpc => absurd rfl hpc
      settled := trivial }

end Invariant

/-- As long as the telemetry task is quiet between the readings and what they
are for, the digest in the bundle is that of the first events of the log, as
many as the bundle counts, and the log on disk ends with the event that
announces the end and its own number. -/
theorem agrees_of_quiet {s : Finalise F} (h : system.Reaches Quiet s)
    (hfinished : s.pc = .finished) :
    s.Agrees := by
  have hinvariant : s.Invariant :=
    h.invariant (fun _ => Invariant.initial)
      fun _ _ _ hinv hquiet hstep => hinv.step hquiet hstep
  have hsettled := hinvariant.settled
  rw [Settled, hfinished] at hsettled
  exact hsettled

end Invariant

end Steps

/-! ## A telemetry task that is quiet in time -/

open scoped StandIns

open RunHandle (quietRun quietHeartbeat)

/-- A run that has emitted nothing, with a heartbeat to come. -/
def beginning : Finalise Float where
  handle := (RunHandle.new quietRun 4096 4096).setState .finalizing
  iteration := [quietHeartbeat.2]
  pc := .scoring
  state := .completed
  eventsDigest := ""
  eventCount := 0
  finalSeq := 0
  eventLog := none

theorem initial_beginning : Initial beginning :=
  ⟨quietRun, 4096, 4096, [], none, none, some ⟨.running, 0⟩, by decide, rfl,
    List.suffix_rfl, rfl, rfl⟩

/-- The steps up to the reading of the final number. -/
def untilNumbered : List (Action Float) :=
  [.score ⟨0, 0⟩ ⟨"dev-0", false, none, [], true⟩, .digest, .count,
    .report ⟨0, 0⟩ none, .number]

def completion : Action Float :=
  .complete ⟨0, 0⟩
    { state := .completed
      verdict := ⟨.partialState, [], ""⟩
      durationMs := 0
      modulesCompleted := 0
      modulesFailed := 0
      finalSeq := 0 }

def untilFinished : List (Action Float) :=
  [completion, .log true, .publish]

/-- The heartbeat comes before everything else. -/
def quietly : List (Action Float) :=
  .telemetry ⟨0, 0⟩ :: (untilNumbered ++ untilFinished)

def quietEnd : Finalise Float :=
  (system.runFrom beginning quietly).get rfl

theorem runFrom_quietly : system.runFrom beginning quietly = some quietEnd :=
  (Option.some_get _).symm

theorem agrees_of_quiet_quietEnd : quietEnd.Agrees := by
  have hbeginning : system.Reaches Quiet beginning :=
    .initial initial_beginning
  obtain ⟨s, hs, hrest⟩ := Option.bind_eq_some_iff.mp runFrom_quietly
  have hbeat : system.Reaches Quiet s :=
    hbeginning.step (a := .telemetry ⟨0, 0⟩)
      ⟨by decide, by decide, by decide⟩ hs
  have hend : system.Reaches Quiet quietEnd := by
    refine hbeat.runFrom (fun a ha u => ?_) hrest
    simp only [untilNumbered, untilFinished, completion, List.cons_append,
      List.nil_append, List.mem_cons, List.not_mem_nil, or_false] at ha
    rcases ha with rfl | rfl | rfl | rfl | rfl | rfl | rfl | rfl <;> trivial
  exact agrees_of_quiet hend rfl

/-! ## A telemetry task that gets in between -/

/-- The heartbeat takes the number that the last event announces as its
own. -/
def misnumbered : List (Action Float) :=
  untilNumbered ++ .telemetry ⟨0, 0⟩ :: untilFinished

/-- The heartbeat comes behind the last event. -/
def trailed : List (Action Float) :=
  untilNumbered ++ [completion, .telemetry ⟨0, 0⟩, .log true, .publish]

def misnumberedEnd : Finalise Float :=
  (system.runFrom beginning misnumbered).get rfl

def trailedEnd : Finalise Float :=
  (system.runFrom beginning trailed).get rfl

theorem runFrom_misnumbered :
    system.runFrom beginning misnumbered = some misnumberedEnd :=
  (Option.some_get _).symm

theorem runFrom_trailed :
    system.runFrom beginning trailed = some trailedEnd :=
  (Option.some_get _).symm

/-- No event of the first run announces its own number. -/
theorem not_endsItself_misnumbered {log : List (Envelope Float)}
    (hlog : log <+: misnumberedEnd.handle.emitted) :
    ¬ EndsItself log := by
  rintro ⟨e, completed, hlast, hevent, hseq⟩
  have hall : (misnumberedEnd.handle.emitted.all fun e =>
      match e.event with
      | .runCompleted completed => !decide (completed.finalSeq = e.seq)
      | _ => true) = true :=
    rfl
  have he := List.all_eq_true.mp hall e
    (hlog.subset (List.mem_of_getLast? hlast))
  rw [hevent] at he
  exact absurd hseq (by simpa using he)

theorem logLine_ne_nil [Chrono] [JsonText F] (envelope : Envelope F) :
    EventRecord.logLine envelope ≠ [] :=
  List.append_ne_nil_of_right_ne_nil _ (List.cons_ne_nil _ _)

/-- The log of the second run ends with the heartbeat. -/
theorem not_endsItself_trailed {log : List (Envelope Float)}
    (hlog : log <+: trailedEnd.handle.emitted)
    (hbytes : log.flatMap EventRecord.logLine =
      trailedEnd.handle.emitted.flatMap EventRecord.logLine) :
    ¬ EndsItself log := by
  obtain rfl := eq_of_prefix_of_flatMap_eq logLine_ne_nil hlog hbytes
  rintro ⟨e, completed, hlast, hevent, -⟩
  have hheartbeat : trailedEnd.handle.emitted.getLast?.map Envelope.event =
      some quietHeartbeat.2 :=
    rfl
  rw [hlast, Option.map_some, hevent] at hheartbeat
  exact absurd (Option.some.inj hheartbeat) (by simp [quietHeartbeat])

theorem recorded_trailedEnd : trailedEnd.handle.Recorded :=
  ((RunHandle.Recorded.new quietRun 4096 4096).setState
    .finalizing |>.emit _ _ |>.emit _ _ |>.emit _ _).setState _

/-- In one interleaving the last event does not carry its own number, and in
another one it is not the last record of the log. -/
theorem not_agrees :
    (system.initial beginning ∧
      system.runFrom beginning misnumbered = some misnumberedEnd ∧
        misnumberedEnd.pc = .finished ∧ ¬ misnumberedEnd.Agrees) ∧
    system.runFrom beginning trailed = some trailedEnd ∧
      trailedEnd.pc = .finished ∧ ¬ trailedEnd.Agrees := by
  refine ⟨⟨initial_beginning, runFrom_misnumbered, rfl, ?_⟩, runFrom_trailed,
    rfl, ?_⟩
  · rintro ⟨log, hlog, -, hends, -⟩
    exact not_endsItself_misnumbered hlog hends
  · rintro ⟨log, hlog, -, hends, hbytes⟩
    have hlogged : trailedEnd.eventLog =
        some trailedEnd.handle.record.ndjson :=
      rfl
    have hrecord := (hbytes _ hlogged).symm.trans
      recorded_trailedEnd.ndjson_eq
    exact not_endsItself_trailed hlog hrecord hends

end Finalise

end Darcbench
