import Darcbench.Protocol.EventCodec
import Darcbench.Report.Signing
import Darcbench.Support.Broadcast
import Darcbench.Support.Lists
import Darcbench.Support.Replay
import Darcbench.Support.Saturating

/-!
# The event stream of a run

Every event of a run passes through one function.  It allocates the sequence
number, extends the permanent record and the bounded replay buffer, and sends
the event to the live observers, all under one lock, so concurrent emitters
take turns.
-/

namespace Darcbench

variable {F : Type} [F64 F]

/-! ## The permanent record -/

/-- The stream as it is written to disk, and what the running digest has been
fed. -/
structure EventRecord where
  ndjson : List UInt8
  digest : List UInt8

namespace EventRecord

def new : EventRecord where
  ndjson := []
  digest := []

variable [Chrono] [JsonText F]

/-- The line of an event in the log. -/
def logLine (envelope : Envelope F) : List UInt8 :=
  JsonText.toVec (envelopeCodec.encode () envelope) ++ [10]

/-- What an event contributes to the digest. -/
def digestLine (envelope : Envelope F) : List UInt8 :=
  canonicalJson (envelopeCodec.encode () envelope) ++ [10]

def append (record : EventRecord) (envelope : Envelope F) : EventRecord where
  ndjson := record.ndjson ++ logLine envelope
  digest := record.digest ++ digestLine envelope

/-- The digest as of now.  The running state is not consumed. -/
def digestSoFar [Crypto] (record : EventRecord) : String :=
  sha256Text record.digest

end EventRecord

/-! ## The handle -/

/-- What the two clocks show when an event is emitted. -/
structure ClockReading where
  ts : Timestamp
  monoMs : ℕ

/-- The shared state of one run, as far as its event stream goes. -/
structure RunHandle (F : Type) [F64 F] where
  id : RunId
  state : RunState
  /-- The next sequence number. -/
  seq : ℕ
  /-- Replay buffer, oldest first. -/
  events : List (Envelope F)
  /-- The number of events that the replay buffer keeps. -/
  replayBuffer : ℕ
  /-- The replay buffer has dropped events. -/
  truncated : Bool
  record : EventRecord
  tx : Broadcast (Envelope F)

namespace RunHandle

/-- The capacity of the replay buffer and of the channel. -/
def replayBufferSize : ℕ := 4096

def new (id : RunId) (replayBuffer channel : ℕ) : RunHandle F where
  id := id
  state := .created
  seq := 0
  events := []
  replayBuffer := replayBuffer
  truncated := false
  record := EventRecord.new
  tx := Broadcast.new channel

def setState (handle : RunHandle F) (state : RunState) : RunHandle F :=
  { handle with state := state }

def subscribe (handle : RunHandle F) : ℕ :=
  handle.tx.subscribe

def lastSeq (handle : RunHandle F) : ℕ :=
  handle.seq - 1

/-- Events with a number above `after`, for replay after a reconnect. -/
def eventsSince (handle : RunHandle F) :
    Option ℕ → Option (List (Envelope F))
  | none => some handle.events
  | some after =>
      -- The position comes from the caller, so the successor saturates.
      let needed := min (after + 1) u64Max
      if handle.truncated = true ∧
          ∃ first ∈ handle.events.head?, needed < first.seq then
        none
      else
        some (handle.events.dropWhile fun e => decide (e.seq ≤ after))

/-- The envelope of the next event. -/
def envelope (handle : RunHandle F) (now : ClockReading) (event : Event F) :
    Envelope F where
  protocol := protocolVersion
  runId := handle.id
  seq := handle.seq
  ts := now.ts
  monoMs := now.monoMs
  event := event

/-- Somebody still holds the sending side, and the 64-bit counter has a number
left. -/
def canEmit (handle : RunHandle F) : Bool :=
  !handle.tx.closed && decide (handle.seq < 2 ^ 64)

/-- The last owner of the sending side lets go of it. -/
def close (handle : RunHandle F) : RunHandle F :=
  { handle with tx := { handle.tx with closed := true } }

/-- The envelopes of a sequence of emissions, numbered from zero on. -/
def stream (id : RunId) (emissions : List (ClockReading × Event F)) :
    List (Envelope F) :=
  emissions.mapIdx fun i e =>
    { protocol := protocolVersion
      runId := id
      seq := i
      ts := e.1.ts
      monoMs := e.1.monoMs
      event := e.2 }

@[simp] theorem length_stream (id : RunId)
    (emissions : List (ClockReading × Event F)) :
    (stream id emissions).length = emissions.length :=
  List.length_mapIdx

theorem stream_concat (id : RunId)
    (emissions : List (ClockReading × Event F))
    (e : ClockReading × Event F) :
    stream id (emissions ++ [e]) =
      stream id emissions ++
        [⟨protocolVersion, id, emissions.length, e.1.ts, e.1.monoMs, e.2⟩] :=
  List.mapIdx_concat

@[simp] theorem map_event_stream (id : RunId)
    (emissions : List (ClockReading × Event F)) :
    (stream id emissions).map Envelope.event = emissions.map Prod.snd := by
  induction emissions using List.reverseRecOn with
  | nil => rfl
  | append_singleton emissions e ih =>
      rw [stream_concat, List.map_append, ih, List.map_append]
      rfl

theorem numbered_stream (id : RunId)
    (emissions : List (ClockReading × Event F)) :
    Numbered Envelope.seq (stream id emissions) := by
  induction emissions using List.reverseRecOn with
  | nil => exact Numbered.nil
  | append_singleton emissions e ih =>
      rw [stream_concat]
      exact ih.concat (length_stream id emissions).symm

/-! ## What a handle always satisfies -/

/-- The events emitted so far, in order. -/
def emitted (handle : RunHandle F) : List (Envelope F) :=
  handle.tx.sent

/-- The number of the oldest event that can still be replayed. -/
def firstBuffered (handle : RunHandle F) : ℕ :=
  handle.emitted.length - max handle.replayBuffer 1

/-- The counter, the replay buffer and its flag agree with the history. -/
structure WellFormed (handle : RunHandle F) : Prop where
  seq_eq : handle.seq = handle.emitted.length
  numbered : Numbered Envelope.seq handle.emitted
  events_eq : handle.events = handle.emitted.drop handle.firstBuffered
  truncated_eq : handle.truncated =
    decide (handle.replayBuffer < handle.emitted.length)

theorem wellFormed_new (id : RunId) (replayBuffer channel : ℕ) :
    (new (F := F) id replayBuffer channel).WellFormed where
  seq_eq := rfl
  numbered := Numbered.nil
  events_eq := List.drop_nil.symm
  truncated_eq := (decide_eq_false (Nat.not_lt_zero _)).symm

namespace WellFormed

variable {handle : RunHandle F}

theorem length_events (h : handle.WellFormed) :
    handle.events.length =
      min handle.emitted.length (max handle.replayBuffer 1) := by
  rw [h.events_eq, List.length_drop, firstBuffered]
  omega

/-- The numbers in the replay buffer are consecutive and end at the last one
allocated. -/
theorem seq_events (h : handle.WellFormed) :
    handle.events.map Envelope.seq =
      List.range' handle.firstBuffered
        (handle.emitted.length - handle.firstBuffered) := by
  rw [h.events_eq]
  exact h.numbered.map_drop _

/-- The oldest buffered event, when any was emitted. -/
theorem head?_events (h : handle.WellFormed) :
    handle.events.head? = handle.emitted[handle.firstBuffered]? := by
  rw [h.events_eq, List.head?_drop]

/-- The replay after a position that the counter can reach.  It is refused
when the first event it needs is no longer buffered. -/
theorem eventsSince_some (h : handle.WellFormed)
    (hcount : handle.emitted.length ≤ 2 ^ 64) (after : ℕ) :
    handle.eventsSince (some after) =
      if after + 1 < handle.firstBuffered then none
      else some (handle.emitted.drop (after + 1)) := by
  have hevicted : (handle.truncated = true ∧
      ∃ first ∈ handle.events.head?, min (after + 1) u64Max < first.seq) ↔
        after + 1 < handle.firstBuffered := by
    rw [h.head?_events, h.truncated_eq, decide_eq_true_eq]
    constructor
    · rintro ⟨-, first, hfirst, hlt⟩
      have hget := Option.mem_def.mp hfirst
      have hbound := (List.getElem?_eq_some_iff.mp hget).1
      rw [h.numbered.seq_of_getElem? hget] at hlt
      rw [u64Max] at hlt
      omega
    · intro hlt
      have hbound : handle.firstBuffered < handle.emitted.length := by
        rw [firstBuffered] at hlt ⊢
        omega
      have hget := List.getElem?_eq_getElem hbound
      refine ⟨?_, _, Option.mem_def.mpr hget, ?_⟩
      · rw [firstBuffered] at hlt
        omega
      · rw [h.numbered.seq_of_getElem? hget]
        omega
  rw [eventsSince]
  simp only [hevicted]
  split
  · rfl
  · next hle =>
      rw [h.events_eq, h.numbered.dropWhile_le (Nat.not_lt.mp hle)]

end WellFormed

/-- A handle whose counter has never wrapped. -/
structure Sound (handle : RunHandle F) : Prop extends handle.WellFormed where
  count_le : handle.emitted.length ≤ 2 ^ 64

namespace Sound

variable {handle : RunHandle F}

theorem close (h : handle.Sound) : handle.close.Sound :=
  ⟨⟨h.seq_eq, h.numbered, h.events_eq, h.truncated_eq⟩, h.count_le⟩

theorem setState (h : handle.Sound) (state : RunState) :
    (handle.setState state).Sound :=
  ⟨⟨h.seq_eq, h.numbered, h.events_eq, h.truncated_eq⟩, h.count_le⟩

end Sound

/-! ## Emitting -/

variable [Chrono] [JsonText F]

/-- Emits an event, assigning the next sequence number. -/
def emit (handle : RunHandle F) (now : ClockReading) (event : Event F) :
    RunHandle F :=
  let envelope := handle.envelope now event
  { handle with
    seq := handle.seq + 1
    record := handle.record.append envelope
    truncated := handle.truncated ||
      decide (handle.replayBuffer ≤ handle.events.length)
    events := pushBounded handle.replayBuffer handle.events envelope
    tx := handle.tx.send envelope }

/-- Emits events one after the other. -/
def emitAll (handle : RunHandle F) (emissions : List (ClockReading × Event F)) :
    RunHandle F :=
  emissions.foldl (fun handle e => handle.emit e.1 e.2) handle

theorem emitAll_append (handle : RunHandle F)
    (first second : List (ClockReading × Event F)) :
    handle.emitAll (first ++ second) =
      (handle.emitAll first).emitAll second :=
  List.foldl_append

@[simp] theorem emitAll_singleton (handle : RunHandle F)
    (e : ClockReading × Event F) :
    handle.emitAll [e] = handle.emit e.1 e.2 :=
  rfl

@[simp] theorem id_emitAll (handle : RunHandle F)
    (emissions : List (ClockReading × Event F)) :
    (handle.emitAll emissions).id = handle.id := by
  induction emissions generalizing handle with
  | nil => rfl
  | cons e rest ih => exact ih (handle.emit e.1 e.2)

@[simp] theorem replayBuffer_emitAll (handle : RunHandle F)
    (emissions : List (ClockReading × Event F)) :
    (handle.emitAll emissions).replayBuffer = handle.replayBuffer := by
  induction emissions generalizing handle with
  | nil => rfl
  | cons e rest ih => exact ih (handle.emit e.1 e.2)

@[simp] theorem capacity_emitAll (handle : RunHandle F)
    (emissions : List (ClockReading × Event F)) :
    (handle.emitAll emissions).tx.capacity = handle.tx.capacity := by
  induction emissions generalizing handle with
  | nil => rfl
  | cons e rest ih => exact ih (handle.emit e.1 e.2)

@[simp] theorem emitted_emit (handle : RunHandle F) (now : ClockReading)
    (event : Event F) :
    (handle.emit now event).emitted =
      handle.emitted ++ [handle.envelope now event] :=
  rfl

@[simp] theorem replayBuffer_emit (handle : RunHandle F) (now : ClockReading)
    (event : Event F) :
    (handle.emit now event).replayBuffer = handle.replayBuffer :=
  rfl

theorem emitted_emitAll_prefix (handle : RunHandle F)
    (emissions : List (ClockReading × Event F)) :
    handle.emitted <+: (handle.emitAll emissions).emitted := by
  induction emissions generalizing handle with
  | nil => exact List.prefix_rfl
  | cons e rest ih =>
      exact (List.prefix_append _ _).trans (ih (handle.emit e.1 e.2))

namespace WellFormed

variable {handle : RunHandle F}

theorem emit (h : handle.WellFormed) (now : ClockReading) (event : Event F) :
    (handle.emit now event).WellFormed where
  seq_eq := by
    rw [emitted_emit, List.length_append, List.length_singleton, ← h.seq_eq]
    rfl
  numbered := h.numbered.concat h.seq_eq
  events_eq := by
    rw [firstBuffered, emitted_emit, replayBuffer_emit, List.length_append,
      List.length_singleton, ← pushBounded_drop]
    exact congrArg (pushBounded _ · _) h.events_eq
  truncated_eq := by
    have hlength := h.length_events
    rw [emitted_emit, replayBuffer_emit, List.length_append,
      List.length_singleton, RunHandle.emit, h.truncated_eq, hlength,
      ← Bool.decide_or]
    exact decide_eq_decide.mpr (by omega)

theorem emitAll (h : handle.WellFormed)
    (emissions : List (ClockReading × Event F)) :
    (handle.emitAll emissions).WellFormed := by
  induction emissions generalizing handle with
  | nil => exact h
  | cons e rest ih => exact ih (h.emit e.1 e.2)

end WellFormed

@[simp] theorem closed_emitAll (handle : RunHandle F)
    (emissions : List (ClockReading × Event F)) :
    (handle.emitAll emissions).tx.closed = handle.tx.closed := by
  induction emissions generalizing handle with
  | nil => rfl
  | cons e rest ih => exact ih (handle.emit e.1 e.2)

/-- The history of a run is the stream of its emissions. -/
theorem emitted_emitAll_new (id : RunId) (replayBuffer channel : ℕ)
    (emissions : List (ClockReading × Event F)) :
    ((new id replayBuffer channel).emitAll emissions).emitted =
      stream id emissions := by
  induction emissions using List.reverseRecOn with
  | nil => rfl
  | append_singleton emissions e ih =>
      have hwell := (wellFormed_new (F := F) id replayBuffer channel).emitAll
        emissions
      have hid : ((new (F := F) id replayBuffer channel).emitAll
          emissions).id = id :=
        id_emitAll _ _
      rw [emitAll_append, emitAll_singleton, emitted_emit, ih, stream_concat,
        envelope, hwell.seq_eq, ih, length_stream, hid]

namespace Sound

variable {handle : RunHandle F}

theorem emit (h : handle.Sound) (hcan : handle.canEmit = true)
    (now : ClockReading) (event : Event F) :
    (handle.emit now event).Sound where
  toWellFormed := h.toWellFormed.emit now event
  count_le := by
    rw [canEmit, Bool.and_eq_true, decide_eq_true_eq, h.seq_eq] at hcan
    rw [emitted_emit, List.length_append, List.length_singleton]
    omega

theorem emitAll_new (id : RunId) (replayBuffer channel : ℕ)
    {emissions : List (ClockReading × Event F)}
    (hcount : emissions.length ≤ 2 ^ 64) :
    ((new id replayBuffer channel).emitAll emissions).Sound where
  toWellFormed := (wellFormed_new id replayBuffer channel).emitAll emissions
  count_le := by rwa [emitted_emitAll_new, length_stream]

end Sound

end RunHandle

end Darcbench
