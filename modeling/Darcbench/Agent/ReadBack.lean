import Darcbench.Agent.Finalise
import Darcbench.Agent.Stored
import Darcbench.Report.Tampering
import Darcbench.Report.Validate

/-!
# The evidence of an earlier process

A later process answers for a run from its two files.  What it reads is what
the run signed and emitted, and the two files still agree with each other.
-/

namespace Darcbench

section

variable {F : Type} [F64 F] [Chrono] [JsonText F] [Crypto]

/-! ## Signatures under a policy -/

omit [JsonText F] [Crypto] in
/-- A signature covers nothing that a policy of the writer hides. -/
theorem Bundle.signable_mask (policy : RedactionPolicy) (bundle : Bundle F) :
    (bundle.mapSensitive (Sensitive.mask policy)).signable =
      bundle.signable := by
  have htwice : Sensitive.mask .redact ∘ Sensitive.mask policy =
      Sensitive.mask .redact :=
    funext fun _ => rfl
  rw [signable, signable]
  apply bodyCodec.encode_eq_of_mask_eq
  rw [bodyCodec_mask, bodyCodec_mask, mapSensitive_mapSensitive, htwice]

theorem Bundle.verifySignature_mask (policy : RedactionPolicy)
    (bundle : Bundle F) :
    (bundle.mapSensitive (Sensitive.mask policy)).verifySignature =
      bundle.verifySignature := by
  rw [verifySignature, verifySignature, signable_mask]
  rfl

section

omit [Chrono] [JsonText F] [Crypto]

@[simp] theorem Bundle.run_mapSensitive (f : Sensitive → Sensitive)
    (bundle : Bundle F) : (bundle.mapSensitive f).run = bundle.run :=
  rfl

@[simp] theorem Bundle.verdict_mapSensitive (f : Sensitive → Sensitive)
    (bundle : Bundle F) : (bundle.mapSensitive f).verdict = bundle.verdict :=
  rfl

end

@[simp] theorem Bundle.run_sign (bundle : Bundle F) (key : AgentKey) :
    (bundle.sign key).run = bundle.run :=
  rfl

@[simp] theorem Bundle.verdict_sign (bundle : Bundle F) (key : AgentKey) :
    (bundle.sign key).verdict = bundle.verdict :=
  rfl

namespace Finalise

/-! ## The bundle of a run -/

/-- The evidence of a run with the digest, the count and the state that the
finalising task fills in. -/
def counted (s : Finalise F) (evidence : Bundle F) : Bundle F :=
  { evidence with
    run :=
      { evidence.run with
        state := s.state
        eventsDigest := s.eventsDigest
        eventCount := s.eventCount }
    signature := none }

/-- The bundle is validated and then signed, so that the signature covers the
verdict too. -/
def bundle (s : Finalise F) (evidence : Bundle F) (key : AgentKey) :
    Bundle F :=
  let counted := s.counted evidence
  { counted with verdict := (validateBundle counted false).verdict }.sign key

theorem run_bundle (s : Finalise F) (evidence : Bundle F) (key : AgentKey) :
    (s.bundle evidence key).run = (s.counted evidence).run := by
  rw [bundle, Bundle.run_sign]

theorem verdict_bundle (s : Finalise F) (evidence : Bundle F)
    (key : AgentKey) :
    (s.bundle evidence key).verdict =
      (validateBundle (s.counted evidence) false).verdict := by
  rw [bundle, Bundle.verdict_sign]

omit [JsonText F] [Crypto] in
theorem representable_counted (s : Finalise F) {evidence : Bundle F}
    (h : bundleCodec.Representable evidence) :
    bundleCodec.Representable (s.counted evidence) := by
  obtain ⟨hmeta, hrun, henvironment, hmodules, hscores, hverdict, htelemetry,
    hdiagnosis, -⟩ := h
  refine ⟨hmeta, hrun, henvironment, hmodules, hscores, hverdict, htelemetry,
    hdiagnosis, ?_⟩
  intro signature hsignature
  exact absurd hsignature (by simp [counted])

theorem representable_bundle (s : Finalise F) {evidence : Bundle F}
    (key : AgentKey) (h : bundleCodec.Representable evidence) :
    bundleCodec.Representable (s.bundle evidence key) := by
  obtain ⟨hmeta, hrun, henvironment, hmodules, hscores, -, htelemetry,
    hdiagnosis, -⟩ := s.representable_counted h
  refine ⟨hmeta, hrun, henvironment, hmodules, hscores,
    Bundle.representable_verdict _, htelemetry, hdiagnosis, ?_⟩
  rintro _ ⟨⟩
  exact ⟨trivial, trivial, trivial, trivial, trivial⟩

/-! ## Reading it back -/

/-- The two files of a run agree: the digest is that of the first events of the
log, as many as are counted, and the log ends with the event that announces
the end and its own number. -/
structure Corroborates (read : Bundle F) (events : List (Envelope F)) :
    Prop where
  counted : read.run.eventCount ≤ events.length
  digest_eq : read.run.eventsDigest = sha256Text
    ((events.take read.run.eventCount).flatMap EventRecord.digestLine)
  ends : EndsItself events

theorem settled_of_quiet {s : Finalise F} (h : system.Reaches Quiet s)
    (hfinished : s.pc = .finished) :
    s.Agrees := by
  have hinvariant : s.Invariant :=
    h.invariant (fun _ => Invariant.initial)
      fun _ _ _ hinv hquiet hstep => hinv.step hquiet hstep
  have hsettled := hinvariant.settled
  rwa [Settled, hfinished] at hsettled

end Finalise

end

/-! ## A run that is read back -/

namespace Finalise

open scoped StandIns

theorem reaches_quietEnd : system.Reaches Quiet quietEnd := by
  have hbeginning : system.Reaches Quiet beginning :=
    .initial initial_beginning
  obtain ⟨s, hs, hrest⟩ := Option.bind_eq_some_iff.mp runFrom_quietly
  have hbeat : system.Reaches Quiet s :=
    hbeginning.step (a := .telemetry ⟨0, 0⟩)
      ⟨by decide, by decide, by decide⟩ hs
  refine hbeat.runFrom (fun a ha u => ?_) hrest
  simp only [untilNumbered, untilFinished, completion, List.cons_append,
    List.nil_append, List.mem_cons, List.not_mem_nil, or_false] at ha
  rcases ha with rfl | rfl | rfl | rfl | rfl | rfl | rfl | rfl <;> trivial

theorem representable_emitted : ∀ envelope ∈ quietEnd.handle.emitted,
    (envelopeCodec : Codec (Number Float) Unit _).Representable envelope := by
  intro envelope hmem
  rcases hmem with _ | ⟨_, _ | ⟨_, _ | ⟨_, ⟨⟩⟩⟩⟩
  all_goals repeat' apply And.intro
  all_goals first
    | trivial
    | (intro _ h; cases h)

end Finalise

end Darcbench
