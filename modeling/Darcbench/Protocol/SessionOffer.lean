import Darcbench.Protocol.Comparison
import Darcbench.Protocol.Display
import Darcbench.Protocol.External

/-!
# Acceptance of a session offer

A target announces what it serves and how much load it permits.  A generator
either refuses the offer or grants itself a load plan within its ceilings, with
a note on every change.
-/

namespace Darcbench

namespace External

/-- Session time reserved for everything that is not a measured phase. -/
def sessionOverheadMs : UInt64 := 10000

/-- Shortest phase worth measuring. -/
def minPhaseMs : UInt64 := 1000

/-- What the target announces about itself. -/
structure SessionOffer (F : Type) where
  protocol : String
  agentVersion : String
  sessionId : String
  objectSizes : List UInt64
  tls : Bool
  certificateDer : Option String
  expiresInMs : UInt64
  maxDurationMs : UInt64
  maxRatePerS : F
  maxWorkers : UInt32

/-- Why a generator refused to proceed against a peer. -/
inductive Refusal where
  | notATarget (detail : String)
  | unsupportedProtocol (found expected : String)
  | expired
  | sessionTooShort (remainingMs : UInt64) (phases : UInt32)
      (perPhaseMs : UInt64)
  | nothingServed
  | unpinnableCertificate
  | implausibleOffer (detail : String)
  | implausibleRequest (detail : String)
  deriving DecidableEq

def Refusal.message : Refusal → String
  | notATarget detail =>
      "the peer did not answer with a DARCBench session offer, so it is not " ++
        s!"a target this agent started and will not be loaded: {detail}"
  | unsupportedProtocol found expected =>
      s!"the target speaks {found} and this build speaks {expected}; " ++
        "refusing rather than guessing at a half-understood conversation"
  | expired => "the session expired before the generator was ready"
  | sessionTooShort remainingMs phases perPhaseMs =>
      s!"the session has {remainingMs} ms left, which across {phases} " ++
        s!"phase(s) leaves {perPhaseMs} ms each - below the {minPhaseMs} ms " ++
        "floor. A phase that short measures connection setup and scheduler " ++
        "wake-up rather than a server, so this is refused rather than run: " ++
        "start the target again with a longer --minutes"
  | nothingServed =>
      "the target offered no object sizes, so there is nothing to request"
  | unpinnableCertificate =>
      "the target declared TLS without a certificate fingerprint to pin"
  | implausibleOffer detail =>
      s!"the target declared a nonsensical ceiling: {detail}"
  | implausibleRequest detail =>
      s!"refusing to start: {detail}. A load plan this agent cannot make " ++
        "sense of is a typo, and the safe reading of a typo is not " ++
        "\"as fast as the other machine will allow\""

/-- What a generator wants to do. -/
structure LoadRequest (F : Type) where
  ratePerS : F
  /-- Duration of one phase. -/
  durationMs : UInt64
  workers : UInt32
  /-- How many phases run back to back. -/
  phases : UInt32

/-- The fields of a load plan. -/
inductive PlanField where
  | ratePerS
  | durationMs
  | workers
  | phases
  deriving DecidableEq

/-- A note on a change of the plan. -/
inductive Clamp (F : Type) where
  | rate (requested permitted : F)
  | duration (requested permitted : UInt64)
  | zeroDuration
  | workers (requested permitted : UInt32)
  | zeroWorkers
  | session (expiresInMs : UInt64) (phases : UInt32)
      (perPhase requested : UInt64)

namespace Clamp

variable {F : Type}

/-- The text of a note. -/
def text [F64.Display F] : Clamp F → String
  | rate requested permitted =>
      s!"requested {F64.Display.fixed 0 requested} req/s, target permits " ++
        F64.Display.fixed 0 permitted
  | duration requested permitted =>
      s!"requested {requested} ms, target permits {permitted}"
  | zeroDuration => "requested a zero-length phase; using the target's ceiling"
  | workers requested permitted =>
      s!"requested {requested} connections, target permits {permitted}"
  | zeroWorkers => "requested zero connections; using one"
  | session expiresInMs phases perPhase requested =>
      s!"session has {expiresInMs} ms left and the generator will run " ++
        s!"{phases} phase(s), so each gets {perPhase} ms rather than the " ++
        s!"{requested} ms requested"

/-- The field whose change a note reports. -/
def field : Clamp F → PlanField
  | rate _ _ => .ratePerS
  | duration _ _ | zeroDuration | session _ _ _ _ => .durationMs
  | workers _ _ | zeroWorkers => .workers

end Clamp

/-- A plan on its way to being granted, with the notes on it so far. -/
structure Plan (F : Type) where
  granted : LoadRequest F
  clamps : List (Clamp F)

/-- A load plan both ends have agreed to, and the reasons it differs from what
was asked for. -/
structure AcceptedSession (F : Type) extends Plan F where
  sessionId : String
  objectSizes : List UInt64
  tls : Bool
  certificateDer : Option String

namespace Plan

variable {F : Type}

def clampRate [F64 F] (plan : Plan F) (maxRatePerS : F) : Plan F :=
  if maxRatePerS < plan.granted.ratePerS then
    { granted := { plan.granted with ratePerS := maxRatePerS }
      clamps := plan.clamps ++ [.rate plan.granted.ratePerS maxRatePerS] }
  else plan

def clampDuration (plan : Plan F) (maxDurationMs : UInt64) : Plan F :=
  if maxDurationMs < plan.granted.durationMs then
    { granted := { plan.granted with durationMs := maxDurationMs }
      clamps := plan.clamps ++
        [.duration plan.granted.durationMs maxDurationMs] }
  else plan

def fillDuration (plan : Plan F) (maxDurationMs : UInt64) : Plan F :=
  if plan.granted.durationMs = 0 then
    { granted := { plan.granted with durationMs := maxDurationMs }
      clamps := plan.clamps ++ [.zeroDuration] }
  else plan

def clampWorkers (plan : Plan F) (maxWorkers : UInt32) : Plan F :=
  if maxWorkers < plan.granted.workers then
    { granted := { plan.granted with workers := maxWorkers }
      clamps := plan.clamps ++ [.workers plan.granted.workers maxWorkers] }
  else plan

def fillWorkers (plan : Plan F) : Plan F :=
  if plan.granted.workers = 0 then
    { granted := { plan.granted with workers := 1 }
      clamps := plan.clamps ++ [.zeroWorkers] }
  else plan

/-- The number of phases is raised without a note. -/
def fillPhases (plan : Plan F) : Plan F :=
  { plan with
    granted := { plan.granted with phases := max plan.granted.phases 1 } }

def clampToSession (plan : Plan F) (expiresInMs perPhase : UInt64) : Plan F :=
  if perPhase < plan.granted.durationMs then
    { granted := { plan.granted with durationMs := perPhase }
      clamps := plan.clamps ++ [.session expiresInMs plan.granted.phases
        perPhase plan.granted.durationMs] }
  else plan

end Plan

/-- The quotient of unsigned integers, unless the division would trap. -/
def checkedDiv (a b : UInt64) : Option UInt64 :=
  if b = 0 then none else some (a / b)

namespace SessionOffer

variable {F : Type} [F64 F]

/-- The plan within the ceilings of the target, before the session's lifetime
is shared among the phases. -/
def clampToCeilings (offer : SessionOffer F) (wanted : LoadRequest F) :
    Plan F :=
  Plan.mk wanted []
    |>.clampRate offer.maxRatePerS
    |>.clampDuration offer.maxDurationMs
    |>.fillDuration offer.maxDurationMs
    |>.clampWorkers offer.maxWorkers
    |>.fillWorkers
    |>.fillPhases

/-- The session time that the phases share. -/
def budget (offer : SessionOffer F) : UInt64 :=
  max (saturatingSub offer.expiresInMs sessionOverheadMs) 1

variable [F64.Shortest F]

/-- Decides whether to talk to this peer at all, and on what terms.  There is
no result where the arithmetic would trap. -/
def accept (offer : SessionOffer F) (wanted : LoadRequest F) :
    Option (Except Refusal (AcceptedSession F)) :=
  if offer.protocol ≠ externalProtocolVersion then
    some (.error
      (.unsupportedProtocol offer.protocol externalProtocolVersion))
  else if offer.expiresInMs = 0 then
    some (.error .expired)
  else if offer.objectSizes.isEmpty then
    some (.error .nothingServed)
  else if offer.tls && offer.certificateDer.isNone then
    some (.error .unpinnableCertificate)
  else if ¬ F64.isFinite offer.maxRatePerS ∨ offer.maxRatePerS ≤ 0.0 then
    some (.error (.implausibleOffer
      s!"max rate {F64.Shortest.shortest offer.maxRatePerS}"))
  else if offer.maxDurationMs = 0 ∨ offer.maxWorkers = 0 then
    some (.error (.implausibleOffer
      (s!"max duration {offer.maxDurationMs} ms, " ++
        s!"max workers {offer.maxWorkers}")))
  else if ¬ F64.isFinite wanted.ratePerS ∨ wanted.ratePerS ≤ 0.0 then
    -- Refused rather than clamped upwards.
    some (.error (.implausibleRequest
      s!"a rate of {F64.Shortest.shortest wanted.ratePerS} is not a rate"))
  else
    let plan := offer.clampToCeilings wanted
    (checkedDiv offer.budget plan.granted.phases.toUInt64).map fun perPhase =>
      if perPhase < minPhaseMs then
        .error (.sessionTooShort offer.expiresInMs plan.granted.phases perPhase)
      else
        .ok
          { toPlan := plan.clampToSession offer.expiresInMs perPhase
            sessionId := offer.sessionId
            objectSizes := offer.objectSizes
            tls := offer.tls
            certificateDer := offer.certificateDer }

end SessionOffer

end External

end Darcbench
