import Darcbench.Support.Saturating

/-!
# Reconciliation of external load reports

A generator on another machine reports how many requests it made.  The target
accepts the report only if its own count of answered requests is consistent
with it.
-/

namespace Darcbench

/-- Version of the external-session wire contract. -/
def externalProtocolVersion : String := "darcbench.external/1"

/-- Tolerance between claimed and served request counts. -/
def reconcileSlackRequests : UInt64 := 1024

/-- The counters of one load phase. -/
structure ShapeReport where
  requestsCompleted : UInt64
  requestsFailed : UInt64
  /-- Requests issued before recording began, and discarded. -/
  requestsWarmup : UInt64

/-- What the generator sends back when it is done. -/
structure SessionReport where
  protocol : String
  sessionId : String
  shapes : List ShapeReport

/-- Why a target threw a generator's report away. -/
inductive ReportRejected where
  | unsupportedProtocol (found expected : String)
  | wrongSession (found expected : String)
  | empty
  | claimExceedsServed (claimed served : UInt64)
  | unaccountedLoad (claimed served excess allowance : UInt64)
  deriving DecidableEq

def ReportRejected.message : ReportRejected → String
  | unsupportedProtocol found expected =>
      s!"report speaks {found}, this target speaks {expected}"
  | wrongSession found expected =>
      s!"report is for session {found}, this target is running {expected}"
  | empty => "report contains no phases"
  | claimExceedsServed claimed served =>
      s!"the generator claims {claimed} completed requests but the origin " ++
        s!"answered only {served}; a generator cannot have received more " ++
        "responses than were sent, so the report is discarded rather than " ++
        "degraded"
  | unaccountedLoad claimed served excess allowance =>
      s!"the origin answered {served} requests but the generator claims " ++
        s!"only {claimed}, a gap of {excess} against an in-flight " ++
        s!"allowance of {allowance}; the surplus came from somewhere else, " ++
        "and a measurement taken while a third party was also loading the " ++
        "origin does not describe this machine"

namespace SessionReport

/-- Requests the generator says it received a complete response to. -/
def successfulRequests (report : SessionReport) : UInt64 :=
  report.shapes.foldl
    (fun total shape =>
      saturatingAdd (saturatingAdd total shape.requestsCompleted)
        shape.requestsWarmup) 0

/-- All requests the generator says it made. -/
def claimedRequests (report : SessionReport) : UInt64 :=
  report.shapes.foldl
    (fun total shape =>
      saturatingAdd
        (saturatingAdd (saturatingAdd total shape.requestsCompleted)
          shape.requestsFailed)
        shape.requestsWarmup) 0

/-- Checks the generator's claims against what the origin did. -/
def reconcile (report : SessionReport) (expectedSession : String)
    (served : UInt64) : Except ReportRejected Unit :=
  if report.protocol ≠ externalProtocolVersion then
    .error (.unsupportedProtocol report.protocol externalProtocolVersion)
  else if report.sessionId ≠ expectedSession then
    .error (.wrongSession report.sessionId expectedSession)
  else if report.shapes.isEmpty then
    .error .empty
  else
    let successful := report.successfulRequests
    if served < successful then
      .error (.claimExceedsServed successful served)
    else
      let claimed := report.claimedRequests
      let excess := saturatingSub served claimed
      if reconcileSlackRequests < excess then
        .error
          (.unaccountedLoad claimed served excess reconcileSlackRequests)
      else
        .ok ()

/-! ## Unbounded totals -/

/-- The successful requests, added up without a bound. -/
def successfulTotal (report : SessionReport) : ℕ :=
  (report.shapes.map fun shape =>
    shape.requestsCompleted.toNat + shape.requestsWarmup.toNat).sum

/-- All requests, added up without a bound. -/
def claimedTotal (report : SessionReport) : ℕ :=
  (report.shapes.map fun shape =>
    shape.requestsCompleted.toNat + shape.requestsFailed.toNat +
      shape.requestsWarmup.toNat).sum

theorem toNat_successfulRequests (report : SessionReport) :
    report.successfulRequests.toNat =
      min report.successfulTotal u64Max := by
  rw [successfulRequests, toNat_foldl_eq_min fun shape =>
    shape.requestsCompleted.toNat + shape.requestsWarmup.toNat]
  · exact congrArg (min · u64Max) (Nat.zero_add _)
  · intro acc shape
    rw [toNat_saturatingAdd, toNat_saturatingAdd]
    omega

theorem toNat_claimedRequests (report : SessionReport) :
    report.claimedRequests.toNat = min report.claimedTotal u64Max := by
  rw [claimedRequests, toNat_foldl_eq_min fun shape =>
    shape.requestsCompleted.toNat + shape.requestsFailed.toNat +
      shape.requestsWarmup.toNat]
  · exact congrArg (min · u64Max) (Nat.zero_add _)
  · intro acc shape
    rw [toNat_saturatingAdd, toNat_saturatingAdd, toNat_saturatingAdd]
    omega

/-- A saturated total is above every count that is not saturated itself. -/
theorem lt_successfulRequests_iff
    (report : SessionReport) {served : UInt64} (h : served.toNat < u64Max) :
    served < report.successfulRequests ↔
      served.toNat < report.successfulTotal := by
  rw [UInt64.lt_iff_toNat_lt, toNat_successfulRequests]
  omega

theorem slack_lt_excess_iff
    (report : SessionReport) {served : UInt64} (h : served.toNat < u64Max) :
    reconcileSlackRequests < saturatingSub served report.claimedRequests ↔
      report.claimedTotal + 1024 < served.toNat := by
  have hslack : reconcileSlackRequests.toNat = 1024 := rfl
  rw [UInt64.lt_iff_toNat_lt, toNat_saturatingSub, toNat_claimedRequests,
    hslack]
  omega

/-- The saturating checks accept exactly what the unbounded comparison
accepts. -/
theorem reconcile_eq_ok_iff
    (report : SessionReport) (expectedSession : String) (served : UInt64)
    (h : served.toNat < u64Max) :
    report.reconcile expectedSession served = .ok () ↔
      report.protocol = externalProtocolVersion ∧
        report.sessionId = expectedSession ∧ report.shapes ≠ [] ∧
        report.successfulTotal ≤ served.toNat ∧
        served.toNat ≤ report.claimedTotal + 1024 := by
  rw [reconcile]
  split
  · next hprotocol => simp [hprotocol]
  · next hprotocol =>
      split
      · next hsession => simp [hsession]
      · next hsession =>
          split
          · next hshapes => simp [List.isEmpty_iff.mp hshapes]
          · next hshapes =>
              rw [List.isEmpty_iff] at hshapes
              rw [not_not] at hprotocol hsession
              dsimp only
              split
              · next hupper =>
                  rw [report.lt_successfulRequests_iff h] at hupper
                  simp [Nat.not_le.mpr hupper]
              · next hupper =>
                  rw [report.lt_successfulRequests_iff h] at hupper
                  split
                  · next hlower =>
                      rw [report.slack_lt_excess_iff h] at hlower
                      simp [Nat.not_le.mpr hlower]
                  · next hlower =>
                      rw [report.slack_lt_excess_iff h] at hlower
                      exact iff_of_true rfl ⟨hprotocol, hsession, hshapes,
                        Nat.not_lt.mp hupper, Nat.not_lt.mp hlower⟩

/-- Counters that overflow together are refused. -/
theorem reconcile_overflowing :
    (⟨externalProtocolVersion, "s-1",
        [⟨0xFFFFFFFFFFFFFFFF, 0, 0⟩, ⟨11, 0, 0⟩]⟩ :
      SessionReport).reconcile "s-1" 10 ≠ .ok () := by
  rw [Ne, reconcile_eq_ok_iff _ _ _ (by decide)]
  decide

end SessionReport

end Darcbench
