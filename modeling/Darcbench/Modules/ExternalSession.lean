import Darcbench.Protocol.External
import Darcbench.Protocol.SessionToken
import Darcbench.Support.Runs

/-!
# The session of an external generator

The target has one thread that answers control connections, one after another,
and one caller that waits for the report.  Both share a slot for the report.
-/

namespace Darcbench

/-! ## The control listener -/

/-- What was read from a control connection. -/
structure ControlRequest where
  post : Bool
  path : String
  token : Option SessionToken
  body : List UInt8

inductive ControlBody
  | empty
  | error (message : String)
  | accepted
  deriving DecidableEq

structure ControlAnswer where
  status : String
  body : ControlBody
  deriving DecidableEq

def reportPath : String :=
  "/report"

namespace ControlAnswer

def unauthorized : ControlAnswer :=
  ⟨"401 Unauthorized", .error "unauthorized"⟩

def notFound : ControlAnswer :=
  ⟨"404 Not Found", .error "no such endpoint"⟩

def badRequest (error : String) : ControlAnswer :=
  ⟨"400 Bad Request", .error error⟩

def conflict : ControlAnswer :=
  ⟨"409 Conflict", .error "this session already has a report"⟩

def accepted : ControlAnswer :=
  ⟨"202 Accepted", .accepted⟩

end ControlAnswer

/-- How the body of a request is read. -/
abbrev ReportParser :=
  List UInt8 → Except String SessionReport

namespace ControlRequest

def authorised (request : ControlRequest) (token : SessionToken) : Bool :=
  request.token.any fun presented => token.matches presented

/-- The report that an authorised request carries. -/
def report? (parse : ReportParser) (token : SessionToken)
    (request : ControlRequest) : Option SessionReport :=
  if request.authorised token && request.post && request.path = reportPath then
    (parse request.body).toOption
  else none

end ControlRequest

/-- Answers a request, with the slot for the report. -/
def handleControlRequest (parse : ReportParser) (request : ControlRequest)
    (token : SessionToken) (inbox : Option SessionReport) :
    ControlAnswer × Option SessionReport :=
  if !request.authorised token then (.unauthorized, inbox)
  else if !request.post || request.path ≠ reportPath then (.notFound, inbox)
  else
    match parse request.body with
    | .error error => (.badRequest error, inbox)
    | .ok report =>
        match inbox with
        | some _ => (.conflict, inbox)
        | none => (.accepted, some report)

/-- A request that carries no report does not touch the slot. -/
theorem handleControlRequest_of_none {parse : ReportParser}
    {request : ControlRequest} {token : SessionToken}
    (h : request.report? parse token = none) (inbox : Option SessionReport) :
    (handleControlRequest parse request token inbox).2 = inbox ∧
      (handleControlRequest parse request token inbox).1 ≠ .accepted := by
  unfold handleControlRequest
  split_ifs with hauthorised hpath
  · exact ⟨rfl, (by decide : ControlAnswer.unauthorized ≠ .accepted)⟩
  · exact ⟨rfl, (by decide : ControlAnswer.notFound ≠ .accepted)⟩
  · unfold ControlRequest.report? at h
    have hall : (request.authorised token && request.post &&
        request.path = reportPath) = true := by
      simp_all
    rw [if_pos hall] at h
    cases hparse : parse request.body with
    | error error =>
        have hstatus : "400 Bad Request" ≠ "202 Accepted" := by decide
        exact ⟨rfl, fun h => hstatus (congrArg ControlAnswer.status h)⟩
    | ok report =>
        rw [hparse] at h
        exact absurd h (Option.some_ne_none _)

/-- A request that carries a report is accepted exactly if the slot is free. -/
theorem handleControlRequest_of_some {parse : ReportParser}
    {request : ControlRequest} {token : SessionToken} {report : SessionReport}
    (h : request.report? parse token = some report)
    (inbox : Option SessionReport) :
    handleControlRequest parse request token inbox =
      match inbox with
      | some _ => (.conflict, inbox)
      | none => (.accepted, some report) := by
  unfold ControlRequest.report? at h
  split_ifs at h with hall
  have hparse : parse request.body = .ok report := by
    cases hparse : parse request.body with
    | error error => rw [hparse] at h; exact absurd h nofun
    | ok other =>
        rw [hparse] at h
        exact congrArg Except.ok (Option.some.inj h)
  unfold handleControlRequest
  rw [if_neg (by simp_all), if_neg (by simp_all), hparse]

/-! ## The session -/

/-- Why a session ended without a result. -/
inductive WaitError
  | rejected (reason : ReportRejected)
  | expired

/-- What a completed session produced. -/
structure SessionResult where
  report : SessionReport
  served : UInt64
  refused : UInt64

/-- Where the caller of `wait` is. -/
inductive Waiter
  | polling
  /-- There was no report, and the deadline is checked next. -/
  | checking
  | sleeping
  | holding (report : SessionReport)
  | reconciled (report : SessionReport) (served : UInt64)
  | returned (result : Except WaitError SessionResult)

/-- The session and its history: the answers to all control requests in order,
those that were given when `wait` returned, and the report that `wait` took. -/
structure TargetSession where
  token : SessionToken
  sessionId : String
  deadline : ℕ
  clock : ℕ
  inbox : Option SessionReport
  stop : Bool
  served : UInt64
  refused : UInt64
  waiter : Waiter
  answers : List (ControlRequest × ControlAnswer)
  answersAtEnd : List (ControlRequest × ControlAnswer)
  taken : Option SessionReport

namespace TargetSession

/-- A control connection is answered.  What cannot be read does not get to the
slot. -/
def connect (parse : ReportParser) (s : TargetSession)
    (request : Except String ControlRequest) : Option TargetSession :=
  if s.stop then none
  else
    match request with
    | .error _ => some s
    | .ok request =>
        let handled := handleControlRequest parse request s.token s.inbox
        some { s with
          inbox := handled.2
          answers := s.answers ++ [(request, handled.1)] }

/-- Empties the slot. -/
def takeReport (s : TargetSession) : Option TargetSession :=
  match s.waiter with
  | .polling =>
      match s.inbox with
      | some report =>
          some { s with
            inbox := none
            taken := some report
            waiter := .holding report }
      | none => some { s with waiter := .checking }
  | _ => none

def checkDeadline (s : TargetSession) : Option TargetSession :=
  match s.waiter with
  | .checking =>
      if s.deadline ≤ s.clock then
        some { s with
          waiter := .returned (.error .expired)
          answersAtEnd := s.answers }
      else some { s with waiter := .sleeping }
  | _ => none

def wake (s : TargetSession) : Option TargetSession :=
  match s.waiter with
  | .sleeping => some { s with waiter := .polling }
  | _ => none

/-- Reads the counter after the report is in hand. -/
def reconcile (s : TargetSession) : Option TargetSession :=
  match s.waiter with
  | .holding report =>
      match report.reconcile s.sessionId s.served with
      | .error reason =>
          some { s with
            waiter := .returned (.error (.rejected reason))
            answersAtEnd := s.answers }
      | .ok () => some { s with waiter := .reconciled report s.served }
  | _ => none

def finish (s : TargetSession) : Option TargetSession :=
  match s.waiter with
  | .reconciled report served =>
      some { s with
        waiter := .returned (.ok ⟨report, served, s.refused⟩)
        answersAtEnd := s.answers }
  | _ => none

/-- The session is dropped when `wait` has returned. -/
def drop (s : TargetSession) : Option TargetSession :=
  match s.waiter with
  | .returned _ => some { s with stop := true }
  | _ => none

inductive Action
  | connect (request : Except String ControlRequest)
  | takeReport
  | checkDeadline
  | wake
  | reconcile
  | finish
  | drop
  /-- Time passes, and the origin answers and refuses requests. -/
  | elapse (duration : ℕ) (served refused : UInt64)

def step (parse : ReportParser) (s : TargetSession) :
    Action → Option TargetSession
  | .connect request => s.connect parse request
  | .takeReport => s.takeReport
  | .checkDeadline => s.checkDeadline
  | .wake => s.wake
  | .reconcile => s.reconcile
  | .finish => s.finish
  | .drop => s.drop
  | .elapse duration served refused =>
      some { s with
        clock := s.clock + duration
        served := s.served + served
        refused := s.refused + refused }

/-- A session that has just been started. -/
def start (token : SessionToken) (sessionId : String) (now ttl : ℕ) :
    TargetSession where
  token := token
  sessionId := sessionId
  deadline := now + ttl
  clock := now
  inbox := none
  stop := false
  served := 0
  refused := 0
  waiter := .polling
  answers := []
  answersAtEnd := []
  taken := none

def system (parse : ReportParser) : TransitionSystem TargetSession Action where
  initial s := ∃ token sessionId now ttl, s = start token sessionId now ttl
  step := step parse

end TargetSession

end Darcbench
