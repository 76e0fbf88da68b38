import Darcbench.Agent.Proxy
import Darcbench.Agent.RunIndex
import Darcbench.Agent.RunManager
import Darcbench.Modules.HeadText
import Darcbench.Protocol.SessionToken

/-!
# The calls that start and cancel runs

Every call carries what its browser or client sent.  A token in the
`Authorization` header is permitted to mutate; a token in a cookie or in the
query string, which a browser may attach on its own, only reads.
-/

namespace Darcbench

/-! ## The access token -/

/-- A bearer token. -/
structure AccessToken where
  text : List Char
  deriving DecidableEq

namespace AccessToken

/-- A token of 256 bits in hexadecimal. -/
def ofBytes (raw : List UInt8) : AccessToken where
  text := (hexEncode raw).toList

/-- Compares without an early exit, once the lengths agree. -/
def «matches» (token : AccessToken) (candidate : List Char) : Bool :=
  let expected := WebOrigin.utf8 token.text
  let actual := WebOrigin.utf8 candidate
  if expected.length ≠ actual.length then
    false
  else
    SessionToken.difference expected actual == 0

theorem difference_eq_zero_iff {bytes others : List UInt8}
    (hlength : bytes.length = others.length) :
    SessionToken.difference bytes others = 0 ↔ bytes = others := by
  rw [SessionToken.difference, SessionToken.foldl_difference_eq_zero_iff]
  constructor
  · rintro ⟨-, h⟩
    apply List.ext_getElem hlength
    intro i hi hi'
    have hmem : (bytes[i], others[i]) ∈ bytes.zip others := by
      rw [List.mem_iff_getElem]
      have hzip : i < (bytes.zip others).length := by
        rw [List.length_zip]
        exact Nat.lt_min.mpr ⟨hi, hi'⟩
      exact ⟨i, hzip, List.getElem_zip⟩
    exact h _ hmem
  · rintro rfl
    refine ⟨rfl, ?_⟩
    intro p hp
    obtain ⟨i, hi, rfl⟩ := List.getElem_of_mem hp
    rw [List.getElem_zip]

/-- A candidate matches exactly when it is the token. -/
theorem matches_iff (token : AccessToken) (candidate : List Char) :
    token.matches candidate = true ↔ candidate = token.text := by
  have hinj : WebOrigin.utf8 token.text = WebOrigin.utf8 candidate ↔
      candidate = token.text := by
    constructor
    · intro h
      have hdecode := congrArg WebOrigin.decodeUtf8 h
      rw [WebOrigin.decodeUtf8_utf8, WebOrigin.decodeUtf8_utf8] at hdecode
      exact (Option.some.inj hdecode).symm
    · rintro rfl
      rfl
  rw [«matches»]
  by_cases hlength : (WebOrigin.utf8 token.text).length =
      (WebOrigin.utf8 candidate).length
  · rw [if_neg (not_not.mpr hlength), beq_iff_eq,
      difference_eq_zero_iff hlength, hinj]
  · rw [if_pos hlength]
    constructor
    · intro h
      exact absurd h Bool.false_ne_true
    · intro h
      exact absurd (congrArg List.length (hinj.mpr h)) hlength

end AccessToken

/-! ## Errors -/

/-- The answer to a call that is refused. -/
structure ApiError where
  status : ℕ
  code : String
  message : String
  detail : Option String
  deriving DecidableEq

def ProtocolError.text : ProtocolError → String
  | invalidId message => s!"invalid identifier: {message}"

/-- The error that a call answers when no run can start. -/
def ApiError.ofRunError : RunError → ApiError
  | .alreadyRunning id =>
      { status := 409
        code := "run_in_progress"
        message := "Another benchmark run is already in progress. " ++
          "Two concurrent runs would measure each other."
        detail := some id.asStr }
  | .unknownModules ids =>
      { status := 400
        code := "unknown_module"
        message := "One or more requested modules are not in this " ++
          "agent's allow-list."
        detail := some (", ".intercalate (ids.map ModuleId.asStr)) }
  | .noModules profile =>
      { status := 400
        code := "profile_unavailable"
        message := "This profile has no implemented modules in this build."
        detail := some profile.asStr }
  | .internal message =>
      { status := 500
        code := "internal"
        message := "The agent could not complete the request."
        detail := some message }

/-! ## What a call proves about itself -/

/-- The headers that the agent reads, each as the text it holds if all of it is
visible. -/
structure ApiHeaders where
  authorization : Option (List Char)
  cookie : Option (List Char)
  forwardedProto : Option (List Char)

structure ApiCall where
  headers : ApiHeaders
  queryToken : Option (List Char)

/-- What a request proved about itself. -/
inductive Auth where
  /-- Presented the token in the `Authorization` header. -/
  | header
  /-- Presented the token in the session cookie or the query string. -/
  | ambient
  deriving DecidableEq

namespace ApiCall

def sessionCookie : List Char := "darcbench_session".toList

def bearerText : List Char := "Bearer ".toList

/-- What the `Authorization` header offers as a token. -/
def bearer? (call : ApiCall) : Option (List Char) :=
  call.headers.authorization.bind fun value =>
    if bearerText <+: value then
      some (Words.trim (value.drop bearerText.length))
    else
      none

/-- One part of the `Cookie` header is the session cookie with the token. -/
def isSession (token : AccessToken) (part : List Char) : Bool :=
  match Words.splitOnce '=' (Words.trim part) with
  | some (name, value) => name == sessionCookie && token.matches value
  | none => false

def authenticate (call : ApiCall) (token : AccessToken) : Option Auth :=
  if call.bearer?.any token.matches then
    some .header
  else if call.headers.cookie.any fun cookie =>
      (cookie.splitOn ';').any (isSession token) then
    some .ambient
  else if call.queryToken.any token.matches then
    some .ambient
  else
    none

def csrfProtection : ApiError where
  status := 403
  code := "csrf_protection"
  message := "Mutating requests must present the token in the " ++
    "Authorization header, not a cookie or query string."
  detail := none

def unauthenticated : ApiError where
  status := 401
  code := "unauthenticated"
  message := "A valid DARCBench access token is required."
  detail := none

/-- What every guarded call goes through first. -/
def require (call : ApiCall) (token : AccessToken) (mutating : Bool) :
    Except ApiError Unit :=
  match call.authenticate token with
  | some .header => .ok ()
  | some .ambient => if mutating then .error csrfProtection else .ok ()
  | none => .error unauthenticated

/-- The call bears the token where a browser never puts it on its own. -/
def Bears (call : ApiCall) (token : AccessToken) : Prop :=
  ∃ rest, call.headers.authorization = some (bearerText ++ rest) ∧
    Words.trim rest = token.text

theorem bearer?_any_iff (call : ApiCall) (token : AccessToken) :
    call.bearer?.any token.matches = true ↔ call.Bears token := by
  rw [bearer?, Bears]
  cases call.headers.authorization with
  | none => simp
  | some value =>
      rw [Option.bind_some]
      constructor
      · intro h
        split at h
        · next hstart =>
            obtain ⟨rest, rfl⟩ := hstart
            rw [List.drop_left, Option.any_some,
              AccessToken.matches_iff] at h
            exact ⟨rest, rfl, h⟩
        · exact absurd h Bool.false_ne_true
      · rintro ⟨rest, hvalue, htrim⟩
        obtain rfl := Option.some.inj hvalue
        rw [if_pos ⟨rest, rfl⟩, List.drop_left, Option.any_some,
          AccessToken.matches_iff]
        exact htrim

/-- A mutating call passes exactly when it bears the token. -/
theorem require_mutating_iff (call : ApiCall) (token : AccessToken) :
    call.require token true = .ok () ↔ call.Bears token := by
  rw [← bearer?_any_iff, require, authenticate]
  by_cases hbears : call.bearer?.any token.matches = true
  · rw [if_pos hbears]
    exact iff_of_true rfl hbears
  · rw [if_neg hbears]
    refine iff_of_false ?_ hbears
    split
    · next h =>
        split at h
        · exact absurd h (by simp)
        · split at h
          · exact absurd h (by simp)
          · exact absurd h (by simp)
    · simp
    · simp

end ApiCall

/-! ## What a call asks for -/

/-- The body of a call that creates a run. -/
structure CreateRunRequest where
  profile : Option String
  modules : Option (List String)
  durationMinutes : Option ℕ

def enduranceMinMinutes : ℕ := 2

/-- The profile of a name, in either case and with either separator. -/
def Profile.fromStr (s : String) : Except ProtocolError Profile :=
  let name := String.ofList <|
    (toAsciiLowercase s).toList.map fun c => if c = '-' then '_' else c
  if name = "quick" then .ok .quick
  else if name = "standard" then .ok .standard
  else if name = "deep" then .ok .deep
  else if name = "endurance" then .ok .endurance
  else if name = "read_only" ∨ name = "readonly" then .ok .readOnly
  else if name = "web_only" ∨ name = "web" then .ok .webOnly
  else if name = "custom" then .ok .custom
  else .error (.invalidId s!"unknown profile `{name}`")

namespace CreateRunRequest

def parseProfile (request : CreateRunRequest) : Except ApiError Profile :=
  match request.profile with
  | none => .ok .quick
  | some raw =>
      (Profile.fromStr raw).mapError fun e =>
        { status := 400
          code := "unknown_profile"
          message := "Unknown profile."
          detail := some e.text }

def parseModuleId (name : String) : Except ApiError ModuleId :=
  (ModuleId.fromStr name).mapError fun e =>
    { status := 400
      code := "invalid_module_id"
      message := "A module id was not well formed."
      detail := some e.text }

def parseModules (request : CreateRunRequest) :
    Except ApiError (Option (List ModuleId)) :=
  match request.modules with
  | none => .ok none
  | some raw => (raw.mapM parseModuleId).map some

def durationNotSupported (profile : Profile) : ApiError where
  status := 400
  code := "duration_not_supported"
  message := "Only a cycling profile has a duration to override."
  detail := some (s!"`{profile.asStr}` runs its module set once, so " ++
    "`duration_minutes` has no meaning for it. Today `endurance` is the " ++
    "only cycling profile.")

def invalidDuration : ApiError where
  status := 400
  code := "invalid_duration"
  message := "The requested duration is outside the permitted range."
  detail := some ("duration_minutes must be between 2 and 1440; below the " ++
    "floor there are too few cycles for a decline to mean anything, and " ++
    "the ceiling exists so a mistyped value cannot hold a machine at full " ++
    "load for a week.")

/-- How long the run is to cycle, in nanoseconds.  Only a profile that cycles
has a duration to override. -/
def parseDuration (request : CreateRunRequest) (profile : Profile) :
    Except ApiError (Option ℕ) :=
  match request.durationMinutes with
  | none => .ok none
  | some minutes =>
      if profile.cycleTargetMinutes.isNone then
        .error (durationNotSupported profile)
      else if enduranceMinMinutes ≤ minutes ∧
          minutes ≤ Supervision.enduranceMaxMinutes then
        .ok (some (Supervision.seconds (minutes * 60)))
      else
        .error invalidDuration

/-- What is started.  A shorter run of a cycling profile runs the modules of
that profile, and a run with modules or a duration of its own is a custom
one. -/
def toStart (registry : Registry) (profile : Profile)
    (modules : Option (List ModuleId)) (duration : Option ℕ) (id : RunId) :
    StartRequest :=
  let modules :=
    if duration.isSome ∧ modules.isNone then
      some (registry.modulesForProfile profile)
    else
      modules
  { profile := if modules.isSome then .custom else profile
    requestedModules := modules
    cycleTarget := duration
    id := id }

def resolve (request : CreateRunRequest) (registry : Registry) (id : RunId) :
    Except ApiError StartRequest := do
  let profile ← request.parseProfile
  let modules ← request.parseModules
  let duration ← request.parseDuration profile
  return toStart registry profile modules duration id

end CreateRunRequest

/-! ## The server -/

/-- The server, with what its calls have done. -/
structure AppState where
  manager : RunManager
  token : AccessToken
  /-- The runs that are told to stop. -/
  cancelled : List ℕ
  /-- History: the calls that created the runs, in the order of the runs. -/
  created : List (ApiCall × CreateRunRequest)
  /-- History: the calls that cancelled a run. -/
  cancellations : List (ApiCall × ℕ)

namespace AppState

def createRun (s : AppState) (call : ApiCall) (request : CreateRunRequest)
    (id : RunId) : Except ApiError RunManager := do
  call.require s.token true
  let start ← request.resolve s.manager.registry id
  (s.manager.start start).mapError ApiError.ofRunError

def invalidRunId (e : ProtocolError) : ApiError where
  status := 400
  code := "invalid_run_id"
  message := "Malformed run id."
  detail := some e.text

def unknownRun : ApiError where
  status := 404
  code := "unknown_run"
  message := "No such run."
  detail := none

/-- The run of an id that the manager still holds. -/
def get? (s : AppState) (id : RunId) : Option ℕ :=
  s.manager.runs.find? fun run =>
    s.manager.handles[run]?.any fun handle => handle.id = id

/-- The run that a call cancels. -/
def cancelRun (s : AppState) (call : ApiCall) (runId : String) :
    Except ApiError ℕ := do
  call.require s.token true
  let id ← (RunId.fromStr runId).mapError invalidRunId
  match s.get? id with
  | some run => return run
  | none => throw unknownRun

inductive Action where
  | createRun (call : ApiCall) (request : CreateRunRequest) (id : RunId)
  | cancelRun (call : ApiCall) (runId : String)
  /-- The eviction or the task of a run goes on. -/
  | task (action : RunManager.Action)

def step (s : AppState) : Action → Option AppState
  | .createRun call request id =>
      -- A start waits for the one that holds the lock.
      match s.manager.critical with
      | some _ => none
      | none =>
          match s.createRun call request id with
          | .error _ => some s
          | .ok manager =>
              some { s with
                manager := manager
                created := s.created ++ [(call, request)] }
  | .cancelRun call runId =>
      match s.cancelRun call runId with
      | .error _ => some s
      | .ok run =>
          some { s with
            cancelled := run :: s.cancelled
            cancellations := (call, run) :: s.cancellations }
  | .task (.start _) => none
  | .task action =>
      (s.manager.step action).map fun manager => { s with manager := manager }

/-- A server that has just started. -/
def Initial (s : AppState) : Prop :=
  s.manager.Initial ∧ s.cancelled = [] ∧ s.created = [] ∧
    s.cancellations = []

/-- The calls of any clients and the tasks of the runs, in any order. -/
def system : TransitionSystem AppState Action where
  initial := Initial
  step := step

end AppState

/-! ## What a start leaves -/

theorem exists_of_bind_eq_ok {ε α β : Type} {x : Except ε α}
    {f : α → Except ε β} {b : β} (h : x >>= f = .ok b) :
    ∃ a, x = .ok a ∧ f a = .ok b := by
  cases x with
  | error e => exact absurd h (by simp [bind, Except.bind])
  | ok a => exact ⟨a, rfl, h⟩

theorem exists_of_mapError_eq_ok {ε ε' α : Type} {x : Except ε α}
    {f : ε → ε'} {a : α} (h : x.mapError f = .ok a) :
    x = .ok a := by
  cases x with
  | error e => exact absurd h (by simp [Except.mapError])
  | ok b => exact congrArg Except.ok (Except.ok.inj h)

theorem RunManager.start_eq_ok {s t : RunManager} {request : StartRequest}
    (h : s.start request = .ok t) :
    ∃ modules, s.registry.resolve request.profile request.requestedModules =
        .ok modules ∧
      t.handles =
        s.handles ++ [RegisteredRun.new s.registry request modules] ∧
      t.registry = s.registry := by
  rw [RunManager.start] at h
  split at h
  · exact absurd h (by simp)
  · next modules hmodules =>
      split at h
      · split at h
        · exact absurd h (by simp)
        · exact absurd h (by simp)
      · obtain rfl := Except.ok.inj h
        exact ⟨modules, hmodules, rfl, rfl⟩

/-- The run has the label, the modules and the duration of another record of
it. -/
structure RegisteredRun.SameRun (run other : RegisteredRun) : Prop where
  profile_eq : run.profile = other.profile
  modules_eq : run.modules = other.modules
  cycleTarget_eq : run.cycleTarget = other.cycleTarget

theorem RegisteredRun.SameRun.refl (run : RegisteredRun) : run.SameRun run :=
  ⟨rfl, rfl, rfl⟩

/-- The manager knows the same runs, whatever their tasks did. -/
structure RunManager.SameRuns (s t : RunManager) : Prop where
  registry_eq : t.registry = s.registry
  length_eq : t.handles.length = s.handles.length
  sameRun : ∀ (run : ℕ) (handle : RegisteredRun),
    t.handles[run]? = some handle →
      ∃ earlier, s.handles[run]? = some earlier ∧ handle.SameRun earlier

namespace RunManager

variable {s t : RunManager}

theorem SameRuns.of_handles_eq (hregistry : t.registry = s.registry)
    (hhandles : t.handles = s.handles) :
    s.SameRuns t where
  registry_eq := hregistry
  length_eq := congrArg List.length hhandles
  sameRun := by
    intro run handle hget
    rw [hhandles] at hget
    exact ⟨handle, hget, .refl handle⟩

theorem SameRuns.set {run : ℕ} {handle : RegisteredRun}
    (hget : s.handles[run]? = some handle) {new : RegisteredRun}
    (hnew : new.SameRun handle) :
    s.SameRuns { s with handles := s.handles.set run new } where
  registry_eq := rfl
  length_eq := List.length_set
  sameRun := by
    intro j other hother
    rw [getElem?_set_handles hget] at hother
    by_cases hj : run = j
    · rw [if_pos hj] at hother
      obtain rfl := Option.some.inj hother
      exact ⟨handle, hj ▸ hget, hnew⟩
    · rw [if_neg hj] at hother
      exact ⟨other, hother, .refl other⟩

/-- A visit changes neither the runs that are known nor the disk. -/
theorem visit_frame (s : RunManager) (c : Critical) :
    (s.visit c).registry = s.registry ∧ (s.visit c).handles = s.handles ∧
      (s.visit c).onDisk = s.onDisk := by
  unfold visit
  split
  · exact ⟨rfl, rfl, rfl⟩
  · split <;> exact ⟨rfl, rfl, rfl⟩
  · split <;> exact ⟨rfl, rfl, rfl⟩
  · exact ⟨rfl, rfl, rfl⟩

/-- A step that is no start leaves the runs as they are. -/
theorem sameRuns_step {action : Action}
    (hno : ∀ request, action ≠ .start request)
    (h : s.step action = some t) :
    s.SameRuns t := by
  cases action with
  | start request => exact absurd rfl (hno request)
  | visit =>
      obtain ⟨c, hc, rfl⟩ := Option.map_eq_some_iff.mp h
      obtain ⟨hregistry, hhandles, -⟩ := s.visit_frame c
      exact .of_handles_eq hregistry hhandles
  | spawn run =>
      rw [RunManager.step] at h
      split at h
      · next handle hcritical hget =>
          split at h
          · exact absurd h (by simp)
          · obtain rfl := Option.some.inj h
            exact .set hget ⟨rfl, rfl, rfl⟩
      · exact absurd h (by simp)
  | setState run state =>
      rw [RunManager.step] at h
      split at h
      · next handle hget =>
          split at h
          · obtain rfl := Option.some.inj h
            exact .set hget ⟨rfl, rfl, rfl⟩
          · exact absurd h (by simp)
      · exact absurd h (by simp)
  | writeBundle run =>
      rw [RunManager.step] at h
      split at h
      · split at h
        · obtain rfl := Option.some.inj h
          exact .of_handles_eq rfl rfl
        · exact absurd h (by simp)
      · exact absurd h (by simp)

end RunManager

/-! ## Labels -/

/-- What a run says about itself is what its caller asked for: a run under the
name of a profile is the run of that profile and nothing else, and the others
are custom runs. -/
structure RegisteredRun.Honest (registry : Registry)
    (request : CreateRunRequest) (run : RegisteredRun) : Prop where
  named : run.profile ≠ .custom →
    request.modules = none ∧ request.durationMinutes = none ∧
      request.parseProfile = .ok run.profile ∧
      run.modules =
        (registry.modulesForProfile run.profile).filterMap registry.get ∧
      run.cycleTarget = run.profile.cycleTargetMinutes.map fun minutes =>
        Supervision.seconds (minutes * 60)
  picked : ∀ names, request.modules = some names →
    ∃ ids, names.mapM CreateRunRequest.parseModuleId = .ok ids ∧
      registry.unknown ids = [] ∧ run.modules = ids.filterMap registry.get
  cycled : ∀ minutes, request.durationMinutes = some minutes →
    request.parseProfile = .ok .endurance ∧ enduranceMinMinutes ≤ minutes ∧
      minutes ≤ Supervision.enduranceMaxMinutes ∧
      run.cycleTarget = some (Supervision.seconds (minutes * 60))
  shortened : ∀ minutes, request.durationMinutes = some minutes →
    request.modules = none →
      run.modules =
        (registry.modulesForProfile .endurance).filterMap registry.get
  once : request.durationMinutes = none → run.profile ≠ .endurance →
    run.cycleTarget = none

theorem RegisteredRun.Honest.of_sameRun {registry : Registry}
    {request : CreateRunRequest} {run other : RegisteredRun}
    (h : other.Honest registry request) (hsame : run.SameRun other) :
    run.Honest registry request where
  named := by
    rw [hsame.profile_eq, hsame.modules_eq, hsame.cycleTarget_eq]
    exact h.named
  picked := by
    rw [hsame.modules_eq]
    exact h.picked
  cycled := by
    rw [hsame.cycleTarget_eq]
    exact h.cycled
  shortened := by
    rw [hsame.modules_eq]
    exact h.shortened
  once := by
    rw [hsame.profile_eq, hsame.cycleTarget_eq]
    exact h.once

/-- Only the hour-long profile cycles by nature. -/
theorem Profile.cycleTargetMinutes_eq_some_iff {profile : Profile}
    {minutes : ℕ} :
    profile.cycleTargetMinutes = some minutes ↔
      profile = .endurance ∧ minutes = 60 := by
  cases profile with
  | endurance =>
      rw [cycleTargetMinutes, Option.some.injEq]
      exact ⟨fun h => ⟨rfl, h.symm⟩, fun h => h.2.symm⟩
  | quick => exact iff_of_false (by simp [cycleTargetMinutes]) (by simp)
  | standard => exact iff_of_false (by simp [cycleTargetMinutes]) (by simp)
  | deep => exact iff_of_false (by simp [cycleTargetMinutes]) (by simp)
  | readOnly => exact iff_of_false (by simp [cycleTargetMinutes]) (by simp)
  | webOnly => exact iff_of_false (by simp [cycleTargetMinutes]) (by simp)
  | custom => exact iff_of_false (by simp [cycleTargetMinutes]) (by simp)

/-- The modules that a start resolves to are the ones it asked for, all of them
known, or those of its profile. -/
theorem Registry.resolve_eq_ok {registry : Registry} {profile : Profile}
    {requested : Option (List ModuleId)} {ids : List ModuleId}
    (h : registry.resolve profile requested = .ok ids) :
    (∀ picked, requested = some picked →
      ids = picked ∧ registry.unknown picked = []) ∧
    (requested = none → ids = registry.modulesForProfile profile) := by
  unfold Registry.resolve at h
  cases requested with
  | none =>
      refine ⟨by simp, fun _ => ?_⟩
      dsimp only at h
      split at h
      · exact absurd h (by simp)
      · exact (Except.ok.inj h).symm
  | some picked =>
      refine ⟨fun other hother => ?_, by simp⟩
      obtain rfl := Option.some.inj hother
      dsimp only at h
      by_cases hempty : (registry.unknown picked).isEmpty = true
      · rw [if_pos hempty] at h
        dsimp only at h
        split at h
        · exact absurd h (by simp)
        · exact ⟨(Except.ok.inj h).symm, List.isEmpty_iff.mp hempty⟩
      · rw [if_neg hempty] at h
        exact absurd h (by simp)

namespace CreateRunRequest

variable {request : CreateRunRequest} {profile : Profile}

theorem parseDuration_eq_ok {duration : Option ℕ}
    (h : request.parseDuration profile = .ok duration) :
    (request.durationMinutes = none ∧ duration = none) ∨
      ∃ minutes, request.durationMinutes = some minutes ∧
        profile = .endurance ∧ enduranceMinMinutes ≤ minutes ∧
        minutes ≤ Supervision.enduranceMaxMinutes ∧
        duration = some (Supervision.seconds (minutes * 60)) := by
  rw [parseDuration] at h
  split at h
  · next hnone => exact .inl ⟨hnone, (Except.ok.inj h).symm⟩
  · next minutes hsome =>
      split at h
      · exact absurd h (by simp)
      · next hcycles =>
          split at h
          · next hrange =>
              obtain ⟨nominal, hnominal⟩ :=
                Option.ne_none_iff_exists'.mp
                  fun hnone => hcycles (Option.isNone_iff_eq_none.mpr hnone)
              exact .inr ⟨minutes, hsome,
                (Profile.cycleTargetMinutes_eq_some_iff.mp hnominal).1,
                hrange.1, hrange.2, (Except.ok.inj h).symm⟩
          · exact absurd h (by simp)

theorem parseModules_eq_ok {modules : Option (List ModuleId)}
    (h : request.parseModules = .ok modules) :
    (request.modules = none ∧ modules = none) ∨
      ∃ names ids, request.modules = some names ∧
        names.mapM parseModuleId = .ok ids ∧ modules = some ids := by
  rw [parseModules] at h
  split at h
  · next hnone => exact .inl ⟨hnone, (Except.ok.inj h).symm⟩
  · next names hsome =>
      cases hids : names.mapM parseModuleId with
      | error e =>
          rw [hids] at h
          exact absurd h (by simp [Except.map])
      | ok ids =>
          rw [hids] at h
          exact .inr ⟨names, ids, hsome, hids, (Except.ok.inj h).symm⟩

theorem resolve_eq_ok {registry : Registry} {id : RunId}
    {start : StartRequest} (h : request.resolve registry id = .ok start) :
    ∃ profile modules duration, request.parseProfile = .ok profile ∧
      request.parseModules = .ok modules ∧
      request.parseDuration profile = .ok duration ∧
      start = toStart registry profile modules duration id := by
  obtain ⟨profile, hprofile, h⟩ := exists_of_bind_eq_ok h
  obtain ⟨modules, hmodules, h⟩ := exists_of_bind_eq_ok h
  obtain ⟨duration, hduration, h⟩ := exists_of_bind_eq_ok h
  exact ⟨profile, modules, duration, hprofile, hmodules, hduration,
    (Except.ok.inj h).symm⟩

/-- The longest duration that may be asked for is within the ceiling of the
manager. -/
theorem min_seconds_eq {minutes : ℕ}
    (h : minutes ≤ Supervision.enduranceMaxMinutes) :
    min (Supervision.seconds (minutes * 60))
        (Supervision.seconds (Supervision.enduranceMaxMinutes * 60)) =
      Supervision.seconds (minutes * 60) := by
  apply Nat.min_eq_left
  rw [Supervision.seconds, Supervision.seconds]
  exact Nat.mul_le_mul_right _ (Nat.mul_le_mul_right _ h)

/-- A profile that nothing is overridden of cycles as long as it says. -/
theorem cycleTarget_nominal (profile : Profile) :
    (profile.cycleTargetMinutes.map fun minutes =>
      Supervision.seconds (minutes * 60)).map (fun target =>
        min target
          (Supervision.seconds (Supervision.enduranceMaxMinutes * 60))) =
      profile.cycleTargetMinutes.map fun minutes =>
        Supervision.seconds (minutes * 60) := by
  cases hminutes : profile.cycleTargetMinutes with
  | none => rfl
  | some minutes =>
      obtain ⟨-, rfl⟩ := Profile.cycleTargetMinutes_eq_some_iff.mp hminutes
      rw [Option.map_some, Option.map_some, min_seconds_eq (by decide)]

/-- The run that a call creates is labelled as what it is. -/
theorem honest_new {registry : Registry} {id : RunId} {start : StartRequest}
    {ids : List ModuleId} (hstart : request.resolve registry id = .ok start)
    (hids : registry.resolve start.profile start.requestedModules = .ok ids) :
    (RegisteredRun.new registry start ids).Honest registry request := by
  obtain ⟨profile, modules, duration, hprofile, hmodules, hduration, rfl⟩ :=
    resolve_eq_ok hstart
  obtain ⟨hpicked, hunpicked⟩ := Registry.resolve_eq_ok hids
  rcases parseModules_eq_ok hmodules with
    ⟨hnames, rfl⟩ | ⟨names, picked, hnames, hparsed, rfl⟩
  · rcases parseDuration_eq_ok hduration with
      ⟨hminutes, rfl⟩ |
        ⟨minutes, hminutes, rfl, hmin, hmax, rfl⟩
    · -- The profile as it is.
      have hall := hunpicked rfl
      exact
        { named := fun _ =>
            ⟨hnames, hminutes, hprofile, congrArg _ hall,
              cycleTarget_nominal profile⟩
          picked := by simp [hnames]
          cycled := by simp [hminutes]
          shortened := by simp [hminutes]
          once := by
            intro _ hother
            cases hnominal : profile.cycleTargetMinutes with
            | none => simp [RegisteredRun.new, toStart, hnominal]
            | some nominal =>
                exact absurd
                  (Profile.cycleTargetMinutes_eq_some_iff.mp hnominal).1
                  hother }
    · -- A cycling profile, for longer or shorter.
      have hall := (hpicked _ rfl).1
      have htarget : (RegisteredRun.new registry (toStart registry .endurance
          none (some (Supervision.seconds (minutes * 60))) id) ids).cycleTarget
            = some (Supervision.seconds (minutes * 60)) :=
        congrArg some (min_seconds_eq hmax)
      exact
        { named := fun hnamed => absurd rfl hnamed
          picked := by simp [hnames]
          cycled := by
            intro other hother
            obtain rfl := Option.some.inj (hminutes.symm.trans hother)
            exact ⟨hprofile, hmin, hmax, htarget⟩
          shortened := fun _ _ _ => congrArg _ hall
          once := by simp [hminutes] }
  · -- Modules of the caller's own choice.
    have hrequested : (toStart registry profile (some picked) duration
        id).requestedModules = some picked := by
      simp [toStart]
    have hcustom : (toStart registry profile (some picked) duration
        id).profile = .custom := by
      simp [toStart]
    obtain ⟨hall, hknown⟩ := hpicked picked hrequested
    rcases parseDuration_eq_ok hduration with
      ⟨hminutes, rfl⟩ | ⟨minutes, hminutes, rfl, hmin, hmax, rfl⟩
    · exact
        { named := fun hnamed => absurd hcustom hnamed
          picked := by
            intro other hother
            obtain rfl := Option.some.inj (hnames.symm.trans hother)
            exact ⟨picked, hparsed, hknown, congrArg _ hall⟩
          cycled := by simp [hminutes]
          shortened := by simp [hminutes]
          once := by
            intro _ _
            rw [RegisteredRun.new, hcustom]
            rfl }
    · have htarget : (RegisteredRun.new registry (toStart registry .endurance
          (some picked) (some (Supervision.seconds (minutes * 60))) id)
            ids).cycleTarget = some (Supervision.seconds (minutes * 60)) :=
        congrArg some (min_seconds_eq hmax)
      exact
        { named := fun hnamed => absurd hcustom hnamed
          picked := by
            intro other hother
            obtain rfl := Option.some.inj (hnames.symm.trans hother)
            exact ⟨picked, hparsed, hknown, congrArg _ hall⟩
          cycled := by
            intro other hother
            obtain rfl := Option.some.inj (hminutes.symm.trans hother)
            exact ⟨hprofile, hmin, hmax, htarget⟩
          shortened := by simp [hnames]
          once := by simp [hminutes] }

end CreateRunRequest

/-! ## Whole runs of the server -/

namespace AppState

variable {s t : AppState}

theorem createRun_eq_ok {call : ApiCall} {request : CreateRunRequest}
    {id : RunId} {manager : RunManager}
    (h : s.createRun call request id = .ok manager) :
    ∃ start, call.Bears s.token ∧
      request.resolve s.manager.registry id = .ok start ∧
      s.manager.start start = .ok manager := by
  obtain ⟨_, hrequire, h⟩ := exists_of_bind_eq_ok h
  obtain ⟨start, hstart, h⟩ := exists_of_bind_eq_ok h
  exact ⟨start, (call.require_mutating_iff s.token).mp hrequire, hstart,
    exists_of_mapError_eq_ok h⟩

theorem cancelRun_eq_ok {call : ApiCall} {runId : String} {run : ℕ}
    (h : s.cancelRun call runId = .ok run) :
    call.Bears s.token ∧ run ∈ s.manager.runs := by
  obtain ⟨_, hrequire, h⟩ := exists_of_bind_eq_ok h
  obtain ⟨id, hid, h⟩ := exists_of_bind_eq_ok h
  refine ⟨(call.require_mutating_iff s.token).mp hrequire, ?_⟩
  split at h
  · next found hfound =>
      obtain rfl := Except.ok.inj h
      exact List.mem_of_find?_eq_some hfound
  · exact absurd h (by simp [throw, throwThe, MonadExceptOf.throw])

/-- The task of a run never starts another. -/
theorem step_task {action : RunManager.Action}
    (h : s.step (.task action) = some t) :
    (∀ request, action ≠ .start request) ∧
      ∃ manager, s.manager.step action = some manager ∧
        t = { s with manager := manager } := by
  cases action with
  | start request => exact absurd h (by simp [step])
  | _ =>
      obtain ⟨manager, hmanager, rfl⟩ := Option.map_eq_some_iff.mp h
      exact ⟨by simp, manager, hmanager, rfl⟩

/-- The run was created by a call that bears the token, and is labelled as what
that call asked for. -/
def Accountable (s : AppState) (run : ℕ) (handle : RegisteredRun) : Prop :=
  ∃ (call : ApiCall) (request : CreateRunRequest),
    s.created[run]? = some (call, request) ∧ call.Bears s.token ∧
      handle.Honest s.manager.registry request

/-- Every run is labelled as what its caller asked for, and only callers that
bear the token have created or cancelled any. -/
structure Invariant (s : AppState) : Prop where
  manager : s.manager.Invariant
  length_eq : s.created.length = s.manager.handles.length
  honest : ∀ (run : ℕ) (handle : RegisteredRun),
    s.manager.handles[run]? = some handle → s.Accountable run handle
  cancelled : ∀ run ∈ s.cancelled, run < s.manager.handles.length ∧
    ∃ call : ApiCall, (call, run) ∈ s.cancellations ∧ call.Bears s.token

namespace Invariant

theorem initial (h : s.Initial) : s.Invariant := by
  obtain ⟨hmanager, hcancelled, hcreated, -⟩ := h
  have hhandles := hmanager.1
  exact
    { manager := .initial hmanager
      length_eq := by rw [hcreated, hhandles]; rfl
      honest := by simp [hhandles]
      cancelled := by simp [hcancelled] }

theorem create (h : s.Invariant) {call : ApiCall}
    {request : CreateRunRequest} {id : RunId} {manager : RunManager}
    (hcreate : s.createRun call request id = .ok manager) :
    Invariant { s with
      manager := manager
      created := s.created ++ [(call, request)] } := by
  obtain ⟨start, hbears, hresolve, hstart⟩ := createRun_eq_ok hcreate
  obtain ⟨ids, hids, hhandles, hregistry⟩ := RunManager.start_eq_ok hstart
  exact
    { manager := h.manager.start hstart
      length_eq := by
        rw [hhandles, List.length_append, List.length_append, h.length_eq]
        rfl
      honest := by
        intro run handle hget
        dsimp only at hget
        rw [hhandles] at hget
        rw [Accountable]
        dsimp only
        rw [hregistry]
        by_cases hlt : run < s.manager.handles.length
        · rw [List.getElem?_append_left hlt] at hget
          rw [List.getElem?_append_left (h.length_eq.symm ▸ hlt)]
          exact h.honest run handle hget
        · have hbound := (List.getElem?_eq_some_iff.mp hget).1
          rw [List.length_append, List.length_singleton] at hbound
          have hrun : run = s.manager.handles.length := by omega
          rw [hrun, List.getElem?_concat_length] at hget
          obtain rfl := Option.some.inj hget
          refine ⟨call, request, ?_, hbears,
            CreateRunRequest.honest_new hresolve hids⟩
          rw [hrun, ← h.length_eq, List.getElem?_concat_length]
      cancelled := by
        intro run hrun
        obtain ⟨hlt, hcall⟩ := h.cancelled run hrun
        refine ⟨?_, hcall⟩
        dsimp only
        rw [hhandles, List.length_append]
        exact Nat.lt_add_right _ hlt }

theorem cancel (h : s.Invariant) {call : ApiCall} {runId : String} {run : ℕ}
    (hcancel : s.cancelRun call runId = .ok run) :
    Invariant { s with
      cancelled := run :: s.cancelled
      cancellations := (call, run) :: s.cancellations } := by
  obtain ⟨hbears, hmem⟩ := cancelRun_eq_ok hcancel
  exact
    { manager := h.manager
      length_eq := h.length_eq
      honest := h.honest
      cancelled := by
        intro other hother
        rcases List.mem_cons.mp hother with rfl | hother
        · exact ⟨h.manager.bounded _ hmem, call, List.mem_cons_self, hbears⟩
        · obtain ⟨hlt, earlier, hearlier, htoken⟩ := h.cancelled other hother
          exact ⟨hlt, earlier, List.mem_cons_of_mem _ hearlier, htoken⟩ }

theorem task (h : s.Invariant) {action : RunManager.Action}
    (hno : ∀ request, action ≠ .start request) {manager : RunManager}
    (hstep : s.manager.step action = some manager) :
    Invariant { s with manager := manager } := by
  have hsame := RunManager.sameRuns_step hno hstep
  exact
    { manager := h.manager.step hstep
      length_eq := h.length_eq.trans hsame.length_eq.symm
      honest := by
        intro run handle hget
        obtain ⟨earlier, hearlier, hrun⟩ := hsame.sameRun run handle hget
        obtain ⟨call, request, hcreated, hbears, hhonest⟩ :=
          h.honest run earlier hearlier
        refine ⟨call, request, hcreated, hbears, ?_⟩
        dsimp only
        rw [hsame.registry_eq]
        exact hhonest.of_sameRun hrun
      cancelled := by
        intro run hrun
        obtain ⟨hlt, hcall⟩ := h.cancelled run hrun
        exact ⟨hsame.length_eq.symm ▸ hlt, hcall⟩ }

theorem step (h : s.Invariant) {action : Action}
    (hstep : s.step action = some t) :
    t.Invariant := by
  cases action with
  | createRun call request id =>
      rw [AppState.step] at hstep
      split at hstep
      · exact absurd hstep (by simp)
      · split at hstep
        · obtain rfl := Option.some.inj hstep
          exact h
        · next manager hcreate =>
            obtain rfl := Option.some.inj hstep
            exact h.create hcreate
  | cancelRun call runId =>
      rw [AppState.step] at hstep
      split at hstep
      · obtain rfl := Option.some.inj hstep
        exact h
      · next run hcancel =>
          obtain rfl := Option.some.inj hstep
          exact h.cancel hcancel
  | task action =>
      obtain ⟨hno, manager, hmanager, rfl⟩ := step_task hstep
      exact h.task hno hmanager

end Invariant

/-- A call without the token in its `Authorization` header changes nothing. -/
theorem step_of_not_bears {call : ApiCall} (hbears : ¬ call.Bears s.token) :
    (∀ request id, s.step (.createRun call request id) = some t → t = s) ∧
      ∀ runId, s.step (.cancelRun call runId) = some t → t = s := by
  constructor
  · intro request id hstep
    rw [step] at hstep
    split at hstep
    · exact absurd hstep (by simp)
    · split at hstep
      · exact (Option.some.inj hstep).symm
      · next manager hcreate =>
          obtain ⟨-, h, -⟩ := createRun_eq_ok hcreate
          exact absurd h hbears
  · intro runId hstep
    rw [step] at hstep
    split at hstep
    · exact (Option.some.inj hstep).symm
    · next run hcancel => exact absurd (cancelRun_eq_ok hcancel).1 hbears

def enduranceRegistry : Registry where
  modules := [⟨⟨"cpu.mixed", ModuleId.check_cpuMixed⟩, "1.0.0"⟩]
  modulesForProfile _ := [⟨"cpu.mixed", ModuleId.check_cpuMixed⟩]

def shortToken : AccessToken := ⟨"secret".toList⟩

def operator : ApiCall where
  headers :=
    { authorization := some "Bearer secret".toList
      cookie := none
      forwardedProto := none }
  queryToken := none

def tenMinutes : CreateRunRequest where
  profile := some "endurance"
  modules := none
  durationMinutes := some 10

def freshServer : AppState where
  manager :=
    { registry := enduranceRegistry
      handles := []
      runs := []
      onDisk := []
      critical := none
      evictions := [] }
  token := shortToken
  cancelled := []
  created := []
  cancellations := []

def runZeros : RunId :=
  ⟨"run_00000000000000000000000000000000", RunId.check_zeros⟩

theorem isSome_tenMinutes : (freshServer.step
    (.createRun operator tenMinutes runZeros)).isSome = true := by
  decide +kernel

def afterTenMinutes : AppState :=
  (freshServer.step (.createRun operator tenMinutes runZeros)).get
    isSome_tenMinutes

theorem reachable_afterTenMinutes : system.Reachable afterTenMinutes := by
  have hinitial : freshServer.Initial :=
    ⟨⟨rfl, rfl, rfl, rfl⟩, rfl, rfl, rfl⟩
  have hstep : system.step freshServer
      (.createRun operator tenMinutes runZeros) = some afterTenMinutes :=
    (Option.some_get _).symm
  exact .step (.initial hinitial) trivial hstep

example : (afterTenMinutes.manager.handles[0]?.map fun handle =>
    (handle.profile, handle.cycleTarget)) =
      some (.custom, some (Supervision.seconds 600)) := by
  decide +kernel

end AppState

end Darcbench
