import Darcbench.Support.IpAddr
import Darcbench.Support.Words
import Mathlib.Data.Finset.Basic

/-!
# Sandboxes

A module that needs a service starts it in a container of its own.  The program
that controls the containers is run once for every command, and every command
may fail or take too long, whatever it has brought about.
-/

namespace Darcbench

namespace Container

def firstLine (text : String) : String :=
  (((Words.lines text.toList).map Words.trim).find? (!·.isEmpty)).elim
    "no output" String.ofList

/-! ## The program that controls the containers -/

/-- What a program has printed, and its exit status if it was not killed. -/
structure Output where
  stdout : String
  stderr : String
  status : Option ℤ
  elapsed : ℕ

def Output.succeeded (output : Output) : Bool :=
  output.status = some 0

inductive ExecError where
  | spawn (path source : String)
  | timeout (path : String) (seconds : ℕ)
  | read (path source : String)

inductive ContainerError where
  | imageNotPinned (key resolveFrom blockedBy : String)
  | start (runtime detail : String)
  | noPort (port : ℕ)
  | notReady (waited : ℕ) (log : String)
  | exited (status : String) (waited : ℕ) (log : String)
  | exec (runtime : String) (source : ExecError)

/-- A command about the container of a given name. -/
inductive Command where
  | run (name : String) (args : List String)
  | port (name spec : String)
  | exec (name : String) (argv : List String)
  | inspect (name : String)
  | logs (name : String)
  | rm (name : String)

/-- The arguments of the program. -/
def Command.args : Command → List String
  | run _ args => args
  | port name spec => ["port", name, spec]
  | exec name argv => ["exec", name] ++ argv
  | inspect name =>
      let field (key : String) := "\x7b\x7b.State." ++ key ++ "\x7d\x7d"
      ["inspect", "--format", field "Status" ++ " " ++ field "ExitCode", name]
  | logs name => ["logs", "--tail", "12", name]
  | rm name => ["rm", "-f", "-v", name]

/-- The command is reported to have succeeded. -/
def reportsSuccess : Except ExecError Output → Bool
  | .ok output => output.succeeded
  | .error _ => false

/-- What a command leads to. -/
structure Outcome where
  result : Except ExecError Output
  /-- A `run` that reports no success has created the container. -/
  created : Bool
  elapsed : ℕ

/-- The containers of the host and the clock, with all that is to come. -/
structure World where
  containers : Finset String
  /-- Nanoseconds on the monotonic clock. -/
  now : ℕ
  issued : List (Command × Except ExecError Output)
  /-- What the commands lead to, by their numbers. -/
  outcome : ℕ → Outcome
  /-- Whether a connection is accepted, and how long that takes, by the time of
  the attempt. -/
  connects : ℕ → Bool × ℕ
  /-- What is slept beyond what was asked for, by the time. -/
  oversleep : ℕ → ℕ

/-- What a command does to the containers.  One that is removed is gone,
whatever is reported. -/
def Command.effect (outcome : Outcome) (containers : Finset String) :
    Command → Finset String
  | run name _ =>
      if reportsSuccess outcome.result || outcome.created then
        insert name containers
      else containers
  | rm name => containers.erase name
  | port _ _ | exec _ _ | inspect _ | logs _ => containers

namespace World

def perform (w : World) (command : Command) :
    World × Except ExecError Output :=
  let outcome := w.outcome w.issued.length
  ({ w with
      containers := command.effect outcome w.containers
      now := w.now + outcome.elapsed
      issued := w.issued ++ [(command, outcome.result)] },
    outcome.result)

def connect (w : World) : World × Bool :=
  ({ w with now := w.now + (w.connects w.now).2 }, (w.connects w.now).1)

/-- A port that was reached once is not tried again. -/
def reach (w : World) (portReachable : Bool) : World × Bool :=
  if portReachable then (w, true) else w.connect

def sleep (w : World) (duration : ℕ) : World :=
  { w with now := w.now + duration + w.oversleep w.now }

/-- Removes one container, best effort. -/
def remove (w : World) (name : String) : World :=
  (w.perform (.rm name)).1

/-- Time has passed, and the containers are as they were. -/
structure Waits (w w' : World) : Prop where
  containers : w'.containers = w.containers
  now_le : w.now ≤ w'.now

theorem Waits.refl (w : World) : w.Waits w :=
  ⟨rfl, le_rfl⟩

theorem Waits.trans {w w' w'' : World} (h : w.Waits w') (h' : w'.Waits w'') :
    w.Waits w'' :=
  ⟨h'.containers.trans h.containers, h.now_le.trans h'.now_le⟩

/-- Commands that only ask leave the containers as they are. -/
theorem waits_perform (w : World) {command : Command}
    (h : ∀ outcome containers,
      command.effect outcome containers = containers) :
    w.Waits (w.perform command).1 :=
  ⟨h _ _, Nat.le_add_right _ _⟩

theorem waits_reach (w : World) (portReachable : Bool) :
    w.Waits (w.reach portReachable).1 := by
  cases portReachable with
  | true => exact .refl w
  | false => exact ⟨rfl, Nat.le_add_right _ _⟩

theorem waits_sleep (w : World) (duration : ℕ) :
    w.Waits (w.sleep duration) :=
  ⟨rfl, (Nat.le_add_right _ _).trans (Nat.le_add_right _ _)⟩

@[simp] theorem containers_remove (w : World) (name : String) :
    (w.remove name).containers = w.containers.erase name :=
  rfl

end World

/-! ## Images -/

inductive Pin where
  | pinned (reference : String)
  | pending (resolveFrom blockedBy : String)

/-- An image that may be run. -/
structure Image where
  key : String
  pin : Pin
  servicePort : ℕ
  dataDir : String
  runAs : ℕ × ℕ
  dataOnTmpfs : Bool
  sysctls : List String
  readyProbe : List String

/-- The reference to run, or the reason there is not one. -/
def Image.reference (image : Image) : Except ContainerError String :=
  match image.pin with
  | .pinned reference => .ok reference
  | .pending resolveFrom blockedBy =>
      .error (.imageNotPinned image.key resolveFrom blockedBy)

/-- What a caller may vary about a launch. -/
structure Launch where
  env : List String
  command : List String
  network : Option String

def ownerLabel : String := "com.getdarc.darcbench.owned=1"

def tmpfsSizeBytes : ℕ := 512 * 1024 * 1024

def serviceMemoryBytes : ℕ := 512 * 1024 * 1024

/-- The data of a service and its working set are one budget. -/
def memoryLimit : String :=
  s!"{tmpfsSizeBytes + serviceMemoryBytes}b"

def runArgs (image : Image) (reference name : String) (options : Launch) :
    List String :=
  let (uid, gid) := image.runAs
  ["run", "--detach", "--name", name, "--label", ownerLabel, "--user",
      s!"{uid}:{gid}", "--memory", memoryLimit, "--memory-swap", memoryLimit,
      "--pids-limit", "512", "--security-opt", "no-new-privileges",
      "--cap-drop", "ALL"] ++
    (if image.servicePort ≠ 0 then
      ["--publish", s!"127.0.0.1::{image.servicePort}"]
    else []) ++
    (options.network.elim [] fun network =>
      ["--network", network, "--network-alias", image.key]) ++
    image.sysctls.flatMap (fun sysctl => ["--sysctl", sysctl]) ++
    (if image.dataOnTmpfs then
      ["--tmpfs", s!"{image.dataDir}:rw,size={tmpfsSizeBytes}," ++
        s!"mode=0700,uid={uid},gid={gid}"]
    else []) ++
    options.env.flatMap (fun pair => ["--env", pair]) ++
    [reference] ++ options.command

/-- The filtered form of a run id. -/
def safeSuffix (runId : String) : String :=
  .ofList ((runId.toList.filter fun c =>
    c.isAlphanum || c = '_' || c = '-').take 48)

/-- The container's name: this agent, this run, this image. -/
def containerName (runId key : String) : String :=
  s!"darcbench-{safeSuffix runId}-{key}"

/-! ## The address of a service -/

structure SocketAddr where
  ip : IpAddr
  port : ℕ

/-- The loopback address in a line such as `127.0.0.1:49154`. -/
def loopbackBinding? (line : List Char) : Option SocketAddr := do
  let (host, port) ← Words.rsplitOnce ':' (Words.trim line)
  let host := host.dropWhile (· = '[')
  let host := (host.reverse.dropWhile (· = ']')).reverse
  let ip ← IpAddr.parse host
  let port ← Words.parseU16 (Words.trim port)
  if ip.isLoopback then some ⟨ip, port⟩ else none

theorem isLoopback_of_loopbackBinding? {line : List Char}
    {address : SocketAddr} (h : loopbackBinding? line = some address) :
    address.ip.isLoopback = true := by
  simp only [loopbackBinding?, Option.bind_eq_bind,
    Option.bind_eq_some_iff] at h
  obtain ⟨_, _, ip, _, port, _, h⟩ := h
  rw [Option.ite_none_right_eq_some, Option.some_inj] at h
  obtain ⟨hloopback, rfl⟩ := h
  exact hloopback

/-- Asks on which loopback port the service was published.  Only a loopback
binding is accepted. -/
def publishedPort (runtime : String) (w : World) (name : String)
    (servicePort : ℕ) : World × Except ContainerError SocketAddr :=
  match w.perform (.port name s!"{servicePort}/tcp") with
  | (w, .error source) => (w, .error (.exec runtime source))
  | (w, .ok output) =>
      match (Words.lines output.stdout.toList).findSome? loopbackBinding? with
      | some address => (w, .ok address)
      | none => (w, .error (.noPort servicePort))

/-! ## A sandbox -/

/-- A running, isolated service. -/
structure Sandbox where
  runtime : String
  name : String
  address : SocketAddr
  readyProbe : List String

namespace Sandbox

def readyTimeout : ℕ := 90 * 10 ^ 9

def livenessPoll : ℕ := 10 ^ 9

def logExcerptBytes : ℕ := 1024

/-- Dropping a sandbox removes its container. -/
def drop (s : Sandbox) (w : World) : World :=
  w.remove s.name

/-- Whether the image's own readiness command says that the service is serving.
A probe that could not be run says no. -/
def probeSaysReady (s : Sandbox) (w : World) : World × Bool :=
  let (w, result) := w.perform (.exec s.name s.readyProbe)
  (w, reportsSuccess result)

/-- The status of a container that is no longer running.  An inspection that
fails is not evidence of that. -/
def exitedStatus (s : Sandbox) (w : World) : World × Option String :=
  match w.perform (.inspect s.name) with
  | (w, .error _) => (w, none)
  | (w, .ok output) =>
      let status? :=
        (Words.splitOnce ' ' (Words.trim output.stdout.toList)).bind
          fun (state, code) =>
            let state := String.ofList state
            if state ∈ ["running", "created", "restarting"] then none
            else some s!"{state} ({String.ofList code})"
      (w, status?)

/-- The lines of a log in one, cut to a size that an error message can hold. -/
def logExcerpt (output : Output) : String :=
  let both := Words.trimEnd output.stdout.toList ++
    '\n' :: Words.trimEnd output.stderr.toList
  let told := (Words.lines both).filter fun line =>
    !(Words.trim line).isEmpty
  let text := [' ', '|', ' '].intercalate told
  let excerpt :=
    if logExcerptBytes < (String.ofList text).utf8ByteSize then
      Words.takeBytes logExcerptBytes text ++ " [...]".toList
    else text
  if excerpt.isEmpty then "the container printed nothing before it exited"
  else .ofList excerpt

/-- The tail of the container's own log, for an error message. -/
def lastLogLines (s : Sandbox) (w : World) : World × String :=
  let (w, result) := w.perform (.logs s.name)
  match result with
  | .error _ => (w, "the runtime would not return the container's log")
  | .ok output => (w, logExcerpt output)

/-- How one pass of the readiness loop ends. -/
inductive Pass where
  | ready
  | exited (status : String)
  | waiting (portReachable : Bool)

/-- Asks the service, if its port is reachable. -/
def ask (s : Sandbox) (w : World) (portReachable : Bool) : World × Bool :=
  if portReachable then s.probeSaysReady w else (w, false)

/-- One pass.  The service is not asked before its port was reached. -/
def pass (s : Sandbox) (w : World) (portReachable : Bool) : World × Pass :=
  let reached := w.reach portReachable
  let asked := s.ask reached.1 reached.2
  if asked.2 then (asked.1, .ready)
  else
    let inspected := s.exitedStatus asked.1
    (inspected.1, inspected.2.elim (.waiting reached.2) .exited)

/-- A container that is given up is removed behind its log. -/
def giveUp (s : Sandbox) (w : World) (error : World → String → ContainerError) :
    World × Except ContainerError Unit :=
  let told := s.lastLogLines w
  let w := told.1.remove s.name
  (w, .error (error w told.2))

theorem waits_probeSaysReady (s : Sandbox) (w : World) :
    w.Waits (s.probeSaysReady w).1 :=
  w.waits_perform fun _ _ => rfl

theorem waits_exitedStatus (s : Sandbox) (w : World) :
    w.Waits (s.exitedStatus w).1 := by
  have hinspect : w.Waits (w.perform (.inspect s.name)).1 :=
    w.waits_perform fun _ _ => rfl
  rw [exitedStatus]
  split <;> next h => rwa [h] at hinspect

theorem waits_ask (s : Sandbox) (w : World) (portReachable : Bool) :
    w.Waits (s.ask w portReachable).1 := by
  cases portReachable with
  | true => exact s.waits_probeSaysReady w
  | false => exact .refl w

/-- A pass only asks. -/
theorem waits_pass (s : Sandbox) (w : World) (portReachable : Bool) :
    w.Waits (s.pass w portReachable).1 := by
  have hasked := (w.waits_reach portReachable).trans
    (s.waits_ask _ (w.reach portReachable).2)
  rw [pass]
  dsimp only
  split
  · exact hasked
  · exact hasked.trans (s.waits_exitedStatus _)

/-- Polls until the service is serving, the container dies, or the deadline
passes. -/
def waitReadyFrom (s : Sandbox) (started : ℕ) (w : World)
    (portReachable : Bool) : World × Except ContainerError Unit :=
  if w.now < started + readyTimeout then
    let passed := s.pass w portReachable
    match passed.2 with
    | .ready => (passed.1, .ok ())
    | .exited status =>
        s.giveUp passed.1 fun w log => .exited status (w.now - started) log
    | .waiting reached =>
        s.waitReadyFrom started (passed.1.sleep livenessPoll) reached
  else s.giveUp w fun _ log => .notReady readyTimeout log
termination_by started + readyTimeout - w.now
decreasing_by
  have hle := (s.waits_pass w portReachable).now_le
  simp only [World.sleep, livenessPoll]
  omega

def waitReady (s : Sandbox) (w : World) :
    World × Except ContainerError Unit :=
  s.waitReadyFrom w.now w false

/-! ### How the waiting ends -/

/-- The last command asked the service, which said that it is serving. -/
def Probed (s : Sandbox) (w : World) : Prop :=
  ∃ output, w.issued.getLast? =
      some (.exec s.name s.readyProbe, .ok output) ∧
    output.succeeded = true

theorem probed_of_ask {s : Sandbox} {w : World} {portReachable : Bool}
    (h : (s.ask w portReachable).2 = true) :
    s.Probed (s.ask w portReachable).1 := by
  cases portReachable with
  | false => exact absurd h Bool.false_ne_true
  | true =>
      have hresult : reportsSuccess (w.outcome w.issued.length).result =
          true := h
      cases houtput : (w.outcome w.issued.length).result with
      | error e =>
          rw [houtput] at hresult
          exact absurd hresult Bool.false_ne_true
      | ok output =>
          rw [houtput] at hresult
          refine ⟨output, ?_, hresult⟩
          rw [← houtput]
          exact List.getLast?_concat

theorem probed_of_pass {s : Sandbox} {w : World} {portReachable : Bool}
    (h : (s.pass w portReachable).2 = .ready) :
    s.Probed (s.pass w portReachable).1 := by
  rw [pass] at h ⊢
  dsimp only at h ⊢
  split at h
  · next hasked =>
      rw [if_pos hasked]
      exact probed_of_ask hasked
  · cases hstatus : (s.exitedStatus _).2 <;> rw [hstatus] at h <;> cases h

theorem waits_lastLogLines (s : Sandbox) (w : World) :
    w.Waits (s.lastLogLines w).1 := by
  have hlogs : w.Waits (w.perform (.logs s.name)).1 :=
    w.waits_perform fun _ _ => rfl
  rw [lastLogLines]
  dsimp only
  split <;> exact hlogs

/-- A sandbox that serves is left as it was, and one that is given up is
gone. -/
def Settles (s : Sandbox) (w : World) :
    World × Except ContainerError Unit → Prop
  | (w', .ok ()) => w.Waits w' ∧ s.Probed w'
  | (w', .error _) => w'.containers = w.containers.erase s.name

theorem Settles.of_waits {s : Sandbox} {w w' : World} (h : w.Waits w')
    {ended : World × Except ContainerError Unit} (hended : s.Settles w' ended) :
    s.Settles w ended := by
  obtain ⟨w'', _ | _⟩ := ended
  · exact (show w''.containers = _ from hended).trans (by rw [h.containers])
  · exact ⟨h.trans hended.1, hended.2⟩

theorem settles_giveUp (s : Sandbox) (w : World)
    (error : World → String → ContainerError) :
    s.Settles w (s.giveUp w error) :=
  congrArg (Finset.erase · s.name) (s.waits_lastLogLines w).containers

theorem settles_waitReadyFrom (s : Sandbox) (started : ℕ) (w : World)
    (portReachable : Bool) :
    s.Settles w (s.waitReadyFrom started w portReachable) := by
  fun_induction waitReadyFrom s started w portReachable with
  | case1 w portReachable hnow passed hready =>
      exact ⟨s.waits_pass w portReachable, probed_of_pass hready⟩
  | case2 w portReachable hnow passed status hexited =>
      exact .of_waits (s.waits_pass w portReachable) (s.settles_giveUp _ _)
  | case3 w portReachable hnow passed reached hwaiting ih =>
      exact .of_waits (s.waits_pass w portReachable)
        (.of_waits (passed.1.waits_sleep _) ih)
  | case4 w portReachable hnow => exact s.settles_giveUp w _

theorem settles_waitReady (s : Sandbox) (w : World) :
    s.Settles w (s.waitReady w) :=
  s.settles_waitReadyFrom w.now w false

/-! ## Launching -/

/-- Starts an image and returns as soon as its port is published. -/
def launchWithoutWaiting (runtime : String) (image : Image) (runId : String)
    (options : Launch) (w : World) : World × Except ContainerError Sandbox :=
  match image.reference with
  | .error error => (w, .error error)
  | .ok reference =>
      let name := containerName runId image.key
      let started :=
        w.perform (.run name (runArgs image reference name options))
      match started.2 with
      | .error source => (started.1, .error (.exec runtime source))
      | .ok output =>
          if output.succeeded then
            let published :=
              publishedPort runtime started.1 name image.servicePort
            match published.2 with
            | .ok address =>
                (published.1, .ok ⟨runtime, name, address, image.readyProbe⟩)
            | .error error => (published.1.remove name, .error error)
          else
            (started.1,
              .error (.start runtime
                (firstLine (output.stderr ++ output.stdout))))

/-- A sandbox that is not returned is dropped. -/
def returnOrDrop (s : Sandbox) :
    World × Except ContainerError Unit → World × Except ContainerError Sandbox
  | (w, .ok ()) => (w, .ok s)
  | (w, .error error) => (s.drop w, .error error)

/-- Starts an image and waits for its service. -/
def launchWith (runtime : String) (image : Image) (runId : String)
    (options : Launch) (w : World) : World × Except ContainerError Sandbox :=
  let launched := launchWithoutWaiting runtime image runId options w
  match launched.2 with
  | .error error => (launched.1, .error error)
  | .ok s => s.returnOrDrop (s.waitReady launched.1)

/-- The sandbox of a launch: its container exists beside those that were there,
its service has said that it is serving, its address is local, and dropping it
removes the container. -/
structure Launched (image : Image) (runId : String) (w w' : World)
    (s : Sandbox) : Prop where
  name : s.name = containerName runId image.key
  containers : w'.containers = insert s.name w.containers
  readyProbe : s.readyProbe = image.readyProbe
  probed : s.Probed w'
  loopback : s.address.ip.isLoopback = true
  dropped : (s.drop w').containers = w.containers.erase s.name

/-- A failed launch leaves no container of its name, and another one has a
sandbox. -/
def LeavesNothing (image : Image) (runId : String) (w : World) :
    World × Except ContainerError Sandbox → Prop
  | (w', .error _) => containerName runId image.key ∉ w'.containers
  | (w', .ok s) => Launched image runId w w' s

/-- The command that starts the container reports success, or there is no
container of its name behind it.  An image that cannot be run starts
nothing. -/
def StartsOrLeavesNothing (image : Image) (runId : String) (options : Launch)
    (w : World) : Prop :=
  let name := containerName runId image.key
  match image.reference with
  | .error _ => name ∉ w.containers
  | .ok reference =>
      let started :=
        w.perform (.run name (runArgs image reference name options))
      reportsSuccess started.2 = true ∨ name ∉ started.1.containers

theorem waits_publishedPort (runtime : String) (w : World) (name : String)
    (servicePort : ℕ) :
    w.Waits (publishedPort runtime w name servicePort).1 := by
  have hport : w.Waits (w.perform (.port name s!"{servicePort}/tcp")).1 :=
    w.waits_perform fun _ _ => rfl
  rw [publishedPort]
  split
  · next h => rwa [h] at hport
  · next h =>
      rw [h] at hport
      split <;> exact hport

theorem isLoopback_of_publishedPort {runtime : String} {w : World}
    {name : String} {servicePort : ℕ} {address : SocketAddr}
    (h : (publishedPort runtime w name servicePort).2 = .ok address) :
    address.ip.isLoopback = true := by
  rw [publishedPort] at h
  split at h
  · cases h
  · split at h
    · next hfind =>
        obtain rfl := Except.ok.inj h
        obtain ⟨line, -, hline⟩ := List.exists_of_findSome?_eq_some hfind
        exact isLoopback_of_loopbackBinding? hline
    · cases h

section Launch

variable {runtime runId : String} {image : Image} {options : Launch} {w : World}

/-- A sandbox that was started is waited for, or it is gone. -/
theorem leavesNothing_of_started {s : Sandbox} {started : World}
    (hname : s.name = containerName runId image.key)
    (hprobe : s.readyProbe = image.readyProbe)
    (hloopback : s.address.ip.isLoopback = true)
    (hstarted : started.containers = insert s.name w.containers) :
    LeavesNothing image runId w (s.returnOrDrop (s.waitReady started)) := by
  have hsettles := s.settles_waitReady started
  generalize s.waitReady started = waited at hsettles
  obtain ⟨w', error | ⟨⟩⟩ := waited
  · show containerName runId image.key ∉ (s.drop w').containers
    rw [← hname]
    exact Finset.notMem_erase s.name w'.containers
  · have hcontainers : w'.containers = insert s.name w.containers :=
      hsettles.1.containers.trans hstarted
    exact
      { name := hname
        containers := hcontainers
        readyProbe := hprobe
        probed := hsettles.2
        loopback := hloopback
        dropped := by
          rw [drop, World.containers_remove, hcontainers,
            Finset.erase_insert_eq_erase] }

/-- A launch leaves nothing behind it when it fails, and a sandbox otherwise,
exactly if the command that starts the container reports success or leaves
nothing. -/
theorem leavesNothing_launchWith_iff :
    LeavesNothing image runId w (launchWith runtime image runId options w) ↔
      StartsOrLeavesNothing image runId options w := by
  rw [launchWith, launchWithoutWaiting, StartsOrLeavesNothing]
  cases hreference : image.reference with
  | error error => exact Iff.rfl
  | ok reference =>
      dsimp only
      generalize hcommand : Command.run (containerName runId image.key)
        (runArgs image reference (containerName runId image.key) options) =
          command
      have hstarted : reportsSuccess (w.perform command).2 = true →
          (w.perform command).1.containers =
            insert (containerName runId image.key) w.containers := by
        intro hsuccess
        subst hcommand
        exact if_pos (by rw [Bool.or_eq_true]; exact .inl hsuccess)
      generalize w.perform command = started at hstarted ⊢
      obtain ⟨started, result⟩ := started
      cases result with
      | error source =>
          exact (or_iff_right Bool.false_ne_true).symm
      | ok output =>
          dsimp only
          by_cases hsuccess : output.succeeded = true
          · rw [if_pos hsuccess]
            refine iff_of_true ?_ (.inl hsuccess)
            have hcontainers := hstarted hsuccess
            have hpublished := waits_publishedPort runtime started
              (containerName runId image.key) image.servicePort
            cases hport : (publishedPort runtime started
                (containerName runId image.key) image.servicePort).2 with
            | error error =>
                exact Finset.notMem_erase _ _
            | ok address =>
                exact leavesNothing_of_started rfl rfl
                  (isLoopback_of_publishedPort hport)
                  (hpublished.containers.trans hcontainers)
          · rw [if_neg hsuccess]
            exact (or_iff_right hsuccess).symm

end Launch

/-! ## A container that is left behind -/

def anyImage : Image where
  key := "postgres"
  pin := .pinned "postgres@sha256:0"
  servicePort := 5432
  dataDir := "/var/lib/postgresql/data"
  runAs := (999, 999)
  dataOnTmpfs := true
  sysctls := []
  readyProbe := ["pg_isready"]

/-- A host on which the first command is killed after half a minute, behind the
creation of the container. -/
def slowHost : World where
  containers := ∅
  now := 0
  issued := []
  outcome _ :=
    { result := .error (.timeout "/usr/bin/docker" 30)
      created := true
      elapsed := 30 * 10 ^ 9 }
  connects _ := (false, 0)
  oversleep _ := 0

/-- The launch fails, and the container is there. -/
theorem not_leavesNothing_slowHost :
    ¬ LeavesNothing anyImage "run_1" slowHost
      (launchWith "/usr/bin/docker" anyImage "run_1" ⟨[], [], none⟩
        slowHost) := by
  rw [leavesNothing_launchWith_iff]
  rintro (hsuccess | hgone)
  · exact absurd hsuccess Bool.false_ne_true
  · exact hgone (Finset.mem_insert_self _ _)

end Sandbox

end Container

end Darcbench
