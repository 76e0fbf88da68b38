import Darcbench.Agent.Server

/-!
# What a run may touch

The profiles name their modules, and the one that repeats them leaves out the
module that transfers over the network: sustained load on somebody else's
servers has to be asked for by name.
-/

namespace Darcbench

/-! ## The modules of the profiles -/

/-- The modules that a profile names, in the order in which they run. -/
def Profile.moduleNames : Profile → List String
  | webOnly => ["web.static", "php.runtime", "node.runtime"]
  | readOnly => ["cpu.mixed", "memory.bandwidth"]
  | quick | endurance => ["cpu.mixed", "memory.bandwidth", "storage.mixed"]
  | standard | custom =>
      ["cpu.mixed", "memory.bandwidth", "storage.mixed", "network.transfer",
        "web.static"]
  | deep =>
      ["cpu.mixed", "memory.bandwidth", "storage.mixed", "network.transfer",
        "web.static", "php.runtime", "node.runtime", "database.oltp",
        "database.cache", "wordpress.site", "deployment.container"]

namespace Registry

/-- The module of a name, if this build has it. -/
def has (modules : List ModuleRef) (name : String) : Option ModuleId :=
  (ModuleId.fromStr name).toOption.filter fun id =>
    modules.any fun m => m.id == id

/-- A registry with these modules and the profiles of the source. -/
def withModules (modules : List ModuleRef) : Registry where
  modules := modules
  modulesForProfile profile := profile.moduleNames.filterMap (has modules)

/-- The profiles are those of the source, whatever modules there are. -/
def HasProfiles (registry : Registry) : Prop :=
  registry = withModules registry.modules

theorem fromStr_eq_ok {name : String} {id : ModuleId}
    (h : ModuleId.fromStr name = .ok id) :
    id.asStr = name := by
  rw [ModuleId.fromStr] at h
  split at h
  · rw [← Except.ok.inj h]
  · exact absurd h (by simp)

theorem asStr_of_has {modules : List ModuleRef} {name : String}
    {id : ModuleId} (h : has modules name = some id) :
    id.asStr = name := by
  obtain ⟨hparsed, -⟩ := Option.filter_eq_some_iff.mp h
  cases hname : ModuleId.fromStr name with
  | error e =>
      rw [hname] at hparsed
      exact absurd hparsed (by simp [Except.toOption])
  | ok other =>
      rw [hname] at hparsed
      obtain rfl := Option.some.inj hparsed
      exact fromStr_eq_ok hname

theorem asStr_mem_moduleNames {registry : Registry}
    (hprofiles : registry.HasProfiles) {profile : Profile} {id : ModuleId}
    (h : id ∈ registry.modulesForProfile profile) :
    id.asStr ∈ profile.moduleNames := by
  rw [hprofiles] at h
  obtain ⟨name, hname, hhas⟩ := List.mem_filterMap.mp h
  rw [asStr_of_has hhas]
  exact hname

theorem id_mem_of_get {registry : Registry} {ids : List ModuleId}
    {m : ModuleRef} (h : m ∈ ids.filterMap registry.get) :
    m.id ∈ ids := by
  obtain ⟨id, hid, hget⟩ := List.mem_filterMap.mp h
  have hfound := List.find?_some hget
  rw [beq_iff_eq] at hfound
  rw [hfound]
  exact hid

end Registry

/-- The ids that are parsed are the texts that were sent. -/
theorem CreateRunRequest.asStr_mem_of_mapM {names : List String}
    {ids : List ModuleId} (h : names.mapM parseModuleId = .ok ids)
    {id : ModuleId} (hid : id ∈ ids) :
    id.asStr ∈ names := by
  induction names generalizing ids with
  | nil =>
      obtain rfl := Except.ok.inj h
      exact absurd hid List.not_mem_nil
  | cons name names ih =>
      rw [List.mapM_cons] at h
      obtain ⟨first, hfirst, h⟩ := exists_of_bind_eq_ok h
      obtain ⟨rest, hrest, h⟩ := exists_of_bind_eq_ok h
      obtain rfl := Except.ok.inj h
      rcases List.mem_cons.mp hid with rfl | hid
      · have hparsed := exists_of_mapError_eq_ok hfirst
        rw [Registry.fromStr_eq_ok hparsed]
        exact List.mem_cons_self
      · exact List.mem_cons_of_mem _ (ih hrest hid)

/-! ## Sustained load on other servers -/

def networkTransfer : String := "network.transfer"

namespace RegisteredRun.Honest

variable {registry : Registry} {request : CreateRunRequest}
  {run : RegisteredRun}

/-- A run under the name of a profile runs modules that the profile names. -/
theorem asStr_mem_of_named (h : run.Honest registry request)
    (hprofiles : registry.HasProfiles) (hnamed : run.profile ≠ .custom)
    {m : ModuleRef} (hm : m ∈ run.modules) :
    m.id.asStr ∈ run.profile.moduleNames := by
  obtain ⟨-, -, -, hmodules, -⟩ := h.named hnamed
  rw [hmodules] at hm
  exact Registry.asStr_mem_moduleNames hprofiles (Registry.id_mem_of_get hm)

/-- A run that repeats its modules repeats those of the endurance profile, or
modules that its caller named together with a duration. -/
theorem asStr_mem_of_cycles (h : run.Honest registry request)
    (hprofiles : registry.HasProfiles)
    (hcycles : run.cycleTarget.isSome = true) {m : ModuleRef}
    (hm : m ∈ run.modules) :
    m.id.asStr ∈ Profile.endurance.moduleNames ∨
      ∃ names, request.modules = some names ∧ m.id.asStr ∈ names ∧
        request.durationMinutes.isSome = true := by
  cases hminutes : request.durationMinutes with
  | none =>
      -- Only the profile itself can make the run cycle.
      have hprofile : run.profile = .endurance := by
        by_contra hother
        rw [h.once hminutes hother] at hcycles
        exact absurd hcycles Bool.false_ne_true
      have hnamed : run.profile ≠ .custom := by
        rw [hprofile]
        exact fun heq => Profile.noConfusion heq
      left
      rw [← hprofile]
      exact h.asStr_mem_of_named hprofiles hnamed hm
  | some minutes =>
      cases hnames : request.modules with
      | none =>
          left
          rw [h.shortened minutes hminutes hnames] at hm
          exact Registry.asStr_mem_moduleNames hprofiles
            (Registry.id_mem_of_get hm)
      | some names =>
          obtain ⟨ids, hids, -, hmodules⟩ := h.picked names hnames
          rw [hmodules] at hm
          exact .inr ⟨names, rfl, CreateRunRequest.asStr_mem_of_mapM hids
            (Registry.id_mem_of_get hm), rfl⟩

end RegisteredRun.Honest

namespace AppState

/-- In every run of the server a benchmark under the name of a profile touches
nothing that the profile does not name, and a benchmark that repeats the
transfer over the network was asked to by a caller with the token who named
that module and a duration. -/
theorem sustained_transfer_is_asked_for (s : AppState)
    (h : system.Reachable s) (hprofiles : s.manager.registry.HasProfiles) :
    ∀ (run : ℕ) (handle : RegisteredRun),
      s.manager.handles[run]? = some handle → ∀ m ∈ handle.modules,
        (handle.profile ≠ .custom →
          m.id.asStr ∈ handle.profile.moduleNames) ∧
        (handle.cycleTarget.isSome = true → m.id.asStr = networkTransfer →
          ∃ (call : ApiCall) (request : CreateRunRequest)
            (names : List String),
            s.created[run]? = some (call, request) ∧ call.Bears s.token ∧
              request.modules = some names ∧ networkTransfer ∈ names ∧
              request.durationMinutes.isSome = true) := by
  have hinv : s.Invariant :=
    h.invariant (fun _ => Invariant.initial) fun _ _ _ hs _ ht => hs.step ht
  intro run handle hget m hm
  obtain ⟨call, request, hcreated, hbears, hhonest⟩ := hinv.honest run handle
    hget
  constructor
  · intro hnamed
    exact hhonest.asStr_mem_of_named hprofiles hnamed hm
  · intro hcycles hnetwork
    rcases hhonest.asStr_mem_of_cycles hprofiles hcycles hm with
      hendurance | ⟨names, hnames, hmem, hminutes⟩
    · rw [hnetwork] at hendurance
      exact absurd hendurance (by decide)
    · rw [hnetwork] at hmem
      exact ⟨call, request, names, hcreated, hbears, hnames, hmem, hminutes⟩

/-! ## A transfer for ten minutes -/

theorem check_networkTransfer : ModuleId.check networkTransfer = .ok () := by
  decide

def transferServer : AppState :=
  { freshServer with
    manager :=
      { freshServer.manager with
        registry :=
          .withModules
            [⟨⟨networkTransfer, check_networkTransfer⟩, "1.0.0"⟩] } }

def tenMinutesOfTransfer : CreateRunRequest where
  profile := some "endurance"
  modules := some [networkTransfer]
  durationMinutes := some 10

theorem isSome_tenMinutesOfTransfer : (transferServer.step
    (.createRun operator tenMinutesOfTransfer runZeros)).isSome = true := by
  decide +kernel

def afterTransfer : AppState :=
  (transferServer.step (.createRun operator tenMinutesOfTransfer
    runZeros)).get isSome_tenMinutesOfTransfer

theorem reachable_afterTransfer : system.Reachable afterTransfer := by
  have hinitial : transferServer.Initial :=
    ⟨⟨rfl, rfl, rfl, rfl⟩, rfl, rfl, rfl⟩
  have hstep : system.step transferServer
      (.createRun operator tenMinutesOfTransfer runZeros) =
        some afterTransfer :=
    (Option.some_get _).symm
  exact .step (.initial hinitial) trivial hstep

theorem transfer_afterTransfer :
    (afterTransfer.manager.handles[0]?.any fun handle =>
      handle.cycleTarget.isSome &&
        handle.modules.any fun m => m.id.asStr == networkTransfer) = true := by
  decide +kernel

theorem sustained_transfer_is_asked_for_afterTransfer :
    ∃ (call : ApiCall) (request : CreateRunRequest) (names : List String),
      afterTransfer.created[0]? = some (call, request) ∧
        call.Bears afterTransfer.token ∧
        request.modules = some names ∧ networkTransfer ∈ names ∧
        request.durationMinutes.isSome = true := by
  have htransfer := transfer_afterTransfer
  rw [Option.any_eq_true] at htransfer
  obtain ⟨handle, hget, hrun⟩ := htransfer
  rw [Bool.and_eq_true, List.any_eq_true] at hrun
  obtain ⟨hcycles, m, hm, hnetwork⟩ := hrun
  exact (sustained_transfer_is_asked_for afterTransfer
    reachable_afterTransfer rfl 0 handle hget m hm).2 hcycles
    (eq_of_beq hnetwork)

end AppState

end Darcbench
