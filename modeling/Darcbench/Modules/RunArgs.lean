import Darcbench.Modules.Container
import Darcbench.Support.Flags
import Mathlib.Data.Bool.AllAny

/-!
# The arguments of a container

Everything that isolates a container is in the arguments with which it is run.
There are two vectors of them, one for a service in the background and one for a
single command in the foreground.
-/

namespace Darcbench

open Flags (Item Reading isFlag)

namespace Container

/-! ## Images -/

/-- The name of an image with the digest of its contents. -/
structure DigestReference where
  repository : String
  digest : String
  named : (repository.toList.head?.any (·.isAlphanum)) = true
  hex : digest.length = 64 ∧ ∀ c ∈ digest.toList, c ∈ "0123456789abcdef".toList

def DigestReference.text (reference : DigestReference) : String :=
  reference.repository ++ "@sha256:" ++ reference.digest

/-- An image that can be run. -/
structure PinnedImage where
  image : Image
  reference : DigestReference
  pin_eq : image.pin = .pinned reference.text

theorem PinnedImage.reference_eq (pinned : PinnedImage) :
    pinned.image.reference = .ok pinned.reference.text := by
  rw [Image.reference, pinned.pin_eq]

/-! ## A command in the foreground -/

/-- What a caller may vary about a single command. -/
structure Ephemeral where
  env : List String
  network : Option String
  volumesFrom : Option String
  stdin : Option (List UInt8)

def ephemeralRunArgs (image : Image) (reference name : String)
    (argv : List String) (options : Ephemeral) : List String :=
  let (uid, gid) := image.runAs
  ["run", "--rm", "--name", name, "--label", ownerLabel, "--user",
      s!"{uid}:{gid}", "--memory", memoryLimit, "--memory-swap", memoryLimit,
      "--pids-limit", "512", "--security-opt", "no-new-privileges",
      "--cap-drop", "ALL"] ++
    (if options.stdin.isSome then ["--interactive"] else []) ++
    (options.network.elim ["--network", "none"] fun network =>
      ["--network", network]) ++
    (options.volumesFrom.elim [] fun container =>
      ["--volumes-from", container]) ++
    options.env.flatMap (fun pair => ["--env", pair]) ++
    [reference] ++ argv

/-! ## How the vectors are read -/

/-- The flags that stand alone. -/
def isSwitch (flag : String) : Bool :=
  flag == "--detach" || flag == "--rm" || flag == "--interactive"

/-- What the runtime reads behind its subcommand. -/
def readArgs : List String → Option Reading
  | "run" :: args => Flags.read isSwitch args
  | _ => none

/-- The names of the flags that are read, in their order. -/
def flagNames (args : List String) : Option (List String) :=
  (readArgs args).map fun reading => reading.items.map Item.name

/-- The flags up to the kernel parameters. -/
def firstFlags : List String :=
  ["--detach", "--rm", "--name", "--label", "--user", "--memory",
    "--memory-swap", "--pids-limit", "--security-opt", "--cap-drop",
    "--publish", "--interactive", "--network", "--network-alias"]

/-- All flags in their order, with a number of kernel parameters and of pairs
for the environment. -/
def allFlags (sysctls pairs : ℕ) : List String :=
  firstFlags ++ List.replicate sysctls "--sysctl" ++
    ["--tmpfs", "--volumes-from"] ++ List.replicate pairs "--env"

/-- Flags that would give the container more than it may have. -/
def forbiddenFlags : List String :=
  ["--privileged", "--volume", "--mount", "--cap-add"]

/-- The flags isolate a container of the given name. -/
structure Isolates (image : Image) (name : String) (env : List String)
    (items : List Item) : Prop where
  sublist : (items.map Item.name).Sublist
    (allFlags image.sysctls.length env.length)
  forbidden : ∀ item ∈ items, item.name ∉ forbiddenFlags
  confined : ∀ item ∈ [Item.option "--cap-drop" "ALL",
    .option "--security-opt" "no-new-privileges",
    .option "--memory" memoryLimit, .option "--memory-swap" memoryLimit],
      item ∈ items
  published : ∀ item ∈ items, item.name = "--publish" →
    item = .option "--publish" s!"127.0.0.1::{image.servicePort}"
  named : .option "--name" name ∈ items

/-- Both leave the same flags out, and have equally many pairs. -/
structure Launch.SameShape (options options' : Launch) : Prop where
  env : options.env.length = options'.env.length
  network : options.network.isSome = options'.network.isSome

structure Ephemeral.SameShape (options options' : Ephemeral) : Prop where
  env : options.env.length = options'.env.length
  volumesFrom : options.volumesFrom.isSome = options'.volumesFrom.isSome
  stdin : options.stdin.isSome = options'.stdin.isSome

/-! ## The flags of the two vectors -/

/-- The flags that both vectors begin with. -/
def commonItems (mode : Item) (image : Image) (name : String) : List Item :=
  [mode, .option "--name" name, .option "--label" ownerLabel,
    .option "--user" s!"{image.runAs.1}:{image.runAs.2}",
    .option "--memory" memoryLimit, .option "--memory-swap" memoryLimit,
    .option "--pids-limit" "512",
    .option "--security-opt" "no-new-privileges", .option "--cap-drop" "ALL"]

def launchItems (image : Image) (name : String) (options : Launch) :
    List Item :=
  commonItems (.switch "--detach") image name ++
    (if image.servicePort ≠ 0 then
      [.option "--publish" s!"127.0.0.1::{image.servicePort}"]
    else []) ++
    (options.network.elim [] fun network =>
      [.option "--network" network, .option "--network-alias" image.key]) ++
    image.sysctls.map (.option "--sysctl") ++
    (if image.dataOnTmpfs then
      [.option "--tmpfs" (s!"{image.dataDir}:rw,size={tmpfsSizeBytes}," ++
        s!"mode=0700,uid={image.runAs.1},gid={image.runAs.2}")]
    else []) ++
    options.env.map (.option "--env")

def ephemeralItems (image : Image) (name : String) (options : Ephemeral) :
    List Item :=
  commonItems (.switch "--rm") image name ++
    (if options.stdin.isSome then [.switch "--interactive"] else []) ++
    [.option "--network" (options.network.getD "none")] ++
    (options.volumesFrom.elim [] fun container =>
      [.option "--volumes-from" container]) ++
    options.env.map (.option "--env")

theorem flatMap_render_map (flag : String) (values : List String) :
    (values.map (Item.option flag)).flatMap Item.render =
      values.flatMap fun value => [flag, value] := by
  rw [List.flatMap_map]
  rfl

theorem runArgs_eq (image : Image) (reference name : String)
    (options : Launch) :
    runArgs image reference name options =
      "run" :: ((launchItems image name options).flatMap Item.render ++
        reference :: options.command) := by
  have hpublish : (if image.servicePort ≠ 0 then
      [Item.option "--publish" s!"127.0.0.1::{image.servicePort}"]
    else []).flatMap Item.render =
      if image.servicePort ≠ 0 then
        ["--publish", s!"127.0.0.1::{image.servicePort}"]
      else [] := by
    split <;> rfl
  have hnetwork : (options.network.elim [] fun network =>
      [Item.option "--network" network,
        .option "--network-alias" image.key]).flatMap Item.render =
      options.network.elim [] fun network =>
        ["--network", network, "--network-alias", image.key] := by
    cases options.network <;> rfl
  have htmpfs : (if image.dataOnTmpfs then
      [Item.option "--tmpfs" (s!"{image.dataDir}:rw,size={tmpfsSizeBytes}," ++
        s!"mode=0700,uid={image.runAs.1},gid={image.runAs.2}")]
    else []).flatMap Item.render =
      if image.dataOnTmpfs then
        ["--tmpfs", s!"{image.dataDir}:rw,size={tmpfsSizeBytes}," ++
          s!"mode=0700,uid={image.runAs.1},gid={image.runAs.2}"]
      else [] := by
    split <;> rfl
  rw [launchItems, List.flatMap_append, List.flatMap_append,
    List.flatMap_append, List.flatMap_append, List.flatMap_append, hpublish,
    hnetwork, htmpfs, flatMap_render_map, flatMap_render_map, runArgs]
  dsimp only
  rw [List.append_assoc _ [reference]]
  rfl

theorem ephemeralRunArgs_eq (image : Image) (reference name : String)
    (argv : List String) (options : Ephemeral) :
    ephemeralRunArgs image reference name argv options =
      "run" :: ((ephemeralItems image name options).flatMap Item.render ++
        reference :: argv) := by
  have hstdin : (if options.stdin.isSome then [Item.switch "--interactive"]
      else []).flatMap Item.render =
        if options.stdin.isSome then ["--interactive"] else [] := by
    split <;> rfl
  have hnetwork : [Item.option "--network" (options.network.getD "none")
      ].flatMap Item.render =
        options.network.elim ["--network", "none"] fun network =>
          ["--network", network] := by
    cases options.network <;> rfl
  have hvolumes : (options.volumesFrom.elim [] fun container =>
      [Item.option "--volumes-from" container]).flatMap Item.render =
        options.volumesFrom.elim [] fun container =>
          ["--volumes-from", container] := by
    cases options.volumesFrom <;> rfl
  rw [ephemeralItems, List.flatMap_append, List.flatMap_append,
    List.flatMap_append, List.flatMap_append, hstdin, hnetwork, hvolumes,
    flatMap_render_map, ephemeralRunArgs]
  dsimp only
  rw [List.append_assoc _ [reference]]
  rfl

/-! ## The flags that may stand in a vector -/

/-- The flags that take a value, but the one that publishes a port. -/
def optionFlags : List String :=
  ["--name", "--label", "--user", "--memory", "--memory-swap", "--pids-limit",
    "--security-opt", "--cap-drop", "--network", "--network-alias", "--sysctl",
    "--tmpfs", "--volumes-from", "--env"]

/-- A flag that the vectors for an image may have. -/
inductive Expected (image : Image) : Item → Prop
  | switch {name : String} (h : isSwitch name = true) :
      Expected image (.switch name)
  | option {flag : String} (value : String) (h : flag ∈ optionFlags) :
      Expected image (.option flag value)
  | publish :
      Expected image (.option "--publish" s!"127.0.0.1::{image.servicePort}")

section

variable {image : Image} {item : Item}

theorem mem_switches {flag : String} (h : isSwitch flag = true) :
    flag ∈ ["--detach", "--rm", "--interactive"] := by
  simpa [isSwitch, or_assoc] using h

theorem Expected.isRead (h : Expected image item) : item.IsRead isSwitch := by
  cases h with
  | switch h =>
      have hall : ∀ flag ∈ ["--detach", "--rm", "--interactive"],
          isFlag flag = true := by
        decide
      exact ⟨hall _ (mem_switches h), h⟩
  | option value h =>
      have hall : ∀ flag ∈ optionFlags, isFlag flag = true ∧
          isSwitch flag = false := by
        decide
      exact hall _ h
  | publish =>
      have hflag : isFlag "--publish" = true ∧
          isSwitch "--publish" = false := by
        decide
      exact hflag

theorem Expected.not_forbidden (h : Expected image item) :
    item.name ∉ forbiddenFlags := by
  cases h with
  | switch h =>
      have hall : ∀ flag ∈ ["--detach", "--rm", "--interactive"],
          flag ∉ forbiddenFlags := by
        decide
      exact hall _ (mem_switches h)
  | option value h =>
      have hall : ∀ flag ∈ optionFlags, flag ∉ forbiddenFlags := by
        decide
      exact hall _ h
  | publish =>
      have hflag : "--publish" ∉ forbiddenFlags := by
        decide
      exact hflag

theorem Expected.published (h : Expected image item)
    (hname : item.name = "--publish") :
    item = .option "--publish" s!"127.0.0.1::{image.servicePort}" := by
  cases h with
  | switch h =>
      have hnot : isSwitch "--publish" = false := by
        decide
      have hswitch : isSwitch "--publish" = true := hname ▸ h
      rw [hnot] at hswitch
      exact absurd hswitch Bool.false_ne_true
  | option value h =>
      have hnot : "--publish" ∉ optionFlags := by
        decide
      exact absurd (hname ▸ h) hnot
  | publish => rfl

theorem expected_common {mode : Item} (hmode : Expected image mode)
    (name : String) (h : item ∈ commonItems mode image name) :
    Expected image item := by
  simp only [commonItems, List.mem_cons, List.not_mem_nil, or_false] at h
  rcases h with rfl | rfl | rfl | rfl | rfl | rfl | rfl | rfl | rfl
  · exact hmode
  all_goals exact .option _ (by decide)

theorem expected_map {flag : String} (hflag : flag ∈ optionFlags)
    {values : List String} (h : item ∈ values.map (Item.option flag)) :
    Expected image item := by
  obtain ⟨value, -, rfl⟩ := List.mem_map.mp h
  exact .option value hflag

theorem expected_launch {name : String} {options : Launch}
    (h : item ∈ launchItems image name options) : Expected image item := by
  simp only [launchItems, List.mem_append] at h
  rcases h with ((((h | h) | h) | h) | h) | h
  · exact expected_common (.switch (by decide)) name h
  · split at h
    · obtain rfl := List.mem_singleton.mp h
      exact .publish
    · exact absurd h List.not_mem_nil
  · cases hnetwork : options.network with
    | none =>
        rw [hnetwork] at h
        exact absurd h List.not_mem_nil
    | some network =>
        rw [hnetwork, Option.elim_some, List.mem_cons, List.mem_singleton] at h
        rcases h with rfl | rfl
        · exact .option _ (by decide)
        · exact .option _ (by decide)
  · exact expected_map (by decide) h
  · split at h
    · obtain rfl := List.mem_singleton.mp h
      exact .option _ (by decide)
    · exact absurd h List.not_mem_nil
  · exact expected_map (by decide) h

theorem expected_ephemeral {name : String} {options : Ephemeral}
    (h : item ∈ ephemeralItems image name options) : Expected image item := by
  simp only [ephemeralItems, List.mem_append] at h
  rcases h with (((h | h) | h) | h) | h
  · exact expected_common (.switch (by decide)) name h
  · split at h
    · obtain rfl := List.mem_singleton.mp h
      exact .switch (by decide)
    · exact absurd h List.not_mem_nil
  · obtain rfl := List.mem_singleton.mp h
    exact .option _ (by decide)
  · cases hvolumes : options.volumesFrom with
    | none =>
        rw [hvolumes] at h
        exact absurd h List.not_mem_nil
    | some container =>
        rw [hvolumes, Option.elim_some, List.mem_singleton] at h
        obtain rfl := h
        exact .option _ (by decide)
  · exact expected_map (by decide) h

end

/-! ## Their number -/

/-- The names of the flags that both vectors begin with. -/
def commonNames (mode : String) : List String :=
  [mode, "--name", "--label", "--user", "--memory", "--memory-swap",
    "--pids-limit", "--security-opt", "--cap-drop"]

theorem map_name_map (flag : String) (values : List String) :
    (values.map (Item.option flag)).map Item.name =
      List.replicate values.length flag := by
  rw [List.map_map]
  exact List.map_const'

/-- The names of the flags depend on nothing that a caller writes. -/
theorem names_launch (image : Image) (name : String) (options : Launch) :
    (launchItems image name options).map Item.name =
      commonNames "--detach" ++
        (if image.servicePort ≠ 0 then ["--publish"] else []) ++
        (if options.network.isSome then ["--network", "--network-alias"]
          else []) ++
        List.replicate image.sysctls.length "--sysctl" ++
        (if image.dataOnTmpfs then ["--tmpfs"] else []) ++
        List.replicate options.env.length "--env" := by
  have hcommon : (commonItems (.switch "--detach") image name).map Item.name =
      commonNames "--detach" := rfl
  have hnetwork : (options.network.elim [] fun network =>
      [Item.option "--network" network,
        .option "--network-alias" image.key]).map Item.name =
      if options.network.isSome then ["--network", "--network-alias"]
        else [] := by
    cases options.network <;> rfl
  rw [launchItems, List.map_append, List.map_append, List.map_append,
    List.map_append, List.map_append, hcommon, hnetwork, map_name_map,
    map_name_map, apply_ite (List.map Item.name),
    apply_ite (List.map Item.name)]
  rfl

theorem names_ephemeral (image : Image) (name : String)
    (options : Ephemeral) :
    (ephemeralItems image name options).map Item.name =
      commonNames "--rm" ++
        (if options.stdin.isSome then ["--interactive"] else []) ++
        ["--network"] ++
        (if options.volumesFrom.isSome then ["--volumes-from"] else []) ++
        List.replicate options.env.length "--env" := by
  have hcommon : (commonItems (.switch "--rm") image name).map Item.name =
      commonNames "--rm" := rfl
  have hvolumes : (options.volumesFrom.elim [] fun container =>
      [Item.option "--volumes-from" container]).map Item.name =
      if options.volumesFrom.isSome then ["--volumes-from"] else [] := by
    cases options.volumesFrom <;> rfl
  rw [ephemeralItems, List.map_append, List.map_append, List.map_append,
    List.map_append, hcommon, hvolumes, map_name_map,
    apply_ite (List.map Item.name)]
  rfl

/-- The flags of a service are among all flags. -/
theorem sublist_launch (image : Image) (name : String) (options : Launch) :
    ((launchItems image name options).map Item.name).Sublist
      (allFlags image.sysctls.length options.env.length) := by
  have hfirst : (commonNames "--detach" ++
      (if image.servicePort ≠ 0 then ["--publish"] else []) ++
      (if options.network.isSome then ["--network", "--network-alias"]
        else [])).Sublist firstFlags := by
    split <;> split <;> decide
  have htmpfs : (if image.dataOnTmpfs then ["--tmpfs"] else []).Sublist
      ["--tmpfs", "--volumes-from"] := by
    split <;> decide
  rw [names_launch]
  exact ((hfirst.append (.refl _)).append htmpfs).append (.refl _)

theorem sublist_ephemeral (image : Image) (name : String)
    (options : Ephemeral) :
    ((ephemeralItems image name options).map Item.name).Sublist
      (allFlags image.sysctls.length options.env.length) := by
  have hfirst : (commonNames "--rm" ++
      (if options.stdin.isSome then ["--interactive"] else []) ++
      ["--network"]).Sublist firstFlags := by
    split <;> decide
  have hrest : (if options.volumesFrom.isSome then ["--volumes-from"]
      else []).Sublist (List.replicate image.sysctls.length "--sysctl" ++
        ["--tmpfs", "--volumes-from"]) := by
    refine List.Sublist.trans ?_ (List.sublist_append_right _ _)
    split <;> decide
  rw [names_ephemeral, allFlags, List.append_assoc firstFlags]
  exact (hfirst.append hrest).append (.refl _)

/-! ## Isolation -/

/-- The runtime reads flags that isolate a container of the given name, then the
reference of the image and then the command as it is. -/
def ReadsIsolated (image : Image) (reference name : String)
    (env command args : List String) : Prop :=
  ∃ items, readArgs args = some ⟨items, reference, command⟩ ∧
    Isolates image name env items

/-- A name made of a filtered run id and the key of an image. -/
def IsSafeName (key name : String) : Prop :=
  ∃ suffix : String, name = "darcbench-" ++ suffix ++ "-" ++ key ∧
    ∀ c ∈ suffix.toList, c.isAlphanum = true ∨ c = '_' ∨ c = '-'

theorem isFlag_text (reference : DigestReference) :
    isFlag reference.text = false := by
  obtain ⟨c, hc, halnum⟩ := (Option.any_eq_true _ _).mp reference.named
  have hhead : reference.text.toList.head? = some c := by
    rw [DigestReference.text, String.toList_append, String.toList_append,
      List.append_assoc, List.head?_append, hc]
    rfl
  rw [isFlag, hhead]
  refine beq_false_of_ne ?_
  rintro ⟨rfl⟩
  exact absurd halnum (by decide)

theorem isSafeName_containerName (runId key : String) :
    IsSafeName key (containerName runId key) := by
  refine ⟨safeSuffix runId, rfl, fun c hc => ?_⟩
  rw [safeSuffix, String.toList_ofList] at hc
  have hkept := (List.mem_filter.mp (List.mem_of_mem_take hc)).2
  simpa [or_assoc] using hkept

theorem readArgs_runArgs (image : Image) (reference : DigestReference)
    (name : String) (options : Launch) :
    readArgs (runArgs image reference.text name options) =
      some ⟨launchItems image name options, reference.text,
        options.command⟩ := by
  rw [runArgs_eq, readArgs]
  exact Flags.read_flatMap (fun _ hitem => (expected_launch hitem).isRead)
    (isFlag_text reference) options.command

theorem readArgs_ephemeralRunArgs (image : Image)
    (reference : DigestReference) (name : String) (argv : List String)
    (options : Ephemeral) :
    readArgs (ephemeralRunArgs image reference.text name argv options) =
      some ⟨ephemeralItems image name options, reference.text, argv⟩ := by
  rw [ephemeralRunArgs_eq, readArgs]
  exact Flags.read_flatMap (fun _ hitem => (expected_ephemeral hitem).isRead)
    (isFlag_text reference) argv

/-- What both vectors begin with isolates the container. -/
theorem confined_common (mode : Item) (image : Image) (name : String) :
    ∀ item ∈ [Item.option "--cap-drop" "ALL",
      .option "--security-opt" "no-new-privileges",
      .option "--memory" memoryLimit, .option "--memory-swap" memoryLimit],
        item ∈ commonItems mode image name := by
  simp [commonItems]

theorem isolates_launch (image : Image) (name : String) (options : Launch) :
    Isolates image name options.env (launchItems image name options) where
  sublist := sublist_launch image name options
  forbidden _ h := (expected_launch h).not_forbidden
  confined item h := by
    have hcommon := confined_common (.switch "--detach") image name item h
    simp only [launchItems, List.mem_append, hcommon, true_or]
  published _ h := (expected_launch h).published
  named := by simp [launchItems, commonItems]

theorem isolates_ephemeral (image : Image) (name : String)
    (options : Ephemeral) :
    Isolates image name options.env (ephemeralItems image name options) where
  sublist := sublist_ephemeral image name options
  forbidden _ h := (expected_ephemeral h).not_forbidden
  confined item h := by
    have hcommon := confined_common (.switch "--rm") image name item h
    simp only [ephemeralItems, List.mem_append, hcommon, true_or]
  published _ h := (expected_ephemeral h).published
  named := by simp [ephemeralItems, commonItems]

/-- Nothing that a caller passes becomes a flag. -/
theorem callers_pass_no_flag (pinned : PinnedImage) (runId : String) :
    pinned.image.reference = .ok pinned.reference.text ∧
      IsSafeName pinned.image.key (containerName runId pinned.image.key) ∧
      (∀ options : Launch,
        ReadsIsolated pinned.image pinned.reference.text
          (containerName runId pinned.image.key) options.env options.command
          (runArgs pinned.image pinned.reference.text
            (containerName runId pinned.image.key) options) ∧
        ∀ (runId' : String) (options' : Launch), options.SameShape options' →
          flagNames (runArgs pinned.image pinned.reference.text
              (containerName runId' pinned.image.key) options') =
            flagNames (runArgs pinned.image pinned.reference.text
              (containerName runId pinned.image.key) options)) ∧
      ∀ (argv : List String) (options : Ephemeral),
        ReadsIsolated pinned.image pinned.reference.text
          (containerName runId pinned.image.key) options.env argv
          (ephemeralRunArgs pinned.image pinned.reference.text
            (containerName runId pinned.image.key) argv options) ∧
        ∀ (runId' : String) (argv' : List String) (options' : Ephemeral),
          options.SameShape options' →
            flagNames (ephemeralRunArgs pinned.image pinned.reference.text
                (containerName runId' pinned.image.key) argv' options') =
              flagNames (ephemeralRunArgs pinned.image pinned.reference.text
                (containerName runId pinned.image.key) argv options) := by
  refine ⟨pinned.reference_eq, isSafeName_containerName _ _,
    fun options => ⟨?_, ?_⟩, fun argv options => ⟨?_, ?_⟩⟩
  · exact ⟨_, readArgs_runArgs _ _ _ _, isolates_launch _ _ _⟩
  · intro runId' options' hshape
    rw [flagNames, flagNames, readArgs_runArgs, readArgs_runArgs,
      Option.map_some, Option.map_some, names_launch, names_launch,
      hshape.env, hshape.network]
  · exact ⟨_, readArgs_ephemeralRunArgs _ _ _ _ _, isolates_ephemeral _ _ _⟩
  · intro runId' argv' options' hshape
    rw [flagNames, flagNames, readArgs_ephemeralRunArgs,
      readArgs_ephemeralRunArgs, Option.map_some, Option.map_some,
      names_ephemeral, names_ephemeral, hshape.env, hshape.volumesFrom,
      hshape.stdin]

/-- The image of a service that listens on one port. -/
def cacheImage : PinnedImage where
  image :=
    { key := "valkey"
      pin := .pinned ("valkey/valkey" ++ "@sha256:" ++
        "a038175878d66b9d274fbf8be73c0305e93798b83917647f167e18cef3c71eec")
      servicePort := 6379
      dataDir := "/data"
      runAs := (999, 1000)
      dataOnTmpfs := true
      sysctls := []
      readyProbe := ["redis-cli", "-h", "127.0.0.1", "ping"] }
  reference :=
    { repository := "valkey/valkey"
      digest :=
        "a038175878d66b9d274fbf8be73c0305e93798b83917647f167e18cef3c71eec"
      named := by decide +kernel
      hex := ⟨by decide +kernel,
        List.all_iff_forall_prop.mp (by decide +kernel)⟩ }
  pin_eq := rfl

/-- No list has the flag for the environment as often as every caller needs
it. -/
theorem flags_exceed_every_list :
    ¬ ∃ fixed : List String, ∀ (pinned : PinnedImage) (name : String)
      (options : Launch) (reading : Reading),
        readArgs (runArgs pinned.image pinned.reference.text name options) =
            some reading →
          (reading.items.map Item.name).Subperm fixed := by
  rintro ⟨fixed, hall⟩
  have hsubperm := hall cacheImage "c"
    ⟨List.replicate (fixed.count "--env" + 1) "A=1", [], none⟩ _
    (readArgs_runArgs _ _ _ _)
  have hcount := hsubperm.count_le "--env"
  rw [names_launch, List.length_replicate, List.count_append,
    List.count_replicate_self] at hcount
  omega

end Container

end Darcbench
