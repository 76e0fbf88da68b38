import Darcbench.Inventory.Types
import Darcbench.Protocol.Codec

/-!
# Serialised form of the inventory
-/

namespace Darcbench

variable {F : Type} [F64 F] {P : Type}

/-- Marker emitted in place of a redacted value. -/
def redacted : String := "[redacted]"

/-- What a sensitive value reads back as under a policy. -/
def Sensitive.mask : RedactionPolicy → Sensitive → Sensitive
  | .redact, _ => ⟨redacted⟩
  | .reveal, a => a

def sensitiveCodec : Codec (Number F) RedactionPolicy Sensitive where
  encode
    | .redact, _ => .string redacted
    | .reveal, a => .string a.expose
  decode
    | .string s => some ⟨s⟩
    | _ => none
  mask := Sensitive.mask
  Representable _ := True
  decode_encode p _ _ := by cases p <;> rfl
  encode_mask p _ := by cases p <;> rfl
  representable_of_decode _ _ _ := trivial

def stringsCodec : Codec (Number F) P (List String) :=
  Codec.string.list

def gapCodec : Codec (Number F) P Gap :=
  Fields.toCodec
    (.iso
      ⟨fun a => (a.field, a.reason),
        fun (field, reason) =>
          ⟨field, reason⟩,
        fun _ => rfl, fun _ => rfl⟩ <|
      .pair (.field "field" .string) <|
      .field "reason" .string)
    (of_decide_eq_true rfl)

def cacheLevelCodec : Codec (Number F) P CacheLevel :=
  Fields.toCodec
    (.iso
      ⟨fun a => (a.level, a.sizeBytes, a.sharedBy),
        fun (level, sizeBytes, sharedBy) =>
          ⟨level, sizeBytes, sharedBy⟩,
        fun _ => rfl, fun _ => rfl⟩ <|
      .pair (.field "level" .string) <|
      .pair (.field "size_bytes" natCodec) <|
      .optional "shared_by" natCodec rfl)
    (of_decide_eq_true rfl)

def cpuInfoCodec : Codec (Number F) P (CpuInfo F) :=
  Fields.toCodec
    (.iso
      ⟨fun a => (a.vendor, a.model, a.family, a.stepping, a.microcode,
          a.logicalCpus, a.physicalCores, a.sockets, a.numaNodes, a.smtEnabled,
          a.baseMhz, a.maxMhz, a.minMhz, a.governor, a.scalingDriver, a.caches,
          a.instructionSets, a.mitigations),
        fun (vendor, model, family, stepping, microcode, logicalCpus,
            physicalCores, sockets, numaNodes, smtEnabled, baseMhz, maxMhz,
            minMhz, governor, scalingDriver, caches, instructionSets,
            mitigations) =>
          ⟨vendor, model, family, stepping, microcode, logicalCpus,
            physicalCores, sockets, numaNodes, smtEnabled, baseMhz, maxMhz,
            minMhz, governor, scalingDriver, caches, instructionSets,
            mitigations⟩,
        fun _ => rfl, fun _ => rfl⟩ <|
      .pair (.optional "vendor" .string stringCodec_decode_null) <|
      .pair (.optional "model" .string stringCodec_decode_null) <|
      .pair (.optional "family" .string stringCodec_decode_null) <|
      .pair (.optional "stepping" .string stringCodec_decode_null) <|
      .pair (.optional "microcode" .string stringCodec_decode_null) <|
      .pair (.field "logical_cpus" natCodec) <|
      .pair (.optional "physical_cores" natCodec rfl) <|
      .pair (.optional "sockets" natCodec rfl) <|
      .pair (.optional "numa_nodes" natCodec rfl) <|
      .pair (.optional "smt_enabled" .bool rfl) <|
      .pair (.optional "base_mhz" f64Codec f64Codec_decode_null) <|
      .pair (.optional "max_mhz" f64Codec f64Codec_decode_null) <|
      .pair (.optional "min_mhz" f64Codec f64Codec_decode_null) <|
      .pair (.optional "governor" .string stringCodec_decode_null) <|
      .pair (.optional "scaling_driver" .string stringCodec_decode_null) <|
      .pair (.field "caches" cacheLevelCodec.list) <|
      .pair (.field "instruction_sets" stringsCodec) <|
      .field "mitigations" stringsCodec)
    (of_decide_eq_true rfl)

def memoryInfoCodec : Codec (Number F) P MemoryInfo :=
  Fields.toCodec
    (.iso
      ⟨fun a => (a.totalBytes, a.availableBytes, a.freeBytes, a.buffersBytes,
          a.cachedBytes, a.swapTotalBytes, a.swapFreeBytes, a.hugepagesTotal,
          a.swappiness, a.psiAvailable),
        fun (totalBytes, availableBytes, freeBytes, buffersBytes, cachedBytes,
            swapTotalBytes, swapFreeBytes, hugepagesTotal, swappiness,
            psiAvailable) =>
          ⟨totalBytes, availableBytes, freeBytes, buffersBytes, cachedBytes,
            swapTotalBytes, swapFreeBytes, hugepagesTotal, swappiness,
            psiAvailable⟩,
        fun _ => rfl, fun _ => rfl⟩ <|
      .pair (.field "total_bytes" natCodec) <|
      .pair (.field "available_bytes" natCodec) <|
      .pair (.field "free_bytes" natCodec) <|
      .pair (.field "buffers_bytes" natCodec) <|
      .pair (.field "cached_bytes" natCodec) <|
      .pair (.field "swap_total_bytes" natCodec) <|
      .pair (.field "swap_free_bytes" natCodec) <|
      .pair (.field "hugepages_total" natCodec) <|
      .pair (.optional "swappiness" natCodec rfl) <|
      .field "psi_available" .bool)
    (of_decide_eq_true rfl)

def blockDeviceCodec : Codec (Number F) P BlockDevice :=
  Fields.toCodec
    (.iso
      ⟨fun a => (a.name, a.model, a.sizeBytes, a.rotational, a.transport,
          a.scheduler, a.queueDepth, a.physicalBlockSize),
        fun (name, model, sizeBytes, rotational, transport, scheduler,
            queueDepth, physicalBlockSize) =>
          ⟨name, model, sizeBytes, rotational, transport, scheduler,
            queueDepth, physicalBlockSize⟩,
        fun _ => rfl, fun _ => rfl⟩ <|
      .pair (.field "name" .string) <|
      .pair (.optional "model" .string stringCodec_decode_null) <|
      .pair (.field "size_bytes" natCodec) <|
      .pair (.optional "rotational" .bool rfl) <|
      .pair (.field "transport" .string) <|
      .pair (.optional "scheduler" .string stringCodec_decode_null) <|
      .pair (.optional "queue_depth" natCodec rfl) <|
      .optional "physical_block_size" natCodec rfl)
    (of_decide_eq_true rfl)

def mountCodec : Codec (Number F) P Mount :=
  Fields.toCodec
    (.iso
      ⟨fun a => (a.source, a.target, a.fstype, a.options, a.networkBacked),
        fun (source, target, fstype, options, networkBacked) =>
          ⟨source, target, fstype, options, networkBacked⟩,
        fun _ => rfl, fun _ => rfl⟩ <|
      .pair (.field "source" .string) <|
      .pair (.field "target" .string) <|
      .pair (.field "fstype" .string) <|
      .pair (.field "options" stringsCodec) <|
      .field "network_backed" .bool)
    (of_decide_eq_true rfl)

def storageInfoCodec : Codec (Number F) P StorageInfo :=
  Fields.toCodec
    (.iso
      ⟨fun a => (a.devices, a.mounts, a.complexStack, a.stackIndicators),
        fun (devices, mounts, complexStack, stackIndicators) =>
          ⟨devices, mounts, complexStack, stackIndicators⟩,
        fun _ => rfl, fun _ => rfl⟩ <|
      .pair (.field "devices" blockDeviceCodec.list) <|
      .pair (.field "mounts" mountCodec.list) <|
      .pair (.field "complex_stack" .bool) <|
      .field "stack_indicators" stringsCodec)
    (of_decide_eq_true rfl)

def interfaceCodec : Codec (Number F) RedactionPolicy Interface :=
  Fields.toCodec
    (.iso
      ⟨fun a => (a.name, a.speedMbps, a.mtu, a.operstate, a.virtualDevice,
          a.mac),
        fun (name, speedMbps, mtu, operstate, virtualDevice, mac) =>
          ⟨name, speedMbps, mtu, operstate, virtualDevice, mac⟩,
        fun _ => rfl, fun _ => rfl⟩ <|
      .pair (.field "name" .string) <|
      .pair (.optional "speed_mbps" natCodec rfl) <|
      .pair (.optional "mtu" natCodec rfl) <|
      .pair (.field "operstate" .string) <|
      .pair (.field "virtual_device" .bool) <|
      .field "mac" sensitiveCodec)
    (of_decide_eq_true rfl)

def networkInfoCodec : Codec (Number F) RedactionPolicy NetworkInfo :=
  Fields.toCodec
    (.iso
      ⟨fun a => (a.interfaces, a.primaryInterface, a.ipv6Enabled),
        fun (interfaces, primaryInterface, ipv6Enabled) =>
          ⟨interfaces, primaryInterface, ipv6Enabled⟩,
        fun _ => rfl, fun _ => rfl⟩ <|
      .pair (.field "interfaces" interfaceCodec.list) <|
      .pair (.optional "primary_interface" .string stringCodec_decode_null) <|
      .field "ipv6_enabled" .bool)
    (of_decide_eq_true rfl)

def detectedSoftwareCodec : Codec (Number F) P DetectedSoftware :=
  Fields.toCodec
    (.iso
      ⟨fun a => (a.name, a.evidence),
        fun (name, evidence) =>
          ⟨name, evidence⟩,
        fun _ => rfl, fun _ => rfl⟩ <|
      .pair (.field "name" .string) <|
      .field "evidence" .string)
    (of_decide_eq_true rfl)

def ProductionLikelihood.naming : Naming ProductionLikelihood where
  name
    | unlikely => "unlikely"
    | possible => "possible"
    | likely => "likely"
  members := [unlikely, possible, likely]
  mem a := by cases a <;> decide
  nodup := by decide

def softwareInfoCodec : Codec (Number F) P SoftwareInfo :=
  Fields.toCodec
    (.iso
      ⟨fun a => (a.panels, a.webServers, a.containerRuntimes, a.databases,
          a.runtimes, a.firewalls, a.listeningTcpPorts, a.productionLikelihood,
          a.productionSignals),
        fun (panels, webServers, containerRuntimes, databases, runtimes,
            firewalls, listeningTcpPorts, productionLikelihood,
            productionSignals) =>
          ⟨panels, webServers, containerRuntimes, databases, runtimes,
            firewalls, listeningTcpPorts, productionLikelihood,
            productionSignals⟩,
        fun _ => rfl, fun _ => rfl⟩ <|
      .pair (.field "panels" detectedSoftwareCodec.list) <|
      .pair (.field "web_servers" detectedSoftwareCodec.list) <|
      .pair (.field "container_runtimes" detectedSoftwareCodec.list) <|
      .pair (.field "databases" detectedSoftwareCodec.list) <|
      .pair (.field "runtimes" detectedSoftwareCodec.list) <|
      .pair (.field "firewalls" detectedSoftwareCodec.list) <|
      .pair (.field "listening_tcp_ports" natCodec.list) <|
      .pair (.field "production_likelihood" (.names ProductionLikelihood.naming)) <|
      .field "production_signals" stringsCodec)
    (of_decide_eq_true rfl)

def Scope.naming : Naming Scope where
  name
    | bareMetal => "bare_metal"
    | virtualMachine => "virtual_machine"
    | container => "container"
    | unknown => "unknown"
  members := [bareMetal, virtualMachine, container, unknown]
  mem a := by cases a <;> decide
  nodup := by decide

def platformCodec : Codec (Number F) RedactionPolicy (Platform F) :=
  Fields.toCodec
    (.iso
      ⟨fun a => (a.os, a.distribution, a.distributionVersion, a.kernelRelease,
          a.architecture, a.scope, a.virtualization, a.virtualizationEvidence,
          a.containerRuntime, a.cgroupCpuLimit, a.cgroupMemLimitBytes,
          a.uptimeSeconds, a.load1, a.load5, a.load15, a.runningAsRoot,
          a.hostname, a.dmiVendor, a.dmiProduct, a.cloudHint,
          a.securityModules),
        fun (os, distribution, distributionVersion, kernelRelease,
            architecture, scope, virtualization, virtualizationEvidence,
            containerRuntime, cgroupCpuLimit, cgroupMemLimitBytes,
            uptimeSeconds, load1, load5, load15, runningAsRoot, hostname,
            dmiVendor, dmiProduct, cloudHint, securityModules) =>
          ⟨os, distribution, distributionVersion, kernelRelease, architecture,
            scope, virtualization, virtualizationEvidence, containerRuntime,
            cgroupCpuLimit, cgroupMemLimitBytes, uptimeSeconds, load1, load5,
            load15, runningAsRoot, hostname, dmiVendor, dmiProduct, cloudHint,
            securityModules⟩,
        fun _ => rfl, fun _ => rfl⟩ <|
      .pair (.field "os" .string) <|
      .pair (.optional "distribution" .string stringCodec_decode_null) <|
      .pair (.optional "distribution_version" .string
        stringCodec_decode_null) <|
      .pair (.optional "kernel_release" .string stringCodec_decode_null) <|
      .pair (.field "architecture" .string) <|
      .pair (.field "scope" (.names Scope.naming)) <|
      .pair (.optional "virtualization" .string stringCodec_decode_null) <|
      .pair (.field "virtualization_evidence" stringsCodec) <|
      .pair (.optional "container_runtime" .string stringCodec_decode_null) <|
      .pair (.optional "cgroup_cpu_limit" f64Codec f64Codec_decode_null) <|
      .pair (.optional "cgroup_mem_limit_bytes" natCodec rfl) <|
      .pair (.optional "uptime_seconds" natCodec rfl) <|
      .pair (.optional "load1" f64Codec f64Codec_decode_null) <|
      .pair (.optional "load5" f64Codec f64Codec_decode_null) <|
      .pair (.optional "load15" f64Codec f64Codec_decode_null) <|
      .pair (.field "running_as_root" .bool) <|
      .pair (.field "hostname" sensitiveCodec) <|
      .pair (.optional "dmi_vendor" .string stringCodec_decode_null) <|
      .pair (.optional "dmi_product" .string stringCodec_decode_null) <|
      .pair (.optional "cloud_hint" .string stringCodec_decode_null) <|
      .field "security_modules" stringsCodec)
    (of_decide_eq_true rfl)

def inventoryCodec [Chrono] : Codec (Number F) RedactionPolicy (Inventory F) :=
  Fields.toCodec
    (.iso
      ⟨fun a => (a.schema, a.collectedAt, a.platform, a.cpu, a.memory,
          a.storage, a.network, a.software, a.gaps),
        fun (schema, collectedAt, platform, cpu, memory, storage, network,
            software, gaps) =>
          ⟨schema, collectedAt, platform, cpu, memory, storage, network,
            software, gaps⟩,
        fun _ => rfl, fun _ => rfl⟩ <|
      .pair (.field "schema" .string) <|
      .pair (.field "collected_at" timestampCodec) <|
      .pair (.field "platform" platformCodec) <|
      .pair (.field "cpu" cpuInfoCodec) <|
      .pair (.field "memory" memoryInfoCodec) <|
      .pair (.field "storage" storageInfoCodec) <|
      .pair (.field "network" networkInfoCodec) <|
      .pair (.field "software" softwareInfoCodec) <|
      .field "gaps" gapCodec.list)
    (of_decide_eq_true rfl)

end Darcbench
