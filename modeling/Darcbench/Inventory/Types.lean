import Darcbench.Protocol.Metrics

/-!
# The inventory of the machine under test

Values that identify a machine are wrapped in `Sensitive`, whose serialised
form depends on the redaction policy.
-/

namespace Darcbench

/-- How much identifying detail a serialisation may contain. -/
inductive RedactionPolicy where
  | redact
  | reveal
  deriving DecidableEq

/-- A text that identifies a machine, an account or a person. -/
structure Sensitive where
  expose : String
  deriving DecidableEq

/-- A fact the collector could not determine, with the reason. -/
structure Gap where
  field : String
  reason : String

structure CacheLevel where
  level : String
  sizeBytes : ℕ
  sharedBy : Option ℕ

structure CpuInfo (F : Type) where
  vendor : Option String
  model : Option String
  family : Option String
  stepping : Option String
  microcode : Option String
  logicalCpus : ℕ
  physicalCores : Option ℕ
  sockets : Option ℕ
  numaNodes : Option ℕ
  smtEnabled : Option Bool
  baseMhz : Option F
  maxMhz : Option F
  minMhz : Option F
  governor : Option String
  scalingDriver : Option String
  caches : List CacheLevel
  instructionSets : List String
  mitigations : List String

structure MemoryInfo where
  totalBytes : ℕ
  availableBytes : ℕ
  freeBytes : ℕ
  buffersBytes : ℕ
  cachedBytes : ℕ
  swapTotalBytes : ℕ
  swapFreeBytes : ℕ
  hugepagesTotal : ℕ
  swappiness : Option ℕ
  psiAvailable : Bool

structure BlockDevice where
  name : String
  model : Option String
  sizeBytes : ℕ
  rotational : Option Bool
  transport : String
  scheduler : Option String
  queueDepth : Option ℕ
  physicalBlockSize : Option ℕ

structure Mount where
  source : String
  target : String
  fstype : String
  options : List String
  networkBacked : Bool

structure StorageInfo where
  devices : List BlockDevice
  mounts : List Mount
  complexStack : Bool
  stackIndicators : List String

structure Interface where
  name : String
  speedMbps : Option ℕ
  mtu : Option ℕ
  operstate : String
  virtualDevice : Bool
  mac : Sensitive

structure NetworkInfo where
  interfaces : List Interface
  primaryInterface : Option String
  ipv6Enabled : Bool

structure DetectedSoftware where
  name : String
  evidence : String

inductive ProductionLikelihood where
  | unlikely
  | possible
  | likely
  deriving DecidableEq

structure SoftwareInfo where
  panels : List DetectedSoftware
  webServers : List DetectedSoftware
  containerRuntimes : List DetectedSoftware
  databases : List DetectedSoftware
  runtimes : List DetectedSoftware
  firewalls : List DetectedSoftware
  listeningTcpPorts : List ℕ
  productionLikelihood : ProductionLikelihood
  productionSignals : List String

inductive Scope where
  | bareMetal
  | virtualMachine
  | container
  | unknown
  deriving DecidableEq

structure Platform (F : Type) where
  os : String
  distribution : Option String
  distributionVersion : Option String
  kernelRelease : Option String
  architecture : String
  scope : Scope
  virtualization : Option String
  virtualizationEvidence : List String
  containerRuntime : Option String
  cgroupCpuLimit : Option F
  cgroupMemLimitBytes : Option ℕ
  uptimeSeconds : Option ℕ
  load1 : Option F
  load5 : Option F
  load15 : Option F
  runningAsRoot : Bool
  hostname : Sensitive
  dmiVendor : Option String
  dmiProduct : Option String
  cloudHint : Option String
  securityModules : List String

/-- A point-in-time description of the machine under test. -/
structure Inventory (F : Type) where
  schema : String
  collectedAt : Timestamp
  platform : Platform F
  cpu : CpuInfo F
  memory : MemoryInfo
  storage : StorageInfo
  network : NetworkInfo
  software : SoftwareInfo
  gaps : List Gap

end Darcbench
