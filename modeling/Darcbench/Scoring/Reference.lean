import Darcbench.Protocol.Metrics
import Darcbench.Scoring.Category

/-!
# The reference profile

Raw measurements are normalised against the declared values of a specified
reference machine.  The anchors are those of the two scoring models that this
build implements.
-/

namespace Darcbench

variable {F : Type} [F64 F]

/-- One normalisation anchor and how its metric rolls up. -/
structure ReferencePoint (F : Type) where
  /-- What the reference machine achieves, in the unit of the metric. -/
  value : F
  direction : Direction
  /-- Relative weight inside its category. -/
  weight : F
  category : CategoryKey
  facet : Option Facet

/-- The normalisation anchors of a scoring model. -/
structure ReferenceProfile (F : Type) where
  name : String
  calibrated : Bool
  /-- Keyed by `<module_id>/<metric_key>`. -/
  points : BTreeMap String (ReferencePoint F)

/-- The key of a metric across modules. -/
def scopedKey (moduleId metricKey : String) : String :=
  moduleId ++ "/" ++ metricKey

def ReferenceProfile.get (profile : ReferenceProfile F)
    (moduleId metricKey : String) : Option (ReferencePoint F) :=
  profile.points[scopedKey moduleId metricKey]?

def point (value weight : F) (category : CategoryKey) (facet : Option Facet) :
    ReferencePoint F where
  value := value
  direction := .higherIsBetter
  weight := weight
  category := category
  facet := facet

/-- A lower-is-better anchor, for latency metrics. -/
def latencyPoint (value weight : F) (category : CategoryKey)
    (facet : Option Facet) : ReferencePoint F where
  value := value
  direction := .lowerIsBetter
  weight := weight
  category := category
  facet := facet

/-- The provisional anchors shipped with the current scoring model. -/
def provisionalPoints : List (String × ReferencePoint F) :=
  [("cpu.mixed/crypto_sha256.single",
      point 1900.0 1.0 .compute (some .singleCore)),
    ("cpu.mixed/compress_deflate.single",
      point 85.0 1.0 .compute (some .singleCore)),
    ("cpu.mixed/json_roundtrip.single",
      point 9500.0 1.0 .compute (some .singleCore)),
    ("cpu.mixed/integer_sort.single",
      point 24.0 1.0 .compute (some .singleCore)),
    ("cpu.mixed/float_matmul.single",
      point 4800.0 1.0 .compute (some .singleCore)),
    ("cpu.mixed/crypto_sha256.multi",
      point 24000.0 1.0 .compute (some .multiCore)),
    ("cpu.mixed/compress_deflate.multi",
      point 1050.0 1.0 .compute (some .multiCore)),
    ("cpu.mixed/json_roundtrip.multi",
      point 118000.0 1.0 .compute (some .multiCore)),
    ("cpu.mixed/integer_sort.multi",
      point 280.0 1.0 .compute (some .multiCore)),
    ("cpu.mixed/float_matmul.multi",
      point 58000.0 1.0 .compute (some .multiCore)),
    ("memory.bandwidth/sequential_read.single",
      point 18000.0 1.0 .memory none),
    ("memory.bandwidth/sequential_read.multi",
      point 42000.0 1.0 .memory none),
    ("memory.bandwidth/sequential_write.single",
      point 12000.0 1.0 .memory none),
    ("memory.bandwidth/sequential_write.multi",
      point 28000.0 1.0 .memory none),
    ("memory.bandwidth/sequential_copy.single",
      point 16000.0 1.0 .memory none),
    ("memory.bandwidth/sequential_copy.multi",
      point 38000.0 1.0 .memory none),
    ("memory.bandwidth/triad.single",
      point 17000.0 1.0 .memory none),
    ("memory.bandwidth/triad.multi",
      point 40000.0 1.0 .memory none),
    ("memory.bandwidth/random_read.single",
      point 1800.0 1.5 .memory none),
    ("memory.bandwidth/random_read.multi",
      point 9000.0 1.5 .memory none),
    ("memory.bandwidth/cache_read.single",
      point 80000.0 0.5 .memory none),
    ("memory.bandwidth/cache_read.multi",
      point 500000.0 0.5 .memory none),
    ("memory.bandwidth/latency_random.single",
      latencyPoint 85.0 1.5 .memory none),
    ("storage.mixed/sequential_read.qd1",
      point 3500.0 0.75 .storage none),
    ("storage.mixed/sequential_write.qd1",
      point 1800.0 0.75 .storage none),
    ("storage.mixed/random_read_4k.qd1",
      point 18000.0 1.5 .storage none),
    ("storage.mixed/random_read_4k.qd16",
      point 230000.0 1.0 .storage none),
    ("storage.mixed/random_write_4k.qd1",
      point 30000.0 1.5 .storage none),
    ("storage.mixed/random_write_4k.qd16",
      point 180000.0 1.0 .storage none),
    ("storage.mixed/random_mixed_4k.qd16",
      point 160000.0 1.25 .storage none),
    ("storage.mixed/latency_read_4k.p99",
      latencyPoint 0.12 1.25 .storage none),
    ("storage.mixed/latency_write_4k.p99",
      latencyPoint 0.10 1.25 .storage none),
    ("storage.mixed/latency_fsync.mean",
      latencyPoint 0.05 1.5 .storage none),
    ("network.transfer/download.single",
      point 800.0 1.5 .network none),
    ("network.transfer/download.multi",
      point 940.0 1.5 .network none),
    ("web.static/requests.small_keepalive",
      point 120000.0 1.5 .web none),
    ("web.static/connections.plaintext",
      point 25000.0 0.75 .web none),
    ("web.static/connections.tls",
      point 3000.0 1.0 .web none),
    ("web.static/throughput.medium",
      point 3000.0 1.0 .web none),
    ("web.static/throughput.large",
      point 5000.0 0.75 .web none),
    ("web.static/latency.small_mean",
      latencyPoint 0.5 1.0 .web none),
    ("web.static/latency.small_p99",
      latencyPoint 2.0 1.25 .web none),
    ("php.runtime/hash.password",
      point 62.0 1.25 .web none),
    ("php.runtime/json.encode",
      point 900000.0 1.0 .web none),
    ("php.runtime/json.decode",
      point 700000.0 1.0 .web none),
    ("php.runtime/array.ops",
      point 400000.0 1.0 .web none),
    ("php.runtime/template.render",
      point 800000.0 1.0 .web none),
    ("php.runtime/hash.sha256",
      point 140000.0 0.75 .web none),
    ("php.runtime/startup.cold",
      latencyPoint 30.0 1.25 .web none),
    ("node.runtime/json.stringify",
      point 450000.0 1.0 .web none),
    ("node.runtime/json.parse",
      point 600000.0 1.0 .web none),
    ("node.runtime/ssr.render",
      point 1000000.0 1.0 .web none),
    ("node.runtime/crypto.hash",
      point 110000.0 0.75 .web none),
    ("node.runtime/async.fileio",
      point 6000.0 1.25 .web none),
    ("node.runtime/module.load",
      point 260.0 1.25 .web none),
    ("node.runtime/startup.cold",
      latencyPoint 90.0 1.0 .web none),
    ("database.oltp/write.tps",
      point 10000.0 1.5 .database none),
    ("database.oltp/read.tps",
      point 100000.0 1.25 .database none),
    ("database.oltp/write.latency_mean",
      latencyPoint 0.8 1.0 .database none),
    ("database.oltp/read.latency_mean",
      latencyPoint 0.4 1.0 .database none),
    ("database.oltp/write.latency_estimated_p95",
      latencyPoint 2.0 0.5 .database none),
    ("database.oltp/read.latency_estimated_p95",
      latencyPoint 1.0 0.5 .database none),
    ("database.cache/get.throughput",
      point 180000.0 1.5 .database none),
    ("database.cache/set.throughput",
      point 170000.0 1.0 .database none),
    ("database.cache/incr.throughput",
      point 180000.0 0.75 .database none),
    ("database.cache/pipelined.throughput",
      point 1500000.0 1.0 .database none),
    ("database.cache/roundtrip.unloaded_mean",
      latencyPoint 0.08 1.25 .database none),
    ("database.cache/roundtrip.unloaded_max",
      latencyPoint 1.0 0.5 .database none),
    ("deployment.container/build.uncached",
      latencyPoint 1.5 1.5 .deployment none),
    ("deployment.container/build.cached",
      latencyPoint 0.15 1.25 .deployment none),
    ("deployment.container/cache.speedup",
      point 10.0 0.5 .deployment none),
    ("deployment.container/image.save",
      point 120.0 0.75 .deployment none),
    ("deployment.container/image.load",
      point 120.0 0.75 .deployment none),
    ("deployment.container/startup.cold",
      latencyPoint 300.0 1.0 .deployment none),
    ("deployment.container/health.to_serving",
      latencyPoint 400.0 1.0 .deployment none),
    ("wordpress.site/origin.warm",
      latencyPoint 40.0 1.5 .web none),
    ("wordpress.site/origin.capacity",
      point 180.0 1.25 .web none),
    ("wordpress.site/database.archive",
      latencyPoint 45.0 1.0 .web none),
    ("wordpress.site/admin.dashboard",
      latencyPoint 40.0 1.0 .web none),
    ("wordpress.site/origin.cold",
      latencyPoint 300.0 0.5 .web none)]

def provisionalReference : ReferenceProfile F where
  name := "DARC-REF-1"
  calibrated := false
  points := Std.ExtTreeMap.ofList provisionalPoints compare

/-- The latency anchors that the current model dropped. -/
def networkLatencyPoints : List (String × ReferencePoint F) :=
  [("network.transfer/ttfb.mean",
      latencyPoint 25.0 1.0 .network none),
    ("network.transfer/tcp_connect.mean",
      latencyPoint 5.0 1.0 .network none),
    ("network.transfer/tcp_connect.jitter",
      latencyPoint 0.5 0.75 .network none),
    ("network.transfer/tls_handshake.mean",
      latencyPoint 10.0 0.75 .network none),
    ("network.transfer/dns_resolve.mean",
      latencyPoint 5.0 0.5 .network none)]

/-- The anchors as `dbs/0.1.0-dev` shipped them. -/
def referenceDbs010Dev : ReferenceProfile F :=
  let profile : ReferenceProfile F := provisionalReference
  { profile with points := profile.points.insertMany networkLatencyPoints }

end Darcbench
