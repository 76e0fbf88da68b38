import Darcbench.Protocol.Float
import Mathlib.Order.Lattice.Nat
import Mathlib.Order.Defs.LinearOrder
import Mathlib.Order.Hom.Basic
import Mathlib.Order.RelIso.Basic

/-!
# Score categories, composites and facets

The fixed vocabulary of the scoring model with its labels and weights.
-/

namespace Darcbench

variable {F : Type} [F64 F]

/-- Top-level score categories. -/
inductive CategoryKey where
  | compute
  | memory
  | storage
  | network
  | web
  | database
  | deployment
  deriving DecidableEq

namespace CategoryKey

/-- All categories, in the order of the card. -/
def all : List CategoryKey :=
  [compute, memory, storage, network, web, database, deployment]

theorem mem_all (key : CategoryKey) : key ∈ all := by
  cases key <;> decide

def key : CategoryKey → String
  | compute => "compute"
  | memory => "memory"
  | storage => "storage"
  | network => "network"
  | web => "web"
  | database => "database"
  | deployment => "deployment"

def label : CategoryKey → String
  | compute => "Compute Score"
  | memory => "Memory Score"
  | storage => "Storage Score"
  | network => "Network Score"
  | web => "Web Score"
  | database => "Database Score"
  | deployment => "Deployment Score"

/-- Weight inside the total score for the standard profile. -/
def standardWeight : CategoryKey → F
  | compute => 0.26
  | memory => 0.12
  | storage => 0.20
  | network => 0.08
  | web => 0.18
  | database => 0.12
  | deployment => 0.04

/-- Categories that a standard, rankable total score requires. -/
def requiredForStandardTotal : List CategoryKey :=
  [compute, memory, storage, network, web]

/-- The place of a category in the derived order. -/
def index : CategoryKey → ℕ
  | compute => 0
  | memory => 1
  | storage => 2
  | network => 3
  | web => 4
  | database => 5
  | deployment => 6

theorem index_injective : Function.Injective index := by
  intro a b h
  cases a <;> cases b <;> first | rfl | exact absurd h (by decide)

instance : LinearOrder CategoryKey :=
  LinearOrder.lift' index index_injective

end CategoryKey

/-- Cross-cutting aggregates that are reported as scores of their own. -/
inductive Facet where
  | singleCore
  | multiCore
  deriving DecidableEq

namespace Facet

def key : Facet → String
  | singleCore => "single_core"
  | multiCore => "multi_core"

/-- The place of a facet in the derived order. -/
def index : Facet → ℕ
  | singleCore => 0
  | multiCore => 1

theorem index_injective : Function.Injective index := by
  intro a b h
  cases a <;> cases b <;> first | rfl | exact absurd h (by decide)

instance : LinearOrder Facet :=
  LinearOrder.lift' index index_injective

end Facet

/-- Workload-oriented composites of the category scores. -/
inductive CompositeKey where
  | wordpressHosting
  | phpCommerce
  | nodeNextjs
  | databaseServer
  | staticMediaServer
  | buildServer
  | generalPurposeVps
  deriving DecidableEq

namespace CompositeKey

def all : List CompositeKey :=
  [wordpressHosting, phpCommerce, nodeNextjs, databaseServer,
    staticMediaServer, buildServer, generalPurposeVps]

def key : CompositeKey → String
  | wordpressHosting => "wordpress_hosting"
  | phpCommerce => "php_commerce"
  | nodeNextjs => "node_nextjs"
  | databaseServer => "database_server"
  | staticMediaServer => "static_media_server"
  | buildServer => "build_server"
  | generalPurposeVps => "general_purpose_vps"

def label : CompositeKey → String
  | wordpressHosting => "WordPress Hosting"
  | phpCommerce => "PHP Commerce"
  | nodeNextjs => "Node / Next.js"
  | databaseServer => "Database Server"
  | staticMediaServer => "Static / Media Server"
  | buildServer => "Build Server"
  | generalPurposeVps => "General Purpose VPS"

/-- The categories of a composite with their weights. -/
def weights : CompositeKey → List (CategoryKey × F)
  | wordpressHosting =>
      [(.compute, 0.20), (.storage, 0.20), (.web, 0.30), (.database, 0.25),
        (.memory, 0.05)]
  | phpCommerce =>
      [(.compute, 0.25), (.storage, 0.15), (.web, 0.25), (.database, 0.30),
        (.memory, 0.05)]
  | nodeNextjs =>
      [(.compute, 0.40), (.memory, 0.15), (.web, 0.30), (.storage, 0.10),
        (.deployment, 0.05)]
  | databaseServer =>
      [(.storage, 0.35), (.database, 0.35), (.memory, 0.20), (.compute, 0.10)]
  | staticMediaServer =>
      [(.network, 0.40), (.storage, 0.30), (.web, 0.20), (.compute, 0.10)]
  | buildServer =>
      [(.compute, 0.45), (.storage, 0.25), (.memory, 0.20),
        (.deployment, 0.10)]
  | generalPurposeVps =>
      [(.compute, 0.30), (.memory, 0.15), (.storage, 0.25), (.network, 0.15),
        (.web, 0.15)]

end CompositeKey

end Darcbench
