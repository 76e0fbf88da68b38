import Darcbench.Report.Bundle
import Darcbench.Scoring.Contributions
import Darcbench.Scoring.ScopedKeys
import Darcbench.Support.Dedup
import Darcbench.Support.Paths
import Mathlib.Data.List.Infix
import Mathlib.Data.String.Basic

/-!
# Comparability facts a bundle carries

Every module declares the facts that must match for two of its results to mean
the same thing.  The bundle names the declared facts that it does not carry.
-/

namespace Darcbench

section Resolution

variable {F : Type} [F64 F]

/-- Whether a declared comparability key resolves to a fact the bundle
carries. -/
def comparabilityKeyResolves (key : String) (module : ModuleResult F)
    (metadata : BundleMeta) (environment : Value F) : Bool :=
  match key.toList.dropPrefix? "module.".toList with
  | some rest =>
      if rest = "version".toList then !module.module.version.isEmpty
      else decide (rest = "id".toList)
  | none =>
      match key.toList.dropPrefix? "agent.".toList with
      | some rest =>
          decide (rest ∈ ["build_target".toList, "build_profile".toList,
            "version".toList]) && !metadata.agentVersion.isEmpty
      | none =>
          -- The context comes first: it is what the module used.
          let context := Json.ofFields module.context.toList
          (context.walk key.toList).isSome ||
            (environment.walk key.toList).isSome

/-- Every declared comparability fact the bundle does not carry. -/
def comparabilityNotRecorded (modules : List (ModuleResult F))
    (metadata : BundleMeta) (environment : Value F)
    (declared : ModuleId → List String) : List String :=
  let missing := modules.flatMap fun module =>
    if module.metrics.isEmpty then []
    else
      ((declared module.module.id).filter fun key =>
        !comparabilityKeyResolves key module metadata environment).map
          fun key => module.module.id.asStr ++ "/" ++ key
  dedupNeighbours (missing.mergeSort (· ≤ ·))

end Resolution

section Specification

variable {N : Type}

/-- Some split of the key leads to a value. -/
def Json.Recorded (value : Json N) (key : List Char) : Prop :=
  ∃ keys, Json.Splits key keys ∧ (value.follow keys).isSome = true

/-- Some split whose dots are all in its last key leads to a value. -/
def Json.PlainlyRecorded (value : Json N) (key : List Char) : Prop :=
  ∃ keys, Json.Splits key keys ∧ Json.DotsLast keys ∧
    (value.follow keys).isSome = true

/-- A recorded fact is found, and what is found is recorded. -/
structure Json.FindsRecorded (value : Json N) (key : List Char) : Prop where
  found : value.Recorded key → (value.walk key).isSome = true
  sound : ∀ found, value.walk key = some found →
    ∃ keys, Json.Splits key keys ∧ value.follow keys = some found

variable {F : Type} [F64 F]

/-- The keys that are answered by the module reference or the metadata. -/
def IsReserved (key : String) : Prop :=
  "module.".toList <+: key.toList ∨ "agent.".toList <+: key.toList

/-- The context of a result or the environment has the fact. -/
def RecordedBy (module : ModuleResult F) (environment : Value F)
    (key : String) : Prop :=
  (Json.ofFields module.context.toList).Recorded key.toList ∨
    environment.Recorded key.toList

/-- One of them has it under a split whose dots are all in its last key. -/
def PlainlyRecordedBy (module : ModuleResult F) (environment : Value F)
    (key : String) : Prop :=
  (Json.ofFields module.context.toList).PlainlyRecorded key.toList ∨
    environment.PlainlyRecorded key.toList

/-- The list names the declared facts that were not recorded, and only these. -/
structure ListsUnrecorded (modules : List (ModuleResult F))
    (environment : Value F) (declared : ModuleId → List String)
    (listed : List String) : Prop where
  ascending : listed.Pairwise (· < ·)
  pairs : ∀ entry ∈ listed, ∃ module ∈ modules, module.metrics ≠ [] ∧
    ∃ key ∈ declared module.module.id,
      entry = module.module.id.asStr ++ "/" ++ key
  exact : ∀ (id : ModuleId) (key : String), ¬ IsReserved key →
    (id.asStr ++ "/" ++ key ∈ listed ↔
      ∃ module ∈ modules, module.module.id = id ∧ module.metrics ≠ [] ∧
        key ∈ declared id ∧ ¬ RecordedBy module environment key)

end Specification

/-! ## The search -/

theorem Json.walk_isSome_iff_plainlyRecorded {N : Type} (value : Json N)
    (key : List Char) :
    (value.walk key).isSome = true ↔ value.PlainlyRecorded key :=
  value.walk_isSome_iff key

theorem Json.PlainlyRecorded.recorded {N : Type} {value : Json N}
    {key : List Char} (h : value.PlainlyRecorded key) : value.Recorded key := by
  obtain ⟨keys, hkeys, -, hfollow⟩ := h
  exact ⟨keys, hkeys, hfollow⟩

theorem Json.findsRecorded_iff {N : Type} (value : Json N) (key : List Char) :
    value.FindsRecorded key ↔
      (value.Recorded key → value.PlainlyRecorded key) := by
  constructor
  · intro h hrecorded
    exact (value.walk_isSome_iff_plainlyRecorded key).mp (h.found hrecorded)
  · intro h
    refine ⟨fun hrecorded => ?_, fun found hfound => ?_⟩
    · exact (value.walk_isSome_iff_plainlyRecorded key).mpr (h hrecorded)
    · obtain ⟨keys, hkeys, -, hfollow⟩ := Json.exists_follow_of_walk hfound
      exact ⟨keys, hkeys, hfollow⟩

section Listing

variable {F : Type} [F64 F] {modules : List (ModuleResult F)}
  {module : ModuleResult F} {metadata : BundleMeta} {environment : Value F}
  {declared : ModuleId → List String} {key : String}

theorem PlainlyRecordedBy.recordedBy
    (h : PlainlyRecordedBy module environment key) :
    RecordedBy module environment key :=
  h.imp (·.recorded) (·.recorded)

theorem dropPrefix?_eq_none {start text : List Char} (h : ¬ start <+: text) :
    text.dropPrefix? start = none := by
  cases hdrop : text.dropPrefix? start with
  | none => rfl
  | some rest =>
      obtain ⟨start', htext, heq⟩ := List.dropPrefix?_eq_some_iff.mp hdrop
      obtain rfl := eq_of_beq heq
      exact absurd ⟨rest, htext.symm⟩ h

theorem comparabilityKeyResolves_iff (hkey : ¬ IsReserved key) :
    comparabilityKeyResolves key module metadata environment = true ↔
      PlainlyRecordedBy module environment key := by
  obtain ⟨hmodule, hagent⟩ := not_or.mp hkey
  rw [comparabilityKeyResolves, dropPrefix?_eq_none hmodule]
  dsimp only
  rw [dropPrefix?_eq_none hagent]
  dsimp only
  rw [Bool.or_eq_true, Json.walk_isSome_iff_plainlyRecorded,
    Json.walk_isSome_iff_plainlyRecorded, PlainlyRecordedBy]

theorem mem_comparabilityNotRecorded_iff {entry : String} :
    entry ∈ comparabilityNotRecorded modules metadata environment declared ↔
      ∃ module ∈ modules, module.metrics ≠ [] ∧
        ∃ key ∈ declared module.module.id,
          comparabilityKeyResolves key module metadata environment = false ∧
            entry = module.module.id.asStr ++ "/" ++ key := by
  rw [comparabilityNotRecorded, mem_dedupNeighbours, List.mem_mergeSort,
    List.mem_flatMap]
  refine exists_congr fun module => and_congr_right fun _ => ?_
  by_cases hmetrics : module.metrics = []
  · rw [hmetrics]
    simp
  · rw [if_neg (by simpa using hmetrics)]
    simp only [List.mem_map, List.mem_filter, Bool.not_eq_true', and_assoc,
      ne_eq, hmetrics, not_false_eq_true, true_and, eq_comm (a := entry)]

theorem comparabilityNotRecorded_ascending :
    (comparabilityNotRecorded modules metadata environment declared).Pairwise
      (· < ·) := by
  apply dedupNeighbours_pairwise_lt
  have htrans : ∀ a b c : String, decide (a ≤ b) = true →
      decide (b ≤ c) = true → decide (a ≤ c) = true := by
    intro a b c hab hbc
    exact decide_eq_true (le_trans (of_decide_eq_true hab)
      (of_decide_eq_true hbc))
  have htotal : ∀ a b : String,
      (decide (a ≤ b) || decide (b ≤ a)) = true := by
    intro a b
    rw [Bool.or_eq_true, decide_eq_true_eq, decide_eq_true_eq]
    exact le_total a b
  exact (List.pairwise_mergeSort htrans htotal _).imp of_decide_eq_true

/-- The list is right exactly when every recorded fact is recorded under a
split whose dots are all in its last key, or is missing from another result of
the same module. -/
theorem listsUnrecorded_iff :
    ListsUnrecorded modules environment declared
        (comparabilityNotRecorded modules metadata environment declared) ↔
      ∀ module ∈ modules, module.metrics ≠ [] →
        ∀ key ∈ declared module.module.id, ¬ IsReserved key →
          RecordedBy module environment key →
            PlainlyRecordedBy module environment key ∨
              ∃ other ∈ modules, other.module.id = module.module.id ∧
                other.metrics ≠ [] ∧ ¬ RecordedBy other environment key := by
  constructor
  · intro h module hmodule hmetrics key hkey hreserved _
    by_cases hplain : PlainlyRecordedBy module environment key
    · exact .inl hplain
    · right
      have hresolves : comparabilityKeyResolves key module metadata
          environment = false := by
        rw [← Bool.not_eq_true, comparabilityKeyResolves_iff hreserved]
        exact hplain
      have hlisted := mem_comparabilityNotRecorded_iff.mpr
        ⟨module, hmodule, hmetrics, key, hkey, hresolves, rfl⟩
      obtain ⟨other, hother, hid, hsome, -, hmissing⟩ :=
        (h.exact module.module.id key hreserved).mp hlisted
      exact ⟨other, hother, hid, hsome, hmissing⟩
  · intro h
    refine ⟨comparabilityNotRecorded_ascending, ?_, ?_⟩
    · intro entry hentry
      obtain ⟨module, hmodule, hmetrics, key, hkey, -, rfl⟩ :=
        mem_comparabilityNotRecorded_iff.mp hentry
      exact ⟨module, hmodule, hmetrics, key, hkey, rfl⟩
    · intro id key hreserved
      rw [mem_comparabilityNotRecorded_iff]
      constructor
      · rintro ⟨module, hmodule, hmetrics, key', hkey, hresolves, heq⟩
        obtain ⟨rfl, rfl⟩ := scopedKey_inj heq
        have hplain : ¬ PlainlyRecordedBy module environment key := by
          intro hplain
          rw [← Bool.not_eq_true, comparabilityKeyResolves_iff hreserved]
            at hresolves
          exact hresolves hplain
        by_cases hrecorded : RecordedBy module environment key
        · obtain hfound | ⟨other, hother, hid, hsome, hmissing⟩ :=
            h module hmodule hmetrics key hkey hreserved hrecorded
          · exact absurd hfound hplain
          · exact ⟨other, hother, hid, hsome, hkey, hmissing⟩
        · exact ⟨module, hmodule, rfl, hmetrics, hkey, hrecorded⟩
      · rintro ⟨module, hmodule, rfl, hmetrics, hkey, hmissing⟩
        refine ⟨module, hmodule, hmetrics, key, hkey, ?_, rfl⟩
        rw [← Bool.not_eq_true, comparabilityKeyResolves_iff hreserved]
        exact fun hplain => hmissing hplain.recordedBy

end Listing

section NestedFact

/-- What is recorded under a key that has a dot itself. -/
def shape : Value Float :=
  Json.ofFields [("threads", .number (.posInt 8))]

def nestedFact : ModuleResult Float :=
  { oneMetricResult cpuMixed 0 (bareMetric "hash.single" 1900.0 none) with
    context := (∅ : BTreeMap String (Value Float)).insert "shape.single"
      shape }

def nestedFactKey : String := "shape.single.threads"

theorem get?_nestedFact (key : String) :
    (Json.ofFields nestedFact.context.toList).get? key =
      if key = "shape.single" then some shape else none := by
  rw [Json.get?_ofFields, BTreeMap.lookup_toList, nestedFact,
    Std.ExtTreeMap.getElem?_insert]
  simp only [compare_eq_iff_eq, eq_comm (a := key),
    Std.ExtTreeMap.getElem?_empty]

theorem splitOnce_nestedFactKey :
    Words.splitOnce '.' nestedFactKey.toList =
      some ("shape".toList, "single.threads".toList) := by
  rw [nestedFactKey]
  decide

theorem recorded_nestedFact :
    (Json.ofFields nestedFact.context.toList).Recorded
      nestedFactKey.toList := by
  refine ⟨["shape.single".toList, "threads".toList], ?_, ?_⟩
  · exact .cons "shape.single".toList (.last "threads".toList)
  · rw [Json.follow, String.ofList_toList, get?_nestedFact, if_pos rfl]
    rfl

theorem not_plainlyRecorded_nestedFact :
    ¬ (Json.ofFields nestedFact.context.toList).PlainlyRecorded
      nestedFactKey.toList := by
  rw [← Json.walk_isSome_iff_plainlyRecorded, Json.walk, get?_nestedFact,
    String.ofList_toList, if_neg (by decide)]
  split
  · next heq => exact absurd heq (by simp)
  · split
    · simp
    · next hsplit =>
        rw [splitOnce_nestedFactKey] at hsplit
        obtain ⟨rfl, rfl⟩ := Prod.mk.inj (Option.some.inj hsplit)
        rw [get?_nestedFact, String.ofList_toList, if_neg (by decide)]
        simp

def releaseMeta : BundleMeta where
  schema := bundleSchemaVersion
  protocol := protocolVersion
  agentVersion := "0.1.0"
  buildTarget := "x86_64-linux"
  buildProfile := "release"
  generatedAt := 0
  agentBuildHash := none

theorem not_isReserved_nestedFactKey : ¬ IsReserved nestedFactKey := by
  rw [IsReserved, nestedFactKey]
  decide

/-- A fact below a key that has a dot is not found, and listed as not
recorded. -/
theorem not_findsRecorded_nestedFact :
    ¬ (Json.ofFields nestedFact.context.toList).FindsRecorded
        nestedFactKey.toList ∧
      ¬ ListsUnrecorded [nestedFact] (Json.ofFields [])
        (fun _ => [nestedFactKey])
        (comparabilityNotRecorded [nestedFact] releaseMeta (Json.ofFields [])
          fun _ => [nestedFactKey]) := by
  have hempty : ¬ (Json.ofFields [] : Value Float).PlainlyRecorded
      nestedFactKey.toList := by
    rw [← Json.walk_isSome_iff_plainlyRecorded, Json.walk, Json.get?_ofFields]
    dsimp only [List.lookup]
    split
    · simp
    · rw [Json.get?_ofFields]
      simp
  constructor
  · rw [Json.findsRecorded_iff]
    exact fun h => not_plainlyRecorded_nestedFact (h recorded_nestedFact)
  · rw [listsUnrecorded_iff]
    intro h
    obtain hplain | ⟨other, hother, -, -, hmissing⟩ :=
      h nestedFact List.mem_cons_self (List.cons_ne_nil _ _) nestedFactKey
        List.mem_cons_self not_isReserved_nestedFactKey
        (.inl recorded_nestedFact)
    · exact hplain.elim not_plainlyRecorded_nestedFact hempty
    · obtain rfl := List.mem_singleton.mp hother
      exact hmissing (.inl recorded_nestedFact)

end NestedFact

/-- A fact is found, and left out of the list, exactly when the dots of its key
can all be put in the last key of a split that leads to it. -/
theorem comparability_recorded_iff {F : Type} [F64 F] :
    (∀ (value : Value F) (key : List Char),
      value.FindsRecorded key ↔
        (value.Recorded key → value.PlainlyRecorded key)) ∧
    ∀ (modules : List (ModuleResult F)) (metadata : BundleMeta)
      (environment : Value F) (declared : ModuleId → List String),
      ListsUnrecorded modules environment declared
          (comparabilityNotRecorded modules metadata environment declared) ↔
        ∀ module ∈ modules, module.metrics ≠ [] →
          ∀ key ∈ declared module.module.id, ¬ IsReserved key →
            RecordedBy module environment key →
              PlainlyRecordedBy module environment key ∨
                ∃ other ∈ modules, other.module.id = module.module.id ∧
                  other.metrics ≠ [] ∧ ¬ RecordedBy other environment key :=
  ⟨Json.findsRecorded_iff, fun _ _ _ _ => listsUnrecorded_iff⟩

end Darcbench
