import Darcbench.Protocol.Ids
import Darcbench.Scoring.Reference
import Darcbench.Support.Lists

/-!
# Keys of metrics across modules

A module identifier has no slash, so that the key of a metric tells the module
and the metric apart.
-/

namespace Darcbench

namespace ModuleId

theorem checkSegment_eq_ok {s : String} (h : checkSegment s = .ok ()) :
    ∀ c ∈ s.toList,
      (isAsciiLowercase c || isAsciiDigit c || c == '_') = true := by
  rw [checkSegment] at h
  split at h
  · exact absurd h (by simp)
  · next first rest hchars =>
      rw [hchars]
      split_ifs at h with hfirst hlong hrest
      rw [Bool.not_eq_true, Bool.not_eq_false'] at hfirst hrest
      intro c hc
      rcases List.mem_cons.mp hc with rfl | hc
      · rw [hfirst]
        rfl
      · exact List.all_eq_true.mp hrest c hc

theorem slash_notMem (id : ModuleId) : '/' ∉ id.asStr.toList := by
  intro hslash
  have hvalid := id.valid
  rw [check] at hvalid
  split_ifs at hvalid
  obtain ⟨part, hpart, hmem⟩ := exists_mem_splitOn hslash
    (show '/' ≠ '.' by decide)
  have hsegment := checkSegment_eq_ok (forM_eq_ok hvalid (String.ofList part)
    (List.mem_map_of_mem hpart)) '/' (by rwa [String.toList_ofList])
  exact absurd hsegment (by decide)

end ModuleId

/-- A key determines the module and the metric. -/
theorem scopedKey_inj {id id' : ModuleId} {key key' : String}
    (h : scopedKey id.asStr key = scopedKey id'.asStr key') :
    id = id' ∧ key = key' := by
  have hchars : id.asStr.toList ++ '/' :: key.toList =
      id'.asStr.toList ++ '/' :: key'.toList := by
    have hlist := congrArg String.toList h
    simpa [scopedKey] using hlist
  have hsplit := congrArg (List.splitOn '/') hchars
  rw [List.splitOn_append_cons_self_of_not_mem id.slash_notMem,
    List.splitOn_append_cons_self_of_not_mem id'.slash_notMem] at hsplit
  have hid := (List.cons.inj hsplit).1
  rw [hid] at hchars
  have hkey := (List.cons.inj (List.append_cancel_left hchars)).2
  cases id
  cases id'
  obtain rfl := String.toList_injective hid
  exact ⟨rfl, String.toList_injective hkey⟩

end Darcbench
