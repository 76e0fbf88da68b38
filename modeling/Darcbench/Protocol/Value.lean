import Darcbench.Protocol.Float
import Darcbench.Support.Json

/-!
# Free-form values

The number literals of `serde_json` and the values built from them.  A number
is an integer or a finite float; a literal for any other float does not exist.
-/

namespace Darcbench

/-- A number literal of `serde_json`. -/
inductive Number (F : Type) [F64 F] where
  | posInt (n : ℕ)
  /-- The negative integer `-(n + 1)`. -/
  | negInt (n : ℕ)
  | float (x : F) (finite : F64.isFinite x = true)

/-- The type `serde_json::Value`. -/
abbrev Value (F : Type) [F64 F] : Type :=
  Json (Number F)

end Darcbench
