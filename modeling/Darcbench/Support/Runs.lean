import Mathlib.Data.List.Basic

/-!
# Runs of transition systems

A system moves by actions, and an action is enabled in a state when it leads
to a next one.  Results about interleavings are about every state that some
sequence of enabled actions reaches.
-/

namespace Darcbench

variable {σ α : Type}

/-- A system of guarded actions.  `step s a` is the state after `a`, if `a` is
enabled in `s`. -/
structure TransitionSystem (σ α : Type) where
  initial : σ → Prop
  step : σ → α → Option σ

namespace TransitionSystem

/-- The states that the system reaches by steps that are all allowed. -/
inductive Reaches (sys : TransitionSystem σ α) (allowed : σ → α → Prop) :
    σ → Prop
  | initial {s : σ} (h : sys.initial s) : Reaches sys allowed s
  | step {s t : σ} {a : α} (hs : Reaches sys allowed s) (ha : allowed s a)
      (ht : sys.step s a = some t) : Reaches sys allowed t

/-- The states that the system reaches in any way. -/
abbrev Reachable (sys : TransitionSystem σ α) : σ → Prop :=
  sys.Reaches fun _ _ => True

variable {sys : TransitionSystem σ α} {allowed : σ → α → Prop}

/-- What holds at first and is preserved by every allowed step holds in every
state reached. -/
theorem Reaches.invariant {holds : σ → Prop}
    (hinitial : ∀ s, sys.initial s → holds s)
    (hstep : ∀ s a t, holds s → allowed s a → sys.step s a = some t → holds t)
    {s : σ} (h : sys.Reaches allowed s) :
    holds s := by
  induction h with
  | initial h => exact hinitial _ h
  | step _ ha ht ih => exact hstep _ _ _ ih ha ht

/-- A step that one restriction allows may be allowed by a weaker one. -/
theorem Reaches.mono {weaker : σ → α → Prop}
    (hweaker : ∀ s a, allowed s a → weaker s a) {s : σ}
    (h : sys.Reaches allowed s) :
    sys.Reaches weaker s := by
  induction h with
  | initial h => exact .initial h
  | step _ ha ht ih => exact ih.step (hweaker _ _ ha) ht

/-- The state after a sequence of actions, if each of them is enabled in its
turn. -/
def runFrom (sys : TransitionSystem σ α) (s : σ) : List α → Option σ
  | [] => some s
  | a :: rest => (sys.step s a).bind fun t => sys.runFrom t rest

theorem runFrom_cons (sys : TransitionSystem σ α) {s t : σ} {a : α}
    (h : sys.step s a = some t) (rest : List α) :
    sys.runFrom s (a :: rest) = sys.runFrom t rest := by
  rw [TransitionSystem.runFrom, h, Option.bind_some]

theorem runFrom_append (s : σ) (first second : List α) :
    sys.runFrom s (first ++ second) =
      (sys.runFrom s first).bind fun t => sys.runFrom t second := by
  induction first generalizing s with
  | nil => rfl
  | cons a rest ih =>
      rw [List.cons_append, runFrom, runFrom, Option.bind_assoc]
      exact congrArg _ (funext fun t => ih t)

/-- Actions that are allowed in every state. -/
theorem Reaches.runFrom {s t : σ} (hs : sys.Reaches allowed s)
    {actions : List α} (hallowed : ∀ a ∈ actions, ∀ u, allowed u a)
    (h : sys.runFrom s actions = some t) :
    sys.Reaches allowed t := by
  induction actions generalizing s with
  | nil => exact Option.some.inj h ▸ hs
  | cons a rest ih =>
      obtain ⟨u, hu, hrest⟩ := Option.bind_eq_some_iff.mp h
      exact ih (hs.step (hallowed a List.mem_cons_self s) hu)
        (fun b hb => hallowed b (List.mem_cons_of_mem _ hb)) hrest

theorem Reachable.runFrom {s t : σ} (hs : sys.Reachable s)
    {actions : List α} (h : sys.runFrom s actions = some t) :
    sys.Reachable t :=
  Reaches.runFrom hs (fun _ _ _ => trivial) h

end TransitionSystem

end Darcbench
