import Mathlib.Data.List.Perm.Basic

/-!
# Flags on a command line

How a program reads the flags before its first operand.  Some flags stand alone,
and every other one takes the next argument, whatever that is.
-/

namespace Darcbench.Flags

/-- A flag as the program reads it. -/
inductive Item where
  | switch (name : String)
  | option (name value : String)
  deriving DecidableEq

namespace Item

def name : Item → String
  | switch name | option name _ => name

def render : Item → List String
  | switch name => [name]
  | option name value => [name, value]

end Item

/-- Whether an argument is a flag where a flag may stand. -/
def isFlag (arg : String) : Bool :=
  arg.toList.head? == some '-'

/-- What a program reads: the flags, the first operand and all that follows. -/
structure Reading where
  items : List Item
  operand : String
  rest : List String
  deriving DecidableEq

def Reading.push (item : Item) (reading : Reading) : Reading :=
  { reading with items := item :: reading.items }

section

variable (isSwitch : String → Bool)

/-- Reads flags up to the first operand.  A flag at the end has no value. -/
def read : List String → Option Reading
  | [] => none
  | [arg] => if isFlag arg then none else some ⟨[], arg, []⟩
  | arg :: next :: rest =>
      if isFlag arg then
        if isSwitch arg then (read (next :: rest)).map (.push (.switch arg))
        else (read rest).map (.push (.option arg next))
      else
        some ⟨[], arg, next :: rest⟩

/-- A flag that is read as it was meant. -/
def Item.IsRead : Item → Prop
  | .switch name => isFlag name = true ∧ isSwitch name = true
  | .option name _ => isFlag name = true ∧ isSwitch name = false

variable {isSwitch}

theorem read_operand {operand : String} (h : isFlag operand = false)
    (rest : List String) :
    read isSwitch (operand :: rest) = some ⟨[], operand, rest⟩ := by
  have hnot : ¬ isFlag operand = true := by
    rw [h]
    exact Bool.false_ne_true
  cases rest with
  | nil => rw [read, if_neg hnot]
  | cons next rest => rw [read, if_neg hnot]

/-- One flag is read from the front, whatever follows it. -/
theorem read_render {item : Item} (h : item.IsRead isSwitch)
    {args : List String} {reading : Reading}
    (hargs : read isSwitch args = some reading) :
    read isSwitch (item.render ++ args) = some (reading.push item) := by
  cases item with
  | switch name =>
      cases args with
      | nil => cases hargs
      | cons next rest =>
          rw [Item.render, List.singleton_append, read, if_pos h.1,
            if_pos h.2, hargs, Option.map_some]
  | option name value =>
      have hnot : ¬ isSwitch name = true := by
        rw [h.2]
        exact Bool.false_ne_true
      rw [Item.render, List.cons_append, List.singleton_append, read,
        if_pos h.1, if_neg hnot, hargs, Option.map_some]

/-- Flags are read back, whatever their values and whatever follows the
operand. -/
theorem read_flatMap {items : List Item}
    (h : ∀ item ∈ items, item.IsRead isSwitch) {operand : String}
    (hoperand : isFlag operand = false) (rest : List String) :
    read isSwitch (items.flatMap Item.render ++ operand :: rest) =
      some ⟨items, operand, rest⟩ := by
  induction items with
  | nil => exact read_operand hoperand rest
  | cons item items ih =>
      obtain ⟨hitem, hitems⟩ := List.forall_mem_cons.mp h
      rw [List.flatMap_cons, List.append_assoc,
        read_render hitem (ih hitems)]
      rfl

end

end Darcbench.Flags
