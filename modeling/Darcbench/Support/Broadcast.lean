import Mathlib.Data.List.Basic
import Mathlib.Data.Nat.Notation

/-!
# A broadcast channel with slow receivers

A bounded channel with many receivers.  A receiver is a position in everything
that was ever sent.  Only the newest messages are retained; a receiver that has
fallen behind them is told how many it missed and continues with the oldest
retained message.
-/

namespace Darcbench

/-- A broadcast channel.  Of everything that was sent, the newest `capacity`
messages can still be received. -/
structure Broadcast (α : Type) where
  capacity : ℕ
  sent : List α
  /-- Every sender is gone. -/
  closed : Bool

/-- What a receiver gets from one attempt. -/
inductive Reception (α : Type) where
  | item (message : α)
  | lagged (missed : ℕ)
  | empty
  | closed

namespace Broadcast

variable {α : Type}

def new (capacity : ℕ) : Broadcast α where
  capacity := capacity
  sent := []
  closed := false

def send (channel : Broadcast α) (message : α) : Broadcast α :=
  { channel with sent := channel.sent ++ [message] }

/-- The position of a receiver that sees what is sent from now on. -/
def subscribe (channel : Broadcast α) : ℕ :=
  channel.sent.length

/-- The position of the oldest retained message. -/
def oldest (channel : Broadcast α) : ℕ :=
  channel.sent.length - channel.capacity

/-- One attempt to receive at a position, and the position after it. -/
def tryRecv (channel : Broadcast α) (next : ℕ) : Reception α × ℕ :=
  if next < channel.oldest then
    (.lagged (channel.oldest - next), channel.oldest)
  else
    match channel.sent[next]? with
    | some message => (.item message, next + 1)
    | none => if channel.closed then (.closed, next) else (.empty, next)

@[simp] theorem sent_send (channel : Broadcast α) (message : α) :
    (channel.send message).sent = channel.sent ++ [message] :=
  rfl

@[simp] theorem capacity_send (channel : Broadcast α) (message : α) :
    (channel.send message).capacity = channel.capacity :=
  rfl

theorem oldest_le_length (channel : Broadcast α) :
    channel.oldest ≤ channel.sent.length :=
  Nat.sub_le _ _

/-! ## What an attempt tells -/

variable {channel : Broadcast α} {next after : ℕ}

theorem item_of_tryRecv {message : α}
    (h : channel.tryRecv next = (.item message, after)) :
    channel.oldest ≤ next ∧ channel.sent[next]? = some message ∧
      after = next + 1 := by
  rw [tryRecv] at h
  split at h
  · exact absurd (congrArg Prod.fst h) (by simp)
  · next hnext =>
      split at h
      · next m hm =>
          obtain ⟨hmessage, hafter⟩ := Prod.mk.inj h
          obtain rfl := Reception.item.inj hmessage
          exact ⟨Nat.not_lt.mp hnext, hm, hafter.symm⟩
      · split at h
        · exact absurd (congrArg Prod.fst h) (by simp)
        · exact absurd (congrArg Prod.fst h) (by simp)

theorem lagged_of_tryRecv {missed : ℕ}
    (h : channel.tryRecv next = (.lagged missed, after)) :
    next < channel.oldest ∧ after = channel.oldest := by
  rw [tryRecv] at h
  split at h
  · next hnext => exact ⟨hnext, (Prod.mk.inj h).2.symm⟩
  · split at h
    · exact absurd (congrArg Prod.fst h) (by simp)
    · split at h
      · exact absurd (congrArg Prod.fst h) (by simp)
      · exact absurd (congrArg Prod.fst h) (by simp)

theorem empty_of_tryRecv (h : channel.tryRecv next = (.empty, after)) :
    channel.sent.length ≤ next ∧ after = next := by
  rw [tryRecv] at h
  split at h
  · exact absurd (congrArg Prod.fst h) (by simp)
  · split at h
    · exact absurd (congrArg Prod.fst h) (by simp)
    · next hnone =>
        split at h
        · exact absurd (congrArg Prod.fst h) (by simp)
        · exact ⟨List.getElem?_eq_none_iff.mp hnone,
            (Prod.mk.inj h).2.symm⟩

theorem closed_of_tryRecv (h : channel.tryRecv next = (.closed, after)) :
    channel.closed = true ∧ channel.sent.length ≤ next ∧ after = next := by
  rw [tryRecv] at h
  split at h
  · exact absurd (congrArg Prod.fst h) (by simp)
  · split at h
    · exact absurd (congrArg Prod.fst h) (by simp)
    · next hnone =>
        split at h
        · next hclosed =>
            exact ⟨hclosed, List.getElem?_eq_none_iff.mp hnone,
              (Prod.mk.inj h).2.symm⟩
        · exact absurd (congrArg Prod.fst h) (by simp)

/-- A receiver that has fallen behind is told so, and continues with the
oldest retained message. -/
theorem tryRecv_of_lt_oldest (h : next < channel.oldest) :
    channel.tryRecv next =
      (.lagged (channel.oldest - next), channel.oldest) :=
  if_pos h

theorem tryRecv_of_getElem? {message : α} (h : channel.oldest ≤ next)
    (hget : channel.sent[next]? = some message) :
    channel.tryRecv next = (.item message, next + 1) := by
  rw [tryRecv, if_neg (Nat.not_lt.mpr h), hget]

theorem tryRecv_of_length_le (h : channel.sent.length ≤ next)
    (hopen : channel.closed = false) :
    channel.tryRecv next = (.empty, next) := by
  have holdest : ¬ next < channel.oldest :=
    Nat.not_lt.mpr (Nat.le_trans channel.oldest_le_length h)
  rw [tryRecv, if_neg holdest, List.getElem?_eq_none h, hopen]
  rfl

end Broadcast

end Darcbench
