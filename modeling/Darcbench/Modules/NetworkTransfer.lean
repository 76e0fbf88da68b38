import Darcbench.Support.Lines
import Darcbench.Support.Lists
import Darcbench.Support.Runs
import Mathlib.Algebra.GroupWithZero.Nat

/-!
# The transfer budget

All connections of a network measurement spend from one allowance.  A read
reserves what it may take at most before it happens and hands back what it did
not take, and any number of connections do so at once.
-/

namespace Darcbench

/-! ## Responses -/

/-- The first place at which a pattern occurs. -/
def findPattern (pattern : List UInt8) : List UInt8 → Option ℕ
  | [] => if pattern.isEmpty then some 0 else none
  | b :: rest =>
      if pattern <+: b :: rest then some 0
      else (findPattern pattern rest).map (· + 1)

def isDigit (b : UInt8) : Bool :=
  0x30 ≤ b && b ≤ 0x39

/-- A number of 16 bits from its digits. -/
def parseU16 (digits : List UInt8) : Option ℕ :=
  let digits := if digits.head? = some 0x2b then digits.tail else digits
  if digits.isEmpty || !digits.all isDigit then none
  else
    let value := digits.foldl (fun n b => 10 * n + (b.toNat - 0x30)) 0
    if value < 2 ^ 16 then some value else none

/-- The status code, if the response starts with a status line. -/
def httpStatus (response : List UInt8) : Option ℕ :=
  let line := response.takeWhile fun b => b != 0x0d && b != 0x0a
  if isUtf8 line then
    match line.splitOn 0x20 with
    | version :: status :: _ =>
        -- The bytes of `HTTP/1.`.
        if [0x48, 0x54, 0x54, 0x50, 0x2f, 0x31, 0x2e] <+: version then
          parseU16 status
        else none
    | _ => none
  else none

/-- The offset of the first byte of the body. -/
def headerEnd (response : List UInt8) : Option ℕ :=
  ((findPattern [0x0d, 0x0a, 0x0d, 0x0a] response).map (· + 4)).or
    ((findPattern [0x0a, 0x0a] response).map (· + 2))

/-! ## The budget -/

def readChunk : ℕ := 64 * 1024

/-- The allowance of a run, a counter of 64 bits below a ceiling. -/
structure Budget where
  spent : ℕ
  ceiling : ℕ

namespace Budget

/-- What a reservation gets if the counter shows `current`. -/
def granted (budget : Budget) (current bytes : ℕ) : ℕ :=
  min bytes (budget.ceiling - current)

/-- Hands back an unused part of a reservation.  The counter wraps around. -/
def refund (budget : Budget) (bytes : ℕ) : Budget :=
  { budget with spent := (budget.spent + 2 ^ 64 - bytes) % 2 ^ 64 }

theorem ceiling_refund (budget : Budget) (bytes : ℕ) :
    (budget.refund bytes).ceiling = budget.ceiling := by
  unfold refund
  exact Eq.refl _

theorem spent_refund (budget : Budget) {bytes : ℕ}
    (h : bytes ≤ budget.spent) (hfits : budget.spent < 2 ^ 64) :
    (budget.refund bytes).spent = budget.spent - bytes := by
  unfold refund
  dsimp only
  omega

end Budget

/-! ## One connection -/

inductive TransferError
  /-- The network failed. -/
  | io
  | other (message : String)

/-- What became of a read. -/
inductive ReadOutcome
  | ok (bytes : List UInt8)
  | unexpectedEof
  | error

/-- Which read it is: the one of the head, or one of the body with the bytes
of it so far. -/
inductive ReadSite
  | head
  | body (total : ℕ)

/-- What a connection does next. -/
inductive Measuring
  /-- Resolves the name, connects, shakes hands and sends the request. -/
  | opening
  | looping (total : ℕ)
  /-- In the loop of a reservation, with the counter as it was last seen. -/
  | reserving (site : ReadSite) (current : Option ℕ)
  | reading (site : ReadSite) (granted : ℕ)
  | refunding (site : ReadSite) (bytes : ℕ) (outcome : ReadOutcome)
  /-- The bytes of the body, and whether the ceiling cut it short. -/
  | finished (result : Except TransferError (ℕ × Bool))

/-- A connection that measures.  It downloads a number of bytes, or it is a
latency probe. -/
structure Connection where
  downloadBytes : Option ℕ
  next : Measuring

namespace Connection

/-- What follows the first read. -/
def afterHead (downloadBytes : Option ℕ) : ReadOutcome → Measuring
  | .ok [] => .finished (.error (.other "no response"))
  | .ok head =>
      match httpStatus head with
      | none =>
          .finished (.error (.other
            "response did not begin with an HTTP/1.x status line"))
      | some status =>
          if downloadBytes.isSome && status != 200 then
            .finished (.error (.other ("endpoint answered HTTP " ++
              toString status ++ "; a body that is not the requested " ++
              "payload is not a throughput sample")))
          else
            match downloadBytes with
            | none => .finished (.ok (0, false))
            | some _ =>
                match headerEnd head with
                | none =>
                    .finished (.error (.other
                      "response headers did not fit in the first read"))
                | some offset => .looping (head.length - offset)
  | .unexpectedEof | .error => .finished (.error .io)

/-- What follows a read of the body. -/
def afterBody (total : ℕ) : ReadOutcome → Measuring
  | .ok [] | .unexpectedEof => .finished (.ok (total, false))
  | .ok bytes => .looping (total + bytes.length)
  | .error => .finished (.error .io)

/-- What follows a read whose reservation is settled. -/
def afterRead (downloadBytes : Option ℕ) (outcome : ReadOutcome) :
    ReadSite → Measuring
  | .head => afterHead downloadBytes outcome
  | .body total => afterBody total outcome

/-- What follows a reservation that got nothing. -/
def afterRefusal : ReadSite → Measuring
  | .head =>
      .finished (.error (.other
        "transfer ceiling reached before the response could be read"))
  | .body total => .finished (.ok (total, true))

inductive Event
  /-- The request is sent, or something failed on the way to it. -/
  | opened (failed : Bool)
  /-- The condition of the loop over the body. -/
  | goOn
  | load
  /-- A weak compare-and-swap, which may fail for no reason. -/
  | exchange (spurious : Bool)
  | read (outcome : ReadOutcome)
  | refund

/-- One step of a connection: the budget after it, the bytes of the response
that it read, and what the connection does next. -/
def advance (budget : Budget) (conn : Connection) :
    Event → Option (Budget × ℕ × Measuring)
  | .opened failed =>
      match conn.next with
      | .opening =>
          some (budget, 0,
            if failed then .finished (.error .io) else .reserving .head none)
      | _ => none
  | .goOn =>
      match conn.next with
      | .looping total =>
          some (budget, 0,
            if conn.downloadBytes.any fun wanted => wanted ≤ total then
              .finished (.ok (total, false))
            else .reserving (.body total) none)
      | _ => none
  | .load =>
      match conn.next with
      | .reserving site none =>
          some (budget, 0, .reserving site (some budget.spent))
      | _ => none
  | .exchange spurious =>
      match conn.next with
      | .reserving site (some current) =>
          let granted := budget.granted current readChunk
          if granted = 0 then some (budget, 0, afterRefusal site)
          else if budget.spent = current ∧ spurious = false then
            some ({ budget with spent := current + granted }, 0,
              .reading site granted)
          else some (budget, 0, .reserving site (some budget.spent))
      | _ => none
  | .read outcome =>
      match conn.next, outcome with
      | .reading site granted, .ok bytes =>
          if bytes.length ≤ granted then
            some (budget, bytes.length,
              .refunding site (granted - bytes.length) outcome)
          else none
      | .reading site granted, _ =>
          some (budget, 0, .refunding site granted outcome)
      | _, _ => none
  | .refund =>
      match conn.next with
      | .refunding site bytes outcome =>
          some (budget.refund bytes, 0,
            afterRead conn.downloadBytes outcome site)
      | _ => none

end Connection

/-! ## All connections -/

/-- A measurement with all connections that it has opened so far. -/
structure Transfer where
  budget : Budget
  /-- The bytes of responses that have been read. -/
  responseBytes : ℕ
  conns : List Connection

namespace Transfer

inductive Action
  | measure (downloadBytes : Option ℕ)
  | step (conn : ℕ) (event : Connection.Event)

def step (s : Transfer) : Action → Option Transfer
  | .measure downloadBytes =>
      some { s with conns := s.conns ++ [⟨downloadBytes, .opening⟩] }
  | .step i event => do
      let conn ← s.conns[i]?
      let (budget, read, next) ← conn.advance s.budget event
      return {
        budget := budget
        responseBytes := s.responseBytes + read
        conns := s.conns.set i { conn with next := next } }

/-- A fresh budget, with a ceiling of 64 bits. -/
def Initial (s : Transfer) : Prop :=
  s.budget.spent = 0 ∧ s.budget.ceiling < 2 ^ 64 ∧ s.responseBytes = 0 ∧
    s.conns = []

def system : TransitionSystem Transfer Action where
  initial := Initial
  step := step

/-! ## The invariant -/

end Transfer

namespace Measuring

/-- What the connection has reserved and not yet settled. -/
def held : Measuring → ℕ
  | .reading _ granted => granted
  | .refunding _ bytes _ => bytes
  | _ => 0

/-- A reservation has been made for a read and is not settled. -/
def InFlight (next : Measuring) : Prop :=
  (∃ site granted, next = .reading site granted) ∨
    ∃ site bytes outcome, next = .refunding site bytes outcome

theorem held_eq_zero {next : Measuring} (h : ¬next.InFlight) :
    next.held = 0 := by
  cases next with
  | reading site granted => exact absurd (.inl ⟨site, granted, rfl⟩) h
  | refunding site bytes outcome =>
      exact absurd (.inr ⟨site, bytes, outcome, rfl⟩) h
  | _ => rfl

end Measuring

namespace Connection

theorem held_afterRefusal (site : ReadSite) :
    (afterRefusal site).held = 0 := by
  cases site <;> rfl

theorem held_afterBody (total : ℕ) (outcome : ReadOutcome) :
    (afterBody total outcome).held = 0 := by
  unfold afterBody
  split <;> rfl

theorem held_afterHead (downloadBytes : Option ℕ) (outcome : ReadOutcome) :
    (afterHead downloadBytes outcome).held = 0 := by
  unfold afterHead
  split
  · rfl
  · split
    · rfl
    · split
      · rfl
      · split
        · rfl
        · split <;> rfl
  · rfl
  · rfl

/-- Nothing is held while no read is under way. -/
theorem held_afterRead (downloadBytes : Option ℕ) (outcome : ReadOutcome)
    (site : ReadSite) :
    (afterRead downloadBytes outcome site).held = 0 := by
  cases site with
  | head => exact held_afterHead downloadBytes outcome
  | body total => exact held_afterBody total outcome

variable {budget budget' : Budget} {conn : Connection} {read : ℕ}
  {next : Measuring}

/-- Everything a step can do to the account: what is spent beyond what has been
read goes along with what the connection holds. -/
structure Settles (budget : Budget) (conn : Connection)
    (after : Budget × ℕ × Measuring) : Prop where
  ceiling : after.1.ceiling = budget.ceiling
  spent : after.1.spent + conn.next.held =
    budget.spent + after.2.1 + after.2.2.held
  bounded : budget.spent ≤ budget.ceiling →
    after.1.spent ≤ after.1.ceiling

theorem settles_of_eq {after : Budget × ℕ × Measuring}
    (hbudget : after.1 = budget) (hread : after.2.1 = 0)
    (hheld : after.2.2.held = conn.next.held) :
    Settles budget conn after where
  ceiling := by rw [hbudget]
  spent := by rw [hbudget, hread, hheld]; rfl
  bounded h := by rwa [hbudget]

theorem settles_exchange {site : ReadSite} {current : ℕ}
    (hnext : conn.next = .reserving site (some current)) {spurious : Bool}
    {after : Budget × ℕ × Measuring}
    (h : conn.advance budget (.exchange spurious) = some after) :
    Settles budget conn after := by
  have hheld : conn.next.held = 0 := by rw [hnext]; rfl
  simp only [advance, hnext] at h
  split_ifs at h with hzero hsame
  · obtain rfl := Option.some.inj h
    exact settles_of_eq rfl rfl (by rw [hheld, held_afterRefusal])
  · obtain rfl := Option.some.inj h
    obtain ⟨rfl, -⟩ := hsame
    refine ⟨rfl, ?_, ?_⟩
    · rw [hheld]
      rfl
    · intro hle
      have hgranted : budget.granted budget.spent readChunk ≤
          budget.ceiling - budget.spent := min_le_right _ _
      change budget.spent + budget.granted budget.spent readChunk ≤ _
      change _ ≤ budget.ceiling
      omega
  · obtain rfl := Option.some.inj h
    exact settles_of_eq rfl rfl (by rw [hheld]; rfl)

theorem settles_read {outcome : ReadOutcome}
    {after : Budget × ℕ × Measuring}
    (h : conn.advance budget (.read outcome) = some after) :
    Settles budget conn after := by
  cases hnext : conn.next with
  | reading site granted =>
      have hheld : conn.next.held = granted := by rw [hnext]; rfl
      cases outcome with
      | ok bytes =>
          simp only [advance, hnext] at h
          split_ifs at h with hle
          obtain rfl := Option.some.inj h
          refine ⟨rfl, ?_, id⟩
          rw [hheld]
          change budget.spent + granted =
            budget.spent + bytes.length + (granted - bytes.length)
          omega
      | unexpectedEof =>
          simp only [advance, hnext, Option.some.injEq] at h
          subst h
          exact settles_of_eq rfl rfl hheld.symm
      | error =>
          simp only [advance, hnext, Option.some.injEq] at h
          subst h
          exact settles_of_eq rfl rfl hheld.symm
  | _ => simp only [advance, hnext, reduceCtorEq] at h

theorem settles_refund (hfits : budget.spent < 2 ^ 64)
    (hheld : conn.next.held ≤ budget.spent)
    {after : Budget × ℕ × Measuring}
    (h : conn.advance budget .refund = some after) :
    Settles budget conn after := by
  cases hnext : conn.next with
  | refunding site bytes outcome =>
      rw [hnext] at hheld
      have hle : bytes ≤ budget.spent := hheld
      have hrefund := budget.spent_refund hle hfits
      simp only [advance, hnext, Option.some.injEq] at h
      subst h
      constructor
      · exact budget.ceiling_refund bytes
      · dsimp only
        rw [hrefund, held_afterRead, hnext, Measuring.held]
        omega
      · intro hbound
        dsimp only
        rw [hrefund, budget.ceiling_refund]
        exact (Nat.sub_le _ _).trans hbound
  | _ => simp only [advance, hnext, reduceCtorEq] at h

/-- What any step does to the account. -/
theorem settles_advance (hfits : budget.spent < 2 ^ 64)
    (hheld : conn.next.held ≤ budget.spent) {event : Event}
    {after : Budget × ℕ × Measuring}
    (h : conn.advance budget event = some after) :
    Settles budget conn after := by
  cases event with
  | opened failed =>
      cases hnext : conn.next with
      | opening =>
          simp only [advance, hnext, Option.some.injEq] at h
          subst h
          refine settles_of_eq rfl rfl ?_
          rw [hnext]
          cases failed <;> rfl
      | _ => simp only [advance, hnext, reduceCtorEq] at h
  | goOn =>
      cases hnext : conn.next with
      | looping total =>
          simp only [advance, hnext, Option.some.injEq] at h
          subst h
          refine settles_of_eq rfl rfl ?_
          rw [hnext]
          dsimp only
          split_ifs <;> rfl
      | _ => simp only [advance, hnext, reduceCtorEq] at h
  | load =>
      cases hnext : conn.next with
      | reserving site current =>
          cases current with
          | none =>
              simp only [advance, hnext, Option.some.injEq] at h
              subst h
              refine settles_of_eq rfl rfl ?_
              rw [hnext]
              rfl
          | some _ => simp only [advance, hnext, reduceCtorEq] at h
      | _ => simp only [advance, hnext, reduceCtorEq] at h
  | exchange spurious =>
      cases hnext : conn.next with
      | reserving site current =>
          cases current with
          | none => simp only [advance, hnext, reduceCtorEq] at h
          | some current => exact settles_exchange hnext h
      | _ => simp only [advance, hnext, reduceCtorEq] at h
  | read outcome => exact settles_read h
  | refund => exact settles_refund hfits hheld h

end Connection

namespace Transfer

/-- What all connections together have reserved and not settled. -/
def held (s : Transfer) : ℕ :=
  (s.conns.map fun conn => conn.next.held).sum

/-- The counter shows what has been read and what is held. -/
structure Invariant (s : Transfer) : Prop where
  spent_eq : s.budget.spent = s.responseBytes + s.held
  spent_le : s.budget.spent ≤ s.budget.ceiling
  ceiling_lt : s.budget.ceiling < 2 ^ 64

variable {s t : Transfer}

theorem Invariant.initial (h : Initial s) : s.Invariant := by
  obtain ⟨hspent, hceiling, hread, hconns⟩ := h
  refine ⟨?_, by rw [hspent]; exact Nat.zero_le _, hceiling⟩
  rw [hspent, hread, held, hconns]
  rfl

theorem Invariant.held_le (h : s.Invariant) {conn : Connection}
    (hmem : conn ∈ s.conns) :
    conn.next.held ≤ s.budget.spent := by
  have hshare : conn.next.held ≤ s.held :=
    le_sum_map (fun conn : Connection => conn.next.held) hmem
  have hspent := h.spent_eq
  omega

theorem Invariant.step (h : s.Invariant) {action : Action}
    (hstep : s.step action = some t) :
    t.Invariant := by
  cases action with
  | measure downloadBytes =>
      obtain rfl := Option.some.inj hstep
      refine ⟨?_, h.spent_le, h.ceiling_lt⟩
      rw [held, List.map_append, List.sum_append]
      exact h.spent_eq
  | step i event =>
      obtain ⟨conn, hconn, hstep⟩ := Option.bind_eq_some_iff.mp hstep
      obtain ⟨⟨budget, read, next⟩, hadvance, hstep⟩ :=
        Option.bind_eq_some_iff.mp hstep
      obtain rfl := Option.some.inj hstep
      have hfits : s.budget.spent < 2 ^ 64 :=
        h.spent_le.trans_lt h.ceiling_lt
      have hsettles := Connection.settles_advance hfits
        (h.held_le (List.mem_of_getElem? hconn)) hadvance
      have hsum := sum_map_set (fun conn : Connection => conn.next.held)
        hconn { conn with next := next }
      refine ⟨?_, hsettles.bounded h.spent_le, ?_⟩
      · have hspent := h.spent_eq
        have hmoved := hsettles.spent
        simp only [held] at hspent ⊢
        dsimp only at hmoved hsum
        omega
      · exact hsettles.ceiling ▸ h.ceiling_lt

/-- In every state of every interleaving, the counter is within the ceiling, at
least what has been read and at least what is about to be handed back, and
exactly what has been read while no read is in flight. -/
theorem budget_exact (s : Transfer) (h : system.Reachable s) :
    s.budget.spent ≤ s.budget.ceiling ∧
      s.responseBytes ≤ s.budget.spent ∧
      (∀ conn ∈ s.conns, ∀ site bytes outcome,
        conn.next = .refunding site bytes outcome → bytes ≤ s.budget.spent) ∧
      ((∀ conn ∈ s.conns, ¬conn.next.InFlight) →
        s.budget.spent = s.responseBytes) := by
  have hinvariant : s.Invariant := h.invariant (fun _ => Invariant.initial)
    fun _ _ _ hinvariant _ hstep => hinvariant.step hstep
  have hspent := hinvariant.spent_eq
  refine ⟨hinvariant.spent_le, by omega, ?_, ?_⟩
  · intro conn hmem site bytes outcome hnext
    have hle := hinvariant.held_le hmem
    rw [hnext] at hle
    exact hle
  · intro hquiet
    have hzero : s.held = 0 := by
      refine List.sum_eq_zero fun amount hamount => ?_
      obtain ⟨conn, hmem, rfl⟩ := List.mem_map.mp hamount
      exact Measuring.held_eq_zero (hquiet conn hmem)
    rw [hspent, hzero, Nat.add_zero]

/-! ## A probe and a download -/

/-- A budget of one chunk and a half. -/
def freshTransfer : Transfer where
  budget := ⟨0, 98304⟩
  responseBytes := 0
  conns := []

/-- The download finds half a chunk left while the probe reads one byte. -/
def overlapping : List Action :=
  [.measure none, .measure (some 1000), .step 0 (.opened false),
    .step 1 (.opened false), .step 0 .load, .step 1 .load,
    .step 0 (.exchange false), .step 1 (.exchange false),
    .step 1 (.exchange false), .step 0 (.read (.ok [0x48]))]

def overlapped : Transfer :=
  (system.runFrom freshTransfer overlapping).get rfl

theorem reachable_overlapped : system.Reachable overlapped := by
  have hfresh : system.Reachable freshTransfer :=
    .initial ⟨rfl, by decide, rfl, rfl⟩
  exact hfresh.runFrom (Option.some_get _).symm

theorem budget_exact_overlapped :
    overlapped.budget.spent ≤ overlapped.budget.ceiling ∧
      overlapped.responseBytes ≤ overlapped.budget.spent := by
  obtain ⟨hceiling, hread, -⟩ :=
    budget_exact overlapped reachable_overlapped
  exact ⟨hceiling, hread⟩

example : overlapped.budget.spent = 98304 := by decide

end Transfer

end Darcbench
