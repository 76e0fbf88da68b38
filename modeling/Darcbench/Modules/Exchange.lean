import Darcbench.Modules.HttpClient
import Darcbench.Protocol.External

/-!
# Generators and the origin

The workers of the generators make their requests on connections to one origin.
The bytes of either direction arrive in pieces of any size, the connections
proceed in any order, and every write and every read may fail.
-/

namespace Darcbench

open WebOrigin HttpClient

/-! ## Connections -/

/-- A caller of the client, and the object it asks for. -/
structure Caller where
  address : SocketAddr
  bytes : ℕ
  reuse : Reuse
  token : Option SessionToken
  bytes_le : bytes ≤ u64Max

namespace Caller

def client (caller : Caller) : HttpClient :=
  .forSession caller.address caller.bytes caller.reuse caller.token

/-- The origin serves the object to the caller. -/
structure Served (caller : Caller) (shared : Shared) : Prop where
  configured : caller.bytes ∈ shared.bodies.sizes
  fits : caller.bytes ≤ shared.bodies.main.length
  authorised : ∀ token, shared.token = some token → caller.token = some token

end Caller

/-- What the client does with a connection. -/
inductive Use where
  | idle
  | reading (reader : ResponseReader)
  /-- The connection is given up, after an error or without one. -/
  | closed (error : Option RequestError)
  deriving DecidableEq

/-- A connection, with the bytes that are on their way, and the lengths of the
responses that the client has taken from it. -/
structure Line where
  caller : Caller
  upstream : List UInt8
  origin : WebOrigin.Connection
  downstream : List UInt8
  use : Use
  answers : List ℕ

namespace Line

/-- A connection is accepted. -/
def connect (caller : Caller) (shared : Shared) : Line where
  caller := caller
  upstream := []
  origin := .start shared
  downstream := []
  use := .idle
  answers := []

/-- Writes a request.  If the write fails only the first bytes get out. -/
def write (line : Line) (failed : Option (ℕ × String)) : Line :=
  match failed with
  | none =>
      { line with
        upstream := line.upstream ++ line.caller.client.request
        use := .reading .start }
  | some (count, error) =>
      { line with
        upstream := line.upstream ++ line.caller.client.request.take count
        use := .closed (some (.write error)) }

/-- The client keeps the connection, or gives it up. -/
def finish (line : Line) (outcome : Except RequestError ℕ) : Line :=
  match outcome with
  | .error error => { line with use := .closed (some error) }
  | .ok bytes =>
      { line with
        use := if line.caller.client.close then .closed none else .idle
        answers := line.answers ++ [bytes] }

/-- The client reads some bytes, or the end of what the origin has written, or
its read fails. -/
def read (line : Line) (reader : ResponseReader) (count : ℕ)
    (failed : Option String) : Option Line :=
  let result : Option (Except String (List UInt8)) :=
    match failed with
    | some error => some (.error error)
    | none =>
        if line.downstream = [] then
          if line.origin.ended then some (.ok []) else none
        else if 0 < count ∧ count ≤ readBufferBytes then
          some (.ok (line.downstream.take count))
        else none
  result.map fun result =>
    let rest :=
      match result with
      | .ok chunk => line.downstream.drop chunk.length
      | .error _ => line.downstream
    match readResponse reader line.caller.client.expectedBytes result with
    | .reading reader =>
        { line with downstream := rest, use := .reading reader }
    | .finished outcome => { line with downstream := rest }.finish outcome

/-- The bytes that the origin reads are the next ones, and their end is seen when
the client has closed. -/
def Delivers (line : Line) : WebOrigin.Connection.Action → Prop
  | .poll _ _ (.data chunk) _ =>
      if chunk = [] then line.upstream = [] ∧ ∃ error, line.use = .closed error
      else chunk <+: line.upstream ∧ chunk.length ≤ WebOrigin.readChunk
  | _ => True

/-- The responses that were made with the object in them. -/
def served (line : Line) : ℕ :=
  line.origin.responses.countP fun response => response.status = statusOk

/-- The requests that have failed. -/
def failures (line : Line) : ℕ :=
  match line.use with
  | .closed (some _) => 1
  | _ => 0

/-- The requests under way. -/
def underWay (line : Line) : ℕ :=
  match line.use with
  | .reading _ => 1
  | _ => 0

end Line

/-! ## The system -/

/-- A slot of a worker. -/
structure Slot where
  caller : Caller
  held : Option ℕ

/-- The origin, all connections there have been, the slots of the workers, and
the failed attempts to connect. -/
structure Exchange where
  shared : Shared
  lines : List Line
  slots : List Slot
  unconnected : ℕ

namespace Exchange

def start (shared : Shared) (callers : List Caller) : Exchange where
  shared := shared
  lines := []
  slots := callers.map fun caller => ⟨caller, none⟩
  unconnected := 0

/-- A worker makes a request on the connection in its slot, or on a new one. -/
def request (s : Exchange) (slot : ℕ) (failed : Option (ℕ × String)) :
    Option Exchange := do
  let worker ← s.slots[slot]?
  match worker.held with
  | none =>
      let line := (Line.connect worker.caller s.shared).write failed
      return { s with
        lines := s.lines ++ [line]
        slots := s.slots.set slot
          { worker with
            held := if failed.isSome then none else some s.lines.length } }
  | some index =>
      let line ← s.lines[index]?
      if line.use = .idle then
        return { s with
          lines := s.lines.set index (line.write failed)
          slots := s.slots.set slot
            { worker with held := if failed.isSome then none else some index } }
      else none

/-- The attempt to connect fails. -/
def refuse (s : Exchange) (slot : ℕ) : Option Exchange := do
  let worker ← s.slots[slot]?
  match worker.held with
  | none => return { s with unconnected := s.unconnected + 1 }
  | some _ => none

/-- A worker reads from the connection on which its request is under way. -/
def read (s : Exchange) (slot count : ℕ) (failed : Option String) :
    Option Exchange := do
  let worker ← s.slots[slot]?
  let index ← worker.held
  let line ← s.lines[index]?
  match line.use with
  | .reading reader =>
      let line ← line.read reader count failed
      let held :=
        match line.use with
        | .closed _ => none
        | _ => some index
      return { s with
        lines := s.lines.set index line
        slots := s.slots.set slot { worker with held } }
  | _ => none

/-- The thread of a connection takes a step. -/
def serve (s : Exchange) (index : ℕ) (action : WebOrigin.Connection.Action) :
    Option Exchange := do
  let line ← s.lines[index]?
  let origin ← WebOrigin.Connection.step { line.origin with shared := s.shared }
    action
  return { s with
    shared := origin.shared
    lines := s.lines.set index
      { line with
        upstream := line.upstream.drop action.bytes.length
        origin
        downstream := line.downstream ++
          (origin.responses.drop line.origin.responses.length).flatMap
            Response.sent } }

inductive Action
  | request (slot : ℕ) (failed : Option (ℕ × String))
  | refuse (slot : ℕ) (error : String)
  | read (slot count : ℕ) (failed : Option String)
  | serve (index : ℕ) (action : WebOrigin.Connection.Action)

def step (s : Exchange) : Action → Option Exchange
  | .request slot failed => s.request slot failed
  | .refuse slot _ => s.refuse slot
  | .read slot count failed => s.read slot count failed
  | .serve index action => s.serve index action

/-- The generators and the origin. -/
def system (shared : Shared) (callers : List Caller) :
    TransitionSystem Exchange Action where
  initial s := s = start shared callers
  step := step

/-- The network keeps the bytes of a connection in their order. -/
def Ordered (s : Exchange) : Action → Prop
  | .serve index action =>
      ∀ line, s.lines[index]? = some line → line.Delivers action
  | _ => True

/-- The requests that were answered. -/
def answered (s : Exchange) : ℕ :=
  (s.lines.map fun line => line.answers.length).sum

/-- The objects that were served. -/
def served (s : Exchange) : ℕ :=
  (s.lines.map Line.served).sum

def failures (s : Exchange) : ℕ :=
  (s.lines.map Line.failures).sum + s.unconnected

def underWay (s : Exchange) : ℕ :=
  (s.lines.map Line.underWay).sum

end Exchange

end Darcbench
