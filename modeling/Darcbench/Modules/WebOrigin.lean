import Darcbench.Protocol.SessionToken
import Darcbench.Support.Runs

/-!
# The benchmark origin

The origin serves a few objects over connections that stay open.  One thread
answers one connection: it reads a head, answers it, and goes on with what is
left in its buffer.  An origin may be gated by the token of a session.
-/

namespace Darcbench

namespace WebOrigin

/-! ## Constants -/

def objectPrefix : List Char := "/o/".toList

/-- In bytes. -/
def maxHeadBytes : ℕ := 8 * 1024

/-- In milliseconds, as every other time here. -/
def headDeadline : ℕ := 10000

def idleDeadline : ℕ := 60000

def tokenHeader : List Char := "x-darcbench-session".toList

def statusOk : String := "200 OK"

def statusBadRequest : String := "400 Bad Request"

def statusNotFound : String := "404 Not Found"

def statusMethodNotAllowed : String := "405 Method Not Allowed"

def statusHeadTooLarge : String := "431 Request Header Fields Too Large"

def statusUnauthorized : String := "401 Unauthorized"

/-! ## Shared state -/

/-- The objects, as one buffer and the lengths that may be taken from it. -/
structure Bodies where
  main : List UInt8
  sizes : List ℕ
  sorted : sizes.Pairwise (· < ·)

/-- An object, if its size is configured and the buffer is long enough. -/
def Bodies.body (bodies : Bodies) (bytes : ℕ) : Option (List UInt8) :=
  if bytes ∈ bodies.sizes ∧ bytes ≤ bodies.main.length then
    some (bodies.main.take bytes)
  else none

/-- What all connections share.  Without a token every request is served. -/
structure Shared where
  served : UInt64
  refused : UInt64
  unmatched : UInt64
  bodies : Bodies
  token : Option SessionToken

/-- The status for a head that cannot be parsed, and the count that goes with
it. -/
def Shared.refuseStatus (shared : Shared) (diagnostic : String) :
    String × Shared :=
  if shared.token.isNone then (diagnostic, shared)
  else (statusUnauthorized, { shared with refused := shared.refused + 1 })

/-! ## Heads -/

/-- One request, as understood. -/
structure Request where
  get : Bool
  object : Option ℕ
  close : Bool
  token : Option SessionToken
  deriving DecidableEq

/-- The end of a head, searched for in what follows the first `scanned`
bytes. -/
def headEndFrom : List UInt8 → ℕ → Option ℕ × ℕ
  | a :: b :: c :: d :: rest, scanned =>
      if [a, b, c, d] = [13, 10, 13, 10] then (some scanned, scanned)
      else headEndFrom (b :: c :: d :: rest) (scanned + 1)
  | _, scanned => (none, scanned)

/-- The end of the head, and how far the search has come. -/
def findHeadEnd (buffer : List UInt8) (scanned : ℕ) : Option ℕ × ℕ :=
  headEndFrom (buffer.drop scanned) scanned

theorem headEndFrom_of_some {bytes : List UInt8} {n headEnd m : ℕ}
    (h : headEndFrom bytes n = (some headEnd, m)) :
    n ≤ headEnd ∧ headEnd + 4 ≤ n + bytes.length ∧
      ∀ more, headEndFrom (bytes ++ more) n = (some headEnd, m) := by
  induction bytes, n using headEndFrom.induct with
  | case1 a b c d rest n hend =>
      rw [headEndFrom, if_pos hend] at h
      simp only [Prod.mk.injEq, Option.some.injEq] at h
      obtain ⟨rfl, rfl⟩ := h
      refine ⟨Nat.le_refl _, ?_, fun more => if_pos hend⟩
      simp only [List.length_cons]
      omega
  | case2 a b c d rest n hend ih =>
      rw [headEndFrom, if_neg hend] at h
      obtain ⟨hle, hlength, hmore⟩ := ih h
      refine ⟨by omega, by simp only [List.length_cons] at hlength ⊢; omega,
        fun more => ?_⟩
      exact (if_neg hend).trans (hmore more)
  | case3 bytes n hshort =>
      rw [headEndFrom] at h
      · exact absurd (congrArg Prod.fst h) nofun
      · exact hshort

/-- A search that has found nothing goes on where it has stopped. -/
theorem headEndFrom_of_none {bytes : List UInt8} {n m : ℕ}
    (h : headEndFrom bytes n = (none, m)) :
    n ≤ m ∧ ∀ more, headEndFrom (bytes ++ more) n =
      headEndFrom ((bytes ++ more).drop (m - n)) m := by
  induction bytes, n using headEndFrom.induct with
  | case1 a b c d rest n hend =>
      rw [headEndFrom, if_pos hend] at h
      exact absurd (congrArg Prod.fst h) nofun
  | case2 a b c d rest n hend ih =>
      rw [headEndFrom, if_neg hend] at h
      obtain ⟨hle, hmore⟩ := ih h
      refine ⟨by omega, fun more => ?_⟩
      have hdrop : m - n = (m - (n + 1)) + 1 := by omega
      rw [hdrop, List.cons_append, List.drop_succ_cons]
      exact (if_neg hend).trans (hmore more)
  | case3 bytes n hshort =>
      rw [headEndFrom] at h
      · obtain rfl : n = m := congrArg Prod.snd h
        exact ⟨Nat.le_refl _, fun more => by rw [Nat.sub_self, List.drop_zero]⟩
      · exact hshort

/-- The text of some bytes, if they are text. -/
def decodeUtf8 (bytes : List UInt8) : Option (List Char) :=
  (String.fromUTF8? (ByteArray.mk bytes.toArray)).map String.toList

/-- The stretches between line breaks. -/
def splitCrlf : List Char → List (List Char)
  | [] => [[]]
  | '\r' :: '\n' :: rest => [] :: splitCrlf rest
  | c :: rest =>
      match splitCrlf rest with
      | [] => [[c]]
      | line :: lines => (c :: line) :: lines

/-- The two sides of the first colon. -/
def splitColon (line : List Char) : Option (List Char × List Char) :=
  if ':' ∈ line then
    some (line.takeWhile (· ≠ ':'), (line.dropWhile (· ≠ ':')).tail)
  else none

def eqIgnoreAsciiCase (text other : List Char) : Bool :=
  text.map Char.toLower = other.map Char.toLower

/-- The object size that a target names. -/
def objectSize (target : List Char) : Option ℕ :=
  let path := target.takeWhile (· ≠ '?')
  if objectPrefix <+: path then
    let digits := path.drop objectPrefix.length
    if digits.isEmpty || !digits.all Char.isDigit then none
    -- One spelling for each object.
    else if 1 < digits.length ∧ digits.head? = some '0' then none
    else Words.parseU64 digits
  else none

/-- Whether the connection closes, after the tokens of a header. -/
def connectionClose (close : Bool) (value : List Char) : Bool :=
  (value.splitOn ',').foldl (fun close token =>
    let token := Words.trim token
    if eqIgnoreAsciiCase token "close".toList then true
    else if eqIgnoreAsciiCase token "keep-alive".toList then false
    else close) close

/-- Reads the header lines.  The last token wins. -/
def parseHeaders (close : Bool) (token : Option SessionToken) :
    List (List Char) → Option (Bool × Option SessionToken)
  | [] => some (close, token)
  | line :: lines =>
      if line.head? = some ' ' ∨ line.head? = some '\t' then none
      else
        match splitColon line with
        | none => none
        | some (name, value) =>
            let value := Words.trim value
            if eqIgnoreAsciiCase name "connection".toList then
              parseHeaders (connectionClose close value) token lines
            else if eqIgnoreAsciiCase name "content-length".toList then
              -- A body would be taken for the next request.
              if value ≠ "0".toList then none
              else parseHeaders close token lines
            else if eqIgnoreAsciiCase name "transfer-encoding".toList then none
            else if eqIgnoreAsciiCase name tokenHeader then
              parseHeaders close (SessionToken.fromStr value) lines
            else parseHeaders close token lines

/-- Parses a complete head. -/
def parseHead (head : List UInt8) : Option Request := do
  let text ← decodeUtf8 head
  match splitCrlf text with
  | [] => none
  | first :: lines =>
      match first.splitOn ' ' with
      | [method, target, version] =>
          let close ←
            if version = "HTTP/1.1".toList then some false
            else if version = "HTTP/1.0".toList then some true
            else none
          let (close, token) ← parseHeaders close none lines
          return { get := method = "GET".toList
                   object := objectSize target
                   close
                   token }
      | _ => none

/-- Whether a request may be answered with anything but a refusal. -/
def authorised (request : Request) (shared : Shared) : Bool :=
  match shared.token with
  | none => true
  | some expected =>
      request.token.any fun presented => expected.matches presented

/-! ## One connection -/

/-- A response, with the request that it answers if there was one.  If it could
not be written, only the first bytes of it got out. -/
structure Response where
  request : Option Request
  status : String
  body : List UInt8
  close : Bool
  failed : Option ℕ
  deriving DecidableEq

namespace Response

def head (response : Response) : String :=
  let connection := if response.close then "close" else "keep-alive"
  "HTTP/1.1 " ++ response.status ++ "\r\nContent-Length: " ++
    toString response.body.length ++
    "\r\nContent-Type: application/octet-stream\r\nConnection: " ++
    connection ++ "\r\n\r\n"

def text (response : Response) : List UInt8 :=
  response.head.toUTF8.toList ++ response.body

/-- The bytes that got out. -/
def sent (response : Response) : List UInt8 :=
  match response.failed with
  | none => response.text
  | some count => response.text.take count

end Response

/-- What a read gives.  No bytes mean that the peer has closed. -/
inductive ReadResult
  | data (chunk : List UInt8)
  /-- The read would block.  The flag and the time are looked at again. -/
  | retryable (shutdown : Bool) (elapsed : ℕ)
  | failed

/-- What a pass of the loop that reads a head comes to. -/
inductive ReadPass
  | oversized
  | finished
  | reading (buffer : List UInt8)

/-- Reads more of a head that is not complete. -/
def readMore (buffer : List UInt8) (shutdown : Bool) (elapsed : ℕ)
    (read : ReadResult) : ReadPass :=
  if maxHeadBytes ≤ buffer.length then .oversized
  else if shutdown then .finished
  else if !buffer.isEmpty && headDeadline ≤ elapsed then .oversized
  else
    match read with
    | .data chunk =>
        if chunk.isEmpty then .finished else .reading (buffer ++ chunk)
    | .retryable shutdown elapsed =>
        let deadline := if buffer.isEmpty then idleDeadline else headDeadline
        if shutdown || deadline < elapsed then .finished else .reading buffer
    | .failed => .finished

/-- A connection, with all that was answered on it. -/
structure Connection where
  shared : Shared
  buffer : List UInt8
  scanned : ℕ
  ended : Bool
  responses : List Response

namespace Connection

def start (shared : Shared) : Connection where
  shared := shared
  buffer := []
  scanned := 0
  ended := false
  responses := []

/-- The bytes that were written. -/
def written (s : Connection) : List UInt8 :=
  s.responses.flatMap Response.sent

def finish (s : Connection) : Connection :=
  { s with ended := true }

/-- A head that cannot be parsed is answered, and the connection ends. -/
def refuse (s : Connection) (diagnostic : String) (failed : Option ℕ) :
    Connection :=
  let (status, shared) := s.shared.refuseStatus diagnostic
  { s with
    shared
    ended := true
    responses := s.responses ++ [⟨none, status, [], true, failed⟩] }

/-- Answers a request. -/
def serveRequest (s : Connection) (request : Request) (failed : Option ℕ) :
    Connection :=
  if !authorised request s.shared then
    { s with
      shared := { s.shared with refused := s.shared.refused + 1 }
      ended := true
      responses := s.responses ++
        [⟨some request, statusUnauthorized, [], true, failed⟩] }
  else
    let (status, body) :=
      if !request.get then (statusMethodNotAllowed, [])
      else
        match request.object.bind s.shared.bodies.body with
        | some body => (statusOk, body)
        | none => (statusNotFound, [])
    -- Counted before the write.
    let shared :=
      if status = statusOk then
        { s.shared with served := s.shared.served + 1 }
      else { s.shared with unmatched := s.shared.unmatched + 1 }
    { s with
      shared
      ended := failed.isSome || request.close
      responses := s.responses ++
        [⟨some request, status, body, request.close, failed⟩] }

/-- Answers the head that is complete, and keeps what follows it. -/
def serveHead (s : Connection) (failed : Option ℕ) : Option Connection :=
  if s.ended then none
  else
    match findHeadEnd s.buffer s.scanned with
    | (none, _) => none
    | (some headEnd, _) =>
        let rest :=
          { s with buffer := s.buffer.drop (headEnd + 4), scanned := 0 }
        match parseHead (s.buffer.take headEnd) with
        | none => some (rest.refuse statusBadRequest failed)
        | some request => some (rest.serveRequest request failed)

/-- One pass of the loop that reads a head, while no head is complete. -/
def poll (s : Connection) (shutdown : Bool) (elapsed : ℕ) (read : ReadResult)
    (failed : Option ℕ) : Option Connection :=
  if s.ended then none
  else
    match findHeadEnd s.buffer s.scanned with
    | (some _, _) => none
    | (none, scanned) =>
        let s := { s with scanned }
        match readMore s.buffer shutdown elapsed read with
        | .oversized => some (s.refuse statusHeadTooLarge failed)
        | .finished => some s.finish
        | .reading buffer => some { s with buffer }

/-- What the peer and the machine do.  A response fails after some bytes, or it
does not fail. -/
inductive Action
  | serveHead (failed : Option ℕ)
  | poll (shutdown : Bool) (elapsed : ℕ) (read : ReadResult)
      (failed : Option ℕ)

def step (s : Connection) : Action → Option Connection
  | .serveHead failed => s.serveHead failed
  | .poll shutdown elapsed read failed => s.poll shutdown elapsed read failed

/-- The connections to an origin. -/
def system (shared : Shared) : TransitionSystem Connection Action where
  initial s := s = start shared
  step := step

end Connection

/-! ## Streams -/

/-- The bytes that arrive with an action. -/
def Connection.Action.bytes : Connection.Action → List UInt8
  | .poll _ _ (.data chunk) _ => chunk
  | _ => []

/-- The bytes of a stream, however they are broken into pieces. -/
def streamBytes (actions : List Connection.Action) : List UInt8 :=
  actions.flatMap Connection.Action.bytes

/-- The requests of a stream: its heads, one after another, as far as they can
be parsed. -/
def requestsFrom : ℕ → List UInt8 → List Request
  | 0, _ => []
  | fuel + 1, bytes =>
      match (findHeadEnd bytes 0).1 with
      | none => []
      | some headEnd =>
          (parseHead (bytes.take headEnd)).toList ++
            requestsFrom fuel (bytes.drop (headEnd + 4))

/-- Every head takes at least four bytes. -/
def requestsOf (bytes : List UInt8) : List Request :=
  requestsFrom bytes.length bytes

end WebOrigin

end Darcbench
