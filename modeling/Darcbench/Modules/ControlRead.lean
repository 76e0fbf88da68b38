import Darcbench.Modules.ExternalSession
import Darcbench.Modules.Framing
import Darcbench.Support.Reads

/-!
# What the control listener reads

The control listener reads one request, first its head and then its body.  Each
of the two loops has a bound of its own.
-/

namespace Darcbench

namespace ControlListener

/-! ## Constants -/

/-- Longest control request, head and body together, in bytes. -/
def maxControlBytes : ℕ := 64 * 1024

/-- The bytes of one read at most. -/
def readBuffer : ℕ := 4096

def tokenHeader : List Char := "x-darcbench-session".toList

def statusBadRequest : String := "400 Bad Request"

def statusTooLarge : String := "413 Payload Too Large"

def statusHeadTooLarge : String := "431 Request Header Fields Too Large"

/-! ## The head -/

/-- The position of the first terminator. -/
def findDoubleCrlf (buffer : List UInt8) : Option ℕ :=
  (WebOrigin.findHeadEnd buffer 0).1

/-- What a head says. -/
structure ControlHead where
  post : Bool
  path : String
  token : Option SessionToken
  length : ℕ
  deriving DecidableEq

/-- Reads the header lines.  The last token and the last length win. -/
def parseControlHeaders (token : Option SessionToken) (length : ℕ) :
    List (List Char) → Except String (Option SessionToken × ℕ)
  | [] => .ok (token, length)
  | line :: lines =>
      if line.head? = some ' ' ∨ line.head? = some '\t' then
        .error statusBadRequest
      else
        match WebOrigin.splitColon line with
        | none => .error statusBadRequest
        | some (name, value) =>
            let value := Words.trim value
            if WebOrigin.eqIgnoreAsciiCase name "content-length".toList then
              match Words.parseU64 value with
              | none => .error statusBadRequest
              | some length => parseControlHeaders token length lines
            else if
                WebOrigin.eqIgnoreAsciiCase name "transfer-encoding".toList then
              .error statusBadRequest
            else if WebOrigin.eqIgnoreAsciiCase name tokenHeader then
              parseControlHeaders (SessionToken.fromStr value) length lines
            else parseControlHeaders token length lines

def parseControlHead (head : List UInt8) : Except String ControlHead :=
  match WebOrigin.decodeUtf8 head with
  | none => .error statusBadRequest
  | some text =>
      match WebOrigin.splitCrlf text with
      | [] => .error statusBadRequest
      | first :: lines =>
          match first.splitOn ' ' with
          | method :: path :: _ => do
              let (token, length) ← parseControlHeaders none 0 lines
              return { post := method = "POST".toList
                       path := String.ofList path
                       token
                       length }
          | _ => .error statusBadRequest

/-! ## The request -/

/-- The head is complete, or its bound is reached. -/
def headEnough (buffer : List UInt8) : Bool :=
  (findDoubleCrlf buffer).isSome || decide (maxControlBytes ≤ buffer.length)

/-- A complete request or the status to answer with instead, and the reads that
were not made.  When no read is left the peer has closed. -/
def readControlRequest (reads : List (List UInt8)) :
    Except String ControlRequest × List (List UInt8) :=
  let (buffer, reads) := readUntil headEnough [] reads
  match findDoubleCrlf buffer with
  | none =>
      if maxControlBytes ≤ buffer.length then (.error statusHeadTooLarge, reads)
      else (.error statusBadRequest, reads)
  | some headEnd =>
      match parseControlHead (buffer.take headEnd) with
      | .error status => (.error status, reads)
      | .ok head =>
          -- Checked before the body is read.
          if maxControlBytes < head.length then (.error statusTooLarge, reads)
          else
            let (body, reads) :=
              readUntil (fun body => decide (head.length ≤ body.length))
                (buffer.drop (headEnd + 4)) reads
            if body.length < head.length then (.error statusBadRequest, reads)
            else
              (.ok { post := head.post
                     path := head.path
                     token := head.token
                     body := body.take head.length }, reads)

/-! ## Streams and their pieces -/

/-- The reads deliver the stream. -/
structure Arrives (reads : List (List UInt8)) (stream : List UInt8) : Prop where
  bytes : reads.flatten = stream
  sizes : ∀ chunk ∈ reads, chunk ≠ [] ∧ chunk.length ≤ readBuffer

/-- The bytes that are read. -/
def consumed (reads : List (List UInt8)) : ℕ :=
  reads.flatten.length - (readControlRequest reads).2.flatten.length

/-- The stream begins with a complete request whose head and body together are
within the bound. -/
def Fits (stream : List UInt8) : Prop :=
  ∃ headEnd, findDoubleCrlf stream = some headEnd ∧
    headEnd + 4 ≤ maxControlBytes ∧
      ∀ head, parseControlHead (stream.take headEnd) = .ok head →
        headEnd + 4 + head.length ≤ maxControlBytes ∧
          headEnd + 4 + head.length ≤ stream.length

/-- The bound on what is read holds for every split of the stream, and the
split makes no difference to a request that fits. -/
structure BoundIsReal (stream : List UInt8) : Prop where
  bounded : ∀ reads, Arrives reads stream →
    consumed reads ≤ maxControlBytes + readBuffer
  blind : Fits stream → ∀ reads reads', Arrives reads stream →
    Arrives reads' stream →
      (readControlRequest reads).1 = (readControlRequest reads').1

/-- A head that can be read in full declares no body that would exceed the
bound by more than a byte. -/
def DeclaresWithin (stream : List UInt8) : Prop :=
  ∀ headEnd head, findDoubleCrlf stream = some headEnd →
    headEnd + 4 < maxControlBytes + readBuffer →
      parseControlHead (stream.take headEnd) = .ok head →
        head.length ≤ maxControlBytes → 0 < head.length →
          headEnd + 4 + head.length ≤ maxControlBytes + 1

/-! ## The end of the head -/

theorem findDoubleCrlf_of_some {buffer : List UInt8} {headEnd : ℕ}
    (h : findDoubleCrlf buffer = some headEnd) :
    headEnd + 4 ≤ buffer.length ∧
      ∀ more, findDoubleCrlf (buffer ++ more) = some headEnd := by
  obtain ⟨m, hfind⟩ : ∃ m, WebOrigin.headEndFrom buffer 0 = (some headEnd, m) :=
    ⟨_, Prod.ext h rfl⟩
  obtain ⟨-, hlength, hmore⟩ := WebOrigin.headEndFrom_of_some hfind
  refine ⟨by omega, fun more => ?_⟩
  exact congrArg Prod.fst (hmore more)

/-- The end is found in what has it, and not before. -/
theorem findDoubleCrlf_take {stream : List UInt8} {headEnd : ℕ}
    (h : findDoubleCrlf stream = some headEnd) (count : ℕ) :
    findDoubleCrlf (stream.take count) =
      if headEnd + 4 ≤ count then some headEnd else none := by
  have hend : ∀ found, findDoubleCrlf (stream.take count) = some found →
      found = headEnd ∧ headEnd + 4 ≤ count := by
    intro found hfound
    obtain ⟨hlength, hmore⟩ := findDoubleCrlf_of_some hfound
    have hwhole := hmore (stream.drop count)
    rw [List.take_append_drop, h] at hwhole
    obtain rfl := Option.some.inj hwhole
    rw [List.length_take] at hlength
    exact ⟨rfl, by omega⟩
  cases hfound : findDoubleCrlf (stream.take count) with
  | some found =>
      obtain ⟨rfl, hle⟩ := hend found hfound
      rw [if_pos hle]
  | none =>
      rw [if_neg]
      intro hle
      obtain ⟨before, after, rfl, hbefore⟩ :=
        WebOrigin.eq_append_of_headEndFrom
          (Prod.ext h rfl : WebOrigin.headEndFrom stream 0 = (some headEnd, _))
      rw [Nat.zero_add] at hbefore
      rw [List.take_append, List.take_of_length_le] at hfound
      · exact WebOrigin.headEndFrom_ne_none before _ 0 _
          (Prod.ext hfound rfl :
            WebOrigin.headEndFrom (before ++ WebOrigin.terminator ++ _) 0 =
              (none, _))
      · rw [List.length_append, WebOrigin.terminator]
        simp only [List.length_cons, List.length_nil]
        omega

theorem headEnough_eq_false_iff {buffer : List UInt8} :
    headEnough buffer = false ↔
      findDoubleCrlf buffer = none ∧ buffer.length < maxControlBytes := by
  rw [headEnough, Bool.or_eq_false_iff, Option.isSome_eq_false_iff,
    Option.isNone_iff_eq_none, decide_eq_false_iff_not, Nat.not_le]

/-! ## What is read at most -/

theorem length_readUntil_le {enough : List UInt8 → Bool}
    {buffer : List UInt8} {reads : List (List UInt8)} {bound : ℕ}
    (hbound : ∀ bytes, enough bytes = false → bytes.length < bound)
    (hsizes : ∀ chunk ∈ reads, chunk.length ≤ readBuffer) :
    (readUntil enough buffer reads).1.length ≤ buffer.length ∨
      (readUntil enough buffer reads).1.length < bound + readBuffer := by
  obtain ⟨used, hreads, hbuffer, hwanted, -⟩ :=
    readUntil_spec enough buffer reads
  rw [hbuffer]
  by_cases hused : used = []
  · left
    rw [hused, List.flatten_nil, List.append_nil]
  · right
    refine hwanted.length_le hbound (fun chunk hchunk => hsizes chunk ?_) hused
    rw [hreads]
    exact List.mem_append_left _ hchunk

/-- The buffer in which the end of the head is looked for, and the reads behind
it. -/
def headBuffer (reads : List (List UInt8)) :
    List UInt8 × List (List UInt8) :=
  readUntil headEnough [] reads

/-- The loop that reads a body of the given length. -/
def bodyBuffer (length : ℕ) (body : List UInt8) (reads : List (List UInt8)) :
    List UInt8 × List (List UInt8) :=
  readUntil (fun body => decide (length ≤ body.length)) body reads

/-- The request stops behind its head or behind its body. -/
theorem readControlRequest_unread (reads : List (List UInt8)) :
    (readControlRequest reads).2 = (headBuffer reads).2 ∨
      ∃ headEnd head, findDoubleCrlf (headBuffer reads).1 = some headEnd ∧
        parseControlHead ((headBuffer reads).1.take headEnd) = .ok head ∧
        head.length ≤ maxControlBytes ∧
        (readControlRequest reads).2 =
          (bodyBuffer head.length ((headBuffer reads).1.drop (headEnd + 4))
            (headBuffer reads).2).2 := by
  rw [readControlRequest]
  cases hfind : findDoubleCrlf (headBuffer reads).1 with
  | none =>
      left
      dsimp only
      rw [← headBuffer, hfind]
      dsimp only
      split_ifs
      · rfl
      · rfl
  | some headEnd =>
      dsimp only
      rw [← headBuffer, hfind]
      dsimp only
      cases hparse : parseControlHead ((headBuffer reads).1.take headEnd) with
      | error status => exact .inl rfl
      | ok head =>
          dsimp only
          by_cases hlarge : maxControlBytes < head.length
          · rw [if_pos hlarge]
            exact .inl rfl
          · right
            rw [if_neg hlarge]
            refine ⟨headEnd, head, rfl, hparse, Nat.not_lt.mp hlarge, ?_⟩
            split_ifs
            · rfl
            · rfl

theorem Arrives.length_le {reads : List (List UInt8)} {stream : List UInt8}
    (h : Arrives reads stream) :
    ∀ chunk ∈ reads, chunk.length ≤ readBuffer :=
  fun chunk hchunk => (h.sizes chunk hchunk).2

/-- The first loop reads less than a read beyond its bound. -/
theorem exists_headBuffer {reads : List (List UInt8)} {stream : List UInt8}
    (h : Arrives reads stream) :
    ∃ used, reads = used ++ (headBuffer reads).2 ∧
      (headBuffer reads).1 = used.flatten ∧
      stream = (headBuffer reads).1 ++ (headBuffer reads).2.flatten ∧
      (headBuffer reads).1.length < maxControlBytes + readBuffer := by
  obtain ⟨used, hreads, hbuffer, -, -⟩ := readUntil_spec headEnough [] reads
  refine ⟨used, hreads, hbuffer, ?_, ?_⟩
  · rw [← h.bytes, headBuffer, hbuffer, List.nil_append, ← List.flatten_append,
      ← hreads]
  · rcases @length_readUntil_le headEnough [] reads maxControlBytes
      (fun bytes hbytes => (headEnough_eq_false_iff.mp hbytes).2)
      h.length_le with hle | hlt
    · exact lt_of_le_of_lt hle (by decide)
    · exact hlt

/-- The second loop reads less than a read beyond the length of the body. -/
theorem exists_bodyBuffer {length : ℕ} {body : List UInt8}
    {reads : List (List UInt8)}
    (hsizes : ∀ chunk ∈ reads, chunk.length ≤ readBuffer) :
    ∃ used, reads = used ++ (bodyBuffer length body reads).2 ∧
      (bodyBuffer length body reads).1 = body ++ used.flatten ∧
      (used = [] ∨ 0 < length ∧
        (body ++ used.flatten).length < length + readBuffer) := by
  obtain ⟨used, hreads, hbuffer, hwanted, -⟩ := readUntil_spec
    (fun body : List UInt8 => decide (length ≤ body.length)) body reads
  refine ⟨used, hreads, hbuffer, ?_⟩
  have hbound : ∀ bytes : List UInt8,
      decide (length ≤ bytes.length) = false → bytes.length < length := by
    intro bytes hbytes
    exact Nat.not_le.mp (of_decide_eq_false hbytes)
  cases used with
  | nil => exact .inl rfl
  | cons chunk used =>
      right
      refine ⟨Nat.zero_lt_of_lt (hbound _ (hwanted [] chunk used rfl)), ?_⟩
      refine hwanted.length_le hbound (fun other hother => hsizes other ?_)
        (List.cons_ne_nil _ _)
      rw [hreads]
      exact List.mem_append_left _ hother

/-- Within the condition no split makes the listener read more. -/
theorem consumed_le {reads : List (List UInt8)} {stream : List UInt8}
    (h : Arrives reads stream)
    (hcond : stream.length ≤ maxControlBytes + readBuffer ∨
      DeclaresWithin stream) :
    consumed reads ≤ maxControlBytes + readBuffer := by
  obtain ⟨used, hreads, hbuffer, hstream, hlt⟩ := exists_headBuffer h
  have hlength : reads.flatten.length =
      (headBuffer reads).1.length + (headBuffer reads).2.flatten.length := by
    rw [h.bytes, ← List.length_append, ← hstream]
  rw [consumed]
  rcases readControlRequest_unread reads with hunread | ⟨headEnd, head, hfind,
    hparse, hsmall, hunread⟩
  · rw [hunread]
    omega
  · obtain ⟨used', hreads', -, hbody⟩ := @exists_bodyBuffer head.length
      ((headBuffer reads).1.drop (headEnd + 4)) (headBuffer reads).2
      fun chunk hchunk =>
        h.length_le chunk (hreads ▸ List.mem_append_right _ hchunk)
    have hrest := congrArg (List.length ∘ List.flatten) hreads'
    rw [← hunread, Function.comp_apply, Function.comp_apply,
      List.flatten_append, List.length_append] at hrest
    obtain ⟨hle, hmore⟩ := findDoubleCrlf_of_some hfind
    have hfirst : findDoubleCrlf stream = some headEnd := by
      rw [hstream]
      exact hmore _
    have htake : stream.take headEnd = (headBuffer reads).1.take headEnd := by
      rw [hstream]
      exact List.take_append_of_le_length (by omega)
    rcases hbody with hnone | ⟨hpos, hbody⟩
    · rw [hnone, List.flatten_nil, List.length_nil] at hrest
      omega
    · rw [List.length_append, List.length_drop] at hbody
      rcases hcond with hshort | hwithin
      · rw [← h.bytes] at hshort
        omega
      · have hdeclared := hwithin headEnd head hfirst (by omega)
          (htake ▸ hparse) hsmall hpos
        omega

/-! ## The worst split -/

/-- A head that is read and declares a body within its own bound. -/
theorem readControlRequest_of_ok {reads left : List (List UInt8)}
    {buffer : List UInt8} {headEnd : ℕ} {head : ControlHead}
    (hbuffer : headBuffer reads = (buffer, left))
    (hfind : findDoubleCrlf buffer = some headEnd)
    (hparse : parseControlHead (buffer.take headEnd) = .ok head)
    (hsmall : head.length ≤ maxControlBytes) :
    readControlRequest reads =
      (if (bodyBuffer head.length (buffer.drop (headEnd + 4)) left).1.length <
            head.length then .error statusBadRequest
        else
          .ok
            { post := head.post
              path := head.path
              token := head.token
              body := (bodyBuffer head.length (buffer.drop (headEnd + 4))
                left).1.take head.length },
        (bodyBuffer head.length (buffer.drop (headEnd + 4)) left).2) := by
  rw [readControlRequest, ← headBuffer, hbuffer]
  dsimp only
  rw [hfind]
  dsimp only
  rw [hparse]
  dsimp only
  rw [if_neg (Nat.not_lt.mpr hsmall), ← bodyBuffer]
  split_ifs
  · rfl
  · rfl

/-- The bytes of a head one by one, as far as its bound allows. -/
def headReads (stream : List UInt8) (headLength : ℕ) : List (List UInt8) :=
  let first := min (headLength - 1) (maxControlBytes - 1)
  oneByOne (stream.take first)
    ((stream.drop first).take (headLength - first))

/-- The bytes of a body one by one until the bound is exceeded, and then a full
read. -/
def bodyReads (stream : List UInt8) (headLength : ℕ) : List (List UInt8) :=
  let more := maxControlBytes + 1 - headLength
  oneByOne ((stream.drop headLength).take more)
    ((stream.drop (headLength + more)).take readBuffer)

def restReads (stream : List UInt8) (headLength : ℕ) : List (List UInt8) :=
  (stream.drop (headLength + (maxControlBytes + 1 - headLength) +
    readBuffer)).map fun byte => [byte]

def worstReads (stream : List UInt8) (headLength : ℕ) : List (List UInt8) :=
  headReads stream headLength ++
    (bodyReads stream headLength ++ restReads stream headLength)

theorem take_append_take_drop {stream : List UInt8} {m n : ℕ} (h : m ≤ n) :
    stream.take m ++ (stream.drop m).take (n - m) = stream.take n := by
  rw [← List.take_add, Nat.add_sub_cancel' h]

theorem flatten_headReads (stream : List UInt8) (headLength : ℕ) :
    (headReads stream headLength).flatten = stream.take headLength := by
  rw [headReads, flatten_oneByOne, take_append_take_drop (by omega)]

theorem flatten_bodyReads (stream : List UInt8) (headLength : ℕ) :
    (bodyReads stream headLength).flatten =
      (stream.drop headLength).take
        (maxControlBytes + 1 - headLength + readBuffer) := by
  rw [bodyReads, flatten_oneByOne, ← List.drop_drop, ← List.take_add]

theorem length_flatten_restReads (stream : List UInt8) (headLength : ℕ) :
    (restReads stream headLength).flatten.length =
      stream.length -
        (headLength + (maxControlBytes + 1 - headLength) + readBuffer) := by
  rw [restReads, ← List.flatMap_def, List.flatMap_singleton', List.length_drop]

theorem flatten_worstReads (stream : List UInt8) (headLength : ℕ) :
    (worstReads stream headLength).flatten = stream := by
  rw [worstReads, List.flatten_append, List.flatten_append, flatten_headReads,
    flatten_bodyReads, restReads, ← List.flatMap_def, List.flatMap_singleton',
    Nat.add_assoc, ← List.drop_drop, List.take_append_drop,
    List.take_append_drop]

theorem arrives_worstReads {stream : List UInt8} {headLength : ℕ}
    (hpos : 0 < headLength) (hreach : headLength < maxControlBytes + readBuffer)
    (hlong : maxControlBytes + readBuffer < stream.length) :
    Arrives (worstReads stream headLength) stream where
  bytes := flatten_worstReads stream headLength
  sizes := by
    have hsingle : ∀ bytes : List UInt8,
        ∀ chunk ∈ bytes.map (fun byte => [byte]),
          chunk ≠ [] ∧ chunk.length ≤ readBuffer := by
      intro bytes chunk hchunk
      obtain ⟨byte, -, rfl⟩ := List.mem_map.mp hchunk
      exact ⟨List.cons_ne_nil _ _, show 1 ≤ readBuffer by decide⟩
    have hpart : ∀ m n : ℕ, m < stream.length → 0 < n → n ≤ readBuffer →
        (stream.drop m).take n ≠ [] ∧
          ((stream.drop m).take n).length ≤ readBuffer := by
      intro m n hm hn hle
      have hlength : ((stream.drop m).take n).length =
          min n (stream.length - m) := by
        rw [List.length_take, List.length_drop]
      refine ⟨List.ne_nil_of_length_pos (by omega), by omega⟩
    intro chunk hchunk
    simp only [worstReads, headReads, bodyReads, restReads, oneByOne,
      List.mem_append, List.mem_singleton] at hchunk
    have hbound : maxControlBytes = 65536 := rfl
    have hread : readBuffer = 4096 := rfl
    rcases hchunk with (hchunk | rfl) | (hchunk | rfl) | hchunk
    · exact hsingle _ chunk hchunk
    · exact hpart _ _ (by omega) (by omega) (by omega)
    · exact hsingle _ chunk hchunk
    · exact hpart _ _ (by omega) (by omega) (by omega)
    · exact hsingle _ chunk hchunk

/-- In the worst split the head is read to its end and no further. -/
theorem headBuffer_worstReads {stream : List UInt8} {headEnd : ℕ}
    (hfind : findDoubleCrlf stream = some headEnd) :
    headBuffer (worstReads stream (headEnd + 4)) =
      (stream.take (headEnd + 4), bodyReads stream (headEnd + 4) ++
        restReads stream (headEnd + 4)) := by
  have hwanted : Wanted headEnough [] (headReads stream (headEnd + 4)) := by
    refine wanted_oneByOne fun count hcount => ?_
    rw [List.length_take] at hcount
    have hbound : maxControlBytes = 65536 := rfl
    rw [List.take_take, headEnough_eq_false_iff, findDoubleCrlf_take hfind,
      if_neg (by omega), List.length_take]
    exact ⟨rfl, by omega⟩
  have hdone : headEnough (stream.take (headEnd + 4)) = true := by
    rw [headEnough, findDoubleCrlf_take hfind, if_pos (Nat.le_refl _)]
    rfl
  rw [headBuffer, worstReads, readUntil_append hwanted, List.nil_append,
    flatten_headReads, readUntil_of_enough hdone]

/-- Beyond the condition the worst split exceeds the bound. -/
theorem consumed_worstReads {stream : List UInt8} {headEnd : ℕ}
    {head : ControlHead} (hfind : findDoubleCrlf stream = some headEnd)
    (hparse : parseControlHead (stream.take headEnd) = .ok head)
    (hsmall : head.length ≤ maxControlBytes) (hpos : 0 < head.length)
    (hlarge : maxControlBytes + 1 < headEnd + 4 + head.length)
    (hlong : maxControlBytes + readBuffer < stream.length) :
    maxControlBytes + readBuffer <
      consumed (worstReads stream (headEnd + 4)) := by
  have hbuffer := headBuffer_worstReads hfind
  have hfind' : findDoubleCrlf (stream.take (headEnd + 4)) = some headEnd := by
    rw [findDoubleCrlf_take hfind, if_pos (Nat.le_refl _)]
  have hparse' : parseControlHead ((stream.take (headEnd + 4)).take headEnd) =
      .ok head := by
    rw [List.take_take, Nat.min_eq_left (Nat.le_add_right _ _)]
    exact hparse
  have hwanted : Wanted
      (fun body : List UInt8 => decide (head.length ≤ body.length)) []
      (bodyReads stream (headEnd + 4)) := by
    refine wanted_oneByOne fun count hcount => ?_
    rw [List.length_take, List.length_drop] at hcount
    rw [decide_eq_false_iff_not, Nat.not_le, List.length_take]
    omega
  have hunread : (readControlRequest (worstReads stream (headEnd + 4))).2 =
      (bodyBuffer head.length (bodyReads stream (headEnd + 4)).flatten
        (restReads stream (headEnd + 4))).2 := by
    rw [readControlRequest_of_ok hbuffer hfind' hparse' hsmall]
    dsimp only
    rw [List.drop_take, Nat.sub_self, List.take_zero, bodyBuffer,
      readUntil_append hwanted, List.nil_append, bodyBuffer]
  obtain ⟨used, hrest, -, -⟩ := readUntil_spec
    (fun body : List UInt8 => decide (head.length ≤ body.length))
    (bodyReads stream (headEnd + 4)).flatten (restReads stream (headEnd + 4))
  have hlength := congrArg (List.length ∘ List.flatten) hrest
  rw [Function.comp_apply, Function.comp_apply, List.flatten_append,
    List.length_append, length_flatten_restReads] at hlength
  rw [consumed, flatten_worstReads, hunread, bodyBuffer]
  omega

/-! ## Every split -/

/-- What a request that fits is read as. -/
def fittingRequest (stream : List UInt8) : Except String ControlRequest :=
  match findDoubleCrlf stream with
  | none => .error statusBadRequest
  | some headEnd => do
      let head ← parseControlHead (stream.take headEnd)
      return { post := head.post
               path := head.path
               token := head.token
               body := (stream.drop (headEnd + 4)).take head.length }

/-- The body is read in full if it is there. -/
theorem take_bodyBuffer {length : ℕ} {body : List UInt8}
    {reads : List (List UInt8)}
    (h : length ≤ (body ++ reads.flatten).length) :
    length ≤ (bodyBuffer length body reads).1.length ∧
      (bodyBuffer length body reads).1.take length =
        (body ++ reads.flatten).take length := by
  obtain ⟨used, hreads, hbuffer, -, hend⟩ := readUntil_spec
    (fun body : List UInt8 => decide (length ≤ body.length)) body reads
  rw [← bodyBuffer] at hreads hbuffer hend
  have hwhole : body ++ reads.flatten = (bodyBuffer length body reads).1 ++
      (bodyBuffer length body reads).2.flatten := by
    rw [hbuffer, List.append_assoc, ← List.flatten_append, ← hreads]
  have hle : length ≤ (bodyBuffer length body reads).1.length := by
    rcases hend with henough | hnone
    · exact of_decide_eq_true henough
    · rw [hwhole, hnone, List.flatten_nil, List.append_nil] at h
      exact h
  refine ⟨hle, ?_⟩
  rw [hwhole, List.take_append_of_le_length hle]

/-- A request that fits is read in the same way from every split. -/
theorem readControlRequest_of_fits {reads : List (List UInt8)}
    {stream : List UInt8} (h : Arrives reads stream) (hfits : Fits stream) :
    (readControlRequest reads).1 = fittingRequest stream := by
  obtain ⟨headEnd, hfind, hhead, hbody⟩ := hfits
  obtain ⟨used, hreads, hbuffer, hstream, -⟩ := exists_headBuffer h
  have hstart : (headBuffer reads).1 =
      stream.take (headBuffer reads).1.length :=
    List.prefix_iff_eq_take.mp ⟨_, hstream.symm⟩
  have hlong : headEnd + 4 ≤ (headBuffer reads).1.length := by
    obtain ⟨-, -, -, -, hend⟩ := readUntil_spec headEnough [] reads
    rw [← headBuffer] at hend
    by_contra hshort
    have hnone : findDoubleCrlf (headBuffer reads).1 = none := by
      rw [hstart, findDoubleCrlf_take hfind, if_neg hshort]
    rcases hend with henough | hall
    · rw [headEnough, hnone, Option.isSome_none, Bool.false_or,
        decide_eq_true_eq] at henough
      omega
    · rw [hall, List.flatten_nil, List.append_nil] at hstream
      rw [← hstream, hfind] at hnone
      exact absurd hnone nofun
  have hfind' : findDoubleCrlf (headBuffer reads).1 = some headEnd := by
    rw [hstart, findDoubleCrlf_take hfind, if_pos hlong]
  have htake : (headBuffer reads).1.take headEnd = stream.take headEnd := by
    rw [hstart, List.take_take, Nat.min_eq_left (by omega)]
  have hdrop : stream.drop (headEnd + 4) =
      (headBuffer reads).1.drop (headEnd + 4) ++
        (headBuffer reads).2.flatten := by
    conv_lhs => rw [hstream]
    exact List.drop_append_of_le_length hlong
  rw [fittingRequest, hfind]
  dsimp only
  cases hparse : parseControlHead (stream.take headEnd) with
  | error status =>
      rw [readControlRequest, ← headBuffer]
      dsimp only
      rw [hfind']
      dsimp only
      rw [htake, hparse]
      rfl
  | ok head =>
      obtain ⟨hsmall, hcomplete⟩ := hbody head hparse
      have hthere : head.length ≤ ((headBuffer reads).1.drop (headEnd + 4) ++
          (headBuffer reads).2.flatten).length := by
        rw [← hdrop, List.length_drop]
        omega
      obtain ⟨hle, hbytes⟩ := take_bodyBuffer hthere
      have hpair : headBuffer reads =
          ((headBuffer reads).1, (headBuffer reads).2) := rfl
      rw [readControlRequest_of_ok hpair hfind' (htake ▸ hparse) (by omega)]
      dsimp only
      rw [if_neg (Nat.not_lt.mpr hle), hbytes, hdrop]
      rfl

/-- The bound holds for every split exactly if the stream is within it, or its
head declares no body that would exceed it. -/
theorem boundIsReal_iff (stream : List UInt8) :
    BoundIsReal stream ↔
      stream.length ≤ maxControlBytes + readBuffer ∨ DeclaresWithin stream := by
  constructor
  · intro h
    by_contra hcond
    rw [not_or, Nat.not_le] at hcond
    obtain ⟨hlong, hdeclares⟩ := hcond
    refine hdeclares fun headEnd head hfind hreach hparse hsmall hpos => ?_
    by_contra hlarge
    have hworst := h.bounded _
      (arrives_worstReads (Nat.succ_pos (headEnd + 3)) hreach hlong)
    exact absurd (consumed_worstReads hfind hparse hsmall hpos
      (Nat.not_le.mp hlarge) hlong) (Nat.not_lt.mpr hworst)
  · intro hcond
    refine ⟨fun reads hreads => consumed_le hreads hcond, ?_⟩
    intro hfits reads reads' hreads hreads'
    rw [readControlRequest_of_fits hreads hfits,
      readControlRequest_of_fits hreads' hfits]

/-- A head that declares a body of the largest size. -/
def largeHead : List UInt8 :=
  "POST /report HTTP/1.1\r\nContent-Length: 65536\r\n\r\n".toUTF8.toList

def largeRequest : List UInt8 :=
  largeHead ++ List.replicate 70000 0

/-- The head and the body are each within the bound, and exceed it together. -/
theorem not_boundIsReal_largeRequest : ¬ BoundIsReal largeRequest := by
  have hend : findDoubleCrlf largeHead = some 44 := by decide +kernel
  have hlength : largeHead.length = 48 := by decide +kernel
  have hparse : parseControlHead (largeHead.take 44) =
      .ok ⟨true, "/report", none, 65536⟩ := by
    decide +kernel
  rw [boundIsReal_iff, not_or, Nat.not_le]
  constructor
  · rw [largeRequest, List.length_append, List.length_replicate, hlength]
    decide
  · intro h
    have hfind := (findDoubleCrlf_of_some hend).2 (List.replicate 70000 0)
    have htake : largeRequest.take 44 = largeHead.take 44 :=
      List.take_append_of_le_length (by omega)
    exact absurd (h 44 _ hfind (by decide) (htake ▸ hparse) (by decide)
      (by decide)) (by decide)

end ControlListener

end Darcbench
