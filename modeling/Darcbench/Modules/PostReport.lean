import Darcbench.Modules.ControlRead
import Darcbench.Modules.HttpClient

/-!
# Posting the report of a session

The generator posts its report to the control listener and reads the status of
the answer.  Both directions arrive in pieces, and may be cut off at any byte.
-/

namespace Darcbench

open WebOrigin HttpClient

/-! ## What the generator does -/

/-- Where the report is posted, and the secret. -/
structure Ticket where
  control : SocketAddr
  token : SessionToken

/-- Why a report was not delivered, as far as the generator knows. -/
inductive TransportError where
  | connect (error : String)
  | write (error : String)
  | read (error : String)
  | closed
  | noStatusLine
  | unreadableLine
  | unreadableStatus (line : List Char)
  | refusedToken
  | conflict
  | answered (code : ℕ)
  deriving DecidableEq

def TransportError.message : TransportError → String
  | connect error => "connect: " ++ error
  | write error => "write: " ++ error
  | read error => "read: " ++ error
  | closed => "the target closed without answering"
  | noStatusLine => "the peer did not send an HTTP status line"
  | unreadableLine => "unreadable status line"
  | unreadableStatus line => "unreadable status: " ++ String.ofList line
  | refusedToken => "the target refused the session token"
  | conflict => "the target already has a report for this session"
  | answered code => "the target answered " ++ toString code ++ " to the report"

namespace Ticket

/-- The pieces of the text of a post. -/
def postText : List Char := "POST /report HTTP/1.1\r\nHost: ".toList

def sessionText : List Char := "\r\nx-darcbench-session: ".toList

def jsonText : List Char :=
  "\r\nContent-Type: application/json\r\nContent-Length: ".toList

def closeText : List Char := "\r\nConnection: close\r\n\r\n".toList

def headOf (ticket : Ticket) (length : ℕ) : List Char :=
  postText ++ ticket.control.text ++ sessionText ++ ticket.token.toHex ++
    jsonText ++ Nat.toDigits 10 length ++ closeText

/-- All that the generator writes. -/
def post (ticket : Ticket) (body : List UInt8) : List UInt8 :=
  utf8 (ticket.headOf body.length) ++ body

/-- The longest status line that is waited for, in bytes. -/
def statusLineBytes : ℕ := 1024

/-- The number in a status line. -/
def statusOf (line : List UInt8) : Except TransportError ℕ :=
  match decodeUtf8 line with
  | none => .error .unreadableLine
  | some line =>
      match (line.splitOn ' ')[1]?.bind Words.parseU16 with
      | none => .error (.unreadableStatus line)
      | some code => .ok code

/-- Reads the status of the answer.  When no read is left the peer has closed, or
the next read fails. -/
def readStatus (failed : Option String) (buffer : List UInt8) :
    List (List UInt8) → Except TransportError ℕ
  | [] =>
      if 13 ∈ buffer then statusOf (buffer.takeWhile (· ≠ 13))
      else if statusLineBytes < buffer.length then .error .noStatusLine
      else
        match failed with
        | none => .error .closed
        | some error => .error (.read error)
  | chunk :: reads =>
      if 13 ∈ buffer then statusOf (buffer.takeWhile (· ≠ 13))
      else if statusLineBytes < buffer.length then .error .noStatusLine
      else readStatus failed (buffer ++ chunk) reads

/-- What the generator makes of the answer. -/
def outcome (failed : Option String) (reads : List (List UInt8)) :
    Except TransportError Unit := do
  match ← readStatus failed [] reads with
  | 202 => return ()
  | 401 => throw .refusedToken
  | 409 => throw .conflict
  | other => throw (.answered other)

end Ticket

/-! ## What the listener does -/

namespace ControlListener

def protocolText : List Char := "HTTP/1.1 ".toList

def typeText : List Char :=
  "\r\nContent-Type: application/json\r\nContent-Length: ".toList

def closeText : List Char := "\r\nConnection: close\r\n\r\n".toList

def responseBytes (status : String) (body : List UInt8) : List UInt8 :=
  utf8 (protocolText ++ status.toList ++ typeText ++
    Nat.toDigits 10 body.length ++ closeText) ++ body

/-- Answers a connection.  The texts of the bodies come from a library. -/
def serveControl (parse : ReportParser) (render : ControlBody → List UInt8)
    (token : SessionToken) (inbox : Option SessionReport)
    (reads : List (List UInt8)) : List UInt8 × Option SessionReport :=
  match (readControlRequest reads).1 with
  | .error status => (responseBytes status [], inbox)
  | .ok request =>
      let (answer, inbox) := handleControlRequest parse request token inbox
      (responseBytes answer.status (render answer.body), inbox)

end ControlListener

/-! ## A post as a head -/

namespace Ticket

def postLine : List Char := "POST /report HTTP/1.1".toList

def sessionLine : List Char := "x-darcbench-session: ".toList

def jsonLine : List Char := "Content-Type: application/json".toList

def closeLine : List Char := "Connection: close".toList

def headLines (ticket : Ticket) (length : ℕ) : List (List Char) :=
  [postLine, hostLine ++ ticket.control.text,
    sessionLine ++ ticket.token.toHex, jsonLine,
    lengthLine ++ Nat.toDigits 10 length, closeLine]

theorem headLines_ne_nil (ticket : Ticket) (length : ℕ) :
    ticket.headLines length ≠ [] :=
  List.cons_ne_nil _ _

theorem postText_eq : postText = postLine ++ '\r' :: '\n' :: hostLine := by
  decide

theorem sessionText_eq : sessionText = '\r' :: '\n' :: sessionLine := by decide

theorem jsonText_eq : jsonText =
    '\r' :: '\n' :: (jsonLine ++ '\r' :: '\n' :: lengthLine) := by
  decide

theorem closeText_eq : closeText =
    '\r' :: '\n' :: (closeLine ++ "\r\n\r\n".toList) := by
  decide

/-- What is written is a head and the report behind it. -/
theorem post_eq (ticket : Ticket) (body : List UInt8) :
    ticket.post body = headBytes (ticket.headLines body.length) ++ body := by
  have hend : terminator = utf8 "\r\n\r\n".toList := by decide
  have htext : ticket.headOf body.length =
      headText (ticket.headLines body.length) ++ "\r\n\r\n".toList := by
    rw [headOf, postText_eq, sessionText_eq, jsonText_eq, closeText_eq]
    generalize "\r\n\r\n".toList = ending
    simp only [headLines, headText, List.append_assoc, List.cons_append]
  rw [post, htext, utf8_append, headBytes, hend]

theorem isHeadLine_headLines (ticket : Ticket) (length : ℕ) :
    ∀ line ∈ ticket.headLines length, IsHeadLine line := by
  have hpost : IsHeadLine postLine := isHeadLine_of_all (by decide) (by decide)
  have hhost : IsHeadLine hostLine := isHeadLine_of_all (by decide) (by decide)
  have hsession : IsHeadLine sessionLine :=
    isHeadLine_of_all (by decide) (by decide)
  have hjson : IsHeadLine jsonLine := isHeadLine_of_all (by decide) (by decide)
  have hlength : IsHeadLine lengthLine :=
    isHeadLine_of_all (by decide) (by decide)
  have hclose : IsHeadLine closeLine :=
    isHeadLine_of_all (by decide) (by decide)
  intro line hline
  unfold headLines at hline
  rw [List.mem_cons, List.mem_cons, List.mem_cons, List.mem_cons,
    List.mem_cons, List.mem_singleton] at hline
  rcases hline with rfl | rfl | rfl | rfl | rfl | rfl
  · exact hpost
  · exact isHeadLine_append hhost ticket.control.visible
  · exact isHeadLine_append hsession ticket.token.isPrintable_toHex
  · exact hjson
  · exact isHeadLine_append hlength (isPrintable_toDigits length)
  · exact hclose

theorem isHead_post (ticket : Ticket) {length : ℕ} (h : length ≤ u64Max) :
    IsHead (headBytes (ticket.headLines length)) := by
  have hlines := ticket.isHeadLine_headLines length
  apply isHead_headBytes (ticket.headLines_ne_nil length) hlines
  have hdigits : (Nat.toDigits 10 length).length ≤ 20 :=
    (Nat.length_toDigits_le_iff (by decide) (by decide)).mpr
      (lt_of_le_of_lt h (by decide))
  have hcontrol := ticket.control.length_le
  have htoken := ticket.token.length_toHex
  have hpost : postLine.length = 21 := by decide
  have hhost : hostLine.length = 6 := by decide
  have hsession : sessionLine.length = 21 := by decide
  have hjson : jsonLine.length = 30 := by decide
  have hlength : lengthLine.length = 16 := by decide
  have hclose : closeLine.length = 17 := by decide
  have hsum : ((ticket.headLines length).map
      fun line => line.length + 2).sum ≤ 400 := by
    simp only [headLines, List.map_cons, List.map_nil, List.sum_cons,
      List.sum_nil, List.length_append]
    omega
  have htext := length_headText_le (ticket.headLines length)
  rw [length_headBytes, length_utf8 (ascii_headText hlines), maxHeadBytes]
  omega

theorem take_isHead (lines : List (List Char)) :
    (headBytes lines).take ((headBytes lines).length - 4) =
      utf8 (headText lines) := by
  rw [length_headBytes, Nat.add_sub_cancel, headBytes, List.take_left]

def hostName : List Char := "Host".toList

def typeName : List Char := "Content-Type".toList

def lengthName : List Char := "Content-Length".toList

def closeName : List Char := "Connection".toList

/-- A header that the listener has no use for. -/
theorem parseControlHeaders_other {name value : List Char}
    (hcolon : ':' ∉ name)
    (hblank : name.head? ≠ none ∧ name.head? ≠ some ' ' ∧
      name.head? ≠ some '\t')
    (hlength : eqIgnoreAsciiCase name "content-length".toList = false)
    (hencoding : eqIgnoreAsciiCase name "transfer-encoding".toList = false)
    (htoken : eqIgnoreAsciiCase name ControlListener.tokenHeader = false)
    (token : Option SessionToken) (length : ℕ) (lines : List (List Char)) :
    ControlListener.parseControlHeaders token length
        ((name ++ ':' :: value) :: lines) =
      ControlListener.parseControlHeaders token length lines := by
  have hhead : (name ++ ':' :: value).head? = name.head? := by
    obtain ⟨c, hc⟩ := Option.ne_none_iff_exists'.mp hblank.1
    rw [List.head?_append, hc]
    rfl
  rw [ControlListener.parseControlHeaders, hhead,
    if_neg (not_or.mpr hblank.2), splitColon_append hcolon]
  dsimp only
  rw [hlength, hencoding, htoken, if_neg Bool.false_ne_true,
    if_neg Bool.false_ne_true, if_neg Bool.false_ne_true]

theorem parseControlHeaders_session (ticket : Ticket) (length : ℕ)
    (lines : List (List Char)) :
    ControlListener.parseControlHeaders none length
        ((sessionLine ++ ticket.token.toHex) :: lines) =
      ControlListener.parseControlHeaders (some ticket.token) length lines := by
  have hline : sessionLine ++ ticket.token.toHex =
      ControlListener.tokenHeader ++ ':' :: ' ' :: ticket.token.toHex := rfl
  have hfirst : (ControlListener.tokenHeader ++
      ':' :: ' ' :: ticket.token.toHex).head? = some 'x' := rfl
  have hlength : eqIgnoreAsciiCase ControlListener.tokenHeader
      "content-length".toList = false := by decide
  have hencoding : eqIgnoreAsciiCase ControlListener.tokenHeader
      "transfer-encoding".toList = false := by decide
  have hname : eqIgnoreAsciiCase ControlListener.tokenHeader
      ControlListener.tokenHeader = true := decide_eq_true rfl
  rw [hline, ControlListener.parseControlHeaders, hfirst, if_neg (by decide),
    splitColon_append (by decide)]
  dsimp only
  rw [hlength, hencoding, hname, if_neg Bool.false_ne_true,
    if_neg Bool.false_ne_true, if_pos rfl,
    trim_space ticket.token.isPrintable_toHex, ticket.token.fromStr_toHex]

theorem parseControlHeaders_length (token : Option SessionToken) {length : ℕ}
    (h : length ≤ u64Max) (lines : List (List Char)) :
    ControlListener.parseControlHeaders token 0
        ((lengthLine ++ Nat.toDigits 10 length) :: lines) =
      ControlListener.parseControlHeaders token length lines := by
  have hline : lengthLine ++ Nat.toDigits 10 length =
      lengthName ++ ':' :: ' ' :: Nat.toDigits 10 length := rfl
  have hfirst : (lengthName ++ ':' :: ' ' :: Nat.toDigits 10 length).head? =
      some 'C' := rfl
  have hname : eqIgnoreAsciiCase lengthName "content-length".toList = true := by
    decide
  have hparse : Words.parseU64 (Nat.toDigits 10 length) = some length :=
    (Words.eq_toDigits_iff.mp ⟨rfl, h⟩).2.2.2
  rw [hline, ControlListener.parseControlHeaders, hfirst, if_neg (by decide),
    splitColon_append (by decide)]
  dsimp only
  rw [if_pos hname, trim_space (isPrintable_toDigits length), hparse]

/-- The listener understands the head as it was meant. -/
theorem parseControlHead_post (ticket : Ticket) {length : ℕ}
    (h : length ≤ u64Max) :
    ControlListener.parseControlHead
        (utf8 (headText (ticket.headLines length))) =
      .ok ⟨true, reportPath, some ticket.token, length⟩ := by
  have hfirst : postLine.splitOn ' ' =
      ["POST".toList, reportPath.toList, "HTTP/1.1".toList] := by
    decide
  have hjson : jsonLine =
      typeName ++ ':' :: " application/json".toList := rfl
  have hclose : closeLine = closeName ++ ':' :: " close".toList := rfl
  have hhost : hostLine ++ ticket.control.text =
      hostName ++ ':' :: ' ' :: ticket.control.text := rfl
  rw [ControlListener.parseControlHead, decodeUtf8_utf8]
  dsimp only
  rw [splitCrlf_headText (ticket.headLines_ne_nil length)
    (ticket.isHeadLine_headLines length), headLines]
  dsimp only
  rw [hfirst]
  dsimp only
  rw [hhost, parseControlHeaders_other (by decide) (by decide) (by decide)
      (by decide) (by decide),
    parseControlHeaders_session, hjson,
    parseControlHeaders_other (by decide) (by decide) (by decide) (by decide)
      (by decide),
    parseControlHeaders_length _ h, hclose,
    parseControlHeaders_other (by decide) (by decide) (by decide) (by decide)
      (by decide),
    ControlListener.parseControlHeaders, String.ofList_toList]
  rfl

end Ticket

/-! ## A request that is cut off -/

namespace ControlListener

variable {head body sent : List UInt8} {reads : List (List UInt8)}

/-- The buffer in which the end of a head is looked for has it, if it has
arrived. -/
theorem headBuffer_of_prefix (hhead : IsHead head)
    (hsent : sent <+: head ++ body) (hreads : reads.flatten = sent) :
    (sent.length < head.length → (headBuffer reads).1 = sent) ∧
      (head.length ≤ sent.length → ∃ more,
        (headBuffer reads).1 = head ++ more ∧
          more ++ (headBuffer reads).2.flatten = sent.drop head.length) := by
  obtain ⟨used, hused, hbuffer, -, hend⟩ := readUntil_spec headEnough [] reads
  rw [List.nil_append] at hbuffer
  have hwhole : (headBuffer reads).1 ++ (headBuffer reads).2.flatten = sent := by
    rw [← hreads, headBuffer, hbuffer, ← List.flatten_append, ← hused]
  have hbounded : head.length ≤ maxHeadBytes := hhead.bounded
  -- A buffer that is shorter than the head will not do.
  have hmore : (headBuffer reads).1.length < head.length →
      (headBuffer reads).2 = [] := by
    intro hlt
    have hpart : (headBuffer reads).1 <+: head :=
      List.prefix_of_prefix_length_le
        (List.IsPrefix.trans ⟨_, hwhole⟩ hsent) ⟨_, rfl⟩ (le_of_lt hlt)
    obtain ⟨m, hfind⟩ := hhead.findHeadEnd_of_lt hpart hlt
    rcases hend with henough | hnil
    · have hnot : headEnough (headBuffer reads).1 = false := by
        rw [headEnough_eq_false_iff, findDoubleCrlf, hfind]
        refine ⟨rfl, lt_of_lt_of_le hlt (le_trans hbounded (by decide))⟩
      rw [headBuffer] at hnot
      exact absurd (henough.symm.trans hnot) (by simp)
    · exact hnil
  constructor
  · intro hshort
    have hle : (headBuffer reads).1.length ≤ sent.length := by
      rw [← hwhole, List.length_append]
      exact Nat.le_add_right _ _
    rw [hmore (lt_of_le_of_lt hle hshort), List.flatten_nil,
      List.append_nil] at hwhole
    exact hwhole
  · intro hcomplete
    have hle : head.length ≤ (headBuffer reads).1.length := by
      by_contra hlt
      rw [hmore (Nat.not_le.mp hlt), List.flatten_nil,
        List.append_nil] at hwhole
      rw [hwhole] at hlt
      exact hlt hcomplete
    obtain ⟨more, hmore⟩ : head <+: (headBuffer reads).1 :=
      List.prefix_of_prefix_length_le ⟨_, rfl⟩
        (List.IsPrefix.trans ⟨_, hwhole⟩ hsent) hle
    refine ⟨more, hmore.symm, ?_⟩
    rw [← hwhole, ← hmore, List.append_assoc, List.drop_left]

/-- The body is there as soon as it has arrived. -/
theorem bodyBuffer_of_prefix {more rest : List UInt8}
    (hrest : more ++ reads.flatten = rest) (hbody : rest <+: body) :
    ((bodyBuffer body.length more reads).1.length < body.length ↔
      rest ≠ body) ∧
      (rest = body →
        (bodyBuffer body.length more reads).1.take body.length = body) := by
  obtain ⟨used, hused, hbuffer, -, hend⟩ := readUntil_spec
    (fun bytes : List UInt8 => decide (body.length ≤ bytes.length)) more reads
  have hwhole : (bodyBuffer body.length more reads).1 ++
      (bodyBuffer body.length more reads).2.flatten = rest := by
    rw [← hrest, bodyBuffer, hbuffer, List.append_assoc,
      ← List.flatten_append, ← hused]
  have hpart : (bodyBuffer body.length more reads).1 <+: body :=
    List.IsPrefix.trans ⟨_, hwhole⟩ hbody
  have hfull : rest = body →
      (bodyBuffer body.length more reads).1 = body := by
    rintro rfl
    rcases hend with henough | hnil
    · exact hpart.eq_of_length_le (of_decide_eq_true henough)
    · have hnone : (bodyBuffer rest.length more reads).2 = [] := hnil
      rw [hnone, List.flatten_nil, List.append_nil] at hwhole
      exact hwhole
  refine ⟨⟨?_, ?_⟩, ?_⟩
  · intro hlt heq
    rw [hfull heq] at hlt
    exact absurd hlt (Nat.lt_irrefl _)
  · intro hne
    by_contra hle
    have heq := hpart.eq_of_length_le (Nat.not_lt.mp hle)
    rw [heq] at hwhole
    exact hne (hbody.eq_of_length_le (by
      rw [← hwhole, List.length_append]
      exact Nat.le_add_right _ _))
  · intro heq
    rw [hfull heq, List.take_length]

/-- However a request arrives, and wherever it is cut off, it is read as a whole
or it is refused. -/
theorem readControlRequest_of_prefix (hhead : IsHead head)
    {control : ControlHead}
    (hparse : parseControlHead (head.take (head.length - 4)) = .ok control)
    (hlength : control.length = body.length)
    (hsent : sent <+: head ++ body) (hreads : reads.flatten = sent) :
    (readControlRequest reads).1 =
      if sent.length < head.length then .error statusBadRequest
      else if maxControlBytes < body.length then .error statusTooLarge
      else if sent ≠ head ++ body then .error statusBadRequest
      else .ok ⟨control.post, control.path, control.token, body⟩ := by
  obtain ⟨hshort, hcomplete⟩ := headBuffer_of_prefix hhead hsent hreads
  have hbounded : head.length ≤ maxHeadBytes := hhead.bounded
  by_cases hlt : sent.length < head.length
  · have hbuffer := hshort hlt
    have hpart : sent <+: head :=
      List.prefix_of_prefix_length_le hsent ⟨_, rfl⟩ (le_of_lt hlt)
    obtain ⟨m, hfind⟩ := hhead.findHeadEnd_of_lt hpart hlt
    have hnone : findDoubleCrlf (headBuffer reads).1 = none := by
      rw [hbuffer, findDoubleCrlf, hfind]
    have hsmall : ¬ maxControlBytes ≤ (headBuffer reads).1.length := by
      have hle : maxHeadBytes ≤ maxControlBytes := by decide
      rw [hbuffer]
      omega
    rw [if_pos hlt, readControlRequest, ← headBuffer]
    dsimp only
    rw [hnone]
    dsimp only
    rw [if_neg hsmall]
  · obtain ⟨more, hbuffer, hrest⟩ := hcomplete (Nat.not_lt.mp hlt)
    obtain ⟨m, hfind⟩ := hhead.findHeadEnd_append more
    have hfour := Nat.sub_add_cancel hhead.four_le_length
    have hfound : findDoubleCrlf (headBuffer reads).1 =
        some (head.length - 4) := by
      rw [hbuffer, findDoubleCrlf, hfind]
    have htake : (headBuffer reads).1.take (head.length - 4) =
        head.take (head.length - 4) := by
      rw [hbuffer]
      exact List.take_append_of_le_length (Nat.sub_le _ _)
    have hdrop : (headBuffer reads).1.drop (head.length - 4 + 4) = more := by
      rw [hbuffer, hfour, List.drop_left]
    have hsplit : sent = head ++ sent.drop head.length := by
      have hstart : head <+: sent :=
        List.prefix_of_prefix_length_le ⟨_, rfl⟩ hsent (Nat.not_lt.mp hlt)
      obtain ⟨tail, htail⟩ := hstart
      rw [← htail, List.drop_left]
    have hbody : sent.drop head.length <+: body := by
      have hparts := hsent
      rw [hsplit] at hparts
      exact (List.prefix_append_right_inj head).mp hparts
    have hiff : sent.drop head.length = body ↔ sent = head ++ body := by
      constructor
      · intro heq
        rw [hsplit, heq]
      · intro heq
        rw [heq, List.drop_left]
    obtain ⟨hcut, hfull⟩ := bodyBuffer_of_prefix hrest hbody
    rw [if_neg hlt]
    by_cases hlarge : maxControlBytes < body.length
    · rw [if_pos hlarge, readControlRequest, ← headBuffer]
      dsimp only
      rw [hfound]
      dsimp only
      rw [htake, hparse]
      dsimp only
      rw [hlength, if_pos hlarge]
    · have hpair : headBuffer reads =
          ((headBuffer reads).1, (headBuffer reads).2) := rfl
      have hsmall : control.length ≤ maxControlBytes := by
        rw [hlength]
        exact Nat.not_lt.mp hlarge
      have hwhole := readControlRequest_of_ok hpair hfound
        (htake.symm ▸ hparse) hsmall
      rw [if_neg hlarge, hwhole, hdrop, hlength]
      dsimp only
      by_cases heq : sent = head ++ body
      · rw [if_neg (fun hlt => hcut.mp hlt (hiff.mpr heq)),
          if_neg (not_not.mpr heq), hfull (hiff.mpr heq)]
      · rw [if_pos (hcut.mpr fun hsame => heq (hiff.mp hsame)), if_pos heq]

/-! ## The answer -/

/-- The statuses of the listener. -/
def statuses : List String :=
  [statusBadRequest, statusTooLarge, "401 Unauthorized", "404 Not Found",
    "409 Conflict", "202 Accepted"]

def firstLine (status : String) : List Char :=
  protocolText ++ status.toList

/-- Only an acceptance is a success. -/
theorem statusOf_statuses {status : String} (h : status ∈ statuses) :
    IsHeadLine (firstLine status) ∧ (firstLine status).length ≤ 50 ∧
      ∃ code, Ticket.statusOf (utf8 (firstLine status)) = .ok code ∧
        (code = 202 ↔ status = "202 Accepted") := by
  have hstatus : ∀ line code, (line.splitOn ' ')[1]?.bind Words.parseU16 =
      some code → Ticket.statusOf (utf8 line) = .ok code := by
    intro line code hcode
    rw [Ticket.statusOf, decodeUtf8_utf8]
    dsimp only
    rw [hcode]
  unfold statuses at h
  simp only [List.mem_cons, List.not_mem_nil, or_false] at h
  rcases h with rfl | rfl | rfl | rfl | rfl | rfl
  · exact ⟨isHeadLine_of_all (by decide) (by decide), by decide, 400,
      hstatus _ _ (by decide), by decide⟩
  · exact ⟨isHeadLine_of_all (by decide) (by decide), by decide, 413,
      hstatus _ _ (by decide), by decide⟩
  · exact ⟨isHeadLine_of_all (by decide) (by decide), by decide, 401,
      hstatus _ _ (by decide), by decide⟩
  · exact ⟨isHeadLine_of_all (by decide) (by decide), by decide, 404,
      hstatus _ _ (by decide), by decide⟩
  · exact ⟨isHeadLine_of_all (by decide) (by decide), by decide, 409,
      hstatus _ _ (by decide), by decide⟩
  · exact ⟨isHeadLine_of_all (by decide) (by decide), by decide, 202,
      hstatus _ _ (by decide), by decide⟩

theorem responseBytes_eq (status : String) (body : List UInt8) :
    ∃ tail, responseBytes status body =
      utf8 (firstLine status) ++ 13 :: tail := by
  obtain ⟨rest, hrest⟩ : ∃ rest, typeText = '\r' :: rest :=
    ⟨typeText.tail, by decide⟩
  refine ⟨utf8 (rest ++ Nat.toDigits 10 body.length ++ closeText) ++ body, ?_⟩
  rw [responseBytes, hrest, ← firstLine]
  simp only [utf8_append, List.append_assoc]
  rfl

/-- The status is read as soon as its line has arrived. -/
theorem readStatus_of_prefix {line tail buffer got : List UInt8}
    {reads : List (List UInt8)} (failed : Option String) (hline : 13 ∉ line)
    (hlength : line.length ≤ Ticket.statusLineBytes)
    (hgot : got <+: line ++ 13 :: tail) (hreads : buffer ++ reads.flatten = got) :
    (line.length < got.length →
      Ticket.readStatus failed buffer reads = Ticket.statusOf line) ∧
    (got.length ≤ line.length →
      ∃ error, Ticket.readStatus failed buffer reads = .error error) := by
  have hstop : ∀ some : List UInt8, some <+: line ++ 13 :: tail →
      (13 ∈ some ↔ line.length < some.length) ∧
        (line.length < some.length → some.takeWhile (· ≠ 13) = line) := by
    intro part hpart
    have htake := List.prefix_iff_eq_take.mp hpart
    have hall : ∀ byte ∈ line, decide (byte ≠ 13) = true := fun byte hbyte =>
      decide_eq_true (ne_of_mem_of_not_mem hbyte hline)
    by_cases hlt : line.length < part.length
    · obtain ⟨more, hmore⟩ : line ++ [13] <+: part := by
        apply List.prefix_of_prefix_length_le _ hpart
        · rw [List.length_append, List.length_singleton]
          exact hlt
        · exact ⟨tail, by rw [List.append_assoc, List.singleton_append]⟩
      refine ⟨iff_of_true ?_ hlt, fun _ => ?_⟩
      · rw [← hmore]
        simp
      · rw [← hmore, List.append_assoc, List.takeWhile_append_of_pos hall,
          List.singleton_append, List.takeWhile_cons_of_neg (by simp),
          List.append_nil]
    · refine ⟨iff_of_false ?_ hlt, fun hlt' => absurd hlt' hlt⟩
      intro hmem
      have hstart : part <+: line :=
        List.prefix_of_prefix_length_le hpart ⟨_, rfl⟩ (Nat.not_lt.mp hlt)
      exact hline (hstart.subset hmem)
  induction reads generalizing buffer with
  | nil =>
      rw [List.flatten_nil, List.append_nil] at hreads
      obtain ⟨hmem, htake⟩ := hstop got hgot
      unfold Ticket.readStatus
      rw [hreads]
      constructor
      · intro hlt
        rw [if_pos (hmem.mpr hlt), htake hlt]
      · intro hle
        rw [if_neg fun h => absurd (hmem.mp h) (Nat.not_lt.mpr hle),
          if_neg (by omega)]
        cases failed with
        | none => exact ⟨_, rfl⟩
        | some error => exact ⟨_, rfl⟩
  | cons chunk reads ih =>
      have hbuffer : buffer <+: line ++ 13 :: tail :=
        List.IsPrefix.trans ⟨_, hreads⟩ hgot
      obtain ⟨hmem, htake⟩ := hstop buffer hbuffer
      have hle : buffer.length ≤ got.length := by
        rw [← hreads, List.length_append]
        exact Nat.le_add_right _ _
      unfold Ticket.readStatus
      by_cases hlt : line.length < buffer.length
      · rw [if_pos (hmem.mpr hlt), htake hlt]
        exact ⟨fun _ => rfl, fun hle' => absurd hle' (by omega)⟩
      · rw [if_neg fun h => hlt (hmem.mp h), if_neg (by omega)]
        refine ih ?_
        rw [List.append_assoc, ← List.flatten_cons]
        exact hreads

/-- The generator takes its report for delivered exactly if it has seen that it
was accepted. -/
theorem outcome_eq_ok_iff {status : String} (hstatus : status ∈ statuses)
    {body got : List UInt8} {reads : List (List UInt8)}
    (hgot : got <+: responseBytes status body) (hreads : reads.flatten = got)
    (failed : Option String) :
    Ticket.outcome failed reads = .ok () ↔
      status = "202 Accepted" ∧
        (utf8 (firstLine status)).length < got.length := by
  obtain ⟨hline, hlength, code, hcode, hok⟩ := statusOf_statuses hstatus
  obtain ⟨tail, htail⟩ := responseBytes_eq status body
  rw [htail] at hgot
  obtain ⟨hread, hcut⟩ := readStatus_of_prefix failed hline.notMem_utf8
    (by
      rw [length_utf8 hline.ascii]
      exact le_trans hlength (by decide)) hgot
    (show [] ++ reads.flatten = got from hreads)
  unfold Ticket.outcome
  by_cases hlt : (utf8 (firstLine status)).length < got.length
  · rw [hread hlt, hcode, ← hok]
    by_cases hcode : code = 202
    · subst hcode
      exact iff_of_true rfl ⟨rfl, hlt⟩
    · refine iff_of_false ?_ fun h => hcode h.1
      show (match code with
        | 202 => pure ()
        | 401 => throw TransportError.refusedToken
        | 409 => throw TransportError.conflict
        | other => throw (TransportError.answered other)) ≠ Except.ok ()
      split
      · exact absurd rfl hcode
      · simp [throw, throwThe, MonadExceptOf.throw]
      · simp [throw, throwThe, MonadExceptOf.throw]
      · simp [throw, throwThe, MonadExceptOf.throw]
  · obtain ⟨error, herror⟩ := hcut (Nat.not_lt.mp hlt)
    rw [herror]
    refine iff_of_false ?_ fun h => hlt h.2
    exact fun h => absurd h (by simp [bind, Except.bind])

/-! ## One post -/

/-- The report is acceptable to a listener with this token and this slot. -/
structure Acceptable (ticket : Ticket) (body : List UInt8)
    (parse : ReportParser) (token : SessionToken)
    (inbox : Option SessionReport) (report : SessionReport) : Prop where
  token : ticket.token = token
  bounded : body.length ≤ maxControlBytes
  free : inbox = none
  parsed : parse body = .ok report

variable {ticket : Ticket} {parse : ReportParser} {token : SessionToken}
  {inbox : Option SessionReport}

/-- The answer to a post that has arrived. -/
theorem handleControlRequest_post (ticket : Ticket) (body : List UInt8)
    (parse : ReportParser) (token : SessionToken)
    (inbox : Option SessionReport) :
    ∃ answer inbox', handleControlRequest parse
        ⟨true, reportPath, some ticket.token, body⟩ token inbox =
          (answer, inbox') ∧ answer.status ∈ statuses ∧
      ((answer.status = "202 Accepted" ∧ ∃ report, ticket.token = token ∧
          inbox = none ∧ parse body = .ok report ∧ inbox' = some report) ∨
        answer.status ≠ "202 Accepted" ∧ inbox' = inbox ∧
          ∀ report, ¬ (ticket.token = token ∧ inbox = none ∧
            parse body = .ok report)) := by
  unfold handleControlRequest
  by_cases htoken : ticket.token = token
  · have hauthorised : (!ControlRequest.authorised
        ⟨true, reportPath, some ticket.token, body⟩ token) = false := by
      rw [ControlRequest.authorised, Option.any_some, htoken,
        (SessionToken.matches_iff token token).mpr rfl]
      rfl
    rw [hauthorised, if_neg Bool.false_ne_true, if_neg (by simp)]
    cases hparse : parse body with
    | error error =>
        refine ⟨_, _, rfl, ?_, .inr ⟨?_, rfl, ?_⟩⟩
        · show "400 Bad Request" ∈ statuses
          decide
        · show "400 Bad Request" ≠ "202 Accepted"
          decide
        · rintro report ⟨-, -, hok⟩
          exact absurd hok (by simp)
    | ok report =>
        cases inbox with
        | none =>
            exact ⟨_, _, rfl, by decide, .inl ⟨rfl, report, htoken, rfl, rfl,
              rfl⟩⟩
        | some held =>
            refine ⟨_, _, rfl, by decide, .inr ⟨by decide, rfl, ?_⟩⟩
            rintro report ⟨-, hnone, -⟩
            exact absurd hnone (by simp)
  · have hauthorised : (!ControlRequest.authorised
        ⟨true, reportPath, some ticket.token, body⟩ token) = true := by
      rw [Bool.not_eq_true', ControlRequest.authorised, Option.any_some,
        Bool.eq_false_iff, Ne, SessionToken.matches_iff]
      exact Ne.symm htoken
    rw [hauthorised, if_pos rfl]
    refine ⟨_, _, rfl, by decide, .inr ⟨by decide, rfl, ?_⟩⟩
    rintro report ⟨hsame, -, -⟩
    exact htoken hsame

/-- What a listener makes of a post of which some bytes arrive. -/
theorem exists_serveControl (ticket : Ticket) {body : List UInt8}
    (hbody : body.length ≤ u64Max) (parse : ReportParser)
    (render : ControlBody → List UInt8) (token : SessionToken)
    (inbox : Option SessionReport) (hsent : sent <+: ticket.post body)
    (hreads : reads.flatten = sent) :
    ∃ status text inbox',
      serveControl parse render token inbox reads =
        (responseBytes status text, inbox') ∧ status ∈ statuses ∧
      ((status = "202 Accepted" ∧ sent = ticket.post body ∧
          ∃ report, Acceptable ticket body parse token inbox report ∧
            inbox' = some report) ∨
        status ≠ "202 Accepted" ∧ inbox' = inbox ∧
          (sent = ticket.post body → ∀ report,
            ¬ Acceptable ticket body parse token inbox report)) := by
  have hhead := ticket.isHead_post hbody
  have hparse := ticket.parseControlHead_post hbody
  rw [← Ticket.take_isHead] at hparse
  rw [Ticket.post_eq] at hsent ⊢
  have hread := readControlRequest_of_prefix hhead hparse rfl hsent hreads
  have hbad : statusBadRequest ∈ statuses := by decide
  have hlarge : statusTooLarge ∈ statuses := by decide
  have hbad_ne : statusBadRequest ≠ "202 Accepted" := by decide
  have hlarge_ne : statusTooLarge ≠ "202 Accepted" := by decide
  have herror : ∀ status, (readControlRequest reads).1 = .error status →
      serveControl parse render token inbox reads =
        (responseBytes status [], inbox) := by
    intro status herror
    rw [serveControl, herror]
  split_ifs at hread with hshort htoo hcut
  · refine ⟨_, _, _, herror _ hread, hbad, .inr ⟨hbad_ne, rfl, ?_⟩⟩
    intro heq
    rw [heq, List.length_append] at hshort
    omega
  · refine ⟨_, _, _, herror _ hread, hlarge, .inr ⟨hlarge_ne, rfl, ?_⟩⟩
    intro _ report hacceptable
    exact absurd hacceptable.bounded (Nat.not_le.mpr htoo)
  · exact ⟨_, _, _, herror _ hread, hbad, .inr ⟨hbad_ne, rfl,
      fun heq => absurd heq hcut⟩⟩
  · obtain ⟨answer, inbox', hhandle, hstatus, hcases⟩ :=
      handleControlRequest_post ticket body parse token inbox
    refine ⟨answer.status, render answer.body, inbox', ?_, hstatus, ?_⟩
    · rw [serveControl, hread]
      dsimp only
      rw [hhandle]
    · rcases hcases with ⟨haccepted, report, htoken, hfree, hparsed, hslot⟩ |
        ⟨hrefused, hslot, hnone⟩
      · exact .inl ⟨haccepted, not_not.mp hcut, report,
          ⟨htoken, Nat.not_lt.mp htoo, hfree, hparsed⟩, hslot⟩
      · refine .inr ⟨hrefused, hslot, fun _ report hacceptable => ?_⟩
        exact hnone report ⟨hacceptable.token, hacceptable.free,
          hacceptable.parsed⟩

/-- A post, of which some bytes arrive, and its answer, of which some bytes
arrive. -/
structure Posting (ticket : Ticket) (body : List UInt8) (parse : ReportParser)
    (render : ControlBody → List UInt8) (token : SessionToken)
    (inbox : Option SessionReport) where
  sent : List UInt8
  reads : List (List UInt8)
  got : List UInt8
  answerReads : List (List UInt8)
  failed : Option String
  bytes_le : body.length ≤ u64Max
  sent_prefix : sent <+: ticket.post body
  flatten_reads : reads.flatten = sent
  got_prefix : got <+: (serveControl parse render token inbox reads).1
  flatten_answerReads : answerReads.flatten = got

variable {render : ControlBody → List UInt8}

namespace Posting

/-- The slot afterwards. -/
def inboxAfter (posting : Posting ticket body parse render token inbox) :
    Option SessionReport :=
  (serveControl parse render token inbox posting.reads).2

def outcome (posting : Posting ticket body parse render token inbox) :
    Except TransportError Unit :=
  Ticket.outcome posting.failed posting.answerReads

end Posting

end ControlListener

end Darcbench
