import Darcbench.Modules.HeadText
import Darcbench.Modules.NoBody
import Darcbench.Report.Signing
import Darcbench.Support.Blanks

/-!
# The client of the load generator

An HTTP/1.1 client that is driven by hand.  It writes a request, and reads until
it has seen the end of the head and as many bytes as it expects behind it.
-/

namespace Darcbench

namespace HttpClient

/-! ## Visible text -/

/-- Text of visible ASCII characters. -/
def IsPrintable (text : List Char) : Prop :=
  ∀ c ∈ text, 32 < c.toNat ∧ c.toNat < 127

theorem isPrintable_of_all {text : List Char}
    (h : text.all fun c => decide (32 < c.toNat) && decide (c.toNat < 127)) :
    IsPrintable text := by
  intro c hc
  have hboth := List.all_eq_true.mp h c hc
  rwa [Bool.and_eq_true, decide_eq_true_eq, decide_eq_true_eq] at hboth

theorem IsPrintable.append {text other : List Char} (h : IsPrintable text)
    (hother : IsPrintable other) : IsPrintable (text ++ other) := by
  intro c hc
  rw [List.mem_append] at hc
  exact hc.elim (h c) (hother c)

theorem IsPrintable.notMem {text : List Char} (h : IsPrintable text) {c : Char}
    (hc : c.toNat ≤ 32) : c ∉ text :=
  fun hmem => absurd (h c hmem).1 (Nat.not_lt.mpr hc)

theorem IsPrintable.not_isWhiteSpace {text : List Char} (h : IsPrintable text) :
    ∀ c ∈ text, Words.isWhiteSpace c = false := by
  intro c hc
  obtain ⟨hlow, hhigh⟩ := h c hc
  unfold Words.isWhiteSpace
  simp only [Bool.or_eq_false_iff, Bool.and_eq_false_iff, beq_eq_false_iff_ne,
    decide_eq_false_iff_not]
  omega

/-- Only the space in front of the value of a header is trimmed. -/
theorem trim_space {text : List Char} (h : IsPrintable text) :
    Words.trim (' ' :: text) = text := by
  have hword := h.not_isWhiteSpace
  have hkeep : ∀ other : List Char,
      (∀ c ∈ other, Words.isWhiteSpace c = false) →
        other.dropWhile Words.isWhiteSpace = other := by
    intro other hother
    rw [List.dropWhile_eq_self_iff]
    intro hpos
    rw [hother _ (List.getElem_mem hpos)]
    exact Bool.false_ne_true
  rw [Words.trim, List.dropWhile_cons_of_pos (by decide), hkeep text hword,
    hkeep text.reverse fun c hc => hword c (List.mem_reverse.mp hc),
    List.reverse_reverse]

theorem isPrintable_toDigits (n : ℕ) : IsPrintable (Nat.toDigits 10 n) := by
  intro c hc
  have hdigit := Nat.isDigit_of_mem_toDigits (by decide) (by decide) hc
  obtain ⟨hlow, hhigh⟩ := Char.isDigit_iff_toNat.mp hdigit
  exact ⟨lt_of_lt_of_le (by decide) hlow, lt_of_le_of_lt hhigh (by decide)⟩

end HttpClient

/-! ## Tokens in text -/

namespace SessionToken

/-- The value that a person copies between machines. -/
def toHex (token : SessionToken) : List Char :=
  (hexEncode token.bytes).toList

theorem hexValue?_hexDigit :
    ∀ n < 16, hexValue? (hexDigit n) = some (UInt8.ofNat n) := by
  decide

theorem isPrintable_hexDigit :
    ∀ n < 16, 32 < (hexDigit n).toNat ∧ (hexDigit n).toNat < 127 := by
  decide

theorem isPrintable_toHex (token : SessionToken) :
    HttpClient.IsPrintable token.toHex := by
  intro c hc
  rw [toHex, hexEncode, String.toList_ofList] at hc
  obtain ⟨byte, -, hdigit⟩ := List.mem_flatMap.mp hc
  have hbyte := byte.toNat_lt
  rcases List.mem_pair.mp hdigit with rfl | rfl
  · exact isPrintable_hexDigit _ (by omega)
  · exact isPrintable_hexDigit _ (by omega)

theorem length_toHex (token : SessionToken) : token.toHex.length = 64 := by
  rw [toHex, hexEncode, String.toList_ofList, List.length_flatMap]
  simp [token.length_eq, tokenBytes]

theorem hexDecode_hexEncode (bytes : List UInt8) :
    hexDecode (hexEncode bytes).toList = some bytes := by
  rw [hexEncode, String.toList_ofList]
  induction bytes with
  | nil => rfl
  | cons byte bytes ih =>
      have hbyte := byte.toNat_lt
      have hsum : UInt8.ofNat (byte.toNat / 16) * 16 +
          UInt8.ofNat (byte.toNat % 16) = byte := by
        rw [← UInt8.toNat_inj, UInt8.toNat_add, UInt8.toNat_mul,
          UInt8.toNat_ofNat', UInt8.toNat_ofNat']
        change (byte.toNat / 16 % 256 * 16 % 256 + byte.toNat % 16 % 256) %
          256 = byte.toNat
        omega
      rw [List.flatMap_cons, List.cons_append, List.cons_append,
        List.nil_append, hexDecode, hexValue?_hexDigit _ (by omega),
        hexValue?_hexDigit _ (by omega), ih]
      simp only [Option.bind_eq_bind, Option.bind_some, hsum]
      rfl

/-- A token that is copied as text is read as that token. -/
theorem fromStr_toHex (token : SessionToken) :
    fromStr token.toHex = some token := by
  have htrim : Words.trim token.toHex = token.toHex := by
    have htwice := Words.trim_trim (' ' :: token.toHex)
    rwa [HttpClient.trim_space token.isPrintable_toHex] at htwice
  rw [fromStr, htrim, toHex, hexDecode_hexEncode, Option.bind_eq_bind,
    Option.bind_some, dif_pos token.length_eq]

end SessionToken

/-! ## The client -/

namespace HttpClient

/-- The printed address of a socket. -/
structure SocketAddr where
  text : List Char
  visible : IsPrintable text
  length_le : text.length ≤ 58

/-- How a connection is used. -/
inductive Reuse where
  | keepAlive
  | perRequest
  deriving DecidableEq

end HttpClient

/-- A client of an origin. -/
structure HttpClient where
  address : HttpClient.SocketAddr
  path : List Char
  expectedBytes : ℕ
  reuse : HttpClient.Reuse
  /-- The whole header line, with its line break. -/
  sessionHeader : Option (List Char)

namespace HttpClient

open WebOrigin

/-! ## Requests -/

def version : List Char := "1.0.0".toList

/-- In bytes. -/
def maxResponseHeadBytes : ℕ := 8 * 1024

/-- In bytes. -/
def readBufferBytes : ℕ := 16 * 1024

/-- The client that asks for the object of some size. -/
def forObject (address : SocketAddr) (bytes : ℕ) (reuse : Reuse) :
    HttpClient where
  address := address
  path := objectPrefix ++ Nat.toDigits 10 bytes
  expectedBytes := bytes
  reuse := reuse
  sessionHeader := none

/-- The pieces of the text of a request. -/
def getText : List Char := "GET ".toList

def hostText : List Char := " HTTP/1.1\r\nHost: ".toList

def agentText : List Char := "\r\nUser-Agent: darcbench/".toList

def connectionText : List Char := "\r\nConnection: ".toList

def lineEnd : List Char := "\r\n".toList

def headerSeparator : List Char := ": ".toList

def withSessionToken (client : HttpClient) (token : List Char) : HttpClient :=
  { client with
    sessionHeader := some (tokenHeader ++ headerSeparator ++ token ++
      lineEnd) }

/-- The connection is given up after the request. -/
def close (client : HttpClient) : Bool :=
  client.reuse = .perRequest

def connectionToken (close : Bool) : List Char :=
  if close then "close".toList else "keep-alive".toList

def requestText (client : HttpClient) : List Char :=
  getText ++ client.path ++ hostText ++ client.address.text ++ agentText ++
    version ++ connectionText ++ connectionToken client.close ++ lineEnd ++
    client.sessionHeader.getD [] ++ lineEnd

def request (client : HttpClient) : List UInt8 :=
  utf8 client.requestText

/-! ## Responses -/

/-- Why a request was not answered. -/
inductive RequestError where
  | connect (error : String)
  | write (error : String)
  | read (error : String)
  | closed
  | endlessHead
  | notHttp
  | status (code : ℕ)
  deriving DecidableEq

def RequestError.message : RequestError → String
  | connect error => "connect: " ++ error
  | write error => "write: " ++ error
  | read error => "read: " ++ error
  | closed => "connection closed before the response was complete"
  | endlessHead =>
      "no end of headers in the first " ++ toString maxResponseHeadBytes ++
        " bytes"
  | notHttp => "response did not begin with an HTTP/1.x status line"
  | status code => "origin answered HTTP " ++ toString code

def findHeaderEnd (buffer : List UInt8) : Option ℕ :=
  (findHeadEnd buffer 0).1.map (· + 4)

/-- The number behind the name of the protocol. -/
def lineStatus (line : List Char) : Option ℕ :=
  match Words.splitWhitespace line with
  | [] => none
  | protocol :: parts =>
      if "HTTP/1.".toList <+: protocol then
        parts.head?.bind Words.parseU16
      else none

def statusCode (head : List UInt8) : Option ℕ :=
  (decodeUtf8 (head.takeWhile (· ≠ 13))).bind lineStatus

/-- What has been read of a response. -/
structure ResponseReader where
  head : List UInt8
  bodySeen : ℕ
  headerEnd : Option ℕ
  deriving DecidableEq

namespace ResponseReader

def start : ResponseReader where
  head := []
  bodySeen := 0
  headerEnd := none

/-- Takes in what was read.  The end of the head is looked for before the bound
on its length. -/
def extend (reader : ResponseReader) (chunk : List UInt8) :
    Except RequestError ResponseReader :=
  match reader.headerEnd with
  | some _ => .ok { reader with bodySeen := reader.bodySeen + chunk.length }
  | none =>
      let head := reader.head ++ chunk
      match findHeaderEnd head with
      | some position => .ok ⟨head, head.length - position, some position⟩
      | none =>
          if maxResponseHeadBytes < head.length then .error .endlessHead
          else .ok { reader with head }

/-- The length of the body, once it is complete. -/
def answer (reader : ResponseReader) (expectedBytes : ℕ) :
    Except RequestError (Option ℕ) :=
  match reader.headerEnd with
  | none => .ok none
  | some position =>
      match statusCode (reader.head.take position) with
      | none => .error .notHttp
      | some status =>
          if status ≠ 200 then .error (.status status)
          else if expectedBytes ≤ reader.bodySeen then .ok (some reader.bodySeen)
          else .ok none

end ResponseReader

/-- What a read comes to. -/
inductive ReadStep where
  | reading (reader : ResponseReader)
  | finished (outcome : Except RequestError ℕ)

/-- One pass of the loop that reads a response.  A read gives bytes or it fails,
and no bytes mean that the origin has closed. -/
def readResponse (reader : ResponseReader) (expectedBytes : ℕ) :
    Except String (List UInt8) → ReadStep
  | .error error => .finished (.error (.read error))
  | .ok chunk =>
      if chunk.isEmpty then .finished (.error .closed)
      else
        match reader.extend chunk with
        | .error error => .finished (.error error)
        | .ok reader =>
            match reader.answer expectedBytes with
            | .error error => .finished (.error error)
            | .ok none => .reading reader
            | .ok (some bytes) => .finished (.ok bytes)

/-- The client of a session. -/
def forSession (address : SocketAddr) (bytes : ℕ) (reuse : Reuse)
    (token : Option SessionToken) : HttpClient :=
  match token with
  | none => forObject address bytes reuse
  | some token => (forObject address bytes reuse).withSessionToken token.toHex

/-! ## The request as a head -/

def protocolText : List Char := " HTTP/1.1".toList

def hostLine : List Char := "Host: ".toList

def agentLine : List Char := "User-Agent: darcbench/1.0.0".toList

def connectionLine : List Char := "Connection: ".toList

def sessionLines (token : Option SessionToken) : List (List Char) :=
  (token.map fun token => tokenHeader ++ headerSeparator ++ token.toHex).toList

def requestLines (address : SocketAddr) (bytes : ℕ) (reuse : Reuse)
    (token : Option SessionToken) : List (List Char) :=
  (getText ++ (objectPrefix ++ Nat.toDigits 10 bytes) ++ protocolText) ::
    (hostLine ++ address.text) :: agentLine ::
    (connectionLine ++ connectionToken (reuse = .perRequest)) ::
    sessionLines token

theorem hostText_eq : hostText = protocolText ++ '\r' :: '\n' :: hostLine := by
  decide

theorem agentText_append : agentText ++ version = '\r' :: '\n' :: agentLine := by
  decide

theorem connectionText_eq : connectionText = '\r' :: '\n' :: connectionLine := by
  decide

theorem lineEnd_eq : lineEnd = ['\r', '\n'] := by decide

theorem terminator_eq :
    terminator = utf8 (lineEnd ++ lineEnd) := by decide

/-- What is written is a head. -/
theorem request_eq (address : SocketAddr) (bytes : ℕ) (reuse : Reuse)
    (token : Option SessionToken) :
    (forSession address bytes reuse token).request =
      headBytes (requestLines address bytes reuse token) := by
  rw [request, headBytes, terminator_eq, ← utf8_append]
  congr 1
  have hagent : ∀ rest, agentText ++ (version ++ rest) =
      '\r' :: '\n' :: (agentLine ++ rest) := by
    intro rest
    rw [← List.append_assoc, agentText_append]
    rfl
  cases token with
  | none =>
      simp only [forSession, forObject, requestText, requestLines, sessionLines,
        headText, close, hostText_eq, hagent, connectionText_eq, lineEnd_eq,
        Option.getD_none, Option.map_none, Option.toList_none,
        List.append_assoc, List.cons_append, List.nil_append]
      rfl
  | some token =>
      simp only [forSession, forObject, withSessionToken, requestText,
        requestLines, sessionLines, headText, close, hostText_eq, hagent,
        connectionText_eq, lineEnd_eq, Option.getD_some, Option.map_some,
        Option.toList_some, List.append_assoc, List.cons_append,
        List.nil_append]


theorem IsPrintable.ascii {text : List Char} (h : IsPrintable text) :
    ∀ c ∈ text, c.toNat < 128 :=
  fun c hc => Nat.lt_succ_of_lt (h c hc).2

theorem isHeadLine_append {start text : List Char} (hstart : IsHeadLine start)
    (h : IsPrintable text) : IsHeadLine (start ++ text) where
  ne_nil := List.append_ne_nil_of_left_ne_nil hstart.ne_nil text
  ascii := by
    intro c hc
    rw [List.mem_append] at hc
    exact hc.elim (hstart.ascii c) (h.ascii c)
  unbroken := by
    rw [List.mem_append, not_or]
    exact ⟨hstart.unbroken, h.notMem (by decide)⟩

theorem isHeadLine_of_all {line : List Char} (hne : line ≠ [])
    (h : line.all fun c => decide (c.toNat < 128) && decide (c ≠ '\r')) :
    IsHeadLine line where
  ne_nil := hne
  ascii := by
    intro c hc
    have hboth := List.all_eq_true.mp h c hc
    rw [Bool.and_eq_true, decide_eq_true_eq] at hboth
    exact hboth.1
  unbroken := by
    intro hmem
    have hboth := List.all_eq_true.mp h _ hmem
    exact absurd hboth (by decide)

theorem isPrintable_path (bytes : ℕ) :
    IsPrintable (objectPrefix ++ Nat.toDigits 10 bytes) := by
  exact (isPrintable_of_all (by decide)).append (isPrintable_toDigits bytes)

theorem isPrintable_connectionToken (close : Bool) :
    IsPrintable (connectionToken close) := by
  cases close with
  | false => exact isPrintable_of_all (by decide)
  | true => exact isPrintable_of_all (by decide)

theorem isHeadLine_requestLines (address : SocketAddr) (bytes : ℕ)
    (reuse : Reuse) (token : Option SessionToken) :
    ∀ line ∈ requestLines address bytes reuse token, IsHeadLine line := by
  have hget : IsHeadLine getText := isHeadLine_of_all (by decide) (by decide)
  have hhost : IsHeadLine hostLine := isHeadLine_of_all (by decide) (by decide)
  have hagent : IsHeadLine agentLine :=
    isHeadLine_of_all (by decide) (by decide)
  have hconnection : IsHeadLine connectionLine :=
    isHeadLine_of_all (by decide) (by decide)
  have hsession : IsHeadLine (tokenHeader ++ headerSeparator) :=
    isHeadLine_of_all (by decide) (by decide)
  have hprotocol : IsHeadLine protocolText :=
    isHeadLine_of_all (by decide) (by decide)
  intro line hline
  unfold requestLines sessionLines at hline
  rw [List.mem_cons, List.mem_cons, List.mem_cons, List.mem_cons,
    Option.mem_toList, Option.map_eq_some_iff] at hline
  rcases hline with rfl | rfl | rfl | rfl | ⟨token, -, rfl⟩
  · have hpath := isHeadLine_append hget (isPrintable_path bytes)
    refine ⟨List.append_ne_nil_of_left_ne_nil hpath.ne_nil _, ?_, ?_⟩
    · intro c hc
      rw [List.mem_append] at hc
      exact hc.elim (hpath.ascii c) (hprotocol.ascii c)
    · rw [List.mem_append, not_or]
      exact ⟨hpath.unbroken, hprotocol.unbroken⟩
  · exact isHeadLine_append hhost address.visible
  · exact hagent
  · exact isHeadLine_append hconnection (isPrintable_connectionToken _)
  · exact isHeadLine_append hsession token.isPrintable_toHex


theorem length_utf8 {text : List Char} (h : ∀ c ∈ text, c.toNat < 128) :
    (utf8 text).length = text.length := by
  induction text with
  | nil => rfl
  | cons c text ih =>
      have hrest := ih fun d hd => h d (List.mem_cons_of_mem _ hd)
      rw [utf8] at hrest
      rw [utf8, List.flatMap_cons, utf8_of_ascii (h c List.mem_cons_self),
        List.length_append, hrest, List.length_singleton, List.length_cons]
      exact Nat.add_comm _ _

theorem ascii_headText {lines : List (List Char)}
    (h : ∀ line ∈ lines, IsHeadLine line) :
    ∀ c ∈ headText lines, c.toNat < 128 := by
  induction lines with
  | nil => exact fun c hc => absurd hc List.not_mem_nil
  | cons line lines ih =>
      have hline := (h line List.mem_cons_self).ascii
      cases lines with
      | nil => exact hline
      | cons next lines =>
          intro c hc
          have hrest := ih fun other hother =>
            h other (List.mem_cons_of_mem _ hother)
          rw [headText, List.mem_append, List.mem_cons, List.mem_cons] at hc
          rcases hc with hc | rfl | rfl | hc
          · exact hline c hc
          · decide
          · decide
          · exact hrest c hc

theorem length_headText_le (lines : List (List Char)) :
    (headText lines).length ≤ (lines.map fun line => line.length + 2).sum := by
  induction lines with
  | nil => exact Nat.le_refl 0
  | cons line lines ih =>
      rw [List.map_cons, List.sum_cons]
      cases lines with
      | nil =>
          rw [headText, List.map_nil, List.sum_nil]
          omega
      | cons next lines =>
          rw [headText, List.length_append, List.length_cons,
            List.length_cons]
          omega

theorem requestLines_ne_nil (address : SocketAddr) (bytes : ℕ) (reuse : Reuse)
    (token : Option SessionToken) :
    requestLines address bytes reuse token ≠ [] :=
  List.cons_ne_nil _ _

/-- The origin reads the request within its bound. -/
theorem isHead_request (address : SocketAddr) {bytes : ℕ}
    (hbytes : bytes ≤ u64Max) (reuse : Reuse) (token : Option SessionToken) :
    IsHead (headBytes (requestLines address bytes reuse token)) := by
  have hlines := isHeadLine_requestLines address bytes reuse token
  apply isHead_headBytes (requestLines_ne_nil address bytes reuse token) hlines
  have hdigits : (Nat.toDigits 10 bytes).length ≤ 20 :=
    (Nat.length_toDigits_le_iff (by decide) (by decide)).mpr
      (lt_of_le_of_lt hbytes (by decide))
  have hconnection : (connectionToken (reuse = .perRequest)).length ≤ 10 := by
    cases reuse with
    | keepAlive => decide
    | perRequest => decide
  have hsession : ((sessionLines token).map
      fun line => line.length + 2).sum ≤ 87 := by
    cases token with
    | none => decide
    | some token =>
        have hconstant : (tokenHeader ++ headerSeparator).length = 21 := by
          decide
        rw [sessionLines, Option.map_some, Option.toList_some, List.map_cons,
          List.length_append, hconstant, token.length_toHex]
        decide
  have haddress := address.length_le
  have hget : getText.length = 4 := by decide
  have hprefix : objectPrefix.length = 3 := by decide
  have hprotocol : protocolText.length = 9 := by decide
  have hhost : hostLine.length = 6 := by decide
  have hagent : agentLine.length = 27 := by decide
  have hline : connectionLine.length = 12 := by decide
  have hsum : ((requestLines address bytes reuse token).map
      fun line => line.length + 2).sum ≤ 300 := by
    rw [requestLines, List.map_cons, List.map_cons, List.map_cons,
      List.map_cons, List.sum_cons, List.sum_cons, List.sum_cons,
      List.sum_cons]
    simp only [List.length_append]
    omega
  have htext := length_headText_le (requestLines address bytes reuse token)
  rw [length_headBytes, length_utf8 (ascii_headText hlines), maxHeadBytes]
  omega

/-! ## The request as it is understood -/

theorem splitColon_append {name : List Char} (hname : ':' ∉ name)
    (value : List Char) :
    splitColon (name ++ ':' :: value) = some (name, value) :=
  Words.splitOnce_eq_some_iff.mpr ⟨rfl, hname⟩

theorem connectionClose_connectionToken (close : Bool) :
    connectionClose false (connectionToken close) = close := by
  cases close with
  | false => decide
  | true => decide

def hostName : List Char := "Host".toList

def agentName : List Char := "User-Agent".toList

def connectionName : List Char := "Connection".toList

/-- A header that the origin has no use for. -/
theorem parseHeaders_other {name value : List Char} (hcolon : ':' ∉ name)
    (hblank : name.head? ≠ none ∧ name.head? ≠ some ' ' ∧
      name.head? ≠ some '\t')
    (hconnection : eqIgnoreAsciiCase name "connection".toList = false)
    (hlength : eqIgnoreAsciiCase name "content-length".toList = false)
    (hencoding : eqIgnoreAsciiCase name "transfer-encoding".toList = false)
    (htoken : eqIgnoreAsciiCase name tokenHeader = false) (close : Bool)
    (token : Option SessionToken) (lines : List (List Char)) :
    parseHeaders close token ((name ++ ':' :: value) :: lines) =
      parseHeaders close token lines := by
  have hhead : (name ++ ':' :: value).head? = name.head? := by
    obtain ⟨c, hc⟩ := Option.ne_none_iff_exists'.mp hblank.1
    rw [List.head?_append, hc]
    rfl
  rw [parseHeaders, hhead, if_neg (not_or.mpr hblank.2),
    splitColon_append hcolon]
  dsimp only
  rw [hconnection, hlength, hencoding, htoken, if_neg Bool.false_ne_true,
    if_neg Bool.false_ne_true, if_neg Bool.false_ne_true,
    if_neg Bool.false_ne_true]

theorem parseHeaders_connection (close : Bool) (token : Option SessionToken)
    (lines : List (List Char)) :
    parseHeaders false token
        ((connectionLine ++ connectionToken close) :: lines) =
      parseHeaders close token lines := by
  have hline : connectionLine ++ connectionToken close =
      connectionName ++ ':' :: ' ' :: connectionToken close := rfl
  have hfirst : (connectionName ++ ':' :: ' ' :: connectionToken close).head? =
      some 'C' := rfl
  have hname : eqIgnoreAsciiCase connectionName "connection".toList = true := by
    decide
  rw [hline, parseHeaders, hfirst, if_neg (by decide),
    splitColon_append (by decide)]
  dsimp only
  rw [if_pos hname, trim_space (isPrintable_connectionToken close),
    connectionClose_connectionToken]

theorem parseHeaders_session (close : Bool) (token : Option SessionToken) :
    parseHeaders close none (sessionLines token) = some (close, token) := by
  cases token with
  | none => rfl
  | some token =>
      have hline : tokenHeader ++ headerSeparator ++ token.toHex =
          tokenHeader ++ ':' :: ' ' :: token.toHex := rfl
      have hfirst : (tokenHeader ++ ':' :: ' ' :: token.toHex).head? =
          some 'x' := rfl
      have hconnection : eqIgnoreAsciiCase tokenHeader "connection".toList =
          false := by
        decide
      have hlength : eqIgnoreAsciiCase tokenHeader "content-length".toList =
          false := by
        decide
      have hencoding : eqIgnoreAsciiCase tokenHeader
          "transfer-encoding".toList = false := by
        decide
      have hname : eqIgnoreAsciiCase tokenHeader tokenHeader = true :=
        decide_eq_true rfl
      rw [sessionLines, Option.map_some, Option.toList_some, hline,
        parseHeaders, hfirst, if_neg (by decide), splitColon_append (by decide)]
      dsimp only
      rw [hconnection, hlength, hencoding, hname, if_neg Bool.false_ne_true,
        if_neg Bool.false_ne_true, if_neg Bool.false_ne_true, if_pos rfl,
        trim_space token.isPrintable_toHex, token.fromStr_toHex, parseHeaders]

def getName : List Char := "GET".toList

def protocolName : List Char := "HTTP/1.1".toList

theorem splitOn_requestLine {path : List Char} (hpath : ' ' ∉ path) :
    (getText ++ path ++ protocolText).splitOn ' ' =
      [getName, path, protocolName] := by
  have hline : getText ++ path ++ protocolText =
      getName ++ ' ' :: (path ++ ' ' :: protocolName) := by
    rw [List.append_assoc]
    rfl
  rw [hline, List.splitOn_append_cons_self_of_not_mem (by decide),
    List.splitOn_append_cons_self_of_not_mem hpath,
    List.splitOn_eq_singleton (by decide)]

/-- The origin understands the request as it was meant. -/
theorem parseHead_request (address : SocketAddr) {bytes : ℕ}
    (hbytes : bytes ≤ u64Max) (reuse : Reuse) (token : Option SessionToken) :
    parseHead (utf8 (headText (requestLines address bytes reuse token))) =
      some ⟨true, some bytes, reuse = .perRequest, token⟩ := by
  have hpath := isPrintable_path bytes
  have hobject : objectSize (objectPrefix ++ Nat.toDigits 10 bytes) =
      some bytes := by
    rw [objectSize_eq_some_iff, List.takeWhile_eq_self_iff.mpr]
    · exact ⟨rfl, hbytes⟩
    · intro c hc
      rw [decide_eq_true_eq]
      rintro rfl
      rw [List.mem_append] at hc
      rcases hc with hc | hc
      · exact absurd hc (by decide)
      · have hdigit := Nat.isDigit_of_mem_toDigits (by decide) (by decide) hc
        exact absurd hdigit (by decide)
  have hhost : ∀ lines, parseHeaders false none
      ((hostLine ++ address.text) :: lines) =
        parseHeaders false none lines := by
    intro lines
    have hline : hostLine ++ address.text =
        hostName ++ ':' :: ' ' :: address.text := rfl
    rw [hline]
    exact parseHeaders_other (by decide) (by decide) (by decide) (by decide)
      (by decide) (by decide) false none lines
  have hagent : ∀ lines, parseHeaders false none (agentLine :: lines) =
      parseHeaders false none lines := by
    intro lines
    have hline : agentLine =
        agentName ++ ':' :: " darcbench/1.0.0".toList := rfl
    rw [hline]
    exact parseHeaders_other (by decide) (by decide) (by decide) (by decide)
      (by decide) (by decide) false none lines
  rw [parseHead, decodeUtf8_utf8, Option.bind_eq_bind, Option.bind_some,
    splitCrlf_headText (requestLines_ne_nil address bytes reuse token)
      (isHeadLine_requestLines address bytes reuse token), requestLines]
  dsimp only
  rw [splitOn_requestLine (hpath.notMem (by decide))]
  dsimp only
  rw [if_pos (show protocolName = "HTTP/1.1".toList from rfl),
    Option.bind_eq_bind, Option.bind_some, hhost, hagent,
    parseHeaders_connection, parseHeaders_session, hobject]
  rfl


/-! ## A response as a head -/

/-- What the origin answers with. -/
def statuses : List String :=
  [statusOk, statusBadRequest, statusNotFound, statusMethodNotAllowed,
    statusHeadTooLarge, statusUnauthorized]

def responseStart : List Char := "HTTP/1.1 ".toList

def lengthLine : List Char := "Content-Length: ".toList

def lengthText : List Char := "\r\nContent-Length: ".toList

def typeLine : List Char := "Content-Type: application/octet-stream".toList

def typeText : List Char :=
  "\r\nContent-Type: application/octet-stream\r\nConnection: ".toList

def headEndText : List Char := "\r\n\r\n".toList

def responseLines (response : Response) : List (List Char) :=
  [responseStart ++ response.status.toList,
    lengthLine ++ Nat.toDigits 10 response.body.length, typeLine,
    connectionLine ++ connectionToken response.close]

theorem lengthText_eq : lengthText = '\r' :: '\n' :: lengthLine := by decide

theorem typeText_eq : typeText =
    '\r' :: '\n' :: (typeLine ++ '\r' :: '\n' :: connectionLine) := by
  decide

theorem toList_head (response : Response) :
    response.head.toList = headText (responseLines response) ++ headEndText := by
  have hpieces : response.head.toList =
      responseStart ++ response.status.toList ++ lengthText ++
        Nat.toDigits 10 response.body.length ++ typeText ++
          connectionToken response.close ++ headEndText := by
    unfold Response.head
    rw [String.toList_append, String.toList_append, String.toList_append,
      String.toList_append, String.toList_append, String.toList_append,
      Nat.toString_eq_repr, Nat.toList_repr]
    cases response.close with
    | false => rfl
    | true => rfl
  rw [hpieces, lengthText_eq, typeText_eq]
  simp only [responseLines, headText, List.append_assoc, List.cons_append]

/-- What the origin writes is a head and the body behind it. -/
theorem text_eq (response : Response) :
    response.text = headBytes (responseLines response) ++ response.body := by
  have hend : terminator = utf8 headEndText := by decide
  rw [Response.text, toList_toUTF8, toList_head, utf8_append, headBytes, hend]

theorem isHeadLine_status {status : String} (h : status ∈ statuses) :
    IsHeadLine (responseStart ++ status.toList) := by
  unfold statuses at h
  simp only [List.mem_cons, List.not_mem_nil, or_false] at h
  rcases h with rfl | rfl | rfl | rfl | rfl | rfl <;>
    exact isHeadLine_of_all (by decide) (by decide)

theorem isHeadLine_responseLines {response : Response}
    (h : response.status ∈ statuses) :
    ∀ line ∈ responseLines response, IsHeadLine line := by
  have hlength : IsHeadLine lengthLine :=
    isHeadLine_of_all (by decide) (by decide)
  have htype : IsHeadLine typeLine := isHeadLine_of_all (by decide) (by decide)
  have hconnection : IsHeadLine connectionLine :=
    isHeadLine_of_all (by decide) (by decide)
  intro line hline
  unfold responseLines at hline
  rw [List.mem_cons, List.mem_cons, List.mem_cons, List.mem_singleton] at hline
  rcases hline with rfl | rfl | rfl | rfl
  · exact isHeadLine_status h
  · exact isHeadLine_append hlength (isPrintable_toDigits _)
  · exact htype
  · exact isHeadLine_append hconnection (isPrintable_connectionToken _)

theorem responseLines_ne_nil (response : Response) :
    responseLines response ≠ [] :=
  List.cons_ne_nil _ _

theorem length_status_le {status : String} (h : status ∈ statuses) :
    (responseStart ++ status.toList).length ≤ 50 := by
  unfold statuses at h
  simp only [List.mem_cons, List.not_mem_nil, or_false] at h
  rcases h with rfl | rfl | rfl | rfl | rfl | rfl <;> decide

/-- The client reads the head within its bound. -/
theorem isHead_response {response : Response}
    (h : response.status ∈ statuses) (hbody : response.body.length ≤ u64Max) :
    IsHead (headBytes (responseLines response)) := by
  have hlines := isHeadLine_responseLines h
  apply isHead_headBytes (responseLines_ne_nil response) hlines
  have hdigits : (Nat.toDigits 10 response.body.length).length ≤ 20 :=
    (Nat.length_toDigits_le_iff (by decide) (by decide)).mpr
      (lt_of_le_of_lt hbody (by decide))
  have hconnection : (connectionToken response.close).length ≤ 10 := by
    cases response.close with
    | false => decide
    | true => decide
  have hstatus := length_status_le h
  have hlength : lengthLine.length = 16 := by decide
  have htype : typeLine.length = 38 := by decide
  have hline : connectionLine.length = 12 := by decide
  have hsum : ((responseLines response).map
      fun line => line.length + 2).sum ≤ 300 := by
    rw [responseLines, List.map_cons, List.map_cons, List.map_cons,
      List.map_cons, List.map_nil, List.sum_cons, List.sum_cons, List.sum_cons,
      List.sum_cons, List.sum_nil]
    rw [List.length_append] at hstatus ⊢
    simp only [List.length_append]
    omega
  have htext := length_headText_le (responseLines response)
  rw [length_headBytes, length_utf8 (ascii_headText hlines), maxHeadBytes]
  omega

/-- The number in front of the words of a status. -/
def codeOf (status : String) : Option ℕ :=
  lineStatus (responseStart ++ status.toList)

/-- Only one status is a success. -/
theorem codeOf_statuses {status : String} (h : status ∈ statuses) :
    ∃ code, codeOf status = some code ∧ (code = 200 ↔ status = statusOk) := by
  unfold statuses at h
  simp only [List.mem_cons, List.not_mem_nil, or_false] at h
  rcases h with rfl | rfl | rfl | rfl | rfl | rfl
  · exact ⟨200, by decide, by decide⟩
  · exact ⟨400, by decide, by decide⟩
  · exact ⟨404, by decide, by decide⟩
  · exact ⟨405, by decide, by decide⟩
  · exact ⟨431, by decide, by decide⟩
  · exact ⟨401, by decide, by decide⟩

theorem statusCode_headBytes {response : Response}
    (h : response.status ∈ statuses) :
    statusCode (headBytes (responseLines response)) =
      codeOf response.status := by
  have hline := isHeadLine_status h
  obtain ⟨tail, htail⟩ := exists_headBytes_cons
    (responseStart ++ response.status.toList)
    [lengthLine ++ Nat.toDigits 10 response.body.length, typeLine,
      connectionLine ++ connectionToken response.close]
  have hfirst : (headBytes (responseLines response)).takeWhile (· ≠ 13) =
      utf8 (responseStart ++ response.status.toList) := by
    rw [responseLines, htail, List.takeWhile_append_of_pos,
      List.takeWhile_cons_of_neg (by decide), List.append_nil]
    intro byte hbyte
    exact decide_eq_true (ne_of_mem_of_not_mem hbyte hline.notMem_utf8)
  rw [statusCode, hfirst, decodeUtf8_utf8, Option.bind_some, codeOf]

/-! ## Reading a response -/

/-- What the reader knows after it has read some text that begins with a
head. -/
structure Reads (head text : List UInt8) (reader : ResponseReader) : Prop where
  short : text.length < head.length → reader = ⟨text, 0, none⟩
  complete : head.length ≤ text.length →
    reader.headerEnd = some head.length ∧
      reader.bodySeen = text.length - head.length ∧
        reader.head.take head.length = head

theorem Reads.start {head : List UInt8} (hhead : IsHead head) :
    Reads head [] ResponseReader.start where
  short _ := rfl
  complete := by
    intro hle
    have hfour := hhead.four_le_length
    exact absurd (Nat.le_trans hfour hle) (by decide)

/-- A reader takes in the next piece of a response. -/
theorem Reads.extend {head text chunk body : List UInt8}
    {reader : ResponseReader} (hhead : IsHead head)
    (h : Reads head text reader) (hpieces : text ++ chunk <+: head ++ body) :
    ∃ reader', reader.extend chunk = .ok reader' ∧
      Reads head (text ++ chunk) reader' := by
  have hlength : (text ++ chunk).length = text.length + chunk.length :=
    List.length_append
  by_cases hshort : text.length < head.length
  · obtain rfl := h.short hshort
    by_cases hstill : (text ++ chunk).length < head.length
    · have hpart : text ++ chunk <+: head :=
        List.prefix_of_prefix_length_le hpieces ⟨_, rfl⟩ (le_of_lt hstill)
      obtain ⟨m, hfind⟩ := hhead.findHeadEnd_of_lt hpart hstill
      have hbound : ¬ maxResponseHeadBytes < (text ++ chunk).length :=
        Nat.not_lt.mpr (le_trans (le_of_lt hstill) hhead.bounded)
      refine ⟨⟨text ++ chunk, 0, none⟩, ?_, fun _ => rfl,
        fun hle => absurd hstill (Nat.not_lt.mpr hle)⟩
      unfold ResponseReader.extend findHeaderEnd
      dsimp only
      rw [hfind, Option.map_none]
      exact if_neg hbound
    · obtain ⟨more, hmore⟩ : head <+: text ++ chunk :=
        List.prefix_of_prefix_length_le ⟨_, rfl⟩ hpieces
          (Nat.not_lt.mp hstill)
      obtain ⟨m, hfind⟩ := hhead.findHeadEnd_append more
      have hfour := Nat.sub_add_cancel hhead.four_le_length
      refine ⟨⟨text ++ chunk, (text ++ chunk).length - head.length,
        some head.length⟩, ?_, fun hlt => absurd hlt hstill,
        fun _ => ⟨rfl, rfl, ?_⟩⟩
      · unfold ResponseReader.extend findHeaderEnd
        dsimp only
        rw [← hmore, hfind, Option.map_some, hfour]
      · rw [← hmore, List.take_left]
  · obtain ⟨hend, hseen, htake⟩ := h.complete (Nat.not_lt.mp hshort)
    refine ⟨{ reader with bodySeen := reader.bodySeen + chunk.length }, ?_,
      fun hlt => absurd hlt (by omega), fun _ => ⟨hend, ?_, htake⟩⟩
    · unfold ResponseReader.extend
      rw [hend]
    · dsimp only
      omega

/-- While the head is not complete there is no answer. -/
theorem Reads.answer_short {head text : List UInt8} {reader : ResponseReader}
    (h : Reads head text reader) (hshort : text.length < head.length)
    (expectedBytes : ℕ) : reader.answer expectedBytes = .ok none := by
  rw [h.short hshort]
  rfl

theorem Reads.answer_complete {head text : List UInt8} {reader : ResponseReader}
    (h : Reads head text reader) (hcomplete : head.length ≤ text.length)
    {code : ℕ} (hcode : statusCode head = some code) (expectedBytes : ℕ) :
    reader.answer expectedBytes =
      if code ≠ 200 then .error (.status code)
      else if expectedBytes ≤ text.length - head.length then
        .ok (some (text.length - head.length))
      else .ok none := by
  obtain ⟨hend, hseen, htake⟩ := h.complete hcomplete
  unfold ResponseReader.answer
  rw [hend]
  dsimp only
  rw [htake, hcode, hseen]

end HttpClient

end Darcbench
