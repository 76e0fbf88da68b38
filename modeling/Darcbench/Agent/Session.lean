import Darcbench.Agent.Server
import Darcbench.Modules.HttpClient

/-!
# The session of a browser

A browser that opens the dashboard exchanges the token for a cookie, and sends
that cookie with every later call among whatever other cookies it has.
-/

namespace Darcbench

namespace AccessToken

theorem mem_ofBytes {raw : List UInt8} {c : Char}
    (hc : c ∈ (ofBytes raw).text) :
    ∃ n < 16, c = hexDigit n := by
  rw [ofBytes, hexEncode, String.toList_ofList] at hc
  obtain ⟨byte, -, hdigit⟩ := List.mem_flatMap.mp hc
  have hbyte := byte.toNat_lt
  rcases List.mem_pair.mp hdigit with rfl | rfl
  · exact ⟨_, by omega, rfl⟩
  · exact ⟨_, by omega, rfl⟩

theorem isPrintable_ofBytes (raw : List UInt8) :
    HttpClient.IsPrintable (ofBytes raw).text := by
  intro c hc
  obtain ⟨n, hn, rfl⟩ := mem_ofBytes hc
  exact SessionToken.isPrintable_hexDigit n hn

theorem hexDigit_ne_semicolon : ∀ n < 16, hexDigit n ≠ ';' := by decide

theorem semicolon_notMem_ofBytes (raw : List UInt8) :
    ';' ∉ (ofBytes raw).text := by
  intro hmem
  obtain ⟨n, hn, h⟩ := mem_ofBytes hmem
  exact hexDigit_ne_semicolon n hn h.symm

end AccessToken

namespace ApiCall

/-! ## The cookie -/

/-- Whether the browser came over TLS, as the first hop of the chain says. -/
def isOverTls (call : ApiCall) : Bool :=
  call.headers.forwardedProto.any fun value =>
    WebOrigin.eqIgnoreAsciiCase
      (Words.trim ((value.splitOn ',').headD [])) "https".toList

def sessionPair (token : AccessToken) : List Char :=
  sessionCookie ++ '=' :: token.text

def cookieAttributes : List Char :=
  "; Path=/; HttpOnly; SameSite=Strict; Max-Age=86400".toList

def secureAttribute : List Char := "; Secure".toList

/-- Exchanges the token for a session cookie. -/
def createSession (call : ApiCall) (token : AccessToken) :
    Except ApiError (List Char) := do
  call.require token false
  let cookie := sessionPair token ++ cookieAttributes
  return if call.isOverTls then cookie ++ secureAttribute else cookie

/-- What a browser keeps of a cookie that it is told to set. -/
def kept (cookie : List Char) : List Char :=
  cookie.takeWhile (· ≠ ';')

/-- The header in which a browser sends all its cookies. -/
def cookieHeader (cookies : List (List Char)) : List Char :=
  [';', ' '].intercalate cookies

/-! ## The round trip -/

theorem equals_notMem_sessionCookie : '=' ∉ sessionCookie := by decide

theorem isPrintable_sessionPair (raw : List UInt8) :
    HttpClient.IsPrintable (sessionPair (.ofBytes raw)) := by
  have hname : HttpClient.IsPrintable (sessionCookie ++ ['=']) :=
    HttpClient.isPrintable_of_all (by decide)
  have hpair := hname.append (AccessToken.isPrintable_ofBytes raw)
  rwa [List.append_assoc, List.singleton_append] at hpair

theorem semicolon_notMem_sessionPair (raw : List UInt8) :
    ';' ∉ sessionPair (.ofBytes raw) := by
  rw [sessionPair, List.mem_append, List.mem_cons]
  rintro (hname | hequals | htoken)
  · exact absurd hname (by decide)
  · exact absurd hequals (by decide)
  · exact AccessToken.semicolon_notMem_ofBytes raw htoken

/-- One part of the header is the session exactly when the text between its
blanks is the pair that was set. -/
theorem isSession_iff (token : AccessToken) (part : List Char) :
    isSession token part = true ↔ Words.trim part = sessionPair token := by
  rw [isSession]
  constructor
  · intro h
    split at h
    · next name value hsplit =>
        obtain ⟨hname, hvalue⟩ := Bool.and_eq_true_iff.mp h
        obtain ⟨htrim, -⟩ := Words.splitOnce_eq_some_iff.mp hsplit
        rw [htrim, beq_iff_eq.mp hname,
          (token.matches_iff value).mp hvalue, sessionPair]
    · exact absurd h Bool.false_ne_true
  · intro htrim
    have hsplit : Words.splitOnce '=' (Words.trim part) =
        some (sessionCookie, token.text) :=
      Words.splitOnce_eq_some_iff.mpr ⟨htrim, equals_notMem_sessionCookie⟩
    rw [hsplit]
    dsimp only
    rw [Bool.and_eq_true_iff]
    exact ⟨beq_self_eq_true _, (token.matches_iff _).mpr rfl⟩

theorem trim_space_cons (text : List Char) :
    Words.trim (' ' :: text) = Words.trim text := by
  have hspace : Words.IsBlank [' '] := by decide
  have hpadded := Words.trim_padded hspace Words.isBlank_nil text
  rwa [List.append_nil, List.singleton_append] at hpadded

theorem cookieHeader_cons (first : List Char) (rest : List (List Char)) :
    cookieHeader (first :: rest) =
      [';'].intercalate (first :: rest.map (' ' :: ·)) := by
  induction rest generalizing first with
  | nil => rfl
  | cons second rest ih =>
      have hrest := ih second
      rw [cookieHeader] at hrest ⊢
      rw [List.map_cons, List.intercalate_cons_cons,
        List.intercalate_cons_cons, hrest]
      cases rest with
      | nil => simp
      | cons third rest => simp [List.intercalate_cons_cons]

/-- The parts into which the agent cuts the header are the cookies, each but
the first with a blank in front. -/
theorem splitOn_cookieHeader {first : List Char} {rest : List (List Char)}
    (hclean : ∀ cookie ∈ first :: rest, ';' ∉ cookie) :
    (cookieHeader (first :: rest)).splitOn ';' =
      first :: rest.map (' ' :: ·) := by
  rw [cookieHeader_cons]
  apply List.splitOn_intercalate
  · intro part hpart
    rcases List.mem_cons.mp hpart with rfl | hpart
    · exact hclean _ List.mem_cons_self
    · obtain ⟨cookie, hcookie, rfl⟩ := List.mem_map.mp hpart
      rw [List.mem_cons]
      rintro (hspace | hmem)
      · exact absurd hspace (by decide)
      · exact hclean cookie (List.mem_cons_of_mem _ hcookie) hmem
  · exact List.cons_ne_nil _ _

theorem any_isSession_iff (token : AccessToken) {cookies : List (List Char)}
    (hne : cookies ≠ [])
    (hclean : ∀ cookie ∈ cookies, ';' ∉ cookie) :
    ((cookieHeader cookies).splitOn ';').any (isSession token) = true ↔
      ∃ cookie ∈ cookies, Words.trim cookie = sessionPair token := by
  obtain ⟨first, rest, rfl⟩ := List.exists_cons_of_ne_nil hne
  rw [splitOn_cookieHeader hclean, List.any_eq_true]
  constructor
  · rintro ⟨part, hpart, hsession⟩
    rw [isSession_iff] at hsession
    rcases List.mem_cons.mp hpart with rfl | hpart
    · exact ⟨part, List.mem_cons_self, hsession⟩
    · obtain ⟨cookie, hcookie, rfl⟩ := List.mem_map.mp hpart
      rw [trim_space_cons] at hsession
      exact ⟨cookie, List.mem_cons_of_mem _ hcookie, hsession⟩
  · rintro ⟨cookie, hcookie, hsession⟩
    rcases List.mem_cons.mp hcookie with rfl | hcookie
    · exact ⟨cookie, List.mem_cons_self, (isSession_iff _ _).mpr hsession⟩
    · refine ⟨' ' :: cookie, List.mem_cons_of_mem _
        (List.mem_map_of_mem hcookie), ?_⟩
      rw [isSession_iff, trim_space_cons]
      exact hsession

/-! ## What a session may do -/

/-- A call that only reads passes exactly when it presents the token in one of
the three places. -/
theorem require_reading_iff (call : ApiCall) (token : AccessToken) :
    call.require token false = .ok () ↔
      call.Bears token ∨
        (call.headers.cookie.any fun cookie =>
          (cookie.splitOn ';').any (isSession token)) = true ∨
        call.queryToken = some token.text := by
  have hquery : call.queryToken.any token.matches = true ↔
      call.queryToken = some token.text := by
    cases call.queryToken with
    | none => simp
    | some candidate =>
        rw [Option.any_some, AccessToken.matches_iff, Option.some.injEq]
  rw [← bearer?_any_iff, ← hquery, require, authenticate]
  by_cases hheader : call.bearer?.any token.matches = true
  · rw [if_pos hheader]
    exact iff_of_true rfl (.inl hheader)
  · rw [if_neg hheader]
    by_cases hcookie : (call.headers.cookie.any fun cookie =>
        (cookie.splitOn ';').any (isSession token)) = true
    · rw [if_pos hcookie]
      exact iff_of_true rfl (.inr (.inl hcookie))
    · rw [if_neg hcookie]
      by_cases hmatch : call.queryToken.any token.matches = true
      · rw [if_pos hmatch]
        exact iff_of_true rfl (.inr (.inr hmatch))
      · rw [if_neg hmatch]
        refine iff_of_false (by simp) ?_
        rintro (h | h | h)
        · exact hheader h
        · exact hcookie h
        · exact hmatch h

/-- What passes as a read and does not bear the token is refused as a
mutation, with the error that says why. -/
theorem require_mutating_of_reading {call : ApiCall} {token : AccessToken}
    (hreads : call.require token false = .ok ())
    (hbears : ¬ call.Bears token) :
    call.require token true = .error csrfProtection := by
  rw [require] at hreads ⊢
  cases hauth : call.authenticate token with
  | none =>
      rw [hauth] at hreads
      exact absurd hreads (by simp)
  | some auth =>
      cases auth with
      | ambient => rfl
      | header =>
          have hpass : call.require token true = .ok () := by
            rw [require, hauth]
          exact absurd ((call.require_mutating_iff token).mp hpass) hbears

/-- Whatever is set, the browser keeps the pair and no attribute. -/
theorem kept_of_createSession {call : ApiCall} {raw : List UInt8}
    {cookie : List Char}
    (h : call.createSession (.ofBytes raw) = .ok cookie) :
    kept cookie = sessionPair (.ofBytes raw) := by
  have hstop : ∀ attributes : List Char,
      kept (sessionPair (.ofBytes raw) ++ ';' :: attributes) =
        sessionPair (.ofBytes raw) := by
    intro attributes
    have hall : ∀ c ∈ sessionPair (.ofBytes raw),
        decide (c ≠ ';') = true := by
      intro c hc
      rw [decide_eq_true_eq]
      rintro rfl
      exact semicolon_notMem_sessionPair raw hc
    rw [kept, List.takeWhile_append_of_pos hall,
      List.takeWhile_cons_of_neg (by decide), List.append_nil]
  obtain ⟨_, -, h⟩ := exists_of_bind_eq_ok h
  obtain rfl := Except.ok.inj h
  split
  · rw [List.append_assoc]
    exact hstop _
  · exact hstop _

def tunnelToken : AccessToken := .ofBytes [171]

def opening : ApiCall where
  headers :=
    { authorization := none
      cookie := none
      forwardedProto := some "HTTPS, http".toList }
  queryToken := some "ab".toList

def secureCookie : List Char :=
  sessionPair tunnelToken ++ cookieAttributes ++ secureAttribute

def browserCookies : List (List Char) :=
  ["theme=dark".toList, kept secureCookie, "lang=en".toList]

def reading : ApiCall where
  headers :=
    { authorization := none
      cookie := some (cookieHeader browserCookies)
      forwardedProto := none }
  queryToken := none

theorem createSession_opening :
    opening.createSession tunnelToken = .ok secureCookie := by
  decide +kernel

theorem clean_browserCookies : ∀ other ∈ browserCookies, ';' ∉ other := by
  decide +kernel

end ApiCall

end Darcbench
