import Darcbench.Modules.Exchange
import Darcbench.Modules.Stranger

/-!
# One response to a request

However the request of a caller arrives, the origin makes at most one response
to it.
-/

namespace Darcbench

open WebOrigin HttpClient

/-! ## What the origin makes of the requests of a caller -/

namespace Caller

def requestHead (caller : Caller) : List UInt8 :=
  headBytes (requestLines caller.address caller.bytes caller.reuse caller.token)

theorem isHead_requestHead (caller : Caller) : IsHead caller.requestHead :=
  isHead_request caller.address caller.bytes_le caller.reuse caller.token

theorem request_client (caller : Caller) :
    caller.client.request = caller.requestHead :=
  request_eq caller.address caller.bytes caller.reuse caller.token

theorem expectedBytes_client (caller : Caller) :
    caller.client.expectedBytes = caller.bytes := by
  unfold client forSession
  cases caller.token with
  | none => rfl
  | some token => rfl

theorem close_client (caller : Caller) :
    caller.client.close = decide (caller.reuse = .perRequest) := by
  unfold client forSession
  cases caller.token with
  | none => rfl
  | some token => rfl

/-- The request as the origin understands it. -/
def asked (caller : Caller) : Request :=
  ⟨true, some caller.bytes, caller.reuse = .perRequest, caller.token⟩

theorem parseHead_requestHead (caller : Caller) :
    parseHead (caller.requestHead.take (caller.requestHead.length - 4)) =
      some caller.asked := by
  have htake : caller.requestHead.take (caller.requestHead.length - 4) =
      utf8 (headText (requestLines caller.address caller.bytes caller.reuse
        caller.token)) := by
    rw [requestHead, length_headBytes, Nat.add_sub_cancel, headBytes,
      List.take_left]
  rw [htake]
  exact parseHead_request caller.address caller.bytes_le caller.reuse
    caller.token

end Caller

/-- A response that a caller may get. -/
structure IsAnswer (caller : Caller) (response : Response) : Prop where
  status : response.status ∈ statuses
  bounded : response.body.length ≤ u64Max
  whole : response.status = statusOk → response.body.length = caller.bytes

/-- What the origin has not answered yet, while the connection is open. -/
structure Unanswered (origin : WebOrigin.Connection)
    (upstream part : List UInt8) : Prop where
  unread : origin.ended = false → origin.buffer ++ upstream = part
  resumes : origin.ended = false → Resumes origin.buffer origin.scanned

theorem Unanswered.of_ended {origin : WebOrigin.Connection}
    (h : origin.ended = true) (upstream part : List UInt8) :
    Unanswered origin upstream part where
  unread hopen := absurd (h.symm.trans hopen) (by simp)
  resumes hopen := absurd (h.symm.trans hopen) (by simp)

/-- The counts after a response. -/
structure CountsResponse (shared shared' : Shared) (status : String) : Prop where
  token : shared'.token = shared.token
  bodies : shared'.bodies = shared.bodies
  served : shared'.served =
    if status = statusOk then shared.served + 1 else shared.served

/-- One response is made, to bytes that had not been answered. -/
structure Responds (caller : Caller) (origin t : WebOrigin.Connection)
    (upstream part : List UInt8) (response : Response) : Prop where
  responses : t.responses = origin.responses ++ [response]
  isAnswer : IsAnswer caller response
  ne_nil : part ≠ []
  unanswered : Unanswered t upstream []
  counts : CountsResponse origin.shared t.shared response.status

variable {caller : Caller} {origin t : WebOrigin.Connection}
  {upstream part : List UInt8}

/-- Only a whole request is a head. -/
theorem Unanswered.whole (h : Unanswered origin upstream part)
    (hpart : part <+: caller.requestHead) (hopen : origin.ended = false)
    {headEnd : ℕ}
    (hfind : (findHeadEnd origin.buffer origin.scanned).1 = some headEnd) :
    origin.buffer = caller.requestHead ∧ upstream = [] ∧
      part = caller.requestHead ∧
        headEnd = caller.requestHead.length - 4 := by
  have hhead := caller.isHead_requestHead
  have hunread := h.unread hopen
  have hbuffer : origin.buffer <+: caller.requestHead :=
    List.IsPrefix.trans ⟨upstream, hunread⟩ hpart
  rw [(h.resumes hopen).findHeadEnd_eq] at hfind
  have hlength : caller.requestHead.length ≤ origin.buffer.length := by
    by_contra hlt
    obtain ⟨m, hnone⟩ :=
      hhead.findHeadEnd_of_lt hbuffer (Nat.not_le.mp hlt)
    rw [hnone] at hfind
    exact absurd hfind (by simp)
  have heq := hbuffer.eq_of_length_le hlength
  obtain ⟨m, hsome⟩ := hhead.findHeadEnd_append []
  rw [List.append_nil] at hsome
  rw [heq, hsome] at hfind
  have htotal := hpart.length_le
  rw [← hunread, List.length_append, heq] at htotal
  have hupstream : upstream = [] := by
    rw [← List.length_eq_zero_iff]
    omega
  refine ⟨heq, hupstream, ?_, (Option.some.inj hfind).symm⟩
  rw [← hunread, hupstream, List.append_nil, heq]

/-- The head that is served is the request of the caller. -/
theorem serveHead_eq_serveRequest (h : Unanswered origin upstream part)
    (hpart : part <+: caller.requestHead) {failed : Option ℕ}
    (hstep : origin.serveHead failed = some t) :
    part = caller.requestHead ∧ upstream = [] ∧
      t = WebOrigin.Connection.serveRequest
        { origin with buffer := [], scanned := 0 } caller.asked failed := by
  obtain ⟨hopen, headEnd, hfind⟩ :=
    WebOrigin.Connection.open_of_serveHead hstep
  obtain ⟨hbuffer, hupstream, hwhole, rfl⟩ := h.whole hpart hopen hfind
  have hfour := caller.isHead_requestHead.four_le_length
  refine ⟨hwhole, hupstream, ?_⟩
  unfold WebOrigin.Connection.serveHead at hstep
  have hpair : findHeadEnd origin.buffer origin.scanned =
      (some (caller.requestHead.length - 4),
        (findHeadEnd origin.buffer origin.scanned).2) := by
    rw [← hfind]
  rw [hopen, if_neg Bool.false_ne_true, hpair] at hstep
  dsimp only at hstep
  rw [hbuffer, caller.parseHead_requestHead, Nat.sub_add_cancel hfour,
    List.drop_length] at hstep
  exact (Option.some.inj hstep).symm


theorem length_body {bodies : Bodies} {bytes : ℕ} {body : List UInt8}
    (h : bodies.body bytes = some body) : body.length = bytes := by
  unfold Bodies.body at h
  split_ifs at h with hboth
  rw [← Option.some.inj h, List.length_take, Nat.min_eq_left hboth.2]

theorem Caller.requestHead_ne_nil (caller : Caller) :
    caller.requestHead ≠ [] := by
  intro hnil
  have hfour := caller.isHead_requestHead.four_le_length
  rw [hnil] at hfour
  exact absurd hfour (by simp)

theorem isAnswer_of_empty {response : Response}
    (hstatus : response.status ∈ statuses) (hbody : response.body = [])
    (hother : response.status ≠ statusOk) : IsAnswer caller response where
  status := hstatus
  bounded := by
    rw [hbody]
    exact Nat.zero_le _
  whole hok := absurd hok hother

/-- The response to the request of a caller. -/
def Caller.response (caller : Caller) (shared : Shared)
    (failed : Option ℕ) : Response :=
  if !authorised caller.asked shared then
    ⟨some caller.asked, statusUnauthorized, [], true, failed⟩
  else
    match shared.bodies.body caller.bytes with
    | some body =>
        ⟨some caller.asked, statusOk, body, caller.asked.close, failed⟩
    | none =>
        ⟨some caller.asked, statusNotFound, [], caller.asked.close, failed⟩

/-- Whatever the request of a caller comes to, it has one response. -/
theorem responds_serveRequest (caller : Caller) (origin : WebOrigin.Connection)
    (failed : Option ℕ) :
    Responds caller origin
      (WebOrigin.Connection.serveRequest
        { origin with buffer := [], scanned := 0 } caller.asked failed)
      [] caller.requestHead (caller.response origin.shared failed) := by
  have hok : statusOk ∈ statuses := by decide
  have hnotFound : statusNotFound ∈ statuses := by decide
  have hunauthorized : statusUnauthorized ∈ statuses := by decide
  have hnotFound_ne : statusNotFound ≠ statusOk := by decide
  have hunauthorized_ne : statusUnauthorized ≠ statusOk := by decide
  have hunanswered : ∀ ended responses shared, Unanswered
      ⟨shared, [], 0, ended, responses⟩ [] [] := by
    intro ended responses shared
    exact ⟨fun _ => rfl, fun _ => Resumes.zero []⟩
  unfold WebOrigin.Connection.serveRequest Caller.response
  by_cases hauthorised : (!authorised caller.asked origin.shared) = true
  · rw [if_pos hauthorised, if_pos hauthorised]
    refine ⟨rfl, isAnswer_of_empty hunauthorized rfl hunauthorized_ne,
      caller.requestHead_ne_nil, hunanswered _ _ _, rfl, rfl, ?_⟩
    rw [if_neg hunauthorized_ne]
  · have hget : ¬ (!caller.asked.get) = true := Bool.false_ne_true
    have hobject : caller.asked.object.bind origin.shared.bodies.body =
        origin.shared.bodies.body caller.bytes := rfl
    rw [if_neg hauthorised, if_neg hauthorised, if_neg hget, hobject]
    cases hbody : origin.shared.bodies.body caller.bytes with
    | none =>
        dsimp only
        rw [if_neg hnotFound_ne]
        refine ⟨rfl, isAnswer_of_empty hnotFound rfl hnotFound_ne,
          caller.requestHead_ne_nil, hunanswered _ _ _, rfl, rfl, ?_⟩
        rw [if_neg hnotFound_ne]
    | some body =>
        have hlength := length_body hbody
        dsimp only
        rw [if_pos rfl]
        refine ⟨rfl, ⟨hok, ?_, fun _ => hlength⟩,
          caller.requestHead_ne_nil, hunanswered _ _ _, rfl, rfl, ?_⟩
        · exact le_of_eq_of_le hlength caller.bytes_le
        · rw [if_pos rfl]

/-- A head that cannot be read to its end has one response. -/
theorem exists_responds_refuse (caller : Caller)
    (origin : WebOrigin.Connection) (hpart : part ≠ []) {scanned : ℕ}
    (upstream : List UInt8) (failed : Option ℕ) :
    ∃ response, Responds caller origin
      (WebOrigin.Connection.refuse { origin with scanned } statusHeadTooLarge
        failed) upstream part response := by
  have htooLarge : statusHeadTooLarge ∈ statuses := by decide
  have hunauthorized : statusUnauthorized ∈ statuses := by decide
  have htooLarge_ne : statusHeadTooLarge ≠ statusOk := by decide
  have hunauthorized_ne : statusUnauthorized ≠ statusOk := by decide
  unfold WebOrigin.Connection.refuse Shared.refuseStatus
  dsimp only
  split_ifs with hnone
  · refine ⟨_, rfl, isAnswer_of_empty htooLarge rfl htooLarge_ne, hpart,
      .of_ended rfl _ _, rfl, rfl, ?_⟩
    rw [if_neg htooLarge_ne]
  · refine ⟨_, rfl, isAnswer_of_empty hunauthorized rfl hunauthorized_ne,
      hpart, .of_ended rfl _ _, rfl, rfl, ?_⟩
    rw [if_neg hunauthorized_ne]

/-- An idle connection is not too long. -/
theorem ne_nil_of_oversized {buffer : List UInt8} {shutdown : Bool}
    {elapsed : ℕ} {read : ReadResult}
    (h : readMore buffer shutdown elapsed read = .oversized) : buffer ≠ [] := by
  rintro rfl
  unfold readMore at h
  rw [if_neg (by decide)] at h
  cases shutdown with
  | true => exact absurd h (by simp)
  | false =>
      rw [if_neg Bool.false_ne_true, if_neg (by simp)] at h
      cases read with
      | data chunk =>
          dsimp only at h
          split at h
          · exact absurd h (by simp)
          · exact absurd h (by simp)
      | retryable shutdown elapsed =>
          dsimp only at h
          rw [List.isEmpty_nil, if_pos rfl] at h
          split at h
          · exact absurd h (by simp)
          · exact absurd h (by simp)
      | failed => exact absurd h (by simp)

/-- The origin goes on, or it makes one response to bytes that it had not
answered yet. -/
theorem originStep_cases (h : Unanswered origin upstream part)
    (hpart : part <+: caller.requestHead)
    {action : WebOrigin.Connection.Action} (hbytes : action.bytes <+: upstream)
    (hstep : origin.step action = some t) :
    (t.responses = origin.responses ∧ t.shared = origin.shared ∧
      Unanswered t (upstream.drop action.bytes.length) part) ∨
    ∃ response, Responds caller origin t
      (upstream.drop action.bytes.length) part response := by
  cases action with
  | serveHead failed =>
      obtain ⟨rfl, rfl, rfl⟩ := serveHead_eq_serveRequest h hpart hstep
      exact .inr ⟨_, responds_serveRequest caller origin failed⟩
  | poll shutdown elapsed read failed =>
      obtain ⟨hopen, scanned, hfind⟩ :=
        WebOrigin.Connection.open_of_poll hstep
      have hnone := hfind
      rw [(h.resumes hopen).findHeadEnd_eq] at hnone
      have hpoll : WebOrigin.Connection.poll origin shutdown elapsed read
          failed = some t := hstep
      unfold WebOrigin.Connection.poll at hpoll
      rw [hopen, if_neg Bool.false_ne_true, hfind] at hpoll
      dsimp only at hpoll
      cases hread : readMore origin.buffer shutdown elapsed read with
      | oversized =>
          rw [hread] at hpoll
          obtain rfl := Option.some.inj hpoll
          have hne : part ≠ [] := by
            rw [← h.unread hopen]
            exact List.append_ne_nil_of_left_ne_nil
              (ne_nil_of_oversized hread) upstream
          exact .inr (exists_responds_refuse caller origin hne _ failed)
      | finished =>
          rw [hread] at hpoll
          obtain rfl := Option.some.inj hpoll
          exact .inl ⟨rfl, rfl, .of_ended rfl _ _⟩
      | reading buffer =>
          rw [hread] at hpoll
          obtain rfl := Option.some.inj hpoll
          have hbuffer := WebOrigin.Connection.readMore_eq_reading failed hread
          refine .inl ⟨rfl, rfl, fun _ => ?_, fun _ => ?_⟩
          · obtain ⟨rest, hrest⟩ := hbytes
            have hunread := h.unread hopen
            rw [← hrest] at hunread ⊢
            rw [List.drop_left, hbuffer, List.append_assoc]
            exact hunread
          · dsimp only
            rw [hbuffer]
            exact .append hnone _

end Darcbench
