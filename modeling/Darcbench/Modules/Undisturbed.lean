import Darcbench.Modules.Answered

/-!
# Runs in which nothing fails

Where no operation fails and no deadline is reached, every request is answered,
in pieces of whatever size its bytes arrive.
-/

namespace Darcbench

open WebOrigin HttpClient

/-! ## A step of the origin -/

/-- The step does not fail, and it reaches no deadline. -/
def CalmStep (origin : WebOrigin.Connection) :
    WebOrigin.Connection.Action → Prop
  | .serveHead failed => failed = none
  | .poll shutdown elapsed read failed => failed = none ∧ read.Delivers ∧
      Pass.Calm ⟨shutdown, elapsed, read⟩ (origin.buffer = [])

/-- A response that gets out in full, with the object in it. -/
structure IsWhole (caller : Caller) (response : Response) : Prop where
  status : response.status = statusOk
  sent : response.failed = none

variable {caller : Caller} {origin t : WebOrigin.Connection}
  {upstream part : List UInt8}

theorem Caller.Served.congr {shared shared' : Shared}
    (h : caller.Served shared) (htoken : shared'.token = shared.token)
    (hbodies : shared'.bodies = shared.bodies) : caller.Served shared' where
  configured := hbodies ▸ h.configured
  fits := hbodies ▸ h.fits
  authorised := htoken ▸ h.authorised

theorem Caller.Served.body_eq {shared : Shared} (h : caller.Served shared) :
    shared.bodies.body caller.bytes =
      some (shared.bodies.main.take caller.bytes) :=
  if_pos ⟨h.configured, h.fits⟩

theorem Caller.Served.authorised_asked {shared : Shared}
    (h : caller.Served shared) :
    WebOrigin.authorised caller.asked shared = true := by
  unfold WebOrigin.authorised
  cases htoken : shared.token with
  | none => rfl
  | some token =>
      have hsame : caller.asked.token = some token := h.authorised token htoken
      dsimp only
      rw [hsame, Option.any_some]
      exact (SessionToken.matches_iff token token).mpr rfl

theorem isWhole_response {shared : Shared} (h : caller.Served shared) :
    IsWhole caller (caller.response shared none) := by
  unfold Caller.response
  rw [h.authorised_asked, Bool.not_true, if_neg Bool.false_ne_true, h.body_eq]
  exact ⟨rfl, rfl⟩

theorem ended_serveRequest (h : caller.Served origin.shared) :
    (WebOrigin.Connection.serveRequest { origin with buffer := [], scanned := 0 }
      caller.asked none).ended = caller.client.close := by
  have hnot : ¬ (!authorised caller.asked origin.shared) = true := by
    rw [h.authorised_asked]
    exact Bool.false_ne_true
  unfold WebOrigin.Connection.serveRequest
  rw [if_neg hnot, caller.close_client]
  rfl

/-- Without a failure the origin goes on reading, or it makes a whole
response. -/
theorem calmStep_cases (h : Unanswered origin upstream part)
    (hpart : part <+: caller.requestHead) (hserved : caller.Served origin.shared)
    {action : WebOrigin.Connection.Action} (hcalm : CalmStep origin action)
    (hstep : origin.step action = some t) :
    (t.responses = origin.responses ∧ t.ended = false) ∨
    ∃ response, t.responses = origin.responses ++ [response] ∧
      IsWhole caller response ∧ t.ended = caller.client.close := by
  cases action with
  | serveHead failed =>
      obtain rfl : failed = none := hcalm
      obtain ⟨-, -, rfl⟩ := serveHead_eq_serveRequest h hpart hstep
      exact .inr ⟨_, (responds_serveRequest caller origin none).responses,
        isWhole_response hserved, ended_serveRequest hserved⟩
  | poll shutdown elapsed read failed =>
      obtain ⟨hopen, scanned, hfind⟩ :=
        WebOrigin.Connection.open_of_poll hstep
      obtain ⟨rfl, hdelivers, hpass⟩ := hcalm
      have hbuffer : origin.buffer <+: caller.requestHead :=
        List.IsPrefix.trans ⟨upstream, h.unread hopen⟩ hpart
      have hlt : origin.buffer.length < maxHeadBytes := by
        have hhead := caller.isHead_requestHead
        refine lt_of_lt_of_le ?_ hhead.bounded
        by_contra hle
        have heq := hbuffer.eq_of_length_le (Nat.not_lt.mp hle)
        obtain ⟨m, hsome⟩ := hhead.findHeadEnd_append []
        rw [List.append_nil, ← heq] at hsome
        rw [(h.resumes hopen).findHeadEnd_eq, hsome] at hfind
        exact absurd (congrArg Prod.fst hfind) (by simp)
      have hread : readMore origin.buffer shutdown elapsed read =
          .reading (origin.buffer ++ read.bytes) :=
        readMore_of_calm hlt hdelivers hpass
      have hpoll : WebOrigin.Connection.poll origin shutdown elapsed read
          none = some t := hstep
      unfold WebOrigin.Connection.poll at hpoll
      rw [hopen, if_neg Bool.false_ne_true, hfind] at hpoll
      dsimp only at hpoll
      rw [hread] at hpoll
      obtain rfl := Option.some.inj hpoll
      exact .inl ⟨rfl, rfl⟩

theorem open_of_step {action : WebOrigin.Connection.Action}
    (hstep : origin.step action = some t) : origin.ended = false := by
  cases action with
  | serveHead failed =>
      exact (WebOrigin.Connection.open_of_serveHead hstep).1
  | poll shutdown elapsed read failed =>
      exact (WebOrigin.Connection.open_of_poll hstep).1

/-! ## A connection on which nothing has failed -/

namespace Line

/-- The whole response is on its way. -/
structure Arriving (line : Line) (earlier : List Response)
    (response : Response) : Prop where
  responses : line.origin.responses = earlier ++ [response]
  count : earlier.length = line.answers.length
  isWhole : IsWhole line.caller response
  ne_nil : line.downstream ≠ []
  ended : line.origin.ended = line.caller.client.close

def CalmPhase (line : Line) : Use → Prop
  | .idle => line.origin.ended = false
  | .reading _ =>
      line.origin.responses.length = line.answers.length ∧
        line.origin.ended = false ∨
      ∃ earlier response, line.Arriving earlier response
  | .closed error => error = none

/-- No request has failed on the connection. -/
structure Undisturbed (shared : Shared) (line : Line) : Prop where
  invariant : line.Invariant
  served : line.caller.Served shared
  calm : line.CalmPhase line.use

variable {shared : Shared} {line : Line} {reader : ResponseReader}
  {earlier : List Response} {response : Response} {seen : List UInt8}

theorem Undisturbed.failures_eq (h : line.Undisturbed shared) :
    line.failures = 0 := by
  have hcalm := h.calm
  cases huse : line.use with
  | idle => rw [failures, huse]
  | reading reader => rw [failures, huse]
  | closed error =>
      rw [huse] at hcalm
      obtain rfl : error = none := hcalm
      rw [failures, huse]

theorem undisturbed_connect (h : caller.Served shared) (shared' : Shared) :
    ((connect caller shared').write none).Undisturbed shared where
  invariant := (invariant_connect caller shared').write
    (fun _ hmem => absurd hmem List.not_mem_nil) none
  served := h
  calm := .inl ⟨rfl, rfl⟩

theorem Undisturbed.write (h : line.Undisturbed shared)
    (hidle : line.use = .idle) : (line.write none).Undisturbed shared := by
  have hphase := h.invariant.phase
  have hcalm := h.calm
  rw [hidle] at hphase hcalm
  exact ⟨hphase.write h.invariant.exact none, h.served,
    .inl ⟨hphase.taken.count, hcalm⟩⟩

/-- The response that is read is the one that is on its way. -/
theorem Arriving.eq (h : line.Arriving earlier response)
    {earlier' : List Response} {response' : Response}
    (hreceiving : line.Receiving reader earlier' response' seen) :
    response' = response := by
  have heq := hreceiving.responses.symm.trans h.responses
  exact (List.append_inj' heq rfl).2 |> List.singleton_inj.mp

theorem Receiving.of_ne_nil (h : line.Invariant)
    (huse : line.use = .reading reader) (hne : line.downstream ≠ []) :
    ∃ earlier response seen, line.Receiving reader earlier response seen := by
  have hphase := h.phase
  rw [huse] at hphase
  rcases hphase with hwaiting | hreceiving
  · exact absurd hwaiting.downstream hne
  · exact hreceiving

theorem Receiving.arriving (h : line.Undisturbed shared)
    (huse : line.use = .reading reader)
    (hreceiving : line.Receiving reader earlier response seen) :
    line.Arriving earlier response := by
  have hcalm := h.calm
  rw [huse] at hcalm
  rcases hcalm with ⟨hcount, -⟩ | ⟨earlier', response', harriving⟩
  · rw [hreceiving.responses, List.length_append,
      List.length_singleton, hreceiving.taken.count] at hcount
    omega
  · have heq := hreceiving.responses.symm.trans harriving.responses
    obtain ⟨rfl, hresponse⟩ := List.append_inj' heq rfl
    obtain rfl := List.singleton_inj.mp hresponse
    exact harriving

/-- What is read of a whole response makes no error, and it is an answer as soon
as all of it has been read. -/
theorem Receiving.answer_of_whole
    (h : line.Receiving reader earlier response seen)
    (hwhole : IsWhole line.caller response) {count : ℕ}
    {reader' : ResponseReader}
    (hreads : Reads (headBytes (responseLines response))
      (seen ++ line.downstream.take count) reader') :
    ∃ answer, reader'.answer line.caller.client.expectedBytes = .ok answer ∧
      (answer = none → line.downstream.drop count ≠ []) := by
  have htext : response.text.length =
      (headBytes (responseLines response)).length + line.caller.bytes := by
    rw [text_eq, List.length_append, h.isAnswer.whole hwhole.status]
  have hsent : response.sent = response.text := by
    rw [Response.sent, hwhole.sent]
  have hmore : (seen ++ line.downstream.take count).length <
      response.text.length → line.downstream.drop count ≠ [] := by
    intro hlt hnil
    have hseen := h.sent
    rw [← List.take_append_drop count line.downstream, hnil, List.append_nil,
      hsent] at hseen
    rw [hseen] at hlt
    exact absurd hlt (Nat.lt_irrefl _)
  obtain ⟨code, hcode, hok⟩ := codeOf_statuses h.isAnswer.status
  rw [← statusCode_headBytes h.isAnswer.status] at hcode
  by_cases hshort : (seen ++ line.downstream.take count).length <
      (headBytes (responseLines response)).length
  · exact ⟨none, hreads.answer_short hshort _, fun _ => hmore (by omega)⟩
  · rw [hreads.answer_complete (Nat.not_lt.mp hshort) hcode,
      line.caller.expectedBytes_client,
      if_neg (not_not.mpr (hok.mpr hwhole.status))]
    split_ifs with henough
    · exact ⟨_, rfl, fun hnone => absurd hnone (by simp)⟩
    · exact ⟨none, rfl, fun _ => hmore (by omega)⟩

/-- A request under way does not fail. -/
theorem Undisturbed.read (h : line.Undisturbed shared)
    (huse : line.use = .reading reader) {count : ℕ} {next : Line}
    (hread : line.read reader count none = some next) :
    next.Undisturbed shared := by
  have hinvariant := h.invariant.read huse hread
  rcases read_cases hread with ⟨downstream, error, -, hfails⟩ |
    ⟨reader', hon, rfl⟩ | ⟨reader', bytes, hon, rfl⟩
  · exfalso
    rcases hfails with hfailed | ⟨hnil, hended⟩ | ⟨hne, error, hfails⟩
    · exact absurd hfailed (by simp)
    · have hcalm := h.calm
      rw [huse] at hcalm
      rcases hcalm with ⟨-, hopen⟩ | ⟨earlier, response, harriving⟩
      · exact absurd (hopen.symm.trans hended) (by simp)
      · exact harriving.ne_nil hnil
    · obtain ⟨earlier, response, seen, hreceiving⟩ :=
        Receiving.of_ne_nil h.invariant huse hne
      obtain ⟨reader', hextend, hreads⟩ := hreceiving.extend count
      rcases hfails with hfails | ⟨reader'', hextend', hfails⟩
      · exact absurd (hextend.symm.trans hfails) (by simp)
      · obtain rfl := Except.ok.inj (hextend.symm.trans hextend')
        obtain ⟨answer, hanswer, -⟩ := hreceiving.answer_of_whole
          (hreceiving.arriving h huse).isWhole hreads
        exact absurd (hanswer.symm.trans hfails) (by simp)
  · obtain ⟨earlier, response, seen, hreceiving⟩ :=
      Receiving.of_ne_nil h.invariant huse hon.ne_nil
    have harriving := hreceiving.arriving h huse
    obtain ⟨reader'', hextend, hreads⟩ := hreceiving.extend count
    obtain rfl := Except.ok.inj (hextend.symm.trans hon.extend)
    obtain ⟨answer, hanswer, hmore⟩ :=
      hreceiving.answer_of_whole harriving.isWhole hreads
    obtain rfl := Except.ok.inj (hanswer.symm.trans hon.answer_eq)
    exact ⟨hinvariant, h.served, .inr ⟨earlier, response,
      harriving.responses, harriving.count, harriving.isWhole, hmore rfl,
      harriving.ended⟩⟩
  · obtain ⟨earlier, response, seen, hreceiving⟩ :=
      Receiving.of_ne_nil h.invariant huse hon.ne_nil
    have harriving := hreceiving.arriving h huse
    refine ⟨hinvariant, h.served, ?_⟩
    have hended := harriving.ended
    unfold Line.finish
    dsimp only
    split_ifs with hclose
    · rfl
    · rw [Bool.not_eq_true] at hclose
      exact hended.trans hclose

section Serving

variable {action : WebOrigin.Connection.Action} {shared' : Shared}

theorem Undisturbed.serve (h : line.Undisturbed shared)
    (hshared : line.caller.Served shared') (hdelivers : line.Delivers action)
    (hcalm : CalmStep line.origin action)
    (hstep : WebOrigin.Connection.step { line.origin with shared := shared' }
      action = some t) :
    (line.serve action t).Undisturbed shared := by
  have hinvariant := h.invariant.serve hdelivers hstep
  refine ⟨hinvariant, h.served, ?_⟩
  show (line.serve action t).CalmPhase line.use
  have hphase := h.invariant.phase
  have hcases : ∀ {part : List UInt8}, part <+: line.caller.requestHead →
      Unanswered line.origin line.upstream part →
        (t.responses = line.origin.responses ∧ t.ended = false) ∨
        ∃ response, t.responses = line.origin.responses ++ [response] ∧
          IsWhole line.caller response ∧
            t.ended = line.caller.client.close := by
    intro part hpart hunanswered
    have hshifted : Unanswered { line.origin with shared := shared' }
        line.upstream part := ⟨hunanswered.unread, hunanswered.resumes⟩
    have hstill : CalmStep { line.origin with shared := shared' } action := by
      cases action with
      | serveHead failed => exact hcalm
      | poll shutdown elapsed read failed => exact hcalm
    have hstepped := calmStep_cases hshifted hpart hshared hstill hstep
    exact hstepped
  have hstill : line.origin.ended = false := by
    have hopen := open_of_step hstep
    exact hopen
  -- Without anything to answer the origin makes no response.
  have hquiet : Unanswered line.origin line.upstream [] →
      t.responses = line.origin.responses ∧ t.ended = false := by
    intro hunanswered
    obtain ⟨hsame, -, -⟩ | ⟨response, hresponds⟩ :=
      serve_cases hdelivers hstep List.nil_prefix hunanswered
    · obtain hgoes | ⟨response, hmore, -⟩ :=
        hcases List.nil_prefix hunanswered
      · exact hgoes
      · have hlength := congrArg List.length (hsame.symm.trans hmore)
        rw [List.length_append, List.length_singleton] at hlength
        omega
    · exact absurd rfl hresponds.ne_nil
  cases huse : line.use with
  | idle =>
      rw [huse] at hphase
      exact (hquiet hphase.unanswered).2
  | reading reader =>
      rw [huse] at hphase
      rcases hphase with hwaiting | ⟨earlier, response, seen, hreceiving⟩
      · obtain ⟨hresponses, hopen⟩ | ⟨response, hresponses, hwhole, hended⟩ :=
          hcases List.prefix_rfl hwaiting.unanswered
        · refine .inl ⟨?_, hopen⟩
          show t.responses.length = line.answers.length
          rw [hresponses]
          exact hwaiting.taken.count
        · refine .inr ⟨_, response, hresponses, hwaiting.taken.count, hwhole,
            ?_, hended⟩
          rw [downstream_of_responds hresponses, hwaiting.downstream,
            List.nil_append, Response.sent, hwhole.sent]
          intro hnil
          have hfour := congrArg List.length hnil
          rw [text_eq, List.length_append, length_headBytes,
            List.length_nil] at hfour
          omega
      · obtain ⟨hresponses, hopen⟩ := hquiet hreceiving.unanswered
        have harriving := hreceiving.arriving h huse
        refine .inr ⟨earlier, response,
          hresponses.trans harriving.responses, harriving.count,
          harriving.isWhole, ?_, ?_⟩
        · rw [downstream_of_goes hresponses]
          exact harriving.ne_nil
        · exact hopen.trans (hstill.symm.trans harriving.ended)
  | closed error =>
      have hnone := h.calm
      rw [huse] at hnone
      exact hnone

end Serving

end Line

/-! ## Runs -/

namespace Exchange

variable {shared : Shared} {callers : List Caller} {s t : Exchange}

/-- Nothing fails in the step, and no deadline is reached. -/
def Calm (s : Exchange) : Action → Prop
  | .request _ failed => failed = none
  | .refuse _ _ => False
  | .read _ _ failed => failed = none
  | .serve index action =>
      ∀ line, s.lines[index]? = some line → CalmStep line.origin action

/-- The steps of a run in which nothing fails. -/
def Smooth (s : Exchange) (action : Action) : Prop :=
  s.Ordered action ∧ s.Calm action

/-- The state of a run in which nothing has failed. -/
structure Undisturbed (shared : Shared) (s : Exchange) : Prop where
  invariant : s.Invariant shared
  lines : ∀ line ∈ s.lines, line.Undisturbed shared
  slots : ∀ slot ∈ s.slots, slot.caller.Served shared
  unconnected : s.unconnected = 0

theorem Undisturbed.set (h : s.Undisturbed shared) {index slot : ℕ}
    {next : Line} {shared' : Shared} {worker : Slot}
    (hnext : next.Undisturbed shared) (hworker : worker.caller.Served shared)
    (hinvariant : Invariant shared ⟨shared', s.lines.set index next,
      s.slots.set slot worker, s.unconnected⟩) :
    Undisturbed shared ⟨shared', s.lines.set index next,
      s.slots.set slot worker, s.unconnected⟩ where
  invariant := hinvariant
  lines := by
    intro other hother
    rcases List.mem_or_eq_of_mem_set hother with hother | rfl
    · exact h.lines other hother
    · exact hnext
  slots := by
    intro other hother
    rcases List.mem_or_eq_of_mem_set hother with hother | rfl
    · exact h.slots other hother
    · exact hworker
  unconnected := h.unconnected

theorem Undisturbed.request (h : s.Undisturbed shared) {slot : ℕ}
    (hstep : s.request slot none = some t) : t.Undisturbed shared := by
  have hinvariant := h.invariant.request hstep
  obtain ⟨worker, hslot, hworker⟩ := Option.bind_eq_some_iff.mp hstep
  have hcaller := h.slots worker (List.mem_of_getElem? hslot)
  cases hheld : worker.held with
  | none =>
      rw [hheld] at hworker
      obtain rfl := Option.some.inj hworker
      refine ⟨hinvariant, ?_, ?_, h.unconnected⟩
      · intro line hline
        rcases List.mem_append.mp hline with hline | hline
        · exact h.lines line hline
        · exact List.mem_singleton.mp hline ▸
            Line.undisturbed_connect hcaller s.shared
      · intro other hother
        rcases List.mem_or_eq_of_mem_set hother with hother | rfl
        · exact h.slots other hother
        · exact hcaller
  | some index =>
      rw [hheld] at hworker
      obtain ⟨line, hline, hwrite⟩ := Option.bind_eq_some_iff.mp hworker
      by_cases hidle : line.use = .idle
      swap
      · rw [if_neg hidle] at hwrite
        exact absurd hwrite (by simp)
      rw [if_pos hidle] at hwrite
      obtain rfl := Option.some.inj hwrite
      exact h.set ((h.lines line (mem_lines hline)).write hidle) hcaller
        hinvariant

theorem Undisturbed.read (h : s.Undisturbed shared) {slot count : ℕ}
    (hstep : s.read slot count none = some t) : t.Undisturbed shared := by
  have hinvariant := h.invariant.read hstep
  obtain ⟨worker, hslot, hworker⟩ := Option.bind_eq_some_iff.mp hstep
  have hcaller := h.slots worker (List.mem_of_getElem? hslot)
  obtain ⟨index, -, hindex⟩ := Option.bind_eq_some_iff.mp hworker
  obtain ⟨line, hline, hread⟩ := Option.bind_eq_some_iff.mp hindex
  cases huse : line.use with
  | idle =>
      rw [huse] at hread
      exact absurd hread (by simp)
  | closed error =>
      rw [huse] at hread
      exact absurd hread (by simp)
  | reading reader =>
      rw [huse] at hread
      obtain ⟨next, hnext, hset⟩ := Option.bind_eq_some_iff.mp hread
      obtain rfl := Option.some.inj hset
      exact h.set ((h.lines line (mem_lines hline)).read huse hnext) hcaller
        hinvariant

theorem Undisturbed.serve (h : s.Undisturbed shared) {index : ℕ}
    {action : WebOrigin.Connection.Action}
    (hsmooth : s.Smooth (.serve index action))
    (hstep : s.serve index action = some t) : t.Undisturbed shared := by
  have hinvariant := h.invariant.serve hsmooth.1 hstep
  obtain ⟨line, hline, hserve⟩ := Option.bind_eq_some_iff.mp hstep
  obtain ⟨origin, horigin, hset⟩ := Option.bind_eq_some_iff.mp hserve
  obtain rfl := Option.some.inj hset
  have hundisturbed := h.lines line (mem_lines hline)
  have hshared := Caller.Served.congr hundisturbed.served h.invariant.token
    h.invariant.bodies
  have hnext := hundisturbed.serve hshared (hsmooth.1 line hline)
    (hsmooth.2 line hline) horigin
  refine ⟨hinvariant, ?_, h.slots, h.unconnected⟩
  intro other hother
  rcases List.mem_or_eq_of_mem_set hother with hother | rfl
  · exact h.lines other hother
  · exact hnext

theorem Undisturbed.step (h : s.Undisturbed shared) {action : Action}
    (hsmooth : s.Smooth action) (hstep : s.step action = some t) :
    t.Undisturbed shared := by
  cases action with
  | request slot failed =>
      obtain rfl : failed = none := hsmooth.2
      exact h.request hstep
  | refuse slot error => exact hsmooth.2.elim
  | read slot count failed =>
      obtain rfl : failed = none := hsmooth.2
      exact h.read hstep
  | serve index action => exact h.serve hsmooth hstep

theorem undisturbed_of_reaches
    (hcallers : ∀ caller ∈ callers, caller.Served shared)
    (h : (system shared callers).Reaches Smooth s) : s.Undisturbed shared := by
  refine h.invariant ?_ fun s action t hs hsmooth hstep =>
    hs.step hsmooth hstep
  rintro s rfl
  refine ⟨invariant_start shared callers,
    fun _ hmem => absurd hmem List.not_mem_nil, ?_, rfl⟩
  intro slot hslot
  obtain ⟨caller, hcaller, rfl⟩ := List.mem_map.mp hslot
  exact hcallers caller hcaller

theorem Undisturbed.failures_eq (h : s.Undisturbed shared) :
    s.failures = 0 := by
  unfold failures
  rw [h.unconnected, Nat.add_zero, List.sum_eq_zero_iff]
  intro n hn
  obtain ⟨line, hline, rfl⟩ := List.mem_map.mp hn
  exact (h.lines line hline).failures_eq

end Exchange

end Darcbench
