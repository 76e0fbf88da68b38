import Darcbench.Modules.OneResponse
import Darcbench.Support.Lists

/-!
# What is answered was served

An origin counts an object before it writes it, and the client counts an answer
when it has read the object to its end.  So the two counts differ by no more than
the requests that have failed or are under way.
-/

namespace Darcbench

open WebOrigin HttpClient

/-! ## What holds of a connection -/

namespace Line

/-- Every response has been taken, and each has the object. -/
structure Taken (answers : List ℕ) (responses : List Response) : Prop where
  count : responses.length = answers.length
  ok : ∀ response ∈ responses, response.status = statusOk

/-- Everything that was asked has been answered. -/
structure Settled (line : Line) : Prop where
  taken : Taken line.answers line.origin.responses
  unanswered : Unanswered line.origin line.upstream []
  downstream : line.downstream = []

/-- The request has been written, and there is no response to it. -/
structure Waiting (line : Line) (reader : ResponseReader) : Prop where
  taken : Taken line.answers line.origin.responses
  unanswered : Unanswered line.origin line.upstream line.caller.requestHead
  downstream : line.downstream = []
  reader : reader = .start

/-- A response is on its way, and some of it has been read. -/
structure Receiving (line : Line) (reader : ResponseReader)
    (earlier : List Response) (response : Response) (seen : List UInt8) :
    Prop where
  taken : Taken line.answers earlier
  responses : line.origin.responses = earlier ++ [response]
  isAnswer : IsAnswer line.caller response
  unanswered : Unanswered line.origin line.upstream []
  sent : seen ++ line.downstream = response.sent
  reads : Reads (headBytes (responseLines response)) seen reader

/-- A connection that the client has left may still have a part of a request
on it. -/
structure GivenUp (line : Line) (part : List UInt8) : Prop where
  within : line.answers.length ≤ line.served
  isPart : part <+: line.caller.requestHead
  unanswered : Unanswered line.origin line.upstream part
  count : line.origin.responses.length + (if part = [] then 0 else 1) ≤
    line.answers.length + line.failures

def Phase (line : Line) : Use → Prop
  | .idle => line.Settled
  | .reading reader => line.Waiting reader ∨
      ∃ earlier response seen, line.Receiving reader earlier response seen
  | .closed _ => ∃ part, line.GivenUp part

structure Invariant (line : Line) : Prop where
  exact : ∀ bytes ∈ line.answers, bytes = line.caller.bytes
  phase : line.Phase line.use

variable {line : Line} {reader : ResponseReader} {earlier : List Response}
  {response : Response} {seen : List UInt8}

theorem Taken.countP_eq {answers : List ℕ} {responses : List Response}
    (h : Taken answers responses) :
    responses.countP (fun response => response.status = statusOk) =
      answers.length := by
  rw [List.countP_eq_length.mpr fun response hmem =>
    decide_eq_true (h.ok response hmem), h.count]

theorem served_le (line : Line) :
    line.served ≤ line.origin.responses.length :=
  List.countP_le_length

/-- The origin has served at least what was answered, and at most what was
asked. -/
theorem Invariant.bounds (h : line.Invariant) :
    line.answers.length ≤ line.served ∧
      line.served ≤ line.answers.length + line.failures + line.underWay := by
  have hphase := h.phase
  cases huse : line.use with
  | idle =>
      rw [huse] at hphase
      have hcount := hphase.taken.countP_eq
      rw [served, hcount]
      omega
  | reading reader =>
      rw [huse] at hphase
      have hunderWay : line.underWay = 1 := by
        rw [underWay, huse]
      rcases hphase with hwaiting | ⟨earlier, response, seen, hreceiving⟩
      · have hcount := hwaiting.taken.countP_eq
        rw [served, hcount]
        omega
      · have hcount := hreceiving.taken.countP_eq
        have hlast := List.countP_le_length (l := [response])
          (p := fun response => decide (response.status = statusOk))
        rw [List.length_singleton] at hlast
        rw [served, hreceiving.responses, List.countP_append, hcount]
        omega
  | closed error =>
      rw [huse] at hphase
      obtain ⟨part, hgiven⟩ := hphase
      have hle := line.served_le
      have hcount := hgiven.count
      exact ⟨hgiven.within, by omega⟩

theorem invariant_connect (caller : Caller) (shared : Shared) :
    (connect caller shared).Settled where
  taken := ⟨rfl, fun _ hmem => absurd hmem List.not_mem_nil⟩
  unanswered := ⟨fun _ => rfl, fun _ => Resumes.zero []⟩
  downstream := rfl

/-- A request may be written on a connection that has nothing to answer. -/
theorem Settled.write (h : line.Settled)
    (hexact : ∀ bytes ∈ line.answers, bytes = line.caller.bytes)
    (failed : Option (ℕ × String)) : (line.write failed).Invariant := by
  cases failed with
  | none =>
      refine ⟨hexact, .inl ⟨h.taken, ⟨fun hopen => ?_,
        h.unanswered.resumes⟩, h.downstream, rfl⟩⟩
      have hunread := h.unanswered.unread hopen
      show line.origin.buffer ++ (line.upstream ++ line.caller.client.request) =
        line.caller.requestHead
      rw [← List.append_assoc, hunread, line.caller.request_client,
        List.nil_append]
  | some failure =>
      obtain ⟨count, error⟩ := failure
      refine ⟨hexact, line.caller.requestHead.take count, ?_,
        List.take_prefix _ _, ⟨fun hopen => ?_, h.unanswered.resumes⟩, ?_⟩
      · exact le_of_eq h.taken.countP_eq.symm
      · have hunread := h.unanswered.unread hopen
        show line.origin.buffer ++ (line.upstream ++
          line.caller.client.request.take count) = _
        rw [← List.append_assoc, hunread, line.caller.request_client,
          List.nil_append]
      · have hcount := h.taken.count
        have hfailures : (line.write (some (count, error))).failures = 1 := rfl
        rw [hfailures]
        show line.origin.responses.length + _ ≤ line.answers.length + 1
        split_ifs <;> omega

/-- The client may give up a connection while it waits. -/
theorem Invariant.giveUp (h : line.Invariant) (huse : line.use = .reading reader)
    (downstream : List UInt8) (error : RequestError) :
    ({ line with downstream } : Line).finish (.error error) |>.Invariant := by
  have hphase := h.phase
  rw [huse] at hphase
  refine ⟨h.exact, ?_⟩
  have hfailures : (({ line with downstream } : Line).finish
      (.error error)).failures = 1 := rfl
  rcases hphase with hwaiting | ⟨earlier, response, seen, hreceiving⟩
  · refine ⟨line.caller.requestHead,
      le_of_eq hwaiting.taken.countP_eq.symm, List.prefix_rfl,
      hwaiting.unanswered, ?_⟩
    have hcount := hwaiting.taken.count
    rw [hfailures, if_neg line.caller.requestHead_ne_nil]
    exact le_of_eq (congrArg (· + 1) hcount)
  · refine ⟨[], ?_, List.nil_prefix, hreceiving.unanswered, ?_⟩
    · show line.answers.length ≤ line.served
      rw [served, hreceiving.responses, List.countP_append,
        hreceiving.taken.countP_eq]
      exact Nat.le_add_right _ _
    · have hcount := hreceiving.taken.count
      rw [hfailures, if_pos rfl]
      show line.origin.responses.length + 0 ≤ line.answers.length + 1
      rw [hreceiving.responses, List.length_append, List.length_singleton]
      omega

/-- What has been read is a part of the response. -/
theorem Receiving.isPrefix
    (h : line.Receiving reader earlier response seen) (count : ℕ) :
    seen ++ line.downstream.take count <+: response.text := by
  have hsent : seen ++ line.downstream.take count <+: response.sent := by
    rw [← h.sent]
    exact List.prefix_append_right_inj seen |>.mpr (List.take_prefix _ _)
  refine hsent.trans ?_
  unfold Response.sent
  cases response.failed with
  | none => exact List.prefix_rfl
  | some count => exact List.take_prefix _ _

/-- A piece of the response is taken in. -/
theorem Receiving.extend (h : line.Receiving reader earlier response seen)
    (count : ℕ) :
    ∃ reader', reader.extend (line.downstream.take count) = .ok reader' ∧
      Reads (headBytes (responseLines response))
        (seen ++ line.downstream.take count) reader' := by
  have hprefix := h.isPrefix count
  rw [text_eq] at hprefix
  exact h.reads.extend (isHead_response h.isAnswer.status h.isAnswer.bounded)
    hprefix

/-- Only the whole object is an answer. -/
theorem Receiving.answer_eq_some
    (h : line.Receiving reader earlier response seen) {count bytes : ℕ}
    {reader' : ResponseReader}
    (hreads : Reads (headBytes (responseLines response))
      (seen ++ line.downstream.take count) reader')
    (hanswer : reader'.answer line.caller.client.expectedBytes =
      .ok (some bytes)) :
    response.status = statusOk ∧ bytes = line.caller.bytes ∧
      seen ++ line.downstream.take count = response.text := by
  have hprefix := h.isPrefix count
  have htext : response.text.length =
      (headBytes (responseLines response)).length + response.body.length := by
    rw [text_eq, List.length_append]
  have hlength := hprefix.length_le
  obtain ⟨code, hcode, hok⟩ := codeOf_statuses h.isAnswer.status
  rw [← statusCode_headBytes h.isAnswer.status] at hcode
  by_cases hshort : (seen ++ line.downstream.take count).length <
      (headBytes (responseLines response)).length
  · rw [hreads.answer_short hshort] at hanswer
    exact absurd hanswer (by simp)
  · rw [hreads.answer_complete (Nat.not_lt.mp hshort) hcode,
      line.caller.expectedBytes_client] at hanswer
    split_ifs at hanswer with hstatus henough
    · have hbytes := Option.some.inj (Except.ok.inj hanswer)
      have hwhole := h.isAnswer.whole (hok.mp (not_not.mp hstatus))
      refine ⟨hok.mp (not_not.mp hstatus), by omega,
        hprefix.eq_of_length_le (by omega)⟩
    · exact absurd hanswer (by simp)

/-- A read of the client fails. -/
def ReadFails (line : Line) (reader : ResponseReader) (count : ℕ) : Prop :=
  line.downstream = [] ∧ line.origin.ended = true ∨
    line.downstream ≠ [] ∧ ∃ error,
      reader.extend (line.downstream.take count) = .error error ∨
        ∃ reader', reader.extend (line.downstream.take count) = .ok reader' ∧
          reader'.answer line.caller.client.expectedBytes = .error error

/-- A read takes in some bytes. -/
structure ReadsOn (line : Line) (reader : ResponseReader) (count : ℕ)
    (reader' : ResponseReader) (answer : Option ℕ) : Prop where
  ne_nil : line.downstream ≠ []
  pos : 0 < count
  extend : reader.extend (line.downstream.take count) = .ok reader'
  answer_eq : reader'.answer line.caller.client.expectedBytes = .ok answer

/-- A request under way fails, or is answered, or goes on. -/
theorem read_cases {count : ℕ} {failed : Option String} {t : Line}
    (hread : line.read reader count failed = some t) :
    (∃ downstream error,
      t = ({ line with downstream } : Line).finish (.error error) ∧
        (failed.isSome ∨ line.ReadFails reader count)) ∨
    (∃ reader', line.ReadsOn reader count reader' none ∧
      t = { line with
        downstream := line.downstream.drop count
        use := .reading reader' }) ∨
    ∃ reader' bytes, line.ReadsOn reader count reader' (some bytes) ∧
      t = ({ line with
        downstream := line.downstream.drop count } : Line).finish
          (.ok bytes) := by
  unfold Line.read at hread
  cases failed with
  | some error =>
      exact .inl ⟨_, _, (Option.some.inj hread).symm, .inl rfl⟩
  | none =>
      dsimp only at hread
      by_cases hnil : line.downstream = []
      · rw [if_pos hnil] at hread
        by_cases hended : line.origin.ended = true
        · rw [if_pos hended] at hread
          exact .inl ⟨_, _, (Option.some.inj hread).symm,
            .inr (.inl ⟨hnil, hended⟩)⟩
        · rw [if_neg hended] at hread
          exact absurd hread (by simp)
      rw [if_neg hnil] at hread
      by_cases hcount : 0 < count ∧ count ≤ readBufferBytes
      · rw [if_pos hcount, Option.map_some] at hread
        have hne : (line.downstream.take count).isEmpty = false := by
          rw [List.isEmpty_eq_false_iff, Ne, List.take_eq_nil_iff, not_or]
          exact ⟨Nat.ne_of_gt hcount.1, hnil⟩
        have hdrop : line.downstream.drop (line.downstream.take count).length =
            line.downstream.drop count := by
          rw [List.length_take, List.drop_eq_drop_iff]
          omega
        unfold readResponse at hread
        dsimp only at hread
        rw [hne, if_neg Bool.false_ne_true, hdrop] at hread
        cases hextend : reader.extend (line.downstream.take count) with
        | error error =>
            rw [hextend] at hread
            exact .inl ⟨_, _, (Option.some.inj hread).symm,
              .inr (.inr ⟨hnil, error, .inl hextend⟩)⟩
        | ok reader' =>
            rw [hextend] at hread
            dsimp only at hread
            cases hanswer :
                reader'.answer line.caller.client.expectedBytes with
            | error error =>
                rw [hanswer] at hread
                exact .inl ⟨_, _, (Option.some.inj hread).symm,
                  .inr (.inr ⟨hnil, error, .inr ⟨reader', hextend, hanswer⟩⟩)⟩
            | ok result =>
                rw [hanswer] at hread
                cases result with
                | none =>
                    exact .inr (.inl ⟨reader', ⟨hnil, hcount.1, hextend,
                      hanswer⟩, (Option.some.inj hread).symm⟩)
                | some bytes =>
                    exact .inr (.inr ⟨reader', bytes, ⟨hnil, hcount.1, hextend,
                      hanswer⟩, (Option.some.inj hread).symm⟩)
      · rw [if_neg hcount] at hread
        exact absurd hread (by simp)

theorem Taken.concat {answers : List ℕ} (h : Taken answers earlier)
    (hok : response.status = statusOk) (bytes : ℕ) :
    Taken (answers ++ [bytes]) (earlier ++ [response]) where
  count := by
    rw [List.length_append, List.length_append, h.count]
    rfl
  ok := by
    intro other hother
    rw [List.mem_append, List.mem_singleton] at hother
    rcases hother with hother | rfl
    · exact h.ok other hother
    · exact hok

/-- The bytes of an answer that has been read to its end. -/
theorem Receiving.downstream_drop
    (h : line.Receiving reader earlier response seen) {count : ℕ}
    (hwhole : seen ++ line.downstream.take count = response.text) :
    line.downstream.drop count = [] := by
  have hle : response.sent.length ≤ response.text.length := by
    unfold Response.sent
    cases response.failed with
    | none => exact Nat.le_refl _
    | some count => exact List.length_take_le' _ _
  rw [← h.sent, ← hwhole] at hle
  simp only [List.length_append, List.length_take] at hle
  rw [List.drop_eq_nil_iff]
  omega

/-- The answer is taken, and the connection is kept or given up. -/
theorem Receiving.finish (h : line.Receiving reader earlier response seen)
    (hexact : ∀ bytes ∈ line.answers, bytes = line.caller.bytes)
    (hok : response.status = statusOk) {count : ℕ}
    (hwhole : seen ++ line.downstream.take count = response.text) :
    (({ line with downstream := line.downstream.drop count } : Line).finish
      (.ok line.caller.bytes)).Invariant := by
  have htaken := h.taken.concat hok line.caller.bytes
  rw [← h.responses] at htaken
  have hexact' : ∀ bytes ∈ line.answers ++ [line.caller.bytes],
      bytes = line.caller.bytes := by
    intro bytes hbytes
    rw [List.mem_append, List.mem_singleton] at hbytes
    exact hbytes.elim (hexact bytes) id
  refine ⟨hexact', ?_⟩
  unfold Line.finish
  dsimp only
  split_ifs with hclose
  · refine ⟨[], le_of_eq htaken.countP_eq.symm, List.nil_prefix,
      h.unanswered, ?_⟩
    rw [if_pos rfl]
    exact Nat.le_add_right_of_le (le_of_eq htaken.count)
  · exact ⟨htaken, h.unanswered, h.downstream_drop hwhole⟩

/-- A read keeps what holds of a connection. -/
theorem Invariant.read (h : line.Invariant) (huse : line.use = .reading reader)
    {count : ℕ} {failed : Option String} {t : Line}
    (hread : line.read reader count failed = some t) : t.Invariant := by
  have hphase := h.phase
  rw [huse] at hphase
  have hreceiving : line.downstream ≠ [] →
      ∃ earlier response seen, line.Receiving reader earlier response seen := by
    intro hne
    rcases hphase with hwaiting | hreceiving
    · exact absurd hwaiting.downstream hne
    · exact hreceiving
  rcases read_cases hread with ⟨downstream, error, rfl, -⟩ |
    ⟨reader', hon, rfl⟩ | ⟨reader', bytes, hon, rfl⟩
  · exact h.giveUp huse downstream error
  · obtain ⟨earlier, response, seen, hreceiving⟩ := hreceiving hon.ne_nil
    obtain ⟨reader'', hextend, hreads⟩ := hreceiving.extend count
    obtain rfl := Except.ok.inj (hextend.symm.trans hon.extend)
    refine ⟨h.exact, .inr ⟨earlier, response,
      seen ++ line.downstream.take count, hreceiving.taken,
      hreceiving.responses, hreceiving.isAnswer, hreceiving.unanswered, ?_,
      hreads⟩⟩
    rw [List.append_assoc, List.take_append_drop, hreceiving.sent]
  · obtain ⟨earlier, response, seen, hreceiving⟩ := hreceiving hon.ne_nil
    obtain ⟨reader'', hextend, hreads⟩ := hreceiving.extend count
    obtain rfl := Except.ok.inj (hextend.symm.trans hon.extend)
    obtain ⟨hok, rfl, hwhole⟩ :=
      hreceiving.answer_eq_some hreads hon.answer_eq
    exact hreceiving.finish h.exact hok hwhole

/-- The connection after a step of the origin. -/
def serve (line : Line) (action : WebOrigin.Connection.Action)
    (t : WebOrigin.Connection) : Line :=
  { line with
    upstream := line.upstream.drop action.bytes.length
    origin := t
    downstream := line.downstream ++
      (t.responses.drop line.origin.responses.length).flatMap Response.sent }

theorem downstream_of_goes {action : WebOrigin.Connection.Action}
    {t : WebOrigin.Connection}
    (h : t.responses = line.origin.responses) :
    (line.serve action t).downstream = line.downstream := by
  unfold serve
  dsimp only
  rw [h, List.drop_length, List.flatMap_nil, List.append_nil]

theorem downstream_of_responds {action : WebOrigin.Connection.Action}
    {t : WebOrigin.Connection}
    (h : t.responses = line.origin.responses ++ [response]) :
    (line.serve action t).downstream = line.downstream ++ response.sent := by
  unfold serve
  dsimp only
  rw [h, List.drop_left, List.flatMap_singleton]

/-- Before a response is read nothing of it has been seen. -/
theorem Waiting.receive (h : line.Waiting reader)
    {action : WebOrigin.Connection.Action} (origin : WebOrigin.Connection)
    {t : WebOrigin.Connection} {part : List UInt8}
    (horigin : origin.responses = line.origin.responses)
    (hresponds : Responds line.caller origin t
      (line.upstream.drop action.bytes.length) part response) :
    (line.serve action t).Receiving reader line.origin.responses response [] := by
  have hresponses := hresponds.responses.trans
    (congrArg (· ++ [response]) horigin)
  refine ⟨h.taken, hresponses, hresponds.isAnswer, hresponds.unanswered, ?_, ?_⟩
  · rw [downstream_of_responds hresponses, h.downstream]
    rfl
  · rw [h.reader]
    exact .start (isHead_response hresponds.isAnswer.status
      hresponds.isAnswer.bounded)

theorem Delivers.bytes_prefix {action : WebOrigin.Connection.Action}
    (h : line.Delivers action) : action.bytes <+: line.upstream := by
  cases action with
  | serveHead failed => exact List.nil_prefix
  | poll shutdown elapsed read failed =>
      cases read with
      | data chunk =>
          unfold Delivers at h
          dsimp only at h
          split_ifs at h with hnil
          · rw [hnil]
            exact List.nil_prefix
          · exact h.1
      | retryable shutdown elapsed => exact List.nil_prefix
      | failed => exact List.nil_prefix

section Serving

variable {shared : Shared} {action : WebOrigin.Connection.Action}
  {t : WebOrigin.Connection} {part : List UInt8}

/-- What a step of the origin makes of the bytes that it has not answered. -/
theorem serve_cases (hdelivers : line.Delivers action)
    (hstep : WebOrigin.Connection.step { line.origin with shared } action =
      some t)
    (hpart : part <+: line.caller.requestHead)
    (h : Unanswered line.origin line.upstream part) :
    (t.responses = line.origin.responses ∧ t.shared = shared ∧
      Unanswered t (line.upstream.drop action.bytes.length) part) ∨
    ∃ response, Responds line.caller { line.origin with shared } t
      (line.upstream.drop action.bytes.length) part response := by
  have hshared : Unanswered { line.origin with shared } line.upstream part :=
    ⟨h.unread, h.resumes⟩
  exact originStep_cases hshared hpart hdelivers.bytes_prefix hstep

/-- A step of the origin keeps what holds of a connection. -/
theorem Invariant.serve (h : line.Invariant) (hdelivers : line.Delivers action)
    (hstep : WebOrigin.Connection.step { line.origin with shared } action =
      some t) : (line.serve action t).Invariant := by
  refine ⟨h.exact, ?_⟩
  have hphase := h.phase
  show (line.serve action t).Phase line.use
  cases huse : line.use with
  | idle =>
      rw [huse] at hphase
      obtain ⟨hresponses, -, hunanswered⟩ | ⟨response, hresponds⟩ :=
        serve_cases hdelivers hstep List.nil_prefix hphase.unanswered
      · refine ⟨?_, hunanswered,
          (downstream_of_goes hresponses).trans hphase.downstream⟩
        show Taken line.answers t.responses
        rw [hresponses]
        exact hphase.taken
      · exact absurd rfl hresponds.ne_nil
  | reading reader =>
      rw [huse] at hphase
      rcases hphase with hwaiting | ⟨earlier, response, seen, hreceiving⟩
      · obtain ⟨hresponses, -, hunanswered⟩ | ⟨response, hresponds⟩ :=
          serve_cases hdelivers hstep List.prefix_rfl hwaiting.unanswered
        · refine .inl ⟨?_, hunanswered,
            (downstream_of_goes hresponses).trans hwaiting.downstream,
            hwaiting.reader⟩
          show Taken line.answers t.responses
          rw [hresponses]
          exact hwaiting.taken
        · exact .inr ⟨_, response, [],
            hwaiting.receive { line.origin with shared } rfl hresponds⟩
      · obtain ⟨hresponses, -, hunanswered⟩ | ⟨response, hresponds⟩ :=
          serve_cases hdelivers hstep List.nil_prefix hreceiving.unanswered
        · refine .inr ⟨earlier, response, seen, hreceiving.taken,
            hresponses.trans hreceiving.responses, hreceiving.isAnswer,
            hunanswered, ?_, hreceiving.reads⟩
          rw [downstream_of_goes hresponses]
          exact hreceiving.sent
        · exact absurd rfl hresponds.ne_nil
  | closed error =>
      rw [huse] at hphase
      obtain ⟨part, hgiven⟩ := hphase
      have hcount := hgiven.count
      obtain ⟨hresponses, -, hunanswered⟩ | ⟨response, hresponds⟩ :=
        serve_cases hdelivers hstep hgiven.isPart hgiven.unanswered
      · refine ⟨part, ?_, hgiven.isPart, hunanswered, ?_⟩
        · have hwithin := hgiven.within
          unfold served at hwithin
          rw [← hresponses] at hwithin
          exact hwithin
        · rw [← hresponses] at hcount
          exact hcount
      · have hresponses : t.responses = line.origin.responses ++ [response] :=
          hresponds.responses
        refine ⟨[], ?_, List.nil_prefix, hresponds.unanswered, ?_⟩
        · have hwithin := hgiven.within
          show line.answers.length ≤ t.responses.countP _
          rw [hresponses, List.countP_append]
          exact Nat.le_add_right_of_le hwithin
        · rw [if_neg hresponds.ne_nil] at hcount
          show t.responses.length + 0 ≤ _
          rw [hresponses, List.length_append, List.length_singleton]
          exact hcount

/-- The bytes that are unanswered are a part of a request. -/
theorem Invariant.exists_unanswered (h : line.Invariant) :
    ∃ part, part <+: line.caller.requestHead ∧
      Unanswered line.origin line.upstream part := by
  have hphase := h.phase
  cases huse : line.use with
  | idle =>
      rw [huse] at hphase
      exact ⟨[], List.nil_prefix, hphase.unanswered⟩
  | reading reader =>
      rw [huse] at hphase
      rcases hphase with hwaiting | ⟨earlier, response, seen, hreceiving⟩
      · exact ⟨_, List.prefix_rfl, hwaiting.unanswered⟩
      · exact ⟨[], List.nil_prefix, hreceiving.unanswered⟩
  | closed error =>
      rw [huse] at hphase
      obtain ⟨part, hgiven⟩ := hphase
      exact ⟨part, hgiven.isPart, hgiven.unanswered⟩

/-- The counter of the origin goes up by what is served. -/
theorem Invariant.serve_counts (h : line.Invariant)
    (hdelivers : line.Delivers action)
    (hstep : WebOrigin.Connection.step { line.origin with shared } action =
      some t) :
    t.shared.token = shared.token ∧ t.shared.bodies = shared.bodies ∧
      ∃ more, (line.serve action t).served = line.served + more ∧
        t.shared.served = shared.served + UInt64.ofNat more := by
  obtain ⟨part, hpart, hunanswered⟩ := h.exists_unanswered
  obtain ⟨hresponses, hshared, -⟩ | ⟨response, hresponds⟩ :=
    serve_cases hdelivers hstep hpart hunanswered
  · rw [hshared]
    refine ⟨rfl, rfl, 0, ?_, (UInt64.add_zero _).symm⟩
    show t.responses.countP _ = _
    rw [hresponses]
    rfl
  · refine ⟨hresponds.counts.token, hresponds.counts.bodies,
      if response.status = statusOk then 1 else 0, ?_, ?_⟩
    · have hresponses : t.responses = line.origin.responses ++ [response] :=
        hresponds.responses
      show t.responses.countP _ = line.origin.responses.countP _ + _
      rw [hresponses, List.countP_append, List.countP_singleton]
      simp only [decide_eq_true_eq]
    · rw [hresponds.counts.served]
      split_ifs
      · rfl
      · exact (UInt64.add_zero _).symm

end Serving

end Line

/-! ## What holds of a run -/

namespace Exchange

variable {shared : Shared} {callers : List Caller} {s t : Exchange}

structure Invariant (shared : Shared) (s : Exchange) : Prop where
  lines : ∀ line ∈ s.lines, line.Invariant
  token : s.shared.token = shared.token
  bodies : s.shared.bodies = shared.bodies
  served : s.shared.served = shared.served + UInt64.ofNat s.served

theorem invariant_start (shared : Shared) (callers : List Caller) :
    (start shared callers).Invariant shared where
  lines _ hmem := absurd hmem List.not_mem_nil
  token := rfl
  bodies := rfl
  served := (UInt64.add_zero _).symm

theorem mem_lines {index : ℕ} {line : Line} (h : s.lines[index]? = some line) :
    line ∈ s.lines :=
  List.mem_of_getElem? h

theorem served_set {index : ℕ} {line : Line} (h : s.lines[index]? = some line)
    (next : Line) :
    ((s.lines.set index next).map Line.served).sum + line.served =
      s.served + next.served :=
  sum_map_set Line.served h next

/-- A connection may be replaced by one that has served no more. -/
theorem Invariant.set (h : s.Invariant shared) {index : ℕ} {line next : Line}
    (hline : s.lines[index]? = some line) (hnext : next.Invariant)
    (hserved : next.served = line.served) (slots : List Slot) :
    ({ s with lines := s.lines.set index next, slots } : Exchange).Invariant
      shared where
  lines := by
    intro other hother
    rcases List.mem_or_eq_of_mem_set hother with hother | rfl
    · exact h.lines other hother
    · exact hnext
  token := h.token
  bodies := h.bodies
  served := by
    have hsum := served_set hline next
    rw [hserved, Nat.add_right_cancel_iff] at hsum
    show s.shared.served = shared.served +
      UInt64.ofNat ((s.lines.set index next).map Line.served).sum
    rw [hsum]
    exact h.served

theorem served_write (line : Line) (failed : Option (ℕ × String)) :
    (line.write failed).served = line.served := by
  cases failed with
  | none => rfl
  | some failure => rfl

theorem served_read {line next : Line} {reader : ResponseReader} {count : ℕ}
    {failed : Option String} (h : line.read reader count failed = some next) :
    next.served = line.served := by
  rcases Line.read_cases h with ⟨_, _, rfl, -⟩ | ⟨_, -, rfl⟩ | ⟨_, _, -, rfl⟩
  · rfl
  · rfl
  · rfl

theorem Invariant.request (h : s.Invariant shared) {slot : ℕ}
    {failed : Option (ℕ × String)} (hstep : s.request slot failed = some t) :
    t.Invariant shared := by
  obtain ⟨worker, -, hworker⟩ := Option.bind_eq_some_iff.mp hstep
  cases hheld : worker.held with
  | none =>
      rw [hheld] at hworker
      obtain rfl := Option.some.inj hworker
      have hnew := (Line.invariant_connect worker.caller s.shared).write
        (fun _ hmem => absurd hmem List.not_mem_nil) failed
      refine ⟨?_, h.token, h.bodies, ?_⟩
      · intro line hline
        rcases List.mem_append.mp hline with hline | hline
        · exact h.lines line hline
        · exact List.mem_singleton.mp hline ▸ hnew
      · have hserved : ((Line.connect worker.caller s.shared).write
            failed).served = 0 := served_write _ failed
        show s.shared.served = shared.served + UInt64.ofNat ((s.lines ++
          [(Line.connect worker.caller s.shared).write failed]).map
            Line.served).sum
        rw [List.map_append, List.sum_append, List.map_singleton,
          List.sum_singleton, hserved]
        exact h.served
  | some index =>
      rw [hheld] at hworker
      obtain ⟨line, hline, hwrite⟩ := Option.bind_eq_some_iff.mp hworker
      by_cases hidle : line.use = .idle
      swap
      · rw [if_neg hidle] at hwrite
        exact absurd hwrite (by simp)
      rw [if_pos hidle] at hwrite
      obtain rfl := Option.some.inj hwrite
      have hinvariant := h.lines line (mem_lines hline)
      have hphase := hinvariant.phase
      rw [hidle] at hphase
      exact h.set hline (hphase.write hinvariant.exact failed)
        (served_write line failed) _

theorem Invariant.read (h : s.Invariant shared) {slot count : ℕ}
    {failed : Option String} (hstep : s.read slot count failed = some t) :
    t.Invariant shared := by
  obtain ⟨worker, -, hworker⟩ := Option.bind_eq_some_iff.mp hstep
  obtain ⟨index, -, hindex⟩ := Option.bind_eq_some_iff.mp hworker
  obtain ⟨line, hline, hread⟩ := Option.bind_eq_some_iff.mp hindex
  cases huse : line.use with
  | idle =>
      rw [huse] at hread
      exact absurd hread (by simp)
  | closed error =>
      rw [huse] at hread
      exact absurd hread (by simp)
  | reading reader =>
      rw [huse] at hread
      obtain ⟨next, hnext, hset⟩ := Option.bind_eq_some_iff.mp hread
      obtain rfl := Option.some.inj hset
      exact h.set hline ((h.lines line (mem_lines hline)).read huse hnext)
        (served_read hnext) _

theorem Invariant.serve (h : s.Invariant shared) {index : ℕ}
    {action : WebOrigin.Connection.Action}
    (hordered : s.Ordered (.serve index action))
    (hstep : s.serve index action = some t) : t.Invariant shared := by
  obtain ⟨line, hline, hserve⟩ := Option.bind_eq_some_iff.mp hstep
  obtain ⟨origin, horigin, hset⟩ := Option.bind_eq_some_iff.mp hserve
  obtain rfl := Option.some.inj hset
  have hinvariant := h.lines line (mem_lines hline)
  have hdelivers := hordered line hline
  have hnext := hinvariant.serve hdelivers horigin
  obtain ⟨htoken, hbodies, more, hmore, hserved⟩ :=
    hinvariant.serve_counts hdelivers horigin
  refine ⟨?_, htoken.trans h.token, hbodies.trans h.bodies, ?_⟩
  · intro other hother
    rcases List.mem_or_eq_of_mem_set hother with hother | rfl
    · exact h.lines other hother
    · exact hnext
  · have hsum := served_set hline (line.serve action origin)
    have htotal : ((s.lines.set index (line.serve action origin)).map
        Line.served).sum = s.served + more := by
      omega
    show origin.shared.served = shared.served + UInt64.ofNat
      ((s.lines.set index (line.serve action origin)).map Line.served).sum
    rw [hserved, h.served, htotal, UInt64.ofNat_add, UInt64.add_assoc]

/-- What holds of a run is kept by every step of an ordered network. -/
theorem Invariant.step (h : s.Invariant shared) {action : Action}
    (hordered : s.Ordered action) (hstep : s.step action = some t) :
    t.Invariant shared := by
  cases action with
  | request slot failed => exact h.request hstep
  | refuse slot error =>
      obtain ⟨worker, -, hworker⟩ := Option.bind_eq_some_iff.mp hstep
      cases hheld : worker.held with
      | none =>
          rw [hheld] at hworker
          obtain rfl := Option.some.inj hworker
          exact ⟨h.lines, h.token, h.bodies, h.served⟩
      | some index =>
          rw [hheld] at hworker
          exact absurd hworker (by simp)
  | read slot count failed => exact h.read hstep
  | serve index action => exact h.serve hordered hstep

theorem invariant_of_reaches
    (h : (system shared callers).Reaches Ordered s) : s.Invariant shared := by
  refine h.invariant ?_ fun s action t hs hordered hstep =>
    hs.step hordered hstep
  rintro s rfl
  exact invariant_start shared callers

/-! ## The counts of a session -/

/-- The counts of all connections. -/
theorem Invariant.bounds (h : s.Invariant shared) :
    s.answered ≤ s.served ∧
      s.served ≤ s.answered + s.failures + s.underWay := by
  have hlines := h.lines
  unfold answered Exchange.served failures underWay
  generalize s.lines = lines at hlines
  induction lines with
  | nil => simp
  | cons line lines ih =>
      have hline := (hlines line List.mem_cons_self).bounds
      have hrest := ih fun other hother =>
        hlines other (List.mem_cons_of_mem _ hother)
      simp only [List.map_cons, List.sum_cons]
      omega

/-- A report of what the generators have seen.  Failures while a generator warms
up are left out of it. -/
structure Reports (s : Exchange) (report : SessionReport) (leftOut : ℕ) :
    Prop where
  successful : report.successfulTotal = s.answered
  claimed : report.claimedTotal + leftOut = s.answered + s.failures

/-- The counts agree, up to the requests that have failed or are under way, and
each answer is the whole object. -/
structure Agrees (shared : Shared) (s : Exchange) : Prop where
  whole : ∀ line ∈ s.lines, ∀ bytes ∈ line.answers,
    bytes = line.caller.bytes
  counter : s.shared.served = shared.served + UInt64.ofNat s.served
  answered : s.answered ≤ s.served
  served : s.served ≤ s.answered + s.failures + s.underWay

/-- In every interleaving, and whatever fails, an honest report is accepted as
soon as few requests are under way or left out of it. -/
theorem agrees_and_reconciles_of_reaches
    (h : (system shared callers).Reaches Ordered s) :
    s.Agrees shared ∧
      ∀ (report : SessionReport) (leftOut : ℕ), s.Reports report leftOut →
        report.protocol = externalProtocolVersion → report.shapes ≠ [] →
          shared.served = 0 → s.served < u64Max →
            s.underWay + leftOut ≤ 1024 →
              report.reconcile report.sessionId s.shared.served = .ok () := by
  have hinvariant := invariant_of_reaches h
  obtain ⟨hanswered, hserved⟩ := hinvariant.bounds
  refine ⟨⟨fun line hline => (hinvariant.lines line hline).exact,
    hinvariant.served, hanswered, hserved⟩, ?_⟩
  intro report leftOut hreports hprotocol hshapes hzero hfits hslack
  have hcount : s.shared.served.toNat = s.served := by
    rw [hinvariant.served, hzero, UInt64.zero_add, UInt64.toNat_ofNat']
    exact Nat.mod_eq_of_lt (lt_trans hfits (by decide))
  have hlt : s.shared.served.toNat < u64Max := by
    rw [hcount]
    exact hfits
  have hupper : ¬ s.shared.served < report.successfulRequests := by
    rw [report.lt_successfulRequests_iff hlt, hcount, hreports.successful]
    exact Nat.not_lt.mpr hanswered
  have hlower : ¬ reconcileSlackRequests <
      saturatingSub s.shared.served report.claimedRequests := by
    rw [report.slack_lt_excess_iff hlt, hcount]
    have hclaimed := hreports.claimed
    omega
  unfold SessionReport.reconcile
  rw [if_neg (not_not.mpr hprotocol), if_neg (not_not.mpr rfl),
    if_neg (by simpa using hshapes)]
  dsimp only
  rw [if_neg hupper, if_neg hlower]

/-- A caller on the machine itself, for an object of three bytes. -/
def localCaller : Caller where
  address := ⟨"127.0.0.1:8080".toList, isPrintable_of_all (by decide), by decide⟩
  bytes := 3
  reuse := .keepAlive
  token := none
  bytes_le := by decide

def threeBytes : Shared :=
  ⟨0, 0, 0, ⟨[1, 2, 3], [3], List.pairwise_singleton _ _⟩, none⟩

/-- The first attempt to connect fails, and the second writes a request. -/
def twoAttempts : List Action :=
  [.refuse 0 "connection refused", .request 0 none]

def afterTwoAttempts : Exchange where
  shared := threeBytes
  lines := [(Line.connect localCaller threeBytes).write none]
  slots := [⟨localCaller, some 0⟩]
  unconnected := 1

theorem runFrom_twoAttempts :
    (system threeBytes [localCaller]).runFrom (start threeBytes [localCaller])
      twoAttempts = some afterTwoAttempts := by
  rfl

theorem reaches_afterTwoAttempts :
    (system threeBytes [localCaller]).Reaches Ordered afterTwoAttempts := by
  refine TransitionSystem.Reaches.runFrom (.initial rfl) ?_ runFrom_twoAttempts
  intro action haction u
  rcases List.mem_pair.mp haction with rfl | rfl
  · trivial
  · trivial

def oneFailure : SessionReport :=
  ⟨externalProtocolVersion, "s-1", [⟨0, 1, 0⟩]⟩

theorem reconciles_afterTwoAttempts :
    oneFailure.reconcile "s-1" afterTwoAttempts.shared.served = .ok () := by
  have hreports : afterTwoAttempts.Reports oneFailure 0 := ⟨rfl, rfl⟩
  exact (agrees_and_reconciles_of_reaches reaches_afterTwoAttempts).2
    oneFailure 0 hreports rfl (by decide) rfl (by decide) (by decide)

end Exchange

end Darcbench
