import Darcbench.Modules.WebOrigin
import Mathlib.Data.List.Induction

/-!
# What a stranger learns from a gated origin

A connection that does not present the token is turned away at its first head,
in the same way whatever is wrong with it and whatever the origin serves.
-/

namespace Darcbench

namespace WebOrigin

/-! ## The first head of a stream -/

/-- The head that is complete in a part of a stream is the first one of the
stream. -/
theorem mem_requestsOf {bytes more : List UInt8} {headEnd m : ℕ}
    {request : Request} (h : findHeadEnd bytes 0 = (some headEnd, m))
    (hparse : parseHead (bytes.take headEnd) = some request) :
    request ∈ requestsOf (bytes ++ more) := by
  obtain ⟨-, hlength, hmore⟩ := headEndFrom_of_some h
  have hfirst : findHeadEnd (bytes ++ more) 0 = (some headEnd, m) := hmore more
  obtain ⟨fuel, hfuel⟩ : ∃ fuel, (bytes ++ more).length = fuel + 1 := by
    refine Nat.exists_eq_succ_of_ne_zero ?_
    simp only [List.drop_zero] at hlength
    rw [List.length_append]
    omega
  have htake : (bytes ++ more).take headEnd = bytes.take headEnd := by
    simp only [List.drop_zero] at hlength
    exact List.take_append_of_le_length (by omega)
  rw [requestsOf, hfuel, requestsFrom, hfirst]
  dsimp only
  rw [htake, hparse]
  exact List.mem_append_left _ (List.mem_singleton.mpr rfl)

/-! ## Turning a stranger away -/

namespace Connection

/-- The connection after a refusal. -/
def turnAway (s : Connection) (request : Option Request)
    (failed : Option ℕ) : Connection :=
  { s with
    shared := { s.shared with refused := s.shared.refused + 1 }
    ended := true
    responses := s.responses ++
      [⟨request, statusUnauthorized, [], true, failed⟩] }

variable {s t : Connection} {token : SessionToken}

theorem refuse_of_gated (hgate : s.shared.token = some token)
    (diagnostic : String) (failed : Option ℕ) :
    s.refuse diagnostic failed = s.turnAway none failed := by
  have hsome : ¬s.shared.token.isNone = true := by
    rw [hgate]
    exact Bool.false_ne_true
  unfold refuse Shared.refuseStatus
  rw [if_neg hsome]
  rfl

theorem serveRequest_of_gated (hgate : s.shared.token = some token)
    {request : Request} (hrequest : request.token ≠ some token)
    (failed : Option ℕ) :
    s.serveRequest request failed = s.turnAway (some request) failed := by
  have hunauthorised : (!authorised request s.shared) = true := by
    unfold authorised
    rw [hgate, Bool.not_eq_true']
    cases htoken : request.token with
    | none => rfl
    | some presented =>
        show token.matches presented = false
        rw [Bool.eq_false_iff, Ne, SessionToken.matches_iff]
        intro hsame
        exact hrequest (htoken.trans (congrArg some hsame.symm))
  unfold serveRequest
  rw [if_pos hunauthorised]
  rfl

/-- The head that is answered next does not carry the token. -/
def NextIsStrange (s : Connection) (token : SessionToken) : Prop :=
  ∀ headEnd request, (findHeadEnd s.buffer s.scanned).1 = some headEnd →
    parseHead (s.buffer.take headEnd) = some request →
      request.token ≠ some token

/-- A gated connection turns away whatever does not carry the token. -/
theorem serveHead_eq (hgate : s.shared.token = some token)
    (hstrange : s.NextIsStrange token) (hopen : s.ended = false) {headEnd : ℕ}
    (hfind : (findHeadEnd s.buffer s.scanned).1 = some headEnd)
    (failed : Option ℕ) :
    s.serveHead failed = some (turnAway
      { s with buffer := s.buffer.drop (headEnd + 4), scanned := 0 }
      (parseHead (s.buffer.take headEnd)) failed) := by
  have hpair : findHeadEnd s.buffer s.scanned =
      (some headEnd, (findHeadEnd s.buffer s.scanned).2) := by
    rw [← hfind]
  unfold serveHead
  rw [hopen, hpair]
  cases hparse : parseHead (s.buffer.take headEnd) with
  | none =>
      simp only [hparse]
      exact congrArg some (refuse_of_gated
        (s := ⟨s.shared, s.buffer.drop (headEnd + 4), 0, false, s.responses⟩)
        hgate statusBadRequest failed)
  | some request =>
      simp only [hparse]
      exact congrArg some (serveRequest_of_gated
        (s := ⟨s.shared, s.buffer.drop (headEnd + 4), 0, false, s.responses⟩)
        hgate (hstrange headEnd request hfind hparse) failed)

theorem open_of_serveHead {failed : Option ℕ}
    (h : s.serveHead failed = some t) :
    s.ended = false ∧ ∃ headEnd,
      (findHeadEnd s.buffer s.scanned).1 = some headEnd := by
  unfold serveHead at h
  cases hended : s.ended with
  | true =>
      rw [hended] at h
      exact absurd h nofun
  | false =>
      rw [hended] at h
      cases hfind : findHeadEnd s.buffer s.scanned with
      | mk found scanned =>
          cases found with
          | none =>
              rw [hfind] at h
              exact absurd h nofun
          | some headEnd => exact ⟨rfl, headEnd, rfl⟩

/-- What is read goes to the end of the buffer. -/
theorem readMore_eq_reading {buffer after : List UInt8} {shutdown : Bool}
    {elapsed : ℕ} {read : ReadResult} (failed : Option ℕ)
    (h : readMore buffer shutdown elapsed read = .reading after) :
    after = buffer ++ (Action.poll shutdown elapsed read failed).bytes := by
  unfold readMore at h
  split at h
  · exact absurd h nofun
  split at h
  · exact absurd h nofun
  split at h
  · exact absurd h nofun
  cases read with
  | data chunk =>
      dsimp only at h
      split at h
      · exact absurd h nofun
      · exact (ReadPass.reading.inj h).symm
  | retryable shutdown elapsed =>
      dsimp only at h
      generalize (if buffer.isEmpty then idleDeadline else headDeadline) =
        deadline at h
      split at h
      · exact absurd h nofun
      · rw [← ReadPass.reading.inj h]
        exact (List.append_nil _).symm
  | failed => exact absurd h nofun

/-- What a pass of the loop makes of a gated connection. -/
def afterPass (s : Connection) (failed : Option ℕ) : ReadPass → Connection
  | .oversized => s.turnAway none failed
  | .finished => s.finish
  | .reading buffer => { s with buffer }

/-- A gated connection reads on, ends, or turns the peer away. -/
theorem poll_eq (hgate : s.shared.token = some token)
    (hopen : s.ended = false) {scanned : ℕ}
    (hfind : findHeadEnd s.buffer s.scanned = (none, scanned))
    (shutdown : Bool) (elapsed : ℕ) (read : ReadResult) (failed : Option ℕ) :
    s.poll shutdown elapsed read failed =
      some (afterPass { s with scanned } failed
        (readMore s.buffer shutdown elapsed read)) := by
  unfold poll
  rw [hopen, hfind]
  cases hread : readMore s.buffer shutdown elapsed read with
  | oversized =>
      simp only [hread]
      exact congrArg some (refuse_of_gated
        (s := ⟨s.shared, s.buffer, scanned, false, s.responses⟩)
        hgate statusHeadTooLarge failed)
  | finished => simp only [hread]; rfl
  | reading buffer => simp only [hread]; rfl

theorem open_of_poll {shutdown : Bool} {elapsed : ℕ} {read : ReadResult}
    {failed : Option ℕ} (h : s.poll shutdown elapsed read failed = some t) :
    s.ended = false ∧ ∃ scanned,
      findHeadEnd s.buffer s.scanned = (none, scanned) := by
  unfold poll at h
  cases hended : s.ended with
  | true =>
      rw [hended] at h
      exact absurd h nofun
  | false =>
      rw [hended] at h
      cases hfind : findHeadEnd s.buffer s.scanned with
      | mk found scanned =>
          cases found with
          | some headEnd =>
              rw [hfind] at h
              exact absurd h nofun
          | none => exact ⟨rfl, scanned, rfl⟩

/-! ## What a run keeps -/

/-- A connection on which only a stranger has spoken. -/
structure TellsNothing (shared : Shared) (t : Connection) : Prop where
  served : t.shared.served = shared.served
  unmatched : t.shared.unmatched = shared.unmatched
  /-- Nothing was answered, or one refusal ended the connection. -/
  refused : t.responses = [] ∧ t.shared.refused = shared.refused ∨
    ∃ request failed,
      t.responses = [⟨request, statusUnauthorized, [], true, failed⟩] ∧
        t.ended = true ∧ t.shared.refused = shared.refused + 1

/-- The invariant of a run in which only a stranger speaks. -/
structure StrangerInvariant (shared : Shared) (bytes : List UInt8)
    (t : Connection) : Prop where
  token : t.shared.token = shared.token
  tellsNothing : TellsNothing shared t
  /-- Before the first head is complete, everything is in the buffer. -/
  buffer : t.ended = false → t.responses = [] ∧ t.buffer = bytes ∧
    findHeadEnd t.buffer t.scanned = findHeadEnd t.buffer 0

namespace StrangerInvariant

variable {shared : Shared} {bytes : List UInt8}

theorem start (shared : Shared) :
    StrangerInvariant shared [] (start shared) where
  token := rfl
  tellsNothing := ⟨rfl, rfl, .inl ⟨rfl, rfl⟩⟩
  buffer _ := ⟨rfl, rfl, rfl⟩

/-- Turning the peer away is the only answer. -/
theorem turnAway (h : StrangerInvariant shared bytes s)
    (hopen : s.ended = false) (buffer : List UInt8) (scanned : ℕ)
    (request : Option Request) (failed : Option ℕ) (more : List UInt8) :
    StrangerInvariant shared (bytes ++ more)
      (turnAway { s with buffer, scanned } request failed) where
  token := h.token
  tellsNothing :=
    { served := h.tellsNothing.served
      unmatched := h.tellsNothing.unmatched
      refused := by
        rcases h.tellsNothing.refused with ⟨hnone, hrefused⟩ | ⟨_, _, -, hended, -⟩
        · refine .inr ⟨request, failed, ?_, rfl, ?_⟩
          · show s.responses ++ _ = _
            rw [hnone]
            rfl
          · show s.shared.refused + 1 = _
            rw [hrefused]
        · exact absurd (hopen.symm.trans hended) Bool.false_ne_true }
  buffer h := absurd h nofun

/-- The head that comes next is in the stream. -/
theorem nextIsStrange (h : StrangerInvariant shared bytes s)
    (hopen : s.ended = false) {token : SessionToken} (more : List UInt8)
    (hstrange : ∀ request ∈ requestsOf (bytes ++ more),
      request.token ≠ some token) :
    s.NextIsStrange token := by
  intro headEnd request hfind hparse
  obtain ⟨-, hbuffer, hscanned⟩ := h.buffer hopen
  rw [hscanned] at hfind
  rw [hbuffer] at hfind hparse
  have hpair : findHeadEnd bytes 0 =
      (some headEnd, (findHeadEnd bytes 0).2) := by rw [← hfind]
  exact hstrange request (mem_requestsOf hpair hparse)

theorem step (h : StrangerInvariant shared bytes s)
    (hgate : shared.token = some token) {action : Action}
    (more : List UInt8)
    (hstrange : ∀ request ∈ requestsOf (bytes ++ action.bytes ++ more),
      request.token ≠ some token)
    (hstep : s.step action = some t) :
    StrangerInvariant shared (bytes ++ action.bytes) t := by
  have hgate' := h.token.trans hgate
  cases action with
  | serveHead failed =>
      obtain ⟨hopen, headEnd, hfind⟩ := open_of_serveHead hstep
      have hnext := h.nextIsStrange hopen more
        (by simpa [Action.bytes] using hstrange)
      obtain rfl := Option.some.inj
        ((serveHead_eq hgate' hnext hopen hfind failed).symm.trans hstep)
      exact h.turnAway hopen _ _ _ _ _
  | poll shutdown elapsed read failed =>
      obtain ⟨hopen, scanned, hfind⟩ := open_of_poll hstep
      obtain ⟨hnone, hbuffer, hscanned⟩ := h.buffer hopen
      obtain rfl := Option.some.inj
        ((poll_eq hgate' hopen hfind shutdown elapsed read failed).symm.trans
          hstep)
      have hclosed : ∀ after : Connection, after.ended = true →
          after.shared = s.shared → after.responses = s.responses →
            StrangerInvariant shared
              (bytes ++ (Action.poll shutdown elapsed read failed).bytes)
              after := fun after hended hshared hresponses =>
        { token := hshared ▸ h.token
          tellsNothing :=
            { served := hshared ▸ h.tellsNothing.served
              unmatched := hshared ▸ h.tellsNothing.unmatched
              refused := by
                rcases h.tellsNothing.refused with
                  ⟨-, hrefused⟩ | ⟨_, _, hsome, -⟩
                · exact .inl ⟨hresponses.trans hnone, hshared ▸ hrefused⟩
                · rw [hnone] at hsome
                  exact absurd hsome nofun }
          buffer := fun hopen => absurd (hopen.symm.trans hended)
            Bool.false_ne_true }
      cases hread : readMore s.buffer shutdown elapsed read with
      | oversized => exact h.turnAway hopen _ _ _ _ _
      | finished => exact hclosed _ rfl rfl rfl
      | reading after =>
          obtain rfl := readMore_eq_reading failed hread
          rw [hscanned] at hfind
          exact
            { token := h.token
              tellsNothing := { h.tellsNothing with }
              buffer := fun _ => by
                refine ⟨hnone, by rw [hbuffer]; rfl, ?_⟩
                -- The search goes on where it has stopped.
                have hmore := (headEndFrom_of_none hfind).2
                  (Action.poll shutdown elapsed read failed).bytes
                exact hmore.symm }

/-- What a run of actions keeps, as long as no request of the whole stream
carries the token. -/
theorem runFrom (hgate : shared.token = some token)
    {actions : List Action} (rest : List Action)
    (hstrange : ∀ request ∈ requestsOf (streamBytes (actions ++ rest)),
      request.token ≠ some token)
    (hrun : (system shared).runFrom (Connection.start shared) actions =
      some t) :
    StrangerInvariant shared (streamBytes actions) t := by
  induction actions using List.reverseRecOn generalizing rest t with
  | nil =>
      obtain rfl := Option.some.inj hrun
      exact start shared
  | append_singleton actions action ih =>
      rw [TransitionSystem.runFrom_append] at hrun
      obtain ⟨s, hs, hrun⟩ := Option.bind_eq_some_iff.mp hrun
      obtain ⟨u, hstep, hu⟩ := Option.bind_eq_some_iff.mp hrun
      obtain rfl := Option.some.inj hu
      have hbytes : streamBytes (actions ++ [action]) =
          streamBytes actions ++ action.bytes := by
        simp [streamBytes]
      have htotal : streamBytes (actions ++ [action] ++ rest) =
          streamBytes actions ++ action.bytes ++ streamBytes rest := by
        simp [streamBytes]
      have hinvariant := ih ([action] ++ rest)
        (by rwa [← List.append_assoc]) hs
      rw [hbytes]
      exact hinvariant.step hgate (streamBytes rest)
        (by rwa [← htotal]) hstep

end StrangerInvariant

/-! ## Two origins -/

/-- The connection to another origin. -/
def withShared (s : Connection) (other : Shared) : Connection :=
  { s with shared := other }

/-- Two gated connections to which a stranger speaks do the same. -/
theorem step_withShared {other : Shared} {otherToken : SessionToken}
    (hgate : s.shared.token = some token)
    (hother : other.token = some otherToken)
    (hstrange : s.ended = false → s.NextIsStrange token)
    (hstrange' : s.ended = false → s.NextIsStrange otherToken)
    {action : Action} (hstep : s.step action = some t) :
    ∃ after, after.token = other.token ∧
      (s.withShared other).step action = some (t.withShared after) := by
  have hrefused : ({ other with refused := other.refused + 1 } : Shared).token =
      other.token := rfl
  cases action with
  | serveHead failed =>
      obtain ⟨hopen, headEnd, hfind⟩ := open_of_serveHead hstep
      obtain rfl := Option.some.inj ((serveHead_eq hgate (hstrange hopen)
        hopen hfind failed).symm.trans hstep)
      exact ⟨_, hrefused, serveHead_eq (s := s.withShared other) hother
        (hstrange' hopen) hopen hfind failed⟩
  | poll shutdown elapsed read failed =>
      obtain ⟨hopen, scanned, hfind⟩ := open_of_poll hstep
      obtain rfl := Option.some.inj ((poll_eq hgate hopen hfind shutdown
        elapsed read failed).symm.trans hstep)
      have hpoll := poll_eq (s := s.withShared other) hother hopen hfind
        shutdown elapsed read failed
      cases hread : readMore s.buffer shutdown elapsed read with
      | oversized =>
          refine ⟨_, hrefused, hpoll.trans ?_⟩
          show some (afterPass _ _ (readMore s.buffer _ _ _)) = _
          rw [hread]
          rfl
      | finished =>
          refine ⟨other, rfl, hpoll.trans ?_⟩
          show some (afterPass _ _ (readMore s.buffer _ _ _)) = _
          rw [hread]
          rfl
      | reading buffer =>
          refine ⟨other, rfl, hpoll.trans ?_⟩
          show some (afterPass _ _ (readMore s.buffer _ _ _)) = _
          rw [hread]
          rfl

/-- A whole run to another gated origin is the same. -/
theorem runFrom_withShared {shared other : Shared}
    {otherToken : SessionToken} (hgate : shared.token = some token)
    (hother : other.token = some otherToken) {actions : List Action}
    (rest : List Action)
    (hstrange : ∀ request ∈ requestsOf (streamBytes (actions ++ rest)),
      request.token ≠ some token ∧ request.token ≠ some otherToken)
    (hrun : (system shared).runFrom (start shared) actions = some t) :
    ∃ after, after.token = other.token ∧
      (system other).runFrom (start other) actions =
        some (t.withShared after) := by
  induction actions using List.reverseRecOn generalizing rest t with
  | nil =>
      obtain rfl := Option.some.inj hrun
      exact ⟨other, rfl, rfl⟩
  | append_singleton actions action ih =>
      rw [TransitionSystem.runFrom_append] at hrun
      obtain ⟨s, hs, hrun⟩ := Option.bind_eq_some_iff.mp hrun
      obtain ⟨u, hstep, hu⟩ := Option.bind_eq_some_iff.mp hrun
      obtain rfl := Option.some.inj hu
      rw [List.append_assoc] at hstrange
      have hinvariant := StrangerInvariant.runFrom hgate _
        (fun request hrequest => (hstrange request hrequest).1) hs
      have hstream : streamBytes (actions ++ ([action] ++ rest)) =
          streamBytes actions ++ streamBytes ([action] ++ rest) :=
        List.flatMap_append
      rw [hstream] at hstrange
      obtain ⟨middle, hmiddle, hsame⟩ := ih ([action] ++ rest)
        (by rwa [hstream]) hs
      obtain ⟨after, hafter, hnext⟩ := step_withShared
        (hinvariant.token.trans hgate) (hmiddle.trans hother)
        (fun hopen => hinvariant.nextIsStrange hopen _
          fun request hrequest => (hstrange request hrequest).1)
        (fun hopen => hinvariant.nextIsStrange hopen _
          fun request hrequest => (hstrange request hrequest).2) hstep
      refine ⟨after, hafter.trans hmiddle, ?_⟩
      rw [TransitionSystem.runFrom_append, hsame]
      exact (system other).runFrom_cons hnext []

/-! ## Who is served -/

/-- Objects go to requests that carry the token. -/
structure ServesHolders (token : SessionToken) (t : Connection) : Prop where
  gate : t.shared.token = some token
  served : ∀ response ∈ t.responses, response.status = statusOk →
    ∃ request, response.request = some request ∧
      request.token = some token

theorem token_of_authorised {request : Request}
    (hgate : s.shared.token = some token)
    (h : authorised request s.shared = true) :
    request.token = some token := by
  unfold authorised at h
  rw [hgate] at h
  cases htoken : request.token with
  | none =>
      rw [htoken] at h
      exact absurd h nofun
  | some presented =>
      rw [htoken] at h
      rw [(SessionToken.matches_iff token presented).mp h]

/-- One more response keeps it if it is not an object or has the token. -/
theorem ServesHolders.concat (h : s.ServesHolders token)
    (hshared : t.shared.token = s.shared.token) {response : Response}
    (hresponses : t.responses = s.responses ++ [response])
    (hresponse : response.status = statusOk →
      ∃ request, response.request = some request ∧
        request.token = some token) :
    t.ServesHolders token where
  gate := hshared.trans h.gate
  served other hother hok := by
    rw [hresponses] at hother
    rcases List.mem_append.mp hother with hother | hother
    · exact h.served other hother hok
    · obtain rfl := List.mem_singleton.mp hother
      exact hresponse hok

theorem ServesHolders.turnAway (h : s.ServesHolders token)
    (request : Option Request) (failed : Option ℕ) :
    (s.turnAway request failed).ServesHolders token := by
  have hrefused : statusUnauthorized ≠ statusOk := by decide
  exact h.concat rfl rfl fun hok => absurd hok hrefused

theorem ServesHolders.refuse (h : s.ServesHolders token)
    (diagnostic : String) (failed : Option ℕ) :
    (s.refuse diagnostic failed).ServesHolders token := by
  rw [refuse_of_gated h.gate]
  exact h.turnAway none failed

theorem ServesHolders.serveRequest (h : s.ServesHolders token)
    (request : Request) (failed : Option ℕ) :
    (s.serveRequest request failed).ServesHolders token := by
  by_cases hauthorised : authorised request s.shared = true
  · have htoken := token_of_authorised h.gate hauthorised
    have hnot : ¬(!authorised request s.shared) = true := by
      rw [hauthorised]
      exact Bool.false_ne_true
    unfold Connection.serveRequest
    rw [if_neg hnot]
    refine h.concat ?_ rfl fun _ => ⟨request, rfl, htoken⟩
    exact (apply_ite Shared.token _ _ _).trans (ite_self _)
  · rw [Bool.not_eq_true] at hauthorised
    unfold Connection.serveRequest
    rw [if_pos (by rw [hauthorised]; rfl)]
    exact h.turnAway (some request) failed

theorem ServesHolders.step (h : s.ServesHolders token) {action : Action}
    (hstep : s.step action = some t) :
    t.ServesHolders token := by
  have hsame : ∀ buffer scanned ended,
      ServesHolders token ⟨s.shared, buffer, scanned, ended, s.responses⟩ :=
    fun _ _ _ => ⟨h.gate, h.served⟩
  cases action with
  | serveHead failed =>
      replace hstep : s.serveHead failed = some t := hstep
      unfold serveHead at hstep
      split at hstep
      · exact absurd hstep nofun
      split at hstep
      · exact absurd hstep nofun
      dsimp only at hstep
      split at hstep
      · obtain rfl := Option.some.inj hstep
        exact (hsame _ _ _).refuse _ _
      · obtain rfl := Option.some.inj hstep
        exact (hsame _ _ _).serveRequest _ _
  | poll shutdown elapsed read failed =>
      obtain ⟨hopen, scanned, hfind⟩ := open_of_poll hstep
      obtain rfl := Option.some.inj ((poll_eq h.gate hopen hfind shutdown
        elapsed read failed).symm.trans hstep)
      cases readMore s.buffer shutdown elapsed read with
      | oversized => exact (hsame _ _ _).turnAway _ _
      | finished => exact hsame _ _ _
      | reading buffer => exact hsame _ _ _

theorem servesHolders_of_reachable {shared : Shared}
    (hgate : shared.token = some token)
    (h : (system shared).Reachable t) :
    t.ServesHolders token :=
  h.invariant (fun _ hs => hs ▸ ⟨hgate, nofun⟩)
    (fun _ _ _ hs _ hstep => hs.step hstep)

end Connection

open Darcbench.WebOrigin.Connection

/-- A stranger sees the same of every two gated origins, namely nothing or one
refusal, and objects go to those who carry the token. -/
theorem tellsNothing_and_servesHolders
    {shared other : Shared} {token otherToken : SessionToken}
    (hgate : shared.token = some token)
    (hother : other.token = some otherToken) :
    (∀ actions t,
      (∀ request ∈ requestsOf (streamBytes actions),
        request.token ≠ some token ∧ request.token ≠ some otherToken) →
      (Connection.system shared).runFrom (start shared) actions = some t →
      ∃ u, (Connection.system other).runFrom (start other) actions = some u ∧
        u.responses = t.responses ∧ u.written = t.written ∧
        u.ended = t.ended ∧ TellsNothing shared t ∧ TellsNothing other u) ∧
    ∀ t, (Connection.system shared).Reachable t → ServesHolders token t := by
  refine ⟨fun actions t hstrange hrun => ?_,
    fun t ht => servesHolders_of_reachable hgate ht⟩
  have hstrange' : ∀ request ∈ requestsOf (streamBytes (actions ++ [])),
      request.token ≠ some token ∧ request.token ≠ some otherToken := by
    rwa [List.append_nil]
  obtain ⟨after, -, hsame⟩ :=
    runFrom_withShared hgate hother [] hstrange' hrun
  have hshared := StrangerInvariant.runFrom hgate _
    (fun request hrequest => (hstrange' request hrequest).1) hrun
  have hothers := StrangerInvariant.runFrom hother _
    (fun request hrequest => (hstrange' request hrequest).2) hsame
  exact ⟨_, hsame, rfl, rfl, rfl, hshared.tellsNothing, hothers.tellsNothing⟩

/-- An origin with one object. -/
def smallOrigin : Shared where
  served := 0
  refused := 0
  unmatched := 0
  bodies := ⟨[1, 2, 3, 4], [4], List.pairwise_singleton _ _⟩
  token := some ⟨List.replicate 32 0, SessionToken.length_zeros⟩

/-- An origin without objects, gated by another token. -/
def emptyOrigin : Shared where
  served := 0
  refused := 0
  unmatched := 0
  bodies := ⟨[], [], .nil⟩
  token := some ⟨List.replicate 32 1, rfl⟩

/-- A request for the object, without a token and in two pieces. -/
def probe : List Action :=
  [.poll false 0 (.data "GET /o/4 HTTP/1.1\r\nHost: x".toUTF8.toList) none,
    .poll false 1 (.data "\r\n\r\n".toUTF8.toList) none,
    .serveHead none]

theorem requestsOf_probe :
    requestsOf (streamBytes probe) = [⟨true, some 4, false, none⟩] := by
  decide +kernel

theorem isSome_probe :
    ((Connection.system smallOrigin).runFrom (start smallOrigin)
      probe).isSome = true := by
  decide +kernel

/-- The probe learns nothing from either origin. -/
theorem tellsNothing_and_servesHolders_probe :
    ∃ t u, (Connection.system smallOrigin).runFrom (start smallOrigin) probe =
        some t ∧
      (Connection.system emptyOrigin).runFrom (start emptyOrigin) probe =
        some u ∧ u.written = t.written ∧ TellsNothing smallOrigin t := by
  obtain ⟨t, ht⟩ := Option.isSome_iff_exists.mp isSome_probe
  have hstrange : ∀ request ∈ requestsOf (streamBytes probe),
      request.token ≠ some ⟨List.replicate 32 0, rfl⟩ ∧
        request.token ≠ some ⟨List.replicate 32 1, rfl⟩ := by
    rw [requestsOf_probe]
    intro request hrequest
    obtain rfl := List.mem_singleton.mp hrequest
    exact ⟨nofun, nofun⟩
  obtain ⟨u, hu, -, hwritten, -, htells, -⟩ :=
    (tellsNothing_and_servesHolders
      (show smallOrigin.token = some _ from rfl)
      (show emptyOrigin.token = some _ from rfl)).1 probe t hstrange ht
  exact ⟨t, u, ht, hu, hwritten, htells⟩

end WebOrigin

end Darcbench
