import Darcbench.Modules.Undisturbed
import Mathlib.Logic.Relation

/-!
# Every request can be answered

Where nothing fails, the requests under way can always be brought to their
answers.
-/

namespace Darcbench

open WebOrigin HttpClient

/-! ## The next step on a connection -/

namespace Line

/-- What is still to be done before the request is answered. -/
def due (line : Line) : ℕ :=
  match line.use with
  | .reading _ =>
      if line.origin.responses.length = line.answers.length then
        line.upstream.length + 1 + maxHeadBytes + line.caller.bytes
      else line.downstream.length
  | _ => 0

/-- What the origin reads of the request at the next time. -/
def nextPiece (line : Line) : List UInt8 :=
  line.upstream.take WebOrigin.readChunk

variable {shared shared' : Shared} {line : Line} {reader : ResponseReader}
  {earlier : List Response} {response : Response} {seen : List UInt8}

theorem Receiving.length_downstream_le
    (h : line.Receiving reader earlier response seen)
    (hwhole : IsWhole line.caller response) :
    line.downstream.length ≤ maxHeadBytes + line.caller.bytes := by
  have hhead := isHead_response h.isAnswer.status h.isAnswer.bounded
  have hsent := congrArg List.length h.sent
  rw [Response.sent, hwhole.sent] at hsent
  dsimp only at hsent
  rw [text_eq, List.length_append, List.length_append,
    h.isAnswer.whole hwhole.status] at hsent
  have hbounded := hhead.bounded
  omega

theorem Receiving.length_ne
    (h : line.Receiving reader earlier response seen) :
    line.origin.responses.length ≠ line.answers.length := by
  rw [h.responses, List.length_append, List.length_singleton, h.taken.count]
  omega

/-- A step of the origin brings a request nearer to its answer. -/
structure Nearer (shared' : Shared) (line : Line)
    (action : WebOrigin.Connection.Action) (t : WebOrigin.Connection) :
    Prop where
  delivers : line.Delivers action
  calm : CalmStep line.origin action
  step : WebOrigin.Connection.step { line.origin with shared := shared' }
    action = some t
  due : (line.serve action t).due < line.due

theorem Waiting.due_eq (h : line.Waiting reader)
    (huse : line.use = .reading reader) :
    line.due = line.upstream.length + 1 + maxHeadBytes + line.caller.bytes := by
  rw [due, huse]
  exact if_pos h.taken.count

/-- A request that has arrived is answered. -/
theorem Waiting.exists_serveHead (h : line.Waiting reader)
    (hundisturbed : line.Undisturbed shared)
    (huse : line.use = .reading reader) (hopen : line.origin.ended = false)
    (hshared : line.caller.Served shared') (hupstream : line.upstream = []) :
    ∃ action t, line.Nearer shared' action t := by
  have hbuffer := h.unanswered.unread hopen
  rw [hupstream, List.append_nil] at hbuffer
  have hhead := line.caller.isHead_requestHead
  obtain ⟨m, hfind⟩ := hhead.findHeadEnd_append []
  rw [List.append_nil, ← hbuffer,
    ← (h.unanswered.resumes hopen).findHeadEnd_eq] at hfind
  obtain ⟨t, hstep⟩ : ∃ t, WebOrigin.Connection.step
      { line.origin with shared := shared' } (.serveHead none) = some t := by
    unfold WebOrigin.Connection.step WebOrigin.Connection.serveHead
    dsimp only
    rw [hopen, if_neg Bool.false_ne_true, hfind]
    dsimp only
    rw [hbuffer, line.caller.parseHead_requestHead]
    exact ⟨_, rfl⟩
  have hdelivers : line.Delivers (.serveHead none) := trivial
  have hnext := hundisturbed.serve hshared hdelivers rfl hstep
  refine ⟨.serveHead none, t, trivial, rfl, hstep, ?_⟩
  have hshifted : Unanswered { line.origin with shared := shared' }
      line.upstream line.caller.requestHead :=
    ⟨h.unanswered.unread, h.unanswered.resumes⟩
  obtain ⟨-, -, ht⟩ := serveHead_eq_serveRequest hshifted List.prefix_rfl hstep
  have hresponses : t.responses = line.origin.responses ++
      [line.caller.response shared' none] := by
    rw [ht]
    exact (responds_serveRequest line.caller
      { line.origin with shared := shared' } none).responses
  have hlength : (line.serve (.serveHead none) t).origin.responses.length ≠
      (line.serve (.serveHead none) t).answers.length := by
    show t.responses.length ≠ line.answers.length
    rw [hresponses, List.length_append, List.length_singleton]
    have hcount := h.taken.count
    omega
  have huse' : (line.serve (.serveHead none) t).use = .reading reader := huse
  have hphase := hnext.invariant.phase
  rw [huse'] at hphase
  rcases hphase with hwaiting | ⟨earlier, response, seen, hreceiving⟩
  · exact absurd hwaiting.taken.count hlength
  · have hle := hreceiving.length_downstream_le
      (hreceiving.arriving hnext huse').isWhole
    have hcaller : (line.serve (.serveHead none) t).caller = line.caller := rfl
    rw [hcaller] at hle
    have hdue : (line.serve (.serveHead none) t).due =
        (line.serve (.serveHead none) t).downstream.length := by
      rw [due, huse']
      exact if_neg hlength
    rw [h.due_eq huse, hdue]
    omega

theorem length_nextPiece_pos (h : line.upstream ≠ []) :
    0 < line.nextPiece.length := by
  rw [nextPiece, List.length_take]
  exact Nat.lt_min.mpr ⟨by decide, List.length_pos_of_ne_nil h⟩

theorem length_nextPiece_le (line : Line) :
    line.nextPiece.length ≤ WebOrigin.readChunk :=
  List.length_take_le _ _

/-- The next piece of a request is read. -/
theorem Waiting.exists_poll (h : line.Waiting reader)
    (huse : line.use = .reading reader) (hopen : line.origin.ended = false)
    (hupstream : line.upstream ≠ []) :
    ∃ action t, line.Nearer shared' action t := by
  have hpos := length_nextPiece_pos hupstream
  have hne : line.nextPiece ≠ [] := List.ne_nil_of_length_pos hpos
  have hunread := h.unanswered.unread hopen
  have hhead := line.caller.isHead_requestHead
  have hlt : line.origin.buffer.length < line.caller.requestHead.length := by
    rw [← hunread, List.length_append]
    exact Nat.lt_add_of_pos_right (List.length_pos_of_ne_nil hupstream)
  obtain ⟨m, hfind⟩ := hhead.findHeadEnd_of_lt ⟨_, hunread⟩ hlt
  rw [← (h.unanswered.resumes hopen).findHeadEnd_eq] at hfind
  have hdelivers : (ReadResult.data line.nextPiece).Delivers :=
    ⟨hne, line.length_nextPiece_le⟩
  have hpass : Pass.Calm ⟨false, 0, .data line.nextPiece⟩
      (line.origin.buffer = []) := by
    refine .of_lt rfl (Nat.succ_pos _) fun shutdown elapsed hread => ?_
    exact absurd hread (by simp)
  have hread : readMore line.origin.buffer false 0 (.data line.nextPiece) =
      .reading (line.origin.buffer ++ line.nextPiece) :=
    readMore_of_calm (lt_of_lt_of_le hlt hhead.bounded) hdelivers hpass
  refine ⟨.poll false 0 (.data line.nextPiece) none,
    ⟨shared', line.origin.buffer ++ line.nextPiece, m, false,
      line.origin.responses⟩, ?_, ⟨rfl, hdelivers, hpass⟩, ?_, ?_⟩
  · unfold Delivers
    dsimp only
    rw [if_neg hne]
    exact ⟨List.take_prefix _ _, line.length_nextPiece_le⟩
  · unfold WebOrigin.Connection.step WebOrigin.Connection.poll
    dsimp only
    rw [hopen, if_neg Bool.false_ne_true, hfind]
    dsimp only
    rw [hread]
  · have hdue : ∀ (action : WebOrigin.Connection.Action)
        (t : WebOrigin.Connection), action.bytes = line.nextPiece →
          t.responses = line.origin.responses → (line.serve action t).due =
            (line.upstream.drop line.nextPiece.length).length + 1 +
              maxHeadBytes + line.caller.bytes := by
      intro action t hbytes ht
      unfold due serve
      dsimp only
      rw [huse, ht, if_pos h.taken.count, hbytes]
    rw [h.due_eq huse, hdue (.poll false 0 (.data line.nextPiece) none)
      ⟨shared', line.origin.buffer ++ line.nextPiece, m, false,
        line.origin.responses⟩ rfl rfl, List.length_drop]
    have hupstream := List.length_pos_of_ne_nil hupstream
    omega

/-- A request without a response can be brought nearer to it. -/
theorem Waiting.exists_nearer (h : line.Waiting reader)
    (hundisturbed : line.Undisturbed shared)
    (huse : line.use = .reading reader)
    (hshared : line.caller.Served shared') :
    ∃ action t, line.Nearer shared' action t := by
  have hopen : line.origin.ended = false := by
    have hcalm := hundisturbed.calm
    rw [huse] at hcalm
    rcases hcalm with ⟨-, hopen⟩ | ⟨earlier, response, harriving⟩
    · exact hopen
    · have hcount := h.taken.count
      rw [harriving.responses, List.length_append, List.length_singleton,
        harriving.count] at hcount
      omega
  by_cases hupstream : line.upstream = []
  · exact h.exists_serveHead hundisturbed huse hopen hshared hupstream
  · exact h.exists_poll huse hopen hupstream

/-- A read brings a response nearer to its end. -/
theorem Receiving.exists_read
    (h : line.Receiving reader earlier response seen)
    (hundisturbed : line.Undisturbed shared)
    (huse : line.use = .reading reader) :
    ∃ next, line.read reader readBufferBytes none = some next ∧
      next.due < line.due ∧
        next.answers.length + next.underWay =
          line.answers.length + line.underWay := by
  have hne := (h.arriving hundisturbed huse).ne_nil
  have hdue : line.due = line.downstream.length := by
    rw [due, huse]
    exact if_neg h.length_ne
  have hunderWay : line.underWay = 1 := by
    rw [underWay, huse]
  have hpos := List.length_pos_of_ne_nil hne
  obtain ⟨next, hnext⟩ :
      ∃ next, line.read reader readBufferBytes none = some next := by
    unfold Line.read
    dsimp only
    rw [if_neg hne, if_pos ⟨by decide, Nat.le_refl _⟩]
    exact ⟨_, rfl⟩
  refine ⟨next, hnext, ?_⟩
  have hcalm := (hundisturbed.read huse hnext).failures_eq
  rcases read_cases hnext with ⟨downstream, error, rfl, -⟩ |
    ⟨reader', hon, rfl⟩ | ⟨reader', bytes, hon, rfl⟩
  · exact absurd hcalm (Nat.succ_ne_zero 0)
  · constructor
    · rw [hdue, due]
      dsimp only
      rw [if_neg h.length_ne, List.length_drop]
      exact Nat.sub_lt hpos hon.pos
    · rw [hunderWay]
      rfl
  · have hdone : ∀ (other : Line) (use : Use),
        use = .closed none ∨ use = .idle →
          ({ other with use } : Line).due = 0 ∧
            ({ other with use } : Line).underWay = 0 := by
      rintro other use (rfl | rfl)
      · exact ⟨rfl, rfl⟩
      · exact ⟨rfl, rfl⟩
    have huse' : (if line.caller.client.close then Use.closed none else
        .idle) = .closed none ∨
          (if line.caller.client.close then Use.closed none else .idle) =
            .idle := by
      split_ifs
      · exact .inl rfl
      · exact .inr rfl
    obtain ⟨hzero, hnone⟩ := hdone { line with
      downstream := line.downstream.drop readBufferBytes
      answers := line.answers ++ [bytes] } _ huse'
    constructor
    · rw [hdue]
      exact lt_of_eq_of_lt hzero hpos
    · rw [hunderWay]
      refine (congrArg (_ + ·) hnone).trans ?_
      show (line.answers ++ [bytes]).length + 0 = line.answers.length + 1
      rw [List.length_append, List.length_singleton]

end Line

/-! ## Connections and slots -/

namespace Exchange

variable {shared : Shared} {callers : List Caller} {s t : Exchange}

/-- A request under way is that of the slot that holds its connection. -/
def Held (s : Exchange) : Prop :=
  ∀ (index : ℕ) (line : Line), s.lines[index]? = some line →
    line.underWay = 1 → ∃ (slot : ℕ) (worker : Slot),
      s.slots[slot]? = some worker ∧ worker.held = some index

theorem Held.set (h : s.Held) {slot index : ℕ} {worker worker' : Slot}
    {next : Line} (hslot : s.slots[slot]? = some worker)
    (hheld : worker.held = some index)
    (hnext : next.underWay = 1 → worker'.held = some index)
    (shared : Shared) :
    Held ⟨shared, s.lines.set index next, s.slots.set slot worker',
      s.unconnected⟩ := by
  have hlt : slot < s.slots.length :=
    (List.getElem?_eq_some_iff.mp hslot).1
  intro other line hline hunderWay
  by_cases hother : index = other
  · subst hother
    obtain ⟨hlt', hline⟩ := List.getElem?_eq_some_iff.mp hline
    rw [List.getElem_set_self] at hline
    refine ⟨slot, worker', List.getElem?_set_self hlt, hnext ?_⟩
    rw [hline, hunderWay]
  · rw [List.getElem?_set_ne hother] at hline
    obtain ⟨slot', worker'', hslot', hheld'⟩ := h other line hline hunderWay
    refine ⟨slot', worker'', ?_, hheld'⟩
    rw [List.getElem?_set_ne, hslot']
    rintro rfl
    rw [hslot, Option.some.injEq] at hslot'
    rw [← hslot', hheld, Option.some.injEq] at hheld'
    exact hother hheld'

theorem held_start (shared : Shared) (callers : List Caller) :
    (start shared callers).Held := by
  intro index line hline
  exact absurd hline (by simp [start])

theorem Held.request (h : s.Held) {slot : ℕ} {failed : Option (ℕ × String)}
    (hstep : s.request slot failed = some t) : t.Held := by
  obtain ⟨worker, hslot, hworker⟩ := Option.bind_eq_some_iff.mp hstep
  have hlt : slot < s.slots.length :=
    (List.getElem?_eq_some_iff.mp hslot).1
  have hfailed : ∀ line : Line, (line.write failed).underWay = 1 →
      failed.isSome = false := by
    intro line hunderWay
    cases failed with
    | none => rfl
    | some failure => exact absurd hunderWay (Nat.succ_ne_zero 0).symm
  cases hheld : worker.held with
  | none =>
      rw [hheld] at hworker
      obtain rfl := Option.some.inj hworker
      intro index line hline hunderWay
      by_cases hindex : index < s.lines.length
      · have hold : s.lines[index]? = some line := by
          rw [← hline]
          exact (List.getElem?_append_left hindex).symm
        obtain ⟨slot', worker', hslot', hheld'⟩ := h index line hold hunderWay
        refine ⟨slot', worker', ?_, hheld'⟩
        show (s.slots.set slot _)[slot']? = _
        rw [List.getElem?_set_ne, hslot']
        rintro rfl
        rw [hslot, Option.some.injEq] at hslot'
        rw [← hslot', hheld] at hheld'
        exact absurd hheld' (by simp)
      · have hnew : (s.lines ++ [(Line.connect worker.caller s.shared).write
            failed])[index]? = some line := hline
        rw [List.getElem?_append_right (Nat.not_lt.mp hindex),
          List.getElem?_singleton] at hnew
        split_ifs at hnew with hlast
        obtain rfl := Option.some.inj hnew
        refine ⟨slot, _, List.getElem?_set_self hlt, ?_⟩
        have hlength : index = s.lines.length := by omega
        rw [hlength, hfailed _ hunderWay]
        rfl
  | some index =>
      rw [hheld] at hworker
      obtain ⟨line, hline, hwrite⟩ := Option.bind_eq_some_iff.mp hworker
      by_cases hidle : line.use = .idle
      swap
      · rw [if_neg hidle] at hwrite
        exact absurd hwrite (by simp)
      rw [if_pos hidle] at hwrite
      obtain rfl := Option.some.inj hwrite
      refine h.set hslot hheld ?_ _
      intro hunderWay
      show (if failed.isSome then none else some index) = some index
      rw [hfailed line hunderWay]
      rfl

theorem Held.read (h : s.Held) {slot count : ℕ} {failed : Option String}
    (hstep : s.read slot count failed = some t) : t.Held := by
  obtain ⟨worker, hslot, hworker⟩ := Option.bind_eq_some_iff.mp hstep
  obtain ⟨index, hheld, hindex⟩ := Option.bind_eq_some_iff.mp hworker
  obtain ⟨line, hline, hread⟩ := Option.bind_eq_some_iff.mp hindex
  cases huse : line.use with
  | idle =>
      rw [huse] at hread
      exact absurd hread (by simp)
  | closed error =>
      rw [huse] at hread
      exact absurd hread (by simp)
  | reading reader =>
      rw [huse] at hread
      obtain ⟨next, hnext, hset⟩ := Option.bind_eq_some_iff.mp hread
      obtain rfl := Option.some.inj hset
      refine h.set hslot hheld ?_ _
      intro hunderWay
      cases huse' : next.use with
      | idle => rfl
      | reading reader => rfl
      | closed error =>
          rw [Line.underWay, huse'] at hunderWay
          exact absurd hunderWay (Nat.succ_ne_zero 0).symm

theorem Held.serve (h : s.Held) {index : ℕ}
    {action : WebOrigin.Connection.Action}
    (hstep : s.serve index action = some t) : t.Held := by
  obtain ⟨line, hline, hserve⟩ := Option.bind_eq_some_iff.mp hstep
  obtain ⟨origin, horigin, hset⟩ := Option.bind_eq_some_iff.mp hserve
  obtain rfl := Option.some.inj hset
  intro other line' hline' hunderWay
  by_cases hother : index = other
  · subst hother
    obtain ⟨hlt, hset⟩ := List.getElem?_eq_some_iff.mp hline'
    refine h index line hline ?_
    simp only [List.getElem_set_self] at hset
    have hsame : line'.underWay = line.underWay := by
      rw [← hset]
      rfl
    rw [← hsame, hunderWay]
  · have hold : (s.lines.set index _)[other]? = some line' := hline'
    rw [List.getElem?_set_ne hother] at hold
    exact h other line' hold hunderWay

theorem held_of_reaches {allowed : Exchange → Action → Prop}
    (h : (system shared callers).Reaches allowed s) : s.Held := by
  refine h.invariant ?_ ?_
  · rintro s rfl
    exact held_start shared callers
  · intro s action t hs _ hstep
    cases action with
    | request slot failed => exact hs.request hstep
    | refuse slot error =>
        obtain ⟨worker, -, hworker⟩ := Option.bind_eq_some_iff.mp hstep
        cases hheld : worker.held with
        | none =>
            rw [hheld] at hworker
            obtain rfl := Option.some.inj hworker
            exact hs
        | some index =>
            rw [hheld] at hworker
            exact absurd hworker (by simp)
    | read slot count failed => exact hs.read hstep
    | serve index action => exact hs.serve hstep

/-! ## Progress -/

def due (s : Exchange) : ℕ :=
  (s.lines.map Line.due).sum

/-- One step of a run in which nothing fails. -/
def SmoothStep (s t : Exchange) : Prop :=
  ∃ action, s.Smooth action ∧ s.step action = some t

/-- Replacing a connection by one that is nearer to its answer. -/
theorem due_set_lt {index : ℕ} {line next : Line}
    (hline : s.lines[index]? = some line) (hdue : next.due < line.due)
    (hcount : next.answers.length + next.underWay =
      line.answers.length + line.underWay)
    (shared : Shared) (slots : List Slot) (unconnected : ℕ) :
    due ⟨shared, s.lines.set index next, slots, unconnected⟩ < s.due ∧
      answered ⟨shared, s.lines.set index next, slots, unconnected⟩ +
        underWay ⟨shared, s.lines.set index next, slots, unconnected⟩ =
          s.answered + s.underWay := by
  have hsum := sum_map_set Line.due hline next
  have hanswered := sum_map_set (fun line : Line => line.answers.length)
    hline next
  have hunderWay := sum_map_set Line.underWay hline next
  constructor
  · unfold due
    dsimp only
    omega
  · unfold answered underWay
    dsimp only
    omega

theorem exists_underWay (h : 0 < s.underWay) :
    ∃ (index : ℕ) (line : Line) (reader : ResponseReader),
      s.lines[index]? = some line ∧ line.use = .reading reader := by
  by_contra hnone
  push Not at hnone
  refine absurd h (Nat.not_lt.mpr (Nat.le_of_eq ?_))
  unfold underWay
  rw [List.sum_eq_zero_iff]
  intro n hn
  obtain ⟨line, hline, rfl⟩ := List.mem_map.mp hn
  obtain ⟨index, hindex⟩ := List.mem_iff_getElem?.mp hline
  cases huse : line.use with
  | idle => rw [Line.underWay, huse]
  | closed error => rw [Line.underWay, huse]
  | reading reader => exact absurd huse (hnone index line reader hindex)

/-- While requests are under way one of them can be brought nearer to its
answer. -/
theorem exists_smoothStep (h : s.Undisturbed shared) (hheld : s.Held)
    (hbusy : 0 < s.underWay) :
    ∃ t, s.SmoothStep t ∧ t.due < s.due ∧
      t.answered + t.underWay = s.answered + s.underWay := by
  obtain ⟨index, line, reader, hline, huse⟩ := exists_underWay hbusy
  have hundisturbed := h.lines line (mem_lines hline)
  have hshared := Caller.Served.congr hundisturbed.served h.invariant.token
    h.invariant.bodies
  have hphase := hundisturbed.invariant.phase
  rw [huse] at hphase
  rcases hphase with hwaiting | ⟨earlier, response, seen, hreceiving⟩
  · obtain ⟨action, origin, hnearer⟩ :=
      hwaiting.exists_nearer hundisturbed huse hshared
    refine ⟨⟨origin.shared, s.lines.set index (line.serve action origin),
      s.slots, s.unconnected⟩, ⟨.serve index action, ⟨?_, ?_⟩, ?_⟩,
      due_set_lt hline hnearer.due rfl _ _ _⟩
    · intro other hother
      obtain rfl := Option.some.inj (hline.symm.trans hother)
      exact hnearer.delivers
    · intro other hother
      obtain rfl := Option.some.inj (hline.symm.trans hother)
      exact hnearer.calm
    · unfold Exchange.step Exchange.serve
      dsimp only
      rw [hline, Option.bind_eq_bind, Option.bind_some, hnearer.step]
      rfl
  · obtain ⟨next, hnext, hdue, hcount⟩ :=
      hreceiving.exists_read hundisturbed huse
    obtain ⟨slot, worker, hslot, hindex⟩ := hheld index line hline
      (by rw [Line.underWay, huse])
    obtain ⟨slots, hread⟩ : ∃ slots, s.read slot readBufferBytes none =
        some ⟨s.shared, s.lines.set index next, slots, s.unconnected⟩ := by
      unfold Exchange.read
      rw [hslot, Option.bind_eq_bind, Option.bind_some, hindex,
        Option.bind_eq_bind, Option.bind_some, hline, Option.bind_eq_bind,
        Option.bind_some, huse]
      dsimp only
      rw [hnext]
      exact ⟨_, rfl⟩
    exact ⟨_, ⟨.read slot readBufferBytes none, ⟨trivial, rfl⟩, hread⟩,
      due_set_lt hline hdue hcount _ _ _⟩

/-- From every state of a run in which nothing fails, the run can go on until no
request is under way. -/
theorem exists_quiet (h : (system shared callers).Reaches Smooth s)
    (hcallers : ∀ caller ∈ callers, caller.Served shared) :
    ∃ t, Relation.ReflTransGen SmoothStep s t ∧ t.underWay = 0 ∧
      t.answered = s.answered + s.underWay := by
  induction hn : s.due using Nat.strong_induction_on generalizing s with
  | _ n ih =>
      by_cases hquiet : s.underWay = 0
      · exact ⟨s, .refl, hquiet, by rw [hquiet, Nat.add_zero]⟩
      · have hundisturbed := undisturbed_of_reaches hcallers h
        obtain ⟨next, hnext, hdue, hcount⟩ := exists_smoothStep hundisturbed
          (held_of_reaches h) (Nat.pos_of_ne_zero hquiet)
        obtain ⟨action, hsmooth, hstep⟩ := hnext
        obtain ⟨t, hsteps, hdone, hanswered⟩ :=
          ih next.due (hn ▸ hdue) (h.step hsmooth hstep) rfl
        exact ⟨t, .head ⟨action, hsmooth, hstep⟩ hsteps, hdone,
          hanswered.trans hcount⟩

/-- Where nothing fails no request fails, the origin has served nothing that was
not answered once no request is under way, and every request under way can be
answered. -/
theorem answered_of_smooth
    (hcallers : ∀ caller ∈ callers, caller.Served shared)
    (h : (system shared callers).Reaches Smooth s) :
    s.failures = 0 ∧ (s.underWay = 0 → s.served = s.answered) ∧
      ∃ t, Relation.ReflTransGen SmoothStep s t ∧ t.underWay = 0 ∧
        t.answered = s.answered + s.underWay := by
  have hundisturbed := undisturbed_of_reaches hcallers h
  have hfailures := hundisturbed.failures_eq
  obtain ⟨hanswered, hserved⟩ := hundisturbed.invariant.bounds
  refine ⟨hfailures, fun hquiet => ?_, exists_quiet h hcallers⟩
  rw [hfailures, hquiet] at hserved
  exact Nat.le_antisymm hserved hanswered

/-- One request has been written, and nothing has arrived of it. -/
def afterOneRequest : Exchange where
  shared := threeBytes
  lines := [(Line.connect localCaller threeBytes).write none]
  slots := [⟨localCaller, some 0⟩]
  unconnected := 0

theorem served_localCaller :
    ∀ caller ∈ [localCaller], caller.Served threeBytes := by
  intro caller hcaller
  obtain rfl := List.mem_singleton.mp hcaller
  exact ⟨by decide, by decide, fun token htoken =>
    absurd htoken (by simp [threeBytes])⟩

theorem reaches_afterOneRequest :
    (system threeBytes [localCaller]).Reaches Smooth afterOneRequest := by
  have hsmooth : (start threeBytes [localCaller]).Smooth (.request 0 none) :=
    ⟨trivial, rfl⟩
  exact .step (.initial rfl) hsmooth rfl

/-- The request is answered. -/
theorem exists_answered_afterOneRequest :
    ∃ t, Relation.ReflTransGen SmoothStep afterOneRequest t ∧
      t.underWay = 0 ∧ t.answered = 1 :=
  (answered_of_smooth served_localCaller reaches_afterOneRequest).2.2

end Exchange

end Darcbench
