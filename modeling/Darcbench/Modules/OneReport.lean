import Darcbench.Modules.ExternalSession

/-!
# One report for each session

The slot is the only record of an accepted report, and `wait` empties it.  A
session takes one report, and does not expire on it, exactly as long as no
report arrives after the slot was emptied and the deadline is not found to have
passed while there is a report in the slot.
-/

namespace Darcbench

namespace TargetSession

variable {parse : ReportParser}

/-! ## What is promised -/

/-- The answer says that a report was accepted. -/
def Accepted (entry : ControlRequest × ControlAnswer) : Prop :=
  entry.2 = .accepted

instance : DecidablePred Accepted :=
  fun entry => inferInstanceAs (Decidable (entry.2 = .accepted))

/-- The session takes one report. -/
structure TakesOneReport (parse : ReportParser) (s : TargetSession) :
    Prop where
  /-- At most one request is answered with an acceptance. -/
  one : s.answers.countP (fun entry => decide (Accepted entry)) ≤ 1
  /-- What `wait` took is the report that was accepted. -/
  taken : ∀ report, s.taken = some report →
    ∃ entry ∈ s.answers, Accepted entry ∧
      entry.1.report? parse s.token = some report
  /-- Every later report is answered with a conflict. -/
  conflict : ∀ earlier entry rest, s.answers = earlier ++ entry :: rest →
    Accepted entry → ∀ later ∈ rest,
      (later.1.report? parse s.token).isSome → later.2 = .conflict
  /-- The session did not expire on an accepted report. -/
  expired : s.waiter = .returned (.error .expired) →
    ∀ entry ∈ s.answersAtEnd, ¬Accepted entry

/-- No report arrives after the slot was emptied, and the deadline is not found
to have passed while there is a report. -/
def InTime (parse : ReportParser) (s : TargetSession) : Action → Prop
  | .connect (.ok request) =>
      (request.report? parse s.token).isSome → s.taken = none
  | .checkDeadline => s.deadline ≤ s.clock → s.inbox = none
  | _ => True

/-! ## The invariant -/

/-- The caller of `wait` has not taken a report. -/
def Waiter.Empty : Waiter → Prop
  | .polling | .checking | .sleeping | .returned (.error .expired) => True
  | _ => False

/-- The slot has the accepted report until `wait` takes it. -/
structure Invariant (parse : ReportParser) (s : TargetSession) : Prop where
  promised : s.TakesOneReport parse
  waiter : Waiter.Empty s.waiter ↔ s.taken = none
  /-- A report is in the slot or has been taken, but not both. -/
  inbox : ∀ report, s.inbox = some report → s.taken = none ∧
    ∃ entry ∈ s.answers, Accepted entry ∧
      entry.1.report? parse s.token = some report
  /-- Without a report nothing has been accepted. -/
  none : s.inbox = none → s.taken = none →
    ∀ entry ∈ s.answers, ¬Accepted entry

namespace Invariant

variable {s t : TargetSession}

theorem start (token : SessionToken) (sessionId : String) (now ttl : ℕ) :
    (start token sessionId now ttl).Invariant parse where
  promised :=
    { one := Nat.zero_le 1
      taken := nofun
      conflict := by
        intro earlier entry rest h
        exact absurd h (by simp [TargetSession.start])
      expired := nofun }
  waiter := iff_of_true trivial rfl
  inbox := nofun
  none := nofun

/-- What is in the slot or was taken has been accepted. -/
theorem exists_accepted (h : s.Invariant parse)
    (hreport : s.inbox ≠ Option.none ∨ s.taken ≠ Option.none) :
    ∃ entry ∈ s.answers, Accepted entry := by
  rcases hreport with hinbox | htaken
  · obtain ⟨report, hreport⟩ := Option.ne_none_iff_exists'.mp hinbox
    obtain ⟨-, entry, hentry, haccepted, -⟩ := h.inbox report hreport
    exact ⟨entry, hentry, haccepted⟩
  · obtain ⟨report, hreport⟩ := Option.ne_none_iff_exists'.mp htaken
    obtain ⟨entry, hentry, haccepted, -⟩ := h.promised.taken report hreport
    exact ⟨entry, hentry, haccepted⟩

theorem inbox_eq_none (h : s.Invariant parse)
    (htaken : s.taken ≠ Option.none) :
    s.inbox = Option.none := by
  by_contra hinbox
  obtain ⟨report, hreport⟩ := Option.ne_none_iff_exists'.mp hinbox
  exact htaken (h.inbox report hreport).1

end Invariant

/-! ## A request is answered -/

/-- What follows an entry when one more is added. -/
theorem eq_append_cons_of_concat
    {α : Type} {items earlier rest : List α} {added entry : α}
    (h : items ++ [added] = earlier ++ entry :: rest) :
    rest = [] ∧ items = earlier ∧ added = entry ∨
      ∃ middle, rest = middle ++ [added] ∧
        items = earlier ++ entry :: middle := by
  rcases List.eq_nil_or_concat' rest with rfl | ⟨middle, last, rfl⟩
  · obtain ⟨hitems, hadded⟩ := List.append_inj' h rfl
    exact .inl ⟨rfl, hitems, List.singleton_inj.mp hadded⟩
  · rw [← List.cons_append, ← List.append_assoc] at h
    obtain ⟨hitems, hadded⟩ := List.append_inj' h rfl
    exact .inr ⟨middle, by rw [List.singleton_inj.mp hadded], hitems⟩

/-- A report is accepted while the slot is free. -/
theorem connect_of_some {s : TargetSession} {request : ControlRequest}
    {report : SessionReport} (hstop : s.stop = false)
    (hreport : request.report? parse s.token = some report)
    (hinbox : s.inbox = none) :
    s.connect parse (.ok request) =
      some { s with
        inbox := some report
        answers := s.answers ++ [(request, .accepted)] } := by
  have hhandled := handleControlRequest_of_some hreport none
  unfold connect
  simp only [hstop, hinbox, hhandled]
  rfl

/-- One more answer keeps the promise if it is the first acceptance, and a
conflict where it comes after one. -/
theorem TakesOneReport.concat {s : TargetSession}
    (h : s.TakesOneReport parse) {entry : ControlRequest × ControlAnswer}
    {inbox : Option SessionReport}
    (hfirst : Accepted entry → ∀ other ∈ s.answers, ¬Accepted other)
    (hconflict : (∃ other ∈ s.answers, Accepted other) →
      (entry.1.report? parse s.token).isSome → entry.2 = .conflict) :
    TakesOneReport parse
      { s with inbox, answers := s.answers ++ [entry] } where
  one := by
    show (s.answers ++ [entry]).countP _ ≤ 1
    rw [List.countP_append]
    by_cases haccepted : Accepted entry
    · have hnone : s.answers.countP (fun other => decide (Accepted other)) = 0 :=
        List.countP_eq_zero.mpr fun other hother =>
          (decide_eq_true_iff (p := Accepted other)).not.mpr
            (hfirst haccepted other hother)
      rw [hnone, Nat.zero_add]
      exact List.countP_le_length
    · have hnone : [entry].countP (fun other => decide (Accepted other)) = 0 :=
        List.countP_eq_zero.mpr fun other hother => by
          rw [List.mem_singleton.mp hother, decide_eq_true_iff]
          exact haccepted
      rw [hnone, Nat.add_zero]
      exact h.one
  taken report hreport := by
    obtain ⟨other, hother, hsome⟩ := h.taken report hreport
    exact ⟨other, List.mem_append_left _ hother, hsome⟩
  conflict earlier other rest hanswers haccepted later hlater hsome := by
    rcases eq_append_cons_of_concat hanswers with
      ⟨rfl, -, -⟩ | ⟨middle, rfl, hmiddle⟩
    · exact absurd hlater List.not_mem_nil
    · rcases List.mem_append.mp hlater with hlater | hlater
      · exact h.conflict earlier other middle hmiddle haccepted later hlater
          hsome
      · obtain rfl := List.mem_singleton.mp hlater
        refine hconflict ⟨other, ?_, haccepted⟩ hsome
        rw [hmiddle]
        exact List.mem_append_right _ List.mem_cons_self
  expired := h.expired

namespace Invariant

variable {s t : TargetSession}

theorem connect {request : Except String ControlRequest}
    (h : s.Invariant parse) (hin : s.InTime parse (.connect request))
    (hstep : s.connect parse request = some t) :
    t.Invariant parse := by
  unfold TargetSession.connect at hstep
  split_ifs at hstep
  cases request with
  | error status =>
      obtain rfl := Option.some.inj hstep
      exact h
  | ok request =>
      simp only [Option.some.injEq] at hstep
      subst hstep
      cases hreport : request.report? parse s.token with
      | none =>
          obtain ⟨hinbox, hanswer⟩ := handleControlRequest_of_none hreport s.inbox
          rw [hinbox]
          exact
            { promised := h.promised.concat (fun haccepted => absurd haccepted
                hanswer) (fun _ hsome => by
                  rw [hreport] at hsome
                  exact absurd hsome Bool.false_ne_true)
              waiter := h.waiter
              inbox := fun report hsome => by
                obtain ⟨htaken, entry, hentry, hrest⟩ := h.inbox report hsome
                exact ⟨htaken, entry, List.mem_append_left _ hentry, hrest⟩
              none := fun hempty htaken entry hentry => by
                rcases List.mem_append.mp hentry with hentry | hentry
                · exact h.none hempty htaken entry hentry
                · rw [List.mem_singleton.mp hentry]
                  exact hanswer }
      | some report =>
          have htaken : s.taken = Option.none := hin (by rw [hreport]; rfl)
          rw [handleControlRequest_of_some hreport]
          cases hinbox : s.inbox with
          | none =>
              -- The first report.
              have hnone := h.none hinbox htaken
              exact
                { promised := h.promised.concat (fun _ => hnone)
                    (fun ⟨other, hother, haccepted⟩ _ =>
                      absurd haccepted (hnone other hother))
                  waiter := h.waiter
                  inbox := fun other hother => by
                    obtain rfl := Option.some.inj hother
                    exact ⟨htaken, _, List.mem_append_right _
                      List.mem_cons_self, rfl, hreport⟩
                  none := nofun }
          | some held =>
              have hconflict : ¬Accepted (request, .conflict) :=
                (by decide : ControlAnswer.conflict ≠ .accepted)
              exact
                { promised := h.promised.concat
                    (fun haccepted => absurd haccepted hconflict)
                    (fun _ _ => rfl)
                  waiter := h.waiter
                  inbox := fun other hother => by
                    obtain ⟨htaken, entry, hentry, hrest⟩ :=
                      h.inbox other (hinbox.trans hother)
                    exact ⟨htaken, entry, List.mem_append_left _ hentry, hrest⟩
                  none := nofun }

theorem takeReport (h : s.Invariant parse)
    (hstep : s.takeReport = some t) :
    t.Invariant parse := by
  unfold TargetSession.takeReport at hstep
  cases hwaiter : s.waiter with
  | polling =>
      simp only [hwaiter] at hstep
      have htaken : s.taken = Option.none :=
        h.waiter.mp (by rw [hwaiter]; trivial)
      cases hinbox : s.inbox with
      | none =>
          simp only [hinbox, Option.some.injEq] at hstep
          subst hstep
          exact
            { promised := { h.promised with expired := nofun }
              waiter := iff_of_true trivial htaken
              inbox := nofun
              none := fun _ => h.none hinbox }
      | some report =>
          simp only [hinbox, Option.some.injEq] at hstep
          subst hstep
          obtain ⟨-, hentry⟩ := h.inbox report hinbox
          exact
            { promised :=
                { one := h.promised.one
                  taken := fun other hother => Option.some.inj hother ▸ hentry
                  conflict := h.promised.conflict
                  expired := nofun }
              waiter := iff_of_false not_false nofun
              inbox := nofun
              none := nofun }
  | checking | sleeping | holding _ | reconciled _ _ | returned _ =>
      simp [hwaiter] at hstep

theorem checkDeadline (h : s.Invariant parse)
    (hin : s.InTime parse .checkDeadline) (hstep : s.checkDeadline = some t) :
    t.Invariant parse := by
  unfold TargetSession.checkDeadline at hstep
  cases hwaiter : s.waiter with
  | checking =>
      simp only [hwaiter] at hstep
      have htaken : s.taken = Option.none :=
        h.waiter.mp (by rw [hwaiter]; trivial)
      by_cases hlate : s.deadline ≤ s.clock
      · rw [if_pos hlate] at hstep
        obtain rfl := Option.some.inj hstep
        exact
          { promised :=
              { one := h.promised.one
                taken := h.promised.taken
                conflict := h.promised.conflict
                expired := fun _ => h.none (hin hlate) htaken }
            waiter := iff_of_true trivial htaken
            inbox := h.inbox
            none := h.none }
      · rw [if_neg hlate] at hstep
        obtain rfl := Option.some.inj hstep
        exact
          { promised := { h.promised with expired := nofun }
            waiter := iff_of_true trivial htaken
            inbox := h.inbox
            none := h.none }
  | polling | sleeping | holding _ | reconciled _ _ | returned _ =>
      simp [hwaiter] at hstep

theorem wake (h : s.Invariant parse) (hstep : s.wake = some t) :
    t.Invariant parse := by
  unfold TargetSession.wake at hstep
  cases hwaiter : s.waiter with
  | sleeping =>
      simp only [hwaiter, Option.some.injEq] at hstep
      subst hstep
      exact
        { promised := { h.promised with expired := nofun }
          waiter := iff_of_true trivial
            (h.waiter.mp (by rw [hwaiter]; trivial))
          inbox := h.inbox
          none := h.none }
  | polling | checking | holding _ | reconciled _ _ | returned _ =>
      simp [hwaiter] at hstep

/-- A report that was taken stays taken. -/
theorem keep (h : s.Invariant parse) (hwaiter : ¬Waiter.Empty s.waiter)
    (waiter : Waiter) (hnext : ¬Waiter.Empty waiter)
    (answersAtEnd : List (ControlRequest × ControlAnswer)) :
    Invariant parse { s with waiter, answersAtEnd } where
  promised :=
    { one := h.promised.one
      taken := h.promised.taken
      conflict := h.promised.conflict
      expired := fun hexpired => by
        have hwaiter : waiter = .returned (.error .expired) := hexpired
        rw [hwaiter] at hnext
        exact absurd trivial hnext }
  waiter := iff_of_false hnext fun htaken => hwaiter (h.waiter.mpr htaken)
  inbox := h.inbox
  none := h.none

theorem reconcile (h : s.Invariant parse) (hstep : s.reconcile = some t) :
    t.Invariant parse := by
  unfold TargetSession.reconcile at hstep
  cases hwaiter : s.waiter with
  | holding report =>
      simp only [hwaiter] at hstep
      have hempty : ¬Waiter.Empty s.waiter := by rw [hwaiter]; exact not_false
      cases hreconcile : report.reconcile s.sessionId s.served with
      | error reason =>
          simp only [hreconcile, Option.some.injEq] at hstep
          subst hstep
          exact h.keep hempty (.returned (.error (.rejected reason)))
            not_false _
      | ok _ =>
          simp only [hreconcile, Option.some.injEq] at hstep
          subst hstep
          exact h.keep hempty (.reconciled report s.served) not_false _
  | polling | checking | sleeping | reconciled _ _ | returned _ =>
      simp [hwaiter] at hstep

theorem finish (h : s.Invariant parse) (hstep : s.finish = some t) :
    t.Invariant parse := by
  unfold TargetSession.finish at hstep
  cases hwaiter : s.waiter with
  | reconciled report served =>
      simp only [hwaiter, Option.some.injEq] at hstep
      subst hstep
      have hempty : ¬Waiter.Empty s.waiter := by rw [hwaiter]; exact not_false
      exact h.keep hempty (.returned (.ok ⟨report, served, s.refused⟩))
        not_false _
  | polling | checking | sleeping | holding _ | returned _ =>
      simp [hwaiter] at hstep

theorem drop (h : s.Invariant parse) (hstep : s.drop = some t) :
    t.Invariant parse := by
  unfold TargetSession.drop at hstep
  cases hwaiter : s.waiter with
  | returned result =>
      simp only [hwaiter, Option.some.injEq] at hstep
      subst hstep
      exact
        { promised :=
            { one := h.promised.one
              taken := h.promised.taken
              conflict := h.promised.conflict
              expired := fun hexpired =>
                h.promised.expired (hwaiter.trans hexpired) }
          waiter := hwaiter ▸ h.waiter
          inbox := h.inbox
          none := h.none }
  | polling | checking | sleeping | holding _ | reconciled _ _ =>
      simp [hwaiter] at hstep

theorem step {action : Action} (h : s.Invariant parse)
    (hin : s.InTime parse action) (hstep : s.step parse action = some t) :
    t.Invariant parse := by
  cases action with
  | connect request => exact h.connect hin hstep
  | takeReport => exact h.takeReport hstep
  | checkDeadline => exact h.checkDeadline hin hstep
  | wake => exact h.wake hstep
  | reconcile => exact h.reconcile hstep
  | finish => exact h.finish hstep
  | drop => exact h.drop hstep
  | elapse duration served refused =>
      obtain rfl := Option.some.inj hstep
      exact { h with promised := { h.promised with } }

/-- A step that is not in time breaks the promise. -/
theorem not_takesOneReport {action : Action} (h : s.Invariant parse)
    (hlate : ¬s.InTime parse action) (hstep : s.step parse action = some t) :
    ¬t.TakesOneReport parse := by
  intro hpromised
  cases action with
  | connect request =>
      cases request with
      | error status => exact hlate trivial
      | ok request =>
          obtain ⟨hsome, htaken⟩ := Classical.not_imp.mp hlate
          obtain ⟨report, hreport⟩ := Option.isSome_iff_exists.mp hsome
          have hinbox := h.inbox_eq_none htaken
          replace hstep : s.connect parse (.ok request) = some t := hstep
          unfold TargetSession.connect at hstep
          split_ifs at hstep
          simp only [Option.some.injEq] at hstep
          subst hstep
          -- The slot is free again, so the second report is accepted as well.
          have hone := hpromised.one
          dsimp only at hone
          rw [handleControlRequest_of_some hreport, hinbox,
            List.countP_append] at hone
          obtain ⟨entry, hentry, haccepted⟩ := h.exists_accepted (.inr htaken)
          have hpos := List.countP_pos_iff
            (p := fun other => decide (Accepted other)).mpr
            ⟨entry, hentry, decide_eq_true haccepted⟩
          have hadded : [(request, ControlAnswer.accepted)].countP
              (fun other => decide (Accepted other)) = 1 := rfl
          dsimp only at hone
          omega
  | checkDeadline =>
      obtain ⟨hlate, hinbox⟩ := Classical.not_imp.mp hlate
      obtain ⟨entry, hentry, haccepted⟩ := h.exists_accepted (.inl hinbox)
      replace hstep : s.checkDeadline = some t := hstep
      unfold TargetSession.checkDeadline at hstep
      cases hwaiter : s.waiter with
      | checking =>
          simp only [hwaiter, if_pos hlate, Option.some.injEq] at hstep
          subst hstep
          exact hpromised.expired rfl entry hentry haccepted
      | polling | sleeping | holding _ | reconciled _ _ | returned _ =>
          simp [hwaiter] at hstep
  | takeReport | wake | reconcile | finish | drop | elapse _ _ _ =>
      exact hlate trivial

end Invariant

/-! ## Runs -/

theorem invariant_of_reaches {s : TargetSession}
    (h : (system parse).Reaches (InTime parse) s) :
    s.Invariant parse :=
  h.invariant
    (fun _ ⟨token, sessionId, now, ttl, hs⟩ =>
      hs ▸ Invariant.start token sessionId now ttl)
    (fun _ _ _ hs hin hstep => hs.step hin hstep)

/-- In a run whose steps are all in time the session takes one report, and the
first step that is not in time ends that. -/
theorem takesOneReport_of_inTime {s : TargetSession}
    (h : (system parse).Reaches (InTime parse) s) :
    s.TakesOneReport parse ∧
      ∀ action t, ¬s.InTime parse action →
        (system parse).step s action = some t → ¬t.TakesOneReport parse :=
  have hinvariant := invariant_of_reaches h
  ⟨hinvariant.promised, fun _ _ => hinvariant.not_takesOneReport⟩

/-- The body of an empty report. -/
def emptyReportBody : List UInt8 :=
  ("\x7b\"protocol\":\"darcbench.external/1\",\"session_id\":\"s-1\"," ++
    "\"generator\":\x7b\"agent_version\":\"0.2.0\",\"os\":\"linux\"," ++
    "\"arch\":\"x86_64\",\"cpus\":4\x7d,\"shapes\":[],\"clamps\":[]" ++
    "\x7d").toUTF8.toList

def emptyReport : SessionReport :=
  ⟨externalProtocolVersion, "s-1", []⟩

/-- Reads that body only. -/
def emptyReportParser : ReportParser :=
  fun body =>
    if body = emptyReportBody then .ok emptyReport
    else .error "expected value at line 1 column 1"

def zeroToken : SessionToken :=
  ⟨List.replicate 32 0, SessionToken.length_zeros⟩

def emptyReportRequest : ControlRequest :=
  ⟨true, reportPath, some zeroToken, emptyReportBody⟩

theorem report?_emptyReportRequest :
    emptyReportRequest.report? emptyReportParser zeroToken =
      some emptyReport := by
  have hparse : emptyReportParser emptyReportRequest.body = .ok emptyReport :=
    if_pos rfl
  unfold ControlRequest.report?
  rw [if_pos (by decide), hparse]
  rfl

/-- A session that lasts ten minutes. -/
def fresh : TargetSession :=
  start zeroToken "s-1" 0 600000

/-- The session when the report has been accepted. -/
def reported : TargetSession :=
  { fresh with
    inbox := some emptyReport
    answers := [(emptyReportRequest, .accepted)] }

/-- The session when `wait` has taken the report. -/
def emptied : TargetSession :=
  { reported with
    inbox := none
    taken := some emptyReport
    waiter := .holding emptyReport }

theorem reaches_reported :
    (system emptyReportParser).Reaches (InTime emptyReportParser) reported := by
  have hfresh : (system emptyReportParser).Reaches
      (InTime emptyReportParser) fresh :=
    .initial ⟨zeroToken, "s-1", 0, 600000, rfl⟩
  have hconnect := connect_of_some (s := fresh) rfl
    report?_emptyReportRequest rfl
  exact hfresh.step (a := .connect (.ok emptyReportRequest)) (fun _ => rfl)
    hconnect

theorem takesOneReport_reported :
    reported.TakesOneReport emptyReportParser :=
  (takesOneReport_of_inTime reaches_reported).1

/-- The report is taken, and the same report is accepted again. -/
theorem not_takesOneReport_twice :
    ∃ s, (system emptyReportParser).Reachable s ∧
      ¬s.TakesOneReport emptyReportParser := by
  have hreported : (system emptyReportParser).Reachable reported :=
    reaches_reported.mono fun _ _ _ => trivial
  have hemptied : (system emptyReportParser).Reachable emptied :=
    hreported.step (a := .takeReport) trivial rfl
  have hconnect := connect_of_some (s := emptied) rfl
    report?_emptyReportRequest rfl
  refine ⟨_, hemptied.step (a := .connect (.ok emptyReportRequest)) trivial
    hconnect, fun h => ?_⟩
  exact absurd h.one (by decide)

end TargetSession

end Darcbench
