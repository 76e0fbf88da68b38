import Darcbench.Modules.TransferFits
import Mathlib.Logic.Relation
import Mathlib.Tactic.Ring

/-!
# Measurements beyond the ceiling

From thirteen repetitions on the downloads leave no room for the heads and the
probes, so that the last of them is cut short.
-/

namespace Darcbench

namespace NetworkTransfer

/-! ## One connection -/

/-- A step of a connection. -/
def Stream.Moves (before after : Budget × Stream) : Prop :=
  ∃ event, before.2.advance before.1 event = some after

/-- Some steps of a connection. -/
abbrev Stream.Leads : Budget × Stream → Budget × Stream → Prop :=
  Relation.ReflTransGen Stream.Moves

/-- The bytes of `HTTP/1.1 200 OK`. -/
def okHead : List UInt8 :=
  [0x48, 0x54, 0x54, 0x50, 0x2f, 0x31, 0x2e, 0x31, 0x20, 0x32, 0x30, 0x30, 0x20,
    0x4f, 0x4b, 0x0d, 0x0a, 0x0d, 0x0a]

/-- The response that an endpoint gives. -/
def response (downloadBytes : Option ℕ) : List UInt8 :=
  okHead ++ List.replicate (downloadBytes.getD 0) 0

def opening (downloadBytes : Option ℕ) : Stream :=
  ⟨⟨downloadBytes, .opening⟩, response downloadBytes⟩

def complete (downloadBytes : Option ℕ) : Stream :=
  ⟨⟨downloadBytes, .finished (.ok (downloadBytes.getD 0, false))⟩, []⟩

namespace Stream

variable {budget : Budget} {downloadBytes : Option ℕ} {unread : List UInt8}

theorem moves_exchange {site : ReadSite}
    (hgranted : budget.granted budget.spent readChunk ≠ 0) :
    Moves
      (budget, ⟨⟨downloadBytes, .reserving site (some budget.spent)⟩, unread⟩)
      ({ budget with
          spent := budget.spent + budget.granted budget.spent readChunk },
        ⟨⟨downloadBytes,
          .reading site (budget.granted budget.spent readChunk)⟩, unread⟩) := by
  refine ⟨.exchange false, ?_⟩
  simp only [advance, answered, Connection.advance, if_neg hgranted,
    and_self, if_true, Option.map_some, List.drop_zero]

theorem moves_refused {site : ReadSite}
    (hgranted : budget.granted budget.spent readChunk = 0) :
    Moves
      (budget, ⟨⟨downloadBytes, .reserving site (some budget.spent)⟩, unread⟩)
      (budget, ⟨⟨downloadBytes, Connection.afterRefusal site⟩, unread⟩) := by
  refine ⟨.exchange false, ?_⟩
  simp only [advance, answered, Connection.advance, if_pos hgranted,
    if_true, Option.map_some, List.drop_zero]

theorem moves_read {site : ReadSite} {granted : ℕ} {bytes : List UInt8}
    (hne : bytes ≠ []) (hbytes : bytes <+: unread)
    (hle : bytes.length ≤ granted) :
    Moves (budget, ⟨⟨downloadBytes, .reading site granted⟩, unread⟩)
      (budget, ⟨⟨downloadBytes,
        .refunding site (granted - bytes.length) (.ok bytes)⟩,
          unread.drop bytes.length⟩) := by
  refine ⟨.read (.ok bytes), ?_⟩
  have hanswered : (bytes.isPrefixOf unread &&
      (!bytes.isEmpty || unread.isEmpty)) = true := by
    rw [Bool.and_eq_true, List.isPrefixOf_iff_prefix, Bool.or_eq_true,
      Bool.not_eq_true', List.isEmpty_eq_false_iff]
    exact ⟨hbytes, .inl hne⟩
  simp only [advance, answered, Connection.advance, if_pos hle, hanswered,
    if_true, Option.map_some]

theorem moves_load {site : ReadSite} :
    Moves (budget, ⟨⟨downloadBytes, .reserving site none⟩, unread⟩)
      (budget,
        ⟨⟨downloadBytes, .reserving site (some budget.spent)⟩, unread⟩) :=
  ⟨.load, rfl⟩

/-- A read takes what it gets from the counter. -/
theorem leads_read (hle : budget.spent ≤ budget.ceiling)
    (hfits : budget.ceiling < 2 ^ 64) (site : ReadSite) {bytes : List UInt8}
    (hne : bytes ≠ []) (hbytes : bytes <+: unread)
    (hgranted : bytes.length ≤ budget.granted budget.spent readChunk) :
    Leads (budget, ⟨⟨downloadBytes, .reserving site none⟩, unread⟩)
      ({ budget with spent := budget.spent + bytes.length },
        ⟨⟨downloadBytes, Connection.afterRead downloadBytes (.ok bytes) site⟩,
          unread.drop bytes.length⟩) := by
  have hlength := List.length_pos_iff.mpr hne
  have hwithin : budget.granted budget.spent readChunk ≤
      budget.ceiling - budget.spent := min_le_right _ _
  have hrefund : ({ budget with
      spent := budget.spent + budget.granted budget.spent readChunk } :
        Budget).refund (budget.granted budget.spent readChunk - bytes.length) =
      { budget with spent := budget.spent + bytes.length } := by
    rw [Budget.refund]
    congr 1
    dsimp only
    omega
  refine .head moves_load (.head (moves_exchange (by omega))
    (.head (moves_read hne hbytes hgranted) (.single ⟨.refund, ?_⟩)))
  rw [← hrefund]
  rfl

theorem moves_goOn {total wanted : ℕ} (hlt : total < wanted) :
    Moves (budget, ⟨⟨some wanted, .looping total⟩, unread⟩)
      (budget, ⟨⟨some wanted, .reserving (.body total) none⟩, unread⟩) := by
  refine ⟨.goOn, ?_⟩
  simp only [advance, answered, Connection.advance, Option.any_some,
    decide_eq_true_eq, if_neg (Nat.not_le.mpr hlt), if_true, Option.map_some,
    List.drop_zero]

theorem moves_whole {wanted : ℕ} :
    Moves (budget, ⟨⟨some wanted, .looping wanted⟩, []⟩)
      (budget, complete (some wanted)) := by
  refine ⟨.goOn, ?_⟩
  simp only [advance, answered, Connection.advance, Option.any_some,
    decide_eq_true_eq, if_pos (Nat.le_refl wanted), if_true, Option.map_some,
    List.drop_zero]
  rfl

/-- A download that finds room for its body is complete; one that does not is
cut short. -/
theorem leads_body (hle : budget.spent ≤ budget.ceiling)
    (hfits : budget.ceiling < 2 ^ 64) {total wanted : ℕ}
    (hwanted : total + unread.length = wanted) :
    (unread.length ≤ budget.ceiling - budget.spent →
      Leads (budget, ⟨⟨some wanted, .looping total⟩, unread⟩)
        ({ budget with spent := budget.spent + unread.length },
          complete (some wanted))) ∧
    (budget.ceiling - budget.spent < unread.length →
      ∃ total' rest, Leads (budget, ⟨⟨some wanted, .looping total⟩, unread⟩)
        ({ budget with spent := budget.ceiling },
          ⟨⟨some wanted, .finished (.ok (total', true))⟩, rest⟩)) := by
  induction hlength : unread.length using Nat.strongRecOn
    generalizing budget total unread with
  | ind length ih =>
      subst hlength
      by_cases hempty : unread = []
      · subst hempty
        rw [List.length_nil, Nat.add_zero] at hwanted
        subst hwanted
        refine ⟨fun _ => .single moves_whole, fun hlt => ?_⟩
        exact absurd hlt (Nat.not_lt_zero _)
      · have hpos := List.length_pos_iff.mpr hempty
        have hgoOn : Moves (budget, ⟨⟨some wanted, .looping total⟩, unread⟩)
            (budget, ⟨⟨some wanted, .reserving (.body total) none⟩, unread⟩) :=
          moves_goOn (by omega)
        by_cases hspent : budget.spent = budget.ceiling
        · refine ⟨fun hroom => absurd hroom (by omega), fun _ => ?_⟩
          have hgranted : budget.granted budget.spent readChunk = 0 := by
            rw [Budget.granted]
            omega
          have hsame : { budget with spent := budget.ceiling } = budget :=
            congrArg (fun spent => { budget with spent }) hspent.symm
          rw [hsame]
          exact ⟨total, unread,
            .head hgoOn (.head moves_load (.single (moves_refused hgranted)))⟩
        · have hchunk : 0 < readChunk := by decide
          have hgranted : budget.granted budget.spent readChunk =
              min readChunk (budget.ceiling - budget.spent) := rfl
          obtain ⟨bytes, rest, hsplit, hbytes⟩ : ∃ bytes rest,
              unread = bytes ++ rest ∧ bytes.length =
                min (budget.granted budget.spent readChunk) unread.length :=
            ⟨_, _, (List.take_append_drop _ _).symm, List.length_take⟩
          have hread := @leads_read budget (some wanted) unread hle hfits
            (.body total) bytes (List.ne_nil_of_length_pos (by omega))
            ⟨rest, hsplit.symm⟩ (by omega)
          have hnext : Connection.afterRead (some wanted) (.ok bytes)
              (.body total) = .looping (total + bytes.length) := by
            cases bytes with
            | nil => exact absurd hbytes (by rw [List.length_nil]; omega)
            | cons byte bytes => rfl
          have hlength := congrArg List.length hsplit
          rw [List.length_append] at hlength
          rw [hnext, hsplit, List.drop_left, ← hsplit] at hread
          have hfirst := (Relation.ReflTransGen.single hgoOn).trans hread
          obtain ⟨hwhole, hcut⟩ := @ih rest.length (by omega)
            { budget with spent := budget.spent + bytes.length } rest
            (by dsimp only; omega) hfits (total + bytes.length)
            (by omega) rfl
          refine ⟨fun hroom => ?_, fun hlt => ?_⟩
          · have hrest := hfirst.trans (hwhole (by dsimp only; omega))
            rw [hlength, ← Nat.add_assoc]
            exact hrest
          · obtain ⟨total', left, hrest⟩ := hcut (by dsimp only; omega)
            exact ⟨total', left, hfirst.trans hrest⟩

theorem afterRead_okHead (downloadBytes : Option ℕ) :
    Connection.afterRead downloadBytes (.ok okHead) .head =
      match downloadBytes with
      | none => .finished (.ok (0, false))
      | some _ => .looping 0 := by
  have hstatus : httpStatus okHead = some 200 := by decide
  have hend : headerEnd okHead = some okHead.length := by decide
  change Connection.afterHead downloadBytes (.ok okHead) = _
  unfold Connection.afterHead
  split
  · next heq => exact absurd heq (by simp [okHead])
  · next head _ heq =>
      obtain rfl := ReadOutcome.ok.inj heq
      rw [hstatus]
      cases downloadBytes with
      | none => rfl
      | some wanted =>
          dsimp only
          rw [hend]
          rfl
  · next heq => exact absurd heq nofun
  · next heq => exact absurd heq nofun

/-- The head is read at once. -/
theorem leads_head (hroom : okHead.length ≤ budget.ceiling - budget.spent)
    (hfits : budget.ceiling < 2 ^ 64) :
    Leads (budget, opening downloadBytes)
      ({ budget with spent := budget.spent + okHead.length },
        ⟨⟨downloadBytes,
          Connection.afterRead downloadBytes (.ok okHead) .head⟩,
          List.replicate (downloadBytes.getD 0) 0⟩) := by
  have hpos : 0 < okHead.length := by decide
  have hchunk : okHead.length ≤ readChunk := by decide
  have hread := @leads_read budget downloadBytes (response downloadBytes)
    (by omega) hfits .head okHead (List.cons_ne_nil _ _)
    (List.prefix_append _ _) (le_min hchunk hroom)
  rw [response, List.drop_left] at hread
  exact .head ⟨.opened false, rfl⟩ hread

/-- What a connection reads when its endpoint gives the response. -/
def cost (downloadBytes : Option ℕ) : ℕ :=
  okHead.length + downloadBytes.getD 0

/-- A connection that finds room for its response is complete. -/
theorem leads_complete (hroom : cost downloadBytes ≤
      budget.ceiling - budget.spent)
    (hfits : budget.ceiling < 2 ^ 64) :
    Leads (budget, opening downloadBytes)
      ({ budget with spent := budget.spent + cost downloadBytes },
        complete downloadBytes) := by
  have hpos : 0 < okHead.length := by decide
  rw [cost] at hroom
  have hhead := @leads_head budget downloadBytes (by omega) hfits
  rw [afterRead_okHead] at hhead
  cases downloadBytes with
  | none => exact hhead
  | some wanted =>
      have hbody := (@leads_body
        { budget with spent := budget.spent + okHead.length }
        (List.replicate wanted 0) (by dsimp only; omega) hfits 0 wanted
        (by rw [List.length_replicate, Nat.zero_add])).1
        (by
          rw [List.length_replicate]
          dsimp only at hroom ⊢
          rw [Option.getD_some] at hroom
          omega)
      rw [List.length_replicate, Nat.add_assoc] at hbody
      exact hhead.trans hbody

/-- A download that finds no room for its body is cut short. -/
theorem leads_truncated {wanted : ℕ}
    (hroom : okHead.length ≤ budget.ceiling - budget.spent)
    (hcut : budget.ceiling - budget.spent < cost (some wanted))
    (hfits : budget.ceiling < 2 ^ 64) :
    ∃ budget' total rest, Leads (budget, opening (some wanted))
      (budget', ⟨⟨some wanted, .finished (.ok (total, true))⟩, rest⟩) := by
  have hpos : 0 < okHead.length := by decide
  have hhead := @leads_head budget (some wanted) hroom hfits
  rw [afterRead_okHead] at hhead
  rw [cost, Option.getD_some] at hcut
  obtain ⟨total, rest, hbody⟩ := (@leads_body
    { budget with spent := budget.spent + okHead.length }
    (List.replicate wanted 0) (by dsimp only; omega) hfits 0 wanted
    (by rw [List.length_replicate, Nat.zero_add])).2
    (by
      rw [List.length_replicate]
      dsimp only
      omega)
  exact ⟨_, total, rest, hhead.trans hbody⟩

end Stream

namespace Run

variable {params : ModuleParams} {s : Run}

/-- The steps of one connection are steps of the run. -/
theorem reachable_of_leads (hs : (system params).Reachable s) {i : ℕ}
    {stream : Stream} (hstream : s.streams[i]? = some stream)
    {after : Budget × Stream} (h : Stream.Leads (s.budget, stream) after) :
    (system params).Reachable
      { s with budget := after.1, streams := s.streams.set i after.2 } := by
  obtain ⟨hlt, rfl⟩ := List.getElem?_eq_some_iff.mp hstream
  have hstep : (system params).step = step params := rfl
  induction h with
  | refl =>
      dsimp only
      rw [List.set_getElem_self hlt]
      exact hs
  | @tail before after _ hmoves ih =>
      obtain ⟨event, hadvance⟩ := hmoves
      refine ih.step (a := .step i event) trivial ?_
      rw [hstep, Run.step]
      dsimp only
      rw [List.getElem?_set_self hlt, Option.bind_eq_bind, Option.bind_some,
        hadvance, Option.bind_eq_bind, Option.bind_some, List.set_set]
      rfl

/-- Connections that find room for their responses are completed one after
another. -/
theorem reachable_of_opening (hs : (system params).Reachable s)
    (hfits : s.budget.ceiling < 2 ^ 64) {downloadBytes : Option ℕ}
    {count more : ℕ} {old : List Stream}
    (hstreams : s.streams =
      old ++ List.replicate (count + more) (opening downloadBytes))
    (hroom : s.budget.spent + count * Stream.cost downloadBytes ≤
      s.budget.ceiling) :
    (system params).Reachable
      { s with
        budget := { s.budget with
          spent := s.budget.spent + count * Stream.cost downloadBytes }
        streams := old ++ List.replicate count (complete downloadBytes) ++
          List.replicate more (opening downloadBytes) } := by
  induction count generalizing s old with
  | zero =>
      rw [Nat.zero_add] at hstreams
      rw [Nat.zero_mul, Nat.add_zero, List.replicate_zero, List.append_nil,
        ← hstreams]
      exact hs
  | succ count ih =>
      rw [Nat.succ_mul] at hroom
      have hfirst : s.streams[old.length]? = some (opening downloadBytes) := by
        rw [hstreams, List.getElem?_append_right (Nat.le_refl _), Nat.sub_self,
          Nat.succ_add]
        rfl
      have hnext := reachable_of_leads hs hfirst
        (Stream.leads_complete (by omega) hfits)
      have hset : s.streams.set old.length (complete downloadBytes) =
          (old ++ [complete downloadBytes]) ++
            List.replicate (count + more) (opening downloadBytes) := by
        rw [hstreams, List.set_append_right _ _ (Nat.le_refl _), Nat.sub_self,
          Nat.succ_add, List.append_assoc]
        rfl
      have hall := ih hnext hfits hset (by dsimp only; omega)
      dsimp only at hall
      rw [List.append_assoc old, List.singleton_append, ← List.replicate_succ,
        Nat.add_assoc s.budget.spent, Nat.add_comm (Stream.cost _),
        ← Nat.succ_mul] at hall
      exact hall

/-! ## A run in which everything is answered -/

/-- The run can be reached and goes on, and all its connections so far are
complete. -/
structure Sound (params : ModuleParams) (s : Run) : Prop where
  reachable : (system params).Reachable s
  notEnded : s.ended = false
  ceiling : s.budget.ceiling = transferCeilingBytes
  complete : ∀ stream ∈ s.streams,
    ∃ downloadBytes, stream = NetworkTransfer.complete downloadBytes

theorem sound_start (params : ModuleParams) :
    Sound params (start params) where
  reachable := .initial rfl
  notEnded := rfl
  ceiling := rfl
  complete := fun _ hstream => absurd hstream List.not_mem_nil

theorem Sound.ready (h : Sound params s) :
    (s.ended || !s.streams.all Stream.isFinished) = false := by
  have hall : s.streams.all Stream.isFinished = true := by
    rw [List.all_eq_true]
    intro stream hstream
    obtain ⟨_, rfl⟩ := h.complete stream hstream
    rfl
  rw [h.notEnded, hall]
  rfl

/-- The next task is done. -/
theorem Sound.perform (h : Sound params s) {cancelled positive : Bool}
    {responses : List (List UInt8)} {t : Run}
    (hperform : s.perform params cancelled responses positive = some t) :
    (system params).Reachable t := by
  refine h.reachable.step (a := .proceed cancelled responses positive)
    trivial ?_
  change Run.step params s (.proceed cancelled responses positive) = some t
  rw [Run.step, h.ready, if_neg Bool.false_ne_true]
  exact hperform

/-- The connections of a task are opened. -/
theorem Sound.opens (h : Sound params s) {downloadBytes : Option ℕ}
    {streams : ℕ} {rest : List Task}
    (htodo : s.todo = .measure downloadBytes streams :: rest) :
    (system params).Reachable
      { s with
        streams := s.streams ++ List.replicate streams (opening downloadBytes)
        todo := rest } := by
  have hanswers : ∀ bytes ∈ List.replicate streams (response downloadBytes),
      Answers downloadBytes bytes := by
    intro bytes hbytes
    rw [List.eq_of_mem_replicate hbytes, response]
    have hhead : okHead.length ≤ readChunk := by decide
    cases downloadBytes with
    | none =>
        rw [Answers, Option.getD_none, List.replicate_zero, List.append_nil]
        exact hhead
    | some wanted =>
        rw [Answers, Option.getD_some, List.length_append,
          List.length_replicate]
        omega
  refine @Sound.perform params s h false true
    (List.replicate streams (response downloadBytes)) _ ?_
  simp only [Run.perform, htodo]
  rw [if_pos ⟨List.length_replicate, hanswers⟩, List.map_replicate]
  rfl

theorem Sound.measure (h : Sound params s) {downloadBytes : Option ℕ}
    {streams : ℕ} {rest : List Task}
    (htodo : s.todo = .measure downloadBytes streams :: rest)
    (hroom : s.budget.spent + streams * Stream.cost downloadBytes ≤
      transferCeilingBytes) :
    Sound params
      { s with
        budget := { s.budget with
          spent := s.budget.spent + streams * Stream.cost downloadBytes }
        streams := s.streams ++
          List.replicate streams (NetworkTransfer.complete downloadBytes)
        todo := rest } := by
  have hfits : s.budget.ceiling < 2 ^ 64 := by
    rw [h.ceiling]
    decide
  have hdone := @reachable_of_opening params _ (h.opens htodo) hfits
    downloadBytes streams 0 s.streams rfl (h.ceiling ▸ hroom)
  rw [List.replicate_zero, List.append_nil] at hdone
  refine ⟨hdone, h.notEnded, h.ceiling, fun stream hstream => ?_⟩
  rcases List.mem_append.mp hstream with hold | hnew
  · exact h.complete stream hold
  · exact ⟨downloadBytes, List.eq_of_mem_replicate hnew⟩

/-- What the connections of a task read. -/
def taskCost : Task → ℕ
  | .measure downloadBytes streams => streams * Stream.cost downloadBytes
  | _ => 0

def tasksCost (tasks : List Task) : ℕ :=
  (tasks.map taskCost).sum

/-- The task neither asks for samples nor starts a shape. -/
def IsPlain : Task → Prop
  | .judge | .shape _ => False
  | _ => True

/-- A plain task is done by a run that has connections. -/
theorem Sound.plain (h : Sound params s) (hne : s.streams ≠ [])
    {task : Task} {rest : List Task} (htodo : s.todo = task :: rest)
    (hplain : IsPlain task)
    (hroom : s.budget.spent + taskCost task ≤ transferCeilingBytes) :
    ∃ t, Sound params t ∧ t.streams ≠ [] ∧ t.todo = rest ∧
      t.budget.spent = s.budget.spent + taskCost task ∧
      t.connected = s.connected + [task].count (.sample true) := by
  have hlast : ∀ stream ∈ s.streams, stream.succeeded = true := by
    intro stream hstream
    obtain ⟨_, rfl⟩ := h.complete stream hstream
    rfl
  cases task with
  | cancellation =>
      refine ⟨{ s with todo := rest, ended := false },
        ⟨@Sound.perform params s h false true [] _ ?_, rfl, h.ceiling,
          h.complete⟩, hne, rfl, rfl, rfl⟩
      simp only [Run.perform, htodo]
  | measure downloadBytes streams =>
      refine ⟨_, h.measure htodo hroom, ?_, rfl, rfl, rfl⟩
      exact fun hnil => hne (List.append_eq_nil_iff.mp hnil).1
  | reachable =>
      refine ⟨{ s with todo := rest, ended := false },
        ⟨@Sound.perform params s h false true [] _ ?_, rfl, h.ceiling,
          h.complete⟩, hne, rfl, rfl, rfl⟩
      have hsucceeded : s.streams.getLast?.any Stream.succeeded = true := by
        rw [List.getLast?_eq_some_getLast hne, Option.any_some]
        exact hlast _ (List.getLast_mem hne)
      simp only [Run.perform, htodo, hsucceeded, Bool.not_true]
  | sample measured =>
      have hprobed : (s.streams.drop (s.streams.length - endpointCount)).any
          Stream.succeeded = true := by
        have hpos := List.length_pos_iff.mpr hne
        have hcount : 0 < endpointCount := by decide
        obtain ⟨stream, more, hdrop⟩ := List.exists_cons_of_length_pos
          (show 0 < (s.streams.drop
            (s.streams.length - endpointCount)).length by
              rw [List.length_drop]
              omega)
        rw [hdrop, List.any_cons, hlast stream
          (List.mem_of_mem_drop (hdrop ▸ List.mem_cons_self))]
        rfl
      refine ⟨{ s with
          todo := rest
          connected := if measured then s.connected + 1 else s.connected },
        ⟨@Sound.perform params s h false true [] _ ?_, h.notEnded, h.ceiling,
          h.complete⟩, hne, rfl, rfl, ?_⟩
      · simp only [Run.perform, htodo, hprobed, Bool.and_true]
      · cases measured <;> rfl
  | judge => exact hplain.elim
  | shape streams => exact hplain.elim

/-- Plain tasks are done one after another. -/
theorem Sound.plains (h : Sound params s) (hne : s.streams ≠ [])
    {tasks rest : List Task} (htodo : s.todo = tasks ++ rest)
    (hplain : ∀ task ∈ tasks, IsPlain task)
    (hroom : s.budget.spent + tasksCost tasks ≤ transferCeilingBytes) :
    ∃ t, Sound params t ∧ t.streams ≠ [] ∧ t.todo = rest ∧
      t.budget.spent = s.budget.spent + tasksCost tasks ∧
      t.connected = s.connected + tasks.count (.sample true) := by
  induction tasks generalizing s with
  | nil => exact ⟨s, h, hne, htodo, rfl, rfl⟩
  | cons task tasks ih =>
      rw [tasksCost, List.map_cons, List.sum_cons, ← tasksCost] at hroom
      obtain ⟨t, ht, hne', htodo', hspent, hconnected⟩ :=
        h.plain hne htodo (hplain task List.mem_cons_self) (by omega)
      obtain ⟨u, hu, hne'', htodo'', hspent', hconnected'⟩ :=
        ih ht hne' htodo'
          (fun other hother => hplain other (List.mem_cons_of_mem _ hother))
          (by rw [hspent]; omega)
      refine ⟨u, hu, hne'', htodo'', ?_, ?_⟩
      · rw [hspent', hspent, Nat.add_assoc]
        rfl
      · rw [hconnected', hconnected, Nat.add_assoc, ← List.count_append,
          List.singleton_append]

theorem tasksCost_append (tasks more : List Task) :
    tasksCost (tasks ++ more) = tasksCost tasks + tasksCost more := by
  rw [tasksCost, List.map_append, List.sum_append, tasksCost, tasksCost]

theorem tasksCost_flatten_replicate (count : ℕ) (tasks : List Task) :
    tasksCost (List.replicate count tasks).flatten =
      count * tasksCost tasks := by
  induction count with
  | zero => exact (Nat.zero_mul _).symm
  | succ count ih =>
      rw [List.replicate_succ, List.flatten_cons, tasksCost_append, ih,
        Nat.succ_mul, Nat.add_comm]

theorem tasksCost_latencyReps (params : ModuleParams) (reps : List ℕ) :
    tasksCost (reps.flatMap (latencyRep params)) =
      reps.length * (endpointCount * Stream.cost none) := by
  induction reps with
  | nil => exact (Nat.zero_mul _).symm
  | cons rep reps ih =>
      have hrep : tasksCost (latencyRep params rep) =
          endpointCount * Stream.cost none := by
        rw [latencyRep, tasksCost_append]
        rfl
      rw [List.flatMap_cons, tasksCost_append, hrep, ih, List.length_cons,
        Nat.succ_mul, Nat.add_comm]

theorem isPlain_of_isEarly {task : Task} (h : IsEarly task) : IsPlain task := by
  cases task with
  | judge => exact h
  | shape streams => exact h
  | _ => trivial

/-- The size of a download between the two clamps. -/
theorem downloadBytes_eq (hmany : 13 ≤ params.reps)
    (hfew : params.reps ≤ 102) :
    downloadBytes params = transferCeilingBytes / (params.reps * 5) := by
  have hlow : minDownloadBytes ≤ transferCeilingBytes / (params.reps * 5) := by
    rw [Nat.le_div_iff_mul_le (by omega)]
    refine (Nat.mul_le_mul_left _ (Nat.mul_le_mul_right 5 hfew)).trans ?_
    decide
  have hhigh : transferCeilingBytes / (params.reps * 5) ≤ maxDownloadBytes :=
    (Nat.div_le_div_left (Nat.mul_le_mul_right 5 hmany) (by decide)).trans
      (by decide)
  rw [downloadBytes, max_eq_left (show 1 ≤ params.reps by omega),
    parallelStreams, max_eq_left (show 1 ≤ params.reps * (1 + 4) by omega),
    min_eq_left hhigh, max_eq_right hlow]

/-- The downloads alone fill the ceiling but for some bytes. -/
theorem downloads_fill (hmany : 13 ≤ params.reps) (hfew : params.reps ≤ 102) :
    params.reps * 5 * downloadBytes params ≤ transferCeilingBytes ∧
      transferCeilingBytes <
        params.reps * 5 * downloadBytes params + params.reps * 5 := by
  rw [downloadBytes_eq hmany hfew]
  refine ⟨Nat.mul_div_le _ _, ?_⟩
  have hlt := Nat.lt_mul_div_succ transferCeilingBytes
    (show 0 < params.reps * 5 by omega)
  rwa [Nat.mul_add, Nat.mul_one] at hlt

theorem Sound.judge (h : Sound params s) {rest : List Task}
    (htodo : s.todo = .judge :: rest) (henough : minSamples ≤ s.connected) :
    Sound params { s with todo := rest } := by
  refine ⟨@Sound.perform params s h false true [] _ ?_, h.notEnded, h.ceiling,
    h.complete⟩
  simp only [Run.perform, htodo]
  rw [decide_eq_false (Nat.not_lt.mpr henough), h.notEnded]

theorem Sound.shape (h : Sound params s) {streams : ℕ} {rest : List Task}
    (htodo : s.todo = .shape streams :: rest)
    (hroom : s.budget.spent < transferCeilingBytes) :
    Sound params { s with todo := downloadReps params streams ++ rest } := by
  refine ⟨@Sound.perform params s h false true [] _ ?_, h.notEnded, h.ceiling,
    h.complete⟩
  simp only [Run.perform, htodo]
  rw [h.ceiling, if_neg (Nat.not_le.mpr hroom)]

theorem isPlain_of_mem_downloadReps {count streams : ℕ} {wanted : ℕ}
    {task : Task}
    (h : task ∈ (List.replicate count
      [.cancellation, .measure (some wanted) streams]).flatten) :
    IsPlain task := by
  obtain ⟨tasks, htasks, htask⟩ := List.mem_flatten.mp h
  rw [List.eq_of_mem_replicate htasks] at htask
  rcases List.mem_pair.mp htask with rfl | rfl
  · trivial
  · trivial

/-- The latency shapes are done in full. -/
theorem exists_before_judge (hfew : params.reps ≤ 102) :
    ∃ s, Sound params s ∧ s.streams ≠ [] ∧
      s.todo = [.judge, .cancellation, .shape 1, .cancellation,
        .shape parallelStreams] ∧
      s.budget.spent = Stream.cost none +
        params.reps * (endpointCount * Stream.cost none) ∧
      s.connected = params.measuredReps := by
  have hcost : Stream.cost none = 19 := by decide
  have hceiling : transferCeilingBytes = 536870912 := rfl
  have hsamples := count_sample_latencyTasks params
  rw [latencyTasks, List.cons_append, List.singleton_append,
    List.count_cons_of_ne (by simp)] at hsamples
  have hreps : tasksCost (.reachable ::
      (List.range params.reps).flatMap (latencyRep params)) =
        params.reps * (endpointCount * Stream.cost none) := by
    rw [← List.singleton_append, tasksCost_append, tasksCost_latencyReps,
      List.length_range]
    exact Nat.zero_add _
  have htasks : (start params).todo = .measure none 1 ::
      ((.reachable :: (List.range params.reps).flatMap (latencyRep params)) ++
        [.judge, .cancellation, .shape 1, .cancellation,
          .shape parallelStreams]) := rfl
  have hprobe := (sound_start params).measure htasks (by
    change 0 + 1 * Stream.cost none ≤ transferCeilingBytes
    omega)
  have hplain : ∀ task ∈ (.reachable ::
      (List.range params.reps).flatMap (latencyRep params)), IsPlain task := by
    intro task htask
    have hmem : task ∈ latencyTasks params := List.mem_cons_of_mem _ htask
    exact isPlain_of_isEarly (isEarly_of_mem_latencyTasks hmem)
  obtain ⟨t, ht, hne, htodo, hspent, hconnected⟩ := hprobe.plains
    (List.cons_ne_nil _ _) rfl hplain (by
      rw [hreps]
      change 0 + 1 * Stream.cost none + _ ≤ _
      rw [hcost, endpointCount]
      omega)
  refine ⟨t, ht, hne, htodo, ?_, ?_⟩
  · rw [hspent, hreps]
    change 0 + 1 * Stream.cost none + _ = _
    rw [Nat.zero_add, Nat.one_mul]
  · rw [hconnected, hsamples]
    exact Nat.zero_add _

/-- The downloads on one stream are done in full. -/
theorem exists_before_multi (hmany : 13 ≤ params.reps)
    (hfew : params.reps ≤ 102) (henough : minSamples ≤ params.measuredReps) :
    ∃ s, Sound params s ∧ s.streams ≠ [] ∧
      s.todo = downloadReps params parallelStreams ∧
      s.budget.spent = Stream.cost none +
        params.reps * (endpointCount * Stream.cost none) +
        params.reps * Stream.cost (some (downloadBytes params)) := by
  obtain ⟨hle, -⟩ := downloads_fill hmany hfew
  have hcost : Stream.cost none = 19 := by decide
  have hdownload : Stream.cost (some (downloadBytes params)) =
      19 + downloadBytes params := rfl
  have hceiling : transferCeilingBytes = 536870912 := rfl
  have hproduct : params.reps * 5 * downloadBytes params =
      5 * (params.reps * downloadBytes params) := by
    rw [Nat.mul_comm params.reps, Nat.mul_assoc]
  have hreps : tasksCost (downloadReps params 1 ++ [.cancellation]) =
      params.reps * Stream.cost (some (downloadBytes params)) := by
    rw [tasksCost_append, downloadReps, tasksCost_flatten_replicate]
    change params.reps * (0 + (1 * _ + 0)) + 0 = _
    rw [Nat.one_mul, Nat.zero_add]
    rfl
  have hroom : Stream.cost none +
      params.reps * (endpointCount * Stream.cost none) +
      params.reps * Stream.cost (some (downloadBytes params)) <
        transferCeilingBytes := by
    rw [hcost, hdownload, Nat.mul_add, endpointCount]
    omega
  obtain ⟨s, hs, hne, htodo, hspent, hconnected⟩ :=
    exists_before_judge hfew
  have hjudged := hs.judge htodo (hconnected ▸ henough)
  obtain ⟨t, ht, hne', htodo', hspent', -⟩ := hjudged.plain hne rfl
    (show IsPlain .cancellation from trivial) (by
      change s.budget.spent + 0 ≤ _
      omega)
  change t.budget.spent = s.budget.spent + 0 at hspent'
  have hsplit : downloadReps params 1 ++
      [.cancellation, .shape parallelStreams] =
        (downloadReps params 1 ++ [.cancellation]) ++
          [.shape parallelStreams] := by
    rw [List.append_assoc]
    rfl
  obtain ⟨u, hu, hne'', htodo'', hspent'', -⟩ :=
    (ht.shape htodo' (by omega)).plains hne' hsplit
      (by
        intro task htask
        rcases List.mem_append.mp htask with hmem | hmem
        · exact isPlain_of_mem_downloadReps hmem
        · rw [List.mem_singleton.mp hmem]
          trivial)
      (by
        rw [hreps]
        dsimp only
        omega)
  rw [hreps] at hspent''
  refine ⟨_, hu.shape htodo'' (by dsimp only at hspent''; omega), hne'',
    List.append_nil _, ?_⟩
  dsimp only at hspent'' ⊢
  omega

/-- With four streams the last of all downloads finds too little room. -/
theorem exists_not_fitsCeiling (hmany : 13 ≤ params.reps)
    (hfew : params.reps ≤ 102) (henough : minSamples ≤ params.measuredReps) :
    ∃ s, (system params).Reachable s ∧ ¬ FitsCeiling s := by
  obtain ⟨hle, hlt⟩ := downloads_fill hmany hfew
  obtain ⟨s, hs, hne, htodo, hspent⟩ :=
    exists_before_multi hmany hfew henough
  have hcost : Stream.cost none = 19 := by decide
  have hdownload : Stream.cost (some (downloadBytes params)) =
      19 + downloadBytes params := rfl
  have hhead : okHead.length = 19 := by decide
  have hceiling : transferCeilingBytes = 536870912 := rfl
  have hsize : minDownloadBytes ≤ downloadBytes params := le_max_left _ _
  have hmin : minDownloadBytes = 1048576 := rfl
  obtain ⟨reps, hreps⟩ : ∃ reps, params.reps = reps + 1 :=
    Nat.exists_eq_add_of_le' (by omega)
  have htasks : s.todo = ((List.replicate reps [.cancellation,
      .measure (some (downloadBytes params)) parallelStreams]).flatten ++
        [.cancellation]) ++
      [.measure (some (downloadBytes params)) parallelStreams] := by
    rw [htodo, downloadReps, hreps, List.replicate_succ', List.flatten_append,
      List.append_assoc]
    rfl
  have hrest : tasksCost ((List.replicate reps [.cancellation,
      .measure (some (downloadBytes params)) parallelStreams]).flatten ++
        [.cancellation]) =
      reps * (4 * Stream.cost (some (downloadBytes params))) := by
    rw [tasksCost_append, tasksCost_flatten_replicate]
    change reps * (0 + (4 * _ + 0)) + 0 = _
    rw [Nat.add_zero, Nat.add_zero, Nat.zero_add]
  have hproduct : (reps + 1) * 5 * downloadBytes params =
      5 * (reps * downloadBytes params) + 5 * downloadBytes params := by
    ring
  have hsingle : (reps + 1) * (19 + downloadBytes params) =
      (reps + 1) * 19 +
        (reps * downloadBytes params + downloadBytes params) := by
    ring
  have hmulti : reps * (4 * (19 + downloadBytes params)) =
      reps * 76 + 4 * (reps * downloadBytes params) := by
    ring
  rw [hreps] at hle hlt hspent hfew
  rw [hcost, endpointCount, hdownload, hsingle] at hspent
  rw [hdownload, hmulti] at hrest
  obtain ⟨t, ht, -, htodo', hspent', -⟩ := hs.plains hne htasks
    (by
      intro task htask
      rcases List.mem_append.mp htask with hmem | hmem
      · exact isPlain_of_mem_downloadReps hmem
      · rw [List.mem_singleton.mp hmem]
        trivial)
    (by
      rw [hrest]
      omega)
  rw [hrest] at hspent'
  have hfits : t.budget.ceiling < 2 ^ 64 := by
    rw [ht.ceiling]
    decide
  have hopened := ht.opens htodo'
  have hthree := @reachable_of_opening params _ hopened hfits
    (some (downloadBytes params)) 3 1 t.streams rfl (by
      rw [hdownload]
      dsimp only
      rw [ht.ceiling]
      omega)
  have hlast : (t.streams ++ List.replicate 3
      (NetworkTransfer.complete (some (downloadBytes params))) ++
        List.replicate 1 (opening (some (downloadBytes params))))[
          (t.streams ++ List.replicate 3 (NetworkTransfer.complete
            (some (downloadBytes params)))).length]? =
      some (opening (some (downloadBytes params))) := by
    rw [List.getElem?_append_right (Nat.le_refl _), Nat.sub_self]
    rfl
  obtain ⟨budget, total, rest, hleads⟩ := @Stream.leads_truncated
    { t.budget with
      spent := t.budget.spent + 3 * Stream.cost (some (downloadBytes params)) }
    (downloadBytes params)
    (by
      rw [hhead, hdownload]
      dsimp only
      rw [ht.ceiling]
      omega)
    (by
      rw [hdownload]
      dsimp only
      rw [ht.ceiling]
      omega)
    hfits
  refine ⟨_, reachable_of_leads hthree hlast hleads, fun hwhole => ?_⟩
  exact hwhole.whole _
    (List.mem_set (List.getElem?_eq_some_iff.mp hlast).1 _) rfl total rfl

/-- The plan fits its ceiling up to twelve repetitions, or if the run never
comes to a download. -/
theorem fitsCeiling_iff (hfew : params.reps ≤ 102) :
    (∀ s, (system params).Reachable s → FitsCeiling s) ↔
      params.reps ≤ 12 ∨ params.measuredReps < minSamples := by
  constructor
  · intro hfits
    by_contra hcond
    rw [not_or, Nat.not_le, Nat.not_lt] at hcond
    obtain ⟨s, hs, hnot⟩ := exists_not_fitsCeiling hcond.1 hfew hcond.2
    exact hnot (hfits s hs)
  · rintro (hreps | hmeasured) s hs
    · exact fitsCeiling_of_weight_lt (weight_plan_lt hreps) hs
    · exact fitsCeiling_of_measuredReps_lt hmeasured hs

/-- The repetitions of the quick profile. -/
def quickParams : ModuleParams where
  warmupReps := 1
  measuredReps := 5

theorem fitsCeiling_quickParams :
    quickParams.reps ≤ 102 ∧
      ∀ s, (system quickParams).Reachable s → FitsCeiling s :=
  ⟨by decide, (fitsCeiling_iff (show quickParams.reps ≤ 102 by decide)).mpr
    (.inl (by decide))⟩

/-- The repetitions of the deep profile. -/
def deepParams : ModuleParams where
  warmupReps := 3
  measuredReps := 11

theorem not_fitsCeiling_deepParams :
    ∃ s, (system deepParams).Reachable s ∧ ¬ FitsCeiling s :=
  exists_not_fitsCeiling (by decide) (by decide) (by decide)

end Run

end NetworkTransfer

end Darcbench
