import Darcbench.Modules.WebOrigin

/-!
# Heads and packets

The origin reads its heads from a stream that arrives in pieces.  Where the
pieces end makes no difference to the heads that it reads.
-/

namespace Darcbench

namespace WebOrigin

/-! ## Reading one head after another -/

/-- In bytes. -/
def readChunk : ℕ := 1024

/-- What reading a head comes to. -/
inductive Head
  | request (request : Request)
  | malformed
  | oversized
  /-- The peer has closed, or a read has failed. -/
  | finished
  deriving DecidableEq

/-- A pass of the loop: the flag, the time since the call, and what the read
gives. -/
structure Pass where
  shutdown : Bool
  elapsed : ℕ
  read : ReadResult

/-- The head in front of a terminator. -/
def Head.parse (bytes : List UInt8) : Head :=
  match parseHead bytes with
  | some parsed => .request parsed
  | none => .malformed

/-- Reads one head, and leaves what follows it in the buffer.  There is no
result while the passes do not complete a head. -/
def readHeadFrom (buffer : List UInt8) (scanned : ℕ) (passes : List Pass) :
    Option (Head × List UInt8 × List Pass) :=
  match findHeadEnd buffer scanned, passes with
  | (some headEnd, _), passes =>
      some (.parse (buffer.take headEnd), buffer.drop (headEnd + 4), passes)
  | (none, _), [] => none
  | (none, scanned), pass :: passes =>
      match readMore buffer pass.shutdown pass.elapsed pass.read with
      | .oversized => some (.oversized, buffer, passes)
      | .finished => some (.finished, buffer, passes)
      | .reading buffer => readHeadFrom buffer scanned passes

def readHead (buffer : List UInt8) (passes : List Pass) :
    Option (Head × List UInt8 × List Pass) :=
  readHeadFrom buffer 0 passes

/-- Reads a number of heads. -/
def readHeads : ℕ → List UInt8 → List Pass →
    Option (List Head × List UInt8 × List Pass)
  | 0, buffer, passes => some ([], buffer, passes)
  | count + 1, buffer, passes => do
      let (head, buffer, passes) ← readHead buffer passes
      let (heads, buffer, passes) ← readHeads count buffer passes
      return (head :: heads, buffer, passes)

/-! ## Streams of heads -/

def terminator : List UInt8 := [13, 10, 13, 10]

/-- A head with its terminator, which is the first one in it. -/
structure IsHead (head : List UInt8) : Prop where
  ends : terminator <:+ head
  first : ∀ initial, initial <+: head → terminator <:+ initial →
    initial = head
  bounded : head.length ≤ maxHeadBytes

/-- What a head is understood as. -/
def Head.ofHead (head : List UInt8) : Head :=
  .parse (head.take (head.length - terminator.length))

def ReadResult.bytes : ReadResult → List UInt8
  | .data chunk => chunk
  | _ => []

/-- The bytes that some passes deliver. -/
def passBytes (passes : List Pass) : List UInt8 :=
  passes.flatMap fun pass => pass.read.bytes

/-- The read delivers some bytes, or is tried again. -/
def ReadResult.Delivers : ReadResult → Prop
  | .data chunk => chunk ≠ [] ∧ chunk.length ≤ readChunk
  | .retryable _ _ => True
  | .failed => False

/-- No shutdown is seen and no deadline is reached, where the connection is
idle or in the middle of a head. -/
structure Pass.Calm (pass : Pass) (idle : Prop) : Prop where
  running : pass.shutdown = false
  early : ¬ idle → pass.elapsed < headDeadline
  retried : ∀ shutdown elapsed, pass.read = .retryable shutdown elapsed →
    shutdown = false ∧ (idle → elapsed ≤ idleDeadline) ∧
      (¬ idle → elapsed ≤ headDeadline)

/-- The bytes end with one of the heads. -/
def AtBoundary (heads : List (List UInt8)) (bytes : List UInt8) : Prop :=
  ∃ count, bytes = (heads.take count).flatten

/-- The passes deliver the heads back to back, in pieces. -/
structure DeliversHeads (heads : List (List UInt8)) (passes : List Pass) :
    Prop where
  isHead : ∀ head ∈ heads, IsHead head
  bytes : passBytes passes = heads.flatten
  delivers : ∀ pass ∈ passes, pass.read.Delivers
  calm : ∀ before pass after, passes = before ++ pass :: after →
    pass.Calm (AtBoundary heads (passBytes before))

/-! ## The first terminator -/

theorem eq_append_of_headEndFrom {bytes : List UInt8} {n headEnd m : ℕ}
    (h : headEndFrom bytes n = (some headEnd, m)) :
    ∃ before after, bytes = before ++ terminator ++ after ∧
      headEnd = n + before.length := by
  induction bytes, n using headEndFrom.induct with
  | case1 a b c d rest n hend =>
      rw [headEndFrom, if_pos hend] at h
      simp only [Prod.mk.injEq, Option.some.injEq] at h
      obtain ⟨rfl, -⟩ := h
      refine ⟨[], rest, ?_, rfl⟩
      rw [List.nil_append, terminator, ← hend]
      rfl
  | case2 a b c d rest n hend ih =>
      rw [headEndFrom, if_neg hend] at h
      obtain ⟨before, after, hbytes, hheadEnd⟩ := ih h
      refine ⟨a :: before, after, ?_, ?_⟩
      · rw [hbytes]
        rfl
      · rw [hheadEnd, List.length_cons]
        omega
  | case3 bytes n hshort =>
      rw [headEndFrom] at h
      · exact absurd (congrArg Prod.fst h) (by simp)
      · exact hshort

theorem headEndFrom_ne_none (before after : List UInt8) (n m : ℕ) :
    headEndFrom (before ++ terminator ++ after) n ≠ (none, m) := by
  intro h
  induction before generalizing n with
  | nil =>
      rw [List.nil_append, terminator, List.cons_append, List.cons_append,
        List.cons_append, List.cons_append, headEndFrom, if_pos rfl] at h
      exact absurd (congrArg Prod.fst h) (by simp)
  | cons byte before ih =>
      obtain ⟨a, b, c, rest, hrest⟩ :
          ∃ a b c rest,
            before ++ terminator ++ after = a :: b :: c :: rest := by
        have hlength : 4 ≤ (before ++ terminator ++ after).length := by
          rw [List.length_append, List.length_append, terminator]
          simp only [List.length_cons, List.length_nil]
          omega
        generalize before ++ terminator ++ after = bytes at hlength
        obtain _ | ⟨a, _ | ⟨b, _ | ⟨c, rest⟩⟩⟩ := bytes
        · exact absurd hlength (by simp)
        · exact absurd hlength (by simp)
        · exact absurd hlength (by simp)
        · exact ⟨a, b, c, rest, rfl⟩
      rw [List.cons_append, List.cons_append, hrest, headEndFrom] at h
      split at h
      · exact absurd (congrArg Prod.fst h) (by simp)
      · rw [← hrest] at h
        exact ih (n + 1) h

theorem IsHead.four_le_length {head : List UInt8} (h : IsHead head) :
    4 ≤ head.length :=
  h.ends.length_le

/-- The search finds the end of a head at its end, whatever follows. -/
theorem IsHead.findHeadEnd_append {head : List UInt8} (h : IsHead head)
    (more : List UInt8) :
    ∃ m, findHeadEnd (head ++ more) 0 = (some (head.length - 4), m) := by
  obtain ⟨start, hstart⟩ := h.ends
  cases hfind : headEndFrom head 0 with
  | mk found m =>
      cases found with
      | none =>
          rw [← hstart, ← List.append_nil (start ++ terminator)] at hfind
          exact absurd hfind (headEndFrom_ne_none start [] 0 m)
      | some headEnd =>
          obtain ⟨-, -, hmore⟩ := headEndFrom_of_some hfind
          obtain ⟨before, after, hbytes, hheadEnd⟩ :=
            eq_append_of_headEndFrom hfind
          have hinitial := h.first (before ++ terminator)
            ⟨after, hbytes.symm⟩ ⟨before, rfl⟩
          have hlength := congrArg List.length hinitial
          rw [List.length_append, terminator, List.length_cons,
            List.length_cons, List.length_cons, List.length_cons,
            List.length_nil] at hlength
          refine ⟨m, ?_⟩
          rw [findHeadEnd, List.drop_zero, hmore more, hheadEnd]
          congr 2
          omega

/-- Before a head is complete no end is found. -/
theorem IsHead.findHeadEnd_of_lt {head buffer : List UInt8} (h : IsHead head)
    (hbuffer : buffer <+: head) (hlt : buffer.length < head.length) :
    ∃ m, findHeadEnd buffer 0 = (none, m) := by
  cases hfind : findHeadEnd buffer 0 with
  | mk found m =>
      cases found with
      | none => exact ⟨m, rfl⟩
      | some headEnd =>
          obtain ⟨before, after, hbytes, -⟩ := eq_append_of_headEndFrom hfind
          rw [List.drop_zero] at hbytes
          have hinitial := h.first (before ++ terminator)
            (List.IsPrefix.trans ⟨after, hbytes.symm⟩ hbuffer) ⟨before, rfl⟩
          rw [hbytes, hinitial, List.length_append] at hlt
          omega

/-! ## One head -/

theorem passBytes_append (before after : List Pass) :
    passBytes (before ++ after) = passBytes before ++ passBytes after :=
  List.flatMap_append

theorem passBytes_cons (pass : Pass) (passes : List Pass) :
    passBytes (pass :: passes) = pass.read.bytes ++ passBytes passes :=
  List.flatMap_cons

/-- A calm pass reads more of a head that is within its bound. -/
theorem readMore_of_calm {buffer : List UInt8} {pass : Pass}
    (hbuffer : buffer.length < maxHeadBytes)
    (hdelivers : pass.read.Delivers) (hcalm : pass.Calm (buffer = [])) :
    readMore buffer pass.shutdown pass.elapsed pass.read =
      .reading (buffer ++ pass.read.bytes) := by
  have hearly : ¬ (!buffer.isEmpty && decide (headDeadline ≤ pass.elapsed)) =
      true := by
    rw [Bool.and_eq_true, Bool.not_eq_true', List.isEmpty_eq_false_iff,
      decide_eq_true_eq]
    rintro ⟨hne, hle⟩
    exact absurd (hcalm.early hne) (Nat.not_lt.mpr hle)
  unfold readMore
  rw [if_neg (Nat.not_le.mpr hbuffer), hcalm.running,
    if_neg Bool.false_ne_true, if_neg hearly]
  cases hread : pass.read with
  | data chunk =>
      rw [hread] at hdelivers
      dsimp only
      rw [if_neg (by simpa using hdelivers.1)]
      rfl
  | retryable shutdown elapsed =>
      obtain ⟨rfl, hidle, hbusy⟩ := hcalm.retried _ _ hread
      have hpatient : ¬ (false || decide
          ((if buffer.isEmpty then idleDeadline else headDeadline) < elapsed)) =
            true := by
        rw [Bool.false_or, decide_eq_true_eq, Nat.not_lt]
        by_cases hempty : buffer = []
        · rw [hempty, List.isEmpty_nil, if_pos rfl]
          exact hidle hempty
        · rw [if_neg (by simpa using hempty)]
          exact hbusy hempty
      dsimp only
      rw [if_neg hpatient]
      exact congrArg ReadPass.reading (List.append_nil buffer).symm
  | failed =>
      rw [hread] at hdelivers
      exact hdelivers.elim

/-- From this position the search comes to the same end, whatever is still to
come. -/
def Resumes (buffer : List UInt8) (scanned : ℕ) : Prop :=
  ∀ more, findHeadEnd (buffer ++ more) scanned =
    findHeadEnd (buffer ++ more) 0

theorem Resumes.zero (buffer : List UInt8) : Resumes buffer 0 :=
  fun _ => rfl

theorem Resumes.findHeadEnd_eq {buffer : List UInt8} {scanned : ℕ}
    (h : Resumes buffer scanned) :
    findHeadEnd buffer scanned = findHeadEnd buffer 0 := by
  simpa using h []

/-- A search that has found nothing is resumed where it has stopped. -/
theorem Resumes.append {buffer : List UInt8} {m : ℕ}
    (hfind : findHeadEnd buffer 0 = (none, m)) (chunk : List UInt8) :
    Resumes (buffer ++ chunk) m := by
  intro more
  have hmore := (headEndFrom_of_none hfind).2 (chunk ++ more)
  rw [List.drop_zero, Nat.sub_zero, ← List.append_assoc] at hmore
  exact hmore.symm

/-- A complete head is read, and the rest of the buffer is kept. -/
theorem readHeadFrom_of_append {head buffer left : List UInt8} {scanned : ℕ}
    (hhead : IsHead head) (hresumes : Resumes buffer scanned)
    (hbuffer : buffer = head ++ left) (passes : List Pass) :
    readHeadFrom buffer scanned passes =
      some (.ofHead head, left, passes) := by
  obtain ⟨m, hfind⟩ := hhead.findHeadEnd_append left
  rw [← hbuffer, ← hresumes.findHeadEnd_eq] at hfind
  have hfour := hhead.four_le_length
  have htake : buffer.take (head.length - 4) =
      head.take (head.length - 4) := by
    rw [hbuffer]
    exact List.take_append_of_le_length (by omega)
  have hdrop : buffer.drop (head.length - 4 + 4) = left := by
    rw [hbuffer, Nat.sub_add_cancel hfour, List.drop_left]
  unfold readHeadFrom
  rw [hfind]
  dsimp only
  rw [htake, hdrop]
  rfl

/-- Passes that deliver a head in pieces are read as that head. -/
theorem exists_readHeadFrom {head : List UInt8} (hhead : IsHead head)
    {passes : List Pass} {buffer rest : List UInt8} {scanned : ℕ}
    (hresumes : Resumes buffer scanned)
    (hbytes : buffer ++ passBytes passes = head ++ rest)
    (hdelivers : ∀ pass ∈ passes, pass.read.Delivers)
    (hcalm : ∀ before pass after, passes = before ++ pass :: after →
      (buffer ++ passBytes before).length < head.length →
        pass.Calm (buffer ++ passBytes before = [])) :
    ∃ used unread left, passes = used ++ unread ∧
      buffer ++ passBytes used = head ++ left ∧
      readHeadFrom buffer scanned passes =
        some (.ofHead head, left, unread) := by
  induction passes generalizing buffer scanned with
  | nil =>
      rw [passBytes, List.flatMap_nil, List.append_nil] at hbytes
      exact ⟨[], [], rest, rfl, by rwa [passBytes, List.flatMap_nil,
        List.append_nil], readHeadFrom_of_append hhead hresumes hbytes []⟩
  | cons pass passes ih =>
      by_cases hlt : buffer.length < head.length
      · have hstart : buffer <+: head :=
          List.prefix_of_prefix_length_le ⟨_, hbytes⟩ ⟨_, rfl⟩ (le_of_lt hlt)
        obtain ⟨m, hfind⟩ := hhead.findHeadEnd_of_lt hstart hlt
        have hread : readMore buffer pass.shutdown pass.elapsed pass.read =
            .reading (buffer ++ pass.read.bytes) := by
          have hfirst := hcalm [] pass passes rfl
          rw [passBytes, List.flatMap_nil, List.append_nil] at hfirst
          exact readMore_of_calm (lt_of_lt_of_le hlt hhead.bounded)
            (hdelivers pass List.mem_cons_self) (hfirst hlt)
        rw [passBytes_cons, ← List.append_assoc] at hbytes
        obtain ⟨used, unread, left, rfl, hused, hresult⟩ :=
          ih (Resumes.append hfind pass.read.bytes) hbytes
            (fun other hother =>
              hdelivers other (List.mem_cons_of_mem _ hother))
            (by
              intro before other after heq
              have hnext := hcalm (pass :: before) other after
                (congrArg (pass :: ·) heq)
              rwa [passBytes_cons, ← List.append_assoc] at hnext)
        refine ⟨pass :: used, unread, left, rfl, ?_, ?_⟩
        · rw [passBytes_cons, ← List.append_assoc, hused]
        · rw [← hresumes.findHeadEnd_eq] at hfind
          unfold readHeadFrom
          rw [hfind]
          dsimp only
          rw [hread]
          exact hresult
      · obtain ⟨left, hleft⟩ : head <+: buffer :=
          List.prefix_of_prefix_length_le ⟨_, rfl⟩ ⟨_, hbytes⟩
            (Nat.not_lt.mp hlt)
        exact ⟨[], pass :: passes, left, rfl, by rw [passBytes,
          List.flatMap_nil, List.append_nil, hleft],
          readHeadFrom_of_append hhead hresumes hleft.symm _⟩

/-! ## Many heads -/

/-- Before its first head is complete, a stream is at a boundary only if
nothing has arrived. -/
theorem atBoundary_cons_of_lt {head bytes : List UInt8}
    {heads : List (List UInt8)} (hlt : bytes.length < head.length) :
    AtBoundary (head :: heads) bytes ↔ bytes = [] := by
  constructor
  · rintro ⟨count, rfl⟩
    cases count with
    | zero => rfl
    | succ count =>
        rw [List.take_succ_cons, List.flatten_cons, List.length_append] at hlt
        omega
  · rintro rfl
    exact ⟨0, rfl⟩

theorem atBoundary_cons_append {head bytes : List UInt8}
    {heads : List (List UInt8)} (hhead : head ≠ []) :
    AtBoundary (head :: heads) (head ++ bytes) ↔ AtBoundary heads bytes := by
  constructor
  · rintro ⟨count, heq⟩
    cases count with
    | zero => exact absurd (List.append_eq_nil_iff.mp heq).1 hhead
    | succ count =>
        rw [List.take_succ_cons, List.flatten_cons] at heq
        exact ⟨count, List.append_cancel_left heq⟩
  · rintro ⟨count, rfl⟩
    exact ⟨count + 1, rfl⟩

theorem Pass.Calm.congr {pass : Pass} {idle idle' : Prop}
    (h : pass.Calm idle) (hiff : idle ↔ idle') : pass.Calm idle' := by
  rw [← hiff]
  exact h

theorem exists_readHeads {heads : List (List UInt8)} {count : ℕ}
    (hcount : count ≤ heads.length) {passes : List Pass}
    {buffer : List UInt8} (hheads : ∀ head ∈ heads, IsHead head)
    (hbytes : buffer ++ passBytes passes = heads.flatten)
    (hdelivers : ∀ pass ∈ passes, pass.read.Delivers)
    (hcalm : ∀ before pass after, passes = before ++ pass :: after →
      pass.Calm (AtBoundary heads (buffer ++ passBytes before))) :
    ∃ used unread left, passes = used ++ unread ∧
      buffer ++ passBytes used = (heads.take count).flatten ++ left ∧
      readHeads count buffer passes =
        some ((heads.take count).map Head.ofHead, left, unread) := by
  induction count generalizing heads passes buffer with
  | zero =>
      exact ⟨[], passes, buffer, rfl, List.append_nil buffer, rfl⟩
  | succ count ih =>
      obtain ⟨head, heads, rfl⟩ := List.exists_cons_of_length_pos
        (lt_of_lt_of_le (Nat.succ_pos count) hcount)
      have hhead := hheads head List.mem_cons_self
      have hne : head ≠ [] := by
        rintro rfl
        exact absurd hhead.four_le_length (by simp)
      rw [List.flatten_cons] at hbytes
      obtain ⟨used, unread, left, rfl, hused, hfirst⟩ :=
        exists_readHeadFrom hhead (.zero buffer) hbytes hdelivers
          fun before pass after heq hlt =>
            (hcalm before pass after heq).congr (atBoundary_cons_of_lt hlt)
      rw [passBytes_append, ← List.append_assoc, hused, List.append_assoc]
        at hbytes
      obtain ⟨used', unread', left', rfl, hused', hothers⟩ :=
        ih (Nat.le_of_succ_le_succ hcount)
          (fun other hother => hheads other (List.mem_cons_of_mem _ hother))
          (List.append_cancel_left hbytes)
          (fun pass hpass => hdelivers pass (List.mem_append_right _ hpass))
          (by
            intro before pass after heq
            have hnext := hcalm (used ++ before) pass after
              (by rw [heq, List.append_assoc])
            rw [passBytes_append, ← List.append_assoc, hused,
              List.append_assoc] at hnext
            exact hnext.congr (atBoundary_cons_append hne))
      refine ⟨used ++ used', unread', left', ?_, ?_, ?_⟩
      · rw [List.append_assoc]
      · rw [passBytes_append, ← List.append_assoc, hused, List.append_assoc,
          hused', List.take_succ_cons, List.flatten_cons, List.append_assoc]
      · rw [readHeads, readHead, hfirst, Option.bind_eq_bind,
          Option.bind_some]
        dsimp only
        rw [hothers]
        rfl

/-- However the heads arrive, reading some of them gives what they say, and
leaves in the buffer what was read behind the last of them. -/
theorem readHeads_deliversHeads {heads : List (List UInt8)}
    {passes : List Pass} (h : DeliversHeads heads passes) {count : ℕ}
    (hcount : count ≤ heads.length) :
    ∃ used unread left, passes = used ++ unread ∧
      passBytes used = (heads.take count).flatten ++ left ∧
      left ++ passBytes unread = (heads.drop count).flatten ∧
      readHeads count [] passes =
        some ((heads.take count).map Head.ofHead, left, unread) := by
  obtain ⟨used, unread, left, hpasses, hused, hread⟩ :=
    exists_readHeads hcount h.isHead
      (show [] ++ passBytes passes = heads.flatten from h.bytes)
      h.delivers h.calm
  rw [List.nil_append] at hused
  refine ⟨used, unread, left, hpasses, hused, ?_, hread⟩
  have hflatten : heads.flatten =
      (heads.take count).flatten ++ (heads.drop count).flatten := by
    rw [← List.flatten_append, List.take_append_drop]
  have hbytes := h.bytes
  rw [hpasses, passBytes_append, hused, hflatten, List.append_assoc] at hbytes
  exact List.append_cancel_left hbytes

/-- `GET /o/1 HTTP/1.1`, and a head that says nothing. -/
def twoHeads : List (List UInt8) :=
  [[71, 69, 84, 32, 47, 111, 47, 49, 32, 72, 84, 84, 80, 47, 49, 46, 49, 13, 10,
    13, 10], terminator]

/-- The first terminator arrives in two pieces, and the second head with the
end of the first. -/
def threePieces : List Pass :=
  [⟨false, 0, .data ((twoHeads.flatten).take 18)⟩,
    ⟨false, 3, .retryable false 3⟩,
    ⟨false, 3, .data ((twoHeads.flatten).drop 18)⟩]

theorem isHead_of_forall_take {head : List UInt8}
    (hends : terminator <:+ head)
    (hfirst : ∀ count < head.length, ¬ terminator <:+ head.take count)
    (hbounded : head.length ≤ maxHeadBytes) : IsHead head := by
  refine ⟨hends, fun initial hinitial hterminator => ?_, hbounded⟩
  by_cases hlt : initial.length < head.length
  · rw [List.prefix_iff_eq_take.mp hinitial] at hterminator
    exact absurd hterminator (hfirst _ hlt)
  · exact hinitial.eq_of_length_le (Nat.not_lt.mp hlt)

theorem Pass.Calm.of_lt {pass : Pass} {idle : Prop}
    (hrunning : pass.shutdown = false) (hearly : pass.elapsed < headDeadline)
    (hretried : ∀ shutdown elapsed, pass.read = .retryable shutdown elapsed →
      shutdown = false ∧ elapsed ≤ headDeadline) : pass.Calm idle where
  running := hrunning
  early := fun _ => hearly
  retried := by
    intro shutdown elapsed hread
    obtain ⟨hshutdown, helapsed⟩ := hretried shutdown elapsed hread
    exact ⟨hshutdown, fun _ => le_trans helapsed (by decide), fun _ => helapsed⟩

theorem deliversHeads_threePieces : DeliversHeads twoHeads threePieces where
  isHead := by
    intro head hhead
    rcases List.mem_pair.mp hhead with rfl | rfl
    · exact isHead_of_forall_take (by decide) (by decide) (by decide)
    · exact isHead_of_forall_take (by decide) (by decide) (by decide)
  bytes := by decide
  delivers := by
    intro pass hpass
    rcases (by simpa [threePieces] using hpass : _ ∨ _ ∨ _) with
      rfl | rfl | rfl
    · exact ⟨by decide, by decide⟩
    · trivial
    · exact ⟨by decide, by decide⟩
  calm := by
    intro before pass after heq
    have hpass : pass ∈ threePieces := by
      rw [heq]
      exact List.mem_append_right _ List.mem_cons_self
    rcases (by simpa [threePieces] using hpass : _ ∨ _ ∨ _) with
      rfl | rfl | rfl
    · exact .of_lt rfl (by decide) nofun
    · refine .of_lt rfl (by decide) fun shutdown elapsed hread => ?_
      obtain ⟨rfl, rfl⟩ := ReadResult.retryable.inj hread
      exact ⟨rfl, by decide⟩
    · exact .of_lt rfl (by decide) nofun

theorem ofHead_twoHeads :
    (twoHeads.take 2).map Head.ofHead =
      [.request ⟨true, some 1, false, none⟩, .malformed] := by
  decide

theorem readHeads_threePieces :
    ∃ left unread, readHeads 2 [] threePieces =
      some ([.request ⟨true, some 1, false, none⟩, .malformed],
        left, unread) := by
  obtain ⟨-, unread, left, -, -, -, hread⟩ :=
    readHeads_deliversHeads deliversHeads_threePieces
      (show 2 ≤ twoHeads.length by decide)
  rw [ofHead_twoHeads] at hread
  exact ⟨left, unread, hread⟩

end WebOrigin

end Darcbench
