import Darcbench.Modules.WebOrigin

/-!
# Requests without bodies

A body behind a head would be taken for the next request, so the origin refuses
heads that announce one.  It compares the names of the headers as they stand.
-/

namespace Darcbench

namespace WebOrigin

/-- The lines below the first one. -/
def headerLines (head : List UInt8) : List (List Char) :=
  match decodeUtf8 head with
  | some text => (splitCrlf text).tail
  | none => []

/-- The target in the first line. -/
def requestTarget (head : List UInt8) : Option (List Char) :=
  match (decodeUtf8 head).bind fun text => (splitCrlf text).head? with
  | some first =>
      match first.splitOn ' ' with
      | [_, target, _] => some target
      | _ => none
  | none => none

/-- The header says that a body follows. -/
def AnnouncesBody (name value : List Char) : Prop :=
  eqIgnoreAsciiCase name "transfer-encoding".toList = true ∨
    eqIgnoreAsciiCase name "content-length".toList = true ∧
      value ≠ "0".toList

/-- No header announces a body, whatever white space stands around its name,
and the object is the one that the target names. -/
structure BodyFree (head : List UInt8) (request : Request) : Prop where
  noBody : ∀ line ∈ headerLines head, ∀ name value,
    splitColon line = some (name, value) →
      ¬ AnnouncesBody (Words.trim name) (Words.trim value)
  object : ∀ n, request.object = some n ↔
    ∃ target, requestTarget head = some target ∧
      target.takeWhile (· ≠ '?') = objectPrefix ++ Nat.toDigits 10 n ∧
        n ≤ u64Max

/-! ## The object -/

theorem objectSize_eq_some_iff {target : List Char} {n : ℕ} :
    objectSize target = some n ↔
      target.takeWhile (· ≠ '?') = objectPrefix ++ Nat.toDigits 10 n ∧
        n ≤ u64Max := by
  rw [objectSize]
  dsimp only
  generalize target.takeWhile (· ≠ '?') = path
  constructor
  · intro h
    split_ifs at h with hstart hdigits hzero
    obtain ⟨digits, rfl⟩ := hstart
    rw [List.drop_left] at h hdigits hzero
    rw [Bool.not_eq_true, Bool.or_eq_false_iff, Bool.not_eq_false',
      List.isEmpty_eq_false_iff, List.all_eq_true] at hdigits
    obtain ⟨rfl, hn⟩ :=
      Words.eq_toDigits_iff.mpr ⟨hdigits.1, hdigits.2, hzero, h⟩
    exact ⟨rfl, hn⟩
  · rintro ⟨rfl, hn⟩
    obtain ⟨hne, hdigits, hzero, hparse⟩ :=
      Words.eq_toDigits_iff.mp ⟨rfl, hn⟩
    rw [if_pos (List.prefix_append _ _), List.drop_left, if_neg, if_neg hzero,
      hparse]
    rw [Bool.not_eq_true, Bool.or_eq_false_iff, Bool.not_eq_false',
      List.isEmpty_eq_false_iff, List.all_eq_true]
    exact ⟨hne, hdigits⟩

/-! ## The headers -/

theorem map_toLower_eq {name text other : List Char}
    (h : eqIgnoreAsciiCase name text = true)
    (h' : eqIgnoreAsciiCase name other = true) :
    text.map Char.toLower = other.map Char.toLower :=
  (of_decide_eq_true h).symm.trans (of_decide_eq_true h')

/-- A header that is read announces no body under the name it has. -/
theorem exists_of_parseHeaders_cons {line : List Char}
    {lines : List (List Char)} {close : Bool} {token : Option SessionToken}
    {result : Bool × Option SessionToken}
    (h : parseHeaders close token (line :: lines) = some result) :
    ∃ name value close' token', splitColon line = some (name, value) ∧
      ¬ AnnouncesBody name (Words.trim value) ∧
        parseHeaders close' token' lines = some result := by
  rw [parseHeaders] at h
  split at h
  · exact absurd h nofun
  · split at h
    · exact absurd h nofun
    · next name value hsplit =>
        refine ⟨name, value, ?_⟩
        by_cases hname : eqIgnoreAsciiCase name "connection".toList = true
        · rw [if_pos hname] at h
          refine ⟨_, _, hsplit, ?_, h⟩
          rintro (hencoding | ⟨hlength, -⟩)
          · exact absurd (map_toLower_eq hname hencoding) (by decide)
          · exact absurd (map_toLower_eq hname hlength) (by decide)
        rw [if_neg hname] at h
        by_cases hlength :
            eqIgnoreAsciiCase name "content-length".toList = true
        · rw [if_pos hlength] at h
          split_ifs at h with hvalue
          rw [ne_eq, not_not] at hvalue
          refine ⟨_, _, hsplit, ?_, h⟩
          rintro (hencoding | ⟨-, hother⟩)
          · exact absurd (map_toLower_eq hlength hencoding) (by decide)
          · exact hother hvalue
        rw [if_neg hlength] at h
        by_cases hencoding :
            eqIgnoreAsciiCase name "transfer-encoding".toList = true
        · rw [if_pos hencoding] at h
          exact absurd h nofun
        rw [if_neg hencoding] at h
        have hnone : ¬ AnnouncesBody name (Words.trim value) :=
          not_or.mpr ⟨hencoding, fun hannounced => hlength hannounced.1⟩
        split_ifs at h with htoken
        · exact ⟨_, _, hsplit, hnone, h⟩
        · exact ⟨_, _, hsplit, hnone, h⟩

/-- Headers that are read announce no body under the names they have. -/
theorem not_announcesBody_of_parseHeaders {lines : List (List Char)}
    {close : Bool} {token : Option SessionToken}
    {result : Bool × Option SessionToken}
    (h : parseHeaders close token lines = some result) :
    ∀ line ∈ lines, ∀ name value, splitColon line = some (name, value) →
      ¬ AnnouncesBody name (Words.trim value) := by
  induction lines generalizing close token with
  | nil => exact fun line hline => absurd hline List.not_mem_nil
  | cons first lines ih =>
      obtain ⟨name, value, close', token', hsplit, hnone, hrest⟩ :=
        exists_of_parseHeaders_cons h
      intro line hline name' value' hsplit'
      rcases List.mem_cons.mp hline with rfl | hmem
      · obtain ⟨rfl, rfl⟩ := Prod.mk.inj
          (Option.some.inj (hsplit.symm.trans hsplit'))
        exact hnone
      · exact ih hrest line hmem name' value' hsplit'

/-- What an accepted head is made of. -/
theorem exists_of_parseHead {head : List UInt8} {request : Request}
    (h : parseHead head = some request) :
    ∃ target close, requestTarget head = some target ∧
      request.object = objectSize target ∧
        parseHeaders close none (headerLines head) =
          some (request.close, request.token) := by
  rw [parseHead] at h
  cases htext : decodeUtf8 head with
  | none =>
      rw [htext] at h
      exact absurd h nofun
  | some text =>
      rw [htext, Option.bind_eq_bind, Option.bind_some] at h
      split at h
      · exact absurd h nofun
      · next first lines hlines =>
          split at h
          · next method target version hfirst =>
              have hclose : ∃ close, ((parseHeaders close none lines).bind
                  fun read => some
                    { get := method = "GET".toList
                      object := objectSize target
                      close := read.1
                      token := read.2 }) = some request := by
                dsimp only at h
                split_ifs at h
                · exact ⟨false, h⟩
                · exact ⟨true, h⟩
                · exact absurd h nofun
              obtain ⟨close, hclose⟩ := hclose
              obtain ⟨⟨close', token⟩, hheaders, hrequest⟩ :=
                Option.bind_eq_some_iff.mp hclose
              obtain rfl := Option.some.inj hrequest
              refine ⟨target, close, ?_, rfl, ?_⟩
              · rw [requestTarget, htext, Option.bind_some, hlines,
                  List.head?_cons]
                dsimp only
                rw [hfirst]
              · rw [headerLines, htext]
                dsimp only
                rw [hlines, List.tail_cons, hheaders]
          · exact absurd h nofun

/-- An accepted head is free of a body exactly when no header that announces
one has white space around its name. -/
theorem bodyFree_iff {head : List UInt8} {request : Request}
    (h : parseHead head = some request) :
    BodyFree head request ↔
      ∀ line ∈ headerLines head, ∀ name value,
        splitColon line = some (name, value) → Words.trim name ≠ name →
          ¬ AnnouncesBody (Words.trim name) (Words.trim value) := by
  obtain ⟨target, close, htarget, hobject, hheaders⟩ := exists_of_parseHead h
  constructor
  · intro hfree line hline name value hsplit _
    exact hfree.noBody line hline name value hsplit
  · intro hpadded
    refine ⟨fun line hline name value hsplit => ?_, fun n => ?_⟩
    · by_cases htrim : Words.trim name = name
      · rw [htrim]
        exact not_announcesBody_of_parseHeaders hheaders line hline name value
          hsplit
      · exact hpadded line hline name value hsplit htrim
    · rw [hobject, objectSize_eq_some_iff, htarget]
      constructor
      · exact fun hpath => ⟨target, rfl, hpath⟩
      · rintro ⟨_, heq, hpath⟩
        obtain rfl := Option.some.inj heq
        exact hpath

/-- A head that announces a body, with a space before the colon. -/
def paddedHead : List UInt8 :=
  "GET /o/1 HTTP/1.1\r\nTransfer-Encoding : chunked".toUTF8.toList

/-- The head is accepted, and what follows it is taken for a request. -/
theorem not_bodyFree_paddedHead :
    parseHead paddedHead = some ⟨true, some 1, false, none⟩ ∧
      ¬ BodyFree paddedHead ⟨true, some 1, false, none⟩ := by
  have hlines : headerLines paddedHead =
      ["Transfer-Encoding : chunked".toList] := by decide +kernel
  have hsplit : splitColon "Transfer-Encoding : chunked".toList =
      some ("Transfer-Encoding ".toList, " chunked".toList) := by
    decide +kernel
  have htrim : eqIgnoreAsciiCase (Words.trim "Transfer-Encoding ".toList)
      "transfer-encoding".toList = true := by decide +kernel
  refine ⟨by decide +kernel, fun hfree => ?_⟩
  exact hfree.noBody _ (hlines ▸ List.mem_cons_self) _ _ hsplit (.inl htrim)

/-- A head that says that no body follows. -/
def plainHead : List UInt8 :=
  "GET /o/40 HTTP/1.1\r\nContent-Length: 0".toUTF8.toList

theorem bodyFree_plainHead :
    parseHead plainHead = some ⟨true, some 40, false, none⟩ ∧
      BodyFree plainHead ⟨true, some 40, false, none⟩ := by
  have hlines : headerLines plainHead = ["Content-Length: 0".toList] := by
    decide +kernel
  have hsplit : splitColon "Content-Length: 0".toList =
      some ("Content-Length".toList, " 0".toList) := by decide +kernel
  have hparse : parseHead plainHead = some ⟨true, some 40, false, none⟩ := by
    decide +kernel
  refine ⟨hparse, (bodyFree_iff hparse).mpr ?_⟩
  intro line hline name value hname htrim
  rw [hlines, List.mem_singleton] at hline
  rw [hline, hsplit] at hname
  obtain ⟨rfl, rfl⟩ := Prod.mk.inj (Option.some.inj hname)
  exact absurd (by decide +kernel) htrim

end WebOrigin

end Darcbench
