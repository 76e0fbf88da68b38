import Darcbench.Protocol.ParseFloat
import Darcbench.Report.Html
import Darcbench.Report.Tampering

/-!
# What a bundle can do to its report

The texts of a bundle reach the page as text.  The tags of the page and their
attributes are those of the template.
-/

namespace Darcbench.Page

/-! ## Pieces of the page -/

theorem isText_escapeChar (c : Char) :
    Html.IsText (escapeChar c).toList [c] := by
  by_cases hamp : c = '&'
  · subst hamp
    exact (by decide : Html.IsText ['&', 'a', 'm', 'p', ';'] ['&'])
  by_cases hlt : c = '<'
  · subst hlt
    exact (by decide : Html.IsText ['&', 'l', 't', ';'] ['<'])
  by_cases hgt : c = '>'
  · subst hgt
    exact (by decide : Html.IsText ['&', 'g', 't', ';'] ['>'])
  by_cases hquot : c = '"'
  · subst hquot
    exact (by decide : Html.IsText ['&', 'q', 'u', 'o', 't', ';'] ['"'])
  by_cases happos : c = '\''
  · subst happos
    exact (by decide :
      Html.IsText ['&', '#', 'x', '2', '7', ';'] ['\''])
  rw [escapeChar, if_neg hamp, if_neg hlt, if_neg hgt, if_neg hquot,
    if_neg happos, Char.toString_eq_singleton, String.toList_singleton]
  exact Html.isText_singleton hlt hamp

/-- An escaped text is read as the text. -/
theorem isText_escape (input : String) :
    Html.IsText (escape input).toList input.toList := by
  have hchars : ∀ chars : List Char,
      Html.IsText ((chars.map escapeChar).flatMap String.toList) chars := by
    intro chars
    induction chars with
    | nil => exact Html.isText_nil
    | cons c rest ih => exact (isText_escapeChar c).append ih
  rw [escape, String.toList_join]
  exact hchars input.toList

namespace Segment

/-- What a reader finds in a piece: the markup of the template, and texts as
they are. -/
def items : Segment → List Html.Item
  | markup html _ => Html.items html.toList
  | plain text => text.toList.map .text
  | escaped text => text.toList.map .text

/-- A piece that is put in as it is does not start anything. -/
def IsSafe : Segment → Prop
  | markup _ _ => True
  | plain text => Html.IsPlain text.toList
  | escaped _ => True

theorem IsSafe.isClosed {segment : Segment} (h : segment.IsSafe) :
    Html.IsClosed segment.html.toList := by
  cases segment with
  | markup html closed => exact closed
  | plain text => exact (Html.IsPlain.isText h).isClosed
  | escaped text => exact (isText_escape text).isClosed

theorem IsSafe.items_eq {segment : Segment} (h : segment.IsSafe) :
    Html.items segment.html.toList = segment.items := by
  cases segment with
  | markup html closed => rfl
  | plain text => exact (Html.IsPlain.isText h).items_eq
  | escaped text => exact (isText_escape text).items_eq

end Segment

/-- A sequence of pieces all of which are safe. -/
def AllSafe (segments : List Segment) : Prop :=
  ∀ segment ∈ segments, segment.IsSafe

/-- Safe pieces are read one by one. -/
theorem AllSafe.items_eq {segments : List Segment} (h : AllSafe segments) :
    Html.items (String.join (segments.map Segment.html)).toList =
      segments.flatMap Segment.items := by
  rw [String.toList_join]
  induction segments with
  | nil => rfl
  | cons segment rest ih =>
      have hsegment := h segment List.mem_cons_self
      have hrest : AllSafe rest := fun s hs => h s (List.mem_cons_of_mem _ hs)
      rw [List.map_cons, List.flatMap_cons, hsegment.isClosed.items_append,
        hsegment.items_eq, ih hrest, List.flatMap_cons]

@[simp] theorem allSafe_nil : AllSafe [] := by
  intro segment h
  exact absurd h List.not_mem_nil

@[simp] theorem allSafe_cons {segment : Segment} {rest : List Segment} :
    AllSafe (segment :: rest) ↔ segment.IsSafe ∧ AllSafe rest :=
  List.forall_mem_cons

@[simp] theorem allSafe_append {first second : List Segment} :
    AllSafe (first ++ second) ↔ AllSafe first ∧ AllSafe second :=
  List.forall_mem_append

theorem allSafe_flatMap {α : Type} {values : List α} {f : α → List Segment}
    (h : ∀ a ∈ values, AllSafe (f a)) : AllSafe (values.flatMap f) := by
  intro segment hsegment
  obtain ⟨a, ha, hmem⟩ := List.mem_flatMap.mp hsegment
  exact h a ha segment hmem

@[simp] theorem isSafe_literal (html : String)
    (closed : Html.IsClosed html.toList) : (literal html closed).IsSafe :=
  trivial

@[simp] theorem isSafe_classed (before name after : String)
    (closed : Html.IsClosed
      (before.toList ++ name.toList ++ after.toList)) :
    (classed before name after closed).IsSafe :=
  trivial

@[simp] theorem isSafe_escaped (text : String) :
    (Segment.escaped text).IsSafe :=
  trivial

theorem isPlain_of_isDigit {text : List Char}
    (h : ∀ c ∈ text, c.isDigit = true) : Html.IsPlain text := by
  intro c hc
  constructor
  · rintro rfl
    exact absurd (h _ hc) (by decide)
  · rintro rfl
    exact absurd (h _ hc) (by decide)

theorem isPlain_toString (n : ℕ) : Html.IsPlain (toString n).toList := by
  refine isPlain_of_isDigit fun c hc => ?_
  rw [Nat.toString_eq_repr, Nat.toList_repr] at hc
  exact F64.isDigit_of_mem_toDigits hc

@[simp] theorem isSafe_count (n : ℕ) : (count n).IsSafe :=
  isPlain_toString n

/-! ## Numbers and names -/

section Numbers

variable {F : Type} [F64 F] [F64.Display F]

/-- Numbers are shown without markup. -/
def ShowsPlain (F : Type) [F64 F] [F64.Display F] : Prop :=
  ∀ (decimals : ℕ) (a : F), Html.IsPlain (fixed decimals a).toList

theorem isSafe_fixed (h : ShowsPlain F) (decimals : ℕ) (a : F) :
    (Segment.plain (fixed decimals a)).IsSafe :=
  h decimals a

theorem isSafe_percent (h : ShowsPlain F) (decimals : ℕ) (a : F) :
    (percent decimals a).IsSafe :=
  h decimals _

theorem isSafe_signedFixed (h : ShowsPlain F) (decimals : ℕ) (a : F) :
    (Segment.plain (signedFixed decimals a)).IsSafe := by
  show Html.IsPlain (signedFixed decimals a).toList
  rw [signedFixed]
  split
  · exact h decimals a
  · rw [String.toList_append]
    exact Html.IsPlain.append (by decide) (h decimals a)

theorem isSafe_fmtScore (h : ShowsPlain F) (score : Option F) :
    (Segment.plain (fmtScore score)).IsSafe := by
  show Html.IsPlain (fmtScore score).toList
  cases score with
  | none => exact (by decide : Html.IsPlain "-".toList)
  | some v =>
      rw [fmtScore]
      split
      · exact h 0 v
      · exact (by decide : Html.IsPlain "-".toList)

theorem isSafe_statusDebug (status : ModuleStatus) :
    (Segment.plain (statusDebug status)).IsSafe := by
  show Html.IsPlain (statusDebug status).toList
  cases status <;> decide

theorem isSafe_resultState (state : ResultState) :
    (Segment.plain state.debug).IsSafe := by
  show Html.IsPlain state.debug.toList
  cases state <;> decide

theorem isSafe_warningCode (code : WarningCode) :
    (Segment.plain code.debug).IsSafe := by
  show Html.IsPlain code.debug.toList
  cases code <;> decide

end Numbers

/-! ## The whole page -/

section Texts

variable {F : Type} [F64 F]

theorem allSafe_head : AllSafe head := by
  simp [head]

theorem allSafe_header (formats : Formats) (bundle : Bundle F) :
    AllSafe (header formats bundle) := by
  simp [header]

theorem allSafe_items (texts : List String) :
    AllSafe (texts.flatMap item) :=
  allSafe_flatMap fun text _ => by simp [item]

theorem allSafe_guardsBanner (bundle : Bundle F) :
    AllSafe (guardsBanner bundle) := by
  rw [guardsBanner]
  split
  · exact allSafe_nil
  · simp [allSafe_items]

theorem allSafe_verdictSection (formats : Formats) (bundle : Bundle F) :
    AllSafe (verdictSection formats bundle) := by
  have hreasons : AllSafe (bundle.verdict.reasons.flatMap fun reason =>
      item (formats.debugReason reason)) :=
    allSafe_flatMap fun reason _ => by simp [item]
  rw [verdictSection]
  split <;> simp [stateMarkup, hreasons, isSafe_resultState]

theorem allSafe_gapList (gaps : List Gap) : AllSafe (gapList gaps) := by
  induction gaps with
  | nil => exact allSafe_nil
  | cons gap rest ih =>
      cases rest with
      | nil => simp [gapList]
      | cons next rest =>
          have hsplit : gapList (gap :: next :: rest) =
              .escaped gap.field :: literal ", " :: gapList (next :: rest) :=
            rfl
          rw [hsplit]
          simp [ih]

theorem allSafe_provenanceSection (bundle : Bundle F) :
    AllSafe (provenanceSection bundle) := by
  have hsignature : AllSafe (signatureNote bundle.signature) := by
    cases bundle.signature <;> simp [signatureNote]
  simp [provenanceSection, hsignature]

end Texts

section Sections

variable {F : Type} [F64 F] [F64.Display F]

theorem allSafe_environmentSection (bundle : Bundle F) :
    AllSafe (environmentSection bundle) := by
  have hrows : AllSafe ((environmentRows bundle).flatMap environmentRow) :=
    allSafe_flatMap fun row _ => by simp [environmentRow]
  rw [environmentSection]
  split <;> simp [hrows, allSafe_gapList]

variable (hshow : ShowsPlain F)

include hshow

theorem allSafe_categoryCard (category : CategoryOutcome F) :
    AllSafe (categoryCard category) := by
  have hbasket : AllSafe (basket category) := by
    rw [basket]
    split <;> simp
  simp [categoryCard, hbasket, isSafe_fmtScore hshow, isSafe_percent hshow]

theorem allSafe_scores (bundle : Bundle F) :
    AllSafe (calibrationBanner bundle ++ scoreSummary bundle ++
      bundle.scores.categories.flatMap categoryCard ++
      bundle.scores.facets.toList.flatMap facetCard ++
      stabilityCard bundle) := by
  have hbanner : AllSafe (calibrationBanner bundle) := by
    rw [calibrationBanner]
    split <;> simp
  have hnote : AllSafe (totalNote bundle) := by
    rw [totalNote]
    split <;> simp
  have hsummary : AllSafe (scoreSummary bundle) := by
    simp [scoreSummary, stateMarkup, hnote, isSafe_fmtScore hshow]
  have hfacet : ∀ facet : String × F, AllSafe (facetCard facet) := by
    intro facet
    simp [facetCard, isSafe_fmtScore hshow]
  have hstability : AllSafe (stabilityCard bundle) := by
    rw [stabilityCard]
    cases bundle.scores.medianCv <;>
      simp [isSafe_fmtScore hshow, isSafe_percent hshow]
  simp only [allSafe_append]
  exact ⟨⟨⟨⟨hbanner, hsummary⟩,
    allSafe_flatMap fun c _ => allSafe_categoryCard hshow c⟩,
    allSafe_flatMap fun facet _ => hfacet facet⟩, hstability⟩

theorem allSafe_sustainedCard (sustained : SustainedOutcome F) :
    AllSafe (sustainedCard sustained) := by
  simp [sustainedCard, isSafe_fmtScore hshow, isSafe_percent hshow]

theorem allSafe_sustainedSection (sustained : SustainedOutcome F)
    (diagnosis : SustainedDiagnosis F) :
    AllSafe (sustainedSection sustained diagnosis) := by
  have hrow : ∀ entry : String × F, AllSafe (metricRow entry) := by
    intro entry
    simp [metricRow, isSafe_percent hshow]
  have hrows : AllSafe (((worst sustained).take 8).flatMap metricRow) :=
    allSafe_flatMap fun entry _ => hrow entry
  rw [sustainedSection]
  cases diagnosis.evidence.frequencyDrop <;>
    cases diagnosis.evidence.temperatureRiseC <;>
      simp [hrows, isSafe_fixed hshow, isSafe_percent hshow,
        isSafe_signedFixed hshow]

theorem allSafe_weakLinkBanner (bundle : Bundle F) :
    AllSafe (weakLinkBanner bundle) := by
  rw [weakLinkBanner]
  split
  · cases bundle.scores.balanceIndex <;>
      simp [isSafe_fmtScore hshow, isSafe_fixed hshow]
  · exact allSafe_nil

theorem allSafe_measurementsSection (bundle : Bundle F) :
    AllSafe (measurementsSection bundle) := by
  have hmetric : ∀ metric : Metric F, AllSafe (measurementRow metric) := by
    intro metric
    rw [measurementRow]
    cases metric.summary.cv <;> cases metric.summary.ci95 <;>
      simp [isSafe_fixed hshow, isSafe_percent hshow]
  have hwarning : ∀ warning : Warning, AllSafe (warningItem warning) := by
    intro warning
    simp [warningItem, isSafe_warningCode]
  have hmodule : ∀ result : ModuleResult F, AllSafe (moduleSection result) := by
    intro result
    have hmetrics : AllSafe (result.metrics.flatMap measurementRow) :=
      allSafe_flatMap fun metric _ => hmetric metric
    have hwarnings : AllSafe (result.warnings.flatMap warningItem) :=
      allSafe_flatMap fun warning _ => hwarning warning
    rw [moduleSection]
    split <;> simp [hmetrics, hwarnings, isSafe_statusDebug]
  have hmodules : AllSafe (bundle.modules.flatMap moduleSection) :=
    allSafe_flatMap fun result _ => hmodule result
  rw [measurementsSection]
  split <;> simp [hmodules]

theorem allSafe_telemetrySection (t : TelemetrySummary F) :
    AllSafe (telemetrySection t) := by
  rw [telemetrySection]
  cases t.frequencyDrop <;> cases t.cpuTempCMax <;>
    simp [isSafe_fixed hshow, isSafe_percent hshow]

/-- Whatever the page takes as it is does not start anything. -/
theorem allSafe_template (formats : Formats) (bundle : Bundle F) :
    AllSafe (template formats bundle) := by
  have hcard : AllSafe
      ((bundle.scores.sustained.map sustainedCard).getD []) := by
    cases bundle.scores.sustained with
    | none => exact allSafe_nil
    | some sustained => exact allSafe_sustainedCard hshow sustained
  have hsustained : AllSafe ((bundle.scores.sustained.bind fun sustained =>
      bundle.sustainedDiagnosis.map (sustainedSection sustained)).getD []) := by
    cases bundle.scores.sustained with
    | none => exact allSafe_nil
    | some sustained =>
        cases bundle.sustainedDiagnosis with
        | none => exact allSafe_nil
        | some diagnosis =>
            exact allSafe_sustainedSection hshow sustained diagnosis
  have hstopped : AllSafe
      ((bundle.run.stoppedBecause.map stoppedBanner).getD []) := by
    cases bundle.run.stoppedBecause <;> simp [stoppedBanner]
  have hscores := allSafe_scores hshow bundle
  simp only [allSafe_append] at hscores
  obtain ⟨⟨⟨⟨hbanner, hsummary⟩, hcategories⟩, hfacets⟩, hstability⟩ := hscores
  simp only [template, allSafe_append]
  exact ⟨⟨⟨⟨⟨⟨⟨⟨⟨⟨⟨⟨⟨⟨⟨⟨⟨⟨allSafe_head, allSafe_header formats bundle⟩,
    hbanner⟩, hsummary⟩, hcategories⟩, hfacets⟩, hstability⟩, hcard⟩,
    by simp⟩, hsustained⟩, hstopped⟩, allSafe_guardsBanner bundle⟩,
    allSafe_weakLinkBanner hshow bundle⟩,
    allSafe_verdictSection formats bundle⟩,
    allSafe_environmentSection bundle⟩,
    allSafe_measurementsSection hshow bundle⟩,
    allSafe_telemetrySection hshow bundle.telemetry⟩,
    allSafe_provenanceSection bundle⟩, by simp [foot]⟩

end Sections

/-! ## Machine numbers -/

theorem isPlain_pointed (decimals units : ℕ) :
    Html.IsPlain (F64.pointed decimals units).toList := by
  rw [F64.pointed]
  split
  · exact isPlain_toString units
  · have hzeros : ∀ n, Html.IsPlain ("".pushn '0' n).toList := by
      intro n
      rw [String.pushn_eq_repeat_push]
      induction n with
      | zero => exact (by decide : Html.IsPlain "".toList)
      | succ n ih =>
          show Html.IsPlain (String.push _ '0').toList
          rw [String.toList_push]
          exact ih.append (by decide)
    simp only [String.toList_append]
    exact (((isPlain_toString _).append (by decide)).append
      (hzeros _)).append (isPlain_toString _)

open Float.Model in
theorem isPlain_signText (sign : UnpackedFloat.Sign) :
    Html.IsPlain (F64.signText sign).toList := by
  cases sign <;> decide

theorem showsPlain_float : ShowsPlain Float := by
  intro decimals a
  show Html.IsPlain (F64.fixedText decimals a.toModel.unpack).toList
  cases a.toModel.unpack with
  | notANumber => exact (by decide : Html.IsPlain "NaN".toList)
  | infinity sign =>
      rw [F64.fixedText, String.toList_append]
      exact (isPlain_signText sign).append (by decide)
  | zero sign =>
      rw [F64.fixedText, String.toList_append]
      exact (isPlain_signText sign).append (isPlain_pointed _ _)
  | finite sign mantissa exponent h =>
      rw [F64.fixedText, String.toList_append]
      exact (isPlain_signText sign).append (isPlain_pointed _ _)

/-! ## The tags of the page -/

/-- The tags of the template in a piece. -/
def Segment.tags : Segment → List Html.Tag
  | markup html _ => Html.tags html.toList
  | plain _ => []
  | escaped _ => []

theorem Segment.filterMap_items (segment : Segment) :
    segment.items.filterMap Html.Item.tag? = segment.tags := by
  cases segment with
  | markup html closed => rfl
  | plain text => exact Html.tags_text _
  | escaped text => exact Html.tags_text _

def tagsOf (segments : List Segment) : List Html.Tag :=
  segments.flatMap Segment.tags

theorem AllSafe.tags_eq {segments : List Segment} (h : AllSafe segments) :
    Html.tags (String.join (segments.map Segment.html)).toList =
      tagsOf segments := by
  rw [Html.tags, h.items_eq, List.filterMap_flatMap]
  exact congrArg (segments.flatMap ·) (funext Segment.filterMap_items)

@[simp] theorem tagsOf_nil : tagsOf [] = [] := rfl

@[simp] theorem tagsOf_append (first second : List Segment) :
    tagsOf (first ++ second) = tagsOf first ++ tagsOf second :=
  List.flatMap_append

@[simp] theorem tagsOf_literal (html : String)
    (closed : Html.IsClosed html.toList) (rest : List Segment) :
    tagsOf (literal html closed :: rest) =
      Html.tags html.toList ++ tagsOf rest :=
  rfl

@[simp] theorem tagsOf_classed (before name after : String)
    (closed : Html.IsClosed
      (before.toList ++ name.toList ++ after.toList)) (rest : List Segment) :
    tagsOf (classed before name after closed :: rest) =
      Html.tags (before ++ name ++ after).toList ++ tagsOf rest :=
  rfl

@[simp] theorem tagsOf_plain (text : String) (rest : List Segment) :
    tagsOf (.plain text :: rest) = tagsOf rest :=
  rfl

@[simp] theorem tagsOf_count (n : ℕ) (rest : List Segment) :
    tagsOf (count n :: rest) = tagsOf rest :=
  rfl

@[simp] theorem tagsOf_percent {F : Type} [F64 F] [F64.Display F]
    (decimals : ℕ) (a : F) (rest : List Segment) :
    tagsOf (percent decimals a :: rest) = tagsOf rest :=
  rfl

@[simp] theorem tagsOf_escaped (text : String) (rest : List Segment) :
    tagsOf (.escaped text :: rest) = tagsOf rest :=
  rfl

/-- Parts that have the same tags wherever a figure of theirs is the same. -/
theorem tagsOf_flatMap_congr {α κ : Type} {f : α → List Segment} {k : α → κ}
    (hf : ∀ a a', k a = k a' → tagsOf (f a) = tagsOf (f a'))
    {values values' : List α} (h : values.map k = values'.map k) :
    tagsOf (values.flatMap f) = tagsOf (values'.flatMap f) := by
  induction values generalizing values' with
  | nil =>
      rw [List.map_nil] at h
      rw [List.map_eq_nil_iff.mp h.symm]
  | cons a rest ih =>
      cases values' with
      | nil => exact absurd h (by simp)
      | cons a' rest' =>
          rw [List.map_cons, List.map_cons] at h
          obtain ⟨hhead, htail⟩ := List.cons.inj h
          rw [List.flatMap_cons, List.flatMap_cons, tagsOf_append,
            tagsOf_append, hf a a' hhead, ih htail]

theorem isEmpty_eq_of_length_eq {α : Type} {values values' : List α}
    (h : values.length = values'.length) :
    values.isEmpty = values'.isEmpty := by
  rw [Bool.eq_iff_iff, List.isEmpty_iff_length_eq_zero,
    List.isEmpty_iff_length_eq_zero, h]

theorem tagsOf_flatMap_length {α : Type} {f : α → List Segment}
    (hf : ∀ a a', tagsOf (f a) = tagsOf (f a')) {values values' : List α}
    (h : values.length = values'.length) :
    tagsOf (values.flatMap f) = tagsOf (values'.flatMap f) := by
  refine tagsOf_flatMap_congr (k := fun _ => ()) (fun a a' _ => hf a a') ?_
  rw [List.map_const', List.map_const', h]

/-- A figure, or a note that there is none, has no tags. -/
theorem tagsOf_note {α : Type} (value : Option α) {shown : α → List Segment}
    {absent : List Segment} (hshown : ∀ a, tagsOf (shown a) = [])
    (habsent : tagsOf absent = []) :
    tagsOf ((value.map shown).getD absent) = [] := by
  cases value with
  | none => exact habsent
  | some a => exact hshown a

/-- What decides which tags a page has.  There is no text among it, and no key
of a map. -/
structure Skeleton where
  uncalibrated : Bool
  state : ResultState
  /-- For each category, whether it names no modules. -/
  categories : List Bool
  facets : ℕ
  /-- Whether the run declined, and for how many metrics there are figures. -/
  sustained : Option (Bool × ℕ)
  diagnosed : Bool
  stopped : Bool
  guards : ℕ
  weakLinkApplied : Bool
  reasons : ℕ
  hasNoGaps : Bool
  /-- For each module, how many metrics and warnings there are. -/
  modules : List (ℕ × ℕ)
  signed : Bool

section Skeleton

variable {F : Type} [F64 F]

def skeleton (bundle : Bundle F) : Skeleton where
  uncalibrated := bundle.scores.uncalibrated
  state := bundle.verdict.state
  categories := bundle.scores.categories.map (·.modules.isEmpty)
  facets := bundle.scores.facets.toList.length
  sustained := bundle.scores.sustained.map fun sustained =>
    (sustained.declined, sustained.byMetric.toList.length)
  diagnosed := bundle.sustainedDiagnosis.isSome
  stopped := bundle.run.stoppedBecause.isSome
  guards := bundle.run.guardsNotEnforced.length
  weakLinkApplied := bundle.scores.weakLinkApplied
  reasons := bundle.verdict.reasons.length
  hasNoGaps := bundle.environment.gaps.isEmpty
  modules := bundle.modules.map fun result =>
    (result.metrics.length, result.warnings.length)
  signed := bundle.signature.isSome

theorem tagsOf_header (formats : Formats) (b b' : Bundle F) :
    tagsOf (header formats b) = tagsOf (header formats b') := by
  simp [header]

theorem length_worst (sustained : SustainedOutcome F) :
    (worst sustained).length = sustained.byMetric.toList.length :=
  List.length_mergeSort _

theorem tagsOf_guardsBanner {b b' : Bundle F}
    (h : b.run.guardsNotEnforced.length = b'.run.guardsNotEnforced.length) :
    tagsOf (guardsBanner b) = tagsOf (guardsBanner b') := by
  have hitems : tagsOf (b.run.guardsNotEnforced.flatMap item) =
      tagsOf (b'.run.guardsNotEnforced.flatMap item) :=
    tagsOf_flatMap_length (fun _ _ => by simp [item]) h
  have hempty : b.run.guardsNotEnforced.isEmpty =
      b'.run.guardsNotEnforced.isEmpty :=
    isEmpty_eq_of_length_eq h
  rw [guardsBanner, guardsBanner, hempty]
  split
  · rfl
  · simp only [tagsOf_append, hitems]

theorem tagsOf_verdictSection (formats : Formats) {b b' : Bundle F}
    (hstate : b.verdict.state = b'.verdict.state)
    (hreasons : b.verdict.reasons.length = b'.verdict.reasons.length) :
    tagsOf (verdictSection formats b) = tagsOf (verdictSection formats b') := by
  have hitems : tagsOf (b.verdict.reasons.flatMap fun reason =>
      item (formats.debugReason reason)) =
        tagsOf (b'.verdict.reasons.flatMap fun reason =>
          item (formats.debugReason reason)) :=
    tagsOf_flatMap_length (fun _ _ => by simp [item]) hreasons
  have hempty : b.verdict.reasons.isEmpty = b'.verdict.reasons.isEmpty :=
    isEmpty_eq_of_length_eq hreasons
  simp only [verdictSection, stateMarkup, tagsOf_append, tagsOf_classed,
    tagsOf_plain, tagsOf_literal, tagsOf_escaped, tagsOf_nil, hitems, hempty,
    hstate]

theorem tagsOf_gapList (gaps : List Gap) : tagsOf (gapList gaps) = [] := by
  induction gaps with
  | nil => rfl
  | cons gap rest ih =>
      cases rest with
      | nil => simp [gapList]
      | cons next rest =>
          have hsplit : gapList (gap :: next :: rest) =
              .escaped gap.field :: literal ", " :: gapList (next :: rest) :=
            rfl
          rw [hsplit]
          simp [ih, Html.tags_eq_nil]

theorem tagsOf_provenanceSection {b b' : Bundle F}
    (h : b.signature.isSome = b'.signature.isSome) :
    tagsOf (provenanceSection b) = tagsOf (provenanceSection b') := by
  have hnote : tagsOf (signatureNote b.signature) =
      tagsOf (signatureNote b'.signature) := by
    cases hb : b.signature <;> cases hb' : b'.signature <;>
      simp_all [signatureNote]
  simp only [provenanceSection, tagsOf_append, tagsOf_literal, tagsOf_escaped,
    tagsOf_count, tagsOf_nil, hnote]

variable [F64.Display F]

theorem tagsOf_scoreSummary {b b' : Bundle F}
    (hstate : b.verdict.state = b'.verdict.state) :
    tagsOf (scoreSummary b) = tagsOf (scoreSummary b') := by
  have hnote : ∀ bundle : Bundle F, tagsOf (totalNote bundle) = [] := by
    intro bundle
    rw [totalNote]
    split
    · simp only [tagsOf_literal, tagsOf_nil, List.append_nil]
      exact Html.tags_eq_nil (by decide)
    · simp only [tagsOf_literal, tagsOf_count, tagsOf_nil, List.append_nil]
      rw [Html.tags_eq_nil (by decide), Html.tags_eq_nil (by decide)]
      rfl
  simp only [scoreSummary, stateMarkup, tagsOf_append, tagsOf_classed,
    tagsOf_plain, tagsOf_literal, tagsOf_nil, hnote, hstate]

theorem tagsOf_categoryCard {c c' : CategoryOutcome F}
    (h : c.modules.isEmpty = c'.modules.isEmpty) :
    tagsOf (categoryCard c) = tagsOf (categoryCard c') := by
  have hbasket : tagsOf (basket c) = tagsOf (basket c') := by
    rw [basket, basket, h]
    split <;> simp
  simp only [categoryCard, tagsOf_append, tagsOf_literal, tagsOf_escaped,
    tagsOf_plain, tagsOf_count, tagsOf_percent, hbasket]

theorem tagsOf_facetCard (facet facet' : String × F) :
    tagsOf (facetCard facet) = tagsOf (facetCard facet') := by
  simp [facetCard]

theorem tagsOf_stabilityCard (b b' : Bundle F) :
    tagsOf (stabilityCard b) = tagsOf (stabilityCard b') := by
  simp only [stabilityCard, tagsOf_append, tagsOf_literal, tagsOf_plain,
    tagsOf_nil]
  rw [tagsOf_note, tagsOf_note]
  all_goals simp [Html.tags_eq_nil]

theorem tagsOf_sustainedCard (sustained sustained' : SustainedOutcome F) :
    tagsOf (sustainedCard sustained) = tagsOf (sustainedCard sustained') := by
  simp [sustainedCard]

theorem tagsOf_sustainedSection {sustained sustained' : SustainedOutcome F}
    (diagnosis diagnosis' : SustainedDiagnosis F)
    (hdeclined : sustained.declined = sustained'.declined)
    (hmetrics : sustained.byMetric.toList.length =
      sustained'.byMetric.toList.length) :
    tagsOf (sustainedSection sustained diagnosis) =
      tagsOf (sustainedSection sustained' diagnosis') := by
  have hrows : tagsOf (((worst sustained).take 8).flatMap metricRow) =
      tagsOf (((worst sustained').take 8).flatMap metricRow) := by
    refine tagsOf_flatMap_length (fun a a' => by simp [metricRow]) ?_
    rw [List.length_take, List.length_take, length_worst, length_worst,
      hmetrics]
  simp only [sustainedSection, tagsOf_append, tagsOf_classed, tagsOf_escaped,
    tagsOf_literal, tagsOf_percent, tagsOf_count, tagsOf_plain, tagsOf_nil,
    hrows, hdeclined]
  -- The clock and the temperature, of either diagnosis.
  rw [tagsOf_note, tagsOf_note, tagsOf_note, tagsOf_note]
  all_goals simp [Html.tags_eq_nil]

theorem tagsOf_weakLinkBanner {b b' : Bundle F}
    (h : b.scores.weakLinkApplied = b'.scores.weakLinkApplied) :
    tagsOf (weakLinkBanner b) = tagsOf (weakLinkBanner b') := by
  rw [weakLinkBanner, weakLinkBanner, h]
  split
  · simp only [tagsOf_append, tagsOf_literal, tagsOf_plain, tagsOf_nil]
    rw [tagsOf_note, tagsOf_note]
    all_goals simp [Html.tags_eq_nil]
  · rfl

theorem tagsOf_environmentSection {b b' : Bundle F}
    (h : b.environment.gaps.isEmpty = b'.environment.gaps.isEmpty) :
    tagsOf (environmentSection b) = tagsOf (environmentSection b') := by
  have hrows : tagsOf ((environmentRows b).flatMap environmentRow) =
      tagsOf ((environmentRows b').flatMap environmentRow) :=
    tagsOf_flatMap_length (fun _ _ => by simp [environmentRow]) rfl
  simp only [environmentSection, tagsOf_append, tagsOf_literal, tagsOf_nil,
    hrows, h]
  split
  · rfl
  · simp only [tagsOf_append, tagsOf_gapList]

theorem tagsOf_measurementRow (metric metric' : Metric F) :
    tagsOf (measurementRow metric) = tagsOf (measurementRow metric') := by
  simp only [measurementRow, tagsOf_append, tagsOf_literal, tagsOf_escaped,
    tagsOf_plain, tagsOf_count, tagsOf_nil]
  -- The variation and the interval, of either metric.
  rw [tagsOf_note, tagsOf_note, tagsOf_note, tagsOf_note]
  all_goals simp [Html.tags_eq_nil]

theorem tagsOf_moduleSection {result result' : ModuleResult F}
    (h : (result.metrics.length, result.warnings.length) =
      (result'.metrics.length, result'.warnings.length)) :
    tagsOf (moduleSection result) = tagsOf (moduleSection result') := by
  obtain ⟨hlength, hwarnings⟩ := Prod.mk.inj h
  have hmetrics := tagsOf_flatMap_length tagsOf_measurementRow hlength
  have hitems : tagsOf (result.warnings.flatMap warningItem) =
      tagsOf (result'.warnings.flatMap warningItem) :=
    tagsOf_flatMap_length (fun _ _ => by simp [warningItem]) hwarnings
  have hempty : result.warnings.isEmpty = result'.warnings.isEmpty :=
    isEmpty_eq_of_length_eq hwarnings
  simp only [moduleSection, tagsOf_append, tagsOf_literal, tagsOf_escaped,
    tagsOf_plain, tagsOf_nil, hmetrics, hempty]
  split
  · rfl
  · simp only [tagsOf_append, hitems]

theorem tagsOf_measurementsSection {b b' : Bundle F}
    (h : b.modules.map (fun result =>
        (result.metrics.length, result.warnings.length)) =
      b'.modules.map fun result =>
        (result.metrics.length, result.warnings.length)) :
    tagsOf (measurementsSection b) = tagsOf (measurementsSection b') := by
  have hmodules := tagsOf_flatMap_congr
    (fun a a' => tagsOf_moduleSection (F := F)) h
  have hempty : b.modules.isEmpty = b'.modules.isEmpty := by
    have hlength := congrArg List.length h
    rw [List.length_map, List.length_map] at hlength
    exact isEmpty_eq_of_length_eq hlength
  simp only [measurementsSection, tagsOf_append, hmodules, hempty]

theorem tagsOf_telemetrySection (t t' : TelemetrySummary F) :
    tagsOf (telemetrySection t) = tagsOf (telemetrySection t') := by
  simp only [telemetrySection, tagsOf_append, tagsOf_literal, tagsOf_plain,
    tagsOf_count, tagsOf_nil]
  -- The drift and the temperature, of either telemetry.
  rw [tagsOf_note, tagsOf_note, tagsOf_note, tagsOf_note]
  all_goals simp [Html.tags_eq_nil]

/-- The tags of a page are decided by the skeleton of the bundle. -/
theorem tagsOf_template (formats : Formats) {b b' : Bundle F}
    (h : skeleton b = skeleton b') :
    tagsOf (template formats b) = tagsOf (template formats b') := by
  have hstate : b.verdict.state = b'.verdict.state :=
    congrArg Skeleton.state h
  have hbanner : calibrationBanner b = calibrationBanner b' := by
    have huncalibrated : b.scores.uncalibrated = b'.scores.uncalibrated :=
      congrArg Skeleton.uncalibrated h
    rw [calibrationBanner, calibrationBanner, huncalibrated]
  have hcategories : tagsOf (b.scores.categories.flatMap categoryCard) =
      tagsOf (b'.scores.categories.flatMap categoryCard) :=
    tagsOf_flatMap_congr (fun a a' => tagsOf_categoryCard)
      (congrArg Skeleton.categories h)
  have hfacets : tagsOf (b.scores.facets.toList.flatMap facetCard) =
      tagsOf (b'.scores.facets.toList.flatMap facetCard) :=
    tagsOf_flatMap_length tagsOf_facetCard (congrArg Skeleton.facets h)
  have hsustained : (b.scores.sustained.map fun sustained =>
      (sustained.declined, sustained.byMetric.toList.length)) =
        b'.scores.sustained.map fun sustained =>
          (sustained.declined, sustained.byMetric.toList.length) :=
    congrArg Skeleton.sustained h
  have hdiagnosed : b.sustainedDiagnosis.isSome =
      b'.sustainedDiagnosis.isSome :=
    congrArg Skeleton.diagnosed h
  have hstopped : b.run.stoppedBecause.isSome = b'.run.stoppedBecause.isSome :=
    congrArg Skeleton.stopped h
  have hguards := tagsOf_guardsBanner (congrArg Skeleton.guards h)
  have hcap := tagsOf_weakLinkBanner (congrArg Skeleton.weakLinkApplied h)
  have hverdict := tagsOf_verdictSection formats hstate
    (congrArg Skeleton.reasons h)
  have henvironment := tagsOf_environmentSection
    (congrArg Skeleton.hasNoGaps h)
  have hmeasurements := tagsOf_measurementsSection
    (congrArg Skeleton.modules h)
  have hprovenance := tagsOf_provenanceSection (congrArg Skeleton.signed h)
  have hcard : tagsOf ((b.scores.sustained.map sustainedCard).getD []) =
      tagsOf ((b'.scores.sustained.map sustainedCard).getD []) := by
    cases hb : b.scores.sustained with
    | none =>
        rw [hb, Option.map_none] at hsustained
        rw [Option.map_eq_none_iff.mp hsustained.symm]
    | some sustained =>
        rw [hb, Option.map_some] at hsustained
        obtain ⟨sustained', hb', -⟩ := Option.map_eq_some_iff.mp hsustained.symm
        rw [hb']
        exact tagsOf_sustainedCard sustained sustained'
  have hsection : tagsOf ((b.scores.sustained.bind fun sustained =>
      b.sustainedDiagnosis.map (sustainedSection sustained)).getD []) =
        tagsOf ((b'.scores.sustained.bind fun sustained =>
          b'.sustainedDiagnosis.map (sustainedSection sustained)).getD []) := by
    cases hb : b.scores.sustained with
    | none =>
        rw [hb, Option.map_none] at hsustained
        rw [Option.map_eq_none_iff.mp hsustained.symm]
        rfl
    | some sustained =>
        rw [hb, Option.map_some] at hsustained
        obtain ⟨sustained', hb', hfigures⟩ :=
          Option.map_eq_some_iff.mp hsustained.symm
        obtain ⟨hdeclined, hmetrics⟩ := Prod.mk.inj hfigures
        rw [hb']
        cases hd : b.sustainedDiagnosis with
        | none =>
            rw [hd] at hdiagnosed
            rw [Option.isSome_eq_false_iff.mp hdiagnosed.symm |>
              Option.isNone_iff_eq_none.mp]
            rfl
        | some diagnosis =>
            rw [hd] at hdiagnosed
            obtain ⟨diagnosis', hd'⟩ :=
              Option.isSome_iff_exists.mp hdiagnosed.symm
            rw [hd']
            exact tagsOf_sustainedSection diagnosis diagnosis' hdeclined.symm
              hmetrics.symm
  have hstop : tagsOf ((b.run.stoppedBecause.map stoppedBanner).getD []) =
      tagsOf ((b'.run.stoppedBecause.map stoppedBanner).getD []) := by
    cases hb : b.run.stoppedBecause <;> cases hb' : b'.run.stoppedBecause <;>
      simp_all [stoppedBanner]
  simp only [template, tagsOf_append, tagsOf_header formats b b',
    hbanner, tagsOf_scoreSummary hstate, hcategories, hfacets,
    tagsOf_stabilityCard b b', hcard, hsection, hstop, hguards, hcap, hverdict,
    henvironment, hmeasurements,
    tagsOf_telemetrySection b.telemetry b'.telemetry, hprovenance]

end Skeleton

/-- The texts of a bundle cannot reach the markup of its report.  They are read
from the page as they are, and the tags and attributes of the page are those of
every bundle of the same skeleton. -/
theorem render_isSafe (formats : Formats) (bundle : Bundle Float) :
    Html.items (render formats bundle).toList =
      (template formats bundle).flatMap Segment.items ∧
    ∀ bundle' : Bundle Float, skeleton bundle' = skeleton bundle →
      Html.tags (render formats bundle').toList =
        Html.tags (render formats bundle).toList := by
  have hsafe := allSafe_template showsPlain_float formats
  refine ⟨(hsafe bundle).items_eq, ?_⟩
  intro bundle' h
  rw [render, render, (hsafe bundle').tags_eq, (hsafe bundle).tags_eq]
  exact tagsOf_template formats h

/-- A bundle whose kernel has a name. -/
def withKernel (bundle : Bundle Float) (name : String) : Bundle Float :=
  { bundle with
    environment := { bundle.environment with
      platform := { bundle.environment.platform with
        kernelRelease := some name } } }

/-- A script in the name of a kernel. -/
theorem render_isSafe_script :
    let formats : Formats := ⟨fun _ => "Interrupted", fun _ => "1970"⟩
    Html.items (render formats
      (withKernel StandIns.unsigned "</table><script>")).toList =
        (template formats
          (withKernel StandIns.unsigned "</table><script>")).flatMap
            Segment.items ∧
      Html.tags (render formats
          (withKernel StandIns.unsigned "linux")).toList =
        Html.tags (render formats
          (withKernel StandIns.unsigned "</table><script>")).toList := by
  intro formats
  obtain ⟨hitems, htags⟩ := render_isSafe formats
    (withKernel StandIns.unsigned "</table><script>")
  exact ⟨hitems, htags (withKernel StandIns.unsigned "linux") rfl⟩

end Darcbench.Page
