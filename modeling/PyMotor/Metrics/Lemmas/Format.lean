import PyMotor.Metrics.Spec

/-!
# What the reading of a text ends with
-/

namespace PyMotor

open Lib Lib.Text

variable {m : SingleMetric} {metrics : List SingleMetric} {line : List Char} {lines : List (List Char)}

/-! ## One line -/

theorem isSome_parseMetricType (m : SingleMetric) : (parseMetricType m line).isSome = (parseMetricType {} line).isSome := by
  rw [parseMetricType, parseMetricType]
  split
  · split
    · rw [Option.isSome_map, Option.isSome_map]
    · rfl
  · rfl

theorem isSome_parseMetricBodyBlock (m : SingleMetric) :
    (parseMetricBodyBlock m line).isSome = (parseMetricBodyBlock {} line).isSome := by
  rw [parseMetricBodyBlock, parseMetricBodyBlock]
  split
  · split
    · split
      · rfl
      · rfl
    · rfl
  · rfl

theorem parse_type (h : TypeLine line) (m : SingleMetric) (metrics : List SingleMetric) (lines : List (List Char)) :
    ∃ m', parseMetricLines (.type m) metrics (line :: lines) = parseMetricLines (.body m') metrics lines := by
  rw [TypeLine, ← isSome_parseMetricType m] at h
  obtain ⟨m', hm'⟩ := Option.isSome_iff_exists.mp h
  exact ⟨m', by rw [parseMetricLines, parseMetricLine, hm']⟩

theorem parse_not_type (h : ¬ TypeLine line) : parseMetricLines (.type m) metrics (line :: lines) = some [] := by
  rw [TypeLine, ← isSome_parseMetricType m, Option.not_isSome_iff_eq_none] at h
  rw [parseMetricLines, parseMetricLine, h]

theorem parse_body (h : BodyLine line) (m : SingleMetric) (metrics : List SingleMetric) (lines : List (List Char)) :
    ∃ m', parseMetricLines (.body m) metrics (line :: lines) = parseMetricLines (.body m') metrics lines := by
  obtain ⟨⟨c, hc, hne⟩, hsome⟩ := h
  rw [← isSome_parseMetricBodyBlock m] at hsome
  obtain ⟨m', hm'⟩ := Option.isSome_iff_exists.mp hsome
  exact ⟨m', by simp only [parseMetricLines, parseMetricLine, hc, if_neg hne, hm']⟩

theorem parse_help (h : HelpLine line) (m : SingleMetric) (metrics : List SingleMetric) (lines : List (List Char)) :
    ∃ m', parseMetricLines (.body m) metrics (line :: lines) = parseMetricLines (.type m') (metrics ++ [m]) lines := by
  obtain ⟨hc, hsome⟩ := h
  obtain ⟨m', hm'⟩ := Option.isSome_iff_exists.mp hsome
  exact ⟨m', by simp only [parseMetricLines, parseMetricLine, hc, if_true, hm']⟩

theorem parse_other (hne : line ≠ []) (hhelp : ¬ HelpLine line) (hbody : ¬ BodyLine line) :
    parseMetricLines (.body m) metrics (line :: lines) = some [] := by
  obtain ⟨c, line, rfl⟩ := List.exists_cons_of_ne_nil hne
  by_cases hc : c = '#'
  · have hnone : parseMetricHelp {} (c :: line) = none := by
      rw [← Option.not_isSome_iff_eq_none]
      exact fun hsome => hhelp ⟨by rw [hc]; rfl, hsome⟩
    simp only [parseMetricLines, parseMetricLine, List.head?_cons, if_pos hc, hnone]
  · have hnone : parseMetricBodyBlock m (c :: line) = none := by
      rw [← Option.not_isSome_iff_eq_none, isSome_parseMetricBodyBlock]
      exact fun hsome => hbody ⟨⟨c, rfl, hc⟩, hsome⟩
    simp only [parseMetricLines, parseMetricLine, List.head?_cons, if_neg hc, hnone]

theorem HelpLine.not_body (h : HelpLine line) : ¬ BodyLine line := by
  rintro ⟨⟨c, hc, hne⟩, -⟩
  rw [h.1, Option.some.injEq] at hc
  exact hne hc.symm

/-! ## Where the reading stops -/

/-- The lines are read up to a rest of this kind. -/
def StopsAt (final : List (List Char) → Prop) (lines : List (List Char)) : Prop :=
  ∃ rest, final rest ∧ ReadsTo lines rest

abbrev Blank : List (List Char) → Prop := StopsAt fun rest => rest.head? = some []

abbrev Ends : List (List Char) → Prop := StopsAt fun rest => rest = [] ∨ ∃ help, HelpLine help ∧ rest = [help]

def AfterHelp (p : List (List Char) → Prop) (lines : List (List Char)) : Prop :=
  ∃ type lines', lines = type :: lines' ∧ TypeLine type ∧ p lines'

theorem stopsAt_cons_iff {final : List (List Char) → Prop} : StopsAt final (line :: lines) ↔
    final (line :: lines) ∨ (BodyLine line ∧ StopsAt final lines) ∨ (HelpLine line ∧ AfterHelp (StopsAt final) lines) := by
  constructor
  · rintro ⟨rest, hfinal, h⟩
    rcases reads_cons_iff.mp h with rfl | ⟨hline, h⟩ | ⟨type, lines', rfl, ⟨hhelp, htype⟩, h⟩
    · exact .inl hfinal
    · exact .inr (.inl ⟨hline, rest, hfinal, h⟩)
    · exact .inr (.inr ⟨hhelp, type, lines', rfl, htype, rest, hfinal, h⟩)
  · rintro (hfinal | ⟨hline, rest, hfinal, h⟩ | ⟨hhelp, type, lines', rfl, htype, rest, hfinal, h⟩)
    · exact ⟨_, hfinal, .refl _⟩
    · exact ⟨rest, hfinal, .body hline h⟩
    · exact ⟨rest, hfinal, .block ⟨hhelp, htype⟩ h⟩

theorem stopsAt_nil_iff {final : List (List Char) → Prop} : StopsAt final [] ↔ final [] := by
  constructor
  · rintro ⟨rest, hfinal, h⟩
    cases h
    exact hfinal
  · exact fun h => ⟨_, h, .refl _⟩

theorem not_helpLine_nil : ¬ HelpLine [] := by
  rintro ⟨h, -⟩
  cases h

theorem not_bodyLine_nil : ¬ BodyLine [] := by
  rintro ⟨⟨c, h, -⟩, -⟩
  cases h

theorem HelpLine.blank_iff (h : HelpLine line) : Blank (line :: lines) ↔ AfterHelp Blank lines := by
  rw [Blank, stopsAt_cons_iff]
  constructor
  · rintro (hempty | ⟨hbody, -⟩ | ⟨-, hrest⟩)
    · rw [List.head?_cons, Option.some.injEq] at hempty
      exact absurd (hempty ▸ h) not_helpLine_nil
    · exact absurd hbody h.not_body
    · exact hrest
  · exact fun hrest => .inr (.inr ⟨h, hrest⟩)

theorem HelpLine.ends_iff (h : HelpLine line) : Ends (line :: lines) ↔ lines = [] ∨ AfterHelp Ends lines := by
  rw [Ends, stopsAt_cons_iff]
  constructor
  · rintro ((hnil | ⟨help, -, heq⟩) | ⟨hbody, -⟩ | ⟨-, hrest⟩)
    · cases hnil
    · cases heq
      exact .inl rfl
    · exact absurd hbody h.not_body
    · exact .inr hrest
  · rintro (rfl | hrest)
    · exact .inl (.inr ⟨line, h, rfl⟩)
    · exact .inr (.inr ⟨h, hrest⟩)

theorem BodyLine.blank_iff (h : BodyLine line) : Blank (line :: lines) ↔ Blank lines := by
  rw [Blank, stopsAt_cons_iff]
  constructor
  · rintro (hempty | ⟨-, hrest⟩ | ⟨hhelp, -⟩)
    · rw [List.head?_cons, Option.some.injEq] at hempty
      exact absurd (hempty ▸ h) not_bodyLine_nil
    · exact hrest
    · exact absurd h hhelp.not_body
  · exact fun hrest => .inr (.inl ⟨h, hrest⟩)

theorem BodyLine.ends_iff (h : BodyLine line) : Ends (line :: lines) ↔ Ends lines := by
  rw [Ends, stopsAt_cons_iff]
  constructor
  · rintro ((hnil | ⟨help, hhelp, heq⟩) | ⟨-, hrest⟩ | ⟨hhelp, -⟩)
    · cases hnil
    · cases heq
      exact absurd h hhelp.not_body
    · exact hrest
    · exact absurd h hhelp.not_body
  · exact fun hrest => .inr (.inl ⟨h, hrest⟩)

/-! ## What the reading gives -/

/-- When a reading is an exception, and when it gives metrics. -/
structure Outcome (parsed : Option (List SingleMetric)) (raises accepts : Prop) : Prop where
  raised : parsed = none ↔ raises
  accepted : (∃ result, result ≠ [] ∧ parsed = some result) ↔ accepts

theorem outcome_none {raises accepts : Prop} (h : raises) (h' : ¬ accepts) : Outcome none raises accepts :=
  ⟨iff_of_true rfl h, iff_of_false (by simp) h'⟩

theorem outcome_nil {raises accepts : Prop} (h : ¬ raises) (h' : ¬ accepts) : Outcome (some []) raises accepts :=
  ⟨iff_of_false (by simp) h, iff_of_false (by simp) h'⟩

theorem outcome_some {raises accepts : Prop} {result : List SingleMetric} (hne : result ≠ []) (h : ¬ raises) (h' : accepts) :
    Outcome (some result) raises accepts :=
  ⟨iff_of_false (by simp) h, iff_of_true ⟨result, hne, rfl⟩ h'⟩

theorem Outcome.congr {parsed : Option (List SingleMetric)} {raises accepts raises' accepts' : Prop}
    (h : Outcome parsed raises accepts) (hraises : raises' ↔ raises) (haccepts : accepts' ↔ accepts) :
    Outcome parsed raises' accepts' := ⟨h.raised.trans hraises.symm, h.accepted.trans haccepts.symm⟩

theorem outcome_type (h : ∀ type lines', lines = type :: lines' → ∀ m,
      Outcome (parseMetricLines (.body m) metrics lines') (Blank lines') (Ends lines')) (m : SingleMetric) :
    Outcome (parseMetricLines (.type m) metrics lines) (AfterHelp Blank lines) (lines = [] ∨ AfterHelp Ends lines) := by
  cases lines with
  | nil =>
      refine outcome_some (List.append_ne_nil_of_right_ne_nil _ (List.cons_ne_nil _ _)) ?_ (.inl rfl)
      rintro ⟨_, _, hnil, -⟩
      cases hnil
  | cons type lines =>
      have hafter : ∀ p : List (List Char) → Prop, AfterHelp p (type :: lines) ↔ TypeLine type ∧ p lines := by
        intro p
        constructor
        · rintro ⟨_, _, heq, htype, hp⟩
          cases heq
          exact ⟨htype, hp⟩
        · rintro ⟨htype, hp⟩
          exact ⟨type, lines, rfl, htype, hp⟩
      rw [hafter, hafter]
      by_cases htype : TypeLine type
      · obtain ⟨m', hm'⟩ := parse_type htype m metrics lines
        rw [hm']
        exact (h type lines rfl m').congr (by simp [htype]) (by simp [htype])
      · rw [parse_not_type htype]
        exact outcome_nil (by simp [htype]) (by simp [htype])

theorem outcome_body (m : SingleMetric) :
    Outcome (parseMetricLines (.body m) metrics lines) (Blank lines) (Ends lines) := by
  induction hn : lines.length using Nat.strong_induction_on generalizing lines m metrics with
  | _ n ih =>
      subst hn
      cases lines with
      | nil =>
          refine outcome_some (List.append_ne_nil_of_right_ne_nil _ (List.cons_ne_nil _ _)) ?_ ?_
          · rw [Blank, stopsAt_nil_iff]
            simp
          · exact stopsAt_nil_iff.mpr (.inl rfl)
      | cons line lines =>
          by_cases hbody : BodyLine line
          · obtain ⟨m', hm'⟩ := parse_body hbody m metrics lines
            rw [hm']
            exact (ih lines.length (Nat.lt_succ_self _) m' rfl).congr hbody.blank_iff hbody.ends_iff
          by_cases hhelp : HelpLine line
          · obtain ⟨m', hm'⟩ := parse_help hhelp m metrics lines
            rw [hm']
            refine (outcome_type (fun type lines' heq m => ?_) m').congr hhelp.blank_iff hhelp.ends_iff
            subst heq
            exact ih lines'.length (by simp only [List.length_cons]; omega) m rfl
          have hnot : ∀ final : List (List Char) → Prop, ¬ final (line :: lines) → ¬ StopsAt final (line :: lines) := by
            intro final hfinal hstops
            rcases stopsAt_cons_iff.mp hstops with h | ⟨h, -⟩ | ⟨h, -⟩
            · exact hfinal h
            · exact hbody h
            · exact hhelp h
          have hends : ¬ Ends (line :: lines) := by
            refine hnot _ ?_
            rintro (hnil | ⟨help, hline, heq⟩)
            · cases hnil
            · cases heq
              exact hhelp hline
          by_cases hempty : line = []
          · subst hempty
            exact outcome_none ⟨_, rfl, .refl _⟩ hends
          · rw [parse_other hempty hhelp hbody]
            exact outcome_nil (hnot _ (by simpa using hempty)) hends

/-! ## The whole text -/

variable {metricsStr : String} {name : List Char}

theorem isSome_parseMetricHelp_iff : (parseMetricHelp {} line).isSome ↔ ∃ name, Helps name line := by
  rw [parseMetricHelp]
  constructor
  · intro h
    split at h
    · rename_i mark name desc descs hwords
      split at h
      · rename_i hmark
        exact ⟨name, desc, descs, by rw [hwords, hmark]⟩
      · cases h
    · cases h
  · rintro ⟨name, desc, descs, hwords⟩
    rw [hwords]
    simp

theorem HelpLine.helps (h : HelpLine line) : ∃ name, Helps name line := isSome_parseMetricHelp_iff.mp h.2

theorem BodyLine.samples (h : BodyLine line) : Samples line := by
  obtain ⟨-, h⟩ := h
  rw [parseMetricBodyBlock] at h
  split at h
  · rename_i label value hwords
    split at h
    · rename_i hvalue
      exact ⟨label, value, hwords, by rw [hvalue]; rfl⟩
    · cases h
  · cases h

theorem Helps.not_samples (h : Helps name line) : ¬ Samples line := by
  rintro ⟨label, value, hwords, -⟩
  obtain ⟨desc, descs, hwords'⟩ := h
  rw [hwords] at hwords'
  cases hwords'

theorem helpLine_first (hlines : metricLines metricsStr = line :: lines) (h : (parseMetricHelp {} line).isSome) :
    HelpLine line := by
  refine ⟨?_, h⟩
  obtain ⟨name, desc, descs, hwords⟩ := isSome_parseMetricHelp_iff.mp h
  rw [metricLines] at hlines
  cases hstrip : strip metricsStr.toList with
  | nil =>
      rw [hstrip] at hlines
      cases hlines
      cases hwords
  | cons c text =>
      have hc := isSpace_of_strip hstrip
      have hnl : ¬ (c == '\n') = true := by
        rintro hnl
        rw [beq_iff_eq.mp hnl] at hc
        cases hc
      obtain ⟨first, rest, hsplit⟩ := List.exists_cons_of_ne_nil (List.splitOnP_ne_nil (· == '\n') text)
      rw [hstrip, List.splitOn_eq_splitOnP, List.splitOnP_cons_eq_if_modifyHead, if_neg hnl, hsplit] at hlines
      cases hlines
      obtain ⟨w, ws, hplain⟩ := words_plain (s := first) hc
      rw [hplain] at hwords
      cases hwords
      rfl

theorem outcome_parseMetricText (hlines : metricLines metricsStr = line :: lines) (h : HelpLine line) :
    Outcome (parseMetricText metricsStr) (Blank (line :: lines)) (Ends (line :: lines)) := by
  obtain ⟨m, hm⟩ := Option.isSome_iff_exists.mp h.2
  have hparse : parseMetricText metricsStr = parseMetricLines (.type m) [] lines := by
    rw [metricLines] at hlines
    rw [parseMetricText, hlines, parseMetricLines, parseMetricLine, hm]
  rw [hparse]
  exact (outcome_type (fun type lines' _ m => outcome_body m) m).congr h.blank_iff h.ends_iff

theorem parseMetricText_not_opens (h : ¬ Opens metricsStr) : parseMetricText metricsStr = some [] := by
  have hne : metricLines metricsStr ≠ [] := List.splitOn_ne_nil _ _
  obtain ⟨line, lines, hlines⟩ := List.exists_cons_of_ne_nil hne
  have hnone : parseMetricHelp {} line = none := by
    rw [← Option.not_isSome_iff_eq_none]
    exact fun hsome => h ⟨line, lines, hlines, helpLine_first hlines hsome⟩
  rw [metricLines] at hlines
  rw [parseMetricText, hlines, parseMetricLines, parseMetricLine, hnone]

theorem not_documented_of_truncated {help : List Char} (hhelp : HelpLine help) (h : ReadsTo lines [help]) :
    ¬ Reads (fun help type => ∃ name, Helps name help ∧ Types name type) Samples lines [] := by
  generalize hrest : [help] = rest at h
  induction h with
  | refl =>
      subst hrest
      intro h
      rcases reads_cons_iff.mp h with hnil | ⟨hsamples, -⟩ | ⟨_, _, hnil, -⟩
      · cases hnil
      · obtain ⟨name, hname⟩ := hhelp.helps
        exact hname.not_samples hsamples
      · cases hnil
  | body hline _ ih =>
      intro h
      rcases reads_cons_iff.mp h with hnil | ⟨-, h⟩ | ⟨_, _, -, ⟨name, hname, -⟩, -⟩
      · cases hnil
      · exact ih hrest h
      · exact hname.not_samples hline.samples
  | block hhead _ ih =>
      intro h
      rcases reads_cons_iff.mp h with hnil | ⟨hsamples, -⟩ | ⟨_, _, heq, -, h⟩
      · cases hnil
      · obtain ⟨name, hname⟩ := hhead.1.helps
        exact hname.not_samples hsamples
      · cases heq
        exact ih hrest h

theorem total_iff (metricsStr : String) : Total metricsStr ↔ (Opens metricsStr → Regular metricsStr) := by
  by_cases hopens : Opens metricsStr
  · obtain ⟨line, lines, hlines, hline⟩ := id hopens
    have houtcome := outcome_parseMetricText hlines hline
    rw [← hlines] at houtcome
    have hdocumented : Ends (metricLines metricsStr) → Total metricsStr → Documented metricsStr := by
      rintro hends ⟨metrics, hparse, hnil⟩
      obtain ⟨result, hne, hresult⟩ := houtcome.accepted.mpr hends
      rw [hparse, Option.some.injEq] at hresult
      by_contra hnot
      exact hne (hresult ▸ hnil hnot)
    constructor
    · intro htotal _
      refine ⟨fun rest hreads => ?_, fun help hhelp hreads => ?_, fun hreads => ?_⟩
      · obtain ⟨metrics, hparse, -⟩ := htotal
        rw [houtcome.raised.mpr ⟨_, rfl, hreads⟩] at hparse
        cases hparse
      · exact not_documented_of_truncated hhelp hreads
          (hdocumented ⟨_, .inr ⟨help, hhelp, rfl⟩, hreads⟩ htotal).blocks
      · refine Reads.and (fun line hbody _ hblock => ?_) (fun line hsamples _ hblock => ?_) hreads
          (hdocumented ⟨_, .inl rfl, hreads⟩ htotal).blocks
        · obtain ⟨name, hname, -⟩ := hblock
          exact hname.not_samples hbody.samples
        · obtain ⟨name, hname⟩ := hblock.1.helps
          exact hname.not_samples hsamples
    · intro hregular
      obtain ⟨hblank, htruncated, htypes⟩ := hregular hopens
      cases hparse : parseMetricText metricsStr with
      | none =>
          obtain ⟨rest, hrest, hreads⟩ := houtcome.raised.mp hparse
          obtain ⟨rest', rfl⟩ := List.head?_eq_some_iff.mp hrest
          exact absurd hreads (hblank rest')
      | some metrics =>
          refine ⟨metrics, hparse, fun hnot => ?_⟩
          by_contra hne
          obtain ⟨rest, rfl | ⟨help, hhelp, rfl⟩, hreads⟩ := houtcome.accepted.mp ⟨metrics, hne, hparse⟩
          · obtain ⟨name, hname⟩ := hline.helps
            exact hnot ⟨⟨name, line, lines, hlines, hname⟩,
              (htypes hreads).mono (fun _ _ hblock => hblock.2) fun _ hbody => hbody.samples⟩
          · exact htruncated help hhelp hreads
  · exact iff_of_true ⟨[], parseMetricText_not_opens hopens, fun _ => rfl⟩ fun h => absurd h hopens

end PyMotor
