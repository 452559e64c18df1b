import PyMotor.Metrics.Lemmas.Format

/-!
# Reading back what was written
-/

namespace PyMotor

open Lib Lib.Text

variable {valueStr : Float → String} {m : SingleMetric} {metrics l : List SingleMetric} {lines : List (List Char)}

/-! ## Words that are written -/

theorem newline_not_mem {w : List Char} (h : ∀ c ∈ w, isSpace c = false) : '\n' ∉ w := by
  intro hmem
  exact absurd (h _ hmem) (by decide)

theorem newline_not_mem_intercalate {ws : List (List Char)} (h : ∀ w ∈ ws, IsWord w) : '\n' ∉ [' '].intercalate ws := by
  induction ws with
  | nil => exact List.not_mem_nil
  | cons w ws ih =>
      rw [List.forall_mem_cons] at h
      cases ws with
      | nil =>
          rw [List.intercalate_singleton]
          exact newline_not_mem h.1.plain
      | cons w' ws =>
          rw [List.intercalate_cons_cons, List.mem_append, List.mem_append]
          rintro ((hmem | hmem) | hmem)
          · exact newline_not_mem h.1.plain hmem
          · exact absurd hmem (by decide)
          · exact ih h.2 hmem

theorem isWord_help : IsWord "HELP".toList := ⟨by simp, by simp [isSpace]⟩

theorem isWord_type : IsWord "TYPE".toList := ⟨by simp, by simp [isSpace]⟩

theorem isWord_sharp : IsWord ['#'] := ⟨by simp, by simp [isSpace]⟩

theorem MetricType.isWord_value {type : MetricType} (h : type ≠ .none) : IsWord type.value.toList := by
  cases type with
  | none => exact absurd rfl h
  | gauge => exact ⟨by simp [value], by simp [value, isSpace]⟩
  | counter => exact ⟨by simp [value], by simp [value, isSpace]⟩
  | histogram => exact ⟨by simp [value], by simp [value, isSpace]⟩
  | summary => exact ⟨by simp [value], by simp [value, isSpace]⟩

theorem MetricType.fromString_value {type : MetricType} (h : type ≠ .none) : fromString type.value.toList = some type := by
  cases type with
  | none => exact absurd rfl h
  | gauge => decide
  | counter => decide
  | histogram => decide
  | summary => decide

/-! ## Lines that are written -/

theorem SingleMetric.Writable.helpWords (h : m.Writable valueStr) :
    ∃ desc descs, (∀ word ∈ desc :: descs, IsWord word) ∧
      ("# HELP " ++ m.name ++ " " ++ m.help).toList =
        [' '].intercalate (['#'] :: "HELP".toList :: m.name.toList :: desc :: descs) ∧
      m.help = String.intercalate " " ((desc :: descs).map String.ofList) := by
  obtain ⟨words, hne, hwords, hhelp⟩ := h.help
  obtain ⟨desc, descs, rfl⟩ := List.exists_cons_of_ne_nil hne
  refine ⟨desc.toList, descs.map String.toList, ?_, ?_, ?_⟩
  · rw [← List.map_cons (f := String.toList), List.forall_mem_map]
    exact hwords
  · simp [hhelp, String.toList_intercalate, List.intercalate_cons_cons]
  · simp [hhelp, List.map_map, Function.comp_def]

theorem SingleMetric.typeWords (m : SingleMetric) : ("# TYPE " ++ m.name ++ " " ++ m.type.value).toList =
    [' '].intercalate [['#'], "TYPE".toList, m.name.toList, m.type.value.toList] := by
  simp [List.intercalate_cons_cons]

theorem SingleMetric.Writable.parseMetricHelp (h : m.Writable valueStr) :
    parseMetricHelp {} ("# HELP " ++ m.name ++ " " ++ m.help).toList = some { name := m.name, help := m.help } := by
  obtain ⟨desc, descs, hwords, hline, hhelp⟩ := h.helpWords
  have hall : ∀ word ∈ ['#'] :: "HELP".toList :: m.name.toList :: desc :: descs, IsWord word := by
    simp only [List.forall_mem_cons] at hwords ⊢
    exact ⟨isWord_sharp, isWord_help, h.name, hwords⟩
  rw [PyMotor.parseMetricHelp, hline, words_intercalate hall]
  simp [hhelp]

theorem SingleMetric.Writable.parseMetricType (h : m.Writable valueStr) (m' : SingleMetric) :
    parseMetricType m' ("# TYPE " ++ m.name ++ " " ++ m.type.value).toList = some { m' with type := m.type } := by
  have hall : ∀ word ∈ [['#'], "TYPE".toList, m.name.toList, m.type.value.toList], IsWord word := by
    simp only [List.forall_mem_cons]
    exact ⟨isWord_sharp, isWord_type, h.name, MetricType.isWord_value h.type, fun _ h => by cases h⟩
  rw [PyMotor.parseMetricType, m.typeWords, words_intercalate hall]
  simp [MetricType.fromString_value h.type]

/-! ## Samples that are written -/

theorem engineMatch_eq_some {s : List Char} {n : Nat} (h : engineMatch s = some n) : ∃ digits : List Char, digits ≠ [] ∧
    (∀ d ∈ digits, isDecimal d) ∧ ("engine=\"".toList ++ digits ++ "\",".toList) <+: s := by
  rw [engineMatch] at h
  split at h
  · rename_i hstart
    obtain ⟨before, rfl⟩ := List.isPrefixOf_iff_prefix.mp hstart
    have hdrop : ("engine=\"".toList ++ before).drop 8 = before := rfl
    simp only [hdrop, ← List.drop_drop] at h
    split at h
    · rename_i hdigits
      rw [Bool.and_eq_true] at hdigits
      obtain ⟨after, hafter⟩ := List.isPrefixOf_iff_prefix.mp hdigits.2
      refine ⟨before.takeWhile isDecimal, by simpa using hdigits.1, fun d hd => List.mem_takeWhile_imp hd, after, ?_⟩
      rw [List.append_assoc, List.append_assoc, hafter, List.prefix_iff_eq_append.mp (List.takeWhile_prefix _)]
    · cases h
  · cases h

theorem removeEngine_eq_self {label : List Char} (h : ¬ EngineLabel label) : removeEngine 0 label = label := by
  induction label with
  | nil => rfl
  | cons c label ih =>
      have hnone : engineMatch (c :: label) = none := by
        rw [Option.eq_none_iff_forall_ne_some]
        intro n hn
        obtain ⟨digits, hne, hall, hstart⟩ := engineMatch_eq_some hn
        exact h ⟨digits, hne, hall, hstart.isInfix⟩
      have hrest : ¬ EngineLabel label := by
        rintro ⟨digits, hne, hall, hinfix⟩
        exact h ⟨digits, hne, hall, hinfix.trans (List.suffix_cons c label).isInfix⟩
      rw [removeEngine, hnone, ih hrest]

section Sample

variable {sample : String × Float}

theorem toList_sampleLine : (sample.1 ++ " " ++ valueStr sample.2).toList =
    sample.1.toList ++ ' ' :: (valueStr sample.2).toList := by
  simp

theorem parseMetricBodyBlock_written (hlabel : PlainLabel sample.1)
    (hplain : (∀ c ∈ sample.1.toList, isSpace c = false) ∧ ¬ EngineLabel sample.1.toList)
    (hvalue : Printed valueStr sample.2) (m : SingleMetric) :
    parseMetricBodyBlock m (sample.1 ++ " " ++ valueStr sample.2).toList =
      some { m with samples := m.samples ++ [sample] } := by
  obtain ⟨c, hc, -⟩ := hlabel
  have hword : IsWord sample.1.toList := by
    refine ⟨fun hnil => ?_, hplain.1⟩
    rw [hnil] at hc
    cases hc
  rw [parseMetricBodyBlock, toList_sampleLine, hword.words_append rfl, hvalue.word.words_eq]
  simp only [hvalue.float, if_neg hvalue.nonneg, removeEngine_eq_self hplain.2, String.ofList_toList]

theorem parse_not_plain (hlabel : ¬ PlainLabel sample.1)
    (hplain : ∀ c ∈ sample.1.toList, isSpace c = false) (hvalue : Printed valueStr sample.2)
    (m : SingleMetric) (metrics : List SingleMetric) (lines : List (List Char)) :
    parseMetricLines (.body m) metrics ((sample.1 ++ " " ++ valueStr sample.2).toList :: lines) = some [] := by
  rw [toList_sampleLine]
  cases hchars : sample.1.toList with
  | nil =>
      have hwords : words ([] ++ ' ' :: (valueStr sample.2).toList) = [(valueStr sample.2).toList] := by
        rw [List.nil_append, words_space rfl, hvalue.word.words_eq]
      refine parse_other (by simp) ?_ ?_
      · rintro ⟨hhead, -⟩
        cases hhead
      · rintro ⟨-, hsome⟩
        rw [parseMetricBodyBlock, hwords] at hsome
        cases hsome
  | cons c label =>
      have hc : c = '#' := by
        by_contra hne
        exact hlabel ⟨c, by rw [hchars]; rfl, hne⟩
      rw [hchars] at hplain
      have hword : IsWord (c :: label) := ⟨List.cons_ne_nil _ _, hplain⟩
      refine parse_other (by simp) ?_ ?_
      · rintro ⟨-, hsome⟩
        obtain ⟨name, desc, descs, hwords⟩ := isSome_parseMetricHelp_iff.mp hsome
        rw [hword.words_append rfl, hvalue.word.words_eq] at hwords
        exact absurd (congrArg List.length hwords) (by simp)
      · rintro ⟨⟨c', hhead, hne⟩, -⟩
        rw [List.cons_append, List.head?_cons, Option.some.injEq] at hhead
        exact hne (hhead ▸ hc)

end Sample

/-! ## A text that is written -/

def writtenLines (valueStr : Float → String) (l : List SingleMetric) : List (List Char) :=
  (l.flatMap (SingleMetric.lines valueStr)).map String.toList

def SingleMetric.Plain (m : SingleMetric) : Prop := ∀ sample ∈ m.samples, PlainLabel sample.1

theorem parse_samples {samples : List (String × Float)}
    (hlabels : ∀ sample ∈ samples, (∀ c ∈ sample.1.toList, isSpace c = false) ∧ ¬ EngineLabel sample.1.toList)
    (hvalues : ∀ sample ∈ samples, Printed valueStr sample.2) (m : SingleMetric) (metrics : List SingleMetric)
    (lines : List (List Char)) :
    ((∀ sample ∈ samples, PlainLabel sample.1) →
      parseMetricLines (.body m) metrics
        (samples.map (fun sample => (sample.1 ++ " " ++ valueStr sample.2).toList) ++ lines) =
        parseMetricLines (.body { m with samples := m.samples ++ samples }) metrics lines) ∧
    ((¬ ∀ sample ∈ samples, PlainLabel sample.1) →
      parseMetricLines (.body m) metrics
        (samples.map (fun sample => (sample.1 ++ " " ++ valueStr sample.2).toList) ++ lines) = some []) := by
  induction samples generalizing m with
  | nil => exact ⟨fun _ => by rw [List.append_nil]; rfl, fun h => absurd (fun _ hmem => by cases hmem) h⟩
  | cons sample samples ih =>
      rw [List.forall_mem_cons] at hlabels hvalues
      rw [List.map_cons, List.cons_append, List.forall_mem_cons]
      by_cases hlabel : PlainLabel sample.1
      · have hbody := parseMetricBodyBlock_written hlabel hlabels.1 hvalues.1
        have hstep : parseMetricLines (.body m) metrics ((sample.1 ++ " " ++ valueStr sample.2).toList ::
            (samples.map (fun sample => (sample.1 ++ " " ++ valueStr sample.2).toList) ++ lines)) =
            parseMetricLines (.body { m with samples := m.samples ++ [sample] }) metrics
              (samples.map (fun sample => (sample.1 ++ " " ++ valueStr sample.2).toList) ++ lines) := by
          obtain ⟨c, hc, hne⟩ := hlabel
          have hhead : (sample.1 ++ " " ++ valueStr sample.2).toList.head? = some c := by
            rw [toList_sampleLine, List.head?_append, hc]
            rfl
          simp only [parseMetricLines, parseMetricLine, hhead, if_neg hne, hbody m]
        obtain ⟨hgood, hbad⟩ := ih hlabels.2 hvalues.2 { m with samples := m.samples ++ [sample] }
        rw [hstep]
        refine ⟨fun h => ?_, fun h => hbad fun hrest => h ⟨hlabel, hrest⟩⟩
        rw [hgood h.2, List.append_assoc]
        rfl
      · rw [parse_not_plain hlabel hlabels.1.1 hvalues.1]
        exact ⟨fun h => absurd h.1 hlabel, fun _ => rfl⟩

theorem writtenLines_cons (valueStr : Float → String) (m : SingleMetric) (l : List SingleMetric) :
    writtenLines valueStr (m :: l) = ("# HELP " ++ m.name ++ " " ++ m.help).toList ::
      ("# TYPE " ++ m.name ++ " " ++ m.type.value).toList ::
        (m.samples.map (fun sample => (sample.1 ++ " " ++ valueStr sample.2).toList) ++ writtenLines valueStr l) := by
  simp [writtenLines, SingleMetric.lines, Function.comp_def]

/-- A metric is read after its HELP line. -/
theorem SingleMetric.Writable.parse_lines (h : m.Writable valueStr) (metrics : List SingleMetric)
    (lines : List (List Char)) :
    (m.Plain → parseMetricLines (.type { name := m.name, help := m.help }) metrics
      (("# TYPE " ++ m.name ++ " " ++ m.type.value).toList ::
        (m.samples.map (fun sample => (sample.1 ++ " " ++ valueStr sample.2).toList) ++ lines)) =
      parseMetricLines (.body m) metrics lines) ∧
    (¬ m.Plain → parseMetricLines (.type { name := m.name, help := m.help }) metrics
      (("# TYPE " ++ m.name ++ " " ++ m.type.value).toList ::
        (m.samples.map (fun sample => (sample.1 ++ " " ++ valueStr sample.2).toList) ++ lines)) = some []) := by
  have htype := h.parseMetricType { name := m.name, help := m.help }
  obtain ⟨hgood, hbad⟩ := parse_samples h.labels h.values { name := m.name, help := m.help, type := m.type } metrics lines
  rw [parseMetricLines, parseMetricLine, htype]
  exact ⟨hgood, hbad⟩

theorem parse_written (h : ∀ m ∈ l, m.Writable valueStr) (m : SingleMetric) (metrics : List SingleMetric) :
    ((∀ m ∈ l, m.Plain) → parseMetricLines (.body m) metrics (writtenLines valueStr l) = some (metrics ++ m :: l)) ∧
    ((¬ ∀ m ∈ l, m.Plain) → parseMetricLines (.body m) metrics (writtenLines valueStr l) = some []) := by
  induction l generalizing m metrics with
  | nil => exact ⟨fun _ => rfl, fun h => absurd (fun _ hmem => by cases hmem) h⟩
  | cons m' l ih =>
      rw [List.forall_mem_cons] at h
      rw [List.forall_mem_cons, writtenLines_cons]
      obtain ⟨hgood, hbad⟩ := h.1.parse_lines (metrics ++ [m]) (writtenLines valueStr l)
      obtain ⟨hgoods, hbads⟩ := ih h.2 m' (metrics ++ [m])
      have hhead : ("# HELP " ++ m'.name ++ " " ++ m'.help).toList.head? = some '#' := by simp
      rw [parseMetricLines, parseMetricLine, hhead]
      simp only [if_true, h.1.parseMetricHelp]
      by_cases hplain : m'.Plain
      · rw [hgood hplain]
        refine ⟨fun hall => ?_, fun hnot => hbads fun hrest => hnot ⟨hplain, hrest⟩⟩
        rw [hgoods hall.2, List.append_assoc]
        rfl
      · exact ⟨fun hall => absurd hall.1 hplain, fun _ => hbad hplain⟩

theorem SingleMetric.Writable.line (h : m.Writable valueStr) {line : String} (hline : line ∈ m.lines valueStr) :
    '\n' ∉ line.toList ∧ EndsPlain line.toList := by
  rw [SingleMetric.lines, List.mem_append, List.mem_cons, List.mem_singleton] at hline
  rcases hline with (rfl | rfl) | hmem
  · obtain ⟨desc, descs, hwords, hline, -⟩ := h.helpWords
    have hall : ∀ word ∈ ['#'] :: "HELP".toList :: m.name.toList :: desc :: descs, IsWord word := by
      simp only [List.forall_mem_cons] at hwords ⊢
      exact ⟨isWord_sharp, isWord_help, h.name, hwords⟩
    rw [hline]
    refine ⟨newline_not_mem_intercalate hall, ?_⟩
    exact endsPlain_intercalate (List.cons_ne_nil _ _) (fun word hword => (hall word hword).endsPlain) _
  · rw [m.typeWords]
    have hall : ∀ word ∈ [['#'], "TYPE".toList, m.name.toList, m.type.value.toList], IsWord word := by
      simp only [List.forall_mem_cons]
      exact ⟨isWord_sharp, isWord_type, h.name, MetricType.isWord_value h.type, fun _ h => by cases h⟩
    refine ⟨newline_not_mem_intercalate hall, ?_⟩
    exact endsPlain_intercalate (List.cons_ne_nil _ _) (fun word hword => (hall word hword).endsPlain) _
  · obtain ⟨sample, hsample, rfl⟩ := List.mem_map.mp hmem
    have hvalue := (h.values sample hsample).word
    rw [toList_sampleLine]
    refine ⟨?_, ?_⟩
    · rw [List.mem_append, List.mem_cons]
      rintro (hmem | hmem | hmem)
      · exact newline_not_mem (h.labels sample hsample).1 hmem
      · exact absurd hmem (by decide)
      · exact newline_not_mem hvalue.plain hmem
    · have hend := hvalue.endsPlain.append (sample.1.toList ++ [' '])
      rwa [List.append_assoc, List.singleton_append] at hend

theorem metricLines_written (hne : l ≠ []) (h : ∀ m ∈ l, m.Writable valueStr) :
    metricLines (getSerializeMetrics valueStr l) = writtenLines valueStr l := by
  have hline : ∀ line ∈ writtenLines valueStr l, '\n' ∉ line ∧ EndsPlain line := by
    intro line hmem
    obtain ⟨text, htext, rfl⟩ := List.mem_map.mp hmem
    obtain ⟨m, hm, hmline⟩ := List.mem_flatMap.mp htext
    exact (h m hm).line hmline
  have htext : (getSerializeMetrics valueStr l).toList = ['\n'].intercalate (writtenLines valueStr l) := by
    rw [getSerializeMetrics, String.toList_intercalate]
    rfl
  obtain ⟨m, l', rfl⟩ := List.exists_cons_of_ne_nil hne
  have hlines : writtenLines valueStr (m :: l') ≠ [] := by
    rw [writtenLines_cons]
    exact List.cons_ne_nil _ _
  rw [metricLines, htext, strip_eq_self]
  · exact List.splitOn_intercalate _ (fun line hmem => (hline line hmem).1) hlines
  · intro c hc
    rw [writtenLines_cons, List.intercalate_cons_cons] at hc
    have hsharp : c = '#' := by simpa using hc.symm
    rw [hsharp]
    rfl
  · exact endsPlain_intercalate hlines (fun line hmem => (hline line hmem).2) _

/-- What is written is read back exactly when no label is empty or a comment. -/
theorem roundTrip_iff (h : ∀ m ∈ l, m.Writable valueStr) :
    parseMetricText (getSerializeMetrics valueStr l) = some l ↔ ∀ m ∈ l, m.Plain := by
  cases l with
  | nil => exact iff_of_true rfl fun m hm => by cases hm
  | cons m l =>
      have hlines := metricLines_written (List.cons_ne_nil m l) h
      rw [List.forall_mem_cons] at h
      rw [metricLines] at hlines
      rw [parseMetricText, hlines, writtenLines_cons, parseMetricLines, parseMetricLine]
      simp only [h.1.parseMetricHelp]
      obtain ⟨hgood, hbad⟩ := h.1.parse_lines [] (writtenLines valueStr l)
      obtain ⟨hgoods, hbads⟩ := parse_written h.2 m []
      rw [List.forall_mem_cons]
      by_cases hplain : m.Plain
      · rw [hgood hplain]
        by_cases hall : ∀ m ∈ l, m.Plain
        · exact iff_of_true (hgoods hall) ⟨hplain, hall⟩
        · rw [hbads hall]
          exact iff_of_false (by simp) fun h => hall h.2
      · rw [hbad hplain]
        exact iff_of_false (by simp) fun h => hplain h.1

/-! ## The text format -/

theorem text_iff (valueStr : Float → String) :
    (∀ l : List SingleMetric, (∀ m ∈ l, m.Writable valueStr) →
      (parseMetricText (getSerializeMetrics valueStr l) = some l ↔ ∀ m ∈ l, m.Plain)) ∧
    ∀ metricsStr, Total metricsStr ↔ (Opens metricsStr → Regular metricsStr) :=
  ⟨fun _ h => roundTrip_iff h, total_iff⟩

def blankText : String := "# HELP requests Requests.\n# TYPE requests counter\n\nrequests 1"

theorem blankText_not_total : ¬ Total blankText := by
  rintro ⟨metrics, hparse, -⟩
  have hnone : parseMetricText blankText = none := by decide
  rw [hnone] at hparse
  cases hparse

def wholeStr (value : Float) : String := toString value.toUInt64 ++ ".0"

def requests : SingleMetric := { name := "requests", help := "All requests.", type := .counter, samples := [("requests", 1.0)] }

theorem requests_roundTrip : parseMetricText (getSerializeMetrics wholeStr [requests]) = some [requests] := by
  have hone : wholeStr 1.0 = "1.0" := by decide +kernel
  refine ((text_iff wholeStr).1 [requests] fun m hm => ?_).mpr fun m hm sample hsample => ?_
  · rw [List.mem_singleton] at hm
    subst hm
    refine ⟨⟨by simp [requests], by simp [requests, isSpace]⟩, ⟨["All", "requests."], by simp, ?_, by decide⟩,
      by decide, ?_, ?_⟩
    · intro word hword
      simp only [List.mem_cons, List.not_mem_nil, or_false] at hword
      rcases hword with rfl | rfl
      · exact ⟨by simp, by simp [isSpace]⟩
      · exact ⟨by simp, by simp [isSpace]⟩
    · intro sample hsample
      rw [requests, List.mem_singleton] at hsample
      subst hsample
      refine ⟨by simp [isSpace], ?_⟩
      rintro ⟨digits, -, -, hinfix⟩
      have hlength := hinfix.length_le
      simp at hlength
      omega
    · intro sample hsample
      rw [requests, List.mem_singleton] at hsample
      subst hsample
      refine ⟨by decide +kernel, ?_, ?_⟩
      · rw [hone]
        exact ⟨by simp, by simp [isSpace]⟩
      · rw [hone]
        decide +kernel
  · rw [List.mem_singleton] at hm
    subst hm
    rw [requests, List.mem_singleton] at hsample
    subst hsample
    exact ⟨'r', by decide, by decide⟩

end PyMotor
