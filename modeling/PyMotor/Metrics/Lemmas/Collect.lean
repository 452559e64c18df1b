import PyMotor.Lib.Lists
import PyMotor.Metrics.Spec

/-!
# What a round collects
-/

namespace PyMotor

open Lib

/-! ## Texts -/

def NonNegative (metrics : List SingleMetric) : Prop := ∀ m ∈ metrics, ∀ sample ∈ m.samples, ¬ sample.2 < 0

theorem parseMetricHelp_samples {m m' : SingleMetric} {line : List Char} (h : parseMetricHelp m line = some m') :
    m'.samples = m.samples := by
  unfold parseMetricHelp at h
  split at h
  · split at h
    · cases h
      rfl
    · cases h
  · cases h

theorem parseMetricType_samples {m m' : SingleMetric} {line : List Char} (h : parseMetricType m line = some m') :
    m'.samples = m.samples := by
  unfold parseMetricType at h
  split at h
  · split at h
    · obtain ⟨type, _, rfl⟩ := Option.map_eq_some_iff.1 h
      rfl
    · cases h
  · cases h

theorem parseMetricBodyBlock_samples {m m' : SingleMetric} {line : List Char}
    (h : parseMetricBodyBlock m line = some m') : ∃ label value, ¬ value < 0 ∧ m'.samples = m.samples ++ [(label, value)] := by
  unfold parseMetricBodyBlock at h
  split at h
  · split at h
    · split at h
      · cases h
      · rename_i hneg
        cases h
        exact ⟨_, _, hneg, rfl⟩
    · cases h
  · cases h

theorem NonNegative.concat {metrics : List SingleMetric} {m : SingleMetric} (h : NonNegative metrics)
    (hm : ∀ sample ∈ m.samples, ¬ sample.2 < 0) : NonNegative (metrics ++ [m]) := by
  intro m' hm'
  rcases List.mem_append.1 hm' with hm' | hm'
  · exact h m' hm'
  · rw [List.mem_singleton.1 hm']
    exact hm

def MetricLine.samples : MetricLine → List (String × Float)
  | .help => []
  | .type m => m.samples
  | .body m => m.samples

theorem MetricLine.finish_nonNegative {metrics : List SingleMetric} {line : MetricLine} (h : NonNegative metrics)
    (hline : ∀ sample ∈ line.samples, ¬ sample.2 < 0) : NonNegative (line.finish metrics) := by
  cases line with
  | help => exact h
  | type m => exact h.concat hline
  | body m => exact h.concat hline

theorem parseMetricLine_nonNegative {line line' : MetricLine} {metrics metrics' : List SingleMetric} {text : List Char}
    (h : parseMetricLine metrics text line = .ok (line', metrics')) (hmetrics : NonNegative metrics)
    (hline : ∀ sample ∈ line.samples, ¬ sample.2 < 0) :
    NonNegative metrics' ∧ ∀ sample ∈ line'.samples, ¬ sample.2 < 0 := by
  -- A help line begins a metric without samples.
  have hhelp : ∀ {m : SingleMetric}, parseMetricHelp {} text = some m →
      ∀ sample ∈ (MetricLine.type m).samples, ¬ sample.2 < 0 := by
    intro m hm sample hs
    have hs' : sample ∈ m.samples := hs
    rw [parseMetricHelp_samples hm] at hs'
    cases hs'
  cases line with
  | help =>
      simp only [parseMetricLine] at h
      split at h
      · rename_i m hm
        cases h
        exact ⟨hmetrics, hhelp hm⟩
      · cases h
  | type m =>
      simp only [parseMetricLine] at h
      split at h
      · rename_i m' hm
        cases h
        refine ⟨hmetrics, fun sample hs => hline sample ?_⟩
        have hs' : sample ∈ m'.samples := hs
        rwa [parseMetricType_samples hm] at hs'
      · cases h
  | body m =>
      simp only [parseMetricLine] at h
      split at h
      · cases h
      · split at h
        · split at h
          · rename_i m' hm
            cases h
            exact ⟨hmetrics.concat hline, hhelp hm⟩
          · cases h
        · split at h
          · rename_i m' hm
            cases h
            obtain ⟨label, value, hvalue, hsamples⟩ := parseMetricBodyBlock_samples hm
            refine ⟨hmetrics, fun sample hs => ?_⟩
            have hs' : sample ∈ m'.samples := hs
            rw [hsamples] at hs'
            rcases List.mem_append.1 hs' with hs' | hs'
            · exact hline sample hs'
            · rw [List.mem_singleton.1 hs']
              exact hvalue
          · cases h

theorem parseMetricLines_nonNegative {lines : List (List Char)} {line : MetricLine} {metrics result : List SingleMetric}
    (h : parseMetricLines line metrics lines = some result) (hmetrics : NonNegative metrics)
    (hline : ∀ sample ∈ line.samples, ¬ sample.2 < 0) : NonNegative result := by
  induction lines generalizing line metrics with
  | nil =>
      cases h
      exact MetricLine.finish_nonNegative hmetrics hline
  | cons text lines ih =>
      rw [parseMetricLines] at h
      split at h
      · cases h
      · cases h
        exact fun m hm => nomatch hm
      · rename_i line' metrics' hparse
        obtain ⟨hmetrics', hline'⟩ := parseMetricLine_nonNegative hparse hmetrics hline
        exact ih h hmetrics' hline'

theorem readMetrics_eq_some {text : String} {metrics : List SingleMetric} :
    readMetrics text = some metrics ↔ parseMetricText text = some metrics ∧ metrics ≠ [] := by
  simp [readMetrics, Option.filter_eq_some_iff]

theorem readMetrics_nonNegative {text : String} {metrics : List SingleMetric} (h : readMetrics text = some metrics) :
    NonNegative metrics :=
  parseMetricLines_nonNegative (readMetrics_eq_some.1 h).1 (fun _ hm => nomatch hm) fun _ hs => nomatch hs

theorem counterAt_nonneg {name label : String} {metrics : List SingleMetric} (h : NonNegative metrics) :
    0 ≤ counterAt name label metrics := by
  refine List.sum_nonneg fun x hx => ?_
  obtain ⟨value, hvalue, rfl⟩ := List.mem_map.1 hx
  obtain ⟨m, hm, hmem⟩ := List.mem_flatMap.1 hvalue
  refine nonneg_of_not_neg ?_
  split at hmem
  · obtain ⟨sample, hsample, rfl⟩ := List.mem_map.1 hmem
    exact h m hm sample (List.mem_filter.1 hsample).1
  · cases hmem

/-! ## Instances -/

theorem parsePods_ok_iff {pods : List (Int × String)} {parsed : List (List SingleMetric)} :
    parsePods pods = .ok parsed ↔ (pods.mapM fun pod => readMetrics pod.2) = some parsed := by
  induction pods generalizing parsed with
  | nil => simp [parsePods]
  | cons pod pods ih =>
      obtain ⟨id, text⟩ := pod
      rw [List.mapM_cons]
      cases htext : parseMetricText text with
      | none =>
          have hread : readMetrics text = none := by simp [readMetrics, htext]
          simp [parsePods, htext, hread]
      | some metrics =>
          cases metrics with
          | nil =>
              have hread : readMetrics text = none := by simp [readMetrics, htext]
              simp [parsePods, htext, hread]
          | cons m metrics =>
              have hread : readMetrics text = some (m :: metrics) := readMetrics_eq_some.2 ⟨htext, List.cons_ne_nil _ _⟩
              have hnone : (∀ rest, parsePods pods ≠ .ok rest) → (pods.mapM fun pod => readMetrics pod.2) = none :=
                fun hne => Option.eq_none_iff_forall_ne_some.2 fun rest hrest => hne rest (ih.2 hrest)
              cases hpods : parsePods pods with
              | ok rest => simp [parsePods, htext, hread, hpods, ih.1 hpods]
              | failed => simp [parsePods, htext, hread, hpods, hnone (by simp [hpods])]
              | raised => simp [parsePods, htext, hread, hpods, hnone (by simp [hpods])]

namespace CollectionRound

variable {r : CollectionRound} {inst : Instance}

theorem readEndpoints_eq (h : inst.UniqueEndpoints) {collect : Dict Int String}
    (hcollect : r.getServerMetricsEndpoints inst = some collect) :
    (collect.entries.mapM fun pod => readMetrics pod.2) = r.readEndpoints inst := by
  unfold getServerMetricsEndpoints at hcollect
  split at hcollect
  · cases hcollect
  · cases hcollect
    have hnodup : ((inst.endpointList.map fun en => (en.id, r.getServerMetricsSingle en)).map Prod.fst).Nodup := by
      rw [List.map_map]
      exact h
    rw [Dict.entries_update_absent hnodup fun e _ => Dict.get?_empty e.1, Dict.entries_empty, List.nil_append,
      List.mapM_map]
    rfl

theorem isSome_getServerMetricsEndpoints {metricsList : List (List SingleMetric)}
    (h : r.readEndpoints inst = some metricsList) : (r.getServerMetricsEndpoints inst).isSome = true := by
  have hempty : readMetrics "" = none := by decide
  have hall := isSome_mapM_iff.1 (Option.isSome_iff_exists.2 ⟨metricsList, h⟩)
  unfold getServerMetricsEndpoints
  rw [if_neg]
  · rfl
  · intro hany
    obtain ⟨en, hen, htext⟩ := List.any_eq_true.1 hany
    have hsome := hall en hen
    rw [of_decide_eq_true htext, hempty] at hsome
    cases hsome

theorem mem_readEndpoints {metricsList : List (List SingleMetric)} (h : r.readEndpoints inst = some metricsList)
    {metrics : List SingleMetric} (hm : metrics ∈ metricsList) :
    ∃ en ∈ inst.endpointList, readMetrics (r.getServerMetricsSingle en) = some metrics := by
  rw [mapM_eq_filterMap h] at hm
  exact List.mem_filterMap.1 hm

theorem readEndpoints_eq_nil (h : r.readEndpoints inst = some []) : inst.endpointList = [] := by
  unfold readEndpoints at h
  cases hends : inst.endpointList with
  | nil => rfl
  | cons en ens =>
      rw [hends, List.mapM_cons] at h
      cases hen : readMetrics (r.getServerMetricsSingle en) with
      | none => simp [hen] at h
      | some metrics =>
          simp only [hen, bind, Option.bind_some, Option.bind_eq_some_iff] at h
          obtain ⟨_, -, h⟩ := h
          cases h

def collected (r : CollectionRound) (insts : List Instance) : List (Int × List (List SingleMetric)) :=
  insts.filterMap fun inst => (r.readEndpoints inst).map fun metricsList => (inst.id, metricsList)

def answered (r : CollectionRound) (insts : List Instance) : List (Int × Dict Int String) :=
  insts.filterMap fun inst => (r.getServerMetricsEndpoints inst).map fun collect => (inst.id, collect)

theorem map_fst_filterMap_sublist {α : Type} (f : Instance → Option α) (insts : List Instance) :
    ((insts.filterMap fun inst => (f inst).map fun a => (inst.id, a)).map Prod.fst).Sublist (insts.map Instance.id) := by
  induction insts with
  | nil => exact List.Sublist.slnil
  | cons inst insts ih =>
      rw [List.filterMap_cons]
      cases f inst with
      | none => exact ih.cons _
      | some a => exact ih.cons_cons _

theorem parseMetrics_ok {insts : List Instance} (hunique : ∀ inst ∈ insts, inst.UniqueEndpoints)
    {collects : List (Int × List (List SingleMetric))} (h : parseMetrics (r.answered insts) = .ok collects) :
    collects = r.collected insts := by
  induction insts generalizing collects with
  | nil =>
      cases h
      rfl
  | cons inst insts ih =>
      have hrest := fun inst' hi => hunique inst' (List.mem_cons_of_mem _ hi)
      unfold answered at h
      rw [List.filterMap_cons] at h
      unfold collected
      rw [List.filterMap_cons]
      cases hends : r.getServerMetricsEndpoints inst with
      | none =>
          rw [hends] at h
          have hread : r.readEndpoints inst = none := Option.eq_none_iff_forall_ne_some.2 fun metricsList hm => by
            have := isSome_getServerMetricsEndpoints hm
            rw [hends] at this
            cases this
          rw [hread]
          exact ih hrest h
      | some collect =>
          rw [hends] at h
          simp only [Option.map_some, parseMetrics] at h
          split at h
          · cases h
          · cases h
          · rename_i endpoints hpods
            rw [parsePods_ok_iff, readEndpoints_eq (hunique inst (List.mem_cons_self ..)) hends] at hpods
            rw [hpods]
            split at h
            · rename_i parsed hparsed
              cases h
              exact congrArg _ (ih hrest hparsed)
            · cases h
            · cases h

theorem exists_parseMetrics {insts : List Instance} (hunique : ∀ inst ∈ insts, inst.UniqueEndpoints)
    (h : ∀ inst ∈ insts, (r.getServerMetricsEndpoints inst).isSome = true → (r.readEndpoints inst).isSome = true) :
    ∃ collects, parseMetrics (r.answered insts) = .ok collects := by
  induction insts with
  | nil => exact ⟨[], rfl⟩
  | cons inst insts ih =>
      obtain ⟨collects, hcollects⟩ := ih (fun inst' hi => hunique inst' (List.mem_cons_of_mem _ hi))
        fun inst' hi => h inst' (List.mem_cons_of_mem _ hi)
      unfold answered
      rw [List.filterMap_cons]
      cases hends : r.getServerMetricsEndpoints inst with
      | none => exact ⟨collects, hcollects⟩
      | some collect =>
          obtain ⟨endpoints, hread⟩ := Option.isSome_iff_exists.1 (h inst (List.mem_cons_self ..) (by rw [hends]; rfl))
          rw [← readEndpoints_eq (hunique inst (List.mem_cons_self ..)) hends, ← parsePods_ok_iff] at hread
          refine ⟨(inst.id, endpoints) :: collects, ?_⟩
          have htail : parseMetrics (insts.filterMap fun inst =>
              (r.getServerMetricsEndpoints inst).map fun collect => (inst.id, collect)) = .ok collects := hcollects
          simp only [Option.map_some, parseMetrics, hread, htail]

theorem scrapes_eq : r.scrapes = (r.collected r.available.values).filterMap fun e =>
    if e.2 = [] then none else some (e.1, e.2.flatten) := by
  unfold scrapes collected
  rw [List.filterMap_filterMap]
  refine List.filterMap_congr fun inst _ => ?_
  unfold scrape readEndpoints
  cases inst.endpointList with
  | nil => rfl
  | cons en ens =>
      rw [if_neg (List.cons_ne_nil _ _), List.mapM_cons]
      cases readMetrics (r.getServerMetricsSingle en) with
      | none => rfl
      | some metrics =>
          cases ens.mapM fun en => readMetrics (r.getServerMetricsSingle en) with
          | none => rfl
          | some metricsList => rfl

theorem nodup_ids (h : ∀ e ∈ r.available.entries, e.1 = e.2.id) : (r.available.values.map Instance.id).Nodup := by
  have hkeys : r.available.values.map Instance.id = r.available.keys := by
    rw [Dict.values, Dict.keys, List.map_map]
    exact List.map_congr_left fun e he => (h e he).symm
  rw [hkeys]
  exact r.available.nodup

theorem getServerMetrics_entries (h : ∀ e ∈ r.available.entries, e.1 = e.2.id) :
    r.getServerMetrics.entries = r.answered r.available.values := by
  have hnodup : ((r.answered r.available.values).map Prod.fst).Nodup :=
    (nodup_ids h).sublist (map_fst_filterMap_sublist ..)
  show (Dict.empty.update (r.answered r.available.values)).entries = _
  rw [Dict.entries_update_absent hnodup fun e _ => Dict.get?_empty e.1]
  rfl

end CollectionRound

end PyMotor
