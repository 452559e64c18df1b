import PyMotor.Metrics.Spec

/-!
# Aggregation adds up the counters
-/

namespace PyMotor

open Lib

variable {names : List String} {name label : String}

/-! ## Counters -/

@[simp] theorem valuesAt_nil : valuesAt name label [] = [] := rfl

theorem valuesAt_cons (m : SingleMetric) (metrics : List SingleMetric) :
    valuesAt name label (m :: metrics) =
      (if m.type = .counter ∧ m.name = name then amounts m.samples label else []) ++ valuesAt name label metrics := rfl

@[simp] theorem valuesAt_append (metrics metrics' : List SingleMetric) :
    valuesAt name label (metrics ++ metrics') = valuesAt name label metrics ++ valuesAt name label metrics' :=
  List.flatMap_append ..

theorem valuesAt_flatten (metricsList : List (List SingleMetric)) :
    valuesAt name label metricsList.flatten = metricsList.flatMap (valuesAt name label) := by
  induction metricsList with
  | nil => rfl
  | cons metrics metricsList ih => rw [List.flatten_cons, valuesAt_append, ih, List.flatMap_cons]

theorem valuesAt_filter (metrics : List SingleMetric) :
    valuesAt name label (metrics.filter fun m => m.name = name) = valuesAt name label metrics := by
  induction metrics with
  | nil => rfl
  | cons m metrics ih =>
      by_cases hm : m.name = name
      · simp [hm, ih, valuesAt_cons]
      · simp [hm, ih, valuesAt_cons]

theorem valuesAt_eq_nil {metrics : List SingleMetric} (h : ∀ m ∈ metrics, m.type = .counter → m.name ≠ name) :
    valuesAt name label metrics = [] :=
  List.flatMap_eq_nil_iff.mpr fun m hm => if_neg fun hboth => h m hm hboth.1 hboth.2

@[simp] theorem valuesAt_aggrInputSingle (active : Bool) (metrics : List SingleMetric) :
    valuesAt name label (MetricsCollector.aggrInputSingle active metrics) = valuesAt name label metrics := by
  induction metrics with
  | nil => rfl
  | cons m metrics ih =>
      have hcons : MetricsCollector.aggrInputSingle active (m :: metrics) =
          (if m.type = .gauge && !active then m.zeroed else m) :: MetricsCollector.aggrInputSingle active metrics := rfl
      rw [hcons, valuesAt_cons, valuesAt_cons, ih]
      by_cases hg : m.type = .gauge
      · have hz : m.zeroed.type = .gauge := hg
        cases active with
        | true => simp
        | false => simp [hg, hz]
      · simp [hg]

theorem valuesAt_singleName {metrics : List SingleMetric} (h : ∀ m ∈ metrics, m.type = .counter ∧ m.name = name) :
    valuesAt name label metrics = amounts (metrics.flatMap SingleMetric.samples) label := by
  induction metrics with
  | nil => rfl
  | cons m metrics ih =>
      rw [valuesAt_cons, if_pos (h m (List.mem_cons_self ..)), List.flatMap_cons, amounts_append,
        ih fun m' hm' => h m' (List.mem_cons_of_mem _ hm')]

/-! ## What is exposed -/

theorem Exposes.counter {metrics : List SingleMetric} (h : Exposes names name metrics) :
    ∀ m ∈ metrics, m.name = name → m.type = .counter := h.2.2

theorem Exposes.mem_iff {metrics : List SingleMetric} (h : Exposes names name metrics) (n : String) :
    n ∈ metrics.map SingleMetric.name ↔ n ∈ names := ⟨fun hn => h.1 hn, fun hn => h.2.1 hn⟩

theorem Exposes.mk' {metrics : List SingleMetric} (h : ∀ n, n ∈ metrics.map SingleMetric.name ↔ n ∈ names)
    (hcounter : ∀ m ∈ metrics, m.name = name → m.type = .counter) : Exposes names name metrics :=
  ⟨fun n hn => (h n).1 hn, fun n hn => (h n).2 hn, hcounter⟩

theorem Exposes.aggrInputSingle {metrics : List SingleMetric} (h : Exposes names name metrics) (active : Bool) :
    Exposes names name (MetricsCollector.aggrInputSingle active metrics) := by
  have hname : (MetricsCollector.aggrInputSingle active metrics).map SingleMetric.name =
      metrics.map SingleMetric.name := by
    rw [MetricsCollector.aggrInputSingle, List.map_map]
    refine List.map_congr_left fun m _ => ?_
    simp only [Function.comp]
    split
    · rfl
    · rfl
  refine ⟨hname ▸ h.1, hname ▸ h.2.1, fun m hm hn => ?_⟩
  obtain ⟨m', hm', rfl⟩ := List.mem_map.1 hm
  have heq : ∀ b : Bool, (if b then m'.zeroed else m').name = m'.name ∧ (if b then m'.zeroed else m').type = m'.type := by
    intro b
    cases b with
    | true => exact ⟨rfl, rfl⟩
    | false => exact ⟨rfl, rfl⟩
  rw [(heq _).2]
  rw [(heq _).1] at hn
  exact h.counter m' hm' hn

/-! ## Grouping by name -/

theorem groupByName_eq {metrics : List SingleMetric} {aggrInput : Dict String (List SingleMetric)}
    (h : ∀ m ∈ metrics, m.name ∈ aggrInput.keys) :
    ∃ groups, groupByName aggrInput metrics = some groups ∧ groups.keys = aggrInput.keys ∧
      ∀ n group, aggrInput.get? n = some group →
        groups.get? n = some (group ++ metrics.filter fun m => m.name = n) := by
  induction metrics generalizing aggrInput with
  | nil => exact ⟨aggrInput, rfl, rfl, fun n group hn => by simpa using hn⟩
  | cons m metrics ih =>
      have hcontains : aggrInput.contains m.name = true := Dict.contains_iff_mem_keys.2 (h m (List.mem_cons_self ..))
      have hrest : ∀ m' ∈ metrics, m'.name ∈ (aggrInput.adjust m.name (· ++ [m])).keys := by
        intro m' hm'
        rw [Dict.keys_adjust]
        exact h m' (List.mem_cons_of_mem _ hm')
      obtain ⟨groups, hgroups, hkeys, hget⟩ := ih hrest
      refine ⟨groups, ?_, hkeys.trans (Dict.keys_adjust ..), fun n group hn => ?_⟩
      · simp only [groupByName, hcontains, ↓reduceIte]
        exact hgroups
      · have hadjust := Dict.get?_adjust aggrInput m.name n (· ++ [m])
        rw [hn] at hadjust
        by_cases hm : n = m.name
        · rw [if_pos hm] at hadjust
          rw [hget n _ hadjust, List.filter_cons, if_pos (by simpa using hm.symm), List.append_assoc]
          rfl
        · rw [if_neg hm] at hadjust
          rw [hget n _ hadjust, List.filter_cons, if_neg (by simpa using Ne.symm hm)]

theorem groupByName_values {metrics : List SingleMetric} {ns : List String} (h : ∀ m ∈ metrics, m.name ∈ ns) :
    ∃ (groups : Dict String (List SingleMetric)) (keys : List String),
      groupByName (Dict.empty.update (ns.map fun n => (n, ([] : List SingleMetric)))) metrics = some groups ∧
      keys.Nodup ∧ (∀ n, n ∈ keys ↔ n ∈ ns) ∧ groups.values = keys.map fun n => metrics.filter fun m => m.name = n := by
  have hkeys : ∀ n, n ∈ (Dict.empty.update (ns.map fun n => (n, ([] : List SingleMetric)))).keys ↔ n ∈ ns := by
    intro n
    constructor
    · intro hn
      obtain ⟨group, hgroup⟩ := Dict.mem_keys_iff.1 hn
      rcases Dict.get?_update_or hgroup with hm | hm
      · obtain ⟨n', hn', heq⟩ := List.mem_map.1 hm
        cases heq
        exact hn'
      · cases hm
    · intro hn
      exact Dict.mem_keys_iff.2 (Dict.exists_get?_update (List.mem_map.2 ⟨(n, []), List.mem_map.2 ⟨n, hn, rfl⟩, rfl⟩))
  obtain ⟨groups, hgroups, hgkeys, hget⟩ := groupByName_eq fun m hm => (hkeys m.name).2 (h m hm)
  refine ⟨groups, groups.keys, hgroups, groups.nodup, fun n => hgkeys ▸ hkeys n, ?_⟩
  rw [Dict.keys, List.map_map, Dict.values]
  refine List.map_congr_left fun e he => ?_
  have hmem : e.1 ∈ groups.keys := List.mem_map_of_mem he
  rw [hgkeys] at hmem
  obtain ⟨group, hgroup⟩ := Dict.mem_keys_iff.1 hmem
  have hnil : group = [] := by
    rcases Dict.get?_update_or hgroup with hm | hm
    · obtain ⟨n', _, heq⟩ := List.mem_map.1 hm
      cases heq
      rfl
    · cases hm
  have hval := hget e.1 group hgroup
  rw [Dict.get?_eq_some_iff.2 he, hnil, List.nil_append, Option.some.injEq] at hval
  exact hval

/-! ## The aggregate -/

theorem longestMetrics_spec {metricsList : List (List SingleMetric)} (hne : metricsList ≠ []) :
    longestMetrics metricsList ∈ metricsList ∧
      ∀ metrics ∈ metricsList, metrics.length ≤ (longestMetrics metricsList).length := by
  cases metricsList with
  | nil => exact absurd rfl hne
  | cons metrics rest =>
      clear hne
      simp only [longestMetrics]
      induction rest generalizing metrics with
      | nil => simp
      | cons metrics' rest ih =>
          rw [List.foldl_cons]
          by_cases hlt : metrics.length < metrics'.length
          · rw [if_pos hlt]
            obtain ⟨hmem, hle⟩ := ih metrics'
            have hhead := hle _ (List.mem_cons_self ..)
            refine ⟨List.mem_cons_of_mem _ hmem, fun x hx => ?_⟩
            rcases List.mem_cons.1 hx with rfl | hx
            · omega
            · exact hle x hx
          · rw [if_neg hlt]
            obtain ⟨hmem, hle⟩ := ih metrics
            have hhead := hle _ (List.mem_cons_self ..)
            constructor
            · rcases List.mem_cons.1 hmem with hmem | hmem
              · rw [hmem]
                exact List.mem_cons_self ..
              · exact List.mem_cons_of_mem _ (List.mem_cons_of_mem _ hmem)
            · intro x hx
              simp only [List.mem_cons] at hx
              rcases hx with rfl | rfl | hx
              · exact hhead
              · omega
              · exact hle x (List.mem_cons_of_mem _ hx)

def addedUp (values : List Float) : List Float := if values = [] then [] else [addUp values]

theorem aggregateMetricCommon_spec (hname : name ≠ kvCacheUsage) {m : SingleMetric} {metrics : List SingleMetric}
    (h : ∀ m' ∈ m :: metrics, m'.type = .counter ∧ m'.name = name) :
    valuesAt name label [aggregateMetricCommon m metrics] = addedUp (valuesAt name label (m :: metrics)) := by
  obtain ⟨htype, hm⟩ := h m (List.mem_cons_self ..)
  have hkv : ¬ m.name = kvCacheUsage := hm ▸ hname
  have hsamples : (aggregateMetricCommon m metrics).samples =
      (tally ((m :: metrics).flatMap SingleMetric.samples)).entries := by
    simp only [aggregateMetricCommon, if_neg hkv, aggregateLabelsBySum]
  have hboth : (aggregateMetricCommon m metrics).type = .counter ∧ (aggregateMetricCommon m metrics).name = name :=
    ⟨htype, hm⟩
  rw [valuesAt_cons, if_pos hboth, valuesAt_nil, List.append_nil, hsamples, Dict.amounts_entries, get?_tally,
    valuesAt_singleName h, addedUp]
  by_cases hnil : amounts ((m :: metrics).flatMap SingleMetric.samples) label = []
  · rw [if_pos hnil, if_neg (mt amounts_ne_nil_iff.mpr (not_not.mpr hnil))]
    rfl
  · rw [if_neg hnil, if_pos (amounts_ne_nil_iff.mp hnil)]
    rfl

def groupAggregate (metrics : List SingleMetric) : SingleMetric :=
  match metrics with
  | [] => {}
  | m :: metrics => aggregateMetricCommon m metrics

theorem groupAggregate_name {metrics : List SingleMetric} {n : String} (hne : metrics ≠ [])
    (h : ∀ m ∈ metrics, m.name = n) : (groupAggregate metrics).name = n := by
  cases metrics with
  | nil => exact absurd rfl hne
  | cons m metrics => exact h m (List.mem_cons_self ..)

theorem groupAggregate_type {metrics : List SingleMetric} (hne : metrics ≠ [])
    (h : ∀ m ∈ metrics, m.type = .counter) : (groupAggregate metrics).type = .counter := by
  cases metrics with
  | nil => exact absurd rfl hne
  | cons m metrics => exact h m (List.mem_cons_self ..)

theorem mapM_groupAggregate {groups : List (List SingleMetric)} (h : ∀ group ∈ groups, group ≠ []) :
    (groups.mapM fun metrics =>
      match metrics with
      | [] => none
      | m :: metrics => some (aggregateMetricCommon m metrics)) = some (groups.map groupAggregate) := by
  induction groups with
  | nil => rfl
  | cons group groups ih =>
      rw [List.mapM_cons, ih fun group' hg => h group' (List.mem_cons_of_mem _ hg)]
      cases group with
      | nil => exact absurd rfl (h [] (List.mem_cons_self ..))
      | cons m metrics => rfl

theorem valuesAt_groups {keys : List String} (hnodup : keys.Nodup) {metrics : List SingleMetric}
    (hname : name ≠ kvCacheUsage) (hmem : ∀ n ∈ keys, n ∈ metrics.map SingleMetric.name)
    (hall : ∀ m ∈ metrics, m.name ∈ keys) (hcounter : ∀ m ∈ metrics, m.name = name → m.type = .counter) :
    valuesAt name label ((keys.map fun n => metrics.filter fun m => m.name = n).map groupAggregate) =
      addedUp (valuesAt name label metrics) := by
  have hgroup : ∀ n ∈ keys, (metrics.filter fun m => m.name = n) ≠ [] ∧
      ∀ m ∈ metrics.filter fun m => m.name = n, m.name = n := by
    intro n hn
    obtain ⟨m, hm, hmn⟩ := List.mem_map.1 (hmem n hn)
    exact ⟨List.ne_nil_of_mem (List.mem_filter.2 ⟨hm, by simpa using hmn⟩), fun m hm => by
      simpa using (List.mem_filter.1 hm).2⟩
  have hzero : ∀ ns ⊆ keys, name ∉ ns →
      valuesAt name label ((ns.map fun n => metrics.filter fun m => m.name = n).map groupAggregate) = [] := by
    intro ns hns hname'
    refine valuesAt_eq_nil fun m hm _ hmn => hname' ?_
    rw [List.map_map] at hm
    obtain ⟨n, hn, rfl⟩ := List.mem_map.1 hm
    obtain ⟨hne, hall⟩ := hgroup n (hns hn)
    rw [← hmn, Function.comp, groupAggregate_name hne hall]
    exact hn
  by_cases hk : name ∈ keys
  · obtain ⟨before, after, rfl⟩ := List.append_of_mem hk
    rw [List.nodup_append] at hnodup
    obtain ⟨_, hafter, hdisj⟩ := hnodup
    have hb := hzero before (fun n hn => List.mem_append_left _ hn) fun hn => hdisj _ hn _ (List.mem_cons_self ..) rfl
    have ha := hzero after (fun n hn => List.mem_append_right _ (List.mem_cons_of_mem _ hn))
      (List.nodup_cons.1 hafter).1
    simp only [List.map_append, List.map_cons, valuesAt_append, hb, List.nil_append]
    rw [← List.singleton_append, valuesAt_append, ha, List.append_nil, ← valuesAt_filter metrics]
    obtain ⟨hne, hall⟩ := hgroup name hk
    have hboth : ∀ m ∈ metrics.filter fun m => m.name = name, m.type = .counter ∧ m.name = name :=
      fun m hm => ⟨hcounter m (List.mem_filter.1 hm).1 (hall m hm), hall m hm⟩
    generalize metrics.filter (fun m => m.name = name) = group at hne hboth ⊢
    cases group with
    | nil => exact absurd rfl hne
    | cons m group => exact aggregateMetricCommon_spec hname hboth
  · rw [hzero keys (fun n hn => hn) hk]
    have hnil : valuesAt name label metrics = [] := valuesAt_eq_nil fun m hm _ hmn => hk (hmn ▸ hall m hm)
    rw [hnil]
    rfl

def named (name : String) (metrics : List SingleMetric) : List SingleMetric := metrics.filter fun m => m.name = name

theorem named_ne_nil {n : String} {metrics : List SingleMetric} (h : n ∈ metrics.map SingleMetric.name) :
    named n metrics ≠ [] := by
  obtain ⟨m, hm, hmn⟩ := List.mem_map.1 h
  exact List.ne_nil_of_mem (List.mem_filter.2 ⟨hm, by simpa using hmn⟩)

theorem name_of_mem_named {n : String} {metrics : List SingleMetric} {m : SingleMetric} (h : m ∈ named n metrics) :
    m.name = n := by
  simpa using (List.mem_filter.1 h).2

theorem aggregateMetricsCommon_some {metricsList : List (List SingleMetric)} (hne : metricsList ≠ [])
    (h : ∀ m ∈ metricsList.flatten, m.name ∈ (longestMetrics metricsList).map SingleMetric.name) :
    ∃ keys : List String, keys.Nodup ∧ (∀ n, n ∈ keys ↔ n ∈ (longestMetrics metricsList).map SingleMetric.name) ∧
      (∀ n, n ∈ keys ↔ n ∈ metricsList.flatten.map SingleMetric.name) ∧
      aggregateMetricsCommon metricsList = some (keys.map fun n => groupAggregate (named n metricsList.flatten)) := by
  obtain ⟨groups, keys, hgroups, hnodup, hkeys, hvalues⟩ := groupByName_values h
  have hlongest := (longestMetrics_spec hne).1
  have hflatten : ∀ n, n ∈ keys ↔ n ∈ metricsList.flatten.map SingleMetric.name := by
    intro n
    rw [hkeys]
    constructor
    · intro hn
      obtain ⟨m, hm, rfl⟩ := List.mem_map.1 hn
      exact List.mem_map_of_mem (List.mem_flatten.2 ⟨_, hlongest, hm⟩)
    · intro hn
      obtain ⟨m, hm, rfl⟩ := List.mem_map.1 hn
      exact h m hm
  refine ⟨keys, hnodup, hkeys, hflatten, ?_⟩
  have hmap : (longestMetrics metricsList).map (fun m => (m.name, ([] : List SingleMetric))) =
      ((longestMetrics metricsList).map SingleMetric.name).map fun n => (n, []) := by
    rw [List.map_map]
    rfl
  have hvalues' : (keys.map fun n => groupAggregate (named n metricsList.flatten)) = groups.values.map groupAggregate := by
    rw [hvalues, List.map_map]
    rfl
  rw [aggregateMetricsCommon, hmap, hgroups, hvalues']
  refine mapM_groupAggregate fun group hg => ?_
  rw [hvalues] at hg
  obtain ⟨n, hn, rfl⟩ := List.mem_map.1 hg
  exact named_ne_nil ((hflatten n).1 hn)

theorem aggregateMetricsCommon_spec (label : String) (hname : name ≠ kvCacheUsage) {metricsList : List (List SingleMetric)}
    (hne : metricsList ≠ []) (h : ∀ metrics ∈ metricsList, metrics = [] ∨ Exposes names name metrics) :
    ∃ aggregate, aggregateMetricsCommon metricsList = some aggregate ∧
      (aggregate = [] ∧ (∀ metrics ∈ metricsList, metrics = []) ∨ Exposes names name aggregate) ∧
      valuesAt name label aggregate = addedUp (metricsList.flatMap (valuesAt name label)) := by
  obtain ⟨hlongest, hle⟩ := longestMetrics_spec hne
  -- A metric's list is not empty, so neither is the longest one, which then has all the names.
  have hlonger : ∀ m ∈ metricsList.flatten, m.name ∈ (longestMetrics metricsList).map SingleMetric.name := by
    intro m hm
    obtain ⟨metrics, hmem, hm⟩ := List.mem_flatten.1 hm
    have hexp : Exposes names name metrics := (h metrics hmem).resolve_left (List.ne_nil_of_mem hm)
    have hpos := List.length_pos_of_mem hm
    have hexp' : Exposes names name (longestMetrics metricsList) := by
      refine (h _ hlongest).resolve_left fun hnil => ?_
      have hlen := hle metrics hmem
      rw [hnil, List.length_nil] at hlen
      omega
    exact (hexp'.mem_iff _).2 ((hexp.mem_iff _).1 (List.mem_map_of_mem hm))
  obtain ⟨keys, hnodup, hkeys, hflatten, haggregate⟩ := aggregateMetricsCommon_some hne hlonger
  have hcounter : ∀ m ∈ metricsList.flatten, m.name = name → m.type = .counter := by
    intro m hm
    obtain ⟨metrics, hmem, hm⟩ := List.mem_flatten.1 hm
    exact ((h metrics hmem).resolve_left (List.ne_nil_of_mem hm)).counter m hm
  refine ⟨_, haggregate, ?_, ?_⟩
  · rcases h _ hlongest with hnil | hexp
    · refine .inl ⟨?_, fun metrics hmem => ?_⟩
      · have hk : keys = [] := List.eq_nil_iff_forall_not_mem.2 fun n hn => by
          have := (hkeys n).1 hn
          rw [hnil] at this
          cases this
        rw [hk]
        rfl
      · have hlen := hle metrics hmem
        rw [hnil, List.length_nil, Nat.le_zero] at hlen
        exact List.length_eq_zero_iff.1 hlen
    · have hnames : (keys.map fun n => groupAggregate (named n metricsList.flatten)).map SingleMetric.name = keys := by
        rw [List.map_map]
        refine (List.map_congr_left fun n hn => ?_).trans (List.map_id keys)
        exact groupAggregate_name (named_ne_nil ((hflatten n).1 hn)) fun m hm => name_of_mem_named hm
      refine .inr (Exposes.mk' (fun n => ?_) fun m hm hmn => ?_)
      · rw [hnames, hkeys, hexp.mem_iff]
      · obtain ⟨n, hn, rfl⟩ := List.mem_map.1 hm
        have hgroup := named_ne_nil ((hflatten n).1 hn)
        refine groupAggregate_type hgroup fun m hm => hcounter m (List.mem_filter.1 hm).1 ?_
        rw [name_of_mem_named hm]
        exact (groupAggregate_name hgroup fun m hm => name_of_mem_named hm).symm.trans hmn
  · rw [← valuesAt_flatten, ← valuesAt_groups hnodup hname (fun n hn => (hflatten n).1 hn)
      (fun m hm => (hkeys _).2 (hlonger m hm)) hcounter, List.map_map]
    rfl

end PyMotor
