import Mathlib.Tactic.Linarith
import PyMotor.Metrics.Lemmas.Aggregate
import PyMotor.Metrics.Lemmas.Collect

/-!
# Every instance counts once

The values that the cache and the history show are sums of those of the last scrapes, each of them in one of these sums,
as long as an instance that was moved to the history is not scraped again.
-/

namespace PyMotor

open Lib

variable {names : List String} {name label : String}

def sumAt (name label : String) (d : Dict Int (List SingleMetric)) : ℚ := (d.values.map (counterAt name label)).sum

theorem sumAt_set (d : Dict Int (List SingleMetric)) (id : Int) (metrics : List SingleMetric) :
    sumAt name label (d.set id metrics) =
      sumAt name label d + (counterAt name label metrics - ((d.get? id).map (counterAt name label)).getD 0) :=
  Dict.sum_values_set d id metrics (counterAt name label)

def lastValues (name label : String) (scraped : Dict Int (List SingleMetric)) (id : Int) : Multiset Float :=
  (((scraped.get? id).map (valuesAt name label)).getD [] : List Float)

def allValues (name label : String) (scraped : Dict Int (List SingleMetric)) : Multiset Float :=
  (scraped.values.flatMap (valuesAt name label) : List Float)

theorem coe_flatMap {α : Type} (f : α → List Float) (l : List α) :
    ((l.flatMap f : List Float) : Multiset Float) = (l.map fun a => (f a : Multiset Float)).sum := by
  induction l with
  | nil => rfl
  | cons a l ih => rw [List.flatMap_cons, ← Multiset.coe_add, ih, List.map_cons, List.sum_cons]

theorem allValues_eq (scraped : Dict Int (List SingleMetric)) :
    allValues name label scraped = (scraped.keys.map (lastValues name label scraped)).sum := by
  rw [allValues, coe_flatMap, Dict.values, Dict.keys, List.map_map, List.map_map]
  refine congrArg List.sum (List.map_congr_left fun e he => ?_)
  simp only [Function.comp, lastValues, Dict.get?_eq_some_iff.2 he, Option.map_some, Option.getD_some]

theorem sum_allValues (scraped : Dict Int (List SingleMetric)) :
    ((allValues name label scraped).map fun value => (numberOf value).getD 0).sum = sumAt name label scraped := by
  rw [allValues, Multiset.map_coe, Multiset.sum_coe, sumAt]
  induction scraped.values with
  | nil => rfl
  | cons metrics rest ih => rw [List.flatMap_cons, List.map_append, List.sum_append, ih, List.map_cons, List.sum_cons,
      counterAt]

theorem parts_addedUp {values : List Float} {s : Multiset Float} (h : Parts values s) : Parts (addedUp values) s := by
  rw [addedUp]
  split
  · rename_i hnil
    subst hnil
    rw [h.eq_zero]
    exact .nil
  · exact h.addUp.parts

/-- The cache and the history show parts of what has been scraped, each instance in one of them. -/
structure Counted (names : List String) (name label : String) (c : MetricsCollector)
    (scraped : Dict Int (List SingleMetric)) : Prop where
  exposes : ∀ {id metrics}, c.instanceMetricsCached.get? id = some metrics → Exposes names name metrics
  cached : ∀ {id metrics}, c.instanceMetricsCached.get? id = some metrics →
    scraped.contains id = true ∧ Parts (valuesAt name label metrics) (lastValues name label scraped id)
  history : c.inactiveInstanceMetricsAggregate = [] ∨ Exposes names name c.inactiveInstanceMetricsAggregate
  moved : Parts (valuesAt name label c.inactiveInstanceMetricsAggregate)
    ((scraped.keys.filter fun id => !c.instanceMetricsCached.contains id).map (lastValues name label scraped)).sum

namespace Counted

variable {c : MetricsCollector} {scraped : Dict Int (List SingleMetric)}

theorem of_same {c' : MetricsCollector} (h : Counted names name label c scraped)
    (hcache : c'.instanceMetricsCached = c.instanceMetricsCached)
    (hhistory : c'.inactiveInstanceMetricsAggregate = c.inactiveInstanceMetricsAggregate) :
    Counted names name label c' scraped where
  exposes := by
    rw [hcache]
    exact h.exposes
  cached := by
    rw [hcache]
    exact h.cached
  history := by
    rw [hhistory]
    exact h.history
  moved := by
    rw [hcache, hhistory]
    exact h.moved

/-! ## The history -/

theorem parts_cached (h : Counted names name label c scraped) {ids : List Int}
    (hids : ∀ id ∈ ids, c.instanceMetricsCached.contains id = true) (active : Int → Bool) :
    Parts ((ids.filterMap fun id => (c.instanceMetricsCached.get? id).map
        (MetricsCollector.aggrInputSingle (active id))).flatMap (valuesAt name label))
      (ids.map (lastValues name label scraped)).sum := by
  induction ids with
  | nil => exact .nil
  | cons id ids ih =>
      rw [List.forall_mem_cons] at hids
      obtain ⟨metrics, hget⟩ := Dict.contains_iff.1 hids.1
      rw [List.filterMap_cons, hget, Option.map_some, List.flatMap_cons, valuesAt_aggrInputSingle, List.map_cons,
        List.sum_cons]
      exact (h.cached hget).2.append (ih hids.2)

theorem get?_foldl_erase (cache : Dict Int (List SingleMetric)) (ids : List Int) (id : Int) :
    (ids.foldl Dict.erase cache).get? id = if id ∈ ids then none else cache.get? id := by
  induction ids generalizing cache with
  | nil => simp
  | cons id' ids ih =>
      rw [List.foldl_cons, ih, Dict.get?_erase]
      by_cases hid : id = id'
      · simp [hid]
      · simp [hid]

theorem clearInactiveMetrics (h : Counted names name label c scraped) (hname : name ≠ kvCacheUsage)
    (unavailablePool : Dict Int Instance) :
    ∃ c', c.clearInactiveMetrics unavailablePool = some c' ∧ Counted names name label c' scraped ∧
      (∀ id, unavailablePool.contains id = false → c.instanceMetricsCached.contains id = true →
        c'.instanceMetricsCached.contains id = true) ∧
      c' = { c with
        inactiveInstanceMetricsAggregate := c'.inactiveInstanceMetricsAggregate
        instanceMetricsCached := c'.instanceMetricsCached } := by
  let ids := unavailablePool.keys.filter fun insId => c.instanceMetricsCached.contains insId
  let aggrInput := ids.filterMap fun insId =>
    (c.instanceMetricsCached.get? insId).map (MetricsCollector.aggrInputSingle false)
  have hids : ids.Nodup := unavailablePool.nodup.filter _
  have hall : ∀ metrics ∈ aggrInput ++ [c.inactiveInstanceMetricsAggregate],
      metrics = [] ∨ Exposes names name metrics := by
    intro metrics hm
    rcases List.mem_append.1 hm with hm | hm
    · obtain ⟨id, _, hmap⟩ := List.mem_filterMap.1 hm
      obtain ⟨metrics', hget, rfl⟩ := Option.map_eq_some_iff.1 hmap
      exact .inr ((h.exposes hget).aggrInputSingle false)
    · rw [List.mem_singleton.1 hm]
      exact h.history
  obtain ⟨aggregate, haggregate, hexposes, hcount⟩ :=
    aggregateMetricsCommon_spec label hname (by simp) hall
  refine ⟨{ c with
      inactiveInstanceMetricsAggregate := aggregate
      instanceMetricsCached := ids.foldl Dict.erase c.instanceMetricsCached }, ?_, ⟨?_, ?_, ?_, ?_⟩, ?_, rfl⟩
  · show (do
      let aggregate ← aggregateMetricsCommon (aggrInput ++ [c.inactiveInstanceMetricsAggregate])
      return { c with
        inactiveInstanceMetricsAggregate := aggregate
        instanceMetricsCached := ids.foldl Dict.erase c.instanceMetricsCached }) = _
    rw [haggregate]
    rfl
  · intro id metrics hget
    dsimp only at hget
    rw [get?_foldl_erase] at hget
    split at hget
    · cases hget
    · exact h.exposes hget
  · intro id metrics hget
    dsimp only at hget
    rw [get?_foldl_erase] at hget
    split at hget
    · cases hget
    · exact h.cached hget
  · exact hexposes.imp And.left id
  · have hcontained : ∀ id ∈ ids, c.instanceMetricsCached.contains id = true := fun id hid => (List.mem_filter.1 hid).2
    have hparts := (h.parts_cached hcontained fun _ => false).append h.moved
    -- What has been moved now is what had been moved before and what the ids show.
    have hperm : (scraped.keys.filter fun id => !(ids.foldl Dict.erase c.instanceMetricsCached).contains id).Perm
        (ids ++ scraped.keys.filter fun id => !c.instanceMetricsCached.contains id) := by
      refine (List.perm_ext_iff_of_nodup (scraped.nodup.filter _) ?_).mpr fun id => ?_
      · refine List.nodup_append.mpr ⟨hids, scraped.nodup.filter _, ?_⟩
        rintro id hid _ hfilter rfl
        have hnot := (List.mem_filter.1 hfilter).2
        rw [hcontained id hid] at hnot
        cases hnot
      · have hkey : id ∈ ids → id ∈ scraped.keys := by
          intro hid
          obtain ⟨metrics, hget⟩ := Dict.contains_iff.1 (hcontained id hid)
          exact Dict.contains_iff_mem_keys.1 (h.cached hget).1
        have hcontains : (ids.foldl Dict.erase c.instanceMetricsCached).contains id =
            if id ∈ ids then false else c.instanceMetricsCached.contains id := by
          rw [Dict.contains, get?_foldl_erase]
          split <;> rfl
        constructor
        · intro hfilter
          obtain ⟨hscraped, hnot⟩ := List.mem_filter.1 hfilter
          by_cases hid : id ∈ ids
          · exact List.mem_append_left _ hid
          · rw [hcontains, if_neg hid] at hnot
            exact List.mem_append_right _ (List.mem_filter.2 ⟨hscraped, hnot⟩)
        · intro happend
          rcases List.mem_append.1 happend with hid | hfilter
          · exact List.mem_filter.2 ⟨hkey hid, by rw [hcontains, if_pos hid]; rfl⟩
          · obtain ⟨hscraped, hnot⟩ := List.mem_filter.1 hfilter
            refine List.mem_filter.2 ⟨hscraped, ?_⟩
            rw [hcontains]
            split
            · rfl
            · exact hnot
    dsimp only
    rw [hcount, (hperm.map _).sum_eq, List.map_append, List.sum_append, List.flatMap_append, List.flatMap_singleton]
    exact parts_addedUp hparts
  · intro id hunavailable hcached
    obtain ⟨metrics, hget⟩ := Dict.contains_iff.1 hcached
    refine Dict.contains_iff.2 ⟨metrics, ?_⟩
    dsimp only
    rw [get?_foldl_erase, if_neg]
    · exact hget
    · intro hid
      have hkey := Dict.contains_iff_mem_keys.2 (List.mem_filter.1 hid).1
      rw [hunavailable] at hkey
      cases hkey

/-! ## The cache -/

theorem setCached (h : Counted names name label c scraped) {id : Int} {metrics metrics' : List SingleMetric}
    (hexposes : Exposes names name metrics)
    (hparts : Parts (valuesAt name label metrics) (valuesAt name label metrics' : Multiset Float))
    (hkept : scraped.contains id = true → c.instanceMetricsCached.contains id = true) :
    Counted names name label { c with instanceMetricsCached := c.instanceMetricsCached.set id metrics }
      (scraped.set id metrics') where
  exposes {id' metrics''} hget := by
    dsimp only at hget
    rw [Dict.get?_set] at hget
    split at hget
    · cases hget
      exact hexposes
    · exact h.exposes hget
  cached {id' metrics''} hget := by
    dsimp only at hget
    rw [Dict.get?_set] at hget
    rw [Dict.contains_set, lastValues, Dict.get?_set]
    split at hget
    · rename_i hid
      cases hget
      rw [if_pos hid]
      exact ⟨.inl hid, hparts⟩
    · rename_i hid
      rw [if_neg hid]
      exact ⟨.inr (h.cached hget).1, (h.cached hget).2⟩
  history := h.history
  moved := by
    -- The instance is not among those that have been moved, neither before nor after.
    have hperm : ((scraped.set id metrics').keys.filter fun id' =>
        !(c.instanceMetricsCached.set id metrics).contains id').Perm
        (scraped.keys.filter fun id' => !c.instanceMetricsCached.contains id') := by
      refine (List.perm_ext_iff_of_nodup ((scraped.set id metrics').nodup.filter _) (scraped.nodup.filter _)).mpr
        fun id' => ?_
      rw [List.mem_filter, List.mem_filter, Bool.not_eq_true', Bool.not_eq_true', ← Bool.not_eq_true, ← Bool.not_eq_true,
        Dict.contains_set]
      have hset := (Dict.contains_iff_mem_keys (d := scraped.set id metrics') (k := id')).symm
      have hkey := (Dict.contains_iff_mem_keys (d := scraped) (k := id')).symm
      rw [Dict.contains_set] at hset
      constructor
      · rintro ⟨hscraped, hnot⟩
        rw [not_or] at hnot
        exact ⟨hkey.mpr ((hset.mp hscraped).resolve_left hnot.1), hnot.2⟩
      · rintro ⟨hscraped, hnot⟩
        refine ⟨hset.mpr (.inr (hkey.mp hscraped)), ?_⟩
        rintro (rfl | hcontains)
        · exact hnot (hkept (hkey.mp hscraped))
        · exact hnot hcontains
    have hsame : ((scraped.set id metrics').keys.filter fun id' =>
        !(c.instanceMetricsCached.set id metrics).contains id').map (lastValues name label (scraped.set id metrics')) =
        ((scraped.set id metrics').keys.filter fun id' =>
          !(c.instanceMetricsCached.set id metrics).contains id').map (lastValues name label scraped) := by
      refine List.map_congr_left fun id' hid' => ?_
      have hnot := (List.mem_filter.1 hid').2
      rw [Bool.not_eq_true', ← Bool.not_eq_true, Dict.contains_set, not_or] at hnot
      rw [lastValues, lastValues, Dict.get?_set_ne hnot.1]
    dsimp only
    rw [hsame, (hperm.map _).sum_eq]
    exact h.moved

def flattened (collects : List (Int × List (List SingleMetric))) : List (Int × List SingleMetric) :=
  collects.filterMap fun e => if e.2 = [] then none else some (e.1, e.2.flatten)

theorem aggregateMetricsByInstance (hname : name ≠ kvCacheUsage) {collects : List (Int × List (List SingleMetric))}
    (h : Counted names name label c scraped)
    (hexposes : ∀ e ∈ collects, ∀ metrics ∈ e.2, Exposes names name metrics)
    (hkept : ∀ e ∈ collects, e.2 ≠ [] → scraped.contains e.1 = true → c.instanceMetricsCached.contains e.1 = true) :
    ∃ cache, c.aggregateMetricsByInstance collects = ({ c with instanceMetricsCached := cache }, true) ∧
      Counted names name label { c with instanceMetricsCached := cache } (scraped.update (flattened collects)) ∧
      (∀ id, c.instanceMetricsCached.contains id = true → cache.contains id = true) ∧
      ∀ e ∈ collects, e.2 ≠ [] → cache.contains e.1 = true := by
  induction collects generalizing c scraped with
  | nil => exact ⟨c.instanceMetricsCached, rfl, h, fun _ hid => hid, fun e he => nomatch he⟩
  | cons e collects ih =>
      obtain ⟨id, endpoints⟩ := e
      have hexposes' := fun e he => hexposes e (List.mem_cons_of_mem _ he)
      have hkept' := fun e he => hkept e (List.mem_cons_of_mem _ he)
      by_cases hnil : endpoints = []
      · subst hnil
        obtain ⟨cache, heq, hcounted, hkeep, hmem⟩ := ih h hexposes' hkept'
        refine ⟨cache, heq, hcounted, hkeep, fun e he hne => ?_⟩
        rcases List.mem_cons.1 he with rfl | he
        · exact absurd rfl hne
        · exact hmem e he hne
      · have hall := hexposes (id, endpoints) (List.mem_cons_self ..)
        obtain ⟨metrics, hmetrics, hexp, hcount⟩ :=
          aggregateMetricsCommon_spec label hname hnil fun metrics hm => .inr (hall metrics hm)
        have hexp' : Exposes names name metrics := by
          rcases hexp with ⟨rfl, hempty⟩ | hexp
          · obtain ⟨metrics, hm⟩ := List.exists_mem_of_ne_nil _ hnil
            exact hempty metrics hm ▸ hall metrics hm
          · exact hexp
        have hparts : Parts (valuesAt name label metrics) (valuesAt name label endpoints.flatten : Multiset Float) := by
          rw [hcount, valuesAt_flatten]
          exact parts_addedUp (parts_coe _)
        have hkept₁ : ∀ e ∈ collects, e.2 ≠ [] → (scraped.set id endpoints.flatten).contains e.1 = true →
            (c.instanceMetricsCached.set id metrics).contains e.1 = true := by
          intro e he hne hscraped
          rw [Dict.contains_set] at hscraped ⊢
          rcases hscraped with hid | hscraped
          · exact .inl hid
          · exact .inr (hkept' e he hne hscraped)
        obtain ⟨cache, heq, hcounted, hkeep, hmem⟩ :=
          ih (h.setCached hexp' hparts (hkept (id, endpoints) (List.mem_cons_self ..) hnil)) hexposes' hkept₁
        have hself : cache.contains id = true := hkeep id (Dict.contains_set.2 (.inl rfl))
        refine ⟨cache, ?_, ?_, fun id' hid' => hkeep id' (Dict.contains_set.2 (.inr hid')), fun e he hne => ?_⟩
        · rw [MetricsCollector.aggregateMetricsByInstance, if_neg (by simpa using hnil), hmetrics]
          exact heq
        · have hflat : flattened ((id, endpoints) :: collects) = (id, endpoints.flatten) :: flattened collects := by
            rw [flattened, List.filterMap_cons, if_neg hnil]
            rfl
          rw [hflat]
          exact hcounted
        · rcases List.mem_cons.1 he with rfl | he
          · exact hself
          · exact hmem e he hne

/-! ## The report -/

theorem aggregateMetricsAllInstance (h : Counted names name label c scraped) (hname : name ≠ kvCacheUsage) {id : Int}
    (hid : c.instanceMetricsCached.contains id = true) (ids : List Int) :
    ∃ aggregate, c.aggregateMetricsAllInstance ids = some aggregate ∧
      ∃ values, valuesAt name label aggregate = addedUp values ∧ Parts values (allValues name label scraped) := by
  obtain ⟨metrics, hget⟩ := Dict.contains_iff.1 hid
  have hmem := Dict.get?_eq_some_iff.1 hget
  have hall : ∀ metrics ∈ c.instanceMetricsCached.entries.map (fun ins =>
      MetricsCollector.aggrInputSingle (ins.1 ∈ ids) ins.2) ++ [c.inactiveInstanceMetricsAggregate],
      metrics = [] ∨ Exposes names name metrics := by
    intro metrics hm
    rcases List.mem_append.1 hm with hm | hm
    · obtain ⟨ins, hins, rfl⟩ := List.mem_map.1 hm
      exact .inr ((h.exposes (Dict.get?_eq_some_iff.2 hins)).aggrInputSingle _)
    · rw [List.mem_singleton.1 hm]
      exact h.history
  obtain ⟨aggregate, haggregate, -, hcount⟩ := aggregateMetricsCommon_spec label hname (by simp) hall
  refine ⟨aggregate, ?_, _, hcount, ?_⟩
  · rw [MetricsCollector.aggregateMetricsAllInstance, if_neg]
    · exact haggregate
    · rw [List.isEmpty_iff]
      exact List.ne_nil_of_mem hmem
  · have hinputs : (c.instanceMetricsCached.keys.filterMap fun id' => (c.instanceMetricsCached.get? id').map
        (MetricsCollector.aggrInputSingle (id' ∈ ids))) =
        c.instanceMetricsCached.entries.map fun ins => MetricsCollector.aggrInputSingle (ins.1 ∈ ids) ins.2 := by
      rw [Dict.keys, List.filterMap_map, ← List.filterMap_eq_map]
      refine List.filterMap_congr fun ins hins => ?_
      simp only [Function.comp, Dict.get?_eq_some_iff.2 hins, Option.map_some]
    have hparts := (h.parts_cached (fun id' hid' => Dict.contains_iff_mem_keys.2 hid') fun id' => decide (id' ∈ ids)).append
      h.moved
    rw [hinputs] at hparts
    -- Every instance that has been scraped is in the cache, or has been moved.
    have hperm : (c.instanceMetricsCached.keys ++
        scraped.keys.filter fun id' => !c.instanceMetricsCached.contains id').Perm scraped.keys := by
      have hsub : ∀ id' ∈ c.instanceMetricsCached.keys, id' ∈ scraped.keys := by
        intro id' hid'
        obtain ⟨metrics', hget'⟩ := Dict.mem_keys_iff.1 hid'
        exact Dict.contains_iff_mem_keys.1 (h.cached hget').1
      refine (List.perm_ext_iff_of_nodup ?_ scraped.nodup).mpr fun id' => ?_
      · refine List.nodup_append.mpr ⟨c.instanceMetricsCached.nodup, scraped.nodup.filter _, ?_⟩
        rintro id' hid' _ hfilter rfl
        have hnot := (List.mem_filter.1 hfilter).2
        rw [Dict.contains_iff_mem_keys.2 hid'] at hnot
        cases hnot
      · rw [List.mem_append, List.mem_filter]
        constructor
        · rintro (hid' | hid')
          · exact hsub id' hid'
          · exact hid'.1
        · intro hid'
          cases hcontains : c.instanceMetricsCached.contains id' with
          | true => exact .inl (Dict.contains_iff_mem_keys.1 hcontains)
          | false => exact .inr ⟨hid', rfl⟩
    rw [allValues_eq, ← (hperm.map _).sum_eq, List.map_append, List.sum_append, List.flatMap_append,
      List.flatMap_singleton]
    exact hparts

end Counted

theorem getSerializeInstanceMetrics_some {c : MetricsCollector} {ids : List Int}
    (h : ∀ id ∈ ids, c.instanceMetricsCached.contains id = true) :
    ∃ instanceMetrics, c.getSerializeInstanceMetrics ids = some instanceMetrics ∧
      ∀ id ∈ ids, instanceMetrics.contains id = true := by
  have hread : ∀ id ∈ ids, ∃ metrics, ((c.instanceMetricsCached.get? id).map fun metrics => (id, metrics)) =
      some (id, metrics) := by
    intro id hid
    obtain ⟨metrics, hget⟩ := Dict.contains_iff.1 (h id hid)
    exact ⟨metrics, by rw [hget, Option.map_some]⟩
  refine ⟨Dict.empty.update (ids.filterMap fun id => (c.instanceMetricsCached.get? id).map fun metrics => (id, metrics)),
    ?_, fun id hid => ?_⟩
  · rw [MetricsCollector.getSerializeInstanceMetrics,
      mapM_of_forall fun id hid => Option.isSome_iff_exists.2 ⟨_, (hread id hid).choose_spec⟩]
    rfl
  · obtain ⟨metrics, hmetrics⟩ := hread id hid
    refine Dict.contains_iff.2 (Dict.exists_get?_update (List.mem_map.2 ⟨(id, metrics), ?_, rfl⟩))
    exact List.mem_filterMap.2 ⟨id, hid, hmetrics⟩

theorem contains_of_getSerializeInstanceMetrics {c : MetricsCollector} {ids : List Int}
    {instanceMetrics : Dict Int (List SingleMetric)} (h : c.getSerializeInstanceMetrics ids = some instanceMetrics)
    (hne : instanceMetrics.entries ≠ []) : ∃ id, c.instanceMetricsCached.contains id = true := by
  cases ids with
  | nil =>
      cases h
      exact absurd rfl hne
  | cons id ids =>
      refine ⟨id, ?_⟩
      rw [MetricsCollector.getSerializeInstanceMetrics, List.mapM_cons] at h
      cases hget : c.instanceMetricsCached.get? id with
      | none => simp [hget] at h
      | some metrics => exact Dict.contains_iff.2 ⟨metrics, hget⟩

theorem valuesAt_coordinatorMetrics (c : MetricsCollector) (availableInstances : Dict Int Instance) :
    valuesAt name label (c.coordinatorMetrics availableInstances) = [] := by
  refine valuesAt_eq_nil fun m hm htype => ?_
  simp only [MetricsCollector.coordinatorMetrics, List.mem_cons, List.not_mem_nil, or_false] at hm
  rcases hm with rfl | rfl | rfl | rfl
  all_goals cases htype

/-! ## A round -/

namespace MetricsService

variable {s : MetricsService} {r : CollectionRound}

structure Reports (names : List String) (name label : String) (s : MetricsService) : Prop where
  counted : Counted names name label s.collector s.scraped
  reported : counterAt name label s.collector.lastMetrics = sumAt name label s.scraped
  number : ∀ value ∈ valuesAt name label s.collector.lastMetrics, (numberOf value).isSome = true

theorem reports_start (names : List String) (name label : String) (pInstancesNum dInstancesNum : Int) :
    Reports names name label (start pInstancesNum dInstancesNum) where
  counted :=
    { exposes := fun h => nomatch h
      cached := fun h => nomatch h
      history := .inl rfl
      moved := .nil }
  reported := rfl
  number _ hvalue := nomatch hvalue

theorem mem_collected {e : Int × List (List SingleMetric)} (h : e ∈ r.collected r.available.values) :
    ∃ inst ∈ r.available.values, inst.id = e.1 ∧ r.readEndpoints inst = some e.2 := by
  obtain ⟨inst, hinst, hmap⟩ := List.mem_filterMap.1 h
  obtain ⟨metricsList, hread, rfl⟩ := Option.map_eq_some_iff.1 hmap
  exact ⟨inst, hinst, rfl, hread⟩

theorem mem_scrapes_of_collected {e : Int × List (List SingleMetric)} (h : e ∈ r.collected r.available.values)
    (hne : e.2 ≠ []) : (e.1, e.2.flatten) ∈ r.scrapes := by
  rw [CollectionRound.scrapes_eq]
  exact List.mem_filterMap.2 ⟨e, h, if_neg hne⟩

theorem scrapes_flattened : r.scrapes = Counted.flattened (r.collected r.available.values) := CollectionRound.scrapes_eq

theorem Settled.parsed (h : s.Settled r) (hne : r.scrapes ≠ []) :
    ∃ collects, parseMetrics (r.answered r.available.values) = .ok collects := by
  refine CollectionRound.exists_parseMetrics h.1 fun inst hinst hanswered => ?_
  rcases h.2.2 hne inst hinst hanswered with hscrape | ⟨hnil, -⟩
  · unfold CollectionRound.scrape at hscrape
    split at hscrape
    · cases hscrape
    · rwa [Option.isSome_map] at hscrape
  · simp [CollectionRound.readEndpoints, hnil]

theorem scrapes_eq_nil_of_not_parsed (h : s.Settled r)
    (hparse : ∀ collects, parseMetrics (r.answered r.available.values) ≠ .ok collects) : r.scrapes = [] := by
  by_contra hne
  obtain ⟨collects, hcollects⟩ := h.parsed hne
  exact hparse collects hcollects

theorem Settled.cached (h : s.Settled r) (hne : r.scrapes ≠ []) {cache : Dict Int (List SingleMetric)}
    (hcached : ∀ e ∈ r.collected r.available.values, e.2 ≠ [] → cache.contains e.1 = true)
    (hkept : ∀ id, s.Keeps r id → cache.contains id = true) {e : Int × List (List SingleMetric)}
    (he : e ∈ r.collected r.available.values) : cache.contains e.1 = true := by
  by_cases hnil : e.2 = []
  · obtain ⟨inst, hinst, hid, hread⟩ := mem_collected he
    rw [hnil] at hread
    have hends : inst.endpointList = [] := CollectionRound.readEndpoints_eq_nil hread
    rcases h.2.2 hne inst hinst (CollectionRound.isSome_getServerMetricsEndpoints hread) with hscrape | ⟨-, hkeeps⟩
    · rw [CollectionRound.scrape, if_pos hends] at hscrape
      cases hscrape
    · exact hid ▸ hkept _ hkeeps
  · exact hcached e he hnil

/-- A collector that has taken in the scrapes reports their sum, when adding them does not round. -/
theorem reported_of_counted {c : MetricsCollector} {scraped : Dict Int (List SingleMetric)}
    (h : Counted names name label c scraped) (hname : name ≠ kvCacheUsage)
    (hexact : ExactlySummable numberOf (allValues name label scraped)) {ids : List Int}
    {aggregate : List SingleMetric} {instanceMetrics : Dict Int (List SingleMetric)}
    (haggregate : c.aggregateMetricsAllInstance ids = some aggregate)
    (hinstances : c.getSerializeInstanceMetrics ids = some instanceMetrics) (hne : instanceMetrics.entries ≠ []) :
    counterAt name label (aggregate ++ c.coordinatorMetrics r.available) = sumAt name label scraped ∧
      ∀ value ∈ valuesAt name label (aggregate ++ c.coordinatorMetrics r.available), (numberOf value).isSome = true := by
  obtain ⟨id, hid⟩ := contains_of_getSerializeInstanceMetrics hinstances hne
  obtain ⟨aggregate', haggregate', values, hvalues, hparts⟩ := h.aggregateMetricsAllInstance hname hid ids
  rw [haggregate', Option.some.injEq] at haggregate
  subst haggregate
  rw [counterAt, valuesAt_append, valuesAt_coordinatorMetrics, List.append_nil, hvalues, ← sum_allValues, addedUp]
  by_cases hnil : values = []
  · subst hnil
    rw [hparts.eq_zero]
    exact ⟨rfl, fun value hvalue => by cases hvalue⟩
  · have hnumber := hexact _ hparts.addUp
    rw [if_neg hnil, List.map_singleton, List.sum_singleton, hnumber]
    refine ⟨rfl, fun value hvalue => ?_⟩
    rw [List.mem_singleton.1 hvalue, hnumber]
    rfl

theorem Reports.step (h : Reports names name label s) (hname : name ≠ kvCacheUsage) (hregular : r.Regular names name)
    (hsettled : s.Settled r) (hexact : Unrounded name label s r) : Reports names name label (s.step r) := by
  by_cases hrunning : s.collector.running = true
  swap
  · have hstep : s.step r = s := by simp [MetricsService.step, MetricsCollector.updateMetrics, hrunning]
    rw [hstep]
    exact h
  have hscraped : (s.step r).scraped = s.scraped.update r.scrapes := if_pos hrunning
  have hentries := CollectionRound.getServerMetrics_entries hregular.1
  obtain ⟨c, hclear, hcounted, hkeep, hframe⟩ := h.counted.clearInactiveMetrics hname r.unavailable
  have hlast : c.lastMetrics = s.collector.lastMetrics := by rw [hframe]
  -- Without a scrape nothing is told, so the last report still stands.
  have hunchanged : ∀ c' : MetricsCollector, (s.step r).collector = c' → r.scrapes = [] →
      Counted names name label c' s.scraped → c'.lastMetrics = s.collector.lastMetrics →
      Reports names name label (s.step r) := by
    intro c' hc' hnil hcounted' hlast'
    have hsame : (s.step r).scraped = s.scraped := by rw [hscraped, hnil, Dict.update_nil]
    exact ⟨by rw [hc', hsame]; exact hcounted', by rw [hc', hsame, hlast']; exact h.reported,
      by rw [hc', hlast']; exact h.number⟩
  have hround : (s.step r).collector = s.collector.updateMetrics r := rfl
  rw [MetricsCollector.updateMetrics, if_pos hrunning, MetricsCollector.getAndAggregateMetrics, hclear] at hround
  dsimp only at hround
  rw [hentries] at hround
  cases hparse : parseMetrics (r.answered r.available.values) with
  | raised =>
      rw [hparse] at hround
      refine hunchanged _ hround (scrapes_eq_nil_of_not_parsed hsettled fun collects => ?_)
        (hcounted.of_same rfl rfl) hlast
      rw [hparse]
      intro he
      cases he
  | failed =>
      rw [hparse] at hround
      refine hunchanged _ hround (scrapes_eq_nil_of_not_parsed hsettled fun collects => ?_) hcounted hlast
      rw [hparse]
      intro he
      cases he
  | ok collects =>
      have hcollects := CollectionRound.parseMetrics_ok hsettled.1 hparse
      subst hcollects
      have hexposes : ∀ e ∈ r.collected r.available.values, ∀ metrics ∈ e.2, Exposes names name metrics := by
        intro e he metrics hm
        obtain ⟨inst, hinst, -, hread⟩ := mem_collected he
        obtain ⟨en, hen, hmetrics⟩ := CollectionRound.mem_readEndpoints hread hm
        exact hregular.2 inst hinst en hen metrics hmetrics
      have hkept : ∀ id, s.Keeps r id → c.instanceMetricsCached.contains id = true := fun id hid => hkeep id hid.2 hid.1
      obtain ⟨cache, hbyInstance, hcounted', hstays, hcached⟩ := hcounted.aggregateMetricsByInstance hname hexposes
        fun e he hne hscraped => hkept e.1 (hsettled.2.1 _ (mem_scrapes_of_collected he hne) hscraped)
      rw [hparse] at hround
      dsimp only at hround
      rw [hbyInstance] at hround
      dsimp only at hround
      rw [← scrapes_flattened] at hcounted'
      set c' : MetricsCollector := { c with instanceMetricsCached := cache } with hc'
      set ids := (r.collected r.available.values).map Prod.fst with hidsdef
      have hunchanged' : ∀ c'' : MetricsCollector, (s.step r).collector = c'' → r.scrapes = [] →
          c''.instanceMetricsCached = cache → c''.inactiveInstanceMetricsAggregate = c.inactiveInstanceMetricsAggregate →
          c''.lastMetrics = c.lastMetrics → Reports names name label (s.step r) := by
        intro c'' hc'' hnil hcache hhistory hlast'
        rw [hnil, Dict.update_nil] at hcounted'
        exact hunchanged c'' hc'' hnil (hcounted'.of_same hcache hhistory) (hlast'.trans hlast)
      -- With a scrape every collected instance is in the cache, so the report is complete.
      have hall : r.scrapes ≠ [] → (∀ id ∈ ids, cache.contains id = true) ∧ ∃ id, id ∈ ids :=
        fun hne => ⟨fun id hid => by
          obtain ⟨e, he, rfl⟩ := List.mem_map.1 hid
          exact hsettled.cached hne hcached (fun id hid => hstays id (hkept id hid)) he, by
          obtain ⟨e, he⟩ := List.exists_mem_of_ne_nil _ hne
          rw [scrapes_flattened] at he
          obtain ⟨e', he', -⟩ := List.mem_filterMap.1 he
          exact ⟨e'.1, List.mem_map_of_mem he'⟩⟩
      have hinstances : r.scrapes ≠ [] → ∃ instanceMetrics, c'.getSerializeInstanceMetrics ids = some instanceMetrics ∧
          instanceMetrics.entries ≠ [] := by
        intro hne
        obtain ⟨hids, id, hid⟩ := hall hne
        obtain ⟨instanceMetrics, heq, hcontains⟩ := getSerializeInstanceMetrics_some (c := c') hids
        obtain ⟨metrics, hget⟩ := Dict.contains_iff.1 (hcontains id hid)
        exact ⟨instanceMetrics, heq, List.ne_nil_of_mem (Dict.get?_eq_some_iff.1 hget)⟩
      have haggregates : r.scrapes ≠ [] → ∃ aggregate, c'.aggregateMetricsAllInstance ids = some aggregate := by
        intro hne
        obtain ⟨hids, id, hid⟩ := hall hne
        obtain ⟨aggregate, heq, -⟩ := hcounted'.aggregateMetricsAllInstance hname (hids id hid) ids
        exact ⟨aggregate, heq⟩
      cases haggregate : c'.aggregateMetricsAllInstance ids with
      | none =>
          rw [haggregate] at hround
          refine hunchanged' _ hround ?_ rfl rfl rfl
          by_contra hne
          obtain ⟨aggregate, heq⟩ := haggregates hne
          rw [haggregate] at heq
          cases heq
      | some aggregate =>
          cases hserialize : c'.getSerializeInstanceMetrics ids with
          | none =>
              rw [haggregate, hserialize] at hround
              refine hunchanged' _ hround ?_ rfl rfl rfl
              by_contra hne
              obtain ⟨instanceMetrics, heq, -⟩ := hinstances hne
              rw [hserialize] at heq
              cases heq
          | some instanceMetrics =>
              rw [haggregate, hserialize] at hround
              have hmetrics : (aggregate ++ c'.coordinatorMetrics r.available).isEmpty = false := by
                simp [MetricsCollector.coordinatorMetrics]
              dsimp only at hround
              rw [hmetrics, Bool.false_or] at hround
              split at hround
              · rename_i hempty
                refine hunchanged' _ hround ?_ rfl rfl rfl
                by_contra hne
                obtain ⟨instanceMetrics', heq, hentries'⟩ := hinstances hne
                rw [hserialize, Option.some.injEq] at heq
                exact hentries' (heq ▸ List.isEmpty_iff.1 hempty)
              · rename_i hempty
                have hne : instanceMetrics.entries ≠ [] := fun hnil => hempty (List.isEmpty_iff.2 hnil)
                have hexact' : ExactlySummable numberOf (allValues name label (s.scraped.update r.scrapes)) := hscraped ▸ hexact
                obtain ⟨hreported, hnumber⟩ := reported_of_counted hcounted' hname hexact' haggregate hserialize hne
                refine ⟨?_, ?_, ?_⟩
                · rw [hround, hscraped]
                  exact hcounted'.of_same rfl rfl
                · rw [hround, hscraped]
                  exact hreported
                · rw [hround]
                  exact hnumber

/-! ## Growth -/

theorem nodup_scrapes (h : r.Regular names name) : (r.scrapes.map Prod.fst).Nodup := by
  refine (CollectionRound.nodup_ids h.1).sublist ?_
  exact CollectionRound.map_fst_filterMap_sublist ..

theorem scrapes_nonneg {e : Int × List SingleMetric} (h : e ∈ r.scrapes) : 0 ≤ counterAt name label e.2 := by
  rw [scrapes_flattened] at h
  obtain ⟨e', he', hflat⟩ := List.mem_filterMap.1 h
  split at hflat
  · cases hflat
  · cases hflat
    obtain ⟨inst, -, -, hread⟩ := mem_collected he'
    refine counterAt_nonneg fun m hm => ?_
    obtain ⟨metrics, hmetrics, hm⟩ := List.mem_flatten.1 hm
    obtain ⟨en, -, hen⟩ := CollectionRound.mem_readEndpoints hread hmetrics
    exact readMetrics_nonNegative hen m hm

theorem sumAt_update_le {d : Dict Int (List SingleMetric)} {es : List (Int × List SingleMetric)}
    (hnodup : (es.map Prod.fst).Nodup) (hnonneg : ∀ e ∈ es, 0 ≤ counterAt name label e.2)
    (hgrow : ∀ e ∈ es, ∀ old ∈ d.get? e.1, counterAt name label old ≤ counterAt name label e.2) :
    sumAt name label d ≤ sumAt name label (d.update es) := by
  induction es generalizing d with
  | nil => exact le_refl _
  | cons e es ih =>
      rw [List.map_cons, List.nodup_cons] at hnodup
      have hset : sumAt name label d ≤ sumAt name label (d.set e.1 e.2) := by
        rw [sumAt_set]
        have hnew := hnonneg e (List.mem_cons_self ..)
        cases hold : d.get? e.1 with
        | none => simpa using hnew
        | some old =>
            have := hgrow e (List.mem_cons_self ..) old (by rw [hold]; rfl)
            simpa using this
      refine hset.trans (ih hnodup.2 (fun e' he' => hnonneg e' (List.mem_cons_of_mem _ he')) fun e' he' old hold => ?_)
      have hne : e'.1 ≠ e.1 := fun heq => hnodup.1 (List.mem_map.2 ⟨e', he', heq⟩)
      rw [Dict.get?_set_ne hne] at hold
      exact hgrow e' (List.mem_cons_of_mem _ he') old hold

theorem total_le_step (hregular : r.Regular names name) (hgrow : CountersGrow name label s r) :
    s.total name label ≤ (s.step r).total name label := by
  show sumAt name label s.scraped ≤ sumAt name label (s.step r).scraped
  simp only [MetricsService.step]
  split
  · exact sumAt_update_le (nodup_scrapes hregular) (fun e he => scrapes_nonneg he) hgrow
  · exact le_refl _

theorem Reports.countsEach (h : Reports names name label s) (hname : name ≠ kvCacheUsage)
    (hregular : r.Regular names name) (hgrow : CountersGrow name label s r) (hsettled : s.Settled r)
    (hexact : Unrounded name label s r) : CountsEach name label s r := by
  have hstep := h.step hname hregular hsettled hexact
  have hreported := hstep.reported
  refine ⟨hreported, ?_, hstep.number⟩
  rw [h.reported, hreported]
  exact total_le_step hregular hgrow

/-! ## Runs -/

/-- In a run of settled rounds whose values are added without rounding, the reported value of a counter is always the sum
over the instances of what each showed last, and never falls. The name of the usage that is averaged is no counter's. -/
theorem counts_each_along (names : List String) (name label : String) (hname : name ≠ kvCacheUsage)
    (pInstancesNum dInstancesNum : Int) {rounds : List CollectionRound} (hregular : ∀ r ∈ rounds, r.Regular names name)
    (hgrow : Along step (CountersGrow name label) (start pInstancesNum dInstancesNum) rounds)
    (hsettled : Along step Settled (start pInstancesNum dInstancesNum) rounds)
    (hexact : Along step (Unrounded name label) (start pInstancesNum dInstancesNum) rounds) :
    Along step (CountsEach name label) (start pInstancesNum dInstancesNum) rounds := by
  have hboth := (hgrow.and (hsettled.and hexact)).and_forall hregular
  exact along_of_invariant (I := Reports names name label)
    (fun s r h hr => h.step hname hr.1 hr.2.2.1 hr.2.2.2)
    (fun s r h hr => h.countsEach hname hr.1 hr.2.1 hr.2.2.1 hr.2.2.2)
    (reports_start names name label pInstancesNum dInstancesNum) hboth

def soleInstance (id : Int) : Instance :=
  { id := id, role := "prefill",
    endpoints := Dict.empty.set "pod" (Dict.empty.set id { id := id, ip := "10.0.0.1", mgmtPort := "80" }) }

def roundOf (available unavailable : List Int) (value : String) : CollectionRound where
  pools := some (Dict.empty.update (available.map fun id => (id, soleInstance id)),
    Dict.empty.update (unavailable.map fun id => (id, soleInstance id)))
  queryMetrics _ _ := "# HELP requests count\n# TYPE requests counter\nrequests " ++ value

/-- A few whole numbers are added without rounding. -/
theorem exactlySummable_whole {values : List Float} (h : ∀ value ∈ values, ∃ n ≤ 9, value = Float.ofNat n)
    (hsum : (values.map fun value => (numberOf value).getD 0).sum ≤ 9) :
    ExactlySummable numberOf (values : Multiset Float) := by
  have hadd : ∀ i ≤ 9, ∀ j ≤ 9 - i, Float.ofNat i + Float.ofNat j = Float.ofNat (i + j) := by decide +kernel
  have hnumber : ∀ i ≤ 9, numberOf (Float.ofNat i) = some (i : ℚ) := by decide +kernel
  exact exact_of_scale Float.ofNat 9 rfl (fun i j hle => hadd i (by omega) j (by omega)) hnumber
    (fun value hvalue => h value hvalue) (by simpa using hsum)

theorem counts_each_along_moved : Along step (CountsEach "requests" "requests") (start 1 1)
    [roundOf [1] [] "5", roundOf [2] [1] "3", roundOf [2] [1] "4"] :=
  counts_each_along ["requests"] "requests" "requests" (by decide) 1 1 (by decide +kernel) (by decide +kernel)
    (by decide +kernel) ⟨exactlySummable_whole (by decide +kernel) (by decide +kernel),
      exactlySummable_whole (by decide +kernel) (by decide +kernel),
      exactlySummable_whole (by decide +kernel) (by decide +kernel), trivial⟩

/-- An instance that was unavailable for a round and is back counts twice. -/
theorem not_countsEach_returned :
    (∀ r ∈ [roundOf [1] [] "5", roundOf [] [1] "5", roundOf [1] [] "6"], r.Regular ["requests"] "requests") ∧
      Along step (CountersGrow "requests" "requests") (start 1 1)
        [roundOf [1] [] "5", roundOf [] [1] "5", roundOf [1] [] "6"] ∧
      ¬ Along step (CountsEach "requests" "requests") (start 1 1)
        [roundOf [1] [] "5", roundOf [] [1] "5", roundOf [1] [] "6"] := by
  refine ⟨by decide +kernel, by decide +kernel, fun h => ?_⟩
  exact absurd h.2.2.1.1 (by decide +kernel)

end MetricsService

end PyMotor
