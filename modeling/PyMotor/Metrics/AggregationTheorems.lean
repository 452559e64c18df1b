import PyMotor.Metrics.Lemmas.Aggregate

/-!
# When an aggregate shows what it should

An input is a list of metrics, of an endpoint or of an instance, and tells whether it is active. The names of an aggregate
are those of the longest list, so that list must have all the names. Values are added up one after the other, so the order
of the lists matters where the addition rounds.
-/

namespace PyMotor

open Lib

/-- Equal up to the order of the samples. -/
structure SingleMetric.Same (m m' : SingleMetric) : Prop where
  name : m.name = m'.name
  help : m.help = m'.help
  type : m.type = m'.type
  samples : m.samples.Perm m'.samples

def SameMetrics (result result' : List SingleMetric) : Prop :=
  ∃ reordered, reordered.Perm result' ∧ List.Forall₂ SingleMetric.Same result reordered

theorem exists_mem_of_sameMetrics {result result' : List SingleMetric} (h : SameMetrics result result') {m' : SingleMetric}
    (hm' : m' ∈ result') : ∃ m ∈ result, SingleMetric.Same m m' := by
  obtain ⟨reordered, hperm, hsame⟩ := h
  have hmem := hperm.mem_iff.mpr hm'
  clear hperm hm'
  induction hsame with
  | nil => cases hmem
  | cons hhead _ ih =>
      rcases List.mem_cons.mp hmem with rfl | htail
      · exact ⟨_, List.mem_cons_self .., hhead⟩
      · obtain ⟨m, hm, hsame⟩ := ih htail
        exact ⟨m, List.mem_cons_of_mem _ hm, hsame⟩

/-! ## Names -/

theorem mem_keys_of_groupByName {metrics : List SingleMetric} {aggrInput groups : Dict String (List SingleMetric)}
    (h : groupByName aggrInput metrics = some groups) : ∀ m ∈ metrics, m.name ∈ aggrInput.keys := by
  induction metrics generalizing aggrInput with
  | nil => exact fun m hm => by cases hm
  | cons m metrics ih =>
      rw [groupByName] at h
      split at h
      · rename_i hcontains
        have hrest := ih h
        rw [Dict.keys_adjust] at hrest
        exact List.forall_mem_cons.mpr ⟨Dict.contains_iff_mem_keys.mp hcontains, hrest⟩
      · cases h

theorem names_of_aggregate {metricsList : List (List SingleMetric)} {result : List SingleMetric}
    (h : aggregateMetricsCommon metricsList = some result) :
    ∀ m ∈ metricsList.flatten, m.name ∈ (longestMetrics metricsList).map SingleMetric.name := by
  rw [aggregateMetricsCommon, Option.bind_eq_bind, Option.bind_eq_some_iff] at h
  obtain ⟨groups, hgroups, -⟩ := h
  intro m hm
  obtain ⟨group, hgroup⟩ := Dict.mem_keys_iff.mp (mem_keys_of_groupByName hgroups m hm)
  rcases Dict.get?_update_or hgroup with hmem | hempty
  · obtain ⟨m', hm', heq⟩ := List.mem_map.mp hmem
    have hname : m'.name = m.name := congrArg Prod.fst heq
    rw [← hname]
    exact List.mem_map_of_mem hm'
  · cases hempty

theorem names_longest_iff {metricsList : List (List SingleMetric)} (hne : metricsList ≠ [])
    (hnodup : ∀ metrics ∈ metricsList, (metrics.map SingleMetric.name).Nodup) :
    (∀ m ∈ metricsList.flatten, m.name ∈ (longestMetrics metricsList).map SingleMetric.name) ↔
      ∃ metrics ∈ metricsList, ∀ m ∈ metricsList.flatten, m.name ∈ metrics.map SingleMetric.name := by
  obtain ⟨hlongest, hle⟩ := longestMetrics_spec hne
  constructor
  · intro h
    exact ⟨_, hlongest, h⟩
  · rintro ⟨metrics, hmem, h⟩ m hm
    have hsubset : (longestMetrics metricsList).map SingleMetric.name ⊆ metrics.map SingleMetric.name := by
      intro n hn
      obtain ⟨m', hm', rfl⟩ := List.mem_map.mp hn
      exact h m' (List.mem_flatten.mpr ⟨_, hlongest, hm'⟩)
    have hperm := ((hnodup _ hlongest).subperm hsubset).perm_of_length_le (by simpa using hle metrics hmem)
    exact hperm.mem_iff.mpr (h m hm)

/-! ## The metrics of one name -/

section Group

variable {n label : String} {group : List SingleMetric}

def groupSamples (n : String) (group : List SingleMetric) : Dict String Float :=
  if n = kvCacheUsage then aggregateLabelsByMean group else aggregateLabelsBySum group

theorem groupAggregate_samples (hne : group ≠ []) (h : ∀ m ∈ group, m.name = n) :
    (groupAggregate group).samples = (groupSamples n group).entries := by
  cases group with
  | nil => exact absurd rfl hne
  | cons m group =>
      have hm : m.name = n := h m (List.mem_cons_self ..)
      simp only [groupAggregate, aggregateMetricCommon, groupSamples, hm]

theorem get?_groupSamples : (groupSamples n group).get? label =
    if label ∈ (group.flatMap SingleMetric.samples).map Prod.fst then
      some (if n = kvCacheUsage then addUp (amounts (group.flatMap SingleMetric.samples) label) / .ofNat group.length
        else addUp (amounts (group.flatMap SingleMetric.samples) label))
    else none := by
  unfold groupSamples aggregateLabelsByMean aggregateLabelsBySum
  split
  · rw [Dict.get?_mapValues, get?_tally]
    split <;> rfl
  · rw [get?_tally]

theorem mem_labels_groupSamples : label ∈ (groupSamples n group).entries.map Prod.fst ↔
    label ∈ (group.flatMap SingleMetric.samples).map Prod.fst := by
  rw [← Dict.keys, Dict.mem_keys_iff, get?_groupSamples]
  split
  · rename_i hlabel
    exact iff_of_true ⟨_, rfl⟩ hlabel
  · rename_i hlabel
    exact iff_of_false (by simp) hlabel

theorem groupAggregate_texts (hne : group ≠ []) :
    ∃ m ∈ group, (groupAggregate group).help = m.help ∧ (groupAggregate group).type = m.type := by
  cases group with
  | nil => exact absurd rfl hne
  | cons m group => exact ⟨m, List.mem_cons_self .., rfl, rfl⟩

theorem named_append (n : String) (metrics metrics' : List SingleMetric) :
    named n (metrics ++ metrics') = named n metrics ++ named n metrics' := List.filter_append ..

theorem length_named {metrics : List SingleMetric} (h : (metrics.map SingleMetric.name).Nodup) :
    (named n metrics).length = if n ∈ metrics.map SingleMetric.name then 1 else 0 := by
  have hcount : (named n metrics).length = (metrics.map SingleMetric.name).count n := by
    rw [named, ← List.countP_eq_length_filter, List.count, List.countP_map]
    rfl
  rw [hcount]
  split
  · rename_i hmem
    exact List.count_eq_one_of_mem h hmem
  · rename_i hmem
    exact List.count_eq_zero_of_not_mem hmem

theorem named_eq_singleton {metrics : List SingleMetric} (hnodup : (metrics.map SingleMetric.name).Nodup)
    {m : SingleMetric} (hm : m ∈ metrics) : named m.name metrics = [m] := by
  have hmem : m ∈ named m.name metrics := List.mem_filter.mpr ⟨hm, by simp⟩
  have hlength : (named m.name metrics).length = 1 := by
    rw [length_named hnodup, if_pos (List.mem_map_of_mem hm)]
  obtain ⟨m', hm'⟩ := List.length_eq_one_iff.mp hlength
  rw [hm', List.mem_singleton] at hmem
  rw [hm', hmem]

end Group

/-! ## What an aggregate is to show -/

abbrev AggregationInput := Bool × List SingleMetric

namespace AggregationInput

def lists (inputs : List AggregationInput) : List (List SingleMetric) := inputs.map Prod.snd

def has (name : String) (input : AggregationInput) : Bool := decide (name ∈ input.2.map SingleMetric.name)

def actives (inputs : List AggregationInput) : List AggregationInput := inputs.filter Prod.fst

section

variable (inputs : List AggregationInput)

def Occurs (name label : String) : Prop :=
  ∃ input ∈ inputs, ∃ m ∈ input.2, m.name = name ∧ label ∈ m.samples.map Prod.fst

/-- The values at a name and a label, in the order of the inputs. -/
def values (name label : String) : List Float :=
  inputs.flatMap fun input => amounts ((named name input.2).flatMap SingleMetric.samples) label

def total (name label : String) : Float := addUp (values inputs name label)

/-- The mean over the inputs that have the name. -/
def mean (name label : String) : Float :=
  if inputs.countP (has name) = 0 then 0 else total inputs name label / .ofNat (inputs.countP (has name))

/-- The value at a name and a label. -/
def expected (name label : String) : Float :=
  if name = kvCacheUsage then mean (actives inputs) name label else total inputs name label

/-- One entry for each name, in it one sample for each label, and the values that are expected. -/
structure Shows (result : List SingleMetric) : Prop where
  nodup : (result.map SingleMetric.name).Nodup
  names : ∀ name, name ∈ result.map SingleMetric.name ↔ ∃ input ∈ inputs, name ∈ input.2.map SingleMetric.name
  labels : ∀ m ∈ result, (m.samples.map Prod.fst).Nodup ∧
    ∀ label, label ∈ m.samples.map Prod.fst ↔ Occurs inputs m.name label
  values : ∀ m ∈ result, ∀ sample ∈ m.samples, sample.2 = expected inputs m.name sample.1

/-- What aggregating is for. -/
structure Aggregates : Prop where
  shows : ∃ result, aggregateMetricsCommon (lists inputs) = some result ∧ Shows inputs result
  ordered : ∀ inputs' result, inputs'.Perm inputs → aggregateMetricsCommon (lists inputs) = some result →
    ∃ result', aggregateMetricsCommon (lists inputs') = some result' ∧ SameMetrics result result'

/-- Some input has every name, and the metrics of a name have one help text and one type. In whatever order the inputs
come, the values of a name and a label add up to one value, and the cache usage has the mean of the active inputs. -/
structure Homogeneous : Prop where
  names : ∃ input ∈ inputs, ∀ input' ∈ inputs, ∀ m ∈ input'.2, m.name ∈ input.2.map SingleMetric.name
  texts : ∀ input ∈ inputs, ∀ input' ∈ inputs, ∀ m ∈ input.2, ∀ m' ∈ input'.2, m.name = m'.name →
    m.help = m'.help ∧ m.type = m'.type
  sums : ∀ inputs', inputs'.Perm inputs → ∀ name label, name ≠ kvCacheUsage →
    total inputs' name label = total inputs name label
  usage : ∀ inputs', inputs'.Perm inputs → ∀ label, Occurs inputs kvCacheUsage label →
    mean inputs' kvCacheUsage label = mean (actives inputs) kvCacheUsage label

end

variable {inputs inputs' : List AggregationInput} {n label : String}

/-! ## Values -/

theorem amounts_flatten (inputs : List AggregationInput) (n label : String) :
    amounts ((named n (lists inputs).flatten).flatMap SingleMetric.samples) label = values inputs n label := by
  induction inputs with
  | nil => rfl
  | cons input inputs ih =>
      simp only [lists, List.map_cons, List.flatten_cons, named_append, List.flatMap_append, amounts_append, values,
        List.flatMap_cons] at ih ⊢
      rw [ih]

theorem length_flatten (hnodup : ∀ input ∈ inputs, (input.2.map SingleMetric.name).Nodup) :
    (named n (lists inputs).flatten).length = inputs.countP (has n) := by
  induction inputs with
  | nil => rfl
  | cons input inputs ih =>
      rw [List.forall_mem_cons] at hnodup
      have hrest := ih hnodup.2
      simp only [lists, List.map_cons, List.flatten_cons, named_append, List.length_append, List.countP_cons] at hrest ⊢
      rw [hrest, length_named hnodup.1, Nat.add_comm]
      simp [has]

theorem mem_names_flatten : n ∈ (lists inputs).flatten.map SingleMetric.name ↔
    ∃ input ∈ inputs, n ∈ input.2.map SingleMetric.name := by
  simp only [lists, List.mem_map, List.mem_flatten]
  constructor
  · rintro ⟨m, ⟨metrics, ⟨input, hinput, rfl⟩, hm⟩, rfl⟩
    exact ⟨input, hinput, m, hm, rfl⟩
  · rintro ⟨input, hinput, m, hm, rfl⟩
    exact ⟨m, ⟨input.2, ⟨input, hinput, rfl⟩, hm⟩, rfl⟩

theorem mem_labels_flatten :
    label ∈ ((named n (lists inputs).flatten).flatMap SingleMetric.samples).map Prod.fst ↔ Occurs inputs n label := by
  simp only [named, lists, List.mem_map, List.mem_flatMap, List.mem_filter, List.mem_flatten, decide_eq_true_eq, Occurs]
  constructor
  · rintro ⟨sample, ⟨m, ⟨⟨metrics, ⟨input, hinput, rfl⟩, hm⟩, hmn⟩, hsample⟩, rfl⟩
    exact ⟨input, hinput, m, hm, hmn, sample, hsample, rfl⟩
  · rintro ⟨input, hinput, m, hm, hmn, sample, hsample, rfl⟩
    exact ⟨sample, ⟨m, ⟨⟨input.2, ⟨input, hinput, rfl⟩, hm⟩, hmn⟩, hsample⟩, rfl⟩

theorem values_eq_nil_iff : values inputs n label = [] ↔ ¬ Occurs inputs n label := by
  rw [← amounts_flatten, ← mem_labels_flatten, ← amounts_ne_nil_iff, not_not]

theorem Occurs.perm (h : Occurs inputs n label) (hperm : inputs'.Perm inputs) : Occurs inputs' n label := by
  obtain ⟨input, hinput, hm⟩ := h
  exact ⟨input, hperm.mem_iff.mpr hinput, hm⟩

theorem Occurs.mem_names (h : Occurs inputs n label) : n ∈ (lists inputs).flatten.map SingleMetric.name := by
  obtain ⟨input, hinput, m, hm, hmn, -⟩ := h
  exact mem_names_flatten.mpr ⟨input, hinput, List.mem_map.mpr ⟨m, hm, hmn⟩⟩

theorem Occurs.mean_eq (h : Occurs inputs n label) :
    mean inputs n label = total inputs n label / .ofNat (inputs.countP (has n)) := by
  have hpos : 0 < inputs.countP (has n) := by
    obtain ⟨input, hinput, hmem⟩ := mem_names_flatten.mp h.mem_names
    exact List.countP_pos_iff.mpr ⟨input, hinput, decide_eq_true hmem⟩
  rw [mean, if_neg (by omega)]

theorem mean_actives (h : ∀ input ∈ inputs, input.1 = false → has n input = false) :
    mean (actives inputs) n label = mean inputs n label := by
  have hnone : ∀ input : AggregationInput, has n input = false →
      amounts ((named n input.2).flatMap SingleMetric.samples) label = [] := by
    intro input hinput
    have hnil : named n input.2 = [] := by
      refine List.filter_eq_nil_iff.mpr fun m hm hmn => of_decide_eq_false hinput ?_
      exact List.mem_map.mpr ⟨m, hm, by simpa using hmn⟩
    rw [hnil]
    rfl
  have hvalues : values (actives inputs) n label = values inputs n label ∧
      (actives inputs).countP (has n) = inputs.countP (has n) := by
    induction inputs with
    | nil => exact ⟨rfl, rfl⟩
    | cons input inputs ih =>
        rw [List.forall_mem_cons] at h
        obtain ⟨hvalues, hcount⟩ := ih h.2
        obtain ⟨active, metrics⟩ := input
        cases active with
        | true =>
            have hactives : actives ((true, metrics) :: inputs) = (true, metrics) :: actives inputs := rfl
            rw [hactives, List.countP_cons, List.countP_cons, hcount]
            exact ⟨congrArg _ hvalues, rfl⟩
        | false =>
            have hactives : actives ((false, metrics) :: inputs) = actives inputs := rfl
            have hhas := h.1 rfl
            have hcons : values ((false, metrics) :: inputs) n label = values inputs n label := by
              rw [values, List.flatMap_cons, hnone _ hhas, List.nil_append]
              rfl
            rw [hactives, hvalues, hcount, hcons, List.countP_cons_of_neg (by simp [hhas])]
            exact ⟨rfl, rfl⟩
  rw [mean, mean, total, total, hvalues.1, hvalues.2]

/-! ## What an aggregate shows -/

variable {keys keys' : List String}

/-- The metrics of an aggregate whose names are `keys`. -/
def aggregated (inputs : List AggregationInput) (keys : List String) : List SingleMetric :=
  keys.map fun n => groupAggregate (named n (lists inputs).flatten)

/-- The value that an aggregate has. -/
def reading (inputs : List AggregationInput) (n label : String) : Float :=
  if n = kvCacheUsage then mean inputs n label else total inputs n label

/-- The keys are the names that occur, each once. -/
structure NamedBy (inputs : List AggregationInput) (keys : List String) : Prop where
  nodup : keys.Nodup
  mem_iff : ∀ n, n ∈ keys ↔ n ∈ (lists inputs).flatten.map SingleMetric.name

theorem NamedBy.samples (h : NamedBy inputs keys) (hn : n ∈ keys) :
    (groupAggregate (named n (lists inputs).flatten)).name = n ∧
      (groupAggregate (named n (lists inputs).flatten)).samples =
        (groupSamples n (named n (lists inputs).flatten)).entries := by
  have hne := named_ne_nil ((h.mem_iff n).mp hn)
  exact ⟨groupAggregate_name hne fun m hm => name_of_mem_named hm,
    groupAggregate_samples hne fun m hm => name_of_mem_named hm⟩

theorem NamedBy.map_name (h : NamedBy inputs keys) : (aggregated inputs keys).map SingleMetric.name = keys := by
  rw [aggregated, List.map_map]
  exact (List.map_congr_left fun n hn => (h.samples hn).1).trans (List.map_id keys)

theorem get?_groupSamples_named (hnodup : ∀ input ∈ inputs, (input.2.map SingleMetric.name).Nodup) :
    (groupSamples n (named n (lists inputs).flatten)).get? label =
      if label ∈ ((named n (lists inputs).flatten).flatMap SingleMetric.samples).map Prod.fst then
        some (reading inputs n label)
      else none := by
  rw [get?_groupSamples, amounts_flatten, length_flatten hnodup]
  by_cases hoccurs : Occurs inputs n label
  · rw [if_pos (mem_labels_flatten.mpr hoccurs), if_pos (mem_labels_flatten.mpr hoccurs), reading, hoccurs.mean_eq]
    rfl
  · rw [if_neg (mt mem_labels_flatten.mp hoccurs), if_neg (mt mem_labels_flatten.mp hoccurs)]

theorem NamedBy.value (h : NamedBy inputs keys) (hnodup : ∀ input ∈ inputs, (input.2.map SingleMetric.name).Nodup)
    {m : SingleMetric} (hm : m ∈ aggregated inputs keys) {value : Float} :
    (label, value) ∈ m.samples ↔ Occurs inputs m.name label ∧ value = reading inputs m.name label := by
  obtain ⟨n, hn, rfl⟩ := List.mem_map.mp hm
  obtain ⟨hname, hsamples⟩ := h.samples hn
  rw [hsamples, hname, ← Dict.get?_eq_some_iff, get?_groupSamples_named hnodup, ← mem_labels_flatten]
  split
  · rename_i hlabel
    rw [Option.some.injEq]
    exact ⟨fun h => ⟨hlabel, h.symm⟩, fun h => h.2.symm⟩
  · rename_i hlabel
    constructor
    · intro h
      cases h
    · exact fun h => absurd h.1 hlabel

theorem NamedBy.exists_sample (h : NamedBy inputs keys)
    (hnodup : ∀ input ∈ inputs, (input.2.map SingleMetric.name).Nodup) (hoccurs : Occurs inputs n label) :
    ∃ m ∈ aggregated inputs keys, m.name = n ∧ (label, reading inputs n label) ∈ m.samples := by
  have hn := (h.mem_iff n).mpr hoccurs.mem_names
  have hm : groupAggregate (named n (lists inputs).flatten) ∈ aggregated inputs keys := List.mem_map_of_mem hn
  have hname := (h.samples hn).1
  refine ⟨_, hm, hname, (h.value hnodup hm).mpr ⟨hname.symm ▸ hoccurs, ?_⟩⟩
  rw [hname]

theorem NamedBy.shows (h : NamedBy inputs keys) (hnodup : ∀ input ∈ inputs, (input.2.map SingleMetric.name).Nodup)
    (husage : ∀ label, Occurs inputs kvCacheUsage label →
      mean inputs kvCacheUsage label = mean (actives inputs) kvCacheUsage label) :
    Shows inputs (aggregated inputs keys) := by
  refine ⟨?_, fun n => ?_, fun m hm => ?_, fun m hm sample hsample => ?_⟩
  · rw [h.map_name]
    exact h.nodup
  · rw [h.map_name, h.mem_iff, mem_names_flatten]
  · obtain ⟨n, hn, rfl⟩ := List.mem_map.mp hm
    obtain ⟨hname, hsamples⟩ := h.samples hn
    rw [hsamples, hname]
    refine ⟨(groupSamples n _).nodup, fun label => ?_⟩
    rw [mem_labels_groupSamples, mem_labels_flatten]
  · obtain ⟨label, value⟩ := sample
    obtain ⟨hoccurs, hvalue⟩ := (h.value hnodup hm).mp hsample
    rw [hvalue, reading, expected]
    split
    · rename_i hkv
      rw [hkv] at hoccurs ⊢
      exact husage label hoccurs
    · rfl

/-! ## Names in all orders -/

theorem names_iff (hne : inputs ≠ []) (hnodup : ∀ input ∈ inputs, (input.2.map SingleMetric.name).Nodup) :
    (∀ m ∈ (lists inputs).flatten, m.name ∈ (longestMetrics (lists inputs)).map SingleMetric.name) ↔
      ∃ input ∈ inputs, ∀ input' ∈ inputs, ∀ m ∈ input'.2, m.name ∈ input.2.map SingleMetric.name := by
  have hmem : ∀ m, m ∈ (lists inputs).flatten ↔ ∃ input ∈ inputs, m ∈ input.2 := by
    intro m
    simp only [lists, List.mem_flatten, List.mem_map]
    constructor
    · rintro ⟨metrics, ⟨input, hinput, rfl⟩, hm⟩
      exact ⟨input, hinput, hm⟩
    · rintro ⟨input, hinput, hm⟩
      exact ⟨input.2, ⟨input, hinput, rfl⟩, hm⟩
  rw [names_longest_iff (by simpa [lists] using hne) (by simpa only [lists, List.forall_mem_map] using hnodup)]
  constructor
  · rintro ⟨metrics, hmetrics, h⟩
    obtain ⟨input, hinput, rfl⟩ := List.mem_map.mp hmetrics
    exact ⟨input, hinput, fun input' hinput' m hm => h m ((hmem m).mpr ⟨input', hinput', hm⟩)⟩
  · rintro ⟨input, hinput, h⟩
    refine ⟨input.2, List.mem_map_of_mem hinput, fun m hm => ?_⟩
    obtain ⟨input', hinput', hm⟩ := (hmem m).mp hm
    exact h input' hinput' m hm

theorem exists_aggregate (hne : inputs ≠ [])
    (h : ∀ m ∈ (lists inputs).flatten, m.name ∈ (longestMetrics (lists inputs)).map SingleMetric.name) :
    ∃ keys, NamedBy inputs keys ∧ aggregateMetricsCommon (lists inputs) = some (aggregated inputs keys) := by
  obtain ⟨keys, hnodup, -, hkeys, haggregate⟩ := aggregateMetricsCommon_some (by simpa [lists] using hne) h
  exact ⟨keys, ⟨hnodup, hkeys⟩, haggregate⟩

theorem aggregate_eq {result : List SingleMetric} (hne : inputs ≠ [])
    (h : aggregateMetricsCommon (lists inputs) = some result) :
    ∃ keys, NamedBy inputs keys ∧ result = aggregated inputs keys := by
  obtain ⟨keys, hkeys, haggregate⟩ := exists_aggregate hne (names_of_aggregate h)
  rw [h, Option.some.injEq] at haggregate
  exact ⟨keys, hkeys, haggregate⟩

/-! ## Other orders -/

theorem Aggregates.reading_eq (h : Aggregates inputs) (hne : inputs ≠ [])
    (hnodup : ∀ input ∈ inputs, (input.2.map SingleMetric.name).Nodup) (hperm : inputs'.Perm inputs)
    (hoccurs : Occurs inputs n label) : reading inputs' n label = expected inputs n label := by
  obtain ⟨result, hresult, hshows⟩ := h.shows
  obtain ⟨result', hresult', hsame⟩ := h.ordered inputs' result hperm hresult
  have hne' : inputs' ≠ [] := by
    rintro rfl
    exact hne hperm.nil_eq.symm
  obtain ⟨keys', hkeys', rfl⟩ := aggregate_eq hne' hresult'
  have hnodup' : ∀ input ∈ inputs', (input.2.map SingleMetric.name).Nodup :=
    fun input hinput => hnodup input (hperm.mem_iff.mp hinput)
  obtain ⟨m', hm', hname', hsample'⟩ := hkeys'.exists_sample hnodup' (hoccurs.perm hperm)
  obtain ⟨m, hm, hmm'⟩ := exists_mem_of_sameMetrics hsame hm'
  have hvalue := hshows.values m hm _ (hmm'.samples.mem_iff.mpr hsample')
  rw [hmm'.name, hname'] at hvalue
  exact hvalue

theorem Aggregates.texts (h : Aggregates inputs) (hnodup : ∀ input ∈ inputs, (input.2.map SingleMetric.name).Nodup)
    {result : List SingleMetric} (hresult : aggregateMetricsCommon (lists inputs) = some result)
    {input : AggregationInput} (hinput : input ∈ inputs) {m : SingleMetric} (hm : m ∈ input.2) :
    ∃ m' ∈ result, m'.name = m.name ∧ m'.help = m.help ∧ m'.type = m.type := by
  obtain ⟨before, after, rfl⟩ := List.append_of_mem hinput
  obtain ⟨result', hresult', hsame⟩ := h.ordered (input :: (before ++ after)) result List.perm_middle.symm hresult
  obtain ⟨keys, hkeys, rfl⟩ := aggregate_eq (List.cons_ne_nil _ _) hresult'
  have hgroup : named m.name (lists (input :: (before ++ after))).flatten =
      m :: named m.name (lists (before ++ after)).flatten := by
    rw [lists, List.map_cons, List.flatten_cons, named_append, named_eq_singleton (hnodup input hinput) hm]
    rfl
  have hkey : m.name ∈ keys :=
    (hkeys.mem_iff _).mpr (mem_names_flatten.mpr ⟨input, List.mem_cons_self .., List.mem_map_of_mem hm⟩)
  obtain ⟨m', hm', heq⟩ := exists_mem_of_sameMetrics hsame (List.mem_map_of_mem hkey)
  rw [hgroup] at heq
  exact ⟨m', hm', heq.name, heq.help, heq.type⟩

theorem Aggregates.homogeneous (h : Aggregates inputs) (hne : inputs ≠ [])
    (hnodup : ∀ input ∈ inputs, (input.2.map SingleMetric.name).Nodup) : Homogeneous inputs := by
  obtain ⟨result, hresult, hshows⟩ := id h.shows
  refine ⟨(names_iff hne hnodup).mp (names_of_aggregate hresult), fun input hinput input' hinput' m hm m' hm' hmm' => ?_,
    fun inputs' hperm n label hn => ?_, fun inputs' hperm label hoccurs => ?_⟩
  · obtain ⟨x, hx, hname, hhelp, htype⟩ := h.texts hnodup hresult hinput hm
    obtain ⟨x', hx', hname', hhelp', htype'⟩ := h.texts hnodup hresult hinput' hm'
    have hxx' : x = x' := List.inj_on_of_nodup_map hshows.nodup hx hx' (hname.trans (hmm'.trans hname'.symm))
    subst hxx'
    exact ⟨hhelp.symm.trans hhelp', htype.symm.trans htype'⟩
  · by_cases hoccurs : Occurs inputs n label
    · have hvalue := h.reading_eq hne hnodup hperm hoccurs
      rwa [reading, if_neg hn, expected, if_neg hn] at hvalue
    · have hnil' : values inputs' n label = [] := values_eq_nil_iff.mpr fun h' => hoccurs (h'.perm hperm.symm)
      rw [total, total, hnil', values_eq_nil_iff.mpr hoccurs]
  · have hvalue := h.reading_eq hne hnodup hperm hoccurs
    rwa [reading, if_pos rfl, expected, if_pos rfl] at hvalue

theorem Homogeneous.sameMetrics (h : Homogeneous inputs) (hnodup : ∀ input ∈ inputs, (input.2.map SingleMetric.name).Nodup)
    (hkeys : NamedBy inputs keys) (hkeys' : NamedBy inputs' keys') (hperm : inputs'.Perm inputs) :
    SameMetrics (aggregated inputs keys) (aggregated inputs' keys') := by
  have hflatten : (lists inputs').flatten.Perm (lists inputs).flatten := (hperm.map _).flatten
  have hkeysPerm : keys.Perm keys' := by
    refine (List.perm_ext_iff_of_nodup hkeys.nodup hkeys'.nodup).mpr fun n => ?_
    rw [hkeys.mem_iff, hkeys'.mem_iff]
    exact (hflatten.map _).symm.mem_iff
  have hreading : ∀ n label, Occurs inputs n label → reading inputs n label = reading inputs' n label := by
    intro n label hoccurs
    rw [reading, reading]
    split
    · rename_i hkv
      subst hkv
      exact (h.usage inputs (.refl _) label hoccurs).trans (h.usage inputs' hperm label hoccurs).symm
    · rename_i hkv
      exact (h.sums inputs' hperm n label hkv).symm
  refine ⟨aggregated inputs' keys, hkeysPerm.map _, ?_⟩
  refine List.forall₂_map_left_iff.mpr (List.forall₂_map_right_iff.mpr (List.forall₂_same.mpr fun n hn => ?_))
  have hgroup : (named n (lists inputs').flatten).Perm (named n (lists inputs).flatten) := hflatten.filter _
  obtain ⟨hname, hsamples⟩ := hkeys.samples hn
  obtain ⟨hname', hsamples'⟩ := hkeys'.samples (hkeysPerm.mem_iff.mp hn)
  obtain ⟨m, hm, hhelp, htype⟩ := groupAggregate_texts (named_ne_nil ((hkeys.mem_iff n).mp hn))
  obtain ⟨m', hm', hhelp', htype'⟩ :=
    groupAggregate_texts (named_ne_nil ((hkeys'.mem_iff n).mp (hkeysPerm.mem_iff.mp hn)))
  have hmem : ∀ m ∈ named n (lists inputs).flatten, ∃ input ∈ inputs, m ∈ input.2 := by
    intro m hm
    obtain ⟨metrics, hmetrics, hm⟩ := List.mem_flatten.mp (List.mem_filter.mp hm).1
    obtain ⟨input, hinput, rfl⟩ := List.mem_map.mp hmetrics
    exact ⟨input, hinput, hm⟩
  obtain ⟨input, hinput, hmin⟩ := hmem m hm
  obtain ⟨input', hinput', hmin'⟩ := hmem m' (hgroup.mem_iff.mp hm')
  obtain ⟨hhelps, htypes⟩ := h.texts input hinput input' hinput' m hmin m' hmin'
    ((name_of_mem_named hm).trans (name_of_mem_named hm').symm)
  refine ⟨hname.trans hname'.symm, ?_, ?_, ?_⟩
  · rw [hhelp, hhelp', hhelps]
  · rw [htype, htype', htypes]
  · rw [hsamples, hsamples']
    refine Dict.perm_entries fun label => ?_
    have hlabels := ((hgroup.flatMap_right SingleMetric.samples).map Prod.fst).mem_iff (a := label)
    rw [get?_groupSamples_named hnodup, get?_groupSamples_named fun input hinput => hnodup input (hperm.mem_iff.mp hinput)]
    by_cases hoccurs : Occurs inputs n label
    · have hlabel := mem_labels_flatten.mpr hoccurs
      rw [if_pos hlabel, if_pos (hlabels.mpr hlabel), hreading n label hoccurs]
    · have hlabel := mt mem_labels_flatten.mp hoccurs
      rw [if_neg hlabel, if_neg (mt hlabels.mp hlabel)]

def running : List AggregationInput :=
  [(true, [{ name := kvCacheUsage, samples := [("vllm:kv_cache_usage_perc", 0.5)] },
      { name := "vllm:prompt_tokens", samples := [("vllm:prompt_tokens", 3.0)] }]),
    (false, [{ name := "vllm:prompt_tokens", samples := [("vllm:prompt_tokens", 2.0)] }])]

theorem homogeneous_running : Homogeneous running := by
  refine ⟨⟨_, List.mem_cons_self .., ?_⟩, ?_, fun inputs' hperm n label hn => ?_, fun inputs' hperm label _ => ?_⟩
  · simp [running]
  · simp [running, kvCacheUsage]
  · rcases List.perm_pair.mp hperm with rfl | rfl
    · rfl
    · by_cases hname : "vllm:prompt_tokens" = n
      · by_cases hlabel : "vllm:prompt_tokens" = label
        · have hsum : addUp [2.0, 3.0] = addUp [3.0, (2.0 : Float)] := by decide +kernel
          subst hname hlabel
          exact hsum
        · simp [total, values, running, named, amounts, hlabel, kvCacheUsage, ← hname]
      · simp [total, values, running, named, hname, hn.symm]
  · have hactives : mean (actives running) kvCacheUsage label = mean running kvCacheUsage label := by
      refine mean_actives ?_
      simp [running, has, kvCacheUsage]
    rw [hactives]
    rcases List.perm_pair.mp hperm with rfl | rfl
    · rfl
    · simp [mean, total, values, running, named, amounts, has, kvCacheUsage]

def heterogeneous : List AggregationInput :=
  [(true, [{ name := "vllm:prompt_tokens", samples := [("vllm:prompt_tokens", 1.0)] }]),
    (true, [{ name := "vllm:generation_tokens", samples := [("vllm:generation_tokens", 2.0)] }])]

end AggregationInput

end PyMotor
