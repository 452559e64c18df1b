import PyMotor.Lib.Ledger
import PyMotor.Lib.Text
import PyMotor.Resources.Instance

/-!
# The metrics collector

`motor/coordinator/metrics/metrics_collector.py`. The labels and the values of a metric are one list of pairs. The
metrics that are served are kept as they are before `_get_serialize_metrics` writes them out.
-/

namespace PyMotor

open Lib

inductive MetricType
  | gauge
  | counter
  | histogram
  | summary
  | none
deriving DecidableEq, Repr

/-- `MetricType.from_string`, with `none` for a `KeyError`. -/
def MetricType.fromString (typeString : List Char) : Option MetricType :=
  match String.ofList (Text.upper typeString) with
  | "GAUGE" => some .gauge
  | "COUNTER" => some .counter
  | "HISTOGRAM" => some .histogram
  | "SUMMARY" => some .summary
  | "NONE" => some .none
  | _ => Option.none

structure SingleMetric where
  name : String := ""
  help : String := ""
  type : MetricType := .none
  samples : List (String × Float) := []
deriving DecidableEq

/-- `SingleMetric(single_metric)`: a copy with values of zero. -/
def SingleMetric.zeroed (m : SingleMetric) : SingleMetric :=
  { m with samples := m.samples.map fun sample => (sample.1, 0.0) }

/-! ## The text of an engine -/

def parseMetricHelp (m : SingleMetric) (line : List Char) : Option SingleMetric :=
  match Text.words line with
  | ['#'] :: mark :: name :: desc :: descs =>
    if mark = "HELP".toList then
      some { m with name := String.ofList name, help := String.intercalate " " ((desc :: descs).map String.ofList) }
    else none
  | _ => none

def parseMetricType (m : SingleMetric) (line : List Char) : Option SingleMetric :=
  match Text.words line with
  | [['#'], mark, _, type] =>
    if mark = "TYPE".toList then (MetricType.fromString type).map fun type => { m with type := type } else none
  | _ => none

/-- The length of a match of `engine="\d+",` at the head. -/
def engineMatch (s : List Char) : Option Nat :=
  if Text.startsWith "engine=\"".toList s then
    let digits := (s.drop 8).takeWhile Text.isDecimal
    if !digits.isEmpty && Text.startsWith "\",".toList (s.drop (8 + digits.length)) then some (8 + digits.length + 2)
    else none
  else none

/-- `re.sub(r'engine="\d+",', '', s)`; the first `skip` characters are within a match. -/
def removeEngine : Nat → List Char → List Char
  | _, [] => []
  | skip + 1, _ :: s => removeEngine skip s
  | 0, c :: s =>
    match engineMatch (c :: s) with
    | some n => removeEngine (n - 1) s
    | none => c :: removeEngine 0 s

def parseMetricBodyBlock (m : SingleMetric) (line : List Char) : Option SingleMetric :=
  match Text.words line with
  | [label, value] =>
    match Text.float value with
    | some value =>
      if value < 0 then none
      else some { m with samples := m.samples ++ [(String.ofList (removeEngine 0 label), value)] }
    | none => none
  | _ => none

/-- How the reading of texts ends: with an exception, with a text that cannot be read, or with what has been read. -/
inductive Parsed (α : Type)
  | raised
  | failed
  | ok (a : α)

/-- What the next line is to be. -/
inductive MetricLine
  | help
  | type (m : SingleMetric)
  | body (m : SingleMetric)

/-- The metrics when the lines are at their end. -/
def MetricLine.finish (metrics : List SingleMetric) : MetricLine → List SingleMetric
  | .help => metrics
  | .type m => metrics ++ [m]
  | .body m => metrics ++ [m]

/-- One line in the loops of `_parse_metric_text`. An empty line after a body line is an `IndexError`. -/
def parseMetricLine (metrics : List SingleMetric) (text : List Char) : MetricLine → Parsed (MetricLine × List SingleMetric)
  | .help =>
    match parseMetricHelp {} text with
    | some m => .ok (.type m, metrics)
    | none => .failed
  | .type m =>
    match parseMetricType m text with
    | some m => .ok (.body m, metrics)
    | none => .failed
  | .body m =>
    match text.head? with
    | none => .raised
    | some c =>
      if c = '#' then
        match parseMetricHelp {} text with
        | some m' => .ok (.type m', metrics ++ [m])
        | none => .failed
      else
        match parseMetricBodyBlock m text with
        | some m => .ok (.body m, metrics)
        | none => .failed

/-- A text that cannot be read gives `[]`, an exception `none`. -/
def parseMetricLines (line : MetricLine) (metrics : List SingleMetric) : List (List Char) → Option (List SingleMetric)
  | [] => some (line.finish metrics)
  | text :: lines =>
    match parseMetricLine metrics text line with
    | .raised => none
    | .failed => some []
    | .ok (line, metrics) => parseMetricLines line metrics lines

def parseMetricText (metricsStr : String) : Option (List SingleMetric) :=
  parseMetricLines .help [] ((Text.strip metricsStr.toList).splitOn '\n')

/-! ## Aggregation -/

def aggregateLabelsBySum (metrics : List SingleMetric) : Dict String Float := tally (metrics.flatMap SingleMetric.samples)

def aggregateLabelsByMean (metrics : List SingleMetric) : Dict String Float :=
  (aggregateLabelsBySum metrics).mapValues fun value => value / .ofNat metrics.length

def kvCacheUsage : String := "vllm:kv_cache_usage_perc"

/-- `_aggregate_metric_common` of a list with a head. -/
def aggregateMetricCommon (m : SingleMetric) (metrics : List SingleMetric) : SingleMetric :=
  let aggregate :=
    if m.name = kvCacheUsage then aggregateLabelsByMean (m :: metrics) else aggregateLabelsBySum (m :: metrics)
  { name := m.name, help := m.help, type := m.type, samples := aggregate.entries }

/-- The first longest list. -/
def longestMetrics : List (List SingleMetric) → List SingleMetric
  | [] => []
  | metrics :: rest => rest.foldl (fun longest metrics =>
      if longest.length < metrics.length then metrics else longest) metrics

/-- Put each metric to those of its name; a name that is not there is a `KeyError`. -/
def groupByName (aggrInput : Dict String (List SingleMetric)) :
    List SingleMetric → Option (Dict String (List SingleMetric))
  | [] => some aggrInput
  | m :: metrics =>
    if aggrInput.contains m.name then groupByName (aggrInput.adjust m.name (· ++ [m])) metrics else none

def aggregateMetricsCommon (metricsList : List (List SingleMetric)) : Option (List SingleMetric) := do
  let names := Dict.empty.update ((longestMetrics metricsList).map fun m => (m.name, ([] : List SingleMetric)))
  let aggrInput ← groupByName names metricsList.flatten
  aggrInput.values.mapM fun metrics =>
    match metrics with
    | [] => none
    | m :: metrics => some (aggregateMetricCommon m metrics)

/-! ## The state and a round -/

structure MetricsCollector where
  inactiveInstanceMetricsAggregate : List SingleMetric := []
  instanceMetricsCached : Dict Int (List SingleMetric) := Dict.empty
  lastMetrics : List SingleMetric := []
  lastInstanceMetrics : Dict Int (List SingleMetric) := Dict.empty
  /-- The update thread has not ended with an exception. -/
  running : Bool := true
  pInstancesNum : Int := 1
  dInstancesNum : Int := 1

/-- What one round finds: the two pools of `get_all_instances`, which may fail, and the text that each engine server
gives, which is empty after an error. -/
structure CollectionRound where
  pools : Option (Dict Int Instance × Dict Int Instance)
  queryMetrics : String → String → String

namespace CollectionRound

variable (r : CollectionRound)

def available : Dict Int Instance := (r.pools.map Prod.fst).getD Dict.empty

def unavailable : Dict Int Instance := (r.pools.map Prod.snd).getD Dict.empty

def getServerMetricsSingle (en : Endpoint) : String := r.queryMetrics en.ip en.mgmtPort

/-- `_get_server_metrics_endpoints`, with `none` for `{}`. -/
def getServerMetricsEndpoints (insInfo : Instance) : Option (Dict Int String) :=
  if insInfo.endpointList.any fun en => r.getServerMetricsSingle en = "" then none
  else some (Dict.empty.update (insInfo.endpointList.map fun en => (en.id, r.getServerMetricsSingle en)))

def getServerMetrics : Dict Int (Dict Int String) :=
  Dict.empty.update (r.available.values.filterMap fun insInfo =>
    (r.getServerMetricsEndpoints insInfo).map fun collect => (insInfo.id, collect))

end CollectionRound

/-- The texts of one instance, in order. -/
def parsePods : List (Int × String) → Parsed (List (List SingleMetric))
  | [] => .ok []
  | (_, text) :: pods =>
    match parseMetricText text with
    | none => .raised
    | some [] => .failed
    | some (m :: metrics) =>
      match parsePods pods with
      | .ok parsed => .ok ((m :: metrics) :: parsed)
      | .failed => .failed
      | .raised => .raised

/-- `_parse_metrics`: the metrics of the endpoints of each instance. -/
def parseMetrics : List (Int × Dict Int String) → Parsed (List (Int × List (List SingleMetric)))
  | [] => .ok []
  | (instanceId, pods) :: collects =>
    match parsePods pods.entries with
    | .raised => .raised
    | .failed => .failed
    | .ok endpoints =>
      match parseMetrics collects with
      | .ok parsed => .ok ((instanceId, endpoints) :: parsed)
      | .failed => .failed
      | .raised => .raised

namespace MetricsCollector

variable (c : MetricsCollector)

/-- The metrics of an instance, where gauges count only while the instance is active. -/
def aggrInputSingle (active : Bool) (metrics : List SingleMetric) : List SingleMetric :=
  metrics.map fun m => if m.type = .gauge && !active then m.zeroed else m

/-- `_clear_inactive_metrics`, with `none` for a `KeyError`. -/
def clearInactiveMetrics (unavailablePool : Dict Int Instance) : Option MetricsCollector := do
  let clearInsList := unavailablePool.keys.filter fun insId => c.instanceMetricsCached.contains insId
  let aggrInput := clearInsList.filterMap fun insId =>
    (c.instanceMetricsCached.get? insId).map (aggrInputSingle false)
  let aggregate ← aggregateMetricsCommon (aggrInput ++ [c.inactiveInstanceMetricsAggregate])
  return { c with
    inactiveInstanceMetricsAggregate := aggregate
    instanceMetricsCached := clearInsList.foldl Dict.erase c.instanceMetricsCached }

/-- `_aggregate_metrics_by_instance`, up to a `KeyError`, and whether it comes to its end. -/
def aggregateMetricsByInstance : MetricsCollector → List (Int × List (List SingleMetric)) → MetricsCollector × Bool
  | c, [] => (c, true)
  | c, (instanceId, endpoints) :: collects =>
    if endpoints.isEmpty then aggregateMetricsByInstance c collects
    else
      match aggregateMetricsCommon endpoints with
      | none => (c, false)
      | some metrics =>
        aggregateMetricsByInstance
          { c with instanceMetricsCached := c.instanceMetricsCached.set instanceId metrics } collects

def aggregateMetricsAllInstance (collected : List Int) : Option (List SingleMetric) :=
  if c.instanceMetricsCached.entries.isEmpty then some []
  else
    aggregateMetricsCommon (c.instanceMetricsCached.entries.map (fun ins => aggrInputSingle (ins.1 ∈ collected) ins.2) ++
      [c.inactiveInstanceMetricsAggregate])

/-- `_get_serialize_instance_metrics`, with `none` for a `KeyError`. -/
def getSerializeInstanceMetrics (collected : List Int) : Option (Dict Int (List SingleMetric)) :=
  (collected.mapM fun insId => (c.instanceMetricsCached.get? insId).map fun metrics => (insId, metrics)).map
    Dict.empty.update

def getInstancesMetrics (name : String) (num : Int) : SingleMetric :=
  { name := name, help := "Number of instances", type := .gauge, samples := [(name, .ofInt num)] }

def coordinatorMetrics (availableInstances : Dict Int Instance) : List SingleMetric :=
  let availableP : Int := availableInstances.values.countP fun ins => ins.role = PDRole.roleP.value
  let availableD : Int := availableInstances.values.countP fun ins => ins.role = PDRole.roleD.value
  [getInstancesMetrics "motor_active_prefill_workers" availableP,
    getInstancesMetrics "motor_active_decode_workers" availableD,
    getInstancesMetrics "motor_inactive_prefill_workers" (c.pInstancesNum - availableP),
    getInstancesMetrics "motor_inactive_decode_workers" (c.dInstancesNum - availableD)]

/-- `_get_and_aggregate_metrics`: the state, and the result unless there was an exception. -/
def getAndAggregateMetrics (r : CollectionRound) :
    MetricsCollector × Option (List SingleMetric × Dict Int (List SingleMetric)) :=
  match c.clearInactiveMetrics r.unavailable with
  | none => (c, none)
  | some c =>
    match parseMetrics r.getServerMetrics.entries with
    | .raised => (c, none)
    | .failed => (c, some ([], Dict.empty))
    | .ok collects =>
      match c.aggregateMetricsByInstance collects with
      | (c, false) => (c, none)
      | (c, true) =>
        match c.aggregateMetricsAllInstance (collects.map Prod.fst),
            c.getSerializeInstanceMetrics (collects.map Prod.fst) with
        | some aggregate, some instanceMetrics =>
          (c, some (aggregate ++ c.coordinatorMetrics r.available, instanceMetrics))
        | _, _ => (c, none)

/-- One turn of `_update_metrics_thread`. -/
def updateMetrics (r : CollectionRound) : MetricsCollector :=
  if c.running then
    match c.getAndAggregateMetrics r with
    | (c, none) => { c with running := false }
    | (c, some (metrics, instanceMetrics)) =>
      if metrics.isEmpty || instanceMetrics.entries.isEmpty then c
      else { c with lastMetrics := metrics, lastInstanceMetrics := instanceMetrics }
  else c

end MetricsCollector

end PyMotor
