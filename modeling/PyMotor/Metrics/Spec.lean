import PyMotor.Lib.Run
import PyMotor.Lib.Text
import PyMotor.Metrics.MetricsCollector

/-!
# What is written and what is counted

The text format is the one that `_get_serialize_metrics` writes and that the docstring of `_parse_metric_text` gives;
`valueStr` stands for `_get_value_str`. Beside the collector stands the last scrape of every instance. An instance is
scraped in a round when each of its endpoints gives metrics.
-/

namespace PyMotor

open Lib Lib.Text

/-! ## The text format -/

def MetricType.value : MetricType → String
  | .gauge => "gauge"
  | .counter => "counter"
  | .histogram => "histogram"
  | .summary => "summary"
  | .none => ""

/-- The lines of one metric. -/
def SingleMetric.lines (valueStr : Float → String) (item : SingleMetric) : List String :=
  ["# HELP " ++ item.name ++ " " ++ item.help, "# TYPE " ++ item.name ++ " " ++ item.type.value] ++
    item.samples.map fun sample => sample.1 ++ " " ++ valueStr sample.2

def getSerializeMetrics (valueStr : Float → String) (aggregate : List SingleMetric) : String :=
  "\n".intercalate (aggregate.flatMap (SingleMetric.lines valueStr))

/-! ## Metrics that can be written -/

/-- `engine="\d+",` occurs. -/
def EngineLabel (label : List Char) : Prop :=
  ∃ digits : List Char, digits ≠ [] ∧ (∀ d ∈ digits, isDecimal d) ∧
    ("engine=\"".toList ++ digits ++ "\",".toList) <:+: label

/-- The value is printed as a word that `float` reads. -/
structure Printed (valueStr : Float → String) (value : Float) : Prop where
  nonneg : ¬ value < 0
  word : IsWord (valueStr value).toList
  float : float (valueStr value).toList = some value

structure SingleMetric.Writable (valueStr : Float → String) (m : SingleMetric) : Prop where
  name : IsWord m.name.toList
  help : ∃ words : List String, words ≠ [] ∧ (∀ word ∈ words, IsWord word.toList) ∧ m.help = " ".intercalate words
  type : m.type ≠ .none
  labels : ∀ sample ∈ m.samples, (∀ c ∈ sample.1.toList, isSpace c = false) ∧ ¬ EngineLabel sample.1.toList
  values : ∀ sample ∈ m.samples, Printed valueStr sample.2

/-- The label is not taken for a blank or for a comment. -/
def PlainLabel (label : String) : Prop := ∃ c, label.toList.head? = some c ∧ c ≠ '#'

/-! ## The documented format -/

/-- `# HELP <name> <help description>`. -/
def Helps (name line : List Char) : Prop := ∃ desc descs, words line = ['#'] :: "HELP".toList :: name :: desc :: descs

/-- `# TYPE <name> <gauge|counter|histogram|summary>`. -/
def Types (name line : List Char) : Prop :=
  ∃ type : MetricType, type ≠ .none ∧ words line = [['#'], "TYPE".toList, name, type.value.toList]

/-- `<label> <value>`. -/
def Samples (line : List Char) : Prop := ∃ label value, words line = [label, value] ∧ (float value).isSome

/-- The lines that are read. -/
def metricLines (metricsStr : String) : List (List Char) := (strip metricsStr.toList).splitOn '\n'

/-- Blocks of a HELP line, a TYPE line of the same name, and samples. -/
structure Documented (metricsStr : String) : Prop where
  opens : ∃ name line lines, metricLines metricsStr = line :: lines ∧ Helps name line
  blocks : Reads (fun help type => ∃ name, Helps name help ∧ Types name type) Samples (metricLines metricsStr) []

/-- A list is given back, and only `[]` for a text that is not in the format. -/
def Total (metricsStr : String) : Prop :=
  ∃ metrics, parseMetricText metricsStr = some metrics ∧ (¬ Documented metricsStr → metrics = [])

/-! ## The lines that the code reads -/

def HelpLine (line : List Char) : Prop := line.head? = some '#' ∧ (parseMetricHelp {} line).isSome

def TypeLine (line : List Char) : Prop := (parseMetricType {} line).isSome

def BodyLine (line : List Char) : Prop := (∃ c, line.head? = some c ∧ c ≠ '#') ∧ (parseMetricBodyBlock {} line).isSome

/-- Lines that are read up to some rest. -/
abbrev ReadsTo : List (List Char) → List (List Char) → Prop :=
  Reads (fun help type => HelpLine help ∧ TypeLine type) BodyLine

/-- No empty line comes after blocks that are complete, no HELP line is the last one after them, and when all blocks are
complete, each TYPE line has the name of its HELP line and one of the four types as they are written. -/
structure Regular (metricsStr : String) : Prop where
  blank : ∀ rest, ¬ ReadsTo (metricLines metricsStr) ([] :: rest)
  truncated : ∀ help, HelpLine help → ¬ ReadsTo (metricLines metricsStr) [help]
  types : ReadsTo (metricLines metricsStr) [] →
    Reads (fun help type => (HelpLine help ∧ TypeLine type) ∧ ∃ name, Helps name help ∧ Types name type) BodyLine
      (metricLines metricsStr) []

/-- The text begins with a HELP line. -/
def Opens (metricsStr : String) : Prop := ∃ line lines, metricLines metricsStr = line :: lines ∧ HelpLine line

/-! ## Counters -/

/-- The values of a counter at a label, in order. -/
def valuesAt (name label : String) (metrics : List SingleMetric) : List Float :=
  metrics.flatMap fun m => if m.type = .counter ∧ m.name = name then amounts m.samples label else []

/-- The value of a counter at a label, as a number; lines with one label add up. -/
def counterAt (name label : String) (metrics : List SingleMetric) : ℚ :=
  ((valuesAt name label metrics).map fun value => (numberOf value).getD 0).sum

/-- The metrics have the given names, and those of one name are counters. -/
def Exposes (names : List String) (name : String) (metrics : List SingleMetric) : Prop :=
  metrics.map SingleMetric.name ⊆ names ∧ names ⊆ metrics.map SingleMetric.name ∧
    ∀ m ∈ metrics, m.name = name → m.type = .counter

instance (names : List String) (name : String) (metrics : List SingleMetric) : Decidable (Exposes names name metrics) :=
  inferInstanceAs (Decidable (_ ∧ _ ∧ ∀ m ∈ metrics, m.name = name → m.type = .counter))

/-- The metrics of a text, unless it has none. -/
def readMetrics (text : String) : Option (List SingleMetric) := (parseMetricText text).filter fun metrics => metrics ≠ []

namespace CollectionRound

variable (r : CollectionRound)

def readEndpoints (inst : Instance) : Option (List (List SingleMetric)) :=
  inst.endpointList.mapM fun en => readMetrics (r.getServerMetricsSingle en)

/-- All the metrics of an instance. -/
def scrape (inst : Instance) : Option (List SingleMetric) :=
  if inst.endpointList = [] then none else (r.readEndpoints inst).map List.flatten

def scrapes : List (Int × List SingleMetric) :=
  r.available.values.filterMap fun inst => (r.scrape inst).map fun metrics => (inst.id, metrics)

/-- The pool is by instance id, and all engines expose the same metrics. -/
def Regular (names : List String) (name : String) : Prop :=
  (∀ e ∈ r.available.entries, e.1 = e.2.id) ∧
    ∀ inst ∈ r.available.values, ∀ en ∈ inst.endpointList, ∀ metrics ∈ readMetrics (r.getServerMetricsSingle en),
      Exposes names name metrics

instance (names : List String) (name : String) : Decidable (r.Regular names name) :=
  inferInstanceAs (Decidable ((∀ e ∈ r.available.entries, e.1 = e.2.id) ∧
    ∀ inst ∈ r.available.values, ∀ en ∈ inst.endpointList, ∀ metrics ∈ readMetrics (r.getServerMetricsSingle en),
      Exposes names name metrics))

end CollectionRound

/-- The collector with the last scrape of every instance that has been seen. -/
structure MetricsService where
  collector : MetricsCollector := {}
  scraped : Dict Int (List SingleMetric) := Dict.empty

namespace MetricsService

variable (s : MetricsService)

def start (pInstancesNum dInstancesNum : Int) : MetricsService :=
  { collector := { pInstancesNum := pInstancesNum, dInstancesNum := dInstancesNum } }

def step (s : MetricsService) (r : CollectionRound) : MetricsService where
  collector := s.collector.updateMetrics r
  scraped := if s.collector.running then s.scraped.update r.scrapes else s.scraped

/-- The sum over all instances that have been scraped. -/
def total (name label : String) : ℚ := (s.scraped.values.map (counterAt name label)).sum

/-- The reported value is the total, and not less than the one before. What is reported is a number. -/
def CountsEach (name label : String) (s : MetricsService) (r : CollectionRound) : Prop :=
  counterAt name label (s.step r).collector.lastMetrics = (s.step r).total name label ∧
    counterAt name label s.collector.lastMetrics ≤ counterAt name label (s.step r).collector.lastMetrics ∧
    ∀ value ∈ valuesAt name label (s.step r).collector.lastMetrics, (numberOf value).isSome = true

/-- The values that have been scraped come to their exact sum, in whatever order and grouping they are added. -/
def Unrounded (name label : String) (s : MetricsService) (r : CollectionRound) : Prop :=
  ExactlySummable numberOf (((s.step r).scraped.values.flatMap (valuesAt name label) : List Float) : Multiset Float)

/-- No instance shows less than when it was last scraped. -/
def CountersGrow (name label : String) (s : MetricsService) (r : CollectionRound) : Prop :=
  ∀ e ∈ r.scrapes, ∀ old ∈ s.scraped.get? e.1, counterAt name label old ≤ counterAt name label e.2

instance (name label : String) (r : CollectionRound) : Decidable (CountersGrow name label s r) :=
  inferInstanceAs (Decidable (∀ e ∈ r.scrapes, ∀ old ∈ s.scraped.get? e.1,
    counterAt name label old ≤ counterAt name label e.2))

/-- The instance is in the cache and stays there. -/
def Keeps (r : CollectionRound) (id : Int) : Prop :=
  s.collector.instanceMetricsCached.contains id = true ∧ r.unavailable.contains id = false

instance (r : CollectionRound) (id : Int) : Decidable (s.Keeps r id) := inferInstanceAs (Decidable (_ ∧ _))

/-- An instance that is scraped again has not been moved to the history. In a round with a scrape, every instance whose
texts have come is scraped, or has no endpoints and is in the cache. No instance has two endpoints of one id. -/
def Settled (s : MetricsService) (r : CollectionRound) : Prop :=
  (∀ inst ∈ r.available.values, inst.UniqueEndpoints) ∧
    (∀ e ∈ r.scrapes, s.scraped.contains e.1 = true → s.Keeps r e.1) ∧
    (r.scrapes ≠ [] → ∀ inst ∈ r.available.values, (r.getServerMetricsEndpoints inst).isSome = true →
      (r.scrape inst).isSome = true ∨ inst.endpointList = [] ∧ s.Keeps r inst.id)

instance (r : CollectionRound) : Decidable (Settled s r) :=
  inferInstanceAs (Decidable ((∀ inst ∈ r.available.values, inst.UniqueEndpoints) ∧
    (∀ e ∈ r.scrapes, s.scraped.contains e.1 = true → s.Keeps r e.1) ∧
    (r.scrapes ≠ [] → ∀ inst ∈ r.available.values, (r.getServerMetricsEndpoints inst).isSome = true →
      (r.scrape inst).isSome = true ∨ inst.endpointList = [] ∧ s.Keeps r inst.id)))

end MetricsService

end PyMotor
