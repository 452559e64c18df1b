import PyMotor.Lib.Dict
import PyMotor.Lib.Text
import PyMotor.Recompute.Common
import PyMotor.Router.Dispatch

/-!
# The configuration of a coordinator

`motor/config/coordinator.py` with what it uses of `motor/config/config_utils.py`. A section is a dataclass without
dataclasses among its fields, so that the merge of nested dictionaries ends in it.
-/

namespace PyMotor.Config

open Lib

inductive SchedulerType
  | loadBalance
  | roundRobin
  | kvCacheAffinity
deriving DecidableEq, Repr

/-- The value of a field: JSON, a set of texts, or a member of an enumeration. -/
inductive Attr
  | json (v : Json)
  | texts (ts : List String)
  | deployMode (mode : DeployMode)
  | schedulerType (type : SchedulerType)

abbrev Section := Dict String Attr

inductive SectionName
  | logging
  | prometheusMetrics
  | exception
  | scheduler
  | inferenceWorkers
  | timeout
  | apiKey
  | rateLimit
  | standby
  | etcd
  | inferTls
  | mgmtTls
  | etcdTls
  | api
  | deploy
  | tracer
  | prefillKvEvent
deriving DecidableEq, Repr

namespace SectionName

/-- The key of the section in the file. -/
def key : SectionName → String
  | logging => "logging_config"
  | prometheusMetrics => "prometheus_metrics_config"
  | exception => "exception_config"
  | scheduler => "scheduler_config"
  | inferenceWorkers => "inference_workers_config"
  | timeout => "timeout_config"
  | apiKey => "api_key_config"
  | rateLimit => "rate_limit_config"
  | standby => "standby_config"
  | etcd => "etcd_config"
  | inferTls => "infer_tls_config"
  | mgmtTls => "mgmt_tls_config"
  | etcdTls => "etcd_tls_config"
  | api => "api_config"
  | deploy => "deploy_config"
  | tracer => "tracer_config"
  | prefillKvEvent => "prefill_kv_event_config"

/-- The order of `config_mappings`. -/
def mappings : List SectionName :=
  [logging, prometheusMetrics, exception, scheduler, inferenceWorkers, timeout, apiKey, rateLimit, standby, etcd, inferTls,
    mgmtTls, etcdTls, api, deploy, tracer, prefillKvEvent]

end SectionName

/-- `POD_IP`, `COORDINATOR_SERVICE` and `KV_CONDUCTOR_SERVICE`, with the defaults of `Env`. -/
structure CoordinatorEnv where
  podIp : Option String := none
  coordinatorService : String := "mindie-motor-coordinator-service.mindie-motor.svc.cluster.local"
  conductorService : String := ""

/-- The library: `json.loads`, `ipaddress`, `str(x)` of a number, `dict(x)` of a value that is no dictionary, and `setattr`
on a name that is no field of a section. `reconfigure_logging` of `motor/common/logger/logger.py` sets up the handlers of
the language's logging, and only whether it raises matters here. -/
structure ConfigLib where
  loads : List Char → Option Json
  isIpAddress : String → Bool
  str : Attr → String
  dict : Json → Except PyException JsonObj
  setOther : SectionName → String → Json → Section → Except PyException Section
  reconfigureLogging : Section → Except PyException Unit

structure CoordinatorConfig where
  sections : SectionName → Section
  aigwModel : Option JsonObj := none
  configPath : Option String := none
  lastModified : Option ℚ := none
  workerIndex : Option Int := none
  workerMetaserverPort : Option Int := none

/-! ## Defaults -/

section

def text (s : String) : Attr := .json (.str s)

def number (n : Int) : Attr := .json (.int n)

def real (q : ℚ) : Attr := .json (.float q)

def flag (b : Bool) : Attr := .json (.bool b)

/-- A dataclass with these fields. -/
def fields (entries : List (String × Attr)) : Section := Dict.empty.update entries

def tlsConfig : Section :=
  fields [("enable_tls", flag false), ("ca_file", text "security/mgmt/cert/ca.crt"),
    ("cert_file", text "security/mgmt/cert/server.crt"), ("key_file", text "security/mgmt/keys/server.key"),
    ("passwd_file", text "security/mgmt/keys/key_pwd.txt"), ("crl_file", text "")]

def defaultSkipPaths : List String :=
  ["/", "/startup", "/readiness", "/liveness", "/metrics", "/instances/refresh", "/docs", "/redoc", "/openapi.json",
    "/favicon.ico"]

def defaultRateLimitSkipPaths : List String :=
  ["/liveness", "/readiness", "/metrics", "/docs", "/redoc", "/openapi.json", "/favicon.ico", "/startup"]

/-- `x or y` for texts. -/
def textOr (x y : String) : String := if x = "" then y else x

/-- The fields of a new section. -/
def defaultSection (env : CoordinatorEnv) : SectionName → Section
  | .logging =>
    fields [("log_level", text "INFO"), ("log_max_line_length", number 8192),
      ("log_format", text "%(asctime)s  [%(levelname)s][%(name)s][%(filename)s:%(lineno)d][proc:%(processName)s]  %(message)s"),
      ("log_date_format", text "%Y-%m-%d %H:%M:%S"), ("host_log_dir", text "/root/ascend/log"),
      ("log_rotation_size", number 20), ("log_rotation_count", number 10), ("log_compress", flag false),
      ("log_compress_level", number 6), ("log_max_total_size", number 200), ("log_cleanup_interval", number 1800)]
  | .prometheusMetrics => fields [("reuse_time", number 3)]
  | .exception =>
    fields [("max_retry", number 5), ("recompute_enabled", flag true), ("transport_max_retry", .json .null),
      ("recompute_max_retry", .json .null), ("retry_delay", real (1 / 5)), ("first_token_timeout", number 600),
      ("infer_timeout", number 3600)]
  | .scheduler => fields [("deploy_mode", .deployMode .pdSeparate), ("scheduler_type", .schedulerType .loadBalance)]
  | .inferenceWorkers => fields [("num_workers", number 4), ("worker_metaserver_base_port", number 12000)]
  | .timeout =>
    fields [("request_timeout", number 30), ("connection_timeout", number 10), ("read_timeout", number 15),
      ("write_timeout", number 15), ("keep_alive_timeout", number 60)]
  | .apiKey =>
    fields [("enable_api_key", flag false), ("valid_keys", .texts []), ("header_name", text "Authorization"),
      ("key_prefix", text "Bearer "), ("skip_paths", .texts defaultSkipPaths), ("encryption_algorithm", text "PBKDF2_SHA256")]
  | .rateLimit =>
    fields [("enable_rate_limit", flag false), ("max_requests", number 1000), ("window_size", number 60),
      ("scope", text "global"), ("skip_paths", .json (.arr (defaultRateLimitSkipPaths.map .str))),
      ("error_message", text "too many requests, please try again later"), ("error_status_code", number 429)]
  | .standby =>
    fields [("enable_master_standby", flag false), ("master_standby_check_interval", number 5), ("master_lock_ttl", number 10),
      ("master_lock_retry_interval", number 5), ("master_lock_max_failures", number 3),
      ("master_lock_key", text "/master_lock")]
  | .etcd =>
    fields [("etcd_host", text "etcd.default.svc.cluster.local"), ("etcd_port", number 2379), ("etcd_timeout", number 5),
      ("enable_etcd_persistence", flag false)]
  | .inferTls => tlsConfig
  | .mgmtTls => tlsConfig
  | .etcdTls => tlsConfig
  | .api =>
    fields [("coordinator_api_host", text (textOr (env.podIp.getD "") "127.0.0.1")),
      ("coordinator_api_dns", text (textOr env.coordinatorService "127.0.0.1")),
      ("coordinator_api_infer_port", number 1025), ("coordinator_api_mgmt_port", number 1026)]
  | .deploy => fields [("p_instances_num", number 1), ("d_instances_num", number 1)]
  | .tracer =>
    fields [("endpoint", text ""), ("root_sampling_rate", real 1), ("remote_parent_sampled", real 1),
      ("remote_parent_not_sampled", real 1), ("local_parent_sampled", real 1), ("local_parent_not_sampled", real 1)]
  | .prefillKvEvent =>
    fields [("conductor_service", text env.conductorService), ("http_server_port", number 13333), ("block_size", number 128),
      ("endpoint", text ""), ("replay_endpoint", text ""), ("engine_type", text "vLLM"), ("model_path", text "")]

end

/-! ## Validation -/

namespace Attr

/-- The number that `<` compares. -/
def number? : Attr → Except PyException ℚ
  | .json (.bool b) => .ok (if b then 1 else 0)
  | .json (.int n) => .ok n
  | .json (.float q) => .ok q
  | _ => .error (.builtin "TypeError")

/-- `bool(x)`. -/
def truthy : Attr → Bool
  | .json v => v.truthy
  | .texts ts => !ts.isEmpty
  | _ => true

/-- `x == 0`. -/
def isZero : Attr → Bool
  | .json (.bool b) => !b
  | .json (.int n) => n = 0
  | .json (.float q) => q = 0
  | _ => false

/-- The value of an `int`. -/
def int? : Attr → Option Int
  | .json (.bool b) => some (if b then 1 else 0)
  | .json (.int n) => some n
  | _ => none

/-- `x is None`. -/
def isNone : Attr → Bool
  | .json .null => true
  | _ => false

end Attr

def isAsciiAlnum (c : Char) : Bool := c.isAlphanum

/-- A label of a host name. -/
def isLabel (label : List Char) : Bool :=
  match label with
  | [] => false
  | c :: rest => isAsciiAlnum c && isAsciiAlnum ((c :: rest).getLast (by simp)) && rest.all fun c => isAsciiAlnum c || c = '-'

/-- The expression for host names; its `$` also matches before a last line end. -/
def isHostname (value : List Char) : Bool :=
  let value := if value.getLast? = some '\n' then value.dropLast else value
  (value.splitOn '.').all isLabel

def validatePositiveNumber (value : Attr) (fieldName : String) (allowZero : Bool) : Except PyException (List String) := do
  let q ← value.number?
  if allowZero && q < 0 then return [fieldName ++ " cannot be negative"]
  else if !allowZero && q ≤ 0 then return [fieldName ++ " must be greater than 0"]
  else return []

def validatePortRange (port : Attr) (fieldName : String) : Except PyException (List String) := do
  let q ← port.number?
  if 1 ≤ q ∧ q ≤ 65535 then return [] else return [fieldName ++ " must be in range 1-65535"]

def validateIpOrHostname (lib : ConfigLib) (value : Attr) (fieldName : String) : List String :=
  match value with
  | .json (.str s) =>
    if s = "" then [fieldName ++ " cannot be empty"]
    else if lib.isIpAddress s || isHostname s.toList then []
    else [fieldName ++ " must be a valid IP address or hostname"]
  | _ => [fieldName ++ " cannot be empty"]

def validateEndpointPath (path : Attr) (fieldName : String) : List String :=
  match path with
  | .json (.str s) =>
    if s = "" then [fieldName ++ " cannot be empty"]
    else if Text.startsWith ['/'] s.toList then []
    else [fieldName ++ " must start with '/'"]
  | _ => [fieldName ++ " cannot be empty"]

namespace CoordinatorConfig

/-- The attribute of a section. -/
def attr (config : CoordinatorConfig) (name : SectionName) (field : String) : Except PyException Attr :=
  match (config.sections name).get? field with
  | some value => .ok value
  | none => .error (.builtin "AttributeError")

def positive (config : CoordinatorConfig) (name : SectionName) (allowZero : Bool) (field : String) :
    Except PyException (List String) := do
  validatePositiveNumber (← config.attr name field) field allowZero

/-- A field that may be `None`. -/
def positiveOrNone (config : CoordinatorConfig) (name : SectionName) (field : String) :
    Except PyException (List String) := do
  let value ← config.attr name field
  if value.isNone then return [] else validatePositiveNumber value field true

def port (config : CoordinatorConfig) (name : SectionName) (field : String) : Except PyException (List String) := do
  validatePortRange (← config.attr name field) field

def checkLogLevel (config : CoordinatorConfig) : Except PyException (List String) := do
  match ← config.attr .logging "log_level" with
  | .json (.str s) =>
    if String.ofList (Text.upper s.toList) ∈ ["DEBUG", "INFO", "WARNING", "ERROR"] then return []
    else return ["log_level must be one of: DEBUG, INFO, WARNING, ERROR"]
  | _ => .error (.builtin "AttributeError")

/-- Port 0 disables the servers of the workers. -/
def checkMetaserverPort (config : CoordinatorConfig) : Except PyException (List String) := do
  let port ← config.attr .inferenceWorkers "worker_metaserver_base_port"
  if port.isZero then return [] else validatePortRange port "worker_metaserver_base_port"

/-- `base + workers - 1`, an integer when both are. -/
def lastPort (workers base : Attr) : Except PyException Attr :=
  match workers.int?, base.int? with
  | some n, some b => .ok (number (b + n - 1))
  | _, _ => do return real ((← base.number?) + (← workers.number?) - 1)

/-- The port of the last worker. -/
def checkLastPort (lib : ConfigLib) (config : CoordinatorConfig) : Except PyException (List String) := do
  let workers ← config.attr .inferenceWorkers "num_workers"
  if 1 < (← workers.number?) then
    let base ← config.attr .inferenceWorkers "worker_metaserver_base_port"
    if 0 < (← base.number?) then
      let last ← lastPort workers base
      if 65535 < (← last.number?) then
        return ["worker_metaserver_base_port(" ++ lib.str base ++ ") + num_workers(" ++ lib.str workers ++ ") - 1 = " ++
          lib.str last ++ " exceeds max port 65535"]
      else return []
    else return []
  else return []

def checkStatusCode (config : CoordinatorConfig) : Except PyException (List String) := do
  let q ← (← config.attr .rateLimit "error_status_code").number?
  if 100 ≤ q ∧ q ≤ 599 then return [] else return ["error_status_code must be in range 100-599"]

def checkApiKey (config : CoordinatorConfig) : Except PyException (List String) := do
  if (← config.attr .apiKey "enable_api_key").truthy then
    let notEmpty := fun field : String => do
      if (← config.attr .apiKey field).truthy then return ([] : List String)
      else return [field ++ " cannot be empty when api_key authentication is enabled"]
    return (← notEmpty "valid_keys") ++ (← notEmpty "header_name") ++ (← notEmpty "key_prefix")
  else return []

/-- The checks in the order of `validate_config`. -/
def checks (lib : ConfigLib) (config : CoordinatorConfig) : List (Except PyException (List String)) :=
  [config.checkLogLevel, config.positive .logging false "log_max_line_length",
    config.positive .timeout false "request_timeout", config.positive .timeout false "connection_timeout",
    config.positive .timeout false "read_timeout", config.positive .timeout false "write_timeout",
    config.positive .timeout false "keep_alive_timeout", config.positive .exception true "max_retry",
    config.positiveOrNone .exception "transport_max_retry", config.positiveOrNone .exception "recompute_max_retry",
    config.positive .exception false "retry_delay", config.positive .exception false "first_token_timeout",
    config.positive .exception false "infer_timeout", config.positive .tracer false "root_sampling_rate",
    config.positive .tracer false "remote_parent_sampled", config.positive .tracer false "remote_parent_not_sampled",
    config.positive .tracer false "local_parent_sampled", config.positive .tracer false "local_parent_not_sampled",
    config.port .api "coordinator_api_infer_port", config.port .api "coordinator_api_mgmt_port",
    config.checkMetaserverPort, config.positive .inferenceWorkers false "num_workers", config.checkLastPort lib,
    (config.attr .api "coordinator_api_host").map fun value => validateIpOrHostname lib value "coordinator_api_host",
    config.positive .rateLimit false "max_requests", config.positive .rateLimit false "window_size",
    config.checkStatusCode, config.positive .prometheusMetrics false "reuse_time",
    config.positive .standby false "master_standby_check_interval", config.positive .standby false "master_lock_ttl",
    config.positive .standby false "master_lock_retry_interval", config.positive .standby true "master_lock_max_failures",
    (config.attr .standby "master_lock_key").map fun value => validateEndpointPath value "master_lock_key",
    config.port .etcd "etcd_port", config.positive .etcd false "etcd_timeout",
    (config.attr .etcd "etcd_host").map fun value => validateIpOrHostname lib value "etcd_host",
    config.checkApiKey]

/-- `self._errors.extend`, when the check raises nothing. -/
def extend (errors : List String) (check : Except PyException (List String)) : Except PyException (List String) :=
  check.map (errors ++ ·)

/-- The errors of the checks; an exception ends them. -/
def errors (lib : ConfigLib) (config : CoordinatorConfig) : Except PyException (List String) :=
  (config.checks lib).foldlM extend []

def validateConfig (lib : ConfigLib) (config : CoordinatorConfig) : Except PyException Unit := do
  let errors ← config.errors lib
  if errors.isEmpty then return ()
  else .error (.other "ValueError"
    ("Configuration validation failed:\n" ++ "\n".intercalate (errors.map fun error => "  - " ++ error)))

/-- The fields of a new configuration: the key of the lock gets its prefix. -/
def defaults (env : CoordinatorEnv) : CoordinatorConfig where
  sections name := if name = .standby then
    (defaultSection env name).set "master_lock_key" (text "/coordinator/master_lock") else defaultSection env name

/-- `CoordinatorConfig()`. -/
def new (lib : ConfigLib) (env : CoordinatorEnv) : Except PyException CoordinatorConfig := do
  (defaults env).validateConfig lib
  return defaults env

end CoordinatorConfig

/-! ## Loading -/

/-- What reading a file gives: its text, or an error. -/
inductive FileContent
  | unreadable
  | text (cs : List Char)

/-- The three keys that `from_json` takes from the deployment's TLS configuration. -/
def tlsKeys : List String := ["mgmt_tls_config", "infer_tls_config", "etcd_tls_config"]

/-- `cfg[key] = value`. -/
def setItem (cfg : Json) (key : String) (value : Json) : Except PyException Json :=
  match cfg with
  | .obj d => .ok (.obj (JsonObj.set d key value))
  | _ => .error (.builtin "TypeError")

/-- `key in cfg`. -/
def hasKey (cfg : Json) (key : String) : Except PyException Bool :=
  match cfg with
  | .obj d => .ok (JsonObj.contains d key)
  | .arr items => .ok (items.any fun item => Json.eqStr (some item) key)
  | .str s => .ok (s.toList.tails.any fun t => Text.startsWith key.toList t)
  | _ => .error (.builtin "TypeError")

/-- `cfg[key]`. -/
def getItem (cfg : Json) (key : String) : Except PyException Json :=
  match cfg with
  | .obj d =>
    match JsonObj.get? d key with
    | some v => .ok v
    | none => .error (.builtin "KeyError")
  | _ => .error (.builtin "TypeError")

/-- `motor_deploy_config`, when it is a dictionary. -/
def deployConfig (raw : Json) : Option JsonObj :=
  match raw with
  | .obj d =>
    match JsonObj.get? d "motor_deploy_config" with
    | some (.obj deploy) => some deploy
    | _ => none
  | _ => none

/-- `_get_tls_config`, with the empty dictionary for none. -/
def getTlsConfig (raw : Json) : JsonObj :=
  match deployConfig raw with
  | none => []
  | some deploy =>
    match JsonObj.get? deploy "tls_config" with
    | some (.obj tls) => tls
    | _ => []

def updateTlsConfig (cfg raw : Json) : Except PyException Json :=
  tlsKeys.foldlM (fun cfg key =>
    match (getTlsConfig raw).get? key with
    | some value => setItem cfg key value
    | none => .ok cfg) cfg

def updateInstancesNum (cfg raw : Json) : Except PyException Json :=
  match deployConfig raw with
  | none => .ok cfg
  | some deploy =>
    setItem cfg "deploy_config" (.obj [("p_instances_num", (deploy.get? "p_instances_num").getD (.int 1)),
      ("d_instances_num", (deploy.get? "d_instances_num").getD (.int 1))])

/-- `_update_prefill_kv_event_config`, which reports its errors and goes on. -/
def updatePrefillKvEventConfig (cfg raw : Json) : Json :=
  let updated : Except PyException Json := do
    let prefill ← getItem raw "motor_engine_prefill_config"
    match ← getItem prefill "engine_config" with
    | .obj engine =>
      match JsonObj.get? engine "kv-events-config" with
      | some (.obj events) =>
        let httpServerPort ← getItem (← getItem raw "kv_conductor_config") "http_server_port"
        let modelPath ← getItem (← getItem prefill "model_config") "model_path"
        setItem cfg "prefill_kv_event_config"
          (.obj [("endpoint", (JsonObj.get? events "endpoint").getD (.str "")),
            ("replay_endpoint", (JsonObj.get? events "replay_endpoint").getD (.str "")),
            ("block_size", (JsonObj.get? engine "block-size").getD (.int 128)), ("http_server_port", httpServerPort),
            ("model_path", modelPath)])
      | _ => return cfg
    | _ => return cfg
  match updated with
  | .ok cfg => cfg
  | .error _ => cfg

/-- What the first part of `from_json` leaves: `cfg`, `user_config_data`, and whether it ended with an exception. -/
structure Sections where
  cfg : Json := .obj []
  userConfigData : Option JsonObj := none
  failed : Bool := false

/-- The sections of a JSON value. Only a `cfg` that is no dictionary fails, and then nothing is updated. -/
def extractSections (raw : Json) : Sections :=
  let start : Sections :=
    match raw with
    | .obj d =>
      match JsonObj.get? d "motor_coordinator_config" with
      | some cfg => { cfg := cfg, userConfigData := some d }
      | none => { cfg := raw }
    | _ => { cfg := raw }
  match (do updateInstancesNum (← updateTlsConfig start.cfg raw) raw) with
  | .ok cfg => { start with cfg := updatePrefillKvEventConfig cfg raw }
  | .error _ => { start with failed := true }

/-- The first part of `from_json`. -/
def readSections (lib : ConfigLib) (content : FileContent) : Sections :=
  match content with
  | .unreadable => { failed := true }
  | .text cs =>
    if (Text.strip cs).isEmpty then {}
    else
      match lib.loads (Text.strip cs) with
      | none => { failed := true }
      | some raw => extractSections raw

namespace CoordinatorConfig

/-- `from_string` of the two enumerations: a member by its name. -/
def deployModeOfString (s : String) : Option DeployMode :=
  match String.ofList (Text.upper s.toList) with
  | "SINGLE_NODE" => some .singleNode
  | "PD_SEPARATE" => some .pdSeparate
  | "CDP_SEPARATE" => some .cdpSeparate
  | "CPCD_SEPARATE" => some .cpcdSeparate
  | "PD_DUAL_DISPATCH" => some .pdDualDispatch
  | "PD_DISAGGREGATION_SINGLE_CONTAINER" => some .pdDisaggregationSingleContainer
  | _ => none

def schedulerTypeOfString (s : String) : Option SchedulerType :=
  match String.ofList (Text.upper s.toList) with
  | "LOAD_BALANCE" => some .loadBalance
  | "ROUND_ROBIN" => some .roundRobin
  | "KV_CACHE_AFFINITY" => some .kvCacheAffinity
  | _ => none

/-- `set_enum_field`: other values are ignored. -/
def setEnumField {α : Type} (ofString : String → Option α) (attr : α → Attr) (sec : Section) (key : String) (value : Json) :
    Section :=
  match value with
  | .str s =>
    match ofString s with
    | some member => sec.set key (attr member)
    | none => sec
  | _ => sec

/-- One item of `update_config_from_dict`. -/
def updateField (lib : ConfigLib) (name : SectionName) (sec : Section) (item : String × Json) : Except PyException Section :=
  if name = .scheduler ∧ item.1 = "deploy_mode" then .ok (setEnumField deployModeOfString .deployMode sec item.1 item.2)
  else if name = .scheduler ∧ item.1 = "scheduler_type" then
    .ok (setEnumField schedulerTypeOfString .schedulerType sec item.1 item.2)
  else if sec.contains item.1 then .ok (sec.set item.1 (.json item.2))
  else lib.setOther name item.1 item.2 sec

def updateConfigFromDict (lib : ConfigLib) (name : SectionName) (sec : Section) (value : Json) :
    Except PyException Section := do
  (← value.asObj).foldlM (updateField lib name) sec

/-- The section of the file, when it is there. -/
def updateSection (lib : ConfigLib) (cfg : Json) (config : CoordinatorConfig) (name : SectionName) :
    Except PyException CoordinatorConfig := do
  if ← hasKey cfg name.key then
    let sec ← updateConfigFromDict lib name (config.sections name) (← getItem cfg name.key)
    return { config with sections := Function.update config.sections name sec }
  else return config

/-- The items that are put into `aigw`, in their order. -/
def aigwItems (userConfigData : JsonObj) : List (String × Except PyException Json) :=
  let prefill := getItem (.obj userConfigData) "motor_engine_prefill_config"
  let decode := getItem (.obj userConfigData) "motor_engine_decode_config"
  let of := fun (config : Except PyException Json) (part key : String) => do getItem (← getItem (← config) part) key
  [("id", do let _ ← decode; of prefill "model_config" "model_name"), ("object", .ok (.str "model")),
    ("owned_by", .ok (.str "motor")), ("p_max_seqlen", of prefill "engine_config" "max_model_len"),
    ("d_max_seqlen", of decode "engine_config" "max_model_len")]

def setDefault (d : JsonObj) (key : String) (value : Json) : JsonObj := if d.contains key then d else d.set key value

/-- The items up to the first that fails; the defaults follow only when none does. -/
def putAigwItems : List (String × Except PyException Json) → JsonObj → JsonObj
  | [], aigw => setDefault (setDefault aigw "slo_ttft" (.int 1000)) "slo_tpot" (.int 50)
  | (key, .ok value) :: rest, aigw => putAigwItems rest (aigw.set key value)
  | (_, .error _) :: _, aigw => aigw

/-- The enrichment of `aigw`, whose errors are reported only. -/
def enrichAigw (sections : Sections) : Except PyException Json :=
  match sections.userConfigData with
  | none => .ok sections.cfg
  | some userConfigData => do
    if ← hasKey sections.cfg "aigw" then
      match sections.cfg with
      | .obj d =>
        match JsonObj.get? d "aigw" with
        | some (.obj aigw) => return .obj (JsonObj.set d "aigw" (.obj (putAigwItems (aigwItems userConfigData) aigw)))
        | _ => return sections.cfg
      | _ => return sections.cfg
    else return sections.cfg

/-- `config.aigw_model = dict(cfg['aigw'])`, when it is there. -/
def setAigwModel (lib : ConfigLib) (cfg : Json) (config : CoordinatorConfig) : Except PyException CoordinatorConfig := do
  if ← hasKey cfg "aigw" then
    match ← getItem cfg "aigw" with
    | .obj d => return { config with aigwModel := some d }
    | other => return { config with aigwModel := some (← lib.dict other) }
  else return config

/-- The second part of `from_json`. -/
def build (lib : ConfigLib) (env : CoordinatorEnv) (path : String) (mtime : ℚ) (sections : Sections) :
    Except PyException CoordinatorConfig := do
  let config ← new lib env
  let cfg ← enrichAigw sections
  let config ← SectionName.mappings.foldlM (updateSection lib cfg) config
  let config ← setAigwModel lib cfg config
  let config : CoordinatorConfig := { config with configPath := some path, lastModified := some mtime }
  config.validateConfig lib
  lib.reconfigureLogging (config.sections .logging)
  return config

/-- The file behind a path. -/
structure ConfigFile where
  content : FileContent
  mtime : ℚ

/-- `from_json`, on a file that is there. -/
def fromJson (lib : ConfigLib) (env : CoordinatorEnv) (path : String) (file : ConfigFile) :
    Except PyException CoordinatorConfig :=
  build lib env path file.mtime (readSections lib file.content)

/-- The fields that `reload` takes from the new configuration. -/
def takeOver (config new : CoordinatorConfig) (mtime : ℚ) : CoordinatorConfig :=
  { new with workerIndex := config.workerIndex, workerMetaserverPort := config.workerMetaserverPort, lastModified := some mtime }

/-- `self.last_modified and current_mtime <= self.last_modified`. -/
def unmodified (config : CoordinatorConfig) (mtime : ℚ) : Bool :=
  match config.lastModified with
  | none => false
  | some last => last ≠ 0 && mtime ≤ last

/-- `reload`; `file` is none when the path does not exist. -/
def reload (lib : ConfigLib) (env : CoordinatorEnv) (file : Option ConfigFile) (config : CoordinatorConfig) :
    Bool × CoordinatorConfig :=
  match config.configPath, file with
  | some path, some file =>
    if path = "" then (false, config)
    else if config.unmodified file.mtime then (true, config)
    else
      match fromJson lib env path file with
      | .error _ => (false, config)
      | .ok new =>
        match lib.reconfigureLogging ((config.takeOver new file.mtime).sections .logging) with
        | .error _ => (false, config.takeOver new file.mtime)
        | .ok () => (true, config.takeOver new file.mtime)
  | _, _ => (false, config)

end CoordinatorConfig

/-!
## Saving the configuration of a coordinator

`to_dict` and `save_to_json` of `motor/config/coordinator.py`, with `save_config_to_json` of `motor/config/config_utils.py`.
-/

/-- `.value` of a deploy mode. -/
def deployModeValue : DeployMode → String
  | .singleNode => "single_node"
  | .pdSeparate => "pd_separate"
  | .cdpSeparate => "cdp_separate"
  | .cpcdSeparate => "cpcd_separate"
  | .pdDualDispatch => "pd_dual_dispatch"
  | .pdDisaggregationSingleContainer => "pd_disaggregation_single_container"

/-- `.value` of a scheduler type. -/
def schedulerTypeValue : SchedulerType → String
  | .loadBalance => "load_balance"
  | .roundRobin => "round_robin"
  | .kvCacheAffinity => "kv_cache_affinity"

namespace Attr

/-- What `json.dump` writes for a value: neither sets nor members of an enumeration are serialisable. -/
def json? : Attr → Except PyException Json
  | .json v => .ok v
  | _ => .error (.builtin "TypeError")

/-- The conversions of `to_dict`. -/
def convert (name : SectionName) (field : String) (value : Attr) : Attr :=
  match value with
  | .deployMode mode => if name = .scheduler ∧ field = "deploy_mode" then text (deployModeValue mode) else value
  | .schedulerType type => if name = .scheduler ∧ field = "scheduler_type" then text (schedulerTypeValue type) else value
  | .texts ts =>
    if name = .apiKey ∧ (field = "valid_keys" ∨ field = "skip_paths") then .json (.arr (ts.map .str)) else value
  | .json _ => value

end Attr

/-- The item of a field. -/
def dumpField (name : SectionName) (item : String × Attr) : Except PyException (String × Json) := do
  return (item.1, ← (item.2.convert name item.1).json?)

def dumpSection (name : SectionName) (sec : Section) : Except PyException JsonObj := sec.entries.mapM (dumpField name)

/-- `json_path or self.config_path`, when it is not empty. -/
def savePath (jsonPath configPath : Option String) : Option String :=
  (jsonPath.filter (· ≠ "")).or (configPath.filter (· ≠ ""))

/-- `Path(path).name`. -/
def pathName (path : String) : List Char :=
  ((path.toList.splitOn '/').filter fun part => part ≠ [] ∧ part ≠ ['.']).getLast?.getD []

/-- Whether the path is the one of the unified configuration. -/
def isUnified (path : String) : Bool := pathName path = "config_sample.json".toList

/-- The unified configuration that is there; `file` is none when the path does not exist. -/
def unifiedConfig (lib : ConfigLib) (file : Option FileContent) : JsonObj :=
  match file with
  | some (.text cs) =>
    match lib.loads cs with
    | some (.obj existing) => existing
    | _ => []
  | _ => []

/-- `json.dump`, and how the writing of the file ends: it succeeds, or something else is left behind. -/
structure Writing where
  dumps : Json → List Char
  succeeds : Bool
  left : FileContent

namespace CoordinatorConfig

/-- The items of `to_dict` in the order of the fields; `errors` is what the last validation found. -/
def dictItems (errors : List String) (config : CoordinatorConfig) : List (String × Except PyException Json) :=
  let sec := fun name : SectionName => (name.key, (dumpSection name (config.sections name)).map Json.obj)
  [sec .logging, sec .prometheusMetrics, sec .exception, sec .scheduler, sec .inferenceWorkers, sec .inferTls, sec .mgmtTls,
    sec .etcdTls, sec .timeout, sec .apiKey, sec .rateLimit, sec .standby, sec .etcd,
    ("aigw_model", .ok (config.aigwModel.elim .null .obj)), sec .api, sec .deploy, sec .tracer, sec .prefillKvEvent,
    ("_errors", .ok (.arr (errors.map .str))), ("worker_index", .ok (config.workerIndex.elim .null .int)),
    ("worker_metaserver_port", .ok (config.workerMetaserverPort.elim .null .int))]

/-- `to_dict`, as far as it can be written. -/
def toDict (errors : List String) (config : CoordinatorConfig) : Except PyException JsonObj :=
  (dictItems errors config).mapM fun item => do return (item.1, ← item.2)

/-- What `save_config_to_json` passes to `json.dump`. -/
def dumped (lib : ConfigLib) (path : String) (file : Option FileContent) (dict : JsonObj) : JsonObj :=
  if isUnified path then JsonObj.set (unifiedConfig lib file) "motor_coordinator_config" (.obj dict) else dict

/-- `save_to_json`: the result, and what is behind the path afterwards. -/
def saveToJson (lib : ConfigLib) (writing : Writing) (errors : List String) (jsonPath : Option String)
    (file : Option FileContent) (config : CoordinatorConfig) : Bool × Option FileContent :=
  match savePath jsonPath config.configPath with
  | none => (false, file)
  | some path =>
    match toDict errors config with
    | .error _ => (false, some writing.left)
    | .ok dict =>
      if writing.succeeds then (true, some (.text (writing.dumps (.obj (dumped lib path file dict)))))
      else (false, some writing.left)

end CoordinatorConfig

end PyMotor.Config
