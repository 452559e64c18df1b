import PyMotor.Config.ReloadTheorems
import PyMotor.Config.Coordinator

/-!
# What is loaded of a saved configuration
-/

namespace PyMotor.Config

open Lib CoordinatorConfig

variable {lib : ConfigLib} {env : CoordinatorEnv} {path : String} {mtime : ℚ} {config new : CoordinatorConfig}
  {dict raw : JsonObj} {name : SectionName} {sec : Section}

/-! ## What is to hold -/

/-- A value as JSON reads it back: a set is a list. -/
def Attr.readBack : Attr → Attr
  | .texts ts => .json (.arr (ts.map .str))
  | value => value

/-- The fields of the dataclasses, with members where an enumeration is declared. -/
structure CoordinatorConfig.Typed (env : CoordinatorEnv) (config : CoordinatorConfig) : Prop where
  keys : ∀ name, (config.sections name).keys = (defaultSection env name).keys
  deployMode : ∃ mode, (config.sections .scheduler).get? "deploy_mode" = some (.deployMode mode)
  schedulerType : ∃ type, (config.sections .scheduler).get? "scheduler_type" = some (.schedulerType type)

/-- The value that is written is JSON: its text is read as the value. -/
def Representable (lib : ConfigLib) (writing : Writing) (value : Json) : Prop :=
  jsonOf lib (.text (writing.dumps value)) = some value

def otherSections (lib : ConfigLib) (path : String) (file : Option FileContent) : JsonObj :=
  if isUnified path then unifiedConfig lib file else []

/-- `prefill_kv_event_config` as the other sections give it. -/
def prefillKvEvents (raw : JsonObj) : Option Json :=
  match updatePrefillKvEventConfig (.obj []) (.obj raw) with
  | .obj d => JsonObj.get? d "prefill_kv_event_config"
  | _ => none

def override (raw : JsonObj) (name : SectionName) : Option Json :=
  match name with
  | .mgmtTls | .inferTls | .etcdTls => (getTlsConfig (.obj raw)).get? name.key
  | .deploy => (deployConfig (.obj raw)).map fun deploy =>
    .obj [("p_instances_num", (JsonObj.get? deploy "p_instances_num").getD (.int 1)),
      ("d_instances_num", (JsonObj.get? deploy "d_instances_num").getD (.int 1))]
  | .prefillKvEvent => prefillKvEvents raw
  | _ => none

/-- The sections are the saved ones, where nothing overrides them. -/
def OwnSections (others : JsonObj) (config new : CoordinatorConfig) : Prop :=
  ∀ name, override others name = none → new.sections name = (config.sections name).mapValues Attr.readBack

def Overridden (lib : ConfigLib) (env : CoordinatorEnv) (others : JsonObj) (new : CoordinatorConfig) : Prop :=
  ∀ name value, override others name = some value →
    updateConfigFromDict lib name ((defaults env).sections name) value = .ok (new.sections name)

/-! ## Fields -/

theorem dumpField_eq {item : String × Attr} {item' : String × Json} (h : dumpField name item = .ok item') :
    item'.1 = item.1 ∧ (item.2.convert name item.1).json? = .ok item'.2 := by
  rw [dumpField] at h
  obtain ⟨j, hj, h⟩ := bind_eq_ok.mp h
  cases h
  exact ⟨rfl, hj⟩

theorem deployModeOfString_value (mode : DeployMode) : deployModeOfString (deployModeValue mode) = some mode := by
  cases mode <;> decide

theorem schedulerTypeOfString_value (type : SchedulerType) :
    schedulerTypeOfString (schedulerTypeValue type) = some type := by
  cases type <;> decide

/-- The fields that hold a member of an enumeration. -/
def HoldsMembers (name : SectionName) (item : String × Attr) : Prop :=
  (name = .scheduler ∧ item.1 = "deploy_mode" → ∃ mode, item.2 = .deployMode mode) ∧
    (name = .scheduler ∧ item.1 = "scheduler_type" → ∃ type, item.2 = .schedulerType type)

theorem updateField_dumped {field : String} {value : Attr} {item : String × Json}
    (h : dumpField name (field, value) = .ok item) (hmember : HoldsMembers name (field, value))
    (hfield : sec.contains field = true) : updateField lib name sec item = .ok (sec.set field value.readBack) := by
  obtain ⟨key, j⟩ := item
  obtain ⟨hkey, hdump⟩ := dumpField_eq h
  subst hkey
  dsimp only at hdump hmember hfield ⊢
  rw [updateField]
  by_cases hmode : name = .scheduler ∧ key = "deploy_mode"
  · rw [if_pos hmode]
    obtain ⟨mode, hvalue⟩ := hmember.1 hmode
    dsimp only at hvalue
    rw [hvalue, Attr.convert, if_pos hmode] at hdump
    cases hdump
    simp only [setEnumField, deployModeOfString_value, Attr.readBack, hvalue]
  · rw [if_neg hmode]
    by_cases htype : name = .scheduler ∧ key = "scheduler_type"
    · rw [if_pos htype]
      obtain ⟨type, hvalue⟩ := hmember.2 htype
      dsimp only at hvalue
      rw [hvalue, Attr.convert, if_pos htype] at hdump
      cases hdump
      simp only [setEnumField, schedulerTypeOfString_value, Attr.readBack, hvalue]
    · rw [if_neg htype, if_pos hfield]
      cases value with
      | json v =>
          cases hdump
          rfl
      | texts ts =>
          rw [Attr.convert] at hdump
          split at hdump
          · cases hdump
            rfl
          · cases hdump
      | deployMode mode =>
          rw [Attr.convert, if_neg hmode] at hdump
          cases hdump
      | schedulerType type =>
          rw [Attr.convert, if_neg htype] at hdump
          cases hdump

/-! ## Sections -/

theorem foldlM_updateField {items : List (String × Attr)} {dumps : JsonObj} (h : items.mapM (dumpField name) = .ok dumps)
    (hmember : ∀ item ∈ items, HoldsMembers name item) (hfields : ∀ item ∈ items, sec.contains item.1 = true) :
    dumps.foldlM (updateField lib name) sec = .ok (sec.update (items.map fun item => (item.1, item.2.readBack))) := by
  induction items generalizing sec dumps with
  | nil =>
      cases h
      rfl
  | cons item items ih =>
      rw [List.mapM_cons] at h
      obtain ⟨item', hitem, h⟩ := bind_eq_ok.mp h
      obtain ⟨rest, hrest, h⟩ := bind_eq_ok.mp h
      cases h
      rw [List.forall_mem_cons] at hmember hfields
      rw [List.foldlM_cons, updateField_dumped hitem hmember.1 hfields.1, List.map_cons, Dict.update_cons]
      refine ih hrest hmember.2 fun other hother => ?_
      rw [Dict.contains_set]
      exact .inr (hfields.2 other hother)

theorem updateConfigFromDict_dumped {saved : Section} {dumps : JsonObj} (h : dumpSection name saved = .ok dumps)
    (hkeys : sec.keys = saved.keys) (hmember : ∀ item ∈ saved.entries, HoldsMembers name item) :
    updateConfigFromDict lib name sec (.obj dumps) = .ok (saved.mapValues Attr.readBack) := by
  have hfields : ∀ item ∈ saved.entries, sec.contains item.1 = true := by
    intro item hitem
    rw [Dict.contains_iff_mem_keys, hkeys]
    exact List.mem_map_of_mem hitem
  have hfold : dumps.foldlM (updateField lib name) sec = _ := foldlM_updateField h hmember hfields
  have hupdate : sec.update (saved.mapValues Attr.readBack).entries = saved.mapValues Attr.readBack :=
    Dict.update_of_keys (hkeys.trans (Dict.keys_mapValues saved _).symm)
  rw [← hupdate]
  exact hfold

/-! ## The dictionary -/

theorem get?_mapM_of_mem {items : List (String × Except PyException Json)} (hnodup : (items.map Prod.fst).Nodup)
    (h : (items.mapM fun item => do return (item.1, ← item.2)) = .ok dict) {key : String} {value : Except PyException Json}
    (hmem : (key, value) ∈ items) : ∃ v, value = .ok v ∧ dict.get? key = some v := by
  induction items generalizing dict with
  | nil => cases hmem
  | cons item items ih =>
      rw [List.mapM_cons] at h
      obtain ⟨item', hitem, h⟩ := bind_eq_ok.mp h
      obtain ⟨rest, hrest, h⟩ := bind_eq_ok.mp h
      obtain ⟨v, hv, hitem⟩ := bind_eq_ok.mp hitem
      cases h
      cases hitem
      rw [List.map_cons, List.nodup_cons] at hnodup
      rcases List.mem_cons.mp hmem with heq | hmem
      · subst heq
        exact ⟨v, hv, by rw [JsonObj.get?_cons, if_pos rfl]⟩
      · obtain ⟨v', hv', hget⟩ := ih hnodup.2 hrest hmem
        have hne : key ≠ item.1 := fun heq => hnodup.1 (heq ▸ List.mem_map_of_mem hmem)
        exact ⟨v', hv', by rw [JsonObj.get?_cons, if_neg hne, hget]⟩

theorem get?_mapM_of_not_mem {items : List (String × Except PyException Json)}
    (h : (items.mapM fun item => do return (item.1, ← item.2)) = .ok dict) {key : String}
    (hkey : key ∉ items.map Prod.fst) : dict.get? key = none := by
  induction items generalizing dict with
  | nil =>
      cases h
      rfl
  | cons item items ih =>
      rw [List.mapM_cons] at h
      obtain ⟨item', hitem, h⟩ := bind_eq_ok.mp h
      obtain ⟨rest, hrest, h⟩ := bind_eq_ok.mp h
      obtain ⟨v, hv, hitem⟩ := bind_eq_ok.mp hitem
      cases h
      cases hitem
      rw [List.map_cons, List.mem_cons, not_or] at hkey
      rw [JsonObj.get?_cons, if_neg hkey.1]
      exact ih hrest hkey.2

/-- The keys of the dictionary. -/
def dictKeys : List String :=
  ["logging_config", "prometheus_metrics_config", "exception_config", "scheduler_config", "inference_workers_config",
    "infer_tls_config", "mgmt_tls_config", "etcd_tls_config", "timeout_config", "api_key_config", "rate_limit_config",
    "standby_config", "etcd_config", "aigw_model", "api_config", "deploy_config", "tracer_config",
    "prefill_kv_event_config", "_errors", "worker_index", "worker_metaserver_port"]

section

variable {errors : List String} (h : toDict errors config = .ok dict)
include h

theorem get?_toDict (name : SectionName) : ∃ dumps, dumpSection name (config.sections name) = .ok dumps ∧
    dict.get? name.key = some (.obj dumps) := by
  have hnodup : ((dictItems errors config).map Prod.fst).Nodup := by
    have hkeys : dictKeys.Nodup := by decide
    exact hkeys
  have hmem : (name.key, (dumpSection name (config.sections name)).map Json.obj) ∈ dictItems errors config := by
    rw [dictItems]
    cases name <;> simp only [List.mem_cons, true_or, or_true]
  obtain ⟨v, hv, hget⟩ := get?_mapM_of_mem hnodup h hmem
  cases hdump : dumpSection name (config.sections name) with
  | error e =>
      rw [hdump] at hv
      cases hv
  | ok dumps =>
      rw [hdump] at hv
      cases hv
      exact ⟨dumps, rfl, hget⟩

theorem get?_toDict_other {key : String} (hkey : key ∉ dictKeys) : dict.get? key = none :=
  get?_mapM_of_not_mem h hkey

end

/-! ## The sections of the file -/

theorem foldlM_setTls (tls d : JsonObj) (keys : List String) :
    ∃ d' : JsonObj, keys.foldlM (fun cfg key =>
        match tls.get? key with
        | some value => setItem cfg key value
        | none => .ok cfg) (Json.obj d) = .ok (.obj d') ∧
      ∀ key, d'.get? key = if key ∈ keys then (tls.get? key).or (d.get? key) else d.get? key := by
  induction keys generalizing d with
  | nil => exact ⟨d, rfl, fun key => rfl⟩
  | cons key keys ih =>
      rw [List.foldlM_cons]
      cases hget : tls.get? key with
      | none =>
          obtain ⟨d', hfold, hd'⟩ := ih d
          refine ⟨d', hfold, fun key' => ?_⟩
          rw [hd' key']
          by_cases hkey : key' = key
          · subst hkey
            simp [hget]
          · simp [hkey]
      | some value =>
          obtain ⟨d', hfold, hd'⟩ := ih (d.set key value)
          refine ⟨d', hfold, fun key' => ?_⟩
          rw [hd' key']
          by_cases hkey : key' = key
          · subst hkey
            simp [hget]
          · simp [hkey, JsonObj.get?_set_ne hkey]

theorem get?_updateTlsConfig (d raw : JsonObj) : ∃ d' : JsonObj, updateTlsConfig (.obj d) (.obj raw) = .ok (.obj d') ∧
    ∀ key, d'.get? key = if key ∈ tlsKeys then ((getTlsConfig (.obj raw)).get? key).or (d.get? key) else d.get? key :=
  foldlM_setTls (getTlsConfig (.obj raw)) d tlsKeys

theorem get?_updateInstancesNum (d raw : JsonObj) : ∃ d' : JsonObj, updateInstancesNum (.obj d) (.obj raw) = .ok (.obj d') ∧
    ∀ key, d'.get? key = if key = "deploy_config" then (override raw .deploy).or (d.get? key) else d.get? key := by
  rw [updateInstancesNum]
  cases hdeploy : deployConfig (.obj raw) with
  | none =>
      refine ⟨d, rfl, fun key => ?_⟩
      simp [override, hdeploy]
  | some deploy =>
      refine ⟨_, rfl, fun key => ?_⟩
      rw [JsonObj.get?_set]
      by_cases hkey : key = "deploy_config"
      · simp [hkey, override, hdeploy]
      · simp [hkey]

theorem updatePrefillKvEventConfig_obj (raw : JsonObj) : ∃ events : Option Json, ∀ d,
    updatePrefillKvEventConfig (.obj d) (.obj raw) =
      .obj (events.elim d (JsonObj.set d "prefill_kv_event_config")) := by
  have hkeep : ∀ d, Json.obj d = .obj ((none : Option Json).elim d (JsonObj.set d "prefill_kv_event_config")) := fun d => rfl
  simp only [updatePrefillKvEventConfig]
  cases getItem (.obj raw) "motor_engine_prefill_config" with
  | error e => exact ⟨none, hkeep⟩
  | ok prefill =>
      simp only [bind, Except.bind]
      cases getItem prefill "engine_config" with
      | error e => exact ⟨none, hkeep⟩
      | ok engine =>
          cases engine with
          | obj engine =>
              dsimp only
              cases JsonObj.get? engine "kv-events-config" with
              | none => exact ⟨none, hkeep⟩
              | some events =>
                  cases events with
                  | obj events =>
                      dsimp only
                      cases getItem (.obj raw) "kv_conductor_config" with
                      | error e => exact ⟨none, hkeep⟩
                      | ok conductor =>
                          dsimp only
                          cases getItem conductor "http_server_port" with
                          | error e => exact ⟨none, hkeep⟩
                          | ok port =>
                              dsimp only
                              cases getItem prefill "model_config" with
                              | error e => exact ⟨none, hkeep⟩
                              | ok model =>
                                  dsimp only
                                  cases getItem model "model_path" with
                                  | error e => exact ⟨none, hkeep⟩
                                  | ok modelPath => exact ⟨some _, fun d => rfl⟩
                  | _ => exact ⟨none, hkeep⟩
          | _ => exact ⟨none, hkeep⟩

theorem get?_updatePrefill (d raw : JsonObj) : ∃ d' : JsonObj, updatePrefillKvEventConfig (.obj d) (.obj raw) = .obj d' ∧
    ∀ key, d'.get? key =
      if key = "prefill_kv_event_config" then (override raw .prefillKvEvent).or (d.get? key) else d.get? key := by
  obtain ⟨events, hevents⟩ := updatePrefillKvEventConfig_obj raw
  have hoverride : override raw .prefillKvEvent = events := by
    have hempty : prefillKvEvents raw = events := by
      rw [prefillKvEvents, hevents]
      cases events with
      | none => rfl
      | some value => exact JsonObj.get?_set_self _ _ _
    exact hempty
  refine ⟨_, hevents d, fun key => ?_⟩
  rw [hoverride]
  cases events with
  | none => simp
  | some value =>
      rw [Option.elim_some, JsonObj.get?_set]
      by_cases hkey : key = "prefill_kv_event_config"
      · simp [hkey]
      · simp [hkey]

theorem extractSections_get? {d : JsonObj} (hstart : (startSections raw).cfg = .obj d) :
    ∃ d' : JsonObj, extractSections (.obj raw) = { startSections raw with cfg := .obj d' } ∧
      (∀ name : SectionName, d'.get? name.key = (override raw name).or (d.get? name.key)) ∧
      d'.get? "aigw" = d.get? "aigw" := by
  obtain ⟨d₁, htls, hd₁⟩ := get?_updateTlsConfig d raw
  obtain ⟨d₂, hnum, hd₂⟩ := get?_updateInstancesNum d₁ raw
  obtain ⟨d₃, hprefill, hd₃⟩ := get?_updatePrefill d₂ raw
  refine ⟨d₃, ?_, fun name => ?_, ?_⟩
  · rw [extractSections_obj, hstart, htls]
    simp only [bind, Except.bind, hnum, hprefill]
  · rw [hd₃, hd₂, hd₁]
    cases name <;> simp [SectionName.key, tlsKeys, override]
  · rw [hd₃, hd₂, hd₁]
    simp [tlsKeys]

/-- The parts of the file that override sections. -/
def overridingKeys : List String := ["motor_deploy_config", "motor_engine_prefill_config", "kv_conductor_config"]

theorem override_congr {raw' : JsonObj} (h : ∀ key ∈ overridingKeys, raw.get? key = raw'.get? key) :
    override raw = override raw' := by
  have hdeploy : deployConfig (.obj raw) = deployConfig (.obj raw') := by
    simp only [deployConfig, h "motor_deploy_config" (by decide)]
  have htls : getTlsConfig (.obj raw) = getTlsConfig (.obj raw') := by rw [getTlsConfig, getTlsConfig, hdeploy]
  have hitem : ∀ key ∈ overridingKeys, getItem (.obj raw) key = getItem (.obj raw') key := by
    intro key hkey
    simp only [getItem, h key hkey]
  have hprefill : prefillKvEvents raw = prefillKvEvents raw' := by
    simp only [prefillKvEvents, updatePrefillKvEventConfig, hitem "motor_engine_prefill_config" (by decide),
      hitem "kv_conductor_config" (by decide)]
  funext name
  cases name <;> simp only [override, hdeploy, htls, hprefill]

section

variable {errors : List String} {file : Option FileContent} (h : toDict errors config = .ok dict)
include h

theorem startSections_dumped : (startSections (dumped lib path file dict)).cfg = .obj dict := by
  rw [startSections, dumped]
  cases isUnified path with
  | true => rw [if_pos rfl, JsonObj.get?_set_self]
  | false =>
      have hnone : JsonObj.get? dict "motor_coordinator_config" = none := get?_toDict_other h (by decide)
      rw [if_neg (by decide), hnone]

theorem override_dumped : override (dumped lib path file dict) = override (otherSections lib path file) := by
  refine override_congr fun key hkey => ?_
  rw [dumped, otherSections]
  cases isUnified path with
  | true =>
      have hne : key ≠ "motor_coordinator_config" := by
        rintro rfl
        exact absurd hkey (by decide)
      rw [if_pos rfl, if_pos rfl, JsonObj.get?_set_ne hne]
  | false =>
      have hother : key ∉ dictKeys := by
        rw [overridingKeys] at hkey
        rcases List.mem_cons.mp hkey with rfl | hkey
        · decide
        · rcases List.mem_cons.mp hkey with rfl | hkey
          · decide
          · cases List.mem_singleton.mp hkey
            decide
      rw [if_neg (by decide), if_neg (by decide), get?_toDict_other h hother]
      rfl

theorem readSections_dumped {content : FileContent}
    (hread : jsonOf lib content = some (.obj (dumped lib path file dict))) :
    ∃ d : JsonObj, (readSections lib content).cfg = .obj d ∧ d.get? "aigw" = none ∧ ∀ name, ∃ dumps,
      dumpSection name (config.sections name) = .ok dumps ∧
      d.get? name.key = some ((override (otherSections lib path file) name).getD (.obj dumps)) := by
  have hstart : (startSections (dumped lib path file dict)).cfg = .obj dict := startSections_dumped h
  obtain ⟨d, hextract, hsections, haigw⟩ := extractSections_get? hstart
  refine ⟨d, ?_, ?_, fun name => ?_⟩
  · rw [readSections_eq lib content hread, hextract]
  · rw [haigw]
    exact get?_toDict_other h (by decide)
  · obtain ⟨dumps, hdump, hget⟩ := get?_toDict h name
    refine ⟨dumps, hdump, ?_⟩
    rw [hsections, hget, override_dumped h]
    cases override (otherSections lib path file) name with
    | none => rfl
    | some value => rfl

end

/-! ## Loading -/

theorem updateSection_found {d : JsonObj} {value : Json} (hget : d.get? name.key = some value)
    (config : CoordinatorConfig) : updateSection lib (.obj d) config name =
      (updateConfigFromDict lib name (config.sections name) value).map fun sec =>
        { config with sections := Function.update config.sections name sec } := by
  have hkey : hasKey (.obj d) name.key = .ok true := by rw [hasKey, JsonObj.contains_eq, hget, Option.isSome_some]
  have hitem : getItem (.obj d) name.key = .ok value := by simp only [getItem, hget]
  rw [updateSection, hkey, hitem]
  cases hload : updateConfigFromDict lib name (config.sections name) value with
  | error e => simp [hload, bind, Except.bind, Except.map]
  | ok sec => simp [hload, bind, Except.bind, Except.map, pure, Except.pure]

theorem foldlM_updateSection {d : JsonObj} {value : SectionName → Json} {names : List SectionName} (hnodup : names.Nodup)
    (hget : ∀ name ∈ names, d.get? name.key = some (value name)) :
    names.foldlM (updateSection lib (.obj d)) config = .ok new ↔
      (∀ name ∈ names, updateConfigFromDict lib name (config.sections name) (value name) = .ok (new.sections name)) ∧
        (∀ name ∉ names, new.sections name = config.sections name) ∧ new = { config with sections := new.sections } := by
  induction names generalizing config with
  | nil =>
      constructor
      · intro h
        cases h
        exact ⟨fun name hname => absurd hname (by simp), fun _ _ => rfl, rfl⟩
      · rintro ⟨-, hsections, hrest⟩
        have heq : new.sections = config.sections := funext fun name => hsections name (by simp)
        rw [heq] at hrest
        rw [hrest]
        rfl
  | cons name names ih =>
      rw [List.nodup_cons] at hnodup
      rw [List.forall_mem_cons] at hget
      rw [List.foldlM_cons, updateSection_found hget.1, List.forall_mem_cons]
      cases hload : updateConfigFromDict lib name (config.sections name) (value name) with
      | error e => simp [bind, Except.bind, Except.map]
      | ok sec =>
          obtain ⟨next, hnext⟩ : ∃ next, next = { config with sections := Function.update config.sections name sec } :=
            ⟨_, rfl⟩
          have hsections : next.sections = Function.update config.sections name sec := by rw [hnext]
          have hself : next.sections name = sec := by rw [hsections, Function.update_self]
          have hrest : ∀ other, other ≠ name → next.sections other = config.sections other := by
            intro other hother
            rw [hsections, Function.update_of_ne hother]
          have hfields : ({ next with sections := new.sections } : CoordinatorConfig) =
              { config with sections := new.sections } := by rw [hnext]
          have hstep := @ih next hnodup.2 hget.2
          rw [hfields] at hstep
          rw [Except.map, ← hnext]
          refine hstep.trans ⟨?_, ?_⟩
          · rintro ⟨hloaded, hkept, heq⟩
            refine ⟨⟨?_, fun other hother => ?_⟩, fun other hother => ?_, heq⟩
            · rw [hkept name hnodup.1, hself]
            · rw [← hrest other (ne_of_mem_of_not_mem hother hnodup.1)]
              exact hloaded other hother
            · rw [List.mem_cons, not_or] at hother
              rw [hkept other hother.2, hrest other hother.1]
          · rintro ⟨⟨hsec, hloaded⟩, hkept, heq⟩
            refine ⟨fun other hother => ?_, fun other hother => ?_, heq⟩
            · rw [hrest other (ne_of_mem_of_not_mem hother hnodup.1)]
              exact hloaded other hother
            · by_cases hname : other = name
              · rw [hname, hself]
                cases hsec
                rfl
              · rw [hrest other hname]
                exact hkept other fun hmem => (List.mem_cons.mp hmem).elim hname hother

theorem mem_mappings (name : SectionName) : name ∈ SectionName.mappings := by
  cases name <;> decide

theorem nodup_mappings : SectionName.mappings.Nodup := by decide

/-! ## Validation of what is read back -/

/-- Only the section of the keys holds sets that can be written. -/
theorem readBack_of_dumped {item : String × Attr} {item' : String × Json} (h : dumpField name item = .ok item')
    (hname : name ≠ .apiKey) : item.2.readBack = item.2 := by
  obtain ⟨-, hdump⟩ := dumpField_eq h
  cases hvalue : item.2 with
  | texts ts =>
      have hkeys : ¬ (name = .apiKey ∧ (item.1 = "valid_keys" ∨ item.1 = "skip_paths")) := fun hkeys => hname hkeys.1
      rw [hvalue, Attr.convert, if_neg hkeys] at hdump
      cases hdump
  | _ => rfl

theorem dumpField_of_mem {items : List (String × Attr)} {dumps : JsonObj} (h : items.mapM (dumpField name) = .ok dumps) :
    ∀ item ∈ items, ∃ item', dumpField name item = .ok item' := by
  induction items generalizing dumps with
  | nil => simp
  | cons item items ih =>
      rw [List.mapM_cons] at h
      obtain ⟨item', hitem, h⟩ := bind_eq_ok.mp h
      obtain ⟨rest, hrest, h⟩ := bind_eq_ok.mp h
      rw [List.forall_mem_cons]
      exact ⟨⟨item', hitem⟩, ih hrest⟩

theorem mapValues_readBack {dumps : JsonObj} (h : dumpSection name sec = .ok dumps) (hname : name ≠ .apiKey) :
    sec.mapValues Attr.readBack = sec := by
  have hitems : ∀ item ∈ sec.entries, (item.1, item.2.readBack) = item := by
    intro item hitem
    obtain ⟨item', hitem'⟩ := dumpField_of_mem h item hitem
    rw [readBack_of_dumped hitem' hname]
  exact Dict.ext ((List.map_congr_left hitems).trans (List.map_id _))

theorem truthy_readBack (value : Attr) : value.readBack.truthy = value.truthy := by
  cases value with
  | texts ts => cases ts <;> rfl
  | _ => rfl

theorem map_bind {α β γ : Type} (x : Except PyException α) (f : α → β) (g : β → Except PyException γ) :
    (x.map f >>= g) = x >>= fun a => g (f a) := by
  cases x <;> rfl

theorem checkApiKey_readBack (h : new.sections .apiKey = (config.sections .apiKey).mapValues Attr.readBack) :
    new.checkApiKey = config.checkApiKey := by
  have hattr : ∀ field, new.attr .apiKey field = (config.attr .apiKey field).map Attr.readBack := by
    intro field
    rw [attr, attr, h, Dict.get?_mapValues]
    cases (config.sections .apiKey).get? field <;> rfl
  simp only [checkApiKey, hattr, map_bind, truthy_readBack]

/-- The sections that validation looks at, but for the keys. -/
def validated : List SectionName :=
  [.logging, .timeout, .exception, .tracer, .api, .inferenceWorkers, .rateLimit, .prometheusMetrics, .standby, .etcd]

theorem validateConfig_readBack (hsections : ∀ name ∈ validated, new.sections name = config.sections name)
    (hkeys : new.sections .apiKey = (config.sections .apiKey).mapValues Attr.readBack) :
    new.validateConfig lib = config.validateConfig lib := by
  have hattr : ∀ name ∈ validated, new.attr name = config.attr name := by
    intro name hname
    funext field
    rw [attr, attr, hsections name hname]
  have hchecks : new.checks lib = config.checks lib := by
    simp only [checks, checkLogLevel, positive, positiveOrNone, port, checkMetaserverPort, checkLastPort, checkStatusCode,
      checkApiKey_readBack hkeys, hattr .logging (by decide), hattr .timeout (by decide), hattr .exception (by decide),
      hattr .tracer (by decide), hattr .api (by decide), hattr .inferenceWorkers (by decide), hattr .rateLimit (by decide),
      hattr .prometheusMetrics (by decide), hattr .standby (by decide), hattr .etcd (by decide)]
  rw [validateConfig, validateConfig, errors, errors, hchecks]

theorem override_of_validated (h : name ∈ .apiKey :: validated) (raw : JsonObj) : override raw name = none := by
  cases name with
  | inferTls | mgmtTls | etcdTls | deploy | prefillKvEvent => exact absurd h (by decide)
  | _ => rfl

/-! ## A saved configuration -/

theorem keys_defaults (env : CoordinatorEnv) (name : SectionName) :
    ((defaults env).sections name).keys = (defaultSection env name).keys := by
  cases name <;> rfl

theorem holdsMembers_of_typed (h : config.Typed env) {item : String × Attr} (hitem : item ∈ (config.sections name).entries) :
    HoldsMembers name item := by
  constructor
  · rintro ⟨rfl, hkey⟩
    obtain ⟨mode, hmode⟩ := h.deployMode
    rw [← hkey, Dict.get?_eq_some_iff.mpr hitem] at hmode
    exact ⟨mode, Option.some.inj hmode⟩
  · rintro ⟨rfl, hkey⟩
    obtain ⟨type, htype⟩ := h.schedulerType
    rw [← hkey, Dict.get?_eq_some_iff.mpr hitem] at htype
    exact ⟨type, Option.some.inj htype⟩

theorem updateConfigFromDict_getD {dumps : JsonObj} {others : JsonObj} (htyped : config.Typed env)
    (hdump : dumpSection name (config.sections name) = .ok dumps) :
    updateConfigFromDict lib name ((defaults env).sections name) ((override others name).getD (.obj dumps)) = .ok sec ↔
      (override others name = none → sec = (config.sections name).mapValues Attr.readBack) ∧
        (∀ value, override others name = some value →
          updateConfigFromDict lib name ((defaults env).sections name) value = .ok sec) := by
  have hkeys : ((defaults env).sections name).keys = (config.sections name).keys :=
    (keys_defaults env name).trans (htyped.keys name).symm
  cases override others name with
  | none =>
      have hload : updateConfigFromDict lib name ((defaults env).sections name) (.obj dumps) = _ :=
        updateConfigFromDict_dumped hdump hkeys fun item hitem => holdsMembers_of_typed htyped hitem
      simp [hload, eq_comm]
  | some value => simp

section

variable {errors : List String} {others : JsonObj} (h : toDict errors config = .ok dict)
  (hown : OwnSections others config new)
include h hown

theorem OwnSections.validated (hname : name ∈ validated) : new.sections name = config.sections name := by
  obtain ⟨dumps, hdump, -⟩ := get?_toDict h name
  have hne : name ≠ .apiKey := by
    rintro rfl
    exact absurd hname (by decide)
  rw [hown name (override_of_validated (List.mem_cons_of_mem _ hname) others), mapValues_readBack hdump hne]

theorem OwnSections.validateConfig : new.validateConfig lib = config.validateConfig lib :=
  validateConfig_readBack (fun _ hname => hown.validated h hname)
    (hown .apiKey (override_of_validated List.mem_cons_self others))

end

section

variable {errors : List String} {file : Option FileContent} {content : FileContent} (htyped : config.Typed env)
  (h : toDict errors config = .ok dict) (hread : jsonOf lib content = some (.obj (dumped lib path file dict)))
include htyped h hread

theorem mappings_dumped : ∃ d : JsonObj, enrichAigw (readSections lib content) = .ok (.obj d) ∧
    (∀ config, setAigwModel lib (.obj d) config = .ok config) ∧
    ∀ merged, SectionName.mappings.foldlM (updateSection lib (.obj d)) (defaults env) = .ok merged ↔
      (OwnSections (otherSections lib path file) config merged ∧ Overridden lib env (otherSections lib path file) merged) ∧
        merged = { defaults env with sections := merged.sections } := by
  obtain ⟨d, hcfg, haigw, hsections⟩ := readSections_dumped h hread
  choose dumps hdump hget using hsections
  have hkey : hasKey (.obj d) "aigw" = .ok false := by
    rw [hasKey, JsonObj.contains_eq, haigw]
    rfl
  refine ⟨d, ?_, fun config => ?_, fun merged => ?_⟩
  · rw [enrichAigw]
    split
    · rw [hcfg]
    · rw [hcfg, hkey]
      rfl
  · rw [setAigwModel, hkey]
    rfl
  · rw [foldlM_updateSection nodup_mappings fun name _ => hget name]
    simp only [mem_mappings, true_imp_iff, not_true_eq_false, false_imp_iff, implies_true, true_and,
      updateConfigFromDict_getD htyped (hdump _), forall_and]
    rfl

theorem fromJson_dumped (hvalid : config.validateConfig lib = .ok ()) :
    fromJson lib env path { content := content, mtime := mtime } = .ok new ↔
      CoordinatorConfig.new lib env = .ok (defaults env) ∧ OwnSections (otherSections lib path file) config new ∧
        Overridden lib env (otherSections lib path file) new ∧
        lib.reconfigureLogging (config.sections .logging) = .ok () ∧
        new = { defaults env with sections := new.sections, configPath := some path, lastModified := some mtime } := by
  obtain ⟨d, henrich, hmodel, hmerge⟩ := mappings_dumped htyped h hread
  rw [fromJson, build]
  constructor
  · intro hload
    obtain ⟨start, hnew, hload⟩ := bind_eq_ok.mp hload
    obtain ⟨rfl, -⟩ := new_eq hnew
    obtain ⟨cfg, hcfg, hload⟩ := bind_eq_ok.mp hload
    rw [henrich] at hcfg
    cases hcfg
    obtain ⟨merged, hmerged, hload⟩ := bind_eq_ok.mp hload
    obtain ⟨aigw, haigw, hload⟩ := bind_eq_ok.mp hload
    rw [hmodel] at haigw
    cases haigw
    obtain ⟨u, -, hload⟩ := bind_eq_ok.mp hload
    obtain ⟨v, hlog, hload⟩ := bind_eq_ok.mp hload
    obtain ⟨⟨hown, hoverridden⟩, hfields⟩ := (hmerge merged).mp hmerged
    cases hload
    refine ⟨hnew, hown, hoverridden, ?_, ?_⟩
    · rw [← hown.validated h (by decide)]
      exact hlog
    · rw [hfields]
  · rintro ⟨hnew, hown, hoverridden, hlog, hfields⟩
    have hmerged := (hmerge { defaults env with sections := new.sections }).mpr ⟨⟨hown, hoverridden⟩, rfl⟩
    rw [← hown.validated h (by decide)] at hlog
    have hchecked := (hown.validateConfig h).trans hvalid
    rw [hfields] at hchecked
    simp only [bind, Except.bind, hnew, henrich, hmerged, hmodel, hchecked, hlog, pure, Except.pure]
    rw [← hfields]

end

section

variable {writing : Writing} {errors : List String} {jsonPath : Option String} {file : Option FileContent}
  {content : FileContent}

theorem saveToJson_true (hpath : savePath jsonPath config.configPath = some path)
    (hsave : saveToJson lib writing errors jsonPath file config = (true, some content)) : ∃ dict,
      toDict errors config = .ok dict ∧ content = .text (writing.dumps (.obj (dumped lib path file dict))) := by
  rw [saveToJson, hpath] at hsave
  cases hdict : toDict errors config with
  | error e =>
      rw [hdict] at hsave
      cases hsave
  | ok dict =>
      rw [hdict] at hsave
      dsimp only at hsave
      split at hsave
      · cases hsave
        exact ⟨dict, rfl, rfl⟩
      · cases hsave

theorem get?_dumped_other {key : String} (hunified : isUnified path = true) (hkey : key ≠ "motor_coordinator_config") :
    JsonObj.get? (dumped lib path file dict) key = JsonObj.get? (unifiedConfig lib file) key := by
  rw [dumped, if_pos hunified, JsonObj.get?_set_ne hkey]

/-- A saved configuration is loaded again, but for what other parts of the file override; the loading fails only for the
defaults of the environment, for what overrides a section, and for the logging. -/
theorem fromJson_saved (htyped : config.Typed env) (hvalid : config.validateConfig lib = .ok ())
    (hpath : savePath jsonPath config.configPath = some path)
    (hjson : ∀ dict, toDict errors config = .ok dict → Representable lib writing (.obj (dumped lib path file dict)))
    (hsave : saveToJson lib writing errors jsonPath file config = (true, some content)) :
    (isUnified path = true → ∃ raw : JsonObj, jsonOf lib content = some (.obj raw) ∧
      ∀ key, key ≠ "motor_coordinator_config" → raw.get? key = (unifiedConfig lib file).get? key) ∧
    (∀ new, fromJson lib env path { content := content, mtime := mtime } = .ok new →
      OwnSections (otherSections lib path file) config new ∧ Overridden lib env (otherSections lib path file) new ∧
        (config.aigwModel = none → new.aigwModel = none)) ∧
    ((∃ new, fromJson lib env path { content := content, mtime := mtime } = .ok new) ↔
      (∃ config, CoordinatorConfig.new lib env = .ok config) ∧
      (∀ name value, override (otherSections lib path file) name = some value →
        ∃ sec, updateConfigFromDict lib name ((defaults env).sections name) value = .ok sec) ∧
      lib.reconfigureLogging (config.sections .logging) = .ok ()) := by
  obtain ⟨dict, hdict, rfl⟩ := saveToJson_true hpath hsave
  have hread := hjson dict hdict
  refine ⟨fun hunified => ⟨_, hread, fun key hkey => get?_dumped_other hunified hkey⟩, fun new hnew => ?_, ?_⟩
  · obtain ⟨-, hown, hoverridden, -, hfields⟩ := (fromJson_dumped htyped hdict hread hvalid).mp hnew
    refine ⟨hown, hoverridden, fun _ => ?_⟩
    rw [hfields]
    rfl
  · constructor
    · rintro ⟨new, hnew⟩
      obtain ⟨hdefaults, -, hoverridden, hlog, -⟩ := (fromJson_dumped htyped hdict hread hvalid).mp hnew
      exact ⟨⟨_, hdefaults⟩, fun name value hvalue => ⟨_, hoverridden name value hvalue⟩, hlog⟩
    · rintro ⟨⟨start, hdefaults⟩, hoverridden, hlog⟩
      obtain ⟨rfl, -⟩ := new_eq hdefaults
      have hsections : ∀ name, ∃ sec, (override (otherSections lib path file) name = none →
          sec = (config.sections name).mapValues Attr.readBack) ∧
          ∀ value, override (otherSections lib path file) name = some value →
            updateConfigFromDict lib name ((defaults env).sections name) value = .ok sec := by
        intro name
        cases hvalue : override (otherSections lib path file) name with
        | none => exact ⟨_, fun _ => rfl, fun value hsome => absurd hsome (Option.some_ne_none value).symm⟩
        | some value =>
            obtain ⟨sec, hsec⟩ := hoverridden name value hvalue
            refine ⟨sec, fun hnone => absurd hnone (Option.some_ne_none value), fun value' hsome => ?_⟩
            cases hsome
            exact hsec
      choose sections hown hover using hsections
      exact ⟨{ defaults env with sections := sections, configPath := some path, lastModified := some mtime },
        (fromJson_dumped htyped hdict hread hvalid).mpr ⟨hdefaults, hown, hover, hlog, rfl⟩⟩

end

/-! ## A deployment with TLS -/

def quote (s : String) : List Char := '"' :: s.toList ++ ['"']

def newline (depth : ℕ) : List Char := '\n' :: List.replicate (2 * depth) ' '

mutual

/-- `json.dump` with an indent of two, of numbers with one decimal. -/
def writeJson (depth : ℕ) : Json → List Char
  | .null => "null".toList
  | .bool b => if b then "true".toList else "false".toList
  | .int n => (toString n).toList
  | .float q => (toString q.floor ++ "." ++ toString ((10 * q).floor % 10)).toList
  | .str s => quote s
  | .arr [] => "[]".toList
  | .arr (x :: xs) =>
    '[' :: newline (depth + 1) ++ writeJson (depth + 1) x ++ writeItems (depth + 1) xs ++ newline depth ++ [']']
  | .obj [] => ['\x7b', '\x7d']
  | .obj ((key, v) :: rest) =>
    '\x7b' :: (newline (depth + 1) ++ quote key ++ ": ".toList ++ writeJson (depth + 1) v ++ writeFields (depth + 1) rest ++
      newline depth ++ ['\x7d'])

def writeItems (depth : ℕ) : List Json → List Char
  | [] => []
  | x :: xs => ',' :: newline depth ++ writeJson depth x ++ writeItems depth xs

def writeFields (depth : ℕ) : List (String × Json) → List Char
  | [] => []
  | (key, v) :: rest => ',' :: newline depth ++ quote key ++ ": ".toList ++ writeJson depth v ++ writeFields depth rest

end

def deployTls : JsonObj :=
  [("motor_deploy_config", .obj [("tls_config", .obj [("mgmt_tls_config", .obj [("enable_tls", .bool true)])])])]

def deployText : List Char :=
  "\x7b\"motor_deploy_config\": \x7b\"tls_config\": \x7b\"mgmt_tls_config\": \x7b\"enable_tls\": true\x7d\x7d\x7d\x7d".toList

def savedDict : JsonObj := (toDict [] (defaults {})).toOption.getD []

def savedValue : Json := .obj (JsonObj.set deployTls "motor_coordinator_config" (.obj savedDict))

def readUnified (cs : List Char) : Option Json :=
  if cs = deployText then some (.obj deployTls) else if cs = writeJson 0 savedValue then some savedValue else none

def unifiedLib : ConfigLib := { plainLib with loads := readUnified }

theorem loads_unifiedLib : unifiedLib.loads = readUnified := rfl

def unifiedWriting : Writing where
  dumps := writeJson 0
  succeeds := true
  left := .unreadable

def unifiedPath : String := "/etc/motor/config_sample.json"

theorem toDict_defaults : toDict [] (defaults {}) = .ok savedDict := by
  have hok : (toDict [] (defaults {})).toOption.isSome = true := by decide
  rw [savedDict]
  cases hdict : toDict [] (defaults {}) with
  | error e =>
      rw [hdict] at hok
      cases hok
  | ok dict => rfl

theorem writeJson_savedValue : ∃ body, writeJson 0 savedValue = '\x7b' :: '\n' :: body ++ ['\x7d'] := by
  have hset : savedValue = .obj (("motor_deploy_config",
      .obj [("tls_config", .obj [("mgmt_tls_config", .obj [("enable_tls", .bool true)])])]) ::
        [("motor_coordinator_config", .obj savedDict)]) := by
    rw [savedValue, deployTls]
    rfl
  rw [hset, writeJson, newline]
  exact ⟨_, rfl⟩

theorem deployText_ne : writeJson 0 savedValue ≠ deployText := by
  obtain ⟨body, hbody⟩ := writeJson_savedValue
  have hsecond : deployText[1]? = some '"' := by decide
  intro heq
  rw [← heq, hbody, List.cons_append, List.getElem?_cons_succ, List.cons_append, List.getElem?_cons_zero] at hsecond
  exact absurd (Option.some.inj hsecond) (by decide)

theorem representable_saved : Representable unifiedLib unifiedWriting savedValue := by
  obtain ⟨body, hbody⟩ := writeJson_savedValue
  have hstrip : Text.strip (writeJson 0 savedValue) = writeJson 0 savedValue := by
    have hopen : Text.isSpace '\x7b' = false := by decide
    have hclose : Text.isSpace '\x7d' = false := by decide
    refine Text.strip_eq_self (fun c hc => ?_) ⟨_, _, hbody, hclose⟩
    rw [hbody, List.cons_append, List.head?_cons] at hc
    have hfirst : '\x7b' = c := Option.some.inj hc
    rwa [hfirst] at hopen
  have hloads : unifiedLib.loads (writeJson 0 savedValue) = some savedValue := by
    rw [loads_unifiedLib, readUnified, if_neg deployText_ne, if_pos rfl]
  have hblank : ¬ (writeJson 0 savedValue).isEmpty = true := by
    rw [hbody]
    simp
  have hdumps : unifiedWriting.dumps = writeJson 0 := rfl
  rw [Representable, hdumps, jsonOf, hstrip, if_neg hblank, hloads]

theorem typed_defaults : (defaults {}).Typed {} where
  keys := keys_defaults {}
  deployMode := ⟨.pdSeparate, rfl⟩
  schedulerType := ⟨.loadBalance, rfl⟩

theorem valid_defaults : (defaults {}).validateConfig unifiedLib = .ok () :=
  (new_eq (new_defaults_iff.mpr (.inl (by decide)))).2

theorem unifiedConfig_deploy : unifiedConfig unifiedLib (some (.text deployText)) = deployTls := by
  have hloads : unifiedLib.loads deployText = some (.obj deployTls) := by
    rw [loads_unifiedLib, readUnified, if_pos rfl]
  simp only [unifiedConfig, hloads]

theorem isUnified_unifiedPath : isUnified unifiedPath = true := by decide

theorem dumped_deploy : Json.obj (dumped unifiedLib unifiedPath (some (.text deployText)) savedDict) = savedValue := by
  rw [dumped, if_pos isUnified_unifiedPath, unifiedConfig_deploy, savedValue]

theorem otherSections_deploy : otherSections unifiedLib unifiedPath (some (.text deployText)) = deployTls := by
  rw [otherSections, if_pos isUnified_unifiedPath, unifiedConfig_deploy]

theorem savePath_unifiedPath : savePath (some unifiedPath) (defaults {}).configPath = some unifiedPath := by decide

theorem saveToJson_deploy : saveToJson unifiedLib unifiedWriting [] (some unifiedPath) (some (.text deployText)) (defaults {}) =
    (true, some (.text (writeJson 0 savedValue))) := by
  simp only [saveToJson, savePath_unifiedPath, toDict_defaults, dumped_deploy]
  rfl

theorem override_mgmtTls : override deployTls .mgmtTls = some (.obj [("enable_tls", .bool true)]) := rfl

theorem mgmtTls_deploy : updateConfigFromDict unifiedLib .mgmtTls ((defaults {}).sections .mgmtTls)
    (.obj [("enable_tls", .bool true)]) = .ok (tlsConfig.set "enable_tls" (flag true)) := rfl

theorem override_deployTls (name : SectionName) (value : Json) (h : override deployTls name = some value) :
    ∃ sec, updateConfigFromDict unifiedLib name ((defaults {}).sections name) value = .ok sec := by
  cases name with
  | mgmtTls | deploy =>
      cases h
      exact ⟨_, rfl⟩
  | _ => cases h

theorem fromJson_savedDefaults : ∃ new,
    fromJson unifiedLib {} unifiedPath { content := .text (writeJson 0 savedValue), mtime := 2 } = .ok new ∧
      OwnSections deployTls (defaults {}) new := by
  have hjson : ∀ dict, toDict [] (defaults {}) = .ok dict → Representable unifiedLib unifiedWriting
      (.obj (dumped unifiedLib unifiedPath (some (.text deployText)) dict)) := by
    intro dict hdict
    rw [toDict_defaults] at hdict
    cases hdict
    rw [dumped_deploy]
    exact representable_saved
  obtain ⟨-, hsame, hloads⟩ :=
    fromJson_saved typed_defaults valid_defaults savePath_unifiedPath hjson saveToJson_deploy
  rw [otherSections_deploy] at hsame hloads
  obtain ⟨new, hnew⟩ := hloads.mpr ⟨⟨_, new_defaults_iff.mpr (.inl (by decide))⟩, override_deployTls, rfl⟩
  exact ⟨new, hnew, (hsame new hnew).1⟩

theorem mgmtTls_overridden : (defaults {}).Typed {} ∧ (defaults {}).validateConfig unifiedLib = .ok () ∧
    saveToJson unifiedLib unifiedWriting [] (some unifiedPath) (some (.text deployText)) (defaults {}) =
      (true, some (.text (writeJson 0 savedValue))) ∧
    Representable unifiedLib unifiedWriting savedValue ∧
    ¬ ∃ new, fromJson unifiedLib {} unifiedPath { content := .text (writeJson 0 savedValue), mtime := 2 } = .ok new ∧
      ∀ name, new.sections name = ((defaults {}).sections name).mapValues Attr.readBack := by
  refine ⟨typed_defaults, valid_defaults, saveToJson_deploy, representable_saved, ?_⟩
  rintro ⟨new, hnew, hsame⟩
  have hread : jsonOf unifiedLib (.text (writeJson 0 savedValue)) =
      some (.obj (dumped unifiedLib unifiedPath (some (.text deployText)) savedDict)) := by
    rw [dumped_deploy]
    exact representable_saved
  obtain ⟨-, -, hoverridden, -, -⟩ := (fromJson_dumped typed_defaults toDict_defaults hread valid_defaults).mp hnew
  rw [otherSections_deploy] at hoverridden
  have hload := hoverridden .mgmtTls _ override_mgmtTls
  rw [mgmtTls_deploy, hsame] at hload
  have henabled := congrArg (fun sec : Section => (sec.get? "enable_tls").map Attr.truthy) (Except.ok.inj hload)
  exact absurd henabled (by decide)

end PyMotor.Config
