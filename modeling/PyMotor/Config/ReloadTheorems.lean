import PyMotor.Config.Coordinator

/-!
# When a reload is atomic
-/

namespace PyMotor.Config

open Lib CoordinatorConfig

variable {lib : ConfigLib} {env : CoordinatorEnv} {path : String} {mtime : ℚ} {file : ConfigFile}
  {config new : CoordinatorConfig} {content : FileContent} {cfg : Json} {raw : JsonObj}

/-! ## What is to hold -/

def jsonOf (lib : ConfigLib) (content : FileContent) : Option Json :=
  match content with
  | .unreadable => none
  | .text cs => if (Text.strip cs).isEmpty then none else lib.loads (Text.strip cs)

/-- A reload takes over what the content says, or it leaves the configuration alone. -/
structure Atomic (lib : ConfigLib) (env : CoordinatorEnv) (path : String) (file : ConfigFile) (config : CoordinatorConfig) :
    Prop where
  runtime : (reload lib env (some file) config).2.workerIndex = config.workerIndex ∧
    (reload lib env (some file) config).2.workerMetaserverPort = config.workerMetaserverPort
  outcome : (∃ raw new, jsonOf lib file.content = some (.obj raw) ∧ (readSections lib file.content).failed = false ∧
      fromJson lib env path file = .ok new ∧ new.validateConfig lib = .ok () ∧
      reload lib env (some file) config = (true, config.takeOver new file.mtime)) ∨
    reload lib env (some file) config = (false, config)

/-- The deployment can be written into the sections. -/
def Extracts (raw : JsonObj) : Prop :=
  deployConfig (.obj raw) = none ∨ ∀ cfg, raw.get? "motor_coordinator_config" = some cfg → ∃ d, cfg = .obj d

/-- The content is an object with sections. -/
def Sound (lib : ConfigLib) (content : FileContent) : Prop := ∃ raw, jsonOf lib content = some (.obj raw) ∧ Extracts raw

def fallback (lib : ConfigLib) (content : FileContent) : Json :=
  match jsonOf lib content with
  | none => .obj []
  | some (.obj raw) => (JsonObj.get? raw "motor_coordinator_config").getD (.obj raw)
  | some other => other

def sectionKeys : List String := "aigw" :: SectionName.mappings.map SectionName.key

/-- No dictionary, and something that is looked up in it is found, or cannot be looked up at all. -/
def Unusable (cfg : Json) : Prop := (∀ d, cfg ≠ .obj d) ∧ ∃ key ∈ sectionKeys, hasKey cfg key ≠ .ok false

/-- The address of the environment. -/
def podHost (env : CoordinatorEnv) : String := textOr (env.podIp.getD "") "127.0.0.1"

/-- The address of the environment is none, or the default logging is refused. -/
def DefaultsRefused (lib : ConfigLib) (env : CoordinatorEnv) : Prop :=
  (lib.isIpAddress (podHost env) = false ∧ isHostname (podHost env).toList = false) ∨
    lib.reconfigureLogging (defaultSection env .logging) ≠ .ok ()

/-! ## Reading -/

theorem getTlsConfig_of_none (h : deployConfig cfg = none) : getTlsConfig cfg = [] := by
  rw [getTlsConfig, h]

theorem updateTlsConfig_nil {raw : Json} (h : getTlsConfig raw = []) (cfg : Json) : updateTlsConfig cfg raw = .ok cfg := by
  rw [updateTlsConfig, h]
  rfl

theorem updateTlsConfig_obj (d : JsonObj) (raw : Json) : ∃ d', updateTlsConfig (.obj d) raw = .ok (.obj d') := by
  rw [updateTlsConfig]
  generalize tlsKeys = keys
  induction keys generalizing d with
  | nil => exact ⟨d, rfl⟩
  | cons key keys ih =>
      rw [List.foldlM_cons]
      cases (getTlsConfig raw).get? key with
      | none => exact ih d
      | some value => exact ih (d.set key value)

theorem updateTlsConfig_other {cfg cfg' raw : Json} (hcfg : ∀ d, cfg ≠ .obj d) (h : updateTlsConfig cfg raw = .ok cfg') :
    cfg' = cfg := by
  rw [updateTlsConfig] at h
  generalize tlsKeys = keys at h
  induction keys with
  | nil =>
      cases h
      rfl
  | cons key keys ih =>
      rw [List.foldlM_cons] at h
      cases hget : (getTlsConfig raw).get? key with
      | none =>
          rw [hget] at h
          exact ih h
      | some value =>
          rw [hget] at h
          cases cfg with
          | obj d => exact absurd rfl (hcfg d)
          | _ => cases h

theorem updatePrefill_other {raw : Json} (h : ∀ d, raw ≠ .obj d) (cfg : Json) : updatePrefillKvEventConfig cfg raw = cfg := by
  cases raw with
  | obj d => exact absurd rfl (h d)
  | _ => rfl

theorem extractSections_other {raw : Json} (h : ∀ d, raw ≠ .obj d) : extractSections raw = { cfg := raw } := by
  have hdeploy : deployConfig raw = none := by
    cases raw with
    | obj d => exact absurd rfl (h d)
    | _ => rfl
  have htls := updateTlsConfig_nil (getTlsConfig_of_none hdeploy) raw
  have hnum : updateInstancesNum raw raw = .ok raw := by rw [updateInstancesNum, hdeploy]
  have hprefill := updatePrefill_other h raw
  cases raw with
  | obj d => exact absurd rfl (h d)
  | _ => simp only [extractSections, bind, Except.bind, htls, hnum, hprefill]

def startSections (raw : JsonObj) : Sections :=
  match JsonObj.get? raw "motor_coordinator_config" with
  | some cfg => { cfg := cfg, userConfigData := some raw }
  | none => { cfg := .obj raw }

theorem extractSections_obj (raw : JsonObj) : extractSections (.obj raw) =
    match (do updateInstancesNum (← updateTlsConfig (startSections raw).cfg (.obj raw)) (.obj raw) : Except PyException Json) with
    | .ok cfg => { startSections raw with cfg := updatePrefillKvEventConfig cfg (.obj raw) }
    | .error _ => { startSections raw with failed := true } := rfl

theorem startSections_failed (raw : JsonObj) : (startSections raw).failed = false := by
  rw [startSections]
  split
  · rfl
  · rfl

theorem failed_of_extracts (h : Extracts raw) : (extractSections (.obj raw)).failed = false := by
  rw [extractSections_obj]
  rcases h with hnone | hobj
  · rw [updateTlsConfig_nil (getTlsConfig_of_none hnone)]
    simp only [bind, Except.bind, updateInstancesNum, hnone]
    exact startSections_failed raw
  · have hcfg : ∃ d, (startSections raw).cfg = .obj d := by
      rw [startSections]
      split
      · rename_i cfg hget
        exact hobj cfg hget
      · exact ⟨raw, rfl⟩
    obtain ⟨d, hd⟩ := hcfg
    obtain ⟨d', htls⟩ := updateTlsConfig_obj d (.obj raw)
    rw [hd, htls]
    have hnum : ∃ cfg, updateInstancesNum (.obj d') (.obj raw) = .ok cfg := by
      rw [updateInstancesNum]
      split
      · exact ⟨_, rfl⟩
      · exact ⟨_, rfl⟩
    obtain ⟨cfg, hcfg⟩ := hnum
    simp only [bind, Except.bind, hcfg]
    exact startSections_failed raw

theorem extractSections_of_not_extracts (h : ¬ Extracts raw) : ∃ cfg, raw.get? "motor_coordinator_config" = some cfg ∧
    (∀ d, cfg ≠ .obj d) ∧ extractSections (.obj raw) = { cfg := cfg, userConfigData := some raw, failed := true } := by
  rw [Extracts, not_or] at h
  obtain ⟨hsome, hother⟩ := h
  push Not at hother
  obtain ⟨cfg, hget, hcfg⟩ := hother
  refine ⟨cfg, hget, hcfg, ?_⟩
  have hstart : startSections raw = { cfg := cfg, userConfigData := some raw } := by
    rw [startSections, hget]
  obtain ⟨deploy, hdeploy⟩ := Option.ne_none_iff_exists'.mp hsome
  have hset : ∀ key value, setItem cfg key value = .error (.builtin "TypeError") := by
    intro key value
    cases cfg with
    | obj d => exact absurd rfl (hcfg d)
    | _ => rfl
  rw [extractSections_obj, hstart]
  cases htls : updateTlsConfig cfg (.obj raw) with
  | error e => rfl
  | ok cfg' =>
      rw [updateTlsConfig_other hcfg htls]
      simp only [bind, Except.bind, updateInstancesNum, hdeploy, hset]

theorem readSections_eq (lib : ConfigLib) (content : FileContent) {raw : Json} (h : jsonOf lib content = some raw) :
    readSections lib content = extractSections raw := by
  cases content with
  | unreadable => cases h
  | text cs =>
      rw [jsonOf] at h
      rw [readSections]
      split at h
      · cases h
      · rename_i hblank
        rw [if_neg hblank, h]

theorem readSections_none (h : jsonOf lib content = none) : ∃ failed, readSections lib content = { failed := failed } := by
  cases content with
  | unreadable => exact ⟨true, rfl⟩
  | text cs =>
      rw [jsonOf] at h
      rw [readSections]
      split at h
      · rename_i hblank
        rw [if_pos hblank]
        exact ⟨false, rfl⟩
      · rename_i hblank
        rw [if_neg hblank, h]
        exact ⟨true, rfl⟩

theorem sound_iff : Sound lib content ↔
    ∃ raw, jsonOf lib content = some (.obj raw) ∧ (readSections lib content).failed = false := by
  constructor
  · rintro ⟨raw, hjson, hextracts⟩
    refine ⟨raw, hjson, ?_⟩
    rw [readSections_eq lib content hjson]
    exact failed_of_extracts hextracts
  · rintro ⟨raw, hjson, hfailed⟩
    refine ⟨raw, hjson, ?_⟩
    by_contra hnot
    obtain ⟨cfg, -, -, heq⟩ := extractSections_of_not_extracts hnot
    rw [readSections_eq lib content hjson, heq] at hfailed
    cases hfailed

theorem readSections_unsound (h : ¬ Sound lib content) : (readSections lib content).cfg = fallback lib content ∧
    (fallback lib content = .obj [] ∨ ∀ d, fallback lib content ≠ .obj d) := by
  cases hjson : jsonOf lib content with
  | none =>
      obtain ⟨failed, heq⟩ := readSections_none hjson
      have hfallback : fallback lib content = .obj [] := by rw [fallback, hjson]
      rw [heq, hfallback]
      exact ⟨rfl, .inl rfl⟩
  | some raw =>
      rw [readSections_eq lib content hjson]
      by_cases hobj : ∃ d, raw = .obj d
      · obtain ⟨d, rfl⟩ := hobj
        obtain ⟨cfg, hget, hcfg, heq⟩ := extractSections_of_not_extracts fun hextracts => h ⟨d, hjson, hextracts⟩
        have hfallback : fallback lib content = cfg := by
          rw [fallback, hjson]
          simp only [hget, Option.getD_some]
        rw [heq, hfallback]
        exact ⟨rfl, .inr hcfg⟩
      · have hother : ∀ d, raw ≠ .obj d := fun d hd => hobj ⟨d, hd⟩
        have hfallback : fallback lib content = raw := by
          rw [fallback, hjson]
          cases raw with
          | obj d => exact absurd rfl (hother d)
          | _ => rfl
        rw [extractSections_other hother, hfallback]
        exact ⟨rfl, .inr hother⟩

theorem absent_of_not_unusable (hobj : cfg = .obj [] ∨ ∀ d, cfg ≠ .obj d) (h : ¬ Unusable cfg) :
    ∀ key ∈ sectionKeys, hasKey cfg key = .ok false := by
  rcases hobj with rfl | hother
  · exact fun _ _ => rfl
  · intro key hkey
    by_contra hfound
    exact h ⟨hother, key, hkey, hfound⟩

/-! ## Loading -/

theorem foldlM_ok_mem {α β ε : Type} {f : β → α → Except ε β} {l : List α} {b r : β} (h : l.foldlM f b = .ok r) :
    ∀ a ∈ l, ∃ b₁ b₂, f b₁ a = .ok b₂ := by
  induction l generalizing b with
  | nil => simp
  | cons a l ih =>
      rw [List.foldlM_cons] at h
      cases ha : f b a with
      | error e =>
          rw [ha] at h
          cases h
      | ok b' =>
          rw [ha] at h
          rw [List.forall_mem_cons]
          exact ⟨⟨b, b', ha⟩, ih h⟩

theorem foldlM_stay {α β ε : Type} {f : β → α → Except ε β} {l : List α} {b : β} (h : ∀ a ∈ l, f b a = .ok b) :
    l.foldlM f b = .ok b := by
  induction l with
  | nil => rfl
  | cons a l ih =>
      rw [List.forall_mem_cons] at h
      rw [List.foldlM_cons, h.1]
      exact ih h.2

theorem getItem_other (h : ∀ d, cfg ≠ .obj d) (key : String) : getItem cfg key = .error (.builtin "TypeError") := by
  cases cfg with
  | obj d => exact absurd rfl (h d)
  | _ => rfl

theorem updateSection_fails {name : SectionName} (h : ∀ d, cfg ≠ .obj d) (hkey : hasKey cfg name.key ≠ .ok false)
    (config new : CoordinatorConfig) : updateSection lib cfg config name ≠ .ok new := by
  intro heq
  rw [updateSection] at heq
  obtain ⟨found, hfound, heq⟩ := bind_eq_ok.mp heq
  cases found with
  | false => exact hkey hfound
  | true =>
      rw [if_pos rfl, getItem_other h] at heq
      cases heq

theorem setAigwModel_fails (h : ∀ d, cfg ≠ .obj d) (hkey : hasKey cfg "aigw" ≠ .ok false) (config new : CoordinatorConfig) :
    setAigwModel lib cfg config ≠ .ok new := by
  intro heq
  rw [setAigwModel] at heq
  obtain ⟨found, hfound, heq⟩ := bind_eq_ok.mp heq
  cases found with
  | false => exact hkey hfound
  | true =>
      rw [if_pos rfl, getItem_other h] at heq
      cases heq

theorem enrichAigw_other {sections : Sections} (h : ∀ d, sections.cfg ≠ .obj d) (hok : enrichAigw sections = .ok cfg) :
    cfg = sections.cfg := by
  rw [enrichAigw] at hok
  split at hok
  · cases hok
    rfl
  · obtain ⟨found, -, hok⟩ := bind_eq_ok.mp hok
    split at hok
    · split at hok
      · rename_i d heq
        exact absurd heq (h d)
      · cases hok
        rfl
    · cases hok
      rfl

theorem build_fails {sections : Sections} (h : ∀ d, sections.cfg ≠ .obj d) {key : String} (hkey : key ∈ sectionKeys)
    (hfound : hasKey sections.cfg key ≠ .ok false) (new : CoordinatorConfig) :
    build lib env path mtime sections ≠ .ok new := by
  intro heq
  rw [build] at heq
  obtain ⟨config, -, heq⟩ := bind_eq_ok.mp heq
  obtain ⟨cfg, hcfg, heq⟩ := bind_eq_ok.mp heq
  obtain ⟨merged, hmerged, heq⟩ := bind_eq_ok.mp heq
  obtain ⟨aigw, haigw, heq⟩ := bind_eq_ok.mp heq
  rw [enrichAigw_other h hcfg] at hmerged haigw
  rw [sectionKeys, List.mem_cons] at hkey
  rcases hkey with rfl | hkey
  · exact setAigwModel_fails h hfound merged aigw haigw
  · obtain ⟨name, hname, rfl⟩ := List.mem_map.mp hkey
    obtain ⟨before, after, hupdate⟩ := foldlM_ok_mem hmerged name hname
    exact updateSection_fails h hfound before after hupdate

theorem validateConfig_congr {config₁ config₂ : CoordinatorConfig} (h : config₁.sections = config₂.sections) :
    config₁.validateConfig lib = config₂.validateConfig lib := by
  have hattr : config₁.attr = config₂.attr := by
    funext name field
    rw [attr, attr, h]
  have hchecks : config₁.checks lib = config₂.checks lib := by
    simp only [checks, checkLogLevel, positive, positiveOrNone, port, checkMetaserverPort, checkLastPort, checkStatusCode,
      checkApiKey, hattr]
  rw [validateConfig, validateConfig, errors, errors, hchecks]

theorem new_eq (h : CoordinatorConfig.new lib env = .ok config) :
    config = defaults env ∧ (defaults env).validateConfig lib = .ok () := by
  rw [CoordinatorConfig.new] at h
  obtain ⟨u, hvalid, h⟩ := bind_eq_ok.mp h
  cases h
  exact ⟨rfl, hvalid⟩

theorem validateIpOrHostname_text {s : String} (h : s ≠ "") (field : String) :
    validateIpOrHostname lib (text s) field = [] ↔ lib.isIpAddress s = true ∨ isHostname s.toList = true := by
  simp only [validateIpOrHostname, text, if_neg h]
  split
  · rename_i hvalid
    exact iff_of_true rfl ((Bool.or_eq_true _ _).mp hvalid)
  · rename_i hvalid
    exact iff_of_false (by simp) fun hor => hvalid ((Bool.or_eq_true _ _).mpr hor)

theorem podHost_ne_empty (env : CoordinatorEnv) : podHost env ≠ "" := by
  rw [podHost, textOr]
  split
  · decide
  · assumption

theorem extend_none (n : ℕ) (found : List String) : (List.replicate n (Except.ok [])).foldlM extend found = .ok found := by
  refine foldlM_stay fun check hcheck => ?_
  rw [List.eq_of_mem_replicate hcheck, extend, Except.map, List.append_nil]

theorem extend_one (n m : ℕ) (found : List String) :
    (List.replicate n (Except.ok []) ++ Except.ok found :: List.replicate m (Except.ok [])).foldlM extend [] = .ok found := by
  rw [List.foldlM_append, extend_none]
  exact extend_none m found

theorem errors_defaults (lib : ConfigLib) (env : CoordinatorEnv) :
    (defaults env).errors lib = .ok (validateIpOrHostname lib (text (podHost env)) "coordinator_api_host") := by
  have hdelay : (defaults env).positive .exception false "retry_delay" = .ok [] := by
    have heq : (defaults env).positive .exception false "retry_delay" =
        validatePositiveNumber (real (1 / 5)) "retry_delay" false := rfl
    rw [heq, validatePositiveNumber]
    simp [Attr.number?, real, bind, Except.bind, pure, Except.pure]
  have hetcd : ((defaults env).attr .etcd "etcd_host").map (fun value => validateIpOrHostname lib value "etcd_host") =
      .ok [] := by
    have hname : isHostname "etcd.default.svc.cluster.local".toList = true := by decide
    exact congrArg Except.ok ((validateIpOrHostname_text (by decide) "etcd_host").mpr (.inr hname))
  have hchecks : (defaults env).checks lib = List.replicate 23 (.ok []) ++
      .ok (validateIpOrHostname lib (text (podHost env)) "coordinator_api_host") :: List.replicate 13 (.ok []) := by
    rw [checks, hdelay, hetcd]
    rfl
  rw [errors, hchecks]
  exact extend_one 23 13 _

theorem new_defaults_iff : CoordinatorConfig.new lib env = .ok (defaults env) ↔
    lib.isIpAddress (podHost env) = true ∨ isHostname (podHost env).toList = true := by
  have hhost : validateIpOrHostname lib (text (podHost env)) "coordinator_api_host" = [] ↔ _ :=
    validateIpOrHostname_text (podHost_ne_empty env) _
  rw [← hhost, CoordinatorConfig.new, validateConfig, errors_defaults]
  cases validateIpOrHostname lib (text (podHost env)) "coordinator_api_host" with
  | nil => exact iff_of_true rfl rfl
  | cons e es => exact iff_of_false (by simp [bind, Except.bind]) (by simp)

theorem defaultsRefused_iff : DefaultsRefused lib env ↔
    ¬ ∃ config, CoordinatorConfig.new lib env = .ok config ∧ lib.reconfigureLogging (config.sections .logging) = .ok () := by
  rw [DefaultsRefused, ← Bool.not_eq_true, ← Bool.not_eq_true, ← not_or, ← new_defaults_iff]
  constructor
  · rintro hrefused ⟨config, hconfig, hlog⟩
    obtain ⟨rfl, -⟩ := new_eq hconfig
    rcases hrefused with haddress | hlogging
    · exact haddress hconfig
    · exact hlogging hlog
  · intro hnone
    by_contra hnot
    rw [not_or, not_not, not_not] at hnot
    exact hnone ⟨defaults env, hnot⟩

theorem build_absent {sections : Sections} (habsent : ∀ key ∈ sectionKeys, hasKey sections.cfg key = .ok false) :
    build lib env path mtime sections = .ok new ↔ ∃ config, CoordinatorConfig.new lib env = .ok config ∧
      lib.reconfigureLogging (config.sections .logging) = .ok () ∧
      new = { config with configPath := some path, lastModified := some mtime } := by
  have haigw : hasKey sections.cfg "aigw" = .ok false := habsent "aigw" List.mem_cons_self
  have henrich : enrichAigw sections = .ok sections.cfg := by
    rw [enrichAigw]
    split
    · rfl
    · rw [haigw]
      rfl
  have hmerge : ∀ config, SectionName.mappings.foldlM (updateSection lib sections.cfg) config = .ok config := by
    intro config
    refine foldlM_stay fun name hname => ?_
    rw [updateSection, habsent name.key (List.mem_cons_of_mem _ (List.mem_map_of_mem hname))]
    rfl
  have hmodel : ∀ config, setAigwModel lib sections.cfg config = .ok config := by
    intro config
    rw [setAigwModel, haigw]
    rfl
  rw [build]
  cases hnew : CoordinatorConfig.new lib env with
  | error e => simp [bind, Except.bind]
  | ok config =>
      obtain ⟨rfl, hdefaults⟩ := new_eq hnew
      have hvalid : ({ defaults env with configPath := some path, lastModified := some mtime } :
          CoordinatorConfig).validateConfig lib = .ok () := (validateConfig_congr rfl).trans hdefaults
      simp only [bind, Except.bind, henrich, hmerge, hmodel]
      rw [hvalid]
      cases hlog : lib.reconfigureLogging ((defaults env).sections .logging) with
      | error e => simp [hlog]
      | ok u => simp [hlog, pure, Except.pure, eq_comm]

theorem build_ok {sections : Sections} (h : build lib env path mtime sections = .ok new) :
    new.validateConfig lib = .ok () ∧ lib.reconfigureLogging (new.sections .logging) = .ok () ∧
      ∃ config, CoordinatorConfig.new lib env = .ok config := by
  rw [build] at h
  obtain ⟨config, hnew, h⟩ := bind_eq_ok.mp h
  obtain ⟨cfg, -, h⟩ := bind_eq_ok.mp h
  obtain ⟨merged, -, h⟩ := bind_eq_ok.mp h
  obtain ⟨aigw, -, h⟩ := bind_eq_ok.mp h
  obtain ⟨u, hvalid, h⟩ := bind_eq_ok.mp h
  obtain ⟨v, hlog, h⟩ := bind_eq_ok.mp h
  cases h
  exact ⟨hvalid, hlog, config, hnew⟩

/-! ## A reload of a modified file -/

theorem unmodified_of_newer (h : ∀ t ∈ config.lastModified, t < file.mtime) : config.unmodified file.mtime = false := by
  rw [unmodified]
  cases hlast : config.lastModified with
  | none => rfl
  | some last =>
      have hlt : last < file.mtime := h last hlast
      simp only [decide_eq_false (not_le.mpr hlt), Bool.and_false]

section

variable (hpath : config.configPath = some path) (hne : path ≠ "") (hmodified : config.unmodified file.mtime = false)
include hpath hne hmodified

theorem reload_error {e : PyException} (h : fromJson lib env path file = .error e) :
    reload lib env (some file) config = (false, config) := by
  simp only [reload, hpath, if_neg hne, hmodified, h, Bool.false_eq_true, if_false]

theorem reload_ok (h : fromJson lib env path file = .ok new) :
    reload lib env (some file) config = (true, config.takeOver new file.mtime) := by
  have hlog : lib.reconfigureLogging ((config.takeOver new file.mtime).sections .logging) = .ok () := (build_ok h).2.1
  simp only [reload, hpath, if_neg hne, hmodified, h, hlog, Bool.false_eq_true, if_false]

theorem atomic_of_error {e : PyException} (h : fromJson lib env path file = .error e) : Atomic lib env path file config where
  runtime := by
    rw [reload_error hpath hne hmodified h]
    exact ⟨rfl, rfl⟩
  outcome := .inr (reload_error hpath hne hmodified h)

theorem atomic_of_fails (h : ∀ new, fromJson lib env path file ≠ .ok new) : Atomic lib env path file config := by
  cases hload : fromJson lib env path file with
  | error e => exact atomic_of_error hpath hne hmodified hload
  | ok new => exact absurd hload (h new)

theorem atomic_of_sound (h : Sound lib file.content) : Atomic lib env path file config := by
  cases hload : fromJson lib env path file with
  | error e => exact atomic_of_error hpath hne hmodified hload
  | ok new =>
      obtain ⟨raw, hjson, hfailed⟩ := sound_iff.mp h
      have hreload := reload_ok hpath hne hmodified hload
      constructor
      · rw [hreload]
        exact ⟨rfl, rfl⟩
      · exact .inl ⟨raw, new, hjson, hfailed, hload, (build_ok hload).1, hreload⟩

/-- A reload of what loads is atomic for sound content only. -/
theorem sound_of_atomic (hload : fromJson lib env path file = .ok new) (h : Atomic lib env path file config) :
    Sound lib file.content := by
  rcases h.outcome with ⟨raw, new', hjson, hfailed, -⟩ | hleft
  · exact sound_iff.mpr ⟨raw, hjson, hfailed⟩
  · rw [reload_ok hpath hne hmodified hload] at hleft
    cases congrArg Prod.fst hleft

end

/-- A reload is atomic when the content is an object with sections, when the loading of other content fails in what is taken
for its sections, and when the defaults cannot be loaded. -/
theorem reload_atomic_iff (hpath : config.configPath = some path) (hne : path ≠ "")
    (hnewer : ∀ t ∈ config.lastModified, t < file.mtime) :
    Atomic lib env path file config ↔
      Sound lib file.content ∨ Unusable (fallback lib file.content) ∨ DefaultsRefused lib env := by
  have hmodified := unmodified_of_newer hnewer
  by_cases hsound : Sound lib file.content
  · exact iff_of_true (atomic_of_sound hpath hne hmodified hsound) (.inl hsound)
  · obtain ⟨hcfg, hobj⟩ := readSections_unsound hsound
    rw [or_iff_right hsound]
    by_cases hunusable : Unusable (fallback lib file.content)
    · refine iff_of_true (atomic_of_fails hpath hne hmodified fun new => ?_) (.inl hunusable)
      obtain ⟨hother, key, hkey, hfound⟩ := hunusable
      rw [← hcfg] at hother hfound
      exact build_fails hother hkey hfound new
    · have habsent := absent_of_not_unusable hobj hunusable
      rw [← hcfg] at habsent
      rw [or_iff_right hunusable]
      constructor
      · intro hatomic
        refine defaultsRefused_iff.mpr ?_
        rintro ⟨config', hconfig, hlog⟩
        have hload : fromJson lib env path file = .ok _ := (build_absent habsent).mpr ⟨config', hconfig, hlog, rfl⟩
        exact hsound (sound_of_atomic hpath hne hmodified hload hatomic)
      · intro hrefused
        refine atomic_of_fails hpath hne hmodified fun new hload => ?_
        obtain ⟨config', hconfig, hlog, -⟩ := (build_absent habsent).mp hload
        exact defaultsRefused_iff.mp hrefused ⟨config', hconfig, hlog⟩

/-! ## A file that is no JSON -/

def openText : String :=
  "\x7b\"motor_deploy_config\": {}, \"motor_coordinator_config\": " ++
    "\x7b\"api_key_config\": \x7b\"enable_api_key\": false\x7d\x7d\x7d"

def openSections : JsonObj :=
  [("motor_deploy_config", .obj []),
    ("motor_coordinator_config", .obj [("api_key_config", .obj [("enable_api_key", .bool false)])])]

def plainLib : ConfigLib where
  loads cs := if cs = "{}".toList then some (.obj []) else if cs = openText.toList then some (.obj openSections) else none
  isIpAddress s := s = "127.0.0.1"
  str _ := "0"
  dict _ := .error (.builtin "TypeError")
  setOther _ _ _ sec := .ok sec
  reconfigureLogging _ := .ok ()

def guardedConfig : CoordinatorConfig where
  sections name := if name = .apiKey then (defaultSection {} name).set "enable_api_key" (flag true) else defaultSection {} name
  configPath := some "/etc/motor/user_config.json"
  lastModified := some 1

def cutFile : ConfigFile where
  content := .text "\x7b \"motor_coor".toList
  mtime := 2

def apiKeyEnabled (config : CoordinatorConfig) : Option Bool :=
  ((config.sections .apiKey).get? "enable_api_key").map Attr.truthy

def openFile : ConfigFile where
  content := .text openText.toList
  mtime := 2

theorem jsonOf_openFile : jsonOf plainLib openFile.content = some (.obj openSections) := by
  have hstrip : Text.strip openText.toList = openText.toList := by decide +kernel
  have hempty : openText.toList.isEmpty = false := by decide +kernel
  have hother : ¬ openText.toList = "{}".toList := by decide +kernel
  simp only [jsonOf, openFile, hstrip, hempty, plainLib, if_neg hother, if_true, Bool.false_eq_true, if_false]

theorem openFile_atomic : Atomic plainLib {} "/etc/motor/user_config.json" openFile guardedConfig ∧
    (reload plainLib {} (some openFile) guardedConfig).1 = true ∧
    apiKeyEnabled (reload plainLib {} (some openFile) guardedConfig).2 = some false := by
  refine ⟨(reload_atomic_iff rfl (by decide) (by decide)).mpr (.inl ⟨openSections, jsonOf_openFile, .inr ?_⟩),
    by decide +kernel, by decide +kernel⟩
  intro cfg hcfg
  cases hcfg
  exact ⟨_, rfl⟩

/-- The reload succeeds, and no key is asked for any more. -/
theorem cutFile_disables_apiKey : apiKeyEnabled guardedConfig = some true ∧
    (reload plainLib {} (some cutFile) guardedConfig).1 = true ∧
    apiKeyEnabled (reload plainLib {} (some cutFile) guardedConfig).2 = some false ∧
    ¬ Atomic plainLib {} "/etc/motor/user_config.json" cutFile guardedConfig := by
  have hreload : (reload plainLib {} (some cutFile) guardedConfig).1 = true := by decide +kernel
  refine ⟨by decide, hreload, by decide +kernel, fun hatomic => ?_⟩
  rcases hatomic.outcome with ⟨raw, new, hjson, -⟩ | hleft
  · cases hjson
  · rw [hleft] at hreload
    cases hreload

end PyMotor.Config
