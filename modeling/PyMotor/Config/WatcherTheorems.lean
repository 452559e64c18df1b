import PyMotor.Config.Coordinator
import PyMotor.Config.ReloadTheorems

/-!
# When a hot reload ends at the last version of the file

Only the handling of an event reads the file, and an event that comes within the debounce time of a successful reload is
dropped. So an event after the last write has to come later than that.
-/

/-!
## The watcher of the configuration file

`ConfigFileHandler` of `motor/common/utils/config_watcher.py`, and a process whose handler reloads its
`CoordinatorConfig`.
-/

namespace PyMotor.Config

open CoordinatorConfig

structure ConfigFileHandler where
  configPath : String
  debounceSeconds : ℚ := 1
  lastReload : ℚ := 0

/-- A modification event, with the time at which it is handled. -/
structure FileEvent where
  srcPath : String
  time : ℚ

namespace ConfigFileHandler

/-- The event is for another file, or comes too early. -/
def ignores (abspath : String → String) (handler : ConfigFileHandler) (event : FileEvent) : Prop :=
  abspath event.srcPath ≠ handler.configPath ∨ event.time - handler.lastReload < handler.debounceSeconds

instance (abspath : String → String) (handler : ConfigFileHandler) (event : FileEvent) :
    Decidable (handler.ignores abspath event) :=
  inferInstanceAs (Decidable (_ ∨ _))

/-- `on_modified` on what the two callbacks work on; their errors are reported only. -/
def onModified {σ : Type} (abspath : String → String) (reloadCallback : σ → Except PyException Bool × σ)
    (configUpdateCallback : Option (σ → Except PyException Unit × σ)) (event : FileEvent) (handler : ConfigFileHandler)
    (s : σ) : ConfigFileHandler × σ :=
  if handler.ignores abspath event then (handler, s)
  else
    match reloadCallback s with
    | (.ok true, s') =>
      ({ handler with lastReload := event.time },
        match configUpdateCallback with
        | some callback => (callback s').2
        | none => s')
    | (_, s') => (handler, s')

end ConfigFileHandler

/-- What the callbacks of a process work on. `seen` is the configuration that the update callback was called with last. -/
structure Watched where
  file : ConfigFile
  config : CoordinatorConfig
  seen : Option CoordinatorConfig := none

structure WatcherProcess where
  handler : ConfigFileHandler
  watched : Watched

/-- What stays the same in a process: `update` is what its update callback returns or raises, when there is one. -/
structure WatcherEnv where
  lib : ConfigLib
  env : CoordinatorEnv
  abspath : String → String
  update : Option (CoordinatorConfig → Except PyException Unit)

namespace Watched

def reloadCallback (we : WatcherEnv) (w : Watched) : Except PyException Bool × Watched :=
  (.ok (reload we.lib we.env (some w.file) w.config).1,
    { w with config := (reload we.lib we.env (some w.file) w.config).2 })

def configUpdateCallback (update : CoordinatorConfig → Except PyException Unit) (w : Watched) :
    Except PyException Unit × Watched :=
  (update w.config, { w with seen := some w.config })

end Watched

inductive WatcherMove
  | write (file : ConfigFile)
  | modified (event : FileEvent)

namespace WatcherProcess

def onModified (we : WatcherEnv) (p : WatcherProcess) (event : FileEvent) : WatcherProcess :=
  let result := ConfigFileHandler.onModified we.abspath (Watched.reloadCallback we)
    (we.update.map Watched.configUpdateCallback) event p.handler p.watched
  { handler := result.1, watched := result.2 }

def write (p : WatcherProcess) (file : ConfigFile) : WatcherProcess := { p with watched.file := file }

def step (we : WatcherEnv) (p : WatcherProcess) : WatcherMove → WatcherProcess
  | .write file => p.write file
  | .modified event => p.onModified we event

def run (we : WatcherEnv) (p : WatcherProcess) (moves : List WatcherMove) : WatcherProcess := moves.foldl (step we) p

end WatcherProcess

/-- The modification times of the writes, the first after `t`, are strictly increasing. -/
def Ordered : ℚ → List WatcherMove → Prop
  | _, [] => True
  | t, .write file :: moves => t < file.mtime ∧ Ordered file.mtime moves
  | t, .modified _ :: moves => Ordered t moves

open Lib

variable {we : WatcherEnv} {path : String} {file : ConfigFile} {new : CoordinatorConfig} {p : WatcherProcess}
  {event : FileEvent} {events : List FileEvent} {moves : List WatcherMove}

/-! ## What is to hold -/

/-- The settings in memory are those of `new`, and the update callback was called with them. -/
structure Converged (we : WatcherEnv) (new : CoordinatorConfig) (p : WatcherProcess) : Prop where
  sections : p.watched.config.sections = new.sections
  aigwModel : p.watched.config.aigwModel = new.aigwModel
  seen : we.update.isSome = true → p.watched.seen = some p.watched.config

/-- The configuration comes from this version of the file, or from an earlier one. -/
structure Live (path : String) (w : Watched) : Prop where
  configPath : w.config.configPath = some path
  lastModified : ∀ t ∈ w.config.lastModified, t ≤ w.file.mtime

/-- The configuration is that of the file. -/
structure Loaded (we : WatcherEnv) (path : String) (new : CoordinatorConfig) (p : WatcherProcess) : Prop where
  file : fromJson we.lib we.env path p.watched.file = .ok new
  configPath : p.watched.config.configPath = some path
  converged : Converged we new p

theorem build_marks {lib : ConfigLib} {env : CoordinatorEnv} {mtime : ℚ} {sections : Sections}
    (h : build lib env path mtime sections = .ok new) : new.configPath = some path ∧ new.lastModified = some mtime := by
  rw [build] at h
  obtain ⟨config, -, h⟩ := bind_eq_ok.mp h
  obtain ⟨cfg, -, h⟩ := bind_eq_ok.mp h
  obtain ⟨merged, -, h⟩ := bind_eq_ok.mp h
  obtain ⟨aigw, -, h⟩ := bind_eq_ok.mp h
  obtain ⟨u, -, h⟩ := bind_eq_ok.mp h
  obtain ⟨v, -, h⟩ := bind_eq_ok.mp h
  cases h
  exact ⟨rfl, rfl⟩

theorem reload_cases (lib : ConfigLib) (env : CoordinatorEnv) (file : ConfigFile) (config : CoordinatorConfig) :
    (reload lib env (some file) config).2 = config ∨ ∃ path new, config.configPath = some path ∧
      fromJson lib env path file = .ok new ∧ (reload lib env (some file) config).2 = config.takeOver new file.mtime := by
  cases hpath : config.configPath with
  | none =>
      simp only [reload, hpath]
      exact .inl trivial
  | some path =>
      simp only [reload, hpath]
      split
      · exact .inl rfl
      · split
        · exact .inl rfl
        · cases hload : fromJson lib env path file with
          | error e => exact .inl rfl
          | ok new =>
              refine .inr ⟨path, new, rfl, hload, ?_⟩
              simp only
              split
              · rfl
              · rfl

/-! ## One event -/

theorem onModified_ignored (h : p.handler.ignores we.abspath event) : p.onModified we event = p := by
  simp only [WatcherProcess.onModified, ConfigFileHandler.onModified, if_pos h]

theorem onModified_true (h : ¬ p.handler.ignores we.abspath event) {config : CoordinatorConfig}
    (hreload : reload we.lib we.env (some p.watched.file) p.watched.config = (true, config)) :
    p.onModified we event =
      { handler := { p.handler with lastReload := event.time },
        watched := { p.watched with
          config := config, seen := if we.update.isSome then some config else p.watched.seen } } := by
  have hcallback : Watched.reloadCallback we p.watched = (.ok true, { p.watched with config := config }) := by
    rw [Watched.reloadCallback, hreload]
  rw [WatcherProcess.onModified, ConfigFileHandler.onModified, if_neg h, hcallback]
  cases we.update with
  | none => rfl
  | some update => rfl

theorem onModified_false (h : ¬ p.handler.ignores we.abspath event) {config : CoordinatorConfig}
    (hreload : reload we.lib we.env (some p.watched.file) p.watched.config = (false, config)) :
    p.onModified we event = { p with watched.config := config } := by
  have hcallback : Watched.reloadCallback we p.watched = (.ok false, { p.watched with config := config }) := by
    rw [Watched.reloadCallback, hreload]
  rw [WatcherProcess.onModified, ConfigFileHandler.onModified, if_neg h, hcallback]

theorem onModified_cases (we : WatcherEnv) (p : WatcherProcess) (event : FileEvent) :
    (p.onModified we event).watched.file = p.watched.file ∧ ((p.onModified we event).watched.config = p.watched.config ∨
      (p.onModified we event).watched.config = (reload we.lib we.env (some p.watched.file) p.watched.config).2) := by
  by_cases h : p.handler.ignores we.abspath event
  · rw [onModified_ignored h]
    exact ⟨rfl, .inl rfl⟩
  · cases hreload : reload we.lib we.env (some p.watched.file) p.watched.config with
    | mk ok config =>
        cases ok with
        | true =>
            rw [onModified_true h hreload]
            exact ⟨rfl, .inr rfl⟩
        | false =>
            rw [onModified_false h hreload]
            exact ⟨rfl, .inr rfl⟩

theorem live_onModified (event : FileEvent) (h : Live path p.watched) : Live path (p.onModified we event).watched := by
  obtain ⟨hfile, hconfig⟩ := onModified_cases we p event
  have hsame : (p.onModified we event).watched.config = p.watched.config → Live path (p.onModified we event).watched := by
    intro heq
    constructor
    · rw [heq]
      exact h.configPath
    · rw [heq, hfile]
      exact h.lastModified
  rcases hconfig with heq | heq
  · exact hsame heq
  · rcases reload_cases we.lib we.env p.watched.file p.watched.config with hleft | ⟨path', new, hpath, hload, hnew⟩
    · exact hsame (heq.trans hleft)
    · have heqPath : path' = path := Option.some.inj (hpath.symm.trans h.configPath)
      have hloaded := heq.trans hnew
      constructor
      · rw [hloaded]
        exact heqPath ▸ (build_marks hload).1
      · intro t ht
        rw [hloaded] at ht
        cases ht
        rw [hfile]

theorem loaded_of_reload (h : ¬ p.handler.ignores we.abspath event) {config : CoordinatorConfig}
    (hreload : reload we.lib we.env (some p.watched.file) p.watched.config = (true, config))
    (hload : fromJson we.lib we.env path p.watched.file = .ok new) (hpath : config.configPath = some path)
    (hsections : config.sections = new.sections) (haigw : config.aigwModel = new.aigwModel) :
    Loaded we path new (p.onModified we event) := by
  rw [onModified_true h hreload]
  refine ⟨hload, hpath, hsections, haigw, fun hupdate => ?_⟩
  exact if_pos hupdate

theorem loaded_of_unmodified (hne : path ≠ "") (h : ¬ p.handler.ignores we.abspath event)
    (hpath : p.watched.config.configPath = some path) (hmodified : p.watched.config.unmodified p.watched.file.mtime = false)
    (hload : fromJson we.lib we.env path p.watched.file = .ok new) : Loaded we path new (p.onModified we event) :=
  loaded_of_reload h (reload_ok hpath hne hmodified hload) hload (build_marks hload).1 rfl rfl

theorem loaded_onModified (hne : path ≠ "") (event : FileEvent) (h : Loaded we path new p) :
    Loaded we path new (p.onModified we event) := by
  by_cases hignored : p.handler.ignores we.abspath event
  · rw [onModified_ignored hignored]
    exact h
  · cases hmodified : p.watched.config.unmodified p.watched.file.mtime with
    | false => exact loaded_of_unmodified hne hignored h.configPath hmodified h.file
    | true =>
        have hreload : reload we.lib we.env (some p.watched.file) p.watched.config = (true, p.watched.config) := by
          simp only [reload, h.configPath, if_neg hne, hmodified, if_true]
        exact loaded_of_reload hignored hreload h.file h.configPath h.converged.sections h.converged.aigwModel

/-! ## Runs -/

theorem live_write (h : Live path p.watched) (hlt : p.watched.file.mtime < file.mtime) :
    Live path (p.write file).watched where
  configPath := h.configPath
  lastModified t ht := le_trans (h.lastModified t ht) (le_of_lt hlt)

theorem live_run (h : Live path p.watched) (hordered : Ordered p.watched.file.mtime (moves ++ [.write file])) :
    Live path (p.run we moves).watched ∧ (p.run we moves).watched.file.mtime < file.mtime := by
  induction moves generalizing p with
  | nil => exact ⟨h, hordered.1⟩
  | cons move moves ih =>
      cases move with
      | write first => exact ih (p := p.write first) (live_write h hordered.1) hordered.2
      | modified event =>
          have hfile := (onModified_cases we p event).1
          refine ih (p := p.onModified we event) (live_onModified event h) ?_
          rw [hfile]
          exact hordered

theorem run_ignored (h : ∀ event ∈ events, p.handler.ignores we.abspath event) :
    p.run we (events.map .modified) = p := by
  induction events with
  | nil => rfl
  | cons event events ih =>
      rw [List.forall_mem_cons] at h
      have hstep : p.run we ((event :: events).map .modified) = (p.onModified we event).run we (events.map .modified) := rfl
      rw [hstep, onModified_ignored h.1]
      exact ih h.2

theorem loaded_run (hne : path ≠ "") (h : Loaded we path new p) : Loaded we path new (p.run we (events.map .modified)) := by
  induction events generalizing p with
  | nil => exact h
  | cons event events ih => exact ih (loaded_onModified hne event h)

theorem loaded_of_event (hne : path ≠ "") (hpath : p.watched.config.configPath = some path)
    (hmodified : p.watched.config.unmodified p.watched.file.mtime = false)
    (hload : fromJson we.lib we.env path p.watched.file = .ok new)
    (h : ∃ event ∈ events, ¬ p.handler.ignores we.abspath event) :
    Loaded we path new (p.run we (events.map .modified)) := by
  induction events with
  | nil =>
      obtain ⟨event, hmem, -⟩ := h
      cases hmem
  | cons event events ih =>
      have hstep : p.run we ((event :: events).map .modified) = (p.onModified we event).run we (events.map .modified) := rfl
      rw [hstep]
      by_cases hignored : p.handler.ignores we.abspath event
      · rw [onModified_ignored hignored]
        obtain ⟨later, hmem, hlater⟩ := h
        rcases List.mem_cons.mp hmem with rfl | hmem
        · exact absurd hignored hlater
        · exact ih ⟨later, hmem, hlater⟩
      · exact loaded_run hne (loaded_of_unmodified hne hignored hpath hmodified hload)

/-- After a last write of valid content the process has that configuration, if and only if an event after the write is not
dropped, or it had the same settings before. -/
theorem converges_iff (hne : path ≠ "") (hlive : Live path p.watched)
    (hordered : Ordered p.watched.file.mtime (moves ++ [.write file]))
    (hvalid : fromJson we.lib we.env path file = .ok new) :
    Converged we new (p.run we (moves ++ .write file :: events.map .modified)) ↔
      (∃ event ∈ events, ¬ (p.run we moves).handler.ignores we.abspath event) ∨ Converged we new (p.run we moves) := by
  obtain ⟨hbefore, hlt⟩ : Live path (p.run we moves).watched ∧ _ := live_run hlive hordered
  have hrun : p.run we (moves ++ .write file :: events.map .modified) =
      ((p.run we moves).write file).run we (events.map .modified) := by
    rw [WatcherProcess.run, List.foldl_append]
    rfl
  rw [hrun]
  by_cases h : ∃ event ∈ events, ¬ (p.run we moves).handler.ignores we.abspath event
  · have hmodified : ((p.run we moves).write file).watched.config.unmodified file.mtime = false :=
      unmodified_of_newer fun t ht => lt_of_le_of_lt (hbefore.lastModified t ht) hlt
    have hloaded : Loaded we path new (((p.run we moves).write file).run we (events.map .modified)) :=
      loaded_of_event hne hbefore.configPath hmodified hvalid h
    exact iff_of_true hloaded.converged (.inl h)
  · have hignored : ∀ event ∈ events, ((p.run we moves).write file).handler.ignores we.abspath event := by
      intro event hmem
      by_contra hnot
      exact h ⟨event, hmem, hnot⟩
    rw [run_ignored hignored, or_iff_right h]
    exact ⟨fun hconv => ⟨hconv.sections, hconv.aigwModel, hconv.seen⟩,
      fun hconv => ⟨hconv.sections, hconv.aigwModel, hconv.seen⟩⟩

/-! ## A write in two parts -/

def limitText : List Char := "\x7b\"rate_limit_config\": \x7b\"max_requests\": 5\x7d\x7d".toList

def limitEnv : WatcherEnv where
  lib := { plainLib with
    loads := fun cs => if cs = limitText then some (.obj [("rate_limit_config", .obj [("max_requests", .int 5)])]) else none }
  env := {}
  abspath := id
  update := some fun _ => .ok ()

def watcherStart : WatcherProcess where
  handler := { configPath := "/etc/motor/user_config.json" }
  watched :=
    { file := { content := .text [], mtime := 1 },
      config := { defaults {} with configPath := some "/etc/motor/user_config.json", lastModified := some 1 } }

def fileEvent (time : ℚ) : FileEvent where
  srcPath := "/etc/motor/user_config.json"
  time := time

def emptied : WatcherMove := .write { content := .text [], mtime := 2 }

def limitFile : ConfigFile where
  content := .text limitText
  mtime := 3

def maxRequests (config : CoordinatorConfig) : Option Int :=
  ((config.sections .rateLimit).get? "max_requests").bind Attr.int?

theorem limitFile_loads : ∃ new, fromJson limitEnv.lib limitEnv.env "/etc/motor/user_config.json" limitFile = .ok new ∧
    maxRequests new = some 5 := by
  have hload : ((fromJson limitEnv.lib limitEnv.env "/etc/motor/user_config.json" limitFile).toOption.map maxRequests) =
      some (some 5) := by decide +kernel
  cases hnew : fromJson limitEnv.lib limitEnv.env "/etc/motor/user_config.json" limitFile with
  | error e =>
      rw [hnew] at hload
      cases hload
  | ok new =>
      rw [hnew] at hload
      exact ⟨new, rfl, Option.some.inj hload⟩

theorem watcherStart_live : Live "/etc/motor/user_config.json" watcherStart.watched where
  configPath := rfl
  lastModified := by
    intro t ht
    cases ht
    exact le_refl 1

theorem lateEvent_converges : ∃ new,
    fromJson limitEnv.lib limitEnv.env "/etc/motor/user_config.json" limitFile = .ok new ∧
      Converged limitEnv new (watcherStart.run limitEnv
        ([emptied, .modified (fileEvent 100)] ++ .write limitFile :: [fileEvent 102].map .modified)) := by
  obtain ⟨new, hload, -⟩ := limitFile_loads
  have hordered : Ordered watcherStart.watched.file.mtime ([emptied, .modified (fileEvent 100)] ++ [.write limitFile]) :=
    And.intro (by decide) (And.intro (by decide) trivial)
  refine ⟨new, hload, (converges_iff (by decide) watcherStart_live hordered hload).mpr (.inl ?_)⟩
  exact ⟨fileEvent 102, List.mem_singleton_self _, by decide +kernel⟩

/-- The event of the last write comes a tenth of a second after that of the write before, and the limit stays the default. -/
theorem earlyEvent_dropped : ∃ new,
    fromJson limitEnv.lib limitEnv.env "/etc/motor/user_config.json" limitFile = .ok new ∧ maxRequests new = some 5 ∧
      maxRequests (watcherStart.run limitEnv [emptied, .modified (fileEvent 100), .write limitFile,
        .modified (fileEvent (1001 / 10))]).watched.config = some 1000 ∧
      ¬ Converged limitEnv new (watcherStart.run limitEnv [emptied, .modified (fileEvent 100), .write limitFile,
        .modified (fileEvent (1001 / 10))]) := by
  obtain ⟨new, hload, hlimit⟩ := limitFile_loads
  have hkept : maxRequests (watcherStart.run limitEnv [emptied, .modified (fileEvent 100), .write limitFile,
      .modified (fileEvent (1001 / 10))]).watched.config = some 1000 := by decide +kernel
  refine ⟨new, hload, hlimit, hkept, fun hconv => ?_⟩
  rw [maxRequests, hconv.sections] at hkept
  have hsame : some 5 = some (1000 : Int) := hlimit.symm.trans hkept
  cases hsame

end PyMotor.Config
