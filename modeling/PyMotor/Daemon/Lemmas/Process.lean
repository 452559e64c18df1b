import Mathlib.Data.List.Nodup
import PyMotor.Daemon.ProcessManager

/-!
# What the process managers do to the list
-/

namespace PyMotor

open Lib

namespace ProcessManager

variable {m : ProcessManager} {spawns exits : Nat → Bool}

/-! ## Lists -/

@[simp] theorem listed_newList (m : ProcessManager) : m.newList.listed = [] := by
  simp [listed, newList, Heap.read]

@[simp] theorem alive_newList (m : ProcessManager) : m.newList.alive = m.alive := rfl

theorem ref_newList (m : ProcessManager) : m.newList.processes < m.newList.lists.length := by
  simp [newList]

theorem mem_alive_exit {w : Worker} : w ∈ (m.exit exits).alive ↔ w ∈ m.alive ∧ exits w.pid = false := by
  simp [exit]

theorem listed_spawn (href : m.processes < m.lists.length) (index : Nat) (put : Worker → List Worker → List Worker) :
    (m.spawn index put).listed = put { pid := m.nextPid, index := index } m.listed :=
  Heap.read_modify_self href _

def batch (pid : Nat) (is : List Nat) : List Worker := (is.zipIdx pid).map fun e => { pid := e.2, index := e.1 }

@[simp] theorem map_index_batch (pid : Nat) (is : List Nat) : (batch pid is).map Worker.index = is := by
  simp [batch, Function.comp_def]

@[simp] theorem map_pid_batch (pid : Nat) (is : List Nat) :
    (batch pid is).map Worker.pid = List.range' pid is.length := by
  simp [batch, Function.comp_def]

theorem le_pid_of_mem_batch {pid : Nat} {is : List Nat} {w : Worker} (h : w ∈ batch pid is) :
    pid ≤ w.pid ∧ w.pid < pid + is.length := by
  have hmem := List.mem_map_of_mem (f := Worker.pid) h
  simpa using hmem

theorem spawnAll_spec (spawns : Nat → Bool) (is : List Nat) (href : m.processes < m.lists.length) : ∃ done rest lists,
    is = done ++ rest ∧ (∀ i ∈ done, spawns i = true) ∧ (∀ i ∈ rest.head?, spawns i = false) ∧
      lists.length = m.lists.length ∧ Heap.read lists m.processes = m.listed ++ batch m.nextPid done ∧
      spawnAll spawns m is = (rest.isEmpty, { m with
        lists := lists, alive := m.alive ++ batch m.nextPid done, nextPid := m.nextPid + done.length }) := by
  induction is generalizing m with
  | nil => exact ⟨[], [], m.lists, rfl, by simp, by simp, rfl, by simp [batch, listed], by simp [spawnAll, batch]⟩
  | cons i is ih =>
      cases hspawn : spawns i with
      | false =>
          refine ⟨[], i :: is, m.lists, rfl, by simp, by simp [hspawn], rfl, by simp [batch, listed], ?_⟩
          simp [spawnAll, hspawn, batch]
      | true =>
          have href' : (m.spawn i fun w ws => ws ++ [w]).processes < (m.spawn i fun w ws => ws ++ [w]).lists.length := by
            simpa [spawn] using href
          obtain ⟨done, rest, lists, his, hdone, hrest, hlength, hread, heq⟩ := ih href'
          rw [listed_spawn href] at hread
          have hcons : batch m.nextPid (i :: done) = ⟨m.nextPid, i⟩ :: batch (m.nextPid + 1) done := rfl
          refine ⟨i :: done, rest, lists, by rw [his]; rfl, ?_, hrest, by simpa [spawn] using hlength, ?_, ?_⟩
          · intro j hj
            rcases List.mem_cons.1 hj with rfl | hj
            · exact hspawn
            · exact hdone j hj
          · rw [hcons, List.append_cons]
            exact hread
          · simp only [spawnAll, hspawn, if_true, heq]
            rw [hcons, List.append_cons, List.length_cons, Nat.add_comm done.length, ← Nat.add_assoc]
            rfl

/-! ## What a manager keeps -/

structure Tidy (m : ProcessManager) : Prop where
  ref : m.processes < m.lists.length
  kept : ∀ w ∈ m.alive, w ∈ m.listed
  indices : m.listed = [] ∨ m.listed.map Worker.index = List.range m.processCount
  fresh : ∀ w ∈ m.listed, w.pid < m.nextPid
  pids : (m.listed.map Worker.pid).Nodup
  nodup : m.alive.Nodup

theorem isRunning_inference (hcls : m.cls = .inference) :
    m.isRunning = true ↔ m.listed ≠ [] ∧ ∀ w ∈ m.listed, w ∈ m.alive := by
  unfold isRunning
  rw [hcls]
  cases hlisted : m.listed with
  | nil => simp
  | cons w ws => simp

theorem Tidy.complete_of_running (h : m.Tidy) (hcls : m.cls = .inference) (hrun : m.isRunning = true) :
    m.Complete := by
  obtain ⟨hne, hall⟩ := (isRunning_inference hcls).1 hrun
  have hperm : m.alive.Perm m.listed :=
    (List.perm_ext_iff_of_nodup h.nodup (List.Nodup.of_map _ h.pids)).2 fun w => ⟨h.kept w, hall w⟩
  unfold Complete
  rw [← h.indices.resolve_left hne]
  exact hperm.map _

theorem not_complete_of_listed_nil (h : m.Tidy) (hcount : 0 < m.processCount) (hnil : m.listed = []) :
    ¬ m.Complete := by
  intro hcomplete
  have halive : m.alive = [] := List.eq_nil_iff_forall_not_mem.2 fun w hw => by
    have hmem := h.kept w hw
    rw [hnil] at hmem
    cases hmem
  have hlength := hcomplete.length_eq
  rw [halive, List.length_range] at hlength
  exact absurd hlength (Nat.ne_of_lt hcount)

theorem Tidy.exit (h : m.Tidy) (exits : Nat → Bool) : (m.exit exits).Tidy where
  ref := h.ref
  kept w hw := h.kept w (mem_alive_exit.1 hw).1
  indices := h.indices
  fresh := h.fresh
  pids := h.pids
  nodup := h.nodup.filter _

theorem tidy_newList (m : ProcessManager) (halive : m.alive = []) : m.newList.Tidy where
  ref := ref_newList m
  kept w hw := by
    rw [alive_newList, halive] at hw
    cases hw
  indices := .inl (listed_newList m)
  fresh w hw := by
    rw [listed_newList] at hw
    cases hw
  pids := by simp
  nodup := by
    rw [alive_newList, halive]
    exact List.nodup_nil

theorem tidy_new (cls : ManagerClass) (processCount : Nat) :
    ({ cls := cls, processCount := processCount } : ProcessManager).Tidy where
  ref := Nat.zero_lt_one
  kept _ hw := nomatch hw
  indices := .inl rfl
  fresh _ hw := nomatch hw
  pids := List.nodup_nil
  nodup := List.nodup_nil

/-! ## Stopping -/

theorem kind_stop (m : ProcessManager) : m.stop.cls = m.cls ∧ m.stop.processCount = m.processCount := by
  unfold ProcessManager.stop runFinalizer
  cases m.finalizer with
  | none => exact ⟨rfl, rfl⟩
  | some r => exact ⟨rfl, rfl⟩

theorem Tidy.stop (h : m.Tidy) : m.stop.Tidy ∧ m.stop.alive = [] := by
  have hfinal : m.runFinalizer.listed = m.listed ∧ ∀ w ∈ m.runFinalizer.alive, w ∈ m.alive := by
    unfold runFinalizer
    split
    · exact ⟨rfl, fun w hw => (List.mem_filter.1 hw).1⟩
    · exact ⟨rfl, fun w hw => hw⟩
  have halive : (m.runFinalizer.terminate m.runFinalizer.listed).alive = [] := by
    rw [List.eq_nil_iff_forall_not_mem]
    intro w hw
    obtain ⟨hmem, hnot⟩ := List.mem_filter.1 hw
    rw [hfinal.1] at hnot
    exact absurd (h.kept w (hfinal.2 w hmem)) (by simpa using hnot)
  exact ⟨tidy_newList _ halive, halive⟩

/-! ## Starting -/

/-- A start of a manager that does not run: the workers for `done` are started, that for the head of `rest` fails. -/
structure Started (m : ProcessManager) (spawns exits : Nat → Bool) (done rest : List Nat)
    (result : Bool × ProcessManager) : Prop where
  range : List.range m.processCount = done ++ rest
  spawned : ∀ i ∈ done, spawns i = true
  failed : ∀ i ∈ rest.head?, spawns i = false
  cls : result.2.cls = m.cls
  processCount : result.2.processCount = m.processCount
  alive : result.2.alive = (m.alive ++ batch m.nextPid done).filter fun w => !exits w.pid
  nextPid : result.2.nextPid = m.nextPid + done.length
  listed : result.2.listed = if rest.isEmpty then batch m.nextPid done else []
  ref : result.2.processes < result.2.lists.length
  returned : result.1 = (rest.isEmpty && result.2.isRunning)

theorem start_running (hrun : m.isRunning = true) : m.start spawns exits = (true, m) := if_pos hrun

theorem started (hrun : m.isRunning = false) (spawns exits : Nat → Bool) :
    ∃ done rest, Started m spawns exits done rest (m.start spawns exits) := by
  obtain ⟨done, rest, lists, hrange, hspawned, hfailed, hlength, hread, heq⟩ :=
    spawnAll_spec (m := m.newList) spawns (List.range m.processCount) (ref_newList m)
  rw [listed_newList, List.nil_append] at hread
  refine ⟨done, rest, ?_⟩
  unfold start
  rw [if_neg (by simp [hrun]), heq]
  cases hrest : rest.isEmpty with
  | false =>
      refine ⟨hrange, hspawned, hfailed, rfl, rfl, rfl, rfl, ?_, ref_newList _, ?_⟩
      · rw [hrest]
        exact listed_newList _
      · rw [hrest]
        rfl
  | true =>
      dsimp only
      split
      · rename_i hup
        refine ⟨hrange, hspawned, hfailed, rfl, rfl, rfl, rfl, ?_, hlength ▸ ref_newList m, ?_⟩
        · rw [hrest]
          exact hread
        · rw [hrest]
          exact hup.symm
      · rename_i hdown
        refine ⟨hrange, hspawned, hfailed, rfl, rfl, rfl, rfl, ?_, hlength ▸ ref_newList m, ?_⟩
        · rw [hrest]
          exact hread
        · rw [hrest]
          exact (Bool.eq_false_iff.2 hdown).symm

theorem eq_range_of_append {n : Nat} {done rest : List Nat} (h : List.range n = done ++ rest) :
    done = List.range done.length ∧ done.length + rest.length = n := by
  have hlength : done.length + rest.length = n := by
    rw [← List.length_append, ← h, List.length_range]
  refine ⟨?_, hlength⟩
  calc done = (done ++ rest).take done.length := by simp
    _ = (List.range n).take done.length := by rw [h]
    _ = List.range done.length := by rw [List.take_range, Nat.min_eq_left (by omega)]

theorem head?_of_append {n : Nat} {done rest : List Nat} (h : List.range n = done ++ rest) :
    ∀ i ∈ rest.head?, i = done.length := by
  cases rest with
  | nil => simp
  | cons first rest =>
      have hget : (List.range n)[done.length]? = some first := by simp [h]
      intro i hi
      cases hi
      have hlt : done.length < n := by
        have hlength := (eq_range_of_append h).2
        rw [List.length_cons] at hlength
        omega
      rw [List.getElem?_range hlt] at hget
      exact (Option.some.inj hget).symm

variable {done rest : List Nat} {result : Bool × ProcessManager}

theorem Started.kept_iff (h : m.Tidy) (hs : Started m spawns exits done rest result) :
    (∀ w ∈ result.2.alive, w ∈ result.2.listed) ↔ (∀ w ∈ m.alive, exits w.pid = true) ∧
      (rest ≠ [] → ∀ j < done.length, exits (m.nextPid + j) = true) := by
  have hold : ∀ w ∈ m.alive, w ∉ batch m.nextPid done := fun w hw hmem =>
    absurd (le_pid_of_mem_batch hmem).1 (Nat.not_le.2 (h.fresh w (h.kept w hw)))
  have hnot : ∀ {w : Worker}, ¬ exits w.pid = false ↔ exits w.pid = true := fun {w} => by simp
  simp only [hs.alive, hs.listed, List.mem_filter, List.mem_append, Bool.not_eq_true']
  constructor
  · refine fun hall => ⟨fun w hw => hnot.1 fun hexit => ?_, fun hrest j hj => ?_⟩
    · have hmem := hall w ⟨.inl hw, hexit⟩
      split at hmem
      · exact hold w hw hmem
      · cases hmem
    · have hpid : m.nextPid + j ∈ (batch m.nextPid done).map Worker.pid := by
        simp [hj]
      obtain ⟨w, hw, hwpid⟩ := List.mem_map.1 hpid
      rw [← hwpid]
      refine hnot.1 fun hexit => ?_
      have hmem := hall w ⟨.inr hw, hexit⟩
      rw [if_neg (by simpa using hrest)] at hmem
      cases hmem
  · rintro ⟨hexits, hfailed⟩ w ⟨hw | hw, hexit⟩
    · exact absurd hexit (hnot.2 (hexits w hw))
    · split
      · exact hw
      · rename_i hrest
        have hpid := le_pid_of_mem_batch hw
        have hdead := hfailed (by simpa using hrest) (w.pid - m.nextPid) (by omega)
        rw [Nat.add_sub_cancel' hpid.1] at hdead
        exact absurd hexit (hnot.2 hdead)

theorem Started.tidy (h : m.Tidy) (hs : Started m spawns exits done rest result)
    (hkept : ∀ w ∈ result.2.alive, w ∈ result.2.listed) : result.2.Tidy where
  ref := hs.ref
  kept := hkept
  indices := by
    rw [hs.listed]
    cases rest with
    | nil =>
        right
        have hrange := hs.range
        rw [List.append_nil] at hrange
        simp [hs.processCount, hrange]
    | cons i rest => exact .inl rfl
  fresh w hw := by
    rw [hs.listed] at hw
    rw [hs.nextPid]
    split at hw
    · exact (le_pid_of_mem_batch hw).2
    · cases hw
  pids := by
    rw [hs.listed]
    split
    · rw [map_pid_batch]
      exact List.nodup_range'
    · exact List.nodup_nil
  nodup := by
    rw [hs.alive]
    refine List.Nodup.filter _ (List.nodup_append.2 ⟨h.nodup, ?_, ?_⟩)
    · refine List.Nodup.of_map Worker.pid ?_
      rw [map_pid_batch]
      exact List.nodup_range'
    · rintro w hw w' hw' rfl
      exact absurd (le_pid_of_mem_batch hw').1 (Nat.not_le.2 (h.fresh w (h.kept w hw)))

theorem Started.failed_iff (hs : Started m spawns exits done rest result) {p : Nat → Prop} :
    (rest ≠ [] → ∀ j < done.length, p j) ↔
      ∀ i < m.processCount, spawns i = false → (∀ j < i, spawns j = true) → ∀ j < i, p j := by
  obtain ⟨hdone, hlength⟩ := eq_range_of_append hs.range
  have hspawned : ∀ j < done.length, spawns j = true := fun j hj => hs.spawned j (by
    rw [hdone]
    exact List.mem_range.2 hj)
  constructor
  · intro hfailed i hi hspawn hbefore j hj
    have heq : i = done.length := by
      rcases Nat.lt_trichotomy i done.length with hlt | heq | hgt
      · rw [hspawned i hlt] at hspawn
        cases hspawn
      · exact heq
      · cases rest with
        | nil =>
            simp only [List.length_nil, Nat.add_zero] at hlength
            omega
        | cons first rest =>
            have hfirst := hs.failed first rfl
            rw [head?_of_append hs.range first rfl, hbefore _ hgt] at hfirst
            cases hfirst
    subst heq
    refine hfailed (fun hrest => ?_) j hj
    simp only [hrest, List.length_nil, Nat.add_zero] at hlength
    omega
  · intro hall hrest
    cases rest with
    | nil => exact absurd rfl hrest
    | cons first rest =>
        have hfirst := hs.failed first rfl
        rw [head?_of_append hs.range first rfl] at hfirst
        refine hall done.length ?_ hfirst hspawned
        rw [List.length_cons] at hlength
        omega

theorem Tidy.start (h : m.Tidy) (hok : m.SupervisionSound (.start spawns exits)) :
    (m.start spawns exits).2.Tidy ∧ (m.start spawns exits).2.cls = m.cls ∧
      (m.start spawns exits).2.processCount = m.processCount := by
  cases hrun : m.isRunning with
  | true =>
      rw [start_running hrun]
      exact ⟨h, rfl, rfl⟩
  | false =>
      obtain ⟨done, rest, hs⟩ := started hrun spawns exits
      obtain ⟨hexits, hfailed⟩ := hok.resolve_left (by simp [hrun])
      exact ⟨hs.tidy h ((hs.kept_iff h).2 ⟨hexits, hs.failed_iff.2 hfailed⟩), hs.cls, hs.processCount⟩

theorem Tidy.supervisionSound_base (h : m.Tidy) (hcls : m.cls = .base) (hcount : m.processCount = 1)
    (spawns exits : Nat → Bool) : m.SupervisionSound (.start spawns exits) := by
  cases hrun : m.isRunning with
  | true => exact .inl hrun
  | false =>
      refine .inr ⟨fun w hw => ?_, fun i hi _ _ j hj => ?_⟩
      · simp only [isRunning, hcls, List.any_eq_false] at hrun
        exact absurd (by simpa using hw) (hrun w (h.kept w hw))
      · omega

/-! ## Restarting -/

theorem mem_deadIndices {i : Nat} : i ∈ m.deadIndices ↔ ∃ w, m.listed[i]? = some w ∧ w ∉ m.alive := by
  unfold deadIndices
  rw [List.mem_filter, List.mem_range]
  constructor
  · rintro ⟨-, hdead⟩
    obtain ⟨w, hw, hnot⟩ := (Option.any_eq_true _ _).1 hdead
    exact ⟨w, hw, by simpa using hnot⟩
  · rintro ⟨w, hw, hnot⟩
    obtain ⟨hlt, -⟩ := List.getElem?_eq_some_iff.1 hw
    refine ⟨hlt, ?_⟩
    rw [hw]
    simpa using hnot

theorem nodup_deadIndices (m : ProcessManager) : m.deadIndices.Nodup := List.nodup_range.filter _

/-- A dead worker makes way for a new one, which may fail to start. -/
structure Replaced (m : ProcessManager) (spawns : Nat → Bool) (i : Nat) (m' : ProcessManager) : Prop where
  tidy : m'.Tidy
  cls : m'.cls = m.cls
  processCount : m'.processCount = m.processCount
  length : m'.listed.length = m.listed.length
  alive : ∀ w ∈ m.alive, w ∈ m'.alive
  fresh : ∀ w ∈ m'.alive, w ∈ m.alive ∨ m.nextPid ≤ w.pid
  listed_ne : ∀ j, j ≠ i → m'.listed[j]? = m.listed[j]?
  spawned : spawns i = true → ∀ w, m'.listed[i]? = some w → w ∈ m'.alive

theorem Tidy.spawn_set (h : m.Tidy) {i : Nat} {old : Worker} (hget : m.listed[i]? = some old)
    (hdead : old ∉ m.alive) : (m.spawn i fun w ws => ws.set i w).Tidy := by
  have hlisted := listed_spawn h.ref i fun w ws => ws.set i w
  obtain ⟨hlt, -⟩ := List.getElem?_eq_some_iff.1 hget
  have hnew : ∀ w ∈ m.listed, w.pid ≠ m.nextPid := fun w hw => Nat.ne_of_lt (h.fresh w hw)
  refine ⟨by simpa [spawn] using h.ref, fun w hw => ?_, .inr ?_, fun w hw => ?_, ?_, ?_⟩
  · rw [hlisted]
    rcases List.mem_append.1 hw with hw | hw
    · obtain ⟨j, hj⟩ := List.mem_iff_getElem?.1 (h.kept w hw)
      refine List.mem_iff_getElem?.2 ⟨j, ?_⟩
      rw [List.getElem?_set_ne, hj]
      rintro rfl
      rw [hget] at hj
      cases hj
      exact hdead hw
    · rw [List.mem_singleton.1 hw]
      exact List.mem_set hlt _
  · have hindices := h.indices.resolve_left fun hnil => by
      rw [hnil] at hlt
      cases hlt
    have hlen := congrArg List.length hindices
    rw [List.length_map, List.length_range] at hlen
    rw [hlisted, List.map_set, hindices]
    refine List.ext_getElem? fun j => ?_
    rw [List.getElem?_set]
    split
    · rename_i hj
      subst hj
      have hlt' : i < m.processCount := by omega
      show (if i < (List.range m.processCount).length then some i else none) = (List.range m.processCount)[i]?
      simp [hlt']
    · rfl
  · rw [hlisted] at hw
    show w.pid < m.nextPid + 1
    rcases List.mem_or_eq_of_mem_set hw with hw | rfl
    · exact Nat.lt_succ_of_lt (h.fresh w hw)
    · exact Nat.lt_succ_self _
  · rw [hlisted, List.map_set]
    refine List.Nodup.set h.pids fun hmem => ?_
    obtain ⟨w, hw, hpid⟩ := List.mem_map.1 hmem
    exact hnew w hw hpid
  · refine List.nodup_append.2 ⟨h.nodup, List.nodup_singleton _, ?_⟩
    rintro w hw w' hw' rfl
    rw [List.mem_singleton.1 hw'] at hw
    exact hnew _ (h.kept _ hw) rfl

theorem Tidy.replaceWorker (h : m.Tidy) {i : Nat} {old : Worker} (hget : m.listed[i]? = some old)
    (hdead : old ∉ m.alive) (spawns : Nat → Bool) : Replaced m spawns i (m.replaceWorker spawns i) := by
  unfold ProcessManager.replaceWorker
  cases hspawn : spawns i with
  | false =>
      exact ⟨h, rfl, rfl, rfl, fun w hw => hw, fun w hw => .inl hw, fun _ _ => rfl, fun hno => by
        rw [hspawn] at hno
        cases hno⟩
  | true =>
      have hlisted := listed_spawn h.ref i fun w ws => ws.set i w
      obtain ⟨hlt, -⟩ := List.getElem?_eq_some_iff.1 hget
      simp only [if_true]
      refine ⟨h.spawn_set hget hdead, rfl, rfl, ?_, fun w hw => List.mem_append_left _ hw, fun w hw => ?_,
        fun j hj => ?_, fun _ w hw => ?_⟩
      · rw [hlisted, List.length_set]
      · rcases List.mem_append.1 hw with hw | hw
        · exact .inl hw
        · rw [List.mem_singleton.1 hw]
          exact .inr (Nat.le_refl _)
      · rw [hlisted, List.getElem?_set_ne fun he => hj he.symm]
      · rw [hlisted, List.getElem?_set_self hlt] at hw
        cases hw
        exact List.mem_append_right _ (List.mem_singleton_self _)

/-- The loop of `restart_dead_workers`: when every worker starts, those that are not alive were dead at no place. -/
theorem Tidy.replaceWorkers (spawns : Nat → Bool) {is : List Nat} (hnodup : is.Nodup) (h : m.Tidy)
    (hdead : ∀ i ∈ is, ∃ w, m.listed[i]? = some w ∧ w ∉ m.alive) :
    (is.foldl (ProcessManager.replaceWorker spawns) m).Tidy ∧
      (is.foldl (ProcessManager.replaceWorker spawns) m).cls = m.cls ∧
      (is.foldl (ProcessManager.replaceWorker spawns) m).processCount = m.processCount ∧
      (is.foldl (ProcessManager.replaceWorker spawns) m).listed.length = m.listed.length ∧
      ((∀ i, spawns i = true) → (∀ j ∉ is, ∀ w, m.listed[j]? = some w → w ∈ m.alive) →
        ∀ w ∈ (is.foldl (ProcessManager.replaceWorker spawns) m).listed,
          w ∈ (is.foldl (ProcessManager.replaceWorker spawns) m).alive) := by
  induction is generalizing m with
  | nil =>
      refine ⟨h, rfl, rfl, rfl, fun _ halive w hw => ?_⟩
      obtain ⟨j, hj⟩ := List.mem_iff_getElem?.1 hw
      exact halive j List.not_mem_nil w hj
  | cons i is ih =>
      rw [List.nodup_cons] at hnodup
      obtain ⟨old, hget, hold⟩ := hdead i (List.mem_cons_self ..)
      have hr := h.replaceWorker hget hold spawns
      -- The other dead workers stay where they are, and dead.
      obtain ⟨htidy, hcls, hcount, hlength, hall⟩ := ih hnodup.2 hr.tidy fun j hj => by
        obtain ⟨w, hw, hnot⟩ := hdead j (List.mem_cons_of_mem _ hj)
        have hne : j ≠ i := fun he => hnodup.1 (he ▸ hj)
        refine ⟨w, (hr.listed_ne j hne).trans hw, fun hmem => ?_⟩
        rcases hr.fresh w hmem with hmem | hpid
        · exact hnot hmem
        · exact absurd (h.fresh w (List.mem_iff_getElem?.2 ⟨j, hw⟩)) (Nat.not_lt.2 hpid)
      refine ⟨htidy, hcls.trans hr.cls, hcount.trans hr.processCount, hlength.trans hr.length, fun hspawns halive => ?_⟩
      refine hall hspawns fun j hj w hw => ?_
      by_cases he : j = i
      · subst he
        exact hr.spawned (hspawns j) w hw
      · rw [hr.listed_ne j he] at hw
        exact hr.alive w (halive j (fun hmem => (List.mem_cons.1 hmem).elim he hj) w hw)

theorem Tidy.restartDeadWorkers (h : m.Tidy) (hcls : m.cls = .inference) (hne : m.listed ≠ [])
    (spawns exits : Nat → Bool) :
    (m.restartDeadWorkers spawns exits).2.Tidy ∧ (m.restartDeadWorkers spawns exits).2.cls = m.cls ∧
      (m.restartDeadWorkers spawns exits).2.processCount = m.processCount ∧
      ((m.restartDeadWorkers spawns exits).1 = true → (m.restartDeadWorkers spawns exits).2.isRunning = true) ∧
      ((∀ i, spawns i = true) → (∀ pid, exits pid = false) →
        (m.restartDeadWorkers spawns exits).2.isRunning = true) := by
  have hnone : ∀ j ∉ m.deadIndices, ∀ w, m.listed[j]? = some w → w ∈ m.alive := by
    intro j hj w hw
    by_contra hnot
    exact hj (mem_deadIndices.2 ⟨w, hw, hnot⟩)
  unfold ProcessManager.restartDeadWorkers
  cases hdead : m.deadIndices.isEmpty with
  | true =>
      have hrun : m.isRunning = true := by
        refine (isRunning_inference hcls).2 ⟨hne, fun w hw => ?_⟩
        obtain ⟨j, hj⟩ := List.mem_iff_getElem?.1 hw
        refine hnone j ?_ w hj
        rw [List.isEmpty_iff.1 hdead]
        exact List.not_mem_nil
      exact ⟨h, rfl, rfl, fun _ => hrun, fun _ _ => hrun⟩
  | false =>
      obtain ⟨htidy, hcls', hcount, hlength, hall⟩ :=
        h.replaceWorkers spawns (nodup_deadIndices m) fun i hi => mem_deadIndices.1 hi
      refine ⟨htidy.exit exits, hcls', hcount, fun hrun => hrun, fun hspawns hexits => ?_⟩
      have hup := isRunning_inference
        (m := (m.deadIndices.foldl (ProcessManager.replaceWorker spawns) m).exit exits) (hcls'.trans hcls)
      refine hup.2 ⟨?_, fun w hw => mem_alive_exit.2 ⟨?_, hexits _⟩⟩
      · intro hnil
        rw [show (m.deadIndices.foldl (ProcessManager.replaceWorker spawns) m).listed = [] from hnil] at hlength
        exact hne (List.eq_nil_of_length_eq_zero hlength.symm)
      · exact hall hspawns hnone w hw

end ProcessManager

end PyMotor
