import Mathlib.Logic.Relation
import PyMotor.Daemon.Lemmas.Daemon
import PyMotor.Daemon.SubprocessSupervisor

/-!
# Restarts are limited while they succeed

A limiter keeps the ends of the restarts that started their process, so it knows how many of them meet the window up to
a check. An attempt that fails is not recorded, and nothing limits such attempts. In the daemon the supervisor takes the
same steps, with the answers of its limiters.
-/

namespace PyMotor.SubprocessSupervisor

open Lib

variable {K : Type} [DecidableEq K] {s : SubprocessSupervisor K} {name other : K} {now : ℚ} {c : Check}

/-! ## What a check does -/

theorem limiterOf_set (s : SubprocessSupervisor K) (name : K) (l : RestartLimiter) (other : K) :
    ({ s with restartLimits := s.restartLimits.set name l } : SubprocessSupervisor K).limiterOf other =
      if other = name then l else s.limiterOf other := by
  unfold limiterOf
  rw [Dict.get?_set]
  split
  · rfl
  · rfl

theorem restart_spec (s : SubprocessSupervisor K) (name : K) (m : ProcessManager) (c : Check) : ∃ started,
    (s.restart name m c).attempts = s.attempts ++ [⟨name, ⟨c.checkedAt, c.endedAt⟩, started⟩] ∧
    ∀ other, (s.restart name m c).limiterOf other =
      if other = name ∧ started = true then (s.limiterOf name).record c.endedAt else s.limiterOf other := by
  unfold restart
  by_cases hraises : c.raises = some .restart
  · rw [if_pos hraises]
    exact ⟨false, rfl, fun _ => (if_neg (by simp)).symm⟩
  · rw [if_neg hraises]
    rcases m.restart c.spawns c.exits with ⟨started, m'⟩
    cases started with
    | true =>
        refine ⟨true, rfl, fun other => ?_⟩
        simp only [and_true]
        exact limiterOf_set _ name _ other
    | false => exact ⟨false, rfl, fun _ => (if_neg (by simp)).symm⟩

theorem canRestart_eq (s : SubprocessSupervisor K) (name : K) (now : ℚ) :
    s.canRestart name now = (((s.limiterOf name).canRestart now).1,
      { s with restartLimits := s.restartLimits.set name ((s.limiterOf name).pruneOld now) }) := rfl

/-- The limiters and the attempts are as they were. -/
structure Idle (s s' : SubprocessSupervisor K) : Prop where
  limiterOf : ∀ other, s'.limiterOf other = s.limiterOf other
  attempts : s'.attempts = s.attempts

/-- What the limiter does not allow is not attempted. -/
structure Denied (s : SubprocessSupervisor K) (name : K) (c : Check) (s' : SubprocessSupervisor K) : Prop where
  denied : ((s.limiterOf name).canRestart c.checkedAt).1 = false
  limiterOf : ∀ other, s'.limiterOf other =
    if other = name then (s.limiterOf name).pruneOld c.checkedAt else s.limiterOf other
  attempts : s'.attempts = s.attempts

/-- An attempt is made, and recorded if it starts the process. -/
structure Attempted (s : SubprocessSupervisor K) (name : K) (c : Check) (started : Bool) (s' : SubprocessSupervisor K) :
    Prop where
  allowed : ((s.limiterOf name).canRestart c.checkedAt).1 = true
  limiterOf : ∀ other, s'.limiterOf other =
    if other = name then
      if started then ((s.limiterOf name).pruneOld c.checkedAt).record c.endedAt
      else (s.limiterOf name).pruneOld c.checkedAt
    else s.limiterOf other
  attempts : s'.attempts = s.attempts ++ [⟨name, ⟨c.checkedAt, c.endedAt⟩, started⟩]

theorem tryRestart_cases (s : SubprocessSupervisor K) (name : K) (m : ProcessManager) (c : Check) :
    Denied s name c (s.tryRestart name m c) ∨ ∃ started, Attempted s name c started (s.tryRestart name m c) := by
  unfold tryRestart
  rw [canRestart_eq]
  cases hallowed : ((s.limiterOf name).canRestart c.checkedAt).1 with
  | false => exact .inl ⟨hallowed, limiterOf_set s name _, rfl⟩
  | true =>
      obtain ⟨started, hattempts, hlimiters⟩ := restart_spec
        { s with restartLimits := s.restartLimits.set name ((s.limiterOf name).pruneOld c.checkedAt) } name m c
      refine .inr ⟨started, hallowed, fun other => (hlimiters other).trans ?_, hattempts⟩
      rw [limiterOf_set, limiterOf_set, if_pos rfl]
      by_cases hother : other = name
      · simp only [hother, true_and, if_true]
      · simp only [hother, false_and, if_false]

theorem check_cases (s : SubprocessSupervisor K) (c : Check) :
    s.finds c = none ∧ Idle s (s.check c) ∨
      ∃ name, s.finds c = some name ∧ (Denied s name c (s.check c) ∨ ∃ started, Attempted s name c started (s.check c)) := by
  unfold check finds
  cases hrest : s.rest with
  | nil => exact .inl ⟨rfl, fun _ => rfl, rfl⟩
  | cons name rest =>
      simp only
      by_cases hname : name ∈ s.supervised
      · rw [if_neg (not_not_intro hname)]
        by_cases hraises : c.raises = some .isRunning
        · rw [if_pos hraises, if_neg (fun h => h.2.1 hraises)]
          exact .inl ⟨rfl, fun _ => rfl, rfl⟩
        · rw [if_neg hraises, Dict.get?_adjust, if_pos rfl]
          cases hget : s.managers.get? name with
          | none => exact .inl ⟨if_neg (by simp), fun _ => rfl, rfl⟩
          | some m =>
              simp only [Option.map_some]
              by_cases hdown : (!(c.meanwhile m).isRunning && !c.stopEvent) = true
              · rw [if_pos hdown]
                rw [Bool.and_eq_true, Bool.not_eq_true', Bool.not_eq_true'] at hdown
                refine .inr ⟨name, if_pos ⟨hname, hraises, hdown.2, by simp [hdown.1]⟩, ?_⟩
                rcases tryRestart_cases { s with managers := s.managers.adjust name c.meanwhile, rest := rest } name
                  (c.meanwhile m) c with hdenied | ⟨started, hattempted⟩
                · exact .inl ⟨hdenied.denied, hdenied.limiterOf, hdenied.attempts⟩
                · exact .inr ⟨started, hattempted.allowed, hattempted.limiterOf, hattempted.attempts⟩
              · rw [if_neg hdown]
                refine .inl ⟨if_neg fun h => hdown ?_, fun _ => rfl, rfl⟩
                simpa [h.2.2.1] using h.2.2.2
      · rw [if_pos hname, if_neg (fun h => hname h.1)]
        exact .inl ⟨rfl, fun _ => rfl, rfl⟩

/-! ## What the limiters know -/

theorem attemptsOf_append {s' : SubprocessSupervisor K} {a : Attempt K} (h : s'.attempts = s.attempts ++ [a])
    (name : K) : s'.attemptsOf name = s.attemptsOf name ++ if a.name = name then [a.time] else [] := by
  unfold attemptsOf
  rw [h, List.filter_append, List.map_append, List.filter_singleton]
  by_cases hname : a.name = name
  · simp [hname]
  · simp [hname]

theorem startedOf_append {s' : SubprocessSupervisor K} {a : Attempt K} (h : s'.attempts = s.attempts ++ [a])
    (name : K) :
    s'.startedOf name = s.startedOf name ++ if a.name = name ∧ a.started = true then [a.time] else [] := by
  unfold startedOf
  rw [h, List.filter_append, List.map_append, List.filter_singleton]
  by_cases hname : a.name = name ∧ a.started = true
  · simp [hname.1, hname.2]
  · simp [hname]

theorem startedOf_sublist (s : SubprocessSupervisor K) (name : K) : (s.startedOf name).Sublist (s.attemptsOf name) := by
  unfold startedOf attemptsOf
  refine List.Sublist.map _ (List.monotone_filter_right _ fun a h => ?_)
  simp only [Bool.decide_and, Bool.and_eq_true] at h
  exact h.1

theorem inWindow_started_le (s : SubprocessSupervisor K) (name : K) (c : Check) :
    inWindow c (s.startedOf name) ≤ inWindow c (s.attemptsOf name) := (s.startedOf_sublist name).countP_le

/-- Until `now`, the attempts follow each other, and each limiter has the ends of those that started its process, from
some time on that is at least a window ago. -/
structure Tracked (now : ℚ) (s : SubprocessSupervisor K) : Prop where
  span : ∀ a ∈ s.attempts, a.time.start ≤ a.time.stop ∧ a.time.stop ≤ now
  ordered : s.attempts.Pairwise fun a a' => a.time.stop ≤ a'.time.stop
  maxPerMinute : ∀ name, (s.limiterOf name).maxPerMinute = maxRestartPerMinute
  timestamps : ∀ name, ∃ cutoff ≤ now - restartWindowSeconds,
    (s.limiterOf name).timestamps = ((s.startedOf name).map Span.stop).filter (cutoff ≤ ·)

theorem tracked_new (managers : Dict K ProcessManager) (now : ℚ) : Tracked now (new managers) where
  span _ h := by cases h
  ordered := .nil
  maxPerMinute _ := rfl
  timestamps _ := ⟨now - restartWindowSeconds, le_rfl, rfl⟩

theorem Tracked.attemptsOf_span (h : Tracked now s) (name : K) :
    ∀ t ∈ s.attemptsOf name, t.start ≤ t.stop ∧ t.stop ≤ now := by
  intro t ht
  obtain ⟨a, ha, rfl⟩ := List.mem_map.1 ht
  exact h.span a (List.mem_of_mem_filter ha)

theorem Tracked.started_ordered (h : Tracked now s) (name : K) :
    ((s.startedOf name).map Span.stop).Pairwise (· ≤ ·) := by
  unfold startedOf
  rw [List.map_map, List.pairwise_map]
  exact h.ordered.sublist List.filter_sublist

theorem Tracked.started_le (h : Tracked now s) (hnow : now ≤ c.checkedAt) (name : K) :
    ∀ t ∈ s.startedOf name, t.start ≤ c.checkedAt := by
  intro t ht
  obtain ⟨hspan, hstop⟩ := h.attemptsOf_span name t ((s.startedOf_sublist name).subset ht)
  exact hspan.trans (hstop.trans hnow)

theorem Tracked.pruned (h : Tracked now s) (hnow : now ≤ c.checkedAt) (name : K) :
    ((s.limiterOf name).pruneOld c.checkedAt).timestamps =
      ((s.startedOf name).map Span.stop).filter (c.checkedAt - restartWindowSeconds ≤ ·) := by
  obtain ⟨cutoff, hcutoff, htimes⟩ := h.timestamps name
  show (s.limiterOf name).timestamps.dropWhile _ = _
  rw [htimes]
  exact dropWhile_filter_eq_filter (h.started_ordered name) (hcutoff.trans (sub_le_sub_right hnow _))

theorem Tracked.canRestart_iff (h : Tracked now s) (hnow : now ≤ c.checkedAt) (name : K) :
    ((s.limiterOf name).canRestart c.checkedAt).1 = true ↔ inWindow c (s.startedOf name) < maxRestartPerMinute := by
  unfold inWindow
  rw [Span.count_eq_length (h.started_le hnow name), ← h.pruned hnow name, ← h.maxPerMinute name]
  exact decide_eq_true_iff

theorem Tracked.later {later : ℚ} (h : Tracked now s) (hnow : now ≤ later) : Tracked later s where
  span a ha := ⟨(h.span a ha).1, (h.span a ha).2.trans hnow⟩
  ordered := h.ordered
  maxPerMinute := h.maxPerMinute
  timestamps name := by
    obtain ⟨cutoff, hcutoff, htimes⟩ := h.timestamps name
    exact ⟨cutoff, hcutoff.trans (sub_le_sub_right hnow _), htimes⟩

theorem startedOf_congr {s' : SubprocessSupervisor K} (h : s'.attempts = s.attempts) (name : K) :
    s'.startedOf name = s.startedOf name := by
  unfold startedOf
  rw [h]

theorem attemptsOf_congr {s' : SubprocessSupervisor K} (h : s'.attempts = s.attempts) (name : K) :
    s'.attemptsOf name = s.attemptsOf name := by
  unfold attemptsOf
  rw [h]

theorem Limited.of_attempts {s' : SubprocessSupervisor K} (h : s.Limited) (heq : s'.attempts = s.attempts) :
    s'.Limited := by
  intro name
  rw [attemptsOf_congr heq]
  exact h name

theorem Tracked.idle {s' : SubprocessSupervisor K} (h : Tracked now s) (hidle : Idle s s') : Tracked now s' where
  span a ha := h.span a (hidle.attempts ▸ ha)
  ordered := hidle.attempts ▸ h.ordered
  maxPerMinute name := (congrArg _ (hidle.limiterOf name)).trans (h.maxPerMinute name)
  timestamps name := by
    rw [hidle.limiterOf, startedOf_congr hidle.attempts]
    exact h.timestamps name

theorem Tracked.denied {s' : SubprocessSupervisor K} (h : Tracked now s) (hnow : now ≤ c.checkedAt)
    (hdenied : Denied s name c s') : Tracked c.checkedAt s' where
  span a ha := (h.later hnow).span a (hdenied.attempts ▸ ha)
  ordered := hdenied.attempts ▸ h.ordered
  maxPerMinute other := by
    rw [hdenied.limiterOf]
    split
    · exact h.maxPerMinute name
    · exact h.maxPerMinute other
  timestamps other := by
    rw [hdenied.limiterOf, startedOf_congr hdenied.attempts]
    split
    · rename_i hother
      exact ⟨_, le_rfl, hother ▸ h.pruned hnow name⟩
    · exact (h.later hnow).timestamps other

theorem Tracked.attempted {s' : SubprocessSupervisor K} {started : Bool} (h : Tracked now s) (hnow : now ≤ c.checkedAt)
    (hend : c.checkedAt ≤ c.endedAt) (hattempted : Attempted s name c started s') : Tracked c.endedAt s' where
  span a ha := by
    rw [hattempted.attempts, List.mem_append, List.mem_singleton] at ha
    rcases ha with ha | rfl
    · exact (h.later (hnow.trans hend)).span a ha
    · exact ⟨hend, le_rfl⟩
  ordered := by
    rw [hattempted.attempts, List.pairwise_append]
    refine ⟨h.ordered, List.pairwise_singleton .., fun a ha a' ha' => ?_⟩
    rw [List.mem_singleton] at ha'
    subst ha'
    exact (h.span a ha).2.trans (hnow.trans hend)
  maxPerMinute other := by
    rw [hattempted.limiterOf]
    split
    · split
      · exact h.maxPerMinute name
      · exact h.maxPerMinute name
    · exact h.maxPerMinute other
  timestamps other := by
    rw [hattempted.limiterOf, startedOf_append hattempted.attempts]
    by_cases hother : other = name
    · subst hother
      rw [if_pos rfl]
      have hcutoff : c.checkedAt - restartWindowSeconds ≤ c.endedAt - restartWindowSeconds := sub_le_sub_right hend _
      have hkept : c.checkedAt - restartWindowSeconds ≤ c.endedAt := (sub_le_self _ (by decide)).trans hend
      refine ⟨_, hcutoff, ?_⟩
      cases started with
      | true =>
          have hlast : [c.endedAt].filter (c.checkedAt - restartWindowSeconds ≤ ·) = [c.endedAt] :=
            List.filter_eq_self.mpr (by simpa using hkept)
          rw [if_pos rfl, if_pos ⟨rfl, rfl⟩, List.map_append, List.filter_append, ← h.pruned hnow other]
          exact congrArg _ hlast.symm
      | false =>
          rw [if_neg (by decide), if_neg (by simp), List.append_nil]
          exact h.pruned hnow other
    · rw [if_neg hother, if_neg (fun heq => hother heq.1.symm), List.append_nil]
      exact (h.later (hnow.trans hend)).timestamps other

/-! ## A check -/

theorem Tracked.check (h : Tracked now s) (hnow : now ≤ c.checkedAt) (hend : c.checkedAt ≤ c.endedAt) :
    Tracked c.endedAt (s.check c) := by
  rcases s.check_cases c with ⟨-, hidle⟩ | ⟨name, -, hdenied | ⟨started, hattempted⟩⟩
  · exact (h.idle hidle).later (hnow.trans hend)
  · exact (h.denied hnow hdenied).later hend
  · exact h.attempted hnow hend hattempted

/-- The attempts of the process are limited after one more exactly when there was room for it in the window before. -/
theorem Tracked.limited_attempted {s' : SubprocessSupervisor K} {started : Bool} (h : Tracked now s)
    (hlimited : s.Limited) (hnow : now ≤ c.checkedAt) (hend : c.checkedAt ≤ c.endedAt)
    (hattempted : Attempted s name c started s') :
    s'.Limited ↔ inWindow c (s.attemptsOf name) < maxRestartPerMinute := by
  have hspans : ∀ t ∈ s.attemptsOf name, t.start ≤ t.stop ∧ t.stop ≤ c.checkedAt := fun t ht =>
    ⟨(h.attemptsOf_span name t ht).1, (h.attemptsOf_span name t ht).2.trans hnow⟩
  have hone : (∀ t, Span.count restartWindowSeconds t (s.attemptsOf name ++ [⟨c.checkedAt, c.endedAt⟩]) ≤
      maxRestartPerMinute) ↔ (∀ t, Span.count restartWindowSeconds t (s.attemptsOf name) ≤ maxRestartPerMinute) ∧
      inWindow c (s.attemptsOf name) < maxRestartPerMinute := Span.bounded_append_iff hspans hend (by decide)
  constructor
  · intro hafter
    have hname := hafter name
    rw [attemptsOf_append hattempted.attempts, if_pos rfl] at hname
    exact (hone.1 hname).2
  · intro hroom other
    rw [attemptsOf_append hattempted.attempts]
    by_cases hother : name = other
    · subst hother
      rw [if_pos rfl]
      exact hone.2 ⟨hlimited name, hroom⟩
    · rw [if_neg hother, List.append_nil]
      exact hlimited other

theorem Tracked.restartLimited_iff (h : Tracked now s) (hlimited : s.Limited) (hnow : now ≤ c.checkedAt)
    (hend : c.checkedAt ≤ c.endedAt) : s.RestartLimited (.check c) ↔ s.Sound (.check c) := by
  rcases s.check_cases c with ⟨hfinds, hidle⟩ | ⟨name, hfinds, hdenied | ⟨started, hattempted⟩⟩
  · refine iff_of_true ⟨hlimited.of_attempts hidle.attempts, fun c' name hc hno => ?_⟩ fun name hno => ?_
    · cases hc
      cases hfinds.symm.trans hno
    · cases hfinds.symm.trans hno
  · have hfull : maxRestartPerMinute ≤ inWindow c (s.startedOf name) := by
      rw [← not_lt, ← h.canRestart_iff hnow name, hdenied.denied]
      decide
    refine iff_of_true ⟨hlimited.of_attempts hdenied.attempts, fun c' other hc hfound hroom => ?_⟩ fun other hfound _ => ?_
    · cases hc
      cases hfinds.symm.trans hfound
      exact absurd (hfull.trans (s.inWindow_started_le name c)) (not_le.mpr hroom)
    · cases hfinds.symm.trans hfound
      exact hfull
  · have hroom := (h.canRestart_iff hnow name).1 hattempted.allowed
    constructor
    · intro hafter other hfound hfull
      cases hfinds.symm.trans hfound
      exact absurd ((h.limited_attempted hlimited hnow hend hattempted).1 hafter.limited) (not_lt.mpr hfull)
    · intro hsound
      refine ⟨(h.limited_attempted hlimited hnow hend hattempted).2 (not_le.mp fun hfull => ?_), ?_⟩
      · exact absurd (hsound name hfinds hfull) (not_le.mpr hroom)
      · intro c' other hc hfound _
        cases hc
        cases hfinds.symm.trans hfound
        exact ⟨_, hattempted.attempts, rfl, rfl⟩

/-! ## Runs -/

theorem idle_sleep (s : SubprocessSupervisor K) (supervised : Option (List K)) : Idle s (s.step (.sleep supervised)) := by
  unfold step
  simp only
  split
  · exact ⟨fun _ => rfl, rfl⟩
  · exact ⟨fun _ => rfl, rfl⟩

theorem Tracked.along_iff {events : List (Event K)} (h : Tracked now s) (hlimited : s.Limited)
    (hclock : Clocked now events) : Along step RestartLimited s events ↔ Along step Sound s events := by
  induction events generalizing s now with
  | nil => exact Iff.rfl
  | cons event events ih =>
      cases event with
      | sleep supervised =>
          have hidle := s.idle_sleep supervised
          have hafter := hlimited.of_attempts hidle.attempts
          refine and_congr (iff_of_true ⟨hafter, fun _ _ hno => (by cases hno)⟩ trivial) ?_
          exact ih (h.idle hidle) hafter hclock
      | check c =>
          have hone := h.restartLimited_iff hlimited hclock.1 hclock.2.1
          have htracked := h.check hclock.1 hclock.2.1
          constructor
          · rintro ⟨hlimits, hrest⟩
            exact ⟨hone.1 hlimits, (ih htracked hlimits.limited hclock.2.2).1 hrest⟩
          · rintro ⟨hsound, hrest⟩
            have hlimits := hone.2 hsound
            exact ⟨hlimits, (ih htracked hlimits.limited hclock.2.2).2 hrest⟩

theorem sound_of_started {event : Event K} (h : ∀ a ∈ (s.step event).attempts, a.started = true) : s.Sound event := by
  cases event with
  | sleep supervised => trivial
  | check c =>
      have hkept : ∀ a ∈ s.attempts, a.started = true := by
        intro a ha
        refine h a ?_
        show a ∈ (s.check c).attempts
        rcases s.check_cases c with ⟨-, hidle⟩ | ⟨name, -, hdenied | ⟨started, hattempted⟩⟩
        · exact hidle.attempts ▸ ha
        · exact hdenied.attempts ▸ ha
        · rw [hattempted.attempts]
          exact List.mem_append_left _ ha
      intro name _ hfull
      have hall : s.startedOf name = s.attemptsOf name := by
        unfold startedOf attemptsOf
        congr 1
        refine List.filter_congr fun a ha => ?_
        simp [hkept a ha]
      rw [hall]
      exact hfull

theorem restartLimited_of_started (managers : Dict K ProcessManager) (now : ℚ) (events : List (Event K))
    (hclock : Clocked now events)
    (h : Along step (fun s event => ∀ a ∈ (s.step event).attempts, a.started = true) (new managers) events) :
    Along step RestartLimited (new managers) events :=
  ((tracked_new managers now).along_iff (fun _ _ => Nat.zero_le _) hclock).2 (h.mono fun _ _ => sound_of_started)

/-- In a run, the restarts of each process are limited, and made while the limit allows, exactly when the process is
found down after as many attempts as are allowed only where as many have started it. -/
theorem restartLimited_along_iff (managers : Dict K ProcessManager) (now : ℚ) (events : List (Event K))
    (hclock : Clocked now events) :
    Along step RestartLimited (new managers) events ↔ Along step Sound (new managers) events :=
  (tracked_new managers now).along_iff (fun _ _ => Nat.zero_le _) hclock

/-! ## Fixed runs -/

def schedulerOnly : Dict ProcessKey ProcessManager := .single .scheduler { cls := .base, processCount := 1 }

def roundAt (spawns : Bool) (now duration : ℚ) : List (Event ProcessKey) :=
  [.sleep none,
    .check { meanwhile := fun m => m.exit fun _ => true, stopEvent := false, checkedAt := now, endedAt := now + duration,
             spawns := fun _ => spawns, exits := fun _ => false }]

def exitingEvents : List (Event ProcessKey) :=
  [2, 5, 8, 11, 14, 17, 62, 63].flatMap fun now => roundAt true now (1 / 2)

theorem restartLimited_exiting : Along step RestartLimited (new schedulerOnly) exitingEvents :=
  (restartLimited_along_iff schedulerOnly 0 exitingEvents (by decide +kernel)).2 (by decide +kernel)

def failingEvents : List (Event ProcessKey) := [2, 4, 6, 8, 10, 12].flatMap fun now => roundAt false now 0

theorem not_restartLimited_failing :
    Clocked 0 failingEvents ∧ ¬ Along step RestartLimited (new schedulerOnly) failingEvents := by
  refine ⟨by decide +kernel, fun h => ?_⟩
  have hlast := h.2.2.2.2.2.2.2.2.2.2.2.1.limited .scheduler 2
  exact absurd hlast (by decide +kernel)

/-! ## The supervisor of the daemon -/

section Daemon

variable {d : CoordinatorDaemon} {s : SubprocessSupervisor ProcessKey} {c : Check}

def Supervises (d d' : CoordinatorDaemon) : Prop :=
  ∃ canRestart spawns exits, d' = d.step (.supervise canRestart spawns exits)

/-- The daemon has the managers of the supervisor, and is where it is in its round. -/
structure Follows (d : CoordinatorDaemon) (s : SubprocessSupervisor ProcessKey) : Prop where
  managers : d.processManagers = s.managers
  supervisor : d.supervisor = (d.nextCheck s.supervised s.rest).supervisor

/-- Only the supervisor takes steps, and no method raises. -/
def Undisturbed (d : CoordinatorDaemon) : Event ProcessKey → Prop
  | .sleep supervised => d.stopEvent = false ∧ supervised = some d.getSupervisedKeys
  | .check c => c.meanwhile = id ∧ c.stopEvent = d.stopEvent ∧ c.raises = none

theorem follows_nextCheck (h : d.processManagers = s.managers) : Follows (d.nextCheck s.supervised s.rest) s := by
  unfold CoordinatorDaemon.nextCheck
  cases hrest : s.rest with
  | nil => exact ⟨h, by rw [hrest]; rfl⟩
  | cons name rest => exact ⟨h, by rw [hrest]; rfl⟩

/-- What a check leaves of the managers and the round, if `restarts` says that it attempts a restart. -/
structure Checked (s : SubprocessSupervisor ProcessKey) (c : Check) (name : ProcessKey) (m : ProcessManager)
    (rest : List ProcessKey) (restarts : Prop) (s' : SubprocessSupervisor ProcessKey) : Prop where
  supervised : s'.supervised = s.supervised
  rest : s'.rest = rest
  restarted : restarts → s'.managers = s.managers.set name (m.restart c.spawns c.exits).2
  left : ¬ restarts → s'.managers = s.managers

theorem checked_tryRestart {name : ProcessKey} {m : ProcessManager} (hraises : c.raises = none) :
    Checked s c name m s.rest (((s.limiterOf name).canRestart c.checkedAt).1 = true) (s.tryRestart name m c) := by
  unfold tryRestart
  rw [canRestart_eq]
  cases hallowed : ((s.limiterOf name).canRestart c.checkedAt).1 with
  | false => exact ⟨rfl, rfl, fun hno => (by cases hno), fun _ => rfl⟩
  | true =>
      dsimp only
      unfold restart
      rw [if_neg (by simp [hraises])]
      rcases hrestart : m.restart c.spawns c.exits with ⟨started, m'⟩
      cases started with
      | true => exact ⟨rfl, rfl, fun _ => by rw [hrestart]; rfl, fun hno => absurd rfl hno⟩
      | false => exact ⟨rfl, rfl, fun _ => by rw [hrestart]; rfl, fun hno => absurd rfl hno⟩

theorem checked_check {name : ProcessKey} {rest : List ProcessKey} {m : ProcessManager}
    (hc : Undisturbed d (.check c)) (hmanagers : d.processManagers = s.managers) (hrest : s.rest = name :: rest)
    (hget : s.managers.get? name = some m) :
    Checked s c name m rest (d.finds s.supervised name ((s.limiterOf name).canRestart c.checkedAt).1 = true)
      (s.check c) := by
  obtain ⟨hmeanwhile, hstop, hraises⟩ := hc
  have hsame : s.managers.adjust name c.meanwhile = s.managers := by rw [hmeanwhile, Dict.adjust_id]
  have hfinds : d.finds s.supervised name ((s.limiterOf name).canRestart c.checkedAt).1 = true ↔
      name ∈ s.supervised ∧ (!m.isRunning && !c.stopEvent) = true ∧
        ((s.limiterOf name).canRestart c.checkedAt).1 = true := by
    unfold CoordinatorDaemon.finds
    rw [hmanagers, hget, ← hstop]
    simp [and_assoc]
  unfold check
  rw [hrest]
  simp only [hsame, hget]
  by_cases hname : name ∈ s.supervised
  · rw [if_neg (not_not_intro hname), if_neg (by simp [hraises])]
    by_cases hdown : (!m.isRunning && !c.stopEvent) = true
    · rw [if_pos hdown]
      obtain ⟨hsupervised, hrest', hrestarted, hleft⟩ :=
        @checked_tryRestart { s with rest := rest } c name m hraises
      refine ⟨hsupervised, hrest', fun h => hrestarted (hfinds.1 h).2.2, fun h => hleft fun hallowed => h ?_⟩
      exact hfinds.2 ⟨hname, hdown, hallowed⟩
    · rw [if_neg hdown]
      exact ⟨rfl, rfl, fun h => absurd (hfinds.1 h).2.1 hdown, fun _ => rfl⟩
  · rw [if_pos hname]
    exact ⟨rfl, rfl, fun h => absurd (hfinds.1 h).1 hname, fun _ => rfl⟩

theorem check_missing {name : ProcessKey} {rest : List ProcessKey} (hc : Undisturbed d (.check c))
    (hrest : s.rest = name :: rest) (hget : s.managers.get? name = none) : s.check c = { s with rest := rest } := by
  obtain ⟨hmeanwhile, -, hraises⟩ := hc
  have hsame : s.managers.adjust name c.meanwhile = s.managers := by rw [hmeanwhile, Dict.adjust_id]
  unfold check
  rw [hrest]
  simp only [hsame, hget]
  rw [if_neg (show ¬ c.raises = some .isRunning by simp [hraises]), ite_self]

/-- The daemon takes two steps for the inference workers, and three for another manager. -/
theorem Follows.restarted {name : ProcessKey} {rest : List ProcessKey} {m : ProcessManager}
    {s' : SubprocessSupervisor ProcessKey} (h : Follows d s) (hd : d.Managed) (hrest : s.rest = name :: rest)
    (hget : s.managers.get? name = some m) (hfinds : d.finds s.supervised name true = true)
    (hs' : Checked s c name m rest True s') : ∃ d', Relation.ReflTransGen Supervises d d' ∧ Follows d' s' := by
  have hproper := hd name m (h.managers ▸ hget)
  have hrestarting : Supervises d { d with supervisor := .restarting s.supervised name rest } := by
    refine ⟨true, c.spawns, c.exits, ?_⟩
    show _ = d.supervisorStep true c.spawns c.exits
    unfold CoordinatorDaemon.supervisorStep
    rw [h.supervisor, hrest]
    exact (if_pos hfinds).symm
  have hafter : ∀ d' : CoordinatorDaemon, d'.processManagers = s'.managers →
      Follows (d'.nextCheck s.supervised rest) s' := by
    intro d' hmanagers
    rw [← hs'.supervised, ← hs'.rest]
    exact follows_nextCheck hmanagers
  by_cases hname : name = .inference
  · refine ⟨_, (Relation.ReflTransGen.single hrestarting).tail ⟨true, c.spawns, c.exits, rfl⟩, ?_⟩
    show Follows (if name = .inference then _ else _) s'
    rw [if_pos hname]
    refine hafter _ ?_
    rw [hs'.restarted trivial, ProcessManager.restart, hproper.inference hname, ← h.managers]
    rw [← h.managers] at hget
    exact (Dict.set_eq_adjust hget fun m => (m.restartDeadWorkers c.spawns c.exits).2).symm
  · refine ⟨_, ((Relation.ReflTransGen.single hrestarting).tail ⟨true, c.spawns, c.exits, rfl⟩).tail
      ⟨true, c.spawns, c.exits, rfl⟩, ?_⟩
    show Follows ((if name = .inference then _ else _ : CoordinatorDaemon).step _) s'
    rw [if_neg hname]
    refine hafter _ ?_
    rw [hs'.restarted trivial, ProcessManager.restart, (hproper.base hname).1, ← h.managers]
    rw [← h.managers] at hget
    refine Eq.trans (Dict.adjust_adjust d.processManagers name ProcessManager.stop fun m =>
      (m.start c.spawns c.exits).2) ?_
    exact (Dict.set_eq_adjust hget fun m => (m.stop.start c.spawns c.exits).2).symm

/-- A check is some steps of the daemon, which restart the manager as the limiter says. -/
theorem Follows.check (h : Follows d s) (hd : d.Managed) (hc : Undisturbed d (.check c)) :
    ∃ d', Relation.ReflTransGen Supervises d d' ∧ Follows d' (s.check c) := by
  cases hrest : s.rest with
  | nil =>
      refine ⟨d, .refl, ?_⟩
      unfold SubprocessSupervisor.check
      rw [hrest]
      exact h
  | cons name rest =>
      have hleft : ∀ canRestart, d.finds s.supervised name canRestart = false →
          Relation.ReflTransGen Supervises d (d.nextCheck s.supervised rest) := by
        intro canRestart hno
        refine .single ⟨canRestart, c.spawns, c.exits, ?_⟩
        show _ = d.supervisorStep canRestart c.spawns c.exits
        unfold CoordinatorDaemon.supervisorStep
        rw [h.supervisor, hrest]
        exact (if_neg (by simp [hno])).symm
      cases hget : s.managers.get? name with
      | none =>
          have hno : d.finds s.supervised name false = false := Bool.and_false _
          refine ⟨_, hleft false hno, ?_⟩
          rw [check_missing hc hrest hget]
          exact @follows_nextCheck d { s with rest := rest } h.managers
      | some m =>
          have hchecked := checked_check hc h.managers hrest hget
          cases hfinds : d.finds s.supervised name ((s.limiterOf name).canRestart c.checkedAt).1 with
          | false =>
              refine ⟨_, hleft _ hfinds, ?_⟩
              rw [← hchecked.supervised, ← hchecked.rest]
              exact follows_nextCheck (h.managers.trans (hchecked.left (by simp [hfinds])).symm)
          | true =>
              have hallowed : ((s.limiterOf name).canRestart c.checkedAt).1 = true := by
                unfold CoordinatorDaemon.finds at hfinds
                rw [Bool.and_eq_true] at hfinds
                exact hfinds.2
              exact h.restarted hd hrest hget (hallowed ▸ hfinds)
                ⟨hchecked.supervised, hchecked.rest, fun _ => hchecked.restarted hfinds, fun hno => absurd trivial hno⟩

theorem Follows.sleep (h : Follows d s) {supervised : Option (List ProcessKey)}
    (hc : Undisturbed d (.sleep supervised)) :
    ∃ d', Relation.ReflTransGen Supervises d d' ∧ Follows d' (s.step (.sleep supervised)) := by
  obtain ⟨hstop, rfl⟩ := hc
  cases hrest : s.rest with
  | nil =>
      have hbegin : Supervises d (d.nextCheck d.getSupervisedKeys d.processManagers.keys) := by
        refine ⟨true, fun _ => false, fun _ => false, ?_⟩
        show _ = d.supervisorStep true _ _
        unfold CoordinatorDaemon.supervisorStep
        rw [h.supervisor, hrest, CoordinatorDaemon.nextCheck, hstop]
        rfl
      refine ⟨_, .single hbegin, ?_⟩
      unfold SubprocessSupervisor.step
      rw [hrest, h.managers]
      exact @follows_nextCheck d { s with supervised := d.getSupervisedKeys, rest := s.managers.keys } h.managers
  | cons name rest =>
      refine ⟨d, .refl, ?_⟩
      unfold SubprocessSupervisor.step
      rw [hrest]
      exact h

theorem Follows.step (h : Follows d s) (hd : d.Managed) {event : Event ProcessKey} (hc : Undisturbed d event) :
    ∃ d', Relation.ReflTransGen Supervises d d' ∧ Follows d' (s.step event) := by
  cases event with
  | sleep supervised => exact h.sleep hc
  | check c => exact h.check hd hc

/-- What the conditions on the steps of the supervisor are about. -/
structure SameConditions (d d' : CoordinatorDaemon) : Prop where
  stopEvent : d'.stopEvent = d.stopEvent
  supervisedKeys : d'.getSupervisedKeys = d.getSupervisedKeys

theorem sameConditions_nextCheck (d : CoordinatorDaemon) (supervised rest : List ProcessKey) :
    SameConditions d (d.nextCheck supervised rest) := by
  cases rest with
  | nil => exact ⟨rfl, rfl⟩
  | cons key rest => exact ⟨rfl, rfl⟩

theorem sameConditions_withManager (d : CoordinatorDaemon) (key : ProcessKey) (method : ProcessManager → ProcessManager) :
    SameConditions d (d.withManager key method) := by
  refine ⟨rfl, ?_⟩
  unfold CoordinatorDaemon.getSupervisedKeys CoordinatorDaemon.withManager
  rw [Dict.keys_adjust]

theorem SameConditions.trans {d d' d'' : CoordinatorDaemon} (h : SameConditions d d') (h' : SameConditions d' d'') :
    SameConditions d d'' := ⟨h'.stopEvent.trans h.stopEvent, h'.supervisedKeys.trans h.supervisedKeys⟩

theorem Supervises.sameConditions {d' : CoordinatorDaemon} (h : Supervises d d') : SameConditions d d' := by
  obtain ⟨canRestart, spawns, exits, rfl⟩ := h
  show SameConditions d (d.supervisorStep canRestart spawns exits)
  unfold CoordinatorDaemon.supervisorStep
  cases d.supervisor with
  | sleeping => exact sameConditions_nextCheck ..
  | checking supervised key rest =>
      dsimp only
      split
      · exact ⟨rfl, rfl⟩
      · exact sameConditions_nextCheck ..
  | restarting supervised key rest =>
      dsimp only
      split
      · exact (sameConditions_withManager ..).trans (sameConditions_nextCheck ..)
      · have hstopped := sameConditions_withManager d key ProcessManager.stop
        exact ⟨hstopped.stopEvent, hstopped.supervisedKeys⟩
  | starting supervised key rest => exact (sameConditions_withManager ..).trans (sameConditions_nextCheck ..)
  | ended => exact ⟨rfl, rfl⟩

theorem guarded_of_supervises {d' : CoordinatorDaemon} (h : d.Guarded) (hsteps : Relation.ReflTransGen Supervises d d') :
    d'.Guarded ∧ SameConditions d d' := by
  induction hsteps with
  | refl => exact ⟨h, rfl, rfl⟩
  | tail _ hstep ih =>
      obtain ⟨hguarded, hsame⟩ := ih
      have hnext := hstep.sameConditions
      obtain ⟨canRestart, spawns, exits, rfl⟩ := hstep
      exact ⟨hguarded.supervisorStep canRestart spawns exits, hsame.trans hnext⟩

theorem Undisturbed.of_same {d' : CoordinatorDaemon} {event : Event ProcessKey} (h : Undisturbed d event)
    (hsame : SameConditions d d') : Undisturbed d' event := by
  cases event with
  | sleep supervised => exact ⟨hsame.stopEvent.trans h.1, hsame.supervisedKeys.symm ▸ h.2⟩
  | check c => exact ⟨h.1, h.2.1.trans hsame.stopEvent.symm, h.2.2⟩

/-- A run of the supervisor that nobody disturbs is one of the daemon, from any state in which they agree. -/
theorem Follows.run {events : List (Event ProcessKey)} (h : Follows d s) (hd : d.Guarded)
    (hc : ∀ event ∈ events, Undisturbed d event) :
    ∃ d', Relation.ReflTransGen Supervises d d' ∧ Follows d' (Lib.run SubprocessSupervisor.step s events) := by
  induction events generalizing d s with
  | nil => exact ⟨d, .refl, h⟩
  | cons event events ih =>
      obtain ⟨d', hsteps, hfollows⟩ := h.step hd.managed (hc event (List.mem_cons_self ..))
      obtain ⟨hguarded, hsame⟩ := guarded_of_supervises hd hsteps
      obtain ⟨d'', hmore, hrun⟩ := ih hfollows hguarded fun e he => (hc e (List.mem_cons_of_mem _ he)).of_same hsame
      exact ⟨d'', hsteps.trans hmore, hrun⟩

theorem follows_start (c : EtcdClient) (masterLockKey : String) (maxLockFailures : Nat) (numWorkers : Option Nat)
    (hasShm : Bool) (spawns exits : ProcessKey → Nat → Bool) :
    Follows (.start c masterLockKey maxLockFailures numWorkers hasShm spawns exits)
      (new (CoordinatorDaemon.start c masterLockKey maxLockFailures numWorkers hasShm spawns exits).processManagers) :=
  ⟨rfl, rfl⟩

end Daemon

end PyMotor.SubprocessSupervisor
