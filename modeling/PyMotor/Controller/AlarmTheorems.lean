import PyMotor.Controller.Alarms
import PyMotor.Controller.Lemmas.Separation

/-!
# The missing-role alarm

A call of the manager makes one instance active, makes one inactive, or leaves the active instances alone. Which alarms
it adds follows from that and from whether it makes the instance inactive after a timeout.
-/

namespace PyMotor

open Lib ManagedInstance

namespace Controller

variable {c c' : Controller} {r : Ref} {id : Int} {timestamp : ℚ} {role : String}

/-! ## The active instances -/

theorem hasActive_iff : c.HasActive role ↔ ∃ id r, ActiveAt c id r ∧ (c.obj r).role = role := by
  simp only [HasActive, getActiveInstances, List.mem_filter, List.mem_map, Dict.mem_values_iff, decide_eq_true_eq, ActiveAt]
  constructor
  · rintro ⟨x, ⟨⟨r, ⟨id, hr⟩, rfl⟩, hs⟩, hrole⟩
    exact ⟨id, r, ⟨hr, hs⟩, hrole⟩
  · rintro ⟨id, r, ⟨hr, hs⟩, hrole⟩
    exact ⟨_, ⟨⟨r, ⟨id, hr⟩, rfl⟩, hs⟩, hrole⟩

/-- The active instances keep their roles. -/
def KeepsRoles (c c' : Controller) : Prop := ∀ id r, ActiveAt c id r → (c'.obj r).role = (c.obj r).role

/-- The same instances are active. -/
structure SameActive (c c' : Controller) : Prop where
  active : ∀ id r, ActiveAt c' id r ↔ ActiveAt c id r
  roles : KeepsRoles c c'

/-- One more instance is active in the second state. -/
structure OneMore (c c' : Controller) (r : Ref) : Prop where
  active : ∃ id, ActiveAt c' id r ∧ ¬ ActiveAt c id r ∧ ∀ id' r', ActiveAt c' id' r' ↔ ActiveAt c id' r' ∨ id' = id ∧ r' = r
  roles : KeepsRoles c c'

theorem SameActive.hasActive_iff (h : SameActive c c') : c'.HasActive role ↔ c.HasActive role := by
  rw [Controller.hasActive_iff, Controller.hasActive_iff]
  refine exists₂_congr fun id r => ?_
  rw [h.active]
  exact and_congr_right fun hactive => by rw [h.roles id r hactive]

theorem OneMore.hasActive_iff (h : OneMore c c' r) : c'.HasActive role ↔ c.HasActive role ∨ (c'.obj r).role = role := by
  obtain ⟨id, -, -, hactive⟩ := h.active
  rw [Controller.hasActive_iff, Controller.hasActive_iff]
  constructor
  · rintro ⟨id', r', hat, hrole⟩
    rcases (hactive id' r').mp hat with hold | ⟨-, rfl⟩
    · exact Or.inl ⟨id', r', hold, by rw [← h.roles id' r' hold, hrole]⟩
    · exact Or.inr hrole
  · rintro (⟨id', r', hold, hrole⟩ | hrole)
    · exact ⟨id', r', (hactive id' r').mpr (Or.inl hold), by rw [h.roles id' r' hold, hrole]⟩
    · exact ⟨id, r, (hactive id r).mpr (Or.inr ⟨rfl, rfl⟩), hrole⟩

theorem SameActive.rfl : SameActive c c := ⟨fun _ _ => Iff.rfl, fun _ _ _ => Eq.refl _⟩

theorem SameActive.not_activates (h : SameActive c c') : ¬ Activates c c' := by
  rintro ⟨id, r, hnew, hold⟩
  exact hold ((h.active id r).mp hnew)

theorem SameActive.trans {c'' : Controller} (h : SameActive c c') (h' : SameActive c' c'') : SameActive c c'' where
  active id r := (h'.active id r).trans (h.active id r)
  roles id r hactive := (h'.roles id r ((h.active id r).mpr hactive)).trans (h.roles id r hactive)

theorem OneMore.of_same {c₁ : Controller} (h : OneMore c₁ c' r) (hsame : SameActive c c₁) : OneMore c c' r := by
  obtain ⟨id, hnew, hold, hactive⟩ := h.active
  refine ⟨⟨id, hnew, fun hat => hold ((hsame.active id r).mpr hat), fun id' r' => ?_⟩, fun id' r' hat => ?_⟩
  · rw [hactive, hsame.active]
  · exact (h.roles id' r' ((hsame.active id' r').mpr hat)).trans (hsame.roles id' r' hat)

theorem OneMore.same {c₁ : Controller} (h : OneMore c' c₁ r) (hsame : SameActive c c₁) : OneMore c' c r := by
  obtain ⟨id, hnew, hold, hactive⟩ := h.active
  have hat : ∀ id' r', ActiveAt c id' r' ↔ ActiveAt c' id' r' ∨ id' = id ∧ r' = r := fun id' r' =>
    (hsame.active id' r').symm.trans (hactive id' r')
  refine ⟨⟨id, (hat id r).mpr (Or.inr ⟨Eq.refl _, Eq.refl _⟩), hold, hat⟩, fun id' r' hold' => ?_⟩
  have hrole := h.roles id' r' hold'
  rw [← hrole]
  exact (hsame.roles id' r' ((hat id' r').mpr (Or.inl hold'))).symm

/-! ## Changes of one instance -/

theorem SameActive.notify (h : SameActive c c') (r : Ref) (event : ObserverEvent) :
    SameActive c (c'.notify r event) := ⟨h.active, h.roles⟩

theorem OneMore.notify_more (h : OneMore c c' r) (r' : Ref) (event : ObserverEvent) :
    OneMore c (c'.notify r' event) r := ⟨h.active, h.roles⟩

theorem OneMore.notify_less (h : OneMore c' c r) (r' : Ref) (event : ObserverEvent) :
    OneMore (c'.notify r' event) c r := ⟨h.active, h.roles⟩

theorem sameActive_delInstance (h : ∀ r, ¬ ActiveAt c id r) : SameActive c (c.delInstance id) := by
  unfold delInstance
  split
  · refine ⟨fun id' r => ?_, fun _ _ _ => Eq.refl _⟩
    unfold ActiveAt
    by_cases he : id' = id
    · obtain rfl := he
      constructor
      · rintro ⟨hr, -⟩
        rw [Dict.get?_erase_self] at hr
        cases hr
      · exact fun hat => absurd hat (h r)
    · rw [Dict.get?_erase_ne he]
      exact Iff.rfl
  · exact .rfl

theorem sameActive_modifyObj {f : ManagedInstance → ManagedInstance} (hf : Keeps f)
    (hstatus : ∀ x, (f x).status = x.status) (r : Ref) : SameActive c (c.modifyObj r f) := by
  have hobj : ∀ r', ((c.modifyObj r f).obj r').status = (c.obj r').status :=
    Heap.read_modify_congr (g := fun x : ManagedInstance => x.status) hstatus r
  refine ⟨fun id r' => ?_, fun _ r' _ => hf.role_obj r r'⟩
  unfold ActiveAt
  rw [hobj]
  exact Iff.rfl

theorem activeAt_setStatus (hm : Managed c) (hr : c.instances.get? id = some r) (status : InsStatus) (id' : Int)
    (r' : Ref) : ActiveAt (c.modifyObj r (·.updateInstanceStatus status)) id' r' ↔
      r' ≠ r ∧ ActiveAt c id' r' ∨ (id' = id ∧ r' = r) ∧ status = .active := by
  unfold ActiveAt
  by_cases he : r' = r
  · obtain rfl := he
    rw [obj_modifyObj_self (hm hr).1]
    constructor
    · rintro ⟨hr', hs⟩
      exact Or.inr ⟨⟨(hm hr').2.symm.trans (hm hr).2, Eq.refl _⟩, hs⟩
    · rintro (⟨hne, -⟩ | ⟨⟨rfl, -⟩, hs⟩)
      · exact absurd (Eq.refl _) hne
      · exact ⟨hr, hs⟩
  · rw [obj_modifyObj_ne he]
    simp [he, modifyObj]

theorem sameActive_setStatus (hm : Managed c) (hr : c.instances.get? id = some r) {status : InsStatus}
    (hs : (c.obj r).status ≠ .active) (hne : status ≠ .active) :
    SameActive c (c.modifyObj r (·.updateInstanceStatus status)) := by
  refine ⟨fun id' r' => ?_, fun _ r' _ => (keeps_updateInstanceStatus status).role_obj r r'⟩
  rw [activeAt_setStatus hm hr]
  constructor
  · rintro (⟨-, hat⟩ | ⟨-, he⟩)
    · exact hat
    · exact absurd he hne
  · intro hat
    refine Or.inl ⟨?_, hat⟩
    rintro rfl
    exact hs hat.2

theorem oneMore_activate (hm : Managed c) (hr : c.instances.get? id = some r) (hs : (c.obj r).status ≠ .active) :
    OneMore c (c.modifyObj r (·.updateInstanceStatus .active)) r := by
  refine ⟨⟨id, ?_, fun hat => hs hat.2, fun id' r' => ?_⟩, fun _ r' _ => (keeps_updateInstanceStatus .active).role_obj r r'⟩
  · rw [activeAt_setStatus hm hr]
    exact Or.inr ⟨⟨Eq.refl _, Eq.refl _⟩, Eq.refl _⟩
  · rw [activeAt_setStatus hm hr]
    constructor
    · rintro (⟨-, hat⟩ | ⟨he, -⟩)
      · exact Or.inl hat
      · exact Or.inr he
    · rintro (hat | he)
      · refine Or.inl ⟨?_, hat⟩
        rintro rfl
        exact hs hat.2
      · exact Or.inr ⟨he, Eq.refl _⟩

theorem oneMore_deactivate (hm : Managed c) (hr : c.instances.get? id = some r) (hs : (c.obj r).status = .active) :
    OneMore (c.modifyObj r (·.updateInstanceStatus .inactive)) c r := by
  have hat := activeAt_setStatus hm hr .inactive
  refine ⟨⟨id, ⟨hr, hs⟩, fun h => ?_, fun id' r' => ?_⟩,
    fun _ r' _ => ((keeps_updateInstanceStatus .inactive).role_obj r r').symm⟩
  · rcases (hat id r).mp h with ⟨hne, -⟩ | ⟨-, he⟩
    · exact hne (Eq.refl _)
    · cases he
  · rw [hat]
    constructor
    · intro h
      by_cases he : r' = r
      · obtain rfl := he
        exact Or.inr ⟨(hm h.1).2.symm.trans (hm hr).2, Eq.refl _⟩
      · exact Or.inl (Or.inl ⟨he, h⟩)
    · rintro ((⟨-, h⟩ | ⟨-, he⟩) | ⟨rfl, rfl⟩)
      · exact h
      · cases he
      · exact ⟨hr, hs⟩

/-! ## The reports -/

theorem raised_mem_report {x : ManagedInstance} :
    .instanceMissing false ∈ reportInstAlarm x false ++ c.reportCoordinatorAlarm x false ↔ ¬ c.HasActive x.role := by
  simp [reportInstAlarm, reportCoordinatorAlarm, HasActive]

theorem cleared_not_mem_report {x : ManagedInstance} :
    .instanceMissing true ∉ reportInstAlarm x false ++ c.reportCoordinatorAlarm x false := by
  simp [reportInstAlarm, reportCoordinatorAlarm]

theorem raised_not_mem_clear {x : ManagedInstance} :
    .instanceMissing false ∉ reportInstAlarm x true ++ c.reportCoordinatorAlarm x true := by
  simp only [reportInstAlarm, reportCoordinatorAlarm, if_true]
  cases roleToPartner x.role <;> simp

theorem cleared_mem_clear {x : ManagedInstance} {partner : String} (h : roleToPartner x.role = some partner) :
    .instanceMissing true ∈ reportInstAlarm x true ++ c.reportCoordinatorAlarm x true ↔ c.HasActive partner := by
  simp [reportInstAlarm, reportCoordinatorAlarm, h, HasActive]

/-! ## What a call comes to -/

/-- The change of the active instances with the alarms. Only where it may be silent is an instance lost without one. -/
inductive Outcome (maySilent : Prop) (c c' : Controller) (alarms : List ControllerAlarm) : Prop
  | quiet (h : SameActive c c') (ha : alarms = [])
  | activated (r : Ref) (h : OneMore c c' r)
      (ha : alarms = reportInstAlarm (c'.obj r) true ++ c'.reportCoordinatorAlarm (c'.obj r) true)
  | timedOut (r : Ref) (h : OneMore c' c r) (hrole : (c'.obj r).role = (c.obj r).role)
      (ha : alarms = reportInstAlarm (c'.obj r) false ++ c'.reportCoordinatorAlarm (c'.obj r) false)
  | silent (r : Ref) (h : OneMore c' c r) (hs : maySilent) (ha : alarms = [])

theorem Outcome.of_same {maySilent : Prop} {c₁ : Controller} {alarms : List ControllerAlarm} (hsame : SameActive c c₁)
    (hrole : ∀ r, (c₁.obj r).role = (c.obj r).role) (h : Outcome maySilent c₁ c' alarms) :
    Outcome maySilent c c' alarms := by
  cases h with
  | quiet h ha => exact .quiet (hsame.trans h) ha
  | activated r h ha => exact .activated r (h.of_same hsame) ha
  | timedOut r h hrole' ha => exact .timedOut r (h.same hsame) (hrole'.trans (hrole r)) ha
  | silent r h hs ha => exact .silent r (h.same hsame) hs ha

theorem outcome_handleInactive (hm : Managed c) (hr : c.instances.get? id = some r)
    (queryStatus : NodeManagerInfo → QueryStatus) {event : InsConditionEvent}
    (hto : transitions (c.obj r).status event = some .inactive) :
    Outcome (event = .instanceAbnormal) c (c.handleInactive timestamp queryStatus (c.obj r).status event r)
      (c.alarmsOfInactive timestamp queryStatus (c.obj r).status event r) := by
  unfold handleInactive alarmsOfInactive
  by_cases hs : (c.obj r).status = .inactive
  · rw [if_pos hs, if_pos hs]
    exact .quiet .rfl (Eq.refl _)
  · rw [if_neg hs, if_neg hs]
    by_cases he : event = .instanceAbnormal
    · rw [if_pos he, if_pos he]
      by_cases hactive : (c.obj r).status = .active
      · exact .silent r ((oneMore_deactivate hm hr hactive).notify_less r _) he (Eq.refl _)
      · exact .quiet ((sameActive_setStatus hm hr hactive InsStatus.noConfusion).notify r _) (Eq.refl _)
    · obtain ⟨hactive, htimeout⟩ := transitions_inactive hto he
      rw [if_neg he, if_neg he, if_pos htimeout, if_pos htimeout]
      by_cases hcheck : checkNodeManagersStatus (c.obj r) queryStatus = true
      · rw [if_pos hcheck, if_pos hcheck]
        simp only [handleInactive, if_neg hs, if_neg he, if_pos htimeout, if_pos hcheck]
        exact .timedOut r ((oneMore_deactivate hm hr hactive).notify_less r _) ((keeps_updateInstanceStatus .inactive).role_obj r r)
          (Eq.refl _)
      · rw [if_neg hcheck, if_neg hcheck]
        exact .quiet (sameActive_modifyObj (keeps_refreshHeartbeats timestamp) (fun _ => Eq.refl _) r) (Eq.refl _)

theorem outcome_handleDeleted (hm : Managed c) (hr : c.instances.get? id = some r) {event : InsConditionEvent}
    (hto : transitions (c.obj r).status event = some .deleted) (maySilent : Prop) :
    Outcome maySilent c (c.handleDeleted (c.obj r).status event r) [] := by
  obtain ⟨hne, hne', he⟩ := transitions_deleted hto
  unfold handleDeleted
  rw [if_neg hne', if_pos (Or.inl he)]
  have hsame := (sameActive_setStatus hm hr hne (InsStatus.noConfusion : InsStatus.deleted ≠ .active)).notify r
    .instanceRemoved
  refine .quiet (hsame.trans (sameActive_delInstance fun r' hat => ?_)) (Eq.refl _)
  have hold := (hsame.active _ r').mp hat
  rw [(hm hr).2] at hold
  cases hr.symm.trans hold.1
  exact hne hold.2

theorem outcome_stateTransition (hm : Managed c) (hr : c.instances.get? id = some r) (timestamp : ℚ)
    (queryStatus : NodeManagerInfo → QueryStatus) (eventOverride : Option InsConditionEvent) :
    Outcome (eventOverride.getD (conditionEvent (c.obj r)) = .instanceAbnormal) c
      (c.handleStateTransition timestamp queryStatus r eventOverride).2
      (c.alarmsOfStateTransition timestamp queryStatus r eventOverride) := by
  unfold handleStateTransition alarmsOfStateTransition
  dsimp only
  generalize eventOverride.getD (conditionEvent (c.obj r)) = event
  cases hto : transitions (c.obj r).status event with
  | none => exact .quiet .rfl (Eq.refl _)
  | some toState =>
      dsimp only
      by_cases hforced : (c.obj r).id ∈ c.forcedSeparatedInstances ∧ toState = .active
      · rw [if_pos hforced, if_pos hforced]
        exact .quiet .rfl (Eq.refl _)
      · rw [if_neg hforced, if_neg hforced]
        cases toState with
        | initial =>
            dsimp only
            unfold handleInitial
            split
            · rename_i hs
              have hne : (c.obj r).status ≠ .active := by
                rw [hs.1]
                exact InsStatus.noConfusion
              exact .quiet (sameActive_setStatus hm hr hne InsStatus.noConfusion) (Eq.refl _)
            · exact .quiet .rfl (Eq.refl _)
        | active =>
            have he := transitions_active hto
            dsimp only
            unfold alarmsOfActive handleActive
            by_cases hs : (c.obj r).status = .active
            · rw [if_pos hs, if_pos hs]
              exact .quiet .rfl (Eq.refl _)
            · rw [if_neg hs, if_neg hs, if_pos he, if_pos he]
              exact .activated r ((oneMore_activate hm hr hs).notify_more r _) (Eq.refl _)
        | inactive => exact outcome_handleInactive hm hr queryStatus hto
        | deleted => exact outcome_handleDeleted hm hr hto _

theorem Outcome.mono {maySilent maySilent' : Prop} {alarms : List ControllerAlarm} (hs : maySilent → maySilent')
    (h : Outcome maySilent c c' alarms) : Outcome maySilent' c c' alarms := by
  cases h with
  | quiet h ha => exact .quiet h ha
  | activated r h ha => exact .activated r h ha
  | timedOut r h hrole ha => exact .timedOut r h hrole ha
  | silent r h hs' ha => exact .silent r h (hs hs') ha

theorem outcome_heartbeat (hm : Managed c) (timestamp : ℚ) (insId : Int) (ip : String)
    (status : Dict Int EndpointStatus) : Outcome True c (c.handleHeartbeat timestamp insId ip status).2
      (c.alarmsOfHeartbeat timestamp insId ip status) := by
  have hf := keeps_updateHeartbeat ip timestamp status
  have htouch : ∀ r, SameActive c (c.modifyObj r fun x => (x.updateHeartbeat ip timestamp status).2) := fun r =>
    sameActive_modifyObj hf (fun x => x.status_updateHeartbeat ip timestamp status) r
  unfold handleHeartbeat alarmsOfHeartbeat
  cases hr : c.instances.get? insId with
  | none => exact .quiet .rfl (Eq.refl _)
  | some r =>
      dsimp only
      cases ((c.obj r).updateHeartbeat ip timestamp status).1 with
      | error e => exact .quiet (htouch r) (Eq.refl _)
      | ok b =>
          cases b with
          | false => exact .quiet (htouch r) (Eq.refl _)
          | true =>
              have hm' : Managed (c.modifyObj r fun x => (x.updateHeartbeat ip timestamp status).2) := by
                intro id r' hr'
                rw [length_modifyObj, hf.id_obj]
                exact hm hr'
              have hout := ((outcome_stateTransition hm' hr timestamp (fun _ => .normal) none).mono fun _ => trivial).of_same
                (htouch r) (hf.role_obj r)
              dsimp only
              rcases hc : (c.modifyObj r fun x => (x.updateHeartbeat ip timestamp status).2).handleStateTransition
                timestamp (fun _ => .normal) r none with ⟨_ | _, c''⟩ <;>
              · rw [hc] at hout
                exact hout

theorem outcome_timeout (hm : Managed c) (timestamp : ℚ) (queryStatus : NodeManagerInfo → QueryStatus) (insId : Int) :
    Outcome False c (c.handleTimeout timestamp queryStatus insId) (c.alarmsOfTimeout timestamp queryStatus insId) := by
  unfold handleTimeout alarmsOfTimeout
  cases hr : c.instances.get? insId with
  | none => exact .quiet .rfl (Eq.refl _)
  | some r =>
      dsimp only
      split
      · exact .quiet .rfl (Eq.refl _)
      · split
        · exact .quiet .rfl (Eq.refl _)
        · exact (outcome_stateTransition hm hr timestamp queryStatus (some .instanceHeartbeatTimeout)).mono
            InsConditionEvent.noConfusion

theorem outcome_separate (hm : Managed c) (insId : Int) : Outcome True c (c.separateInstance insId) [] := by
  have hforced : ∀ ids, SameActive c { c with forcedSeparatedInstances := ids } := fun _ =>
    ⟨fun _ _ => Iff.rfl, fun _ _ _ => Eq.refl _⟩
  apply separateInstance_rule (P := fun c' => Outcome True c c' [])
  · exact fun _ => .quiet .rfl (Eq.refl _)
  · intro r hr hs
    have hm' : Managed { c with forcedSeparatedInstances := c.forcedSeparatedInstances.insert (c.obj r).id } := hm
    exact .silent r (((oneMore_deactivate hm' hr hs).same (hforced _)).notify_less r _) trivial (Eq.refl _)
  · exact fun r _ _ => .quiet (hforced _) (Eq.refl _)

theorem outcome_recover (insId : Int) : Outcome False c (c.recoverInstance insId) [] := by
  unfold recoverInstance
  split
  · exact .quiet .rfl (Eq.refl _)
  · exact .quiet ⟨fun _ _ => Iff.rfl, fun _ _ _ => Eq.refl _⟩ (Eq.refl _)

theorem outcome_addInstance (hm : Managed c) (timestamp : ℚ) {ins : ManagedInstance} (hs : ins.status ≠ .active) :
    Outcome False c ((c.create ins).addInstance timestamp c.heap.length) [] := by
  refine .quiet ⟨fun id r => ?_, fun id r hat => ?_⟩ (Eq.refl _)
  · unfold ActiveAt
    rw [status_addInstance]
    constructor
    · rintro ⟨hr, hactive⟩
      rcases get?_addInstance hr with hr | ⟨-, rfl⟩
      · rw [obj_create_old (hm hr).1] at hactive
        exact ⟨hr, hactive⟩
      · rw [obj_create_new] at hactive
        exact absurd hactive hs
    · rintro ⟨hr, hactive⟩
      rw [obj_create_old (hm hr).1]
      exact ⟨get?_addInstance_old hr, hactive⟩
  · rw [(form_addInstance timestamp c.heap.length r).role, obj_create_old (hm hat.1).1]

theorem outcome_step (hm : Managed c) (call : ManagerCall) :
    Outcome call.Unreported c (c.step call) (c.alarms call) := by
  cases call with
  | addInstance timestamp ins => exact outcome_addInstance hm timestamp InsStatus.noConfusion
  | heartbeat timestamp insId ip status => exact outcome_heartbeat hm timestamp insId ip status
  | timeout timestamp queryStatus insId => exact outcome_timeout hm timestamp queryStatus insId
  | separate instanceId => exact outcome_separate hm instanceId
  | recover instanceId => exact outcome_recover instanceId

/-! ## The reported alarms -/

theorem both_of_partner {x : ManagedInstance} (hpd : x.role = "prefill" ∨ x.role = "decode") (hx : c.HasActive x.role) :
    ∃ partner, roleToPartner x.role = some partner ∧ (c.HasActive partner ↔ c.BothActive) := by
  unfold BothActive
  rcases hpd with hrole | hrole
  · rw [hrole] at hx ⊢
    exact ⟨"decode", Eq.refl _, by simp [hx]⟩
  · rw [hrole] at hx ⊢
    exact ⟨"prefill", Eq.refl _, by simp [hx]⟩

theorem OneMore.losesRole_iff (h : OneMore c' c r) (hpd : (c.obj r).role = "prefill" ∨ (c.obj r).role = "decode") :
    LosesRole c c' ↔ ¬ c'.HasActive (c.obj r).role := by
  unfold LosesRole
  rw [h.hasActive_iff, h.hasActive_iff]
  rcases hpd with hrole | hrole <;> rw [hrole] <;> simp

theorem OneMore.not_losesRole (h : OneMore c c' r) : ¬ LosesRole c c' := by
  unfold LosesRole
  rw [h.hasActive_iff, h.hasActive_iff]
  tauto

theorem OneMore.not_activates (h : OneMore c' c r) : ¬ Activates c c' := by
  rintro ⟨id, r', hnew, hold⟩
  obtain ⟨_, -, -, hactive⟩ := h.active
  exact hold ((hactive id r').mpr (Or.inl hnew))

theorem Outcome.reported {maySilent : Prop} {alarms : List ControllerAlarm} (h : Outcome maySilent c c' alarms)
    (hpd : OnlyPd c) (hpd' : OnlyPd c') (hsilent : maySilent → ¬ LosesRole c c') :
    (.instanceMissing false ∈ alarms ↔ LosesRole c c') ∧
      (.instanceMissing true ∈ alarms ↔ Activates c c' ∧ c'.BothActive) := by
  cases h with
  | quiet h ha =>
      subst ha
      have hlost : ¬ LosesRole c c' := by
        unfold LosesRole
        rw [h.hasActive_iff, h.hasActive_iff]
        tauto
      simp [hlost, h.not_activates]
  | activated r h ha =>
      subst ha
      obtain ⟨id, hnew, hold, -⟩ := h.active
      obtain ⟨partner, hpartner, hboth⟩ := both_of_partner (hpd' id r hnew.1)
        (hasActive_iff.mpr ⟨id, r, hnew, Eq.refl _⟩)
      have hactivates : Activates c c' := ⟨id, r, hnew, hold⟩
      refine ⟨iff_of_false raised_not_mem_clear h.not_losesRole, ?_⟩
      rw [cleared_mem_clear hpartner, hboth]
      exact (and_iff_right hactivates).symm
  | timedOut r h hrole ha =>
      subst ha
      obtain ⟨id, hat, -, -⟩ := h.active
      refine ⟨?_, iff_of_false cleared_not_mem_report fun hcleared => h.not_activates hcleared.1⟩
      rw [raised_mem_report, hrole, h.losesRole_iff (hpd id r hat.1)]
  | silent r h hs ha =>
      subst ha
      simp [hsilent hs, h.not_activates]

/-! ## Runs -/

/-- What the calls of the manager keep: entries of their ids, with the roles of prefill and decode instances. -/
structure PdManaged (c : Controller) : Prop where
  managed : Managed c
  onlyPd : OnlyPd c

theorem ManagerStep.pdManaged (h : PdManaged c) (hstep : ManagerStep c c') : PdManaged c' where
  managed hr := by
    rw [hstep.length, (hstep.form _).id]
    exact h.managed (hstep.managed hr)
  onlyPd id r hr := by
    rw [(hstep.form r).role]
    exact h.onlyPd id r (hstep.managed hr)

theorem PdManaged.step (h : PdManaged c) {call : ManagerCall} (hcall : call.OnlyPd) : PdManaged (c.step call) := by
  cases call with
  | addInstance timestamp ins =>
      have hobj : ∀ {id r}, ((c.create (ins.updateInstanceStatus .initial)).addInstance timestamp
          c.heap.length).instances.get? id = some r → c.instances.get? id = some r ∨ id = ins.id ∧ r = c.heap.length := by
        intro id r hr
        rcases get?_addInstance hr with hr | ⟨rfl, rfl⟩
        · exact Or.inl hr
        · rw [obj_create_new]
          exact Or.inr ⟨Eq.refl _, Eq.refl _⟩
      constructor
      · intro id r hr
        rw [Controller.step, length_addInstance, (form_addInstance timestamp c.heap.length r).id, length_create]
        rcases hobj hr with hr | ⟨rfl, rfl⟩
        · rw [obj_create_old (h.managed hr).1]
          exact ⟨Nat.lt_succ_of_lt (h.managed hr).1, (h.managed hr).2⟩
        · rw [obj_create_new]
          exact ⟨Nat.lt_succ_self _, Eq.refl _⟩
      · intro id r hr
        rw [Controller.step, (form_addInstance timestamp c.heap.length r).role]
        rcases hobj hr with hr | ⟨rfl, rfl⟩
        · rw [obj_create_old (h.managed hr).1]
          exact h.onlyPd id r hr
        · rw [obj_create_new]
          exact hcall
  | heartbeat timestamp insId ip status => exact (managerStep_handleHeartbeat timestamp insId ip status).pdManaged h
  | timeout timestamp queryStatus insId => exact (managerStep_handleTimeout timestamp queryStatus insId).pdManaged h
  | separate instanceId => exact (managerStep_separateInstance instanceId).pdManaged h
  | recover instanceId => exact (managerStep_recoverInstance instanceId).pdManaged h

theorem PdManaged.reported (h : PdManaged c) {call : ManagerCall} (hcall : call.OnlyPd) : AlarmsReported c call :=
  fun hreported => (outcome_step h.managed call).reported h.onlyPd (h.step hcall).onlyPd fun hsilent hlost =>
    hreported ⟨hsilent, hlost⟩

/-- In every run on prefill and decode instances a missing role is reported, and an activation after which none is
missing is, whether or not it was before. -/
theorem alarms_reported (h : PdManaged c) (calls : List ManagerCall) (hcalls : ∀ call ∈ calls, call.OnlyPd) :
    Along step AlarmsReported c calls :=
  along_of_invariant (fun _ _ hs hcall => hs.step hcall) (fun _ _ hs hcall => hs.reported hcall) h
    (along_of_forall hcalls)

theorem pdManaged_init : PdManaged {} := ⟨fun hr => (nomatch hr), fun _ _ hr => (nomatch hr)⟩

def comesUp (id : Int) (role : String) : List ManagerCall :=
  [.addInstance 0 { id := id, role := role, endpoints := .single "pod" (.single 0 { id := 0 }) },
    .heartbeat 0 id "pod" (.single 0 .normal)]

def silentDecode : List ManagerCall :=
  comesUp 1 "prefill" ++ comesUp 2 "decode" ++ [.timeout 1000 (fun _ => .abnormal) 2]

theorem silentDecode_reported : Along step AlarmsReported {} silentDecode ∧ .instanceMissing false ∈
    (run step {} (comesUp 1 "prefill" ++ comesUp 2 "decode")).alarms (.timeout 1000 (fun _ => .abnormal) 2) := by
  refine ⟨alarms_reported pdManaged_init silentDecode fun call hcall => ?_, by decide +kernel⟩
  simp only [silentDecode, comesUp, List.cons_append, List.nil_append, List.mem_cons, List.not_mem_nil] at hcall
  rcases hcall with rfl | rfl | rfl | rfl | rfl | h <;> simp_all [ManagerCall.OnlyPd]

def separatedDecode : List ManagerCall := comesUp 1 "prefill" ++ comesUp 2 "decode" ++ [.separate 2]

/-- A second prefill instance becomes active, which clears an alarm that is not raised; and the separation of the only
decode instance raises none. -/
theorem secondPrefill_not_paired :
    ¬ Along step AlarmsPaired {} (comesUp 1 "prefill" ++ comesUp 2 "decode" ++ comesUp 3 "prefill") ∧
      ¬ Along step AlarmsPaired {} separatedDecode := by
  constructor
  · intro h
    have hlast := (along_append.mp h).2.2.1
    exact absurd (hlast.cleared.mp (by decide)).2 (by decide)
  · intro h
    have hlast := (along_append.mp h).2.1
    exact absurd (hlast.raised.mpr (by decide)) (by decide)

end Controller

end PyMotor
