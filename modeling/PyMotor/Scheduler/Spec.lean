import Mathlib.Data.Set.Defs
import PyMotor.Pool.InstanceManager
import PyMotor.Scheduler.Requests
import PyMotor.Scheduler.Server

/-!
# What the scheduler is for

A refresh is all or nothing and is announced: either nothing happens, or the pools change, a new snapshot
is written and its version is published. A reader of the shared memory finds one entry for every available
endpoint, with its present workload, and the slot map knows where. The instance version counts changes of the
instance set: a worker that finds a new version fetches the instances again.
-/

namespace PyMotor

open Lib

/-! ## Refresh -/

/-- The ids of an instance and of its endpoints fit the fields of the shared memory. -/
def Instance.FitsShm (x : Instance) : Prop := FitsInt32 x.id ∧ ∀ ep ∈ x.endpointList, FitsInt32 ep.id

instance (x : Instance) : Decidable x.FitsShm := inferInstanceAs (Decidable (_ ∧ _))

namespace SchedulerServer

/-- The buffer holds the entries of the pools under a new version, and the version is published. -/
structure Announced (s s' : SchedulerServer) : Prop where
  version : s'.workloadWriter.instanceVersion = s.workloadWriter.instanceVersion + 1
  header : s'.workloadWriter.bufHeader.instanceVersion = s'.workloadWriter.instanceVersion % 2 ^ 64 ∧
    s'.workloadWriter.bufHeader.entryCount =
      (s'.instanceManager.workloadEntries.take s'.workloadWriter.maxEntries).length
  entries : ∀ slot entry,
    (s'.instanceManager.workloadEntries.take s'.workloadWriter.maxEntries)[slot]? = some entry →
      s'.workloadWriter.bufEntries.get? slot = some entry
  published : s'.published = s.published ++ [s'.workloadWriter.instanceVersion]

/-- Nothing happens, or the pools change and the change is announced; and `refresh_instances` returns
`True` exactly when a pool changes. -/
def RefreshAllOrNothing (s : SchedulerServer) (request : RefreshInstancesRequest) : Prop :=
  ((s.instanceManager.SamePools (s.handleRefreshInstances request).2.instanceManager ∧
      (s.handleRefreshInstances request).2.workloadWriter = s.workloadWriter ∧
      (s.handleRefreshInstances request).2.published = s.published) ∨
    (¬ s.instanceManager.SamePools (s.handleRefreshInstances request).2.instanceManager ∧
      (∃ n, (s.handleRefreshInstances request).1 = .ok (.refreshed n true)) ∧
      s.Announced (s.handleRefreshInstances request).2)) ∧
  ∀ event, EventType.ofString? request.eventType = some event →
    ((s.instanceManager.refresh event request.instances).1 = .ok true ↔
      ¬ s.instanceManager.SamePools (s.instanceManager.refresh event request.instances).2)

/-- The ids that the snapshot after a refresh is to pack, in the order of the slots. -/
def intendedKeys (m : InstanceManager) (event : EventType) (instances : List Instance) : List (Int × Int) :=
  [PDRole.roleP, .roleD, .roleU].flatMap fun role =>
    (m.intended event instances role).flatMap fun x => x.endpointList.map fun ep => (x.id, ep.id)

/-- What the snapshot after a refresh is to pack fits its fields: the write counter, and the ids of the entries for which
there is space. -/
structure SnapshotFits (s : SchedulerServer) (event : EventType) (instances : List Instance) : Prop where
  sequence : s.workloadWriter.sequence + 1 < 2 ^ 63
  maxEntries : s.workloadWriter.maxEntries < 2 ^ 32
  entries : ∀ key ∈ (intendedKeys s.instanceManager event instances).take s.workloadWriter.maxEntries,
    FitsInt32 key.1 ∧ FitsInt32 key.2

/-- A role that is not a `PDRole` value is met only before the first change, SET with a new id enters one, and what is left
in the pools can be packed. -/
def RefreshSound (s : SchedulerServer) (request : RefreshInstancesRequest) : Prop :=
  ∀ event, EventType.ofString? request.eventType = some event →
    (s.instanceManager.Invalid event request.instances → ¬ s.instanceManager.Changes event request.instances) ∧
    (¬ s.instanceManager.Invalid event request.instances → s.instanceManager.Announces event request.instances →
      s.instanceManager.Changes event request.instances ∧ s.SnapshotFits event request.instances)

/-- What a workload change writes to the shared memory fits its fields. -/
structure WriteFits (s : SchedulerServer) : Prop where
  sequence : s.workloadWriter.sequence + 1 < 2 ^ 63
  maxEntries : s.workloadWriter.maxEntries < 2 ^ 32
  entryCount : s.workloadWriter.entryCount < 2 ^ 32
  rolePool : ∀ role, ∀ r ∈ (s.instanceManager.rolePool role).values, (s.instanceManager.obj r).FitsShm

end SchedulerServer

/-- The workload on the endpoints of the available instances. -/
def InstanceManager.totalWorkload (m : InstanceManager) : Workload :=
  (m.availablePool.values.map fun r => ((m.obj r).endpointList.map Endpoint.workload).sum).sum

/-! ## The shared memory -/

/-- The pair that the slot map is keyed by. -/
def WorkloadShmEntry.key (entry : WorkloadShmEntry) : Int × Int := (entry.instanceId, entry.endpointId)

/-- The entry of an endpoint. -/
def shmEntry (id : Int) (role : PDRole) (ep : Endpoint) : WorkloadShmEntry :=
  { instanceId := id
    endpointId := ep.id
    role := pdroleToShmRole role
    activeTokens := ep.workload.activeTokens
    activeKvCache := ep.workload.activeKvCache }

namespace InstanceManager

/-- The entry is that of an available endpoint, with its present workload. -/
def Publishes (m : InstanceManager) (entry : WorkloadShmEntry) : Prop :=
  ∃ id r role, m.availablePool.get? id = some r ∧ PDRole.ofString? (m.obj r).role = some role ∧
    ∃ ep ∈ (m.obj r).endpointList, entry = shmEntry id role ep

/-- The endpoints of the available instances. -/
def availableEndpoints (m : InstanceManager) : List Endpoint :=
  m.availablePool.values.flatMap fun r => (m.obj r).endpointList

end InstanceManager

namespace SchedulerServer

/-- The segment mirrors the available endpoints. -/
structure Mirrored (s : SchedulerServer) : Prop where
  accepted : s.workloadWriter.bufHeader.sequence ≠ 0 ∧
    s.workloadWriter.bufHeader.entryCount ≤ s.workloadWriter.bufHeader.maxEntries
  entries : ∀ entry, entry ∈ s.workloadWriter.unpackEntries ↔ s.instanceManager.Publishes entry
  nodup : (s.workloadWriter.unpackEntries.map WorkloadShmEntry.key).Nodup
  slots : ∀ entry, s.instanceManager.Publishes entry → ∃ slot < s.workloadWriter.bufHeader.entryCount,
    s.workloadWriter.slotMap.get? entry.key = some slot ∧ s.workloadWriter.unpackEntry slot = entry

/-- An instance with the role that its id has for good, distinct endpoint ids, and ids that fit the fields. -/
def Admissible (roleOf : Int → PDRole) (x : Instance) : Prop :=
  PDRole.ofString? x.role = some (roleOf x.id) ∧ x.UniqueEndpoints ∧ x.FitsShm

instance (roleOf : Int → PDRole) (x : Instance) : Decidable (Admissible roleOf x) :=
  inferInstanceAs (Decidable (_ ∧ _ ∧ _))

/-- A refresh lists admissible instances only; a DEL is looked at for its ids only. -/
def ListsAdmissible (roleOf : Int → PDRole) : SchedulerRequest → Prop
  | .refreshInstances data => EventType.ofString? data.eventType ≠ some .del →
      ∀ x ∈ data.instances, Admissible roleOf x
  | _ => True

instance (roleOf : Int → PDRole) (request : SchedulerRequest) : Decidable (ListsAdmissible roleOf request) :=
  match request with
  | .refreshInstances data => inferInstanceAs (Decidable (EventType.ofString? data.eventType ≠ some .del →
      ∀ x ∈ data.instances, Admissible roleOf x))
  | .allocateOnly _ => inferInstanceAs (Decidable True)
  | .updateWorkload _ => inferInstanceAs (Decidable True)

/-- The request is admissible and leaves at most as many available endpoints as there are slots. -/
def Fitting (roleOf : Int → PDRole) (s : SchedulerServer) (request : SchedulerRequest) : Prop :=
  ListsAdmissible roleOf request ∧
    (s.handle request).instanceManager.availableEndpoints.length ≤ s.workloadWriter.maxEntries

instance (roleOf : Int → PDRole) (s : SchedulerServer) (request : SchedulerRequest) :
    Decidable (s.Fitting roleOf request) := inferInstanceAs (Decidable (_ ∧ _))

end SchedulerServer

/-! ## The instance version -/

def Instance.endpointIds (x : Instance) : List Int := x.endpointList.map Endpoint.id

namespace InstanceManager

/-- The pairs of an available instance and an endpoint of it. -/
def availablePairs (m : InstanceManager) : Set (Int × Int) :=
  { p | ∃ r, m.availablePool.get? p.1 = some r ∧ p.2 ∈ (m.obj r).endpointIds }

/-- The available instance of the id has an endpoint. -/
def HasEndpoints (m : InstanceManager) (id : Int) : Prop :=
  ∃ r, m.availablePool.get? id = some r ∧ (m.obj r).endpointIds ≠ []

/-- An unknown id is listed, first with an instance that has an endpoint. -/
def EntersPairs (m : InstanceManager) (instances : List Instance) : Prop :=
  ∃ x, x.id ∉ m.currentIds ∧ instances.find? (fun y => y.id = x.id) = some x ∧ x.endpointIds ≠ []

/-- An instance with an endpoint comes or goes. -/
def MovesPairs (m : InstanceManager) (event : EventType) (instances : List Instance) : Prop :=
  match event with
  | .add => m.EntersPairs instances
  | .del => ∃ x ∈ instances, m.HasEndpoints x.id
  | .set => (∃ id ∉ instances.map Instance.id, m.HasEndpoints id) ∨ m.EntersPairs instances

end InstanceManager

namespace SchedulerServer

/-- The version goes up exactly when the set of available pairs changes. -/
def CountsPairs (s : SchedulerServer) (request : SchedulerRequest) : Prop :=
  s.workloadWriter.instanceVersion < (s.handle request).workloadWriter.instanceVersion ↔
    (s.handle request).instanceManager.availablePairs ≠ s.instanceManager.availablePairs

/-- The pair whose entry a workload request writes, when it passes the checks before the write. -/
def writtenPair (s : SchedulerServer) : SchedulerRequest → Option (Int × Int)
  | .refreshInstances _ => none
  | .allocateOnly data =>
      match data.instanceId, data.endpointId, data.workload with
      | some iid, some eid, some _ => if s.instanceManager.hasInstanceEndpoint iid eid then some (iid, eid) else none
      | _, _, _ => none
  | .updateWorkload data =>
      match data.instanceId, data.endpointId, data.workloadChange with
      | some iid, some eid, some _ =>
          if (WorkloadAction.ofString? data.workloadAction).isSome ∧
              (data.role = "" ∨ PDRole.ofString? data.role ≠ none) then
            some (iid, eid)
          else none
      | _, _, _ => none

/-- A refresh meets no invalid role and no second role of an id, lists ids that fit, and changes the pools only by
instances with endpoints; a workload request is for a pair that has a slot. -/
def VersionSound (s : SchedulerServer) : SchedulerRequest → Prop
  | .refreshInstances data => ∀ event, EventType.ofString? data.eventType = some event →
      ¬ s.instanceManager.Invalid event data.instances ∧
      s.instanceManager.RoleKept (.refresh event data.instances) ∧
      (event ≠ .del → ∀ x ∈ data.instances, x.FitsShm) ∧
      (s.instanceManager.Changes event data.instances → s.instanceManager.MovesPairs event data.instances)
  | request => ∀ p, s.writtenPair request = some p → s.workloadWriter.slotMap.contains p = true

end SchedulerServer

end PyMotor
