import PyMotor.Worker.Lemmas.Mirror
import PyMotor.Worker.Lemmas.Versions

/-!
# The worker cache

The indexes are sound in every run in which no list is replaced while one of its ids is cached under another
role. A fetch makes the cached lists those of the server exactly when the answer is not empty, or there was
nothing to forget, and no id is available under two roles. The recorded version and the cached list stay
coherent as long as every fetch that records a version is answered. The shared memory mirrors the available
endpoints after every request, and a cache with the scheduler's list takes its workloads over.
-/

/-!
## Coherence along a run

Every version the worker may record was reached before the fetch that goes with it was answered, so the answer
brings a list that is not older.
-/

namespace PyMotor.WorkerSystem

open Lib SchedulerInstanceCache

variable {s s' : WorkerSystem}

/-! ## The invariant -/

/-- A waiting fetch: the version to record is reached, and an answer is not older than it. -/
structure FetchInv (s : WorkerSystem) (f : Fetch) : Prop where
  full : f.record ≠ none → f.role = none
  reached : ∀ v ∈ f.record, v ≤ s.version
  answered : ∀ a ∈ f.answer, (a.version, a.pools) ∈ s.history ∧ (∀ v ∈ f.record, v ≤ a.version) ∧
    a.data = a.pools.handleGetAvailableInstances f.role (some workloadShmName)

/-- The list of a role without its workloads. -/
def idleList (m : InstanceManager) (role : PDRole) : List Instance :=
  (m.sortedInstances role).map Instance.initWorkload

/-- The counts stand for lists: of the scheduler, of the answers on their way, and of what the worker was told. -/
structure ListsInv (s : WorkerSystem) (lists : PDRole → Nat → List Instance) : Prop where
  current : ∀ role, idleList s.server.instanceManager role = lists role (s.changes role)
  answers : ∀ f ∈ s.fetches, ∀ a ∈ f.answer, ∀ role, a.changes role ≤ s.changes role ∧
    idleList a.pools role = lists role (a.changes role)
  told : ∀ role, ∀ n ∈ s.told role, n ≤ s.changes role ∧
    (s.client.cache.getInstances role).map Instance.initWorkload = lists role n

structure CoherenceInv (s : WorkerSystem) : Prop where
  current : (s.version, s.server.instanceManager) ∈ s.history
  past : ∀ e ∈ s.history, e.1 ≤ s.version ∧ e.2.Inv
  header : s.server.workloadWriter.bufHeader.instanceVersion ≤ s.version
  published : ∀ v ∈ s.server.published, v ≤ s.version
  notifications : ∀ v ∈ s.notifications, v ≤ s.version
  fetches : ∀ f ∈ s.fetches, FetchInv s f
  valid : Valid s.client.cache
  lists : ∃ lists, ListsInv s lists
  coherent : s.Coherent

theorem coherenceInv_start (policy : SchedulerType) (maxEntries : Nat) : CoherenceInv (start policy maxEntries) where
  current := List.mem_singleton.mpr rfl
  past e he := by
    rw [List.mem_singleton.mp he]
    exact ⟨le_rfl, InstanceManager.inv_init⟩
  header := (WorkloadSharedMemoryWriter.follows_writeSnapshot { maxEntries := maxEntries } {}).header le_rfl
  published v hv := by cases hv
  notifications v hv := by cases hv
  fetches f hf := by cases hf
  valid _ _ hr := by cases hr
  lists := ⟨fun role _ => idleList {} role, fun _ => rfl, fun _ hf => (nomatch hf), fun _ _ hn => (nomatch hn)⟩
  coherent v hv := by cases hv

theorem FetchInv.mono {f : Fetch} (h : FetchInv s f) (hv : s.version ≤ s'.version)
    (hh : ∀ e ∈ s.history, e ∈ s'.history) : FetchInv s' f where
  full := h.full
  reached v hf := (h.reached v hf).trans hv
  answered a ha := by
    obtain ⟨hm, hr, hd⟩ := h.answered a ha
    exact ⟨hh _ hm, hr, hd⟩

theorem Coherent.mono (h : s.Coherent) (hc : s'.client = s.client) (hh : ∀ e ∈ s.history, e ∈ s'.history) :
    s'.Coherent := by
  intro v hv
  rw [hc] at hv ⊢
  obtain ⟨w, m, hle, hm, hholds⟩ := h v hv
  exact ⟨w, m, hle, hh _ hm, hholds⟩

theorem fetchInv_versionFetch {record : Option Nat} (h : ∀ v ∈ record, v ≤ s.version) :
    ∀ f ∈ versionFetch record, FetchInv s f := by
  intro f hf
  cases record with
  | none => cases hf
  | some version =>
      rw [versionFetch, List.mem_singleton] at hf
      subst hf
      exact ⟨fun _ => rfl, h, fun a ha => by cases ha⟩

theorem ListsInv.holds {lists : PDRole → Nat → List Instance} (h : ListsInv s lists) (hu : s.UpToDate) :
    Holds s.client.cache s.server.instanceManager := by
  intro role
  exact (h.told role _ (hu role)).2.trans (h.current role).symm

theorem ListsInv.of_client {lists : PDRole → Nat → List Instance} (h : ListsInv s lists) {client : AsyncSchedulerClient}
    {fetches : List Fetch} (hlist : SameList s.client.cache client.cache)
    (hf : ∀ f ∈ fetches, f ∈ s.fetches ∨ f.answer = none) :
    ListsInv { s with client := client, fetches := fetches } lists where
  current := h.current
  answers f hm a ha := by
    rcases hf f hm with hold | hnone
    · exact h.answers f hold a ha
    · rw [hnone] at ha
      cases ha
  told role n hn := by
    obtain ⟨hle, heq⟩ := h.told role n hn
    exact ⟨hle, (hlist.list role).trans heq⟩

theorem CoherenceInv.of_client (h : CoherenceInv s) (client : AsyncSchedulerClient) {fetches : List Fetch}
    {told : PDRole → Option Nat} (hf : ∀ f ∈ fetches, FetchInv s f) (hvalid : Valid client.cache)
    (hlists : ∃ lists, ListsInv { s with client := client, fetches := fetches, told := told } lists)
    (hcoherent : Coherent { s with client := client, fetches := fetches, told := told }) :
    CoherenceInv { s with client := client, fetches := fetches, told := told } where
  current := h.current
  past := h.past
  header := h.header
  published := h.published
  notifications := h.notifications
  fetches f hm := (hf f hm).mono le_rfl fun _ he => he
  valid := hvalid
  lists := hlists
  coherent := hcoherent

/-! ## The scheduler -/

theorem ListsInv.request {lists : PDRole → Nat → List Instance} (h : ListsInv s lists) (request : SchedulerRequest) :
    ∃ lists', ListsInv (s.step (.request request)) lists' := by
  refine ⟨fun role n => if n ≤ s.changes role then lists role n else
    idleList (s.server.handle request).instanceManager role, ?_, ?_, ?_⟩
  · intro role
    have hstep : (s.step (.request request)).changes role =
        if ListChanges s.server.instanceManager (s.server.handle request).instanceManager role then s.changes role + 1
        else s.changes role := rfl
    by_cases hc : ListChanges s.server.instanceManager (s.server.handle request).instanceManager role
    · rw [if_pos hc] at hstep
      simp only [hstep, Nat.not_succ_le_self, if_false]
      rfl
    · rw [if_neg hc] at hstep
      simp only [hstep, le_refl, if_true, ← h.current role]
      exact not_not.mp hc
  · intro f hf a ha role
    obtain ⟨hle, heq⟩ := h.answers f hf a ha role
    refine ⟨hle.trans ?_, by rw [if_pos hle]; exact heq⟩
    simp only [WorkerSystem.step]
    split
    · exact Nat.le_succ _
    · exact le_rfl
  · intro role n hn
    obtain ⟨hle, heq⟩ := h.told role n hn
    refine ⟨hle.trans ?_, by rw [if_pos hle]; exact heq⟩
    simp only [WorkerSystem.step]
    split
    · exact Nat.le_succ _
    · exact le_rfl

theorem CoherenceInv.request (h : CoherenceInv s) (request : SchedulerRequest) :
    CoherenceInv (s.step (.request request)) := by
  have hi : s.server.instanceManager.Inv := (h.past _ h.current).2
  obtain ⟨hfollows, hpublished⟩ := SchedulerServer.follows_handle hi request
  have hle : s.version ≤ (s.server.handle request).workloadWriter.instanceVersion := hfollows.version
  have hpub : ∀ v ∈ (s.server.handle request).published,
      v ≤ (s.server.handle request).workloadWriter.instanceVersion := fun v hv =>
    (hpublished v hv).elim (fun hold => (h.published v hold).trans hle) id
  constructor
  · exact List.mem_cons_self ..
  · intro e he
    rcases List.mem_cons.mp he with rfl | he
    · exact ⟨le_rfl, SchedulerServer.inv_handle hi request⟩
    · exact ⟨(h.past e he).1.trans hle, (h.past e he).2⟩
  · exact hfollows.header h.header
  · exact hpub
  · intro v hv
    rcases List.mem_append.mp hv with hv | hv
    · exact (h.notifications v hv).trans hle
    · exact hpub v (List.mem_of_mem_drop hv)
  · intro f hf
    exact (h.fetches f hf).mono hle fun e he => List.mem_cons_of_mem _ he
  · exact h.valid
  · obtain ⟨lists, hl⟩ := h.lists
    exact hl.request request
  · exact h.coherent.mono rfl fun e he => List.mem_cons_of_mem _ he

theorem CoherenceInv.heartbeat (h : CoherenceInv s) : CoherenceInv (s.step .heartbeat) where
  current := h.current
  past := h.past
  header := h.header
  published := h.published
  notifications := h.notifications
  fetches f hf := (h.fetches f hf).mono le_rfl fun _ he => he
  valid := h.valid
  lists := h.lists.imp fun _ hl => ⟨hl.current, hl.answers, hl.told⟩
  coherent := h.coherent

theorem CoherenceInv.serve (h : CoherenceInv s) (i : Nat) : CoherenceInv (s.step (.serve i)) := by
  refine h.of_client s.client ?_ h.valid ?_ h.coherent
  · intro f hf
    rcases mem_serve hf with hold | ⟨f', hf', rfl⟩
    · exact h.fetches f hold
    · have hinv := h.fetches f' hf'
      refine ⟨hinv.full, hinv.reached, fun a ha => ?_⟩
      cases ha
      exact ⟨h.current, hinv.reached, rfl⟩
  · refine h.lists.imp fun lists hl => ⟨hl.current, fun f hf a ha role => ?_, hl.told⟩
    rcases mem_serve hf with hold | ⟨f', hf', rfl⟩
    · exact hl.answers f hold a ha role
    · cases ha
      exact ⟨le_rfl, hl.current role⟩

/-! ## The worker -/

theorem CoherenceInv.notify (h : CoherenceInv s) : CoherenceInv (s.step .notify) := by
  simp only [WorkerSystem.step]
  cases hn : s.notifications with
  | nil => exact h
  | cons version rest =>
      have hnotifications : ∀ v ∈ version :: rest, v ≤ s.version := hn ▸ h.notifications
      refine ⟨h.current, h.past, h.header, h.published, fun v hv => hnotifications v (List.mem_cons_of_mem _ hv), ?_,
        h.valid, ?_, h.coherent⟩
      · intro f hf
        rcases List.mem_append.mp hf with hf | hf
        · exact (h.fetches f hf).mono le_rfl fun _ he => he
        · refine (fetchInv_versionFetch (s := s) ?_ f hf).mono le_rfl fun _ he => he
          intro v hv
          unfold AsyncSchedulerClient.onInstanceChangeNotify at hv
          split at hv
          · cases hv
          · cases hv
            exact hnotifications version (List.mem_cons_self ..)
      · refine h.lists.imp fun lists hl => ⟨hl.current, fun f hf a ha => ?_, hl.told⟩
        rcases List.mem_append.mp hf with hf | hf
        · exact hl.answers f hf a ha
        · rw [answer_versionFetch f hf] at ha
          cases ha

theorem CoherenceInv.lose (h : CoherenceInv s) : CoherenceInv (s.step .lose) where
  current := h.current
  past := h.past
  header := h.header
  published := h.published
  notifications v hv := h.notifications v (List.mem_of_mem_tail hv)
  fetches f hf := (h.fetches f hf).mono le_rfl fun _ he => he
  valid := h.valid
  lists := h.lists.imp fun _ hl => ⟨hl.current, hl.answers, hl.told⟩
  coherent := h.coherent

theorem CoherenceInv.select (h : CoherenceInv s) (now : ℚ) (hs : s.Sound (.select now)) :
    CoherenceInv (s.step (.select now)) := by
  obtain ⟨hrecord, hlist, hlast⟩ := AsyncSchedulerClient.checkVersion_spec s.client s.server.workloadWriter now
  obtain ⟨lists, hl⟩ := h.lists
  simp only [WorkerSystem.step]
  rcases hcheck : s.client.checkVersion s.server.workloadWriter now with ⟨record, client⟩
  rw [hcheck] at hrecord hlist hlast
  refine h.of_client client ?_ (hlist.valid h.valid) ⟨lists, hl.of_client hlist ?_⟩ ?_
  · intro f hf
    rcases List.mem_append.mp hf with hf | hf
    · exact h.fetches f hf
    · exact fetchInv_versionFetch (fun v hv => (hrecord v hv).trans_le h.header) f hf
  · intro f hf
    exact (List.mem_append.mp hf).imp_right (answer_versionFetch f)
  · intro v hv
    rcases hlast with hsame | ⟨hnone, ⟨reader, c, _, hreader, hread⟩, hadopt⟩
    · obtain ⟨w, m, hle, hm, hholds⟩ := h.coherent v (hsame ▸ hv)
      exact ⟨w, m, hle, hm, hlist.holds.mpr hholds⟩
    · have heq : v = s.server.workloadWriter.bufHeader.instanceVersion :=
        (Option.some.inj (hadopt.symm.trans hv)).symm
      obtain ⟨hseq, hcount, hfresh⟩ := AsyncSchedulerClient.fresh_of_readAndPatchCache hread
      have hu : s.UpToDate := hs ⟨hnone, hseq, hcount, reader, hreader, hfresh⟩
      exact ⟨s.version, s.server.instanceManager, heq.trans_le h.header, h.current, hlist.holds.mpr (hl.holds hu)⟩

theorem CoherenceInv.fetch (h : CoherenceInv s) (role : Option PDRole) : CoherenceInv (s.step (.fetch role)) := by
  obtain ⟨lists, hl⟩ := h.lists
  refine h.of_client s.client ?_ h.valid ⟨lists, hl.of_client (SameList.refl _) ?_⟩ h.coherent
  · intro f hf
    rcases List.mem_append.mp hf with hf | hf
    · exact h.fetches f hf
    · rw [List.mem_singleton.mp hf]
      exact ⟨fun hr => absurd rfl hr, fun v hv => (nomatch hv), fun a ha => (nomatch ha)⟩
  · intro f hf
    refine (List.mem_append.mp hf).imp_right fun hf => ?_
    rw [List.mem_singleton.mp hf]

theorem CoherenceInv.giveUp (h : CoherenceInv s) (i : Nat) (hs : s.Sound (.giveUp i)) :
    CoherenceInv (s.step (.giveUp i)) := by
  obtain ⟨lists, hl⟩ := h.lists
  simp only [WorkerSystem.step]
  cases hi : s.fetches[i]? with
  | none => exact h
  | some f =>
      have hrest : ∀ f' ∈ s.fetches.eraseIdx i, f' ∈ s.fetches := fun _ => List.mem_of_mem_eraseIdx
      refine h.of_client _ (fun f hf => h.fetches f (hrest f hf)) ?_
        ⟨lists, hl.of_client ?_ fun f hf => Or.inl (hrest f hf)⟩ ?_
      · simpa [AsyncSchedulerClient.getAvailableInstances] using h.valid
      · simpa [AsyncSchedulerClient.getAvailableInstances] using SameList.refl s.client.cache
      · intro v hv
        cases hr : f.record with
        | none =>
            rw [hr] at hv
            exact h.coherent v hv
        | some recorded =>
            rw [hr] at hv
            obtain rfl : recorded = v := Option.some.inj hv
            have hu : s.UpToDate := hs f hi (by rw [hr]; simp)
            have hreached := (h.fetches f (List.mem_of_getElem? hi)).reached recorded hr
            refine ⟨s.version, s.server.instanceManager, hreached, h.current, ?_⟩
            simpa [AsyncSchedulerClient.getAvailableInstances] using hl.holds hu

/-! ## An answer -/

theorem lastInstanceVersion_attachReader (client : AsyncSchedulerClient) (shmName : Option String) (attaches : Bool)
    {v : Nat} (h : (client.attachReader shmName attaches).lastInstanceVersion = some v) :
    client.lastInstanceVersion = some v := by
  unfold AsyncSchedulerClient.attachReader at h
  split at h
  · exact h
  · split at h
    · exact h
    · split at h
      · cases h
      · exact h

theorem holds_of_refines {m : InstanceManager} {c c' : SchedulerInstanceCache} (h : Refines m c c' none) :
    Holds c' m := fun role => congrArg (List.map Instance.initWorkload) (h role)

theorem holds_of_refines_some {m : InstanceManager} {c c' : SchedulerInstanceCache} {role : PDRole}
    (h : Refines m c c' (some role)) (hothers : ∀ role' ≠ role, HoldsRole c m role') : Holds c' m := by
  intro role'
  by_cases he : role' = role
  · subst he
    exact congrArg (List.map Instance.initWorkload) h.1
  · unfold HoldsRole
    rw [h.2 role' he]
    exact hothers role' he

theorem getInstances_hear (hc : Valid s.client.cache) {f : Fetch} {a : Answer} (hi : a.pools.Inv)
    (hdata : a.data = a.pools.handleGetAvailableInstances f.role (some workloadShmName)) (role : PDRole) {n : Nat}
    (h : s.hear f a role = some n) :
    s.told role = some n ∧
      (s.client.cache.storeInstances f.role a.data.instances).getInstances role = s.client.cache.getInstances role ∨
    n = a.changes role ∧
      (s.client.cache.storeInstances f.role a.data.instances).getInstances role = a.pools.sortedInstances role := by
  unfold hear at h
  split at h
  · rename_i hkept
    refine Or.inl ⟨h, ?_⟩
    rcases hkept with ⟨hasked, hother⟩ | ⟨hempty, -⟩
    · obtain ⟨asked, hrole⟩ := Option.ne_none_iff_exists'.mp hasked
      rw [hrole] at hdata hother ⊢
      by_cases hempty : a.data.instances = []
      · rw [hempty, getInstances_storeInstances_empty hc]
      · rw [getInstances_storeInstances_some hc (hdata ▸ hi.nodup_answer _ _) hempty, if_neg]
        exact fun he => hother (by rw [he])
    · rw [hempty, getInstances_storeInstances_empty hc]
  · rename_i hkept
    split at h
    · cases h
    · rename_i happart
      refine Or.inr ⟨(Option.some.inj h).symm, ?_⟩
      rw [not_or, not_and, not_and, not_not, not_not] at hkept
      by_cases hempty : a.data.instances = []
      · -- The worker knows no instance of the role, and there is none.
        have hnone := getInstances_eq_nil.mpr (hkept.2 hempty)
        rw [hempty, getInstances_storeInstances_empty hc, hnone]
        refine (sortedInstances_nil ?_).symm
        rw [hdata] at hempty
        cases hrole : f.role with
        | none =>
            rw [hrole] at hempty
            exact (answer_eq_nil_iff _).mp hempty role
        | some asked =>
            rw [hrole] at hempty hkept
            obtain rfl : asked = role := Option.some.inj (hkept.1 (by simp))
            simpa [InstanceManager.handleGetAvailableInstances, InstanceManager.getAvailableInstances] using hempty
      · rw [hdata] at hempty ⊢
        cases hrole : f.role with
        | none =>
            rw [hrole] at hempty happart
            have hapart : a.pools.Apart := by simpa using happart
            have hsome : ∃ role, (a.pools.rolePool role).values ≠ [] := by
              by_contra hall
              exact hempty ((answer_eq_nil_iff _).mpr fun role => not_not.mp fun hne => hall ⟨role, hne⟩)
            exact (refines_none_iff hc hi _).mpr ⟨hapart, Or.inl hsome⟩ role
        | some asked =>
            rw [hrole] at hempty hkept
            obtain rfl : asked = role := Option.some.inj (hkept.1 (by simp))
            refine ((refines_some_iff hc hi asked _).mpr (Or.inl ?_)).1
            simpa [InstanceManager.handleGetAvailableInstances, InstanceManager.getAvailableInstances] using hempty

theorem CoherenceInv.answer_unrecorded (h : CoherenceInv s) {role : Option PDRole} {a : Answer}
    (hm : (a.version, a.pools) ∈ s.history)
    (hdata : a.data = a.pools.handleGetAvailableInstances role (some workloadShmName))
    (hlists : ∀ role', s.told role' = some (a.changes role') → HoldsRole s.client.cache a.pools role') {v : Nat}
    (hv : s.client.lastInstanceVersion = some v) (hs : a.data.instances ≠ [] → s.Current role a v) :
    ∃ w m, v ≤ w ∧ (w, m) ∈ s.history ∧ Holds (s.client.cache.storeInstances role a.data.instances) m := by
  by_cases hempty : a.data.instances = []
  · obtain ⟨w, m, hle, hm, hholds⟩ := h.coherent v hv
    refine ⟨w, m, hle, hm, fun role' => ?_⟩
    unfold HoldsRole
    rw [hempty, getInstances_storeInstances_empty h.valid]
    exact hholds role'
  · obtain ⟨hle, hsound, hothers⟩ := hs hempty
    refine ⟨a.version, a.pools, hle, hm, ?_⟩
    have hi := (h.past _ hm).2
    rw [hdata]
    cases role with
    | none => exact holds_of_refines ((refines_none_iff h.valid hi _).mpr hsound)
    | some role =>
        exact holds_of_refines_some ((refines_some_iff h.valid hi role _).mpr hsound)
          fun role' hne => hlists role' (hothers role rfl role' hne)

/-- What it holds after one with which a version is recorded. -/
theorem CoherenceInv.answer_recorded (h : CoherenceInv s) {a : Answer} (hm : (a.version, a.pools) ∈ s.history)
    (hdata : a.data = a.pools.handleGetAvailableInstances none (some workloadShmName)) {v : Nat}
    (hanswer : v ≤ a.version) (hreached : v ≤ s.version)
    (hs : FetchSound a.pools s.client.cache none ∨ a.data.instances = [] ∧ s.UpToDate) :
    ∃ w m, v ≤ w ∧ (w, m) ∈ s.history ∧ Holds (s.client.cache.storeInstances none a.data.instances) m := by
  rcases hs with hsound | ⟨hempty, hu⟩
  · refine ⟨a.version, a.pools, hanswer, hm, ?_⟩
    rw [hdata]
    exact holds_of_refines ((refines_none_iff h.valid (h.past _ hm).2 _).mpr hsound)
  · obtain ⟨lists, hl⟩ := h.lists
    refine ⟨s.version, s.server.instanceManager, hreached, h.current, fun role => ?_⟩
    unfold HoldsRole
    rw [hempty, getInstances_storeInstances_empty h.valid]
    exact hl.holds hu role

theorem CoherenceInv.deliver (h : CoherenceInv s) (i : Nat) (attaches : Bool) (hs : s.Sound (.deliver i attaches)) :
    CoherenceInv (s.step (.deliver i attaches)) := by
  obtain ⟨lists, hl⟩ := h.lists
  simp only [WorkerSystem.step]
  cases hi : s.fetches[i]? with
  | none => exact h
  | some f =>
      dsimp only
      cases ha : f.answer with
      | none => exact h
      | some a =>
          have hmem := List.mem_of_getElem? hi
          have hf := h.fetches f hmem
          obtain ⟨hm, hrecord, hdata⟩ := hf.answered a ha
          obtain ⟨hrec, hunrec⟩ := hs f hi a ha
          have hanswer := hl.answers f hmem a ha
          have hrest : ∀ f' ∈ s.fetches.eraseIdx i, f' ∈ s.fetches := fun _ => List.mem_of_mem_eraseIdx
          have hcache : ((s.client.getAvailableInstances f.role attaches (some (.ok a.data))).recordVersion
              f.record).cache = s.client.cache.storeInstances f.role a.data.instances := by
            simp [AsyncSchedulerClient.getAvailableInstances]
          refine h.of_client _ (fun f hf => h.fetches f (hrest f hf)) ?_ ⟨lists, hl.current, ?_, ?_⟩ ?_
          · rw [hcache]
            exact h.valid.storeInstances f.role _
          · exact fun f' hf' => hl.answers f' (hrest f' hf')
          · intro role n hn
            dsimp only
            rw [hcache]
            rcases getInstances_hear h.valid (h.past _ hm).2 hdata role hn with ⟨htold, heq⟩ | ⟨rfl, heq⟩
            · rw [heq]
              exact hl.told role n htold
            · rw [heq]
              exact hanswer role
          · intro v hv
            dsimp only at hv ⊢
            rw [hcache]
            cases hr : f.record with
            | none =>
                rw [hr] at hv
                have hlast := lastInstanceVersion_attachReader _ _ _ hv
                exact h.answer_unrecorded hm hdata
                  (fun role htold => ((hl.told role _ htold).2.trans (hanswer role).2.symm)) hlast
                  fun hne => hunrec hr hne v hlast
            | some recorded =>
                rw [hr] at hv
                obtain rfl : recorded = v := Option.some.inj hv
                have hfull : f.role = none := hf.full (by rw [hr]; simp)
                rw [hfull] at hdata ⊢
                exact h.answer_recorded hm hdata (hrecord recorded hr) (hf.reached recorded hr)
                  (hrec (by rw [hr]; simp))

theorem CoherenceInv.step (h : CoherenceInv s) {event : Event} (hs : s.Sound event) :
    CoherenceInv (s.step event) := by
  cases event with
  | request request => exact h.request request
  | heartbeat => exact h.heartbeat
  | notify => exact h.notify
  | lose => exact h.lose
  | select now => exact h.select now hs
  | fetch role => exact h.fetch role
  | serve i => exact h.serve i
  | deliver i attaches => exact h.deliver i attaches hs
  | giveUp i => exact h.giveUp i hs

end PyMotor.WorkerSystem

namespace PyMotor

open Lib

namespace SchedulerInstanceCache

/-! ## The indexes -/

theorem IndexInv.step {c : SchedulerInstanceCache} (h : IndexInv c) {op : Op} (hop : c.RoleKept op) :
    IndexInv (c.step op) := by
  cases op with
  | reply role data => exact h.storeInstances hop
  | patch iid eid role activeTokens activeKvCache => exact h.patch iid eid role activeTokens activeKvCache

theorem indexInv_run {ops : List Op} (h : Along SchedulerInstanceCache.step RoleKept {} ops) :
    IndexInv (run SchedulerInstanceCache.step {} ops) :=
  run_invariant (fun _ _ hi hop => hi.step hop) indexInv_init h

/-- In every run whose replies keep the roles apart, the two maps index the cached lists and a patch reaches
every cached endpoint and gathers all endpoints of its instance. -/
theorem indexed_of_roleKept (ops : List Op) (h : Along SchedulerInstanceCache.step RoleKept {} ops) :
    Indexed (run SchedulerInstanceCache.step {} ops) ∧ Patchable (run SchedulerInstanceCache.step {} ops) :=
  ⟨(indexInv_run h).indexed, (indexInv_run h).patchable⟩

def oneEndpoint (id : Int) (role : String) : Instance :=
  { id := id
    role := role
    endpoints := .single "pod" (.single 0 { id := 7 }) }

theorem indexed_prefill_to_decode :
    Indexed (run SchedulerInstanceCache.step {}
      [.reply none [oneEndpoint 1 "prefill", oneEndpoint 2 "decode"], .reply none [oneEndpoint 1 "decode"]]) ∧
    Patchable (run SchedulerInstanceCache.step {}
      [.reply none [oneEndpoint 1 "prefill", oneEndpoint 2 "decode"], .reply none [oneEndpoint 1 "decode"]]) :=
  indexed_of_roleKept _ (by decide)

def decodeToPrefill : List Op := [.reply none [oneEndpoint 1 "decode"], .reply none [oneEndpoint 1 "prefill"]]

/-- Its endpoints are entered with the prefill list and deleted with the old decode list. -/
theorem not_indexed_decode_to_prefill : ¬ Indexed (run SchedulerInstanceCache.step {} decodeToPrefill) := by
  intro h
  have hcached : (1 : Ref) ∈ (run SchedulerInstanceCache.step {} decodeToPrefill).instanceCache .roleP := by decide
  have hfound : (run SchedulerInstanceCache.step {} decodeToPrefill).endpointMap.get? (1, 7) =
      some ⟨1, "pod", 0⟩ :=
    h.endpointMap.mpr ⟨⟨.roleP, hcached⟩, by decide, { id := 7 }, by decide, rfl⟩
  have hlost : (run SchedulerInstanceCache.step {} decodeToPrefill).endpointMap.get? (1, 7) = none := by decide
  rw [hlost] at hfound
  cases hfound

end SchedulerInstanceCache

/-! ## Fetching -/

section Fetch

open SchedulerInstanceCache

/-- For every reachable pool state and every reachable cache, a successful fetch makes the cached lists those of
the server exactly when it is sound. -/
theorem refines_iff_fetchSound (ops : List InstanceManager.Op) (cacheOps : List SchedulerInstanceCache.Op)
    (reader : Option WorkloadSharedMemoryReader) (version : Option Nat) (role : Option PDRole)
    (shmName : Option String) (attaches : Bool) :
    let m := run InstanceManager.step {} ops
    let client : AsyncSchedulerClient := ⟨run SchedulerInstanceCache.step {} cacheOps, reader, version⟩
    Refines m client.cache (client.getAvailableInstances role attaches
      (some (.ok (m.handleGetAvailableInstances role shmName)))).cache role ↔ FetchSound m client.cache role := by
  intro m client
  have hi : m.Inv := InstanceManager.inv_run ops
  have hc : Valid client.cache := valid_run cacheOps
  simp only [AsyncSchedulerClient.getAvailableInstances, AsyncSchedulerClient.cache_attachReader]
  cases role with
  | none => exact refines_none_iff hc hi _
  | some role => exact refines_some_iff hc hi role _

/-- The last instance is gone at the server and stays in the cache. -/
theorem not_refines_last_instance_deleted :
    ¬ Refines
      (run InstanceManager.step {}
        [.refresh .add [{ id := 1, role := "prefill" }], .refresh .del [{ id := 1, role := "prefill" }]])
      (run SchedulerInstanceCache.step {} [.reply none [{ id := 1, role := "prefill" }]])
      (AsyncSchedulerClient.getAvailableInstances
        ⟨run SchedulerInstanceCache.step {} [.reply none [{ id := 1, role := "prefill" }]], none, none⟩ none true
        (some (.ok ((run InstanceManager.step {}
          [.refresh .add [{ id := 1, role := "prefill" }],
            .refresh .del [{ id := 1, role := "prefill" }]]).handleGetAvailableInstances none none)))).cache none := by
  intro h
  exact absurd (h .roleP) (by decide)

end Fetch

namespace WorkerSystem

/-! ## Versions -/

/-- In every run whose steps are sound, the cache holds the list of the scheduler at a version not below the
recorded one; a worker that has recorded the current version holds the list of that version. -/
theorem coherent_of_sound (policy : SchedulerType) (maxEntries : Nat) (events : List Event)
    (h : Along WorkerSystem.step Sound (start policy maxEntries) events) :
    let s := run WorkerSystem.step (start policy maxEntries) events
    s.Coherent ∧
    (s.client.lastInstanceVersion = some s.version →
      ∃ m, (s.version, m) ∈ s.history ∧ Holds s.client.cache m) := by
  intro s
  have hinv : CoherenceInv s :=
    run_invariant (I := CoherenceInv) (fun _ _ hi hs => hi.step hs) (coherenceInv_start policy maxEntries) h
  refine ⟨hinv.coherent, fun hv => ?_⟩
  obtain ⟨w, m, hle, hm, hholds⟩ := hinv.coherent _ hv
  obtain rfl : w = s.version := le_antisymm (hinv.past _ hm).1 hle
  exact ⟨m, hm, hholds⟩

def replacedInstance : List Event :=
  [.request (.refreshInstances ⟨"add", [{ id := 1, role := "prefill" }]⟩), .fetch none, .serve 0, .deliver 0 true,
    .select 1, .request (.refreshInstances ⟨"set", [{ id := 2, role := "prefill" }]⟩), .select 2]

/-- The fetch that the new version asks for is answered. -/
theorem coherent_answered :
    let s := run WorkerSystem.step (start .loadBalance 16) (replacedInstance ++ [.serve 0, .deliver 0 true])
    s.Coherent ∧
    (s.client.lastInstanceVersion = some s.version →
      ∃ m, (s.version, m) ∈ s.history ∧ Holds s.client.cache m) :=
  coherent_of_sound .loadBalance 16 _ (by decide)

/-- The fetch times out, the version is recorded all the same. -/
theorem not_coherent_timeout :
    ¬ Coherent (run WorkerSystem.step (start .loadBalance 16) (replacedInstance ++ [.serve 0, .giveUp 0])) := by
  intro h
  obtain ⟨w, m, hle, hm, hholds⟩ := h 3 (by decide)
  have hall : ∀ e ∈ (run WorkerSystem.step (start .loadBalance 16)
      (replacedInstance ++ [.serve 0, .giveUp 0])).history, 3 ≤ e.1 →
      ¬ Holds (run WorkerSystem.step (start .loadBalance 16)
        (replacedInstance ++ [.serve 0, .giveUp 0])).client.cache e.2 := by decide
  exact hall (w, m) hm hle hholds

/-! ## The shared memory -/

/-- In every run of requests that fit the segment, the segment mirrors the available endpoints, and patching a
cache that holds the scheduler's list makes its instances the scheduler's, workloads and sums included. -/
theorem mirrored_of_fitting (policy : SchedulerType) (maxEntries : Nat) (roleOf : Int → PDRole) (events : List Event)
    (hmax : maxEntries < 2 ^ 32) (hlen : events.length + 1 < 2 ^ 63)
    (h : Along WorkerSystem.step (Fitting roleOf) (start policy maxEntries) events) :
    let s := run WorkerSystem.step (start policy maxEntries) events
    s.server.Mirrored ∧ s.TakesOver := by
  intro s
  have hseq : (start policy maxEntries).server.workloadWriter.sequence = 1 :=
    (SchedulerServer.mirrorInv_start roleOf policy hmax).2.1
  have hinv : PatchInv roleOf s :=
    run_invariant_counted (fun _ _ hi hb hf => hi.step hb hf) (patchInv_start policy hmax) h (by omega)
  exact ⟨hinv.mirror.mirrored, hinv.takesOver⟩

def allocatedInstance : List Event :=
  [.request (.refreshInstances ⟨"add", [SchedulerInstanceCache.oneEndpoint 1 "prefill",
      SchedulerInstanceCache.oneEndpoint 2 "decode"]⟩), .fetch none, .serve 0, .deliver 0 true,
    .request (.refreshInstances ⟨"del", [SchedulerInstanceCache.oneEndpoint 2 "decode"]⟩), .fetch none, .serve 0,
    .deliver 0 true,
    .request (.allocateOnly { instanceId := some 1, endpointId := some 7, workload := some ⟨1, 10⟩ }),
    .request (.updateWorkload
      { instanceId := some 2, endpointId := some 7, workloadAction := "Release_Tokens", workloadChange := some ⟨-1, -10⟩ })]

theorem mirrored_allocated :
    let s := run WorkerSystem.step (start .loadBalance 16) allocatedInstance
    (s.server.Mirrored ∧ s.TakesOver) ∧ Holds s.client.cache s.server.instanceManager :=
  ⟨mirrored_of_fitting .loadBalance 16 (fun id => if id = 1 then .roleP else .roleD) allocatedInstance (by decide)
    (by decide) (by decide), by decide⟩

def largeId : List Event :=
  [.request (.refreshInstances ⟨"add", [SchedulerInstanceCache.oneEndpoint 2147483648 "prefill"]⟩)]

/-- An id that does not fit its field is available and gets no entry; with a size that does not fit its field no
header is ever written. -/
theorem not_mirrored_unfit :
    ¬ (run WorkerSystem.step (start .loadBalance 16) largeId).server.Mirrored ∧
    ¬ (start .loadBalance (2 ^ 32)).server.Mirrored := by
  refine ⟨fun h => ?_, fun h => ?_⟩
  · have hentry := (h.entries (shmEntry 2147483648 .roleP { id := 7 })).mpr
      ⟨2147483648, 0, .roleP, by decide, by decide, { id := 7 }, by decide, rfl⟩
    have hnone : (run WorkerSystem.step (start .loadBalance 16) largeId).server.workloadWriter.unpackEntries = [] := by
      decide
    rw [hnone] at hentry
    cases hentry
  · exact h.accepted.1 (by decide)

end WorkerSystem

end PyMotor
