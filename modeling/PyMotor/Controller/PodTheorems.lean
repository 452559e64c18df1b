import PyMotor.Controller.Pods

/-!
# The pods of an instance along its assembly
-/

namespace PyMotor

open Lib

variable {x : ManagedInstance} {timestamp : ℚ} {queryStatus : NodeManagerInfo → QueryStatus}

/-! ## The endpoints of one message -/

namespace RegisterMsg

variable {msg : RegisterMsg} {idOffset : Int} {eps : Dict Int Endpoint}

/-- The keys of the endpoints are the first numbers, their ids follow `idOffset`. -/
def FirstPorts (idOffset : Int) (eps : Dict Int Endpoint) (k : Nat) : Prop :=
  eps.keys = (List.range k).map Int.ofNat ∧ eps.values.map (·.id) = (List.range k).map fun j => idOffset + Int.ofNat j

theorem FirstPorts.set (h : FirstPorts idOffset eps k) {ep : Endpoint} (hep : ep.id = idOffset + k) :
    FirstPorts idOffset (eps.set k ep) (k + 1) := by
  have habsent : eps.get? (k : Int) = none := by
    rw [Dict.get?_eq_none_iff, h.1, List.mem_map]
    rintro ⟨j, hj, he⟩
    have hlt := List.mem_range.mp hj
    have heq : (j : Int) = k := he
    omega
  constructor
  · rw [Dict.keys_set_absent habsent, h.1, List.range_succ, List.map_append]
    rfl
  · rw [Dict.values_set_absent habsent, List.map_append, h.2, List.range_succ, List.map_append]
    simp [hep]

theorem firstPorts_buildLoop {ports : List String} {acc : Dict Int Endpoint} (h : FirstPorts idOffset acc k)
    (hok : msg.buildLoop timestamp idOffset k ports acc = .ok eps) : ∃ n, FirstPorts idOffset eps n := by
  induction ports generalizing k acc with
  | nil =>
      cases hok
      exact ⟨k, h⟩
  | cons port ports ih =>
      simp only [buildLoop] at hok
      split at hok
      · cases hok
        exact ⟨k, h⟩
      · cases hinfos : msg.buildDeviceInfos (msg.devicesPerEndpoint * k) idOffset with
        | error e =>
            rw [hinfos] at hok
            cases hok
        | ok deviceInfos =>
            rw [hinfos] at hok
            cases hport : msg.mgmtPort[k]? with
            | none =>
                rw [hport] at hok
                cases hok
            | some mgmtPort =>
                rw [hport] at hok
                exact ih (h.set rfl) hok

theorem ids_buildEndpoints (hok : msg.buildEndpoints timestamp idOffset = .ok eps) :
    ∃ n, eps.values.map (·.id) = (List.range n).map fun j => idOffset + Int.ofNat j := by
  unfold buildEndpoints at hok
  split at hok
  · unfold buildMultiEndpoints at hok
    split at hok
    · cases hok
    · obtain ⟨n, hn⟩ := firstPorts_buildLoop ⟨rfl, rfl⟩ hok
      exact ⟨n, hn.2⟩
  · unfold buildSingleEndpoint at hok
    split at hok
    · cases hok
    · split at hok
      · cases hok
        refine ⟨1, ?_⟩
        rw [Dict.values_set_absent (Dict.get?_empty 0)]
        simp
      · cases hok

/-! ## Messages that can be built -/

theorem buildDeviceInfos_ok (h : msg.HasServer) (startIdx idOffset : Int) :
    ∃ deviceInfos, msg.buildDeviceInfos startIdx idOffset = .ok deviceInfos := by
  unfold buildDeviceInfos
  cases htable : msg.ranktable with
  | none => exact ⟨_, rfl⟩
  | some table =>
      cases hservers : table.serverList with
      | nil => exact absurd hservers (h table htable)
      | cons server servers => exact ⟨server.device, by simp only [hservers]⟩

theorem buildLoop_ok {i : Nat} {ports : List String} (hports : ∀ j < ports.length,
      msg.devicesPerEndpoint * (i + j : Nat) + msg.devicesPerEndpoint ≤ msg.deviceNum →
        i + j < msg.mgmtPort.length ∧ msg.HasServer) (acc : Dict Int Endpoint) :
    ∃ eps, msg.buildLoop timestamp idOffset i ports acc = .ok eps := by
  induction ports generalizing i acc with
  | nil => exact ⟨acc, rfl⟩
  | cons port ports ih =>
      simp only [buildLoop]
      split
      · exact ⟨acc, rfl⟩
      · rename_i hdevices
        obtain ⟨hport, hserver⟩ := hports 0 (by simp) (by simpa using hdevices)
        obtain ⟨deviceInfos, hinfos⟩ := buildDeviceInfos_ok hserver (msg.devicesPerEndpoint * i) idOffset
        rw [Nat.add_zero] at hport
        rw [hinfos, List.getElem?_eq_getElem hport]
        apply ih
        intro j hj hdevices'
        have hnext := hports (j + 1) (by simpa using hj)
        rw [← Nat.add_assoc, Nat.add_right_comm] at hnext
        exact hnext hdevices'

theorem length_sliceTo_le (xs : List String) (n : Int) : (sliceTo xs n).length ≤ xs.length := by
  unfold sliceTo
  split <;> simp

theorem buildEndpoints_ok (h : msg.Buildable) (timestamp : ℚ) (idOffset : Int) :
    ∃ eps, msg.buildEndpoints timestamp idOffset = .ok eps := by
  unfold Buildable at h
  unfold buildEndpoints
  split at h
  · rename_i hmulti
    rw [if_pos hmulti]
    have hports : ∃ ports, msg.actualPorts = .ok ports ∧ ports.length ≤ msg.businessPort.length := by
      unfold actualPorts
      split
      · rename_i hmore
        rw [if_neg]
        · exact ⟨_, rfl, length_sliceTo_le _ _⟩
        · intro hzero
          have hle := h.1 hzero
          rw [hzero] at hmore
          omega
      · exact ⟨_, rfl, le_rfl⟩
    obtain ⟨ports, hports, hlen⟩ := hports
    simp only [buildMultiEndpoints, hports]
    apply buildLoop_ok
    intro j hj hdevices
    rw [Nat.zero_add] at hdevices ⊢
    exact h.2 j (by omega) hdevices
  · rename_i hsingle
    rw [if_neg hsingle]
    obtain ⟨deviceInfos, hinfos⟩ := buildDeviceInfos_ok h.2.2 0 idOffset
    obtain ⟨port, ports, hbusiness⟩ := List.exists_cons_of_ne_nil h.1
    obtain ⟨port', ports', hmgmt⟩ := List.exists_cons_of_ne_nil h.2.1
    simp only [buildSingleEndpoint, hinfos, hbusiness, hmgmt]
    exact ⟨_, rfl⟩

end RegisterMsg

namespace ManagedInstance

/-! ## Unreachable node managers -/

@[simp] theorem hasNodeMgr_iff {podIp : String} : x.hasNodeMgr podIp = true ↔ podIp ∈ x.nodeManagers.map (·.podIp) := by
  simp [hasNodeMgr]

theorem entries_foldl_filterNodeManager (nms : List NodeManagerInfo) :
    (nms.foldl (filterNodeManager queryStatus) x).endpoints.entries =
      x.endpoints.entries.filter fun e => decide (∀ nm ∈ nms, nm.podIp = e.1 → queryStatus nm ≠ .raises) := by
  induction nms generalizing x with
  | nil => simp
  | cons nm nms ih =>
      rw [List.foldl_cons, ih]
      by_cases hraises : queryStatus nm = .raises
      · have herase : (filterNodeManager queryStatus x nm).endpoints.entries =
            x.endpoints.entries.filter fun e => e.1 ≠ nm.podIp := by
          simp [filterNodeManager, hraises, delNodeMgr, delEndpoints, Dict.erase]
        rw [herase, List.filter_filter]
        apply List.filter_congr
        intro e _
        rw [Bool.eq_iff_iff]
        simp only [Bool.and_eq_true, decide_eq_true_eq, List.forall_mem_cons, hraises]
        constructor
        · rintro ⟨h, hne⟩
          exact ⟨fun he => absurd he.symm hne, h⟩
        · rintro ⟨hne, h⟩
          exact ⟨h, fun he => hne he.symm rfl⟩
      · have hkept : filterNodeManager queryStatus x nm = x := if_neg hraises
        simp [hkept, hraises]

theorem entries_filterAbnormalEndpoints (x : ManagedInstance) (queryStatus : NodeManagerInfo → QueryStatus) :
    (x.filterAbnormalEndpoints queryStatus).endpoints.entries =
      x.endpoints.entries.filter fun e => decide (¬ x.Dropped queryStatus e.1) := by
  unfold filterAbnormalEndpoints
  rw [entries_foldl_filterNodeManager]
  apply List.filter_congr
  intro e _
  simp [Dropped]

theorem nodeManagers_filterNodeManager_sublist (nm : NodeManagerInfo) :
    (filterNodeManager queryStatus x nm).nodeManagers.Sublist x.nodeManagers := by
  unfold filterNodeManager
  split
  · exact List.erase_sublist
  · exact List.Sublist.refl _

theorem nodeManagers_filterAbnormalEndpoints_sublist (x : ManagedInstance)
    (queryStatus : NodeManagerInfo → QueryStatus) :
    (x.filterAbnormalEndpoints queryStatus).nodeManagers.Sublist x.nodeManagers := by
  have hloop : ∀ (nms : List NodeManagerInfo) (y : ManagedInstance),
      (nms.foldl (filterNodeManager queryStatus) y).nodeManagers.Sublist y.nodeManagers := by
    intro nms
    induction nms with
    | nil => exact fun _ => List.Sublist.refl _
    | cons nm nms ih => exact fun y => (ih _).trans (nodeManagers_filterNodeManager_sublist nm)
  exact hloop _ x

/-- A pod with endpoints has a node manager. -/
def Accounted (x : ManagedInstance) : Prop := ∀ ip ∈ x.endpoints.keys, ip ∈ x.nodeManagers.map (·.podIp)

theorem Accounted.filterNodeManager (h : x.Accounted) (nm : NodeManagerInfo) :
    (filterNodeManager queryStatus x nm).Accounted := by
  unfold ManagedInstance.filterNodeManager
  split
  · intro ip hip
    obtain ⟨eps, heps⟩ := Dict.mem_keys_iff.mp hip
    have hne : ip ≠ nm.podIp := by
      rintro rfl
      exact (nomatch (Dict.get?_erase_self x.endpoints nm.podIp).symm.trans heps)
    have hget : x.endpoints.get? ip = some eps := (Dict.get?_erase_ne hne).symm.trans heps
    obtain ⟨nm', hnm', rfl⟩ := List.mem_map.mp (h ip (Dict.mem_keys_iff.mpr ⟨eps, hget⟩))
    refine List.mem_map.mpr ⟨nm', (List.mem_erase_of_ne ?_).mpr hnm', rfl⟩
    rintro rfl
    exact hne rfl
  · exact h

theorem Accounted.filterAbnormalEndpoints (h : x.Accounted) (queryStatus : NodeManagerInfo → QueryStatus) :
    (x.filterAbnormalEndpoints queryStatus).Accounted := by
  have hloop : ∀ (nms : List NodeManagerInfo) (y : ManagedInstance), y.Accounted →
      (nms.foldl (ManagedInstance.filterNodeManager queryStatus) y).Accounted := by
    intro nms
    induction nms with
    | nil => exact fun _ hy => hy
    | cons nm nms ih => exact fun y hy => ih _ (hy.filterNodeManager nm)
  exact hloop _ x h

/-! ## A pod that registers -/

theorem addPod_cases (msg : RegisterMsg) (timestamp : ℚ) (x : ManagedInstance) :
    (x.hasNodeMgr msg.podIp = true ∧ (msg.addPod timestamp x).2 = x) ∨
      x.hasNodeMgr msg.podIp = false ∧
        (msg.addPod timestamp x).2.nodeManagers = x.nodeManagers ++ [⟨msg.podIp, msg.nmPort, msg.deviceNum⟩] ∧
        ((∃ e, msg.buildEndpoints timestamp x.getEndpointsNum = .error e ∧
            (msg.addPod timestamp x).2.endpoints = x.endpoints) ∨
          ∃ eps, msg.buildEndpoints timestamp x.getEndpointsNum = .ok eps ∧
            (msg.addPod timestamp x).2.endpoints = x.endpoints.set msg.podIp eps) := by
  by_cases hknown : x.hasNodeMgr msg.podIp = true
  · exact Or.inl ⟨hknown, by simp [RegisterMsg.addPod, hknown]⟩
  · right
    have hnew : (⟨msg.podIp, msg.nmPort, msg.deviceNum⟩ : NodeManagerInfo) ∉ x.nodeManagers :=
      fun hmem => hknown (hasNodeMgr_iff.mpr (List.mem_map_of_mem hmem))
    refine ⟨Bool.eq_false_iff.mpr hknown, ?_⟩
    have hadd : x.addNodeMgr msg.podIp msg.nmPort msg.deviceNum =
        { x with nodeManagers := x.nodeManagers ++ [⟨msg.podIp, msg.nmPort, msg.deviceNum⟩] } := if_neg hnew
    unfold RegisterMsg.addPod
    rw [if_neg hknown, hadd]
    cases hbuild : msg.buildEndpoints timestamp x.getEndpointsNum with
    | error e =>
        simp only [getEndpointsNum] at hbuild ⊢
        rw [hbuild]
        exact ⟨rfl, Or.inl ⟨e, rfl, rfl⟩⟩
    | ok eps =>
        simp only [getEndpointsNum] at hbuild ⊢
        rw [hbuild]
        exact ⟨rfl, Or.inr ⟨eps, rfl, rfl⟩⟩

/-! ## Consecutive ids -/

/-- Blocks of an ascending list, dropped only where nothing larger is kept, leave a prefix of it. -/
theorem flatMap_filter_prefix {α β : Type} [Preorder β] {f : α → List β} {p : α → Bool} {l : List α}
    (hsorted : (l.flatMap f).Pairwise (· < ·))
    (hlast : ∀ e ∈ l, p e = false → ∀ e' ∈ l, p e' = true → ∀ a ∈ f e, ∀ b ∈ f e', b < a) :
    (l.filter p).flatMap f <+: l.flatMap f := by
  induction l with
  | nil => exact List.prefix_rfl
  | cons e l ih =>
      rw [List.flatMap_cons, List.pairwise_append] at hsorted
      have hrest := ih hsorted.2.1 fun e he hp e' he' =>
        hlast e (List.mem_cons_of_mem _ he) hp e' (List.mem_cons_of_mem _ he')
      cases hp : p e with
      | true =>
          rw [List.filter_cons_of_pos hp, List.flatMap_cons, List.flatMap_cons]
          exact (List.prefix_append_right_inj _).mpr hrest
      | false =>
          rw [List.filter_cons_of_neg (Bool.eq_false_iff.mp hp), List.flatMap_cons]
          cases hf : f e with
          | nil => exact hrest
          | cons a as =>
              have ha : a ∈ f e := hf ▸ List.mem_cons_self ..
              -- What comes later is larger than `a`, and what is kept is smaller.
              have hnil : (l.filter p).flatMap f = [] := by
                rw [List.flatMap_eq_nil_iff]
                intro e' he'
                obtain ⟨he', hp'⟩ := List.mem_filter.mp he'
                apply List.eq_nil_iff_forall_not_mem.mpr
                intro b hb
                have hlt := hlast e (List.mem_cons_self ..) hp e' (List.mem_cons_of_mem _ he') hp' a ha b hb
                exact lt_asymm hlt (hsorted.2.2 a ha b (List.mem_flatMap.mpr ⟨e', he', hb⟩))
              rw [hnil]
              exact List.nil_prefix

theorem getEndpointsNum_eq (x : ManagedInstance) : x.getEndpointsNum = x.endpointList.length := by
  simp [getEndpointsNum, Instance.endpointList, List.length_flatMap, Dict.values]

/-- The endpoints are numbered in the order of the pods. -/
def Consecutive (x : ManagedInstance) : Prop :=
  ∃ n, x.endpointList.map (·.id) = (List.range n).map Int.ofNat

theorem Consecutive.eq_num (h : x.Consecutive) :
    x.endpointList.map (·.id) = (List.range x.getEndpointsNum).map Int.ofNat := by
  obtain ⟨n, hn⟩ := h
  have hlen : x.getEndpointsNum = n := by
    simpa [getEndpointsNum_eq] using congrArg List.length hn
  rw [hlen, hn]

theorem Consecutive.numbered (h : x.Consecutive) : x.Numbered := by
  have hids := h.eq_num
  constructor
  · rw [hids]
    exact List.nodup_range.map fun _ _ => Int.ofNat.inj
  · intro hmulti henough config hconfig id
    have hnum : (x.getEndpointsNum : Int) = config.dpSize := by
      unfold isEndpointsEnough at henough
      rw [Option.mem_def.mp hconfig] at henough
      simpa [hmulti] using henough
    rw [hids, List.mem_map, ← hnum]
    constructor
    · rintro ⟨i, hi, rfl⟩
      have hlt := List.mem_range.mp hi
      simp only [Int.ofNat_eq_natCast]
      omega
    · rintro ⟨hle, hlt⟩
      refine ⟨id.toNat, List.mem_range.mpr (by omega), ?_⟩
      simp only [Int.ofNat_eq_natCast]
      omega

theorem Consecutive.addPod (h : x.Consecutive) (ha : x.Accounted) (msg : RegisterMsg) (timestamp : ℚ) :
    (msg.addPod timestamp x).2.Consecutive := by
  rcases addPod_cases msg timestamp x with ⟨_, heq⟩ | ⟨hunknown, _, ⟨e, _, heq⟩ | ⟨eps, hbuild, heq⟩⟩
  · rwa [heq]
  · simpa only [Consecutive, Instance.endpointList, heq] using h
  · have habsent : x.endpoints.get? msg.podIp = none := by
      rw [Dict.get?_eq_none_iff]
      intro hip
      rw [hasNodeMgr_iff.mpr (ha _ hip)] at hunknown
      cases hunknown
    obtain ⟨n, hn⟩ := RegisterMsg.ids_buildEndpoints hbuild
    have hids := h.eq_num
    simp only [Instance.endpointList] at hids
    refine ⟨x.getEndpointsNum + n, ?_⟩
    rw [Instance.endpointList, heq, Dict.values_set_absent habsent, List.flatMap_append, List.map_append, hids,
      List.flatMap_singleton, hn, List.range_add, List.map_append, List.map_map]
    congr 1

theorem Accounted.addPod (h : x.Accounted) (msg : RegisterMsg) (timestamp : ℚ) :
    (msg.addPod timestamp x).2.Accounted := by
  rcases addPod_cases msg timestamp x with ⟨_, heq⟩ | ⟨_, hnms, hbuild⟩
  · rwa [heq]
  · intro ip hip
    rw [hnms, List.map_append, List.mem_append]
    rcases hbuild with ⟨e, _, heq⟩ | ⟨eps, _, heq⟩
    · rw [heq] at hip
      exact Or.inl (h ip hip)
    · rw [heq] at hip
      obtain ⟨eps', heps'⟩ := Dict.mem_keys_iff.mp hip
      by_cases hne : ip = msg.podIp
      · exact Or.inr (by simp [hne])
      · rw [Dict.get?_set_ne hne] at heps'
        exact Or.inl (h ip (Dict.mem_keys_iff.mpr ⟨eps', heps'⟩))

theorem Consecutive.filterAbnormalEndpoints (h : x.Consecutive) (hlast : x.DropsLast (.filter queryStatus)) :
    (x.filterAbnormalEndpoints queryStatus).Consecutive := by
  obtain ⟨n, hn⟩ := h
  have hflat : ∀ y : ManagedInstance, y.endpointList.map (·.id) =
      y.endpoints.entries.flatMap fun e => e.2.values.map (·.id) := by
    intro y
    simp [Instance.endpointList, Dict.values, List.map_flatMap, List.flatMap_map]
  have hsorted : (x.endpoints.entries.flatMap fun e => e.2.values.map (·.id)).Pairwise (· < ·) := by
    rw [← hflat, hn]
    refine List.pairwise_lt_range.map _ fun a b hab => ?_
    simp only [Int.ofNat_eq_natCast]
    omega
  have hpre := flatMap_filter_prefix (p := fun e => decide (¬ x.Dropped queryStatus e.1)) hsorted
    (fun e he hp e' he' hp' a ha b hb => by
      obtain ⟨ep, hep, rfl⟩ := List.mem_map.mp ha
      obtain ⟨ep', hep', rfl⟩ := List.mem_map.mp hb
      exact hlast e he (by simpa using hp) e' he' (by simpa using hp') ep hep ep' hep')
  rw [← entries_filterAbnormalEndpoints, ← hflat, ← hflat, hn] at hpre
  refine ⟨(x.filterAbnormalEndpoints queryStatus).endpointList.length ⊓ n, ?_⟩
  rw [List.prefix_iff_eq_take.mp hpre, ← List.map_take, List.take_range, List.length_map]

theorem consecutive_step {event : PodEvent} (h : x.Consecutive ∧ x.Accounted) (hs : x.DropsLast event) :
    (x.podStep event).Consecutive ∧ (x.podStep event).Accounted := by
  cases event with
  | register timestamp msg => exact ⟨h.1.addPod h.2 msg timestamp, h.2.addPod msg timestamp⟩
  | filter queryStatus => exact ⟨h.1.filterAbnormalEndpoints hs, h.2.filterAbnormalEndpoints queryStatus⟩

/-! ## The two lists of pods -/

theorem nodeManagers_foldl_filterNodeManager {nms : List NodeManagerInfo} (hn : x.nodeManagers.Nodup)
    (h : ∀ nm ∈ nms, queryStatus nm = .raises → nm.deviceNum = 0) :
    (nms.foldl (filterNodeManager queryStatus) x).nodeManagers =
      x.nodeManagers.filter fun nm => decide (nm ∈ nms → queryStatus nm ≠ .raises) := by
  induction nms generalizing x with
  | nil => simp
  | cons nm nms ih =>
      rw [List.foldl_cons, ih ((nodeManagers_filterNodeManager_sublist nm).nodup hn)
        fun nm' hnm' => h nm' (List.mem_cons_of_mem _ hnm')]
      by_cases hraises : queryStatus nm = .raises
      · have hself : (⟨nm.podIp, nm.port, 0⟩ : NodeManagerInfo) = nm := by
          rw [← h nm (List.mem_cons_self ..) hraises]
        have herase : (filterNodeManager queryStatus x nm).nodeManagers = x.nodeManagers.filter (· != nm) := by
          unfold filterNodeManager
          rw [if_pos hraises]
          exact (congrArg (List.erase x.nodeManagers) hself).trans (hn.erase_eq_filter nm)
        rw [herase, List.filter_filter]
        apply List.filter_congr
        intro nm' _
        by_cases he : nm' = nm
        · simp [he, hraises]
        · simp [he]
      · have hkept : filterNodeManager queryStatus x nm = x := if_neg hraises
        rw [hkept]
        apply List.filter_congr
        intro nm' _
        by_cases he : nm' = nm
        · simp [he, hraises]
        · simp [he]

/-- Every pod has one node manager, and has endpoints. -/
structure Paired (x : ManagedInstance) : Prop where
  nodup : (x.nodeManagers.map (·.podIp)).Nodup
  agree : x.PodsAgree

theorem Paired.addPod (h : x.Paired) {msg : RegisterMsg} (timestamp : ℚ) (hs : x.Removable (.register timestamp msg)) :
    (msg.addPod timestamp x).2.Paired ∧ x.ComesBack (.register timestamp msg) := by
  rcases addPod_cases msg timestamp x with ⟨hknown, heq⟩ | ⟨hunknown, hnms, hbuild⟩
  · refine ⟨by rwa [heq], fun habsent => absurd ((h.agree _).mpr hknown) habsent⟩
  · obtain ⟨eps, heps⟩ := RegisterMsg.buildEndpoints_ok (hs hunknown) timestamp x.getEndpointsNum
    have hends : (msg.addPod timestamp x).2.endpoints = x.endpoints.set msg.podIp eps := by
      rcases hbuild with ⟨e, herror, _⟩ | ⟨eps', heps', heq⟩
      · cases heps.symm.trans herror
      · cases heps.symm.trans heps'
        exact heq
    have hnew : msg.podIp ∉ x.nodeManagers.map (·.podIp) := fun hmem =>
      Bool.eq_false_iff.mp hunknown (hasNodeMgr_iff.mpr hmem)
    have habsent : x.endpoints.get? msg.podIp = none := by
      rw [Dict.get?_eq_none_iff, h.agree, hunknown]
      exact Bool.false_ne_true
    refine ⟨⟨?_, fun ip => ?_⟩, fun _ => ⟨eps, heps, by rw [hends, Dict.get?_set_self]⟩⟩
    · rw [hnms, List.map_append, List.nodup_append_comm]
      exact List.nodup_cons.mpr ⟨hnew, h.nodup⟩
    · rw [hends, Dict.keys_set_absent habsent, hasNodeMgr_iff, hnms, List.mem_append, List.map_append, List.mem_append,
        h.agree, hasNodeMgr_iff]
      simp

theorem Paired.filterAbnormalEndpoints (h : x.Paired) (hs : x.Removable (.filter queryStatus)) :
    (x.filterAbnormalEndpoints queryStatus).Paired ∧ x.ComesBack (.filter queryStatus) := by
  have hnodup : x.nodeManagers.Nodup := List.Nodup.of_map _ h.nodup
  have huniq : ∀ nm ∈ x.nodeManagers, ∀ nm' ∈ x.nodeManagers, nm.podIp = nm'.podIp → nm = nm' :=
    fun nm hnm nm' hnm' he => List.inj_on_of_nodup_map h.nodup hnm hnm' he
  have hnms : (x.filterAbnormalEndpoints queryStatus).nodeManagers =
      x.nodeManagers.filter fun nm => decide (queryStatus nm ≠ .raises) := by
    refine (nodeManagers_foldl_filterNodeManager hnodup hs).trans (List.filter_congr fun nm hnm => ?_)
    simp [hnm]
  refine ⟨⟨?_, fun ip => ?_⟩, ?_⟩
  · rw [hnms]
    exact (List.filter_sublist.map _).nodup h.nodup
  · rw [Dict.keys, entries_filterAbnormalEndpoints, hasNodeMgr_iff, hnms]
    constructor
    · intro hip
      obtain ⟨e, he, rfl⟩ := List.mem_map.mp hip
      obtain ⟨he, hkept⟩ := List.mem_filter.mp he
      obtain ⟨nm, hnm, hpod⟩ := List.mem_map.mp (hasNodeMgr_iff.mp ((h.agree e.1).mp (List.mem_map_of_mem he)))
      refine List.mem_map.mpr ⟨nm, List.mem_filter.mpr ⟨hnm, ?_⟩, hpod⟩
      simp only [decide_eq_true_eq] at hkept ⊢
      exact fun hraises => hkept ⟨nm, hnm, hpod, hraises⟩
    · intro hip
      obtain ⟨nm, hnm, rfl⟩ := List.mem_map.mp hip
      obtain ⟨hnm, hkept⟩ := List.mem_filter.mp hnm
      obtain ⟨e, he, hpod⟩ := List.mem_map.mp ((h.agree nm.podIp).mpr (hasNodeMgr_iff.mpr (List.mem_map_of_mem hnm)))
      refine List.mem_map.mpr ⟨e, List.mem_filter.mpr ⟨he, ?_⟩, hpod⟩
      simp only [decide_eq_true_eq] at hkept ⊢
      rintro ⟨nm', hnm', hpod', hraises⟩
      cases huniq nm' hnm' nm hnm (hpod'.trans hpod)
      exact hkept hraises
  · intro nms hpre nm hnm hraises nm' hnm' hsame
    rw [nodeManagers_foldl_filterNodeManager hnodup fun nm hnm => hs nm (hpre.subset hnm)] at hnm'
    obtain ⟨hnm', hkept⟩ := List.mem_filter.mp hnm'
    cases huniq nm' hnm' nm (hpre.subset hnm) hsame.1
    simp only [decide_eq_true_eq] at hkept
    exact hkept hnm hraises

theorem paired_step {event : PodEvent} (h : x.Paired) (hs : x.Removable event) :
    (x.podStep event).Paired ∧ x.ComesBack event := by
  cases event with
  | register timestamp msg => exact h.addPod timestamp hs
  | filter queryStatus => exact h.filterAbnormalEndpoints hs

end ManagedInstance

end PyMotor

namespace PyMotor.ManagedInstance

open Lib

def ofTwo : ManagedInstance :=
  { jobName := "job", modelName := "m", id := 1, role := "prefill", parallelConfig := some (.ofSizes 2 1) }

def joins (podIp : String) (deviceNum : Int) : PodEvent :=
  .register 0
    { jobName := "job", podIp := podIp, businessPort := ["8000"], mgmtPort := ["8001"], nmPort := "9000",
      parallelConfig := .ofSizes 2 1, deviceNum := deviceNum }

def loses (podIp : String) : PodEvent := .filter fun nm => if nm.podIp = podIp then .raises else .normal

/-! ## Endpoint ids -/

/-- In every order of registrations and removals in which no endpoint with a larger id than a removed one stays, the
ids are distinct, and with enough endpoints they are those below `dp_size`. -/
theorem endpoint_ids_numbered (x : ManagedInstance) (hx : x.New) (events : List PodEvent)
    (h : Along podStep DropsLast x events) : (run podStep x events).Numbered := by
  have hstart : x.Consecutive ∧ x.Accounted := by
    constructor
    · exact ⟨0, by rw [Instance.endpointList, hx.1]; rfl⟩
    · intro ip hip
      rw [hx.1] at hip
      cases hip
  have hend : (run podStep x events).Consecutive ∧ (run podStep x events).Accounted :=
    run_invariant (I := fun x : ManagedInstance => x.Consecutive ∧ x.Accounted)
      (fun _ _ hi hs => consecutive_step hi hs) hstart h
  exact hend.1.numbered

def lastReplaced : List PodEvent := [joins "a" 1, joins "b" 1, loses "b", joins "c" 1]

theorem endpoint_ids_numbered_lastReplaced :
    Along podStep DropsLast ofTwo lastReplaced ∧ (run podStep ofTwo lastReplaced).isEndpointsEnough = true ∧
      (run podStep ofTwo lastReplaced).Numbered :=
  ⟨by decide, by decide, endpoint_ids_numbered ofTwo ⟨rfl, rfl⟩ lastReplaced (by decide)⟩

/-- The first pod is lost: the next one gets the id of the second, and there is no master. -/
theorem not_endpoint_ids_numbered :
    ¬ (run podStep ofTwo [joins "a" 1, joins "b" 1, loses "a", joins "c" 1]).Numbered := by
  intro h
  have hdistinct := h.distinct
  revert hdistinct
  decide

/-! ## Dropped pods -/

/-- In every order of messages that can be built and removals of node managers without devices, the two lists of pods
agree, a removed node manager is gone, and a pod without endpoints gets them when it registers. -/
theorem dropped_pods_come_back (x : ManagedInstance) (hx : x.New) (events : List PodEvent)
    (h : Along podStep Removable x events) :
    (run podStep x events).PodsAgree ∧ Along podStep ComesBack x events := by
  have hstart : x.Paired := by
    refine ⟨by simp [hx.2], fun ip => ?_⟩
    rw [hx.1, hasNodeMgr_iff, hx.2]
    rfl
  constructor
  · exact (run_invariant (I := Paired) (fun _ _ hi hs => (paired_step hi hs).1) hstart h).agree
  · exact along_of_invariant (I := Paired) (fun _ _ hi hs => (paired_step hi hs).1)
      (fun _ _ hi hs => (paired_step hi hs).2) hstart h

def joinsDeviceless (podIp : String) : PodEvent :=
  .register 0
    { jobName := "job", podIp := podIp, businessPort := ["8000"], mgmtPort := ["8001"], nmPort := "9000",
      parallelConfig := .ofSizes 2 1, enableMultiEndpoints := false, deviceNum := 0 }

/-- A pod without devices is lost and registers again. -/
def deviceless : List PodEvent := [joinsDeviceless "a", joins "b" 1, loses "a", joinsDeviceless "a"]

theorem dropped_pods_come_back_deviceless :
    Along podStep Removable ofTwo deviceless ∧ (run podStep ofTwo deviceless).getEndpointsNum = 2 ∧
      (run podStep ofTwo deviceless).PodsAgree ∧ Along podStep ComesBack ofTwo deviceless :=
  ⟨by decide, by decide, dropped_pods_come_back ofTwo ⟨rfl, rfl⟩ deviceless (by decide)⟩

/-- A pod with a device is lost: its node manager stays, and the next message is skipped. -/
theorem not_dropped_pods_come_back :
    ¬ (run podStep ofTwo [joins "a" 1, loses "a"]).PodsAgree ∧
      ¬ ComesBack (run podStep ofTwo [joins "a" 1]) (loses "a") ∧
      ¬ ComesBack (run podStep ofTwo [joins "a" 1, loses "a"]) (joins "a" 1) := by
  refine ⟨fun h => ?_, fun h => ?_, fun h => ?_⟩
  · have hpod := (h "a").mpr (by decide)
    revert hpod
    decide
  · have hgone := h [⟨"a", "9000", 1⟩] (by decide) _ (List.mem_singleton_self _) (by decide)
      ⟨"a", "9000", 1⟩ (by decide)
    exact hgone ⟨rfl, rfl⟩
  · obtain ⟨eps, _, heps⟩ := h (by decide)
    have hnone : (run podStep ofTwo [joins "a" 1, loses "a", joins "a" 1]).endpoints.get? "a" = none := by
      decide
    cases hnone.symm.trans heps

end PyMotor.ManagedInstance
