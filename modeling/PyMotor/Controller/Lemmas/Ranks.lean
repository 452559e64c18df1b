import PyMotor.Controller.PodTheorems
import PyMotor.Lib.Lists
import PyMotor.Lib.Text

/-! The devices of an instance as its pods register, one after the other. -/

/-! The devices of the endpoints that a register message without ranktable is turned into. -/

namespace PyMotor

open Lib

namespace RegisterMsg

variable {msg : RegisterMsg} {timestamp : ℚ} {idOffset : Int} {w d : Nat}

/-! ## The devices of one endpoint -/

def deviceInfo (msg : RegisterMsg) (idOffset deviceIdx : Int) : DeviceInfo where
  deviceId := toString deviceIdx
  rankId := toString (idOffset * msg.devicesPerEndpoint + deviceIdx)

def deviceRange (msg : RegisterMsg) (idOffset a b : Int) : List DeviceInfo :=
  (Int.range a b).map (msg.deviceInfo idOffset)

def deviceEntries (eps : Dict Int Endpoint) : List (Int × List DeviceInfo) :=
  eps.entries.map fun e => (e.1, e.2.deviceInfos)

def portDevices (msg : RegisterMsg) (idOffset : Int) (i : Nat) : Int × List DeviceInfo :=
  (i, msg.deviceRange idOffset (msg.devicesPerEndpoint * i) (msg.devicesPerEndpoint * i + msg.devicesPerEndpoint))

theorem buildDeviceInfos_none (h : msg.ranktable = none) (hw : 0 ≤ msg.devicesPerEndpoint) (startIdx : Int) :
    msg.buildDeviceInfos startIdx idOffset =
      .ok (msg.deviceRange idOffset startIdx (min (startIdx + msg.devicesPerEndpoint) msg.deviceNum)) := by
  have hfilter := filterMap_range_lt (msg.deviceInfo idOffset) startIdx msg.deviceNum msg.devicesPerEndpoint.toNat
  rw [Int.toNat_of_nonneg hw] at hfilter
  have hcast : (do let a ← List.range msg.devicesPerEndpoint.toNat; pure (a : Int)) =
      (List.range msg.devicesPerEndpoint.toNat).map Nat.cast := by
    rw [List.map_eq_flatMap]
    rfl
  simp only [buildDeviceInfos, h, hcast, List.filterMap_map]
  exact congrArg Except.ok hfilter

/-! ## The loop over the ports -/

theorem le_of_ports {k n : Nat} (hw : 0 ≤ msg.devicesPerEndpoint)
    (hfit : msg.devicesPerEndpoint * (k + (n + 1) : Nat) ≤ msg.deviceNum) :
    msg.devicesPerEndpoint * k + msg.devicesPerEndpoint ≤ msg.deviceNum := by
  refine le_trans ?_ hfit
  have hle : msg.devicesPerEndpoint * (k + 1 : Nat) ≤ msg.devicesPerEndpoint * (k + (n + 1) : Nat) :=
    mul_le_mul_of_nonneg_left (by omega) hw
  rwa [Nat.cast_add, mul_add, Nat.cast_one, mul_one] at hle

theorem buildLoop_devices {ports : List String} {k : Nat} {acc : Dict Int Endpoint} (h : msg.ranktable = none)
    (hw : 0 ≤ msg.devicesPerEndpoint) (hfit : msg.devicesPerEndpoint * (k + ports.length : Nat) ≤ msg.deviceNum)
    (hport : k + ports.length ≤ msg.mgmtPort.length) (hkeys : acc.keys = (List.range k).map Int.ofNat) :
    ∃ eps, msg.buildLoop timestamp idOffset k ports acc = .ok eps ∧
      deviceEntries eps = deviceEntries acc ++ (List.range' k ports.length).map (msg.portDevices idOffset) := by
  induction ports generalizing k acc with
  | nil => exact ⟨acc, rfl, by simp⟩
  | cons port ports ih =>
      rw [List.length_cons] at hfit hport
      have hnext := le_of_ports hw hfit
      have habsent : acc.get? (k : Int) = none := by
        rw [Dict.get?_eq_none_iff, hkeys, List.mem_map]
        rintro ⟨j, hj, he⟩
        have hlt := List.mem_range.mp hj
        have heq : (j : Int) = k := he
        omega
      have hmgmt : k < msg.mgmtPort.length := by omega
      let ep : Endpoint :=
        { id := idOffset + k, ip := msg.podIp, businessPort := port, mgmtPort := msg.mgmtPort[k],
          deviceInfos := (msg.portDevices idOffset k).2, hbTimestamp := timestamp }
      have hset : (acc.set k ep).keys = (List.range (k + 1)).map Int.ofNat := by
        rw [Dict.keys_set_absent habsent, hkeys, List.range_succ, List.map_append]
        rfl
      obtain ⟨eps, hok, hdevices⟩ := ih (by rwa [Nat.add_right_comm, Nat.add_assoc]) (by omega) hset
      refine ⟨eps, ?_, ?_⟩
      · simp only [buildLoop, if_neg (not_lt.mpr hnext), buildDeviceInfos_none h hw, min_eq_left hnext,
          List.getElem?_eq_getElem hmgmt]
        exact hok
      · rw [hdevices, deviceEntries, Dict.entries_set_absent habsent, List.map_append, List.length_cons,
          List.range'_succ]
        simp [deviceEntries, ep, portDevices]

theorem buildLoop_indexError {ports : List String} {k : Nat} (h : msg.ranktable = none)
    (hw : 0 ≤ msg.devicesPerEndpoint) (hfit : msg.devicesPerEndpoint * (k + ports.length : Nat) ≤ msg.deviceNum)
    (hk : k ≤ msg.mgmtPort.length) (hport : msg.mgmtPort.length < k + ports.length) (acc : Dict Int Endpoint) :
    msg.buildLoop timestamp idOffset k ports acc = .error .indexError := by
  induction ports generalizing k acc with
  | nil =>
      rw [List.length_nil] at hport
      omega
  | cons port ports ih =>
      rw [List.length_cons] at hfit hport
      have hnext := le_of_ports hw hfit
      simp only [buildLoop, if_neg (not_lt.mpr hnext), buildDeviceInfos_none h hw]
      cases hmgmt : msg.mgmtPort[k]? with
      | none => rfl
      | some mgmtPort =>
          have hlt : k < msg.mgmtPort.length := (List.getElem?_eq_some_iff.mp hmgmt).1
          exact ih (by rwa [Nat.add_right_comm, Nat.add_assoc]) (by omega) (by omega) _

/-! ## The endpoints of a message -/

theorem actualPorts_length (hw : msg.devicesPerEndpoint = w) (hpos : 0 < w) (hd : msg.deviceNum = d) :
    ∃ ports, msg.actualPorts = .ok ports ∧ ports.length = min msg.businessPort.length (d / w) := by
  unfold actualPorts
  rw [hw, hd]
  by_cases hmore : d < msg.businessPort.length * w
  · have hdiv : (d : Int).fdiv w = (d / w : Nat) := by
      rw [Int.fdiv_eq_ediv_of_nonneg _ (by omega)]
      rfl
    refine ⟨_, by rw [if_pos (by exact_mod_cast hmore), if_neg (by omega)], ?_⟩
    rw [hdiv, sliceTo, if_pos (Int.natCast_nonneg _), Int.toNat_natCast, List.length_take, min_comm]
  · refine ⟨_, if_neg (by exact_mod_cast hmore), (min_eq_left ?_).symm⟩
    exact (Nat.le_div_iff_mul_le hpos).mpr (not_lt.mp hmore)

def endpointCount (msg : RegisterMsg) (d w : Nat) : Nat := min msg.businessPort.length (d / w)

theorem endpointCount_fits (hw : msg.devicesPerEndpoint = w) (hd : msg.deviceNum = d) :
    msg.devicesPerEndpoint * (msg.endpointCount d w : Nat) ≤ msg.deviceNum := by
  rw [hw, hd]
  exact_mod_cast (Nat.mul_le_mul_left w (Nat.min_le_right ..)).trans (Nat.mul_div_le d w)

theorem buildMultiEndpoints_devices (h : msg.ranktable = none) (hw : msg.devicesPerEndpoint = w) (hpos : 0 < w)
    (hd : msg.deviceNum = d) (hport : msg.endpointCount d w ≤ msg.mgmtPort.length) (timestamp : ℚ) (idOffset : Int) :
    ∃ eps, msg.buildMultiEndpoints timestamp idOffset = .ok eps ∧
      deviceEntries eps = (List.range (msg.endpointCount d w)).map (msg.portDevices idOffset) := by
  obtain ⟨ports, hports, hlen⟩ := actualPorts_length hw hpos hd
  have hloop : ∃ eps, msg.buildLoop timestamp idOffset 0 ports Dict.empty = .ok eps ∧
      deviceEntries eps = deviceEntries Dict.empty ++ (List.range' 0 ports.length).map (msg.portDevices idOffset) := by
    refine buildLoop_devices h (by omega) ?_ ?_ rfl
    · rw [Nat.zero_add, hlen]
      exact endpointCount_fits hw hd
    · rw [Nat.zero_add, hlen]
      exact hport
  obtain ⟨eps, hok, hdevices⟩ := hloop
  refine ⟨eps, by rw [buildMultiEndpoints, hports]; exact hok, ?_⟩
  rw [hdevices, hlen, List.range_eq_range']
  rfl

theorem buildMultiEndpoints_indexError (h : msg.ranktable = none) (hw : msg.devicesPerEndpoint = w) (hpos : 0 < w)
    (hd : msg.deviceNum = d) (hport : msg.mgmtPort.length < msg.endpointCount d w) (timestamp : ℚ) (idOffset : Int) :
    msg.buildMultiEndpoints timestamp idOffset = .error .indexError := by
  obtain ⟨ports, hports, hlen⟩ := actualPorts_length hw hpos hd
  rw [buildMultiEndpoints, hports]
  refine buildLoop_indexError h (by omega) ?_ (Nat.zero_le _) ?_ Dict.empty
  · rw [Nat.zero_add, hlen]
    exact endpointCount_fits hw hd
  · rw [Nat.zero_add, hlen]
    exact hport

end RegisterMsg

namespace ManagedInstance

variable {x : ManagedInstance} {timestamp : ℚ}

def podDevices (x : ManagedInstance) : List (List DeviceInfo) :=
  x.endpoints.values.map fun eps => eps.values.flatMap (·.deviceInfos)

def rankIds (x : ManagedInstance) : List String := (x.endpointList.flatMap (·.deviceInfos)).map (·.rankId)

theorem rankIds_eq (x : ManagedInstance) : x.rankIds = x.podDevices.flatten.map (·.rankId) := by
  rw [rankIds, Instance.endpointList, List.flatMap_assoc, podDevices, ← List.flatMap_def]

end ManagedInstance

namespace RegisterMsg

variable {x : ManagedInstance} {msg : RegisterMsg} {timestamp : ℚ} {idOffset : Int} {eps : Dict Int Endpoint}
  {w d : Nat}

theorem flatMap_deviceEntries (eps : Dict Int Endpoint) :
    eps.values.flatMap (·.deviceInfos) = ((deviceEntries eps).map Prod.snd).flatten := by
  simp [deviceEntries, Dict.values, List.flatMap_def, Function.comp_def]

theorem portDevices_flatten (hw : 0 ≤ msg.devicesPerEndpoint) (n : Nat) :
    (((List.range n).map (msg.portDevices idOffset)).map Prod.snd).flatten =
      msg.deviceRange idOffset 0 (msg.devicesPerEndpoint * n) := by
  induction n with
  | zero => simp [deviceRange, Int.range]
  | succ n ih =>
      have hend : msg.devicesPerEndpoint * (n + 1 : Nat) = msg.devicesPerEndpoint * n + msg.devicesPerEndpoint := by
        push_cast
        ring
      rw [List.range_succ, List.map_append, List.map_append, List.flatten_append, ih, hend]
      simp only [deviceRange, portDevices, List.map_cons, List.map_nil, List.flatten_cons, List.flatten_nil,
        List.append_nil]
      rw [← List.map_append, intRange_append (mul_nonneg hw (by omega)) (by omega)]

theorem map_rankId (msg : RegisterMsg) (idOffset a b : Int) :
    (msg.deviceRange idOffset a b).map (·.rankId) = (Int.range (idOffset * msg.devicesPerEndpoint + a)
      (idOffset * msg.devicesPerEndpoint + b)).map toString := by
  simp only [deviceRange, Int.range, List.map_map]
  rw [add_sub_add_left_eq_sub]
  apply List.map_congr_left
  intro j _
  simp [deviceInfo, add_assoc]

theorem map_deviceId (msg : RegisterMsg) (idOffset a b : Int) :
    (msg.deviceRange idOffset a b).map (·.deviceId) = (Int.range a b).map toString := by
  simp [deviceRange, deviceInfo]

/-! ## The endpoints of one pod -/

/-- The number of endpoints of the pod: none if there is a port too few. -/
def podEndpoints (msg : RegisterMsg) (d w : Nat) : Nat :=
  if msg.enableMultiEndpoints then
    if msg.endpointCount d w ≤ msg.mgmtPort.length then msg.endpointCount d w else 0
  else if msg.businessPort = [] ∨ msg.mgmtPort = [] then 0 else 1

def podDeviceNum (msg : RegisterMsg) (d w : Nat) : Nat :=
  if msg.enableMultiEndpoints then w * msg.podEndpoints d w else min w d * msg.podEndpoints d w

theorem podDeviceNum_le (msg : RegisterMsg) (d w : Nat) : msg.podDeviceNum d w ≤ d := by
  unfold podDeviceNum podEndpoints
  split
  · split
    · exact (Nat.mul_le_mul_left w (Nat.min_le_right ..)).trans (Nat.mul_div_le d w)
    · simp
  · split
    · simp
    · simp

theorem buildEndpoints_devices (h : msg.ranktable = none) (hw : msg.devicesPerEndpoint = w) (hpos : 0 < w)
    (hd : msg.deviceNum = d) (timestamp : ℚ) (idOffset : Int) :
    ((∃ e, msg.buildEndpoints timestamp idOffset = .error e) ∧ msg.podEndpoints d w = 0) ∨
      ∃ eps, msg.buildEndpoints timestamp idOffset = .ok eps ∧ eps.values.length = msg.podEndpoints d w ∧
        eps.values.flatMap (·.deviceInfos) = msg.deviceRange idOffset 0 (msg.podDeviceNum d w : Nat) := by
  unfold buildEndpoints
  by_cases hmulti : msg.enableMultiEndpoints = true
  · rw [if_pos hmulti]
    by_cases hport : msg.endpointCount d w ≤ msg.mgmtPort.length
    · obtain ⟨eps, hok, hdevices⟩ := buildMultiEndpoints_devices h hw hpos hd hport timestamp idOffset
      refine Or.inr ⟨eps, hok, ?_, ?_⟩
      · have hlen := congrArg List.length hdevices
        simpa [deviceEntries, Dict.values, podEndpoints, hmulti, hport] using hlen
      · rw [flatMap_deviceEntries, hdevices, portDevices_flatten (by omega), hw]
        simp [podDeviceNum, podEndpoints, hmulti, hport]
    · have herror := buildMultiEndpoints_indexError h hw hpos hd (not_le.mp hport) timestamp idOffset
      exact Or.inl ⟨⟨_, herror⟩, by simp [podEndpoints, hmulti, hport]⟩
  · rw [if_neg hmulti, buildSingleEndpoint, buildDeviceInfos_none h (by omega)]
    cases hbusiness : msg.businessPort with
    | nil => exact Or.inl ⟨⟨_, rfl⟩, by simp [podEndpoints, hmulti, hbusiness]⟩
    | cons port ports =>
        cases hmgmt : msg.mgmtPort with
        | nil => exact Or.inl ⟨⟨_, rfl⟩, by simp [podEndpoints, hmulti, hmgmt]⟩
        | cons port' ports' =>
            refine Or.inr ⟨_, rfl, ?_, ?_⟩
            · rw [Dict.values_set_absent (Dict.get?_empty 0)]
              simp [podEndpoints, hmulti, hbusiness, hmgmt]
            · rw [Dict.values_set_absent (Dict.get?_empty 0), zero_add, hw, hd]
              simp [podDeviceNum, podEndpoints, hmulti, hbusiness, hmgmt]

end RegisterMsg

namespace ManagedInstance

variable {x : ManagedInstance} {timestamp : ℚ} {msg : RegisterMsg} {w d : Nat}

theorem podDevices_addPod (hunknown : x.hasNodeMgr msg.podIp = false) (ha : x.Accounted) (h : msg.ranktable = none)
    (hw : msg.devicesPerEndpoint = w) (hpos : 0 < w) (hd : msg.deviceNum = d) (timestamp : ℚ) :
    (msg.addPod timestamp x).2.getEndpointsNum = x.getEndpointsNum + msg.podEndpoints d w ∧
      ((msg.podEndpoints d w = 0 ∧ (msg.addPod timestamp x).2.podDevices = x.podDevices) ∨
        (msg.addPod timestamp x).2.podDevices =
          x.podDevices ++ [msg.deviceRange x.getEndpointsNum 0 (msg.podDeviceNum d w : Nat)]) := by
  have habsent : x.endpoints.get? msg.podIp = none := by
    rw [Dict.get?_eq_none_iff]
    intro hip
    rw [hasNodeMgr_iff.mpr (ha _ hip)] at hunknown
    cases hunknown
  have hbuilt := RegisterMsg.buildEndpoints_devices h hw hpos hd timestamp x.getEndpointsNum
  rcases addPod_cases msg timestamp x with ⟨hknown, -⟩ | ⟨-, -, ⟨e, he, heq⟩ | ⟨eps, hok, heq⟩⟩
  · rw [hunknown] at hknown
    cases hknown
  · rcases hbuilt with ⟨-, hzero⟩ | ⟨eps, hok, -⟩
    · simp [getEndpointsNum, podDevices, heq, hzero]
    · rw [he] at hok
      cases hok
  · rcases hbuilt with ⟨⟨e, he⟩, -⟩ | ⟨eps', hok', hlen, hdevices⟩
    · rw [he] at hok
      cases hok
    · rw [hok] at hok'
      cases hok'
      constructor
      · rw [getEndpointsNum, heq, Dict.values_set_absent habsent, ← hlen]
        simp [getEndpointsNum, Dict.values]
      · right
        rw [podDevices, heq, Dict.values_set_absent habsent]
        simp [podDevices, hdevices]

end ManagedInstance

namespace ManagedInstance

variable {x : ManagedInstance} {timestamp : ℚ} {w d : Nat}

/-- The ranks of `n` endpoints: without gaps, or the first devices of a block for each of them. -/
def rankNumbers (multi : Bool) (w d n : Nat) : List Int :=
  if multi then Int.range 0 (n * w)
  else (List.range n).flatMap fun i : Nat => Int.range (i * w) (i * w + (min w d : Nat))

/-- An instance with `n` endpoints. -/
structure Ranked (multi : Bool) (w d n : Nat) (x : ManagedInstance) : Prop where
  accounted : x.Accounted
  num : x.getEndpointsNum = n
  ranks : x.rankIds = (rankNumbers multi w d n).map toString
  pods : ∀ infos ∈ x.podDevices, ∃ k : Nat, k ≤ d ∧ infos.map (·.deviceId) = (Int.range 0 k).map toString

theorem ranked_new (h : x.New) (multi : Bool) (w d : Nat) : x.Ranked multi w d 0 where
  accounted ip hip := by
    rw [h.1] at hip
    cases hip
  num := by
    rw [getEndpointsNum, h.1]
    rfl
  ranks := by
    rw [rankIds, Instance.endpointList, h.1]
    cases multi <;> simp [rankNumbers, Int.range]
  pods infos hinfos := by
    rw [podDevices, h.1] at hinfos
    cases hinfos

theorem rankNumbers_add (msg : RegisterMsg) (w d n : Nat) :
    rankNumbers msg.enableMultiEndpoints w d (n + msg.podEndpoints d w) =
      rankNumbers msg.enableMultiEndpoints w d n ++ Int.range (n * w) (n * w + (msg.podDeviceNum d w : Nat)) := by
  cases hmulti : msg.enableMultiEndpoints with
  | true =>
      have hend : ((n + msg.podEndpoints d w : Nat) : Int) * w = n * w + (w * msg.podEndpoints d w : Nat) := by
        push_cast
        ring
      simp only [rankNumbers, if_true, RegisterMsg.podDeviceNum, hmulti, hend]
      exact (intRange_append (by positivity) (by omega)).symm
  | false =>
      have hone : msg.podEndpoints d w = 0 ∨ msg.podEndpoints d w = 1 := by
        rw [RegisterMsg.podEndpoints, hmulti]
        simp only [Bool.false_eq_true, if_false]
        split <;> simp
      rcases hone with he | he
      · simp [rankNumbers, RegisterMsg.podDeviceNum, hmulti, he, Int.range]
      · simp [rankNumbers, RegisterMsg.podDeviceNum, hmulti, he, List.range_succ]

theorem Ranked.addPod {multi : Bool} {n : Nat} {msg : RegisterMsg} (hx : x.Ranked multi w d n)
    (hunknown : x.hasNodeMgr msg.podIp = false) (hmulti : msg.enableMultiEndpoints = multi)
    (h : msg.ranktable = none) (hw : msg.devicesPerEndpoint = w) (hpos : 0 < w) (hd : msg.deviceNum = d)
    (timestamp : ℚ) : (msg.addPod timestamp x).2.Ranked multi w d (n + msg.podEndpoints d w) := by
  subst hmulti
  obtain ⟨hnum, hdevices⟩ := podDevices_addPod hunknown hx.accounted h hw hpos hd timestamp
  refine ⟨hx.accounted.addPod msg timestamp, by rw [hnum, hx.num], ?_, ?_⟩
  · have hranks := hx.ranks
    rw [rankIds_eq] at hranks ⊢
    rcases hdevices with ⟨hzero, hsame⟩ | happend
    · rw [hsame, hranks, hzero, Nat.add_zero]
    · rw [happend, rankNumbers_add, List.flatten_append, List.map_append, hranks, List.map_append]
      simp [RegisterMsg.map_rankId, hx.num, hw]
  · intro infos hinfos
    rcases hdevices with ⟨-, hsame⟩ | happend
    · rw [hsame] at hinfos
      exact hx.pods infos hinfos
    · rw [happend] at hinfos
      rcases List.mem_append.mp hinfos with hinfos | hinfos
      · exact hx.pods infos hinfos
      · rw [List.mem_singleton.mp hinfos]
        exact ⟨_, RegisterMsg.podDeviceNum_le msg d w, RegisterMsg.map_deviceId ..⟩

/-! ## All pods of a job -/

/-- The messages of distinct pods, one after the other. -/
def addPods (timestamp : ℚ) (x : ManagedInstance) (msgs : List RegisterMsg) : ManagedInstance :=
  msgs.foldl (fun x msg => (msg.addPod timestamp x).2) x

theorem Ranked.addPods {multi : Bool} {n : Nat} {msgs : List RegisterMsg} (hx : x.Ranked multi w d n) (hpos : 0 < w)
    (hmsgs : ∀ msg ∈ msgs, msg.enableMultiEndpoints = multi ∧ msg.ranktable = none ∧ msg.devicesPerEndpoint = w ∧
      msg.deviceNum = d)
    (hnew : ∀ msg ∈ msgs, x.hasNodeMgr msg.podIp = false) (hn : (msgs.map (·.podIp)).Nodup) (timestamp : ℚ) :
    (x.addPods timestamp msgs).Ranked multi w d (n + (msgs.map fun msg => msg.podEndpoints d w).sum) := by
  induction msgs generalizing x n with
  | nil => exact hx
  | cons msg msgs ih =>
      rw [List.map_cons, List.nodup_cons] at hn
      obtain ⟨hmulti, hnone, hw, hd⟩ := hmsgs msg (List.mem_cons_self ..)
      have hunknown := hnew msg (List.mem_cons_self ..)
      have hrest : ∀ msg' ∈ msgs, (msg.addPod timestamp x).2.hasNodeMgr msg'.podIp = false := by
        intro msg' hmsg'
        have hold := hnew msg' (List.mem_cons_of_mem _ hmsg')
        rw [Bool.eq_false_iff, ne_eq, hasNodeMgr_iff] at hold ⊢
        rcases addPod_cases msg timestamp x with ⟨-, heq⟩ | ⟨-, hnms, -⟩
        · rwa [heq]
        · rw [hnms, List.map_append, List.mem_append, not_or]
          refine ⟨hold, fun hmem => hn.1 ?_⟩
          have hip : msg'.podIp = msg.podIp := List.mem_singleton.mp hmem
          exact hip ▸ List.mem_map_of_mem hmsg'
      have hstep := hx.addPod hunknown hmulti hnone hw hpos hd timestamp
      rw [List.map_cons, List.sum_cons, ← Nat.add_assoc]
      exact ih hstep (fun msg' hmsg' => hmsgs msg' (List.mem_cons_of_mem _ hmsg')) hrest hn.2

/-! ## Which ranks are the first ones -/

/-- The ranks are those below the world size, each once, and the devices of a pod are distinct and below `d`. -/
structure RanksAssigned (x : ManagedInstance) (worldSize : Int) (d : Nat) : Prop where
  distinct : x.rankIds.Nodup
  ranks : ∀ rank, rank ∈ x.rankIds ↔ ∃ k : Int, 0 ≤ k ∧ k < worldSize ∧ rank = toString k
  devices : ∀ infos ∈ x.podDevices, (infos.map (·.deviceId)).Nodup ∧
    ∀ id ∈ infos.map (·.deviceId), ∃ k : Int, 0 ≤ k ∧ k < d ∧ id = toString k

theorem mem_rankNumbers_single {n : Nat} {k : Int} :
    k ∈ rankNumbers false w d n ↔ ∃ i : Nat, i < n ∧ (i : Int) * w ≤ k ∧ k < i * w + (min w d : Nat) := by
  simp [rankNumbers, Int.mem_range_iff]

theorem nodup_rankNumbers (multi : Bool) (w d n : Nat) : (rankNumbers multi w d n).Nodup := by
  cases multi with
  | true => exact nodup_intRange _ _
  | false =>
      refine List.nodup_flatMap.mpr ⟨fun i _ => nodup_intRange _ _, ?_⟩
      refine List.nodup_range.imp fun {i j} hne => ?_
      intro k hk hk'
      obtain ⟨hle, hlt⟩ := Int.mem_range_iff.mp hk
      obtain ⟨hle', hlt'⟩ := Int.mem_range_iff.mp hk'
      have hblocks := block_disjoint (w := (w : Int)) (by omega) (by simpa using hne : (i : Int) ≠ j)
      exact Set.disjoint_left.mp hblocks ⟨hle, by omega⟩ ⟨hle', by omega⟩

theorem length_rankNumbers (multi : Bool) (w d n : Nat) :
    (rankNumbers multi w d n).length = n * if multi then w else min w d := by
  cases multi with
  | true =>
      simp only [rankNumbers, if_true, length_intRange, sub_zero]
      exact_mod_cast Int.toNat_natCast (n * w)
  | false =>
      have hwidth : ∀ i : Nat, (Int.range (i * w) (i * w + (min w d : Nat))).length = min w d := by
        intro i
        rw [length_intRange, add_sub_cancel_left, Int.toNat_natCast]
      simp only [rankNumbers, Bool.false_eq_true, if_false, List.length_flatMap, hwidth]
      simp

theorem Ranked.assigned_iff {multi : Bool} {n : Nat} (hx : x.Ranked multi w d n) (world : Int) :
    x.RanksAssigned world d ↔ ∀ k, k ∈ rankNumbers multi w d n ↔ 0 ≤ k ∧ k < world := by
  constructor
  · intro h k
    have hk := h.ranks (toString k)
    rw [hx.ranks, List.mem_map_of_injective Text.toString_injective] at hk
    rw [hk]
    constructor
    · rintro ⟨k', hle, hlt, he⟩
      rw [Text.toString_injective he]
      exact ⟨hle, hlt⟩
    · rintro ⟨hle, hlt⟩
      exact ⟨k, hle, hlt, rfl⟩
  · intro h
    refine ⟨?_, fun rank => ?_, fun infos hinfos => ?_⟩
    · rw [hx.ranks]
      exact (nodup_rankNumbers multi w d n).map Text.toString_injective
    · rw [hx.ranks, List.mem_map]
      constructor
      · rintro ⟨k, hk, rfl⟩
        obtain ⟨hle, hlt⟩ := (h k).mp hk
        exact ⟨k, hle, hlt, rfl⟩
      · rintro ⟨k, hle, hlt, rfl⟩
        exact ⟨k, (h k).mpr ⟨hle, hlt⟩, rfl⟩
    · obtain ⟨k, hk, hids⟩ := hx.pods infos hinfos
      rw [hids]
      refine ⟨(nodup_intRange 0 k).map Text.toString_injective, fun id hid => ?_⟩
      obtain ⟨j, hj, rfl⟩ := List.mem_map.mp hid
      obtain ⟨hle, hlt⟩ := Int.mem_range_iff.mp hj
      exact ⟨j, hle, by omega, rfl⟩

theorem length_of_assigned {multi : Bool} {n world : Nat}
    (h : ∀ k, k ∈ rankNumbers multi w d n ↔ 0 ≤ k ∧ k < (world : Int)) :
    (n * if multi then w else min w d) = world := by
  have hperm : (rankNumbers multi w d n).Perm (Int.range 0 world) := by
    refine (List.perm_ext_iff_of_nodup (nodup_rankNumbers ..) (nodup_intRange ..)).mpr fun k => ?_
    rw [h k, Int.mem_range_iff]
  have hlen := hperm.length_eq
  rwa [length_rankNumbers, length_intRange, sub_zero, Int.toNat_natCast] at hlen

theorem assigned_multi_iff {n world : Nat} :
    (∀ k, k ∈ rankNumbers true w d n ↔ 0 ≤ k ∧ k < (world : Int)) ↔ n * w = world := by
  constructor
  · exact fun h => by simpa using length_of_assigned h
  · rintro rfl k
    simp [rankNumbers, Int.mem_range_iff]

/-- With one endpoint for each of `n` pods the ranks are those of all devices only if the blocks are as wide as the
pods, or there is one pod. -/
theorem assigned_single_iff {n pods : Nat} (hd : 0 < d) (hpods : 0 < pods) (hn : n ≤ pods) :
    (∀ k, k ∈ rankNumbers false w d n ↔ 0 ≤ k ∧ k < ((pods * d : Nat) : Int)) ↔
      n = pods ∧ (w = d ∨ pods = 1 ∧ d ≤ w) := by
  constructor
  · intro h
    have hlen : n * min w d = pods * d := by simpa using length_of_assigned h
    have hnum : n = pods := by
      refine le_antisymm hn (not_lt.mp fun hlt => ?_)
      have hle := Nat.mul_le_mul_left n (Nat.min_le_right w d)
      have hmore := Nat.mul_lt_mul_of_pos_right hlt hd
      omega
    subst hnum
    have hmin : min w d = d := Nat.eq_of_mul_eq_mul_left hpods hlen
    have hdw : d ≤ w := min_eq_right_iff.mp hmin
    refine ⟨rfl, ?_⟩
    by_cases hone : n = 1
    · exact Or.inr ⟨hone, hdw⟩
    · left
      -- The first device of the second pod has the rank `d`.
      have hsecond : (d : Int) < ((n * d : Nat) : Int) := by
        have hlt := Nat.mul_lt_mul_of_pos_right (by omega : 1 < n) hd
        omega
      obtain ⟨i, -, hle, hlt⟩ := mem_rankNumbers_single.mp ((h d).mpr ⟨by omega, hsecond⟩)
      rw [hmin] at hlt
      have hi : 0 < i := by
        rcases Nat.eq_zero_or_pos i with rfl | hi
        · simp at hlt
        · exact hi
      have hwle : w ≤ i * w := Nat.le_mul_of_pos_left w hi
      have hid : i * w ≤ d := by exact_mod_cast hle
      omega
  · rintro ⟨rfl, hcase⟩ k
    rw [mem_rankNumbers_single]
    rcases hcase with rfl | ⟨rfl, hdw⟩
    · have hblocks := exists_block_iff (w := (w : Int)) (n := (n : Int)) (x := k) (by omega)
      rw [Nat.min_self]
      push_cast
      rw [← hblocks]
      constructor
      · rintro ⟨i, hi, hle, hlt⟩
        exact ⟨i, by omega, by omega, hle, hlt⟩
      · rintro ⟨i, hi, hlt, hblock⟩
        obtain ⟨j, rfl⟩ := Int.eq_ofNat_of_zero_le hi
        exact ⟨j, by omega, hblock⟩
    · rw [min_eq_right hdw]
      constructor
      · rintro ⟨i, hi, hle, hlt⟩
        have hzero : i = 0 := by omega
        subst hzero
        constructor
        · simpa using hle
        · simpa using hlt
      · rintro ⟨hle, hlt⟩
        exact ⟨0, by omega, by simpa using hle, by simpa using hlt⟩

end ManagedInstance

end PyMotor
