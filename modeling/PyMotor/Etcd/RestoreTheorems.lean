import PyMotor.Lib.Lists
import PyMotor.Controller.Lemmas.Tracked
import PyMotor.Etcd.Lemmas
import PyMotor.Etcd.Restore

/-!
# A failed read is taken for an empty store
-/

namespace PyMotor

open Lib

variable {T M κ α β : Type}

/-! ## Items that can all be constructed -/

theorem constructAll_of_forall [DecidableEq κ] {init : String × Json → Option (κ × β)} {items : List (String × Json)}
    (h : ∀ item ∈ items, (init item).isSome = true) (d : Dict κ β) :
    constructAll init items d = (true, d.update (items.filterMap init)) := by
  induction items generalizing d with
  | nil => rfl
  | cons item items ih =>
      obtain ⟨⟨key, value⟩, hinit⟩ := Option.isSome_iff_exists.mp (h item (List.mem_cons_self ..))
      simp only [constructAll, hinit, List.filterMap_cons, Dict.update_cons]
      exact ih (fun item hmem => h item (List.mem_cons_of_mem _ hmem)) _

theorem constructAll_true [DecidableEq κ] {init : String × Json → Option (κ × β)} {items : List (String × Json)}
    {d : Dict κ β} (h : (constructAll init items d).1 = true) : ∀ item ∈ items, (init item).isSome = true := by
  induction items generalizing d with
  | nil => exact fun item hmem => (nomatch hmem)
  | cons item items ih =>
      unfold constructAll at h
      rw [List.forall_mem_cons]
      cases hinit : init item with
      | none =>
          rw [hinit] at h
          cases h
      | some entry =>
          rw [hinit] at h
          exact ⟨rfl, ih h⟩

theorem holdsRecords_update {ρ : Type} [DecidableEq κ] (construct : ρ → Option (κ × β)) (records : List ρ) {d : Dict κ β}
    (hd : ∀ key, d.get? key = (Dict.empty.update (records.filterMap construct)).get? key) :
    HoldsRecords construct records d ↔ ∀ record ∈ records, (construct record).isSome = true := by
  refine ⟨fun h => h.constructed, fun h => ⟨h, fun key => ?_⟩⟩
  rw [hd, Dict.get?_update, Dict.get?_empty, Option.or_none]

/-! ## The read -/

section

variable {codec : RestoreCodec T} {client : EtcdClient} {store : Dict String T} {keyPrefix : String} {answered : Bool}

theorem getLast?_readItems {start : String} {l : List (String × T)} (h : ∀ kv ∈ l, (codec.jsonLoads kv.2).isSome = true)
    (key : String) :
    (((l.filterMap (EtcdClient.readItem codec.states start)).filter fun e => e.1 = key).getLast?).map Prod.snd =
      (l.filter fun kv => EtcdClient.relativeKey start kv.1 = key).getLast?.bind fun kv => codec.jsonLoads kv.2 := by
  induction l using List.reverseRecOn with
  | nil => rfl
  | append_singleton l kv ih =>
      obtain ⟨item, hitem⟩ := Option.isSome_iff_exists.mp (h kv (List.mem_append_right _ (List.mem_singleton_self kv)))
      have hread : EtcdClient.readItem codec.states start kv = some (EtcdClient.relativeKey start kv.1, item) := by
        simp [EtcdClient.readItem, RestoreCodec.states, hitem]
      rw [List.filterMap_append, List.filterMap_cons_some hread, List.filterMap_nil, List.filter_append,
        List.filter_append]
      by_cases hkey : EtcdClient.relativeKey start kv.1 = key
      · simp [hkey, hitem]
      · simpa [hkey] using ih fun kv' hkv' => h kv' (List.mem_append_left _ hkv')

theorem isSome_readItem (codec : RestoreCodec T) (start : String) (kv : String × T) :
    (EtcdClient.readItem codec.states start kv).isSome = (codec.jsonLoads kv.2).isSome := Option.isSome_map

theorem restoreDataOf_readable (h : Readable codec client store keyPrefix answered)
    (hne : stored client store keyPrefix ≠ []) :
    ∃ states, client.restoreDataOf codec.states store keyPrefix answered = some states ∧
      states.get? "state" = storedState codec client store keyPrefix := by
  obtain ⟨rfl, hread⟩ := h
  have hitems : (stored client store keyPrefix).mapM
      (EtcdClient.readItem codec.states (client.getKeyWithNamespaceAndJobName keyPrefix)) = some _ :=
    mapM_of_forall fun kv hkv => by rw [isSome_readItem]; exact hread kv hkv
  refine ⟨Dict.empty.update ((stored client store keyPrefix).filterMap
    (EtcdClient.readItem codec.states (client.getKeyWithNamespaceAndJobName keyPrefix))), ?_, ?_⟩
  swap
  · rw [Dict.get?_update, Dict.get?_empty, Option.or_none, getLast?_readItems hread]
    rfl
  unfold EtcdClient.restoreDataOf EtcdClient.getPrefixData
  unfold stored at hitems
  simp only [if_true, hitems, EtcdClient.nonEmpty]
  rw [if_neg]
  · rfl
  · rw [EtcdClient.isEmpty_entries_iff]
    intro hnone
    obtain ⟨kv, rest, hkv⟩ := List.exists_cons_of_ne_nil hne
    obtain ⟨item, hitem⟩ := Option.isSome_iff_exists.mp (hread kv (by rw [hkv]; exact List.mem_cons_self ..))
    have hmem : (EtcdClient.relativeKey (client.getKeyWithNamespaceAndJobName keyPrefix) kv.1, item) ∈
        (stored client store keyPrefix).filterMap
          (EtcdClient.readItem codec.states (client.getKeyWithNamespaceAndJobName keyPrefix)) := by
      refine List.mem_filterMap.mpr ⟨kv, ?_, ?_⟩
      · rw [hkv]
        exact List.mem_cons_self ..
      · simp [EtcdClient.readItem, RestoreCodec.states, hitem]
    obtain ⟨v, hv⟩ := Dict.exists_get?_update (d := Dict.empty) (List.mem_map_of_mem hmem)
    unfold stored at hv
    rw [hnone] at hv
    cases hv

theorem restoreDataOf_unreadable (h : ¬ Readable codec client store keyPrefix answered) :
    client.restoreDataOf codec.states store keyPrefix answered = none := by
  unfold EtcdClient.restoreDataOf
  cases answered with
  | false => rfl
  | true =>
      have hnone : (stored client store keyPrefix).mapM
          (EtcdClient.readItem codec.states (client.getKeyWithNamespaceAndJobName keyPrefix)) = none := by
        rw [← Option.not_isSome_iff_eq_none, isSome_mapM_iff]
        intro hall
        exact h ⟨rfl, fun kv hkv => by rw [← isSome_readItem codec]; exact hall kv hkv⟩
      unfold stored at hnone
      simp [EtcdClient.getPrefixData, hnone, EtcdClient.nonEmpty, Dict.empty]

theorem restoreDataOf_nothing (h : stored client store keyPrefix = []) :
    client.restoreDataOf codec.states store keyPrefix answered = none := by
  unfold EtcdClient.restoreDataOf EtcdClient.getPrefixData
  unfold stored at h
  cases answered <;> simp [h, EtcdClient.nonEmpty, Dict.empty, Dict.update]

theorem restoreVia_honest_iff {load : Etcd.PersistentState Json → M → Bool × M}
    {holds : Etcd.PersistentState Json → M → M → Prop} (complete : Etcd.PersistentState Json → Prop) {m : M}
    (hload : ∀ state, (load state m).1 = true → (holds state m (load state m).2 ↔ complete state)) :
    RestoresHonestly codec client store keyPrefix holds answered m
        (restoreVia load (Etcd.PersistentState.isValid codec.toCodec)
          (client.restoreDataOf codec.states store keyPrefix answered) m) ↔
      stored client store keyPrefix = [] ∨ Readable codec client store keyPrefix answered ∧
        ∀ state, ValidState codec client store keyPrefix state → (load state m).1 = true → complete state := by
  by_cases hstored : stored client store keyPrefix = []
  · rw [restoreDataOf_nothing hstored]
    exact ⟨fun _ => .inl hstored, fun _ => ⟨fun _ => .inl hstored, fun hne => absurd hstored hne⟩⟩
  · simp only [hstored, false_or]
    by_cases hread : Readable codec client store keyPrefix answered
    · obtain ⟨states, hstates, hget⟩ := restoreDataOf_readable hread hstored
      simp only [RestoresHonestly, hstored, false_or, hread, not_true_eq_false, false_implies, implies_true,
        and_true, true_and, ValidState, hstates, restoreVia, hget]
      cases hstate : storedState codec client store keyPrefix with
      | none => simp
      | some state =>
          by_cases hvalid : state.isValid codec.toCodec = true
          · simp only [hvalid, if_true, Option.some.injEq, exists_eq_left']
            constructor
            · rintro h state' ⟨rfl, -⟩ htrue
              exact (hload state htrue).1 (h htrue)
            · exact fun h htrue => (hload state htrue).2 (h state ⟨rfl, hvalid⟩ htrue)
          · simp only [hvalid, if_false, Bool.false_eq_true, false_implies, true_iff]
            rintro state' ⟨hs, hv⟩
            rw [Option.some.injEq] at hs
            subst hs
            exact absurd hv hvalid
    · simp only [RestoresHonestly, hread, restoreDataOf_unreadable hread, false_and, iff_false]
      intro h
      exact absurd (h.2 hstored (by simp)) (by simp [restoreVia])

/-! ## The managers -/

theorem maybeRefreshHeartbeat_eq (timestamp : ℚ) (x : ManagedInstance) :
    Controller.maybeRefreshHeartbeat timestamp x = asRestored timestamp x := by
  unfold Controller.maybeRefreshHeartbeat asRestored
  by_cases hs : x.status = .active
  · simp only [if_pos hs]
    rfl
  · simp only [if_neg hs, Dict.mapValues_id]

theorem loadInstances_holds_iff (codec : RestoreCodec T) (timestamp : ℚ) (state : Etcd.PersistentState Json)
    (c : Controller) : codec.HoldsInstances timestamp state c (codec.loadInstances timestamp state c).2 ↔
      ∀ record ∈ state.data.values, (codec.modelInit record).isSome = true := by
  have hdict : ∀ id, ((codec.loadInstances timestamp state c).2.instances.mapValues
      (codec.loadInstances timestamp state c).2.obj).get? id = (Dict.empty.update (state.data.values.filterMap
        fun record => (codec.modelInit record).map fun x => (x.id, asRestored timestamp x))).get? id := by
    intro id
    have hloop := Controller.get?_map_foldl_restoreInstance timestamp (state.data.values.filterMap codec.modelInit)
      (c := { c with dataVersion := max c.dataVersion state.version, instances := Dict.empty }) (d := Dict.empty)
      (fun _ _ hr => (nomatch hr)) (fun _ => rfl) id
    simp only [maybeRefreshHeartbeat_eq, List.map_filterMap] at hloop
    rw [Dict.get?_mapValues]
    exact hloop
  have hversion : (codec.loadInstances timestamp state c).2.dataVersion = max c.dataVersion state.version := by
    simp [RestoreCodec.loadInstances, Controller.restoreInstances]
  constructor
  · intro h
    simpa using h.instances.constructed
  · intro h
    exact ⟨hversion, (holdsRecords_update _ _ hdict).2 (by simpa using h)⟩

theorem loadAssembler_holds_iff (codec : RestoreCodec T) (state : Etcd.PersistentState Json) (a : AssemblerMemory)
    (htrue : (codec.loadAssembler state a).1 = true) :
    codec.HoldsAssembler state a (codec.loadAssembler state a).2 ↔
      ∀ items, field state "instances" = .obj items → ∀ item ∈ items, (codec.assembleInit item.2).isSome = true := by
  cases hitems : field state "instances" with
  | obj items =>
      have hdict := holdsRecords_update (fun item => (codec.assembleInit item.2).map fun metadata => (item.1, metadata))
        items (d := (codec.loadAssembler state a).2.instances) fun key => by
          simp only [RestoreCodec.loadAssembler, hitems]
          rfl
      constructor
      · rintro h items' heq
        cases heq
        obtain ⟨items', heq, hrecords⟩ := h.instances
        cases hitems.symm.trans heq
        simpa using hrecords.constructed
      · intro h
        refine ⟨?_, ?_, items, hitems, hdict.2 (by simpa using h items rfl)⟩
        · simp only [RestoreCodec.loadAssembler, hitems]
        · simp only [RestoreCodec.loadAssembler, hitems]
  | _ => simp [RestoreCodec.loadAssembler, hitems] at htrue

theorem loadFaultManager_holds (codec : RestoreCodec T) (state : Etcd.PersistentState Json) (f : FaultManagerMemory)
    (htrue : (codec.loadFaultManager state f).1 = true) :
    codec.HoldsFaultManager state f (codec.loadFaultManager state f).2 := by
  unfold RestoreCodec.loadFaultManager at htrue ⊢
  cases hnodes : field state "nodes" with
  | obj nodes =>
      rw [hnodes] at htrue
      dsimp only at htrue ⊢
      rcases hloop : constructAll codec.nodeItem nodes Dict.empty with ⟨_ | _, loaded⟩
      · rw [hloop] at htrue
        cases htrue
      · rw [hloop] at htrue
        have hns := constructAll_true (show (constructAll codec.nodeItem nodes Dict.empty).1 = true by rw [hloop])
        rw [constructAll_of_forall hns] at hloop
        obtain ⟨-, rfl⟩ := Prod.mk.inj hloop
        dsimp only at htrue ⊢
        cases hinstances : field state "instances" with
        | obj instances =>
            rw [hinstances] at htrue
            have his := constructAll_true htrue
            refine ⟨rfl, ⟨nodes, hnodes, (holdsRecords_update _ _ fun _ => rfl).2 hns⟩, instances, hinstances, ?_⟩
            dsimp only
            rw [constructAll_of_forall his]
            exact (holdsRecords_update _ _ fun _ => rfl).2 his
        | _ =>
            rw [hinstances] at htrue
            cases htrue
  | _ =>
      rw [hnodes] at htrue
      cases htrue

end

/-- The managers take a read that fails for an empty store, and two of them skip what they cannot construct. -/
theorem restore_honest_iff (codec : RestoreCodec T) (client : EtcdClient) (store : Dict String T) (answered : Bool) :
    (∀ (timestamp : ℚ) (c : Controller),
      RestoresHonestly codec client store "/controller/instance_manager" (codec.HoldsInstances timestamp) answered c
          (c.restoreFrom codec client store answered timestamp) ↔
        stored client store "/controller/instance_manager" = [] ∨
          Readable codec client store "/controller/instance_manager" answered ∧
          ∀ state, ValidState codec client store "/controller/instance_manager" state →
            ∀ x ∈ state.data.values, (codec.modelInit x).isSome = true) ∧
    (∀ a : AssemblerMemory,
      RestoresHonestly codec client store "/controller/instance_assembler" codec.HoldsAssembler answered a
          (a.restoreFrom codec client store answered) ↔
        stored client store "/controller/instance_assembler" = [] ∨
          Readable codec client store "/controller/instance_assembler" answered ∧
          ∀ state items, ValidState codec client store "/controller/instance_assembler" state →
            field state "instances" = .obj items → ∀ item ∈ items, (codec.assembleInit item.2).isSome = true) ∧
    (∀ f : FaultManagerMemory,
      RestoresHonestly codec client store "/controller/fault_manager" codec.HoldsFaultManager answered f
          (f.restoreFrom codec client store answered) ↔
        stored client store "/controller/fault_manager" = [] ∨
          Readable codec client store "/controller/fault_manager" answered) := by
  refine ⟨fun timestamp c => ?_, fun a => ?_, fun f => ?_⟩
  · unfold Controller.restoreFrom
    rw [restoreVia_honest_iff _ fun state _ => loadInstances_holds_iff codec timestamp state c]
    simp [RestoreCodec.loadInstances]
  · unfold AssemblerMemory.restoreFrom
    rw [restoreVia_honest_iff _ fun state => loadAssembler_holds_iff codec state a]
    refine or_congr_right (and_congr_right fun _ => ⟨fun h state items hvalid hitems => ?_, fun h state hvalid _ => ?_⟩)
    · exact h state hvalid (by simp [RestoreCodec.loadAssembler, hitems]) items hitems
    · exact fun items => h state items hvalid
  · unfold FaultManagerMemory.restoreFrom
    rw [restoreVia_honest_iff (fun _ => True)
      fun state htrue => iff_true_intro (loadFaultManager_holds codec state f htrue)]
    exact or_congr_right (and_iff_left fun _ _ _ => trivial)

def emptyStates : RestoreCodec Unit where
  modelDump _ := .null
  modelInit _ := none
  strItems _ := ""
  strFloat _ := ""
  sha256 _ := ""
  jsonDumps _ := ()
  jsonLoads _ := some { data := Dict.empty, version := 1, timestamp := 0, checksum := "" }
  assembleInit _ := none
  nodeInit _ := none
  instanceMetadataInit _ := none

def managerStore : Dict String Unit := Dict.empty.set "ns/job/controller/instance_manager/state" ()

/-- The range request fails while a state is stored, and the manager reports success. -/
theorem not_restoresHonestly_rangeFailed :
    ¬ RestoresHonestly emptyStates ⟨"ns", "job"⟩ managerStore "/controller/instance_manager"
      (emptyStates.HoldsInstances 0) false {}
      (Controller.restoreFrom emptyStates ⟨"ns", "job"⟩ managerStore false 0 {}) := by
  intro h
  have hstored : stored ⟨"ns", "job"⟩ managerStore "/controller/instance_manager" ≠ [] := by
    have hlen : (stored ⟨"ns", "job"⟩ managerStore "/controller/instance_manager").length = 1 := by decide +kernel
    intro hnil
    rw [hnil] at hlen
    cases hlen
  have hfalse := h.2 hstored fun hread => nomatch hread.1
  cases hfalse

end PyMotor
