import PyMotor.Etcd.Lemmas
import PyMotor.Etcd.Client
import PyMotor.Lib.Lists

/-!
# What is persisted comes back

The keys of the data are under the resolved prefix, unless what the client puts in front is completed by a key itself.
-/

namespace PyMotor

open Lib EtcdClient

/-! ## Ranges -/

/-- The range of a prefix has exactly the keys that begin with it. -/
theorem inRange_prefix_iff {keyPrefix : String} (hne : keyPrefix ≠ "") (key : Bytes) :
    inRange (Bytes.encode keyPrefix) (prefixRangeEnd keyPrefix) key = true ↔ Bytes.encode keyPrefix <+: key := by
  obtain ⟨q, b, hbytes⟩ := (List.eq_nil_or_concat' (Bytes.encode keyPrefix)).resolve_left (Bytes.encode_ne_nil hne)
  have hb : b < 0xff := Bytes.lt_of_mem_encode (s := keyPrefix) (by simp [hbytes])
  have hend : prefixRangeEnd keyPrefix = q ++ [b + 1] := by
    rw [prefixRangeEnd, hbytes, List.reverse_append, List.reverse_singleton, List.singleton_append, bumpLast, if_pos hb,
      List.reverse_cons, List.reverse_reverse]
  have hzero : q ++ [b + 1] ≠ [0] := by
    intro h
    have hlast := congrArg List.getLast? h
    rw [List.getLast?_concat, List.getLast?_singleton, Option.some.injEq] at hlast
    rw [UInt8.lt_iff_toNat_lt] at hb
    have hsucc := congrArg UInt8.toNat hlast
    rw [UInt8.toNat_add] at hsucc
    simp at hb hsucc
    omega
  rw [inRange, hend, hbytes, if_neg (by simp), ← Bytes.between_iff hb, decide_eq_false hzero, Bool.false_or,
    Bool.and_eq_true, Bool.not_eq_true']

namespace EtcdClient

variable {c : EtcdClient} {keyPrefix dataKey key : String}

theorem startsWith_iff {key start : String} : startsWith key start = true ↔ start.toList <+: key.toList := by
  rw [startsWith, List.isPrefixOf_iff_prefix]

theorem prefix_fullKey (keyPrefix dataKey : String) : keyPrefix.toList <+: (keyPrefix ++ "/" ++ dataKey).toList :=
  ⟨'/' :: dataKey.toList, by simp⟩

theorem getKey_ne_empty (c : EtcdClient) (key : String) : c.getKeyWithNamespaceAndJobName key ≠ "" := by
  rw [getKeyWithNamespaceAndJobName]
  split
  · rename_i h
    rintro rfl
    have hstart := startsWith_iff.mp h
    simp at hstart
  · intro h
    have hlist := congrArg String.toList h
    simp at hlist

theorem getKey_of_not_misresolved (h : ¬ c.Misresolved keyPrefix dataKey) :
    c.getKeyWithNamespaceAndJobName (keyPrefix ++ "/" ++ dataKey) =
      c.getKeyWithNamespaceAndJobName keyPrefix ++ "/" ++ dataKey := by
  rw [getKeyWithNamespaceAndJobName, getKeyWithNamespaceAndJobName]
  by_cases hstart : startsWith keyPrefix (c.podNamespace ++ "/" ++ c.jobName ++ "/") = true
  · have hfull : startsWith (keyPrefix ++ "/" ++ dataKey) (c.podNamespace ++ "/" ++ c.jobName ++ "/") = true := by
      rw [startsWith_iff] at hstart ⊢
      exact hstart.trans (prefix_fullKey ..)
    rw [if_pos hstart, if_pos hfull]
  · have hfull : ¬ startsWith (keyPrefix ++ "/" ++ dataKey) (c.podNamespace ++ "/" ++ c.jobName ++ "/") = true :=
      fun hfull => h ⟨hfull, by simpa using hstart⟩
    rw [if_neg hstart, if_neg hfull]
    simp only [String.append_assoc]

theorem Misresolved.getKey (h : c.Misresolved keyPrefix dataKey) :
    c.getKeyWithNamespaceAndJobName (keyPrefix ++ "/" ++ dataKey) = keyPrefix ++ "/" ++ dataKey ∧
      c.getKeyWithNamespaceAndJobName keyPrefix = c.podNamespace ++ "/" ++ c.jobName ++ keyPrefix := by
  rw [getKeyWithNamespaceAndJobName, getKeyWithNamespaceAndJobName, if_pos h.1, if_neg (by simp [h.2])]
  exact ⟨rfl, rfl⟩

theorem Misresolved.length_le (h : c.Misresolved keyPrefix dataKey) :
    keyPrefix.toList.length ≤ (c.podNamespace ++ "/" ++ c.jobName).toList.length := by
  obtain ⟨hfull, hstart⟩ := h
  by_contra hlt
  rw [startsWith_iff] at hfull
  have hlonger : (c.podNamespace ++ "/" ++ c.jobName ++ "/").toList <+: keyPrefix.toList := by
    refine List.prefix_of_prefix_length_le hfull (prefix_fullKey ..) ?_
    simp at hlt ⊢
    omega
  rw [startsWith_iff.mpr hlonger] at hstart
  cases hstart

end EtcdClient

namespace EtcdStore

variable {V T : Type} {codec : JsonCodec V T} {c : EtcdClient} {store : EtcdStore T} {keyPrefix : String}
  {data : Dict String V}

/-! ## Texts as keys -/

theorem setEntries_encode (key : String) (value : T) (es : List (String × T)) :
    Dict.setEntries (Bytes.encode key) value (es.map fun e => (Bytes.encode e.1, e.2)) =
      (Dict.setEntries key value es).map fun e => (Bytes.encode e.1, e.2) := by
  induction es with
  | nil => rfl
  | cons e es ih =>
      rw [List.map_cons, Dict.setEntries, Dict.setEntries]
      by_cases hkey : e.1 = key
      · rw [if_pos hkey, if_pos (congrArg Bytes.encode hkey), List.map_cons]
      · rw [if_neg hkey, if_neg fun h => hkey (Bytes.encode_injective h), List.map_cons, ih]

/-- The store whose keys are texts, as etcd has it. -/
def ofTexts (store : Dict String T) : EtcdStore T where
  entries := store.entries.map fun e => (Bytes.encode e.1, e.2)
  nodup := by
    have hnodup := store.nodup.map Bytes.encode_injective
    rw [List.map_map] at hnodup ⊢
    exact hnodup

theorem ofTexts_set (store : Dict String T) (key : String) (value : T) :
    (ofTexts store).set (Bytes.encode key) value = ofTexts (store.set key value) := by
  simp only [ofTexts, Dict.set, setEntries_encode]

theorem deletePrefix_ofTexts (store : Dict String T) (keyPrefix : String) :
    deletePrefix c (ofTexts store) keyPrefix = ofTexts (c.deletePrefix store keyPrefix .answered).2 := by
  have hrange : ∀ key : String,
      inRange (Bytes.encode (c.getKeyWithNamespaceAndJobName keyPrefix))
        (prefixRangeEnd (c.getKeyWithNamespaceAndJobName keyPrefix)) (Bytes.encode key) =
      startsWith key (c.getKeyWithNamespaceAndJobName keyPrefix) := by
    intro key
    rw [Bool.eq_iff_iff, inRange_prefix_iff (getKey_ne_empty c keyPrefix), Bytes.encode_prefix_iff, startsWith_iff]
  refine Dict.ext ?_
  change (store.entries.map fun e => (Bytes.encode e.1, e.2)).filter
      (fun e => !inRange (Bytes.encode (c.getKeyWithNamespaceAndJobName keyPrefix))
        (prefixRangeEnd (c.getKeyWithNamespaceAndJobName keyPrefix)) e.1) =
    (store.entries.filter fun e => !startsWith e.1 (c.getKeyWithNamespaceAndJobName keyPrefix)).map
      fun e => (Bytes.encode e.1, e.2)
  rw [List.filter_map]
  simp only [Function.comp_def, hrange]

/-- The calls on texts are the calls on bytes, when every request is answered. -/
theorem persistData_ofTexts (store : Dict String T) (keyPrefix : String) (data : Dict String V) :
    persistData codec c (ofTexts store) keyPrefix data =
      ((EtcdClient.persistData codec c store keyPrefix data {}).1,
        ofTexts (EtcdClient.persistData codec c store keyPrefix data {}).2) := by
  have hputs : ∀ (es : List (String × V)) (store : Dict String T),
      putAll codec c keyPrefix (ofTexts store) es =
        ((EtcdClient.putAll codec c keyPrefix store es []).1, ofTexts (EtcdClient.putAll codec c keyPrefix store es []).2) := by
    intro es
    induction es with
    | nil => exact fun store => rfl
    | cons e es ih =>
        intro store
        rw [putAll, EtcdClient.putAll, putJson, EtcdClient.putJson]
        cases codec.dumps e.2 with
        | none => rfl
        | some t =>
            simp only [List.headD_nil, ofTexts_set]
            exact ih _
  rw [persistData, deletePrefix_ofTexts, EtcdClient.persistData]
  exact hputs _ _

/-! ## What is stored -/

def keyOf (c : EtcdClient) (keyPrefix dataKey : String) : Bytes :=
  Bytes.encode (c.getKeyWithNamespaceAndJobName (keyPrefix ++ "/" ++ dataKey))

/-- The texts of the entries at their keys. -/
def puts (c : EtcdClient) (text : V → T) (keyPrefix : String) (es : List (String × V)) : List (Bytes × T) :=
  es.map fun e => (keyOf c keyPrefix e.1, text e.2)

theorem putAll_eq {text : V → T} (htext : ∀ v, codec.dumps v = some (text v)) (es : List (String × V))
    (store : EtcdStore T) : putAll codec c keyPrefix store es = (true, store.update (puts c text keyPrefix es)) := by
  induction es generalizing store with
  | nil => rfl
  | cons e es ih =>
      rw [putAll, putJson, htext]
      exact ih _

theorem get?_deletePrefix (key : Bytes) : (deletePrefix c store keyPrefix).get? key =
    if Bytes.encode (c.getKeyWithNamespaceAndJobName keyPrefix) <+: key then none else store.get? key := by
  rw [deletePrefix, deleteRange, Dict.get?_filterKeys]
  by_cases h : Bytes.encode (c.getKeyWithNamespaceAndJobName keyPrefix) <+: key
  · rw [(inRange_prefix_iff (getKey_ne_empty c keyPrefix) key).mpr h, if_pos h]
    rfl
  · rw [Bool.eq_false_iff.mpr (mt (inRange_prefix_iff (getKey_ne_empty c keyPrefix) key).mp h), if_neg h]
    rfl

theorem mem_range_iff {kv : Bytes × T} :
    kv ∈ range store (Bytes.encode (c.getKeyWithNamespaceAndJobName keyPrefix))
        (prefixRangeEnd (c.getKeyWithNamespaceAndJobName keyPrefix)) ↔
      store.get? kv.1 = some kv.2 ∧ Bytes.encode (c.getKeyWithNamespaceAndJobName keyPrefix) <+: kv.1 := by
  rw [range, List.mem_mergeSort, List.mem_filter, Dict.get?_eq_some_iff,
    inRange_prefix_iff (getKey_ne_empty c keyPrefix)]

def readItems (codec : JsonCodec V T) (c : EtcdClient) (store : EtcdStore T) (keyPrefix : String) : List (String × V) :=
  (range store (Bytes.encode (c.getKeyWithNamespaceAndJobName keyPrefix))
    (prefixRangeEnd (c.getKeyWithNamespaceAndJobName keyPrefix))).filterMap
      (readItem codec (c.getKeyWithNamespaceAndJobName keyPrefix))

section Texts

variable {text : V → T}

theorem persistData_eq (htext : ∀ v, codec.dumps v = some (text v)) (data : Dict String V) : persistData codec c store keyPrefix data =
    (true, (deletePrefix c store keyPrefix).update (puts c text keyPrefix data.entries)) := putAll_eq htext ..

theorem readItem_put (hloads : ∀ v, codec.loads (text v) = some v) (e : String × V) : readItem codec (c.getKeyWithNamespaceAndJobName keyPrefix)
      (keyOf c keyPrefix e.1, text e.2) =
    some (relativeKey (c.getKeyWithNamespaceAndJobName keyPrefix)
      (c.getKeyWithNamespaceAndJobName (keyPrefix ++ "/" ++ e.1)), e.2) := by
  simp [readItem, keyOf, Bytes.decode_encode, hloads]

theorem mem_puts_of_mem_range (htext : ∀ v, codec.dumps v = some (text v)) {kv : Bytes × T}
    (hkv : kv ∈ range (persistData codec c store keyPrefix data).2
      (Bytes.encode (c.getKeyWithNamespaceAndJobName keyPrefix))
      (prefixRangeEnd (c.getKeyWithNamespaceAndJobName keyPrefix))) :
    ∃ e ∈ data.entries, kv = (keyOf c keyPrefix e.1, text e.2) ∧
      Bytes.encode (c.getKeyWithNamespaceAndJobName keyPrefix) <+: keyOf c keyPrefix e.1 := by
  obtain ⟨hget, hunder⟩ := mem_range_iff.mp hkv
  rw [persistData_eq htext] at hget
  rcases Dict.get?_update_or hget with hmem | hold
  · obtain ⟨e, he, heq⟩ := List.mem_map.mp hmem
    have hkv : kv = (keyOf c keyPrefix e.1, text e.2) := heq.symm
    exact ⟨e, he, hkv, by rw [hkv] at hunder; exact hunder⟩
  · rw [get?_deletePrefix, if_pos hunder] at hold
    cases hold

variable (htext : ∀ v, codec.dumps v = some (text v)) (hloads : ∀ v, codec.loads (text v) = some v)
include htext hloads

theorem getPrefixData_persistData (data : Dict String V) :
    getPrefixData codec c (persistData codec c store keyPrefix data).2 keyPrefix =
      Dict.empty.update (readItems codec c (persistData codec c store keyPrefix data).2 keyPrefix) := by
  have hall : ∀ kv ∈ range (persistData codec c store keyPrefix data).2
      (Bytes.encode (c.getKeyWithNamespaceAndJobName keyPrefix))
      (prefixRangeEnd (c.getKeyWithNamespaceAndJobName keyPrefix)),
      (readItem codec (c.getKeyWithNamespaceAndJobName keyPrefix) kv).isSome = true := by
    intro kv hkv
    obtain ⟨e, -, rfl, -⟩ := mem_puts_of_mem_range htext hkv
    rw [readItem_put hloads]
    rfl
  rw [getPrefixData]
  simp only [mapM_of_forall hall]
  rfl

theorem mem_readItems {item : String × V}
    (h : item ∈ readItems codec c (persistData codec c store keyPrefix data).2 keyPrefix) :
    ∃ e ∈ data.entries, Bytes.encode (c.getKeyWithNamespaceAndJobName keyPrefix) <+: keyOf c keyPrefix e.1 ∧
      item = (relativeKey (c.getKeyWithNamespaceAndJobName keyPrefix)
        (c.getKeyWithNamespaceAndJobName (keyPrefix ++ "/" ++ e.1)), e.2) := by
  obtain ⟨kv, hkv, hread⟩ := List.mem_filterMap.mp h
  obtain ⟨e, he, rfl, hunder⟩ := mem_puts_of_mem_range htext hkv
  rw [readItem_put hloads, Option.some.injEq] at hread
  exact ⟨e, he, hunder, hread.symm⟩

/-! ## When the data come back -/

omit htext hloads in
theorem get?_update_of_mem_iff {items : List (String × V)} (h : ∀ item, item ∈ items ↔ item ∈ data.entries)
    (dataKey : String) : (Dict.empty.update items).get? dataKey = data.get? dataKey := by
  have hback : ∀ v, (Dict.empty.update items).get? dataKey = some v → data.get? dataKey = some v := by
    intro v hv
    rcases Dict.get?_update_or hv with hmem | hempty
    · exact Dict.get?_eq_some_iff.mpr ((h _).mp hmem)
    · cases hempty
  cases hget : data.get? dataKey with
  | some v =>
      have hmem : (dataKey, v) ∈ items := (h _).mpr (Dict.get?_eq_some_iff.mp hget)
      obtain ⟨v', hv'⟩ := Dict.exists_get?_update (d := Dict.empty) (List.mem_map.mpr ⟨_, hmem, rfl⟩)
      rw [hv', ← hback v' hv', hget]
  | none =>
      cases hnone : (Dict.empty.update items).get? dataKey with
      | none => rfl
      | some v =>
          rw [hback v hnone] at hget
          cases hget

theorem persists_of (hne : data.entries ≠ [])
    (h : ∀ dataKey ∈ data.keys, startsWith (c.getKeyWithNamespaceAndJobName (keyPrefix ++ "/" ++ dataKey))
        (c.getKeyWithNamespaceAndJobName keyPrefix) = true ∧
      relativeKey (c.getKeyWithNamespaceAndJobName keyPrefix)
        (c.getKeyWithNamespaceAndJobName (keyPrefix ++ "/" ++ dataKey)) = dataKey) :
    Persists codec c store keyPrefix data := by
  have hunder : ∀ e ∈ data.entries,
      Bytes.encode (c.getKeyWithNamespaceAndJobName keyPrefix) <+: keyOf c keyPrefix e.1 := by
    intro e he
    exact Bytes.encode_prefix_iff.mpr (startsWith_iff.mp (h e.1 (List.mem_map_of_mem he)).1)
  have hnodup : ((puts c text keyPrefix data.entries).map Prod.fst).Nodup := by
    have hkeys : (puts c text keyPrefix data.entries).map Prod.fst = data.keys.map (keyOf c keyPrefix) := by
      simp [puts, Dict.keys, Function.comp_def]
    rw [hkeys]
    refine List.Nodup.map_on (fun k hk k' hk' heq => ?_) data.nodup
    rw [← (h k hk).2, ← (h k' hk').2, Bytes.encode_injective heq]
  have hitems : ∀ item, item ∈ readItems codec c (persistData codec c store keyPrefix data).2 keyPrefix ↔
      item ∈ data.entries := by
    intro item
    constructor
    · intro hitem
      obtain ⟨e, he, -, rfl⟩ := mem_readItems htext hloads hitem
      rw [(h e.1 (List.mem_map_of_mem he)).2]
      exact he
    · intro he
      have hget : (persistData codec c store keyPrefix data).2.get? (keyOf c keyPrefix item.1) = some (text item.2) := by
        rw [persistData_eq htext]
        exact Dict.get?_update_of_mem hnodup (List.mem_map.mpr ⟨item, he, rfl⟩)
      have hkv : (keyOf c keyPrefix item.1, text item.2) ∈ range (persistData codec c store keyPrefix data).2
          (Bytes.encode (c.getKeyWithNamespaceAndJobName keyPrefix))
          (prefixRangeEnd (c.getKeyWithNamespaceAndJobName keyPrefix)) := mem_range_iff.mpr ⟨hget, hunder item he⟩
      refine List.mem_filterMap.mpr ⟨(keyOf c keyPrefix item.1, text item.2), hkv, ?_⟩
      rw [readItem_put hloads, (h item.1 (List.mem_map_of_mem he)).2]
  have hread : ∀ dataKey, (getPrefixData codec c (persistData codec c store keyPrefix data).2 keyPrefix).get? dataKey =
      data.get? dataKey := by
    intro dataKey
    rw [getPrefixData_persistData htext hloads]
    exact get?_update_of_mem_iff hitems dataKey
  refine ⟨by rw [persistData_eq htext], ⟨_, ?_, hread⟩, fun key value hget hnot => ?_⟩
  · rw [restoreData, nonEmpty, if_neg]
    rw [isEmpty_entries_iff]
    intro hnone
    obtain ⟨e, he⟩ := List.exists_mem_of_ne_nil _ hne
    have hget := Dict.get?_eq_some_iff.mpr (show (e.1, e.2) ∈ data.entries from he)
    rw [← hread, hnone] at hget
    cases hget
  · have hmem : key ∉ (puts c text keyPrefix data.entries).map Prod.fst := by
      intro hmem
      obtain ⟨put, hput, rfl⟩ := List.mem_map.mp hmem
      obtain ⟨e, he, rfl⟩ := List.mem_map.mp hput
      exact hnot (hunder e he)
    rw [persistData_eq htext]
    exact (Dict.get?_update_of_not_mem hmem).trans (((get?_deletePrefix key).trans (if_neg hnot)).trans hget)

theorem Persists.read (h : Persists codec c store keyPrefix data) {dataKey : String} (hkey : dataKey ∈ data.keys) :
    ∃ k ∈ data.keys, Bytes.encode (c.getKeyWithNamespaceAndJobName keyPrefix) <+: keyOf c keyPrefix k ∧
      dataKey = relativeKey (c.getKeyWithNamespaceAndJobName keyPrefix)
        (c.getKeyWithNamespaceAndJobName (keyPrefix ++ "/" ++ k)) := by
  obtain ⟨restored, hrestored, hget⟩ := h.restored
  obtain ⟨v, hv⟩ := Dict.mem_keys_iff.mp hkey
  rw [restoreData, nonEmpty] at hrestored
  split at hrestored
  · cases hrestored
  rw [Option.some.injEq, getPrefixData_persistData htext hloads] at hrestored
  rw [← hget, ← hrestored] at hv
  rcases Dict.get?_update_or hv with hmem | hempty
  · obtain ⟨e, he, hunder, heq⟩ := mem_readItems htext hloads hmem
    exact ⟨e.1, List.mem_map_of_mem he, hunder, congrArg Prod.fst heq⟩
  · cases hempty

theorem Persists.misresolved (h : Persists codec c store keyPrefix data) {dataKey : String} (hkey : dataKey ∈ data.keys)
    (hmis : c.Misresolved keyPrefix dataKey) :
    ∃ k ∈ data.keys, c.Misresolved keyPrefix k ∧
      (c.podNamespace ++ "/" ++ c.jobName ++ keyPrefix).toList <+: (keyPrefix ++ "/" ++ k).toList ∧
      dataKey.toList = k.toList.drop (c.podNamespace ++ "/" ++ c.jobName).toList.length := by
  obtain ⟨k, hk, hunder, heq⟩ := h.read htext hloads hkey
  have hkmis : c.Misresolved keyPrefix k := by
    by_contra hnot
    rw [getKey_of_not_misresolved hnot, relativeKey_fullKey] at heq
    exact hnot (heq ▸ hmis)
  obtain ⟨hfull, hresolved⟩ := hkmis.getKey
  rw [keyOf, hfull, hresolved, Bytes.encode_prefix_iff] at hunder
  refine ⟨k, hk, hkmis, hunder, ?_⟩
  have hlength : (c.podNamespace ++ "/" ++ c.jobName ++ keyPrefix).length + 1 =
      (keyPrefix.toList ++ ['/']).length + (c.podNamespace ++ "/" ++ c.jobName).toList.length := by
    rw [← String.length_toList]
    simp
    omega
  have hsplit : (keyPrefix ++ "/" ++ k).toList = keyPrefix.toList ++ ['/'] ++ k.toList := by simp
  rw [heq, hfull, hresolved, relativeKey, String.toList_ofList, hlength, hsplit, ← List.drop_drop, List.drop_left]

omit htext hloads in
theorem exists_length_bound (keys : List String) : ∃ bound, ∀ k ∈ keys, k.toList.length ≤ bound := by
  induction keys with
  | nil => exact ⟨0, fun k hk => by cases hk⟩
  | cons key keys ih =>
      obtain ⟨bound, hbound⟩ := ih
      refine ⟨key.toList.length + bound, List.forall_mem_cons.mpr ⟨by omega, fun k hk => ?_⟩⟩
      have := hbound k hk
      omega

theorem Persists.misresolved_empty (h : Persists codec c store keyPrefix data) {dataKey : String}
    (hkey : dataKey ∈ data.keys) (hmis : c.Misresolved keyPrefix dataKey) : dataKey = "" := by
  obtain ⟨bound, hbound⟩ := exists_length_bound data.keys
  induction hn : bound - dataKey.toList.length using Nat.strong_induction_on generalizing dataKey with
  | _ n ih =>
      obtain ⟨k, hk, hkmis, -, heq⟩ := h.misresolved htext hloads hkey hmis
      by_contra hne
      have hpos : 0 < dataKey.toList.length := List.length_pos_iff.mpr fun hnil => hne (String.toList_inj.mp hnil)
      have hlength := congrArg List.length heq
      rw [List.length_drop] at hlength
      have hfront : 0 < (c.podNamespace ++ "/" ++ c.jobName).toList.length := by
        rw [String.toList_append, String.toList_append, List.length_append, List.length_append]
        have hslash : "/".toList.length = 1 := rfl
        omega
      have hbk := hbound k hk
      have hkempty := ih (bound - k.toList.length) (by omega) hk hkmis rfl
      have hzero : k.toList.length = 0 := by
        rw [hkempty]
        rfl
      omega

theorem persists_iff (hstart : startsWith keyPrefix "/" = true) (hne : data.entries ≠ []) :
    Persists codec c store keyPrefix data ↔
      (∀ dataKey ∈ data.keys, ¬ c.Misresolved keyPrefix dataKey) ∨
        (c.podNamespace = "" ∧ c.jobName = "" ∧ keyPrefix = "/" ∧ ∀ dataKey ∈ data.keys, dataKey = "") := by
  constructor
  · intro h
    by_cases hnone : ∀ dataKey ∈ data.keys, ¬ c.Misresolved keyPrefix dataKey
    · exact .inl hnone
    simp only [not_forall, not_not] at hnone
    obtain ⟨dataKey, hkey, hmis⟩ := hnone
    have hempty := fun {k} (hk : k ∈ data.keys) (hkmis : c.Misresolved keyPrefix k) =>
      h.misresolved_empty htext hloads hk hkmis
    obtain ⟨k, hk, hkmis, hunder, -⟩ := h.misresolved htext hloads hkey hmis
    rw [hempty hk hkmis] at hunder
    have hfront := hunder.length_le
    have hlength := hmis.length_le
    simp at hfront hlength
    have hnamespace : c.podNamespace = "" := String.toList_inj.mp ((List.length_eq_zero_iff.mp (by omega)).trans rfl)
    have hjob : c.jobName = "" := String.toList_inj.mp ((List.length_eq_zero_iff.mp (by omega)).trans rfl)
    have hslash : keyPrefix = "/" := by
      obtain ⟨rest, hrest⟩ := startsWith_iff.mp hstart
      rw [← hrest] at hlength
      have hnil : rest = [] := by
        rw [← List.length_eq_zero_iff]
        simp at hlength
        omega
      rw [← String.toList_inj, ← hrest, hnil, List.append_nil]
    refine .inr ⟨hnamespace, hjob, hslash, fun k hk => hempty hk ⟨?_, ?_⟩⟩
    · rw [hnamespace, hjob, hslash, startsWith_iff]
      exact ⟨k.toList, by simp⟩
    · rw [hnamespace, hjob, hslash]
      decide
  · rintro (h | ⟨hnamespace, hjob, rfl, hempty⟩)
    · refine persists_of htext hloads hne fun dataKey hkey => ?_
      rw [getKey_of_not_misresolved (h dataKey hkey), relativeKey_fullKey, String.append_assoc]
      exact ⟨startsWith_append _ _, rfl⟩
    · refine persists_of htext hloads hne fun dataKey hkey => ?_
      rw [hempty dataKey hkey, getKeyWithNamespaceAndJobName, getKeyWithNamespaceAndJobName, hnamespace, hjob]
      exact ⟨by decide, by decide⟩

end Texts

/-- What is persisted comes back and nothing else changes, exactly when no key of the data completes what the client
puts in front of keys. -/
theorem prefixStore_iff (hcodec : codec.Invertible) (c : EtcdClient) :
    (∀ keyPrefix, keyPrefix ≠ "" → ∀ key,
      inRange (Bytes.encode keyPrefix) (prefixRangeEnd keyPrefix) key = true ↔ Bytes.encode keyPrefix <+: key) ∧
    ∀ (store : EtcdStore T) (keyPrefix : String) (data : Dict String V),
      startsWith keyPrefix "/" = true → data.entries ≠ [] →
      (Persists codec c store keyPrefix data ↔
        (∀ dataKey ∈ data.keys, ¬ c.Misresolved keyPrefix dataKey) ∨
          (c.podNamespace = "" ∧ c.jobName = "" ∧ keyPrefix = "/" ∧ ∀ dataKey ∈ data.keys, dataKey = "")) := by
  obtain ⟨text, htext⟩ := Classical.axiomOfChoice hcodec
  refine ⟨fun keyPrefix hne key => inRange_prefix_iff hne key, fun store keyPrefix data hstart hne => ?_⟩
  exact persists_iff (fun v => (htext v).1) (fun v => (htext v).2) hstart hne

/-! ## A prefix that the key of the data completes -/

def boolCodec : JsonCodec Bool String :=
  ⟨fun b => some (if b then "true" else "false"),
    fun text => if text = "true" then some true else if text = "false" then some false else none⟩

theorem boolCodec_invertible : boolCodec.Invertible := by
  intro b
  cases b with
  | true => exact ⟨"true", rfl, by decide⟩
  | false => exact ⟨"false", rfl, by decide⟩

def jobClient : EtcdClient := ⟨"", "job"⟩

theorem jobClient_not_persists : ¬ Persists boolCodec jobClient Dict.empty "/job" (Dict.single "ready" true) := by
  rintro ⟨-, ⟨restored, hrestored, -⟩, -⟩
  have hnone : restoreData boolCodec jobClient (persistData boolCodec jobClient Dict.empty "/job"
      (Dict.single "ready" true)).2 "/job" = none := by decide +kernel
  rw [hnone] at hrestored
  cases hrestored

theorem jobClient_persists : Persists boolCodec jobClient Dict.empty "/controller" (Dict.single "ready" true) :=
  ((prefixStore_iff boolCodec_invertible jobClient).2 Dict.empty "/controller" (Dict.single "ready" true)
    (by decide) (List.cons_ne_nil _ _)).mpr (.inl fun dataKey hkey hmis => by
      rw [List.mem_singleton.mp hkey] at hmis
      exact absurd hmis.1 (by decide))

end EtcdStore

end PyMotor
