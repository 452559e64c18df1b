import PyMotor.Etcd.Client

/-!
# What is stored after a call
-/

namespace PyMotor.EtcdClient

open Lib

variable {V T : Type} {codec : JsonCodec V T} {c : EtcdClient} {store : Dict String T} {keyPrefix : String}
  {data : Dict String V}

/-! ## Keys -/

@[simp] theorem startsWith_append (start rest : String) : startsWith (start ++ rest) start = true := by
  simp [startsWith]

theorem fullKey_inj {start k k' : String} : start ++ "/" ++ k = start ++ "/" ++ k' ↔ k = k' := by
  rw [← String.toList_inj]
  simp [String.toList_inj]

theorem relativeKey_fullKey (start dataKey : String) : relativeKey start (start ++ "/" ++ dataKey) = dataKey := by
  have hlen : start.toList.length = start.length := String.length_toList
  rw [← String.toList_inj]
  simp [relativeKey, ← hlen, List.drop_append]

/-! ## Results -/

theorem isEmpty_entries_iff {d : Dict String V} : d.entries.isEmpty = true ↔ ∀ key, d.get? key = none := by
  constructor
  · intro h key
    rw [List.isEmpty_iff] at h
    simp [Dict.get?, h]
  · intro h
    rw [List.isEmpty_iff, List.eq_nil_iff_forall_not_mem]
    intro e he
    have := Dict.get?_eq_some_iff.2 (show (e.1, e.2) ∈ d.entries from he)
    rw [h] at this
    cases this

theorem get?_nonEmpty (d : Dict String V) (key : String) : ((nonEmpty d).bind fun d => d.get? key) = d.get? key := by
  unfold nonEmpty
  split
  · rename_i h
    exact (isEmpty_entries_iff.1 h key).symm
  · rfl

theorem sameData_nonEmpty {a b : Dict String V} :
    SameData (nonEmpty a) (nonEmpty b) ↔ ∀ key, a.get? key = b.get? key := by
  unfold SameData
  simp only [get?_nonEmpty]
  refine ⟨fun h => h.2, fun h => ⟨?_, h⟩⟩
  have hempty : a.entries.isEmpty = b.entries.isEmpty := by
    rw [Bool.eq_iff_iff, isEmpty_entries_iff, isEmpty_entries_iff]
    simp only [h]
  unfold nonEmpty
  rw [hempty]
  split <;> rfl

/-! ## Restoring -/

theorem mapM_readItem (start : String) {kvs : List (String × T)}
    (h : ∀ kv ∈ kvs, ∃ v, codec.loads kv.2 = some v) :
    ∃ items, kvs.mapM (readItem codec start) = some items ∧
      items.map Prod.fst = kvs.map (fun kv => relativeKey start kv.1) ∧
      ∀ item, item ∈ items ↔ ∃ kv ∈ kvs, readItem codec start kv = some item := by
  induction kvs with
  | nil => exact ⟨[], rfl, rfl, by simp⟩
  | cons kv kvs ih =>
      obtain ⟨v, hv⟩ := h kv (List.mem_cons_self ..)
      obtain ⟨items, hitems, hkeys, hmem⟩ := ih fun x hx => h x (List.mem_cons_of_mem _ hx)
      have hread : readItem codec start kv = some (relativeKey start kv.1, v) := by simp [readItem, hv]
      refine ⟨(relativeKey start kv.1, v) :: items, ?_, ?_, ?_⟩
      · simp [List.mapM_cons, hread, hitems]
      · simp [hkeys]
      · intro item
        simp only [List.mem_cons, hmem, exists_eq_or_imp, hread, Option.some.injEq]
        exact or_congr_left eq_comm

theorem mem_rangePrefix {start : String} {kv : String × T} :
    kv ∈ rangePrefix store start ↔ store.get? kv.1 = some kv.2 ∧ startsWith kv.1 start = true := by
  simp [rangePrefix, Dict.get?_eq_some_iff]

theorem nodup_rangePrefix (store : Dict String T) (start : String) : ((rangePrefix store start).map Prod.fst).Nodup := by
  have hperm := (List.mergeSort_perm (store.entries.filter fun e => startsWith e.1 start)
    fun a b => decide (a.1 ≤ b.1)).map Prod.fst
  exact hperm.nodup_iff.2 (store.nodup.sublist (List.filter_sublist.map Prod.fst))

theorem Stores.readable (h : Stores codec c store keyPrefix data) {kv : String × T}
    (hkv : kv ∈ rangePrefix store (c.getKeyWithNamespaceAndJobName keyPrefix)) :
    ∃ k v, kv.1 = c.getKeyWithNamespaceAndJobName keyPrefix ++ "/" ++ k ∧ codec.loads kv.2 = some v ∧
      data.get? k = some v := by
  obtain ⟨hget, hunder⟩ := mem_rangePrefix.1 hkv
  obtain ⟨k, hk⟩ := h.under kv.1 kv.2 hget hunder
  have hitem := h.items k
  rw [← hk, hget] at hitem
  cases hd : data.get? k with
  | none => rw [hd] at hitem; cases hitem
  | some v =>
      rw [hd] at hitem
      exact ⟨k, v, hk, by simpa using hitem, hd⟩

theorem Stores.nodup_relativeKey (h : Stores codec c store keyPrefix data) :
    ((rangePrefix store (c.getKeyWithNamespaceAndJobName keyPrefix)).map fun kv =>
      relativeKey (c.getKeyWithNamespaceAndJobName keyPrefix) kv.1).Nodup := by
  refine List.Nodup.map_on ?_ (nodup_rangePrefix store _).of_map
  intro x hx y hy hxy
  obtain ⟨k, -, hk, -⟩ := h.readable hx
  obtain ⟨k', -, hk', -⟩ := h.readable hy
  rw [hk, hk', relativeKey_fullKey, relativeKey_fullKey] at hxy
  have hkey : x.1 = y.1 := by rw [hk, hk', hxy]
  have hval : some x.2 = some y.2 := by
    rw [← (mem_rangePrefix.1 hx).1, ← (mem_rangePrefix.1 hy).1, hkey]
  exact Prod.ext hkey (Option.some.inj hval)

theorem Stores.get?_getPrefixData (h : Stores codec c store keyPrefix data) (dataKey : String) :
    (getPrefixData codec c store keyPrefix).get? dataKey = data.get? dataKey := by
  obtain ⟨items, hitems, hkeys, hmem⟩ := mapM_readItem (c.getKeyWithNamespaceAndJobName keyPrefix)
    fun kv hkv => by
      obtain ⟨-, v, -, hv, -⟩ := h.readable hkv
      exact ⟨v, hv⟩
  have hnodup : (items.map Prod.fst).Nodup := by
    rw [hkeys]
    exact h.nodup_relativeKey
  have hdata : getPrefixData codec c store keyPrefix = Dict.empty.update items := by
    simp only [getPrefixData, hitems]
  rw [hdata]
  ext v
  rw [Dict.get?_update_iff hnodup, hmem]
  constructor
  · rintro (⟨kv, hkv, hread⟩ | ⟨-, hnone⟩)
    · obtain ⟨k, v', hk, hv', hd⟩ := h.readable hkv
      simp only [readItem, hv', hk, relativeKey_fullKey, Option.map_some, Option.some.injEq, Prod.mk.injEq] at hread
      obtain ⟨rfl, rfl⟩ := hread
      exact hd
    · cases hnone
  · intro hd
    have hitem := h.items dataKey
    rw [hd] at hitem
    obtain ⟨text, ht, hv⟩ := Option.map_eq_some_iff.1 hitem
    refine .inl ⟨(_, text), mem_rangePrefix.2 ⟨ht, ?_⟩, ?_⟩
    · rw [String.append_assoc]
      exact startsWith_append _ _
    · simp [readItem, hv, relativeKey_fullKey]

theorem Stores.sameData {store' : Dict String T} {data' : Dict String V} (h : Stores codec c store keyPrefix data)
    (h' : Stores codec c store' keyPrefix data') :
    SameData (restoreData codec c store keyPrefix) (restoreData codec c store' keyPrefix) ↔
      ∀ key, data.get? key = data'.get? key := by
  unfold restoreData
  simp only [sameData_nonEmpty, h.get?_getPrefixData, h'.get?_getPrefixData]

theorem Stores.sameData_nonEmpty {data' : Dict String V} (h : Stores codec c store keyPrefix data) :
    SameData (restoreData codec c store keyPrefix) (nonEmpty data') ↔ ∀ key, data.get? key = data'.get? key := by
  unfold restoreData
  simp only [EtcdClient.sameData_nonEmpty, h.get?_getPrefixData]

/-! ## Persisting -/

theorem stores_empty : Stores codec c Dict.empty keyPrefix Dict.empty :=
  ⟨fun _ _ hget => (nomatch hget), fun _ => rfl⟩

/-- What a deletion leaves. -/
def deleted (old : Dict String V) (outcome : OpOutcome) : Dict String V :=
  if outcome.applied then Dict.empty else old

theorem Stores.deletePrefix (h : Stores codec c store keyPrefix data) (outcome : OpOutcome) :
    Stores codec c (c.deletePrefix store keyPrefix outcome).2 keyPrefix (deleted data outcome) := by
  have hrest : Stores codec c
      (store.filterKeys fun key => !startsWith key (c.getKeyWithNamespaceAndJobName keyPrefix)) keyPrefix
      Dict.empty := by
    constructor
    · intro key text hget hunder
      simp [Dict.get?_filterKeys, hunder] at hget
    · intro k
      rw [Dict.get?_filterKeys, String.append_assoc, startsWith_append]
      rfl
  cases outcome with
  | answered => exact hrest
  | unanswered => exact hrest
  | refused => exact h

theorem Stores.set (h : Stores codec c store keyPrefix data) (hr : c.Resolves keyPrefix) (dataKey : String) {v : V}
    {text : T} (ht : codec.loads text = some v) :
    Stores codec c (store.set (c.getKeyWithNamespaceAndJobName (keyPrefix ++ "/" ++ dataKey)) text) keyPrefix
      (data.set dataKey v) := by
  rw [hr dataKey]
  constructor
  · intro key text' hget hunder
    rw [Dict.get?_set] at hget
    split at hget
    · rename_i hk
      exact ⟨dataKey, hk⟩
    · exact h.under key text' hget hunder
  · intro k
    rw [Dict.get?_set, Dict.get?_set]
    by_cases hk : k = dataKey
    · simp [hk, ht]
    · rw [if_neg fun he => hk (fullKey_inj.1 he), if_neg hk]
      exact h.items k

theorem Stores.putAll (hc : codec.Lawful) (hr : c.Resolves keyPrefix) {es : List (String × V)}
    {outcomes : List OpOutcome} (h : Stores codec c store keyPrefix data) :
    Stores codec c (putAll codec c keyPrefix store es outcomes).2 keyPrefix
      (data.update (es.take (written codec es outcomes))) := by
  induction es generalizing store data outcomes with
  | nil => exact h
  | cons e es ih =>
      obtain ⟨dataKey, dataValue⟩ := e
      unfold EtcdClient.putAll written putJson
      cases hd : codec.dumps dataValue with
      | none => simpa using h
      | some text =>
          have hset := h.set hr dataKey (hc.loads_dumps hd)
          cases ho : outcomes.headD .answered with
          | answered =>
              simp only [Nat.add_comm 1, List.take_succ_cons, Dict.update_cons]
              exact ih hset
          | unanswered => simpa using hset
          | refused => simpa using h

/-- The data that a call leaves. -/
def left (codec : JsonCodec V T) (old data : Dict String V) (outcomes : PersistOutcomes) : Dict String V :=
  (deleted old outcomes.delete).update (data.entries.take (written codec data.entries outcomes.puts))

theorem Stores.persistData {old : Dict String V} (hc : codec.Lawful) (hr : c.Resolves keyPrefix)
    (h : Stores codec c store keyPrefix old) (data : Dict String V) (outcomes : PersistOutcomes)
    (hl : outcomes.locked = true) :
    Stores codec c (persistData codec c store keyPrefix data outcomes).2 keyPrefix (left codec old data outcomes) := by
  unfold EtcdClient.persistData
  rw [if_pos hl]
  exact (h.deletePrefix outcomes.delete).putAll hc hr

end PyMotor.EtcdClient
