import PyMotor.Etcd.Lemmas

/-!
# Persisting is not all or nothing
-/

namespace PyMotor.EtcdClient

open Lib

variable {V T : Type} {codec : JsonCodec V T} {c : EtcdClient} {store : Dict String T} {keyPrefix : String}
  {old data : Dict String V} {outcomes : PersistOutcomes}

/-! ## The data that a call leaves -/

section

variable {es fs : List (String × V)}

theorem update_eq_self_iff (hn : (es.map Prod.fst).Nodup) :
    (∀ key, (old.update es).get? key = old.get? key) ↔ ∀ e ∈ es, e ∈ old.entries := by
  constructor
  · rintro h ⟨key, v⟩ he
    have hget := h key
    rw [Dict.get?_update_of_mem hn he] at hget
    exact Dict.get?_eq_some_iff.1 hget.symm
  · intro h key
    by_cases hk : key ∈ es.map Prod.fst
    · obtain ⟨⟨k, v⟩, he, rfl⟩ := List.mem_map.1 hk
      rw [Dict.get?_update_of_mem hn he]
      exact (Dict.get?_eq_some_iff.2 (h _ he)).symm
    · exact Dict.get?_update_of_not_mem hk

theorem update_eq_data_iff (hes : data.entries = es ++ fs) :
    (∀ key, (old.update es).get? key = data.get? key) ↔
      (∀ key ∈ old.keys, key ∈ data.keys) ∧ ∀ e ∈ fs, e ∈ old.entries := by
  have hn := data.nodup
  rw [hes, List.map_append, List.nodup_append] at hn
  obtain ⟨hnes, -, hdisj⟩ := hn
  have hfs : ∀ {key v}, (key, v) ∈ fs → key ∉ es.map Prod.fst := fun he hk =>
    hdisj _ hk _ (List.mem_map_of_mem he) rfl
  have hdata : ∀ {key v}, data.get? key = some v ↔ (key, v) ∈ es ∨ (key, v) ∈ fs := by
    intro key v
    rw [Dict.get?_eq_some_iff, hes, List.mem_append]
  constructor
  · intro h
    refine ⟨fun key hk => ?_, fun e he => ?_⟩
    · obtain ⟨v, hv⟩ := Dict.mem_keys_iff.1 hk
      rw [Dict.mem_keys_iff, ← h key]
      by_cases hmem : key ∈ es.map Prod.fst
      · obtain ⟨⟨k, w⟩, he, rfl⟩ := List.mem_map.1 hmem
        exact ⟨w, Dict.get?_update_of_mem hnes he⟩
      · exact ⟨v, (Dict.get?_update_of_not_mem hmem).trans hv⟩
    · obtain ⟨key, v⟩ := e
      rw [← Dict.get?_eq_some_iff, ← Dict.get?_update_of_not_mem (hfs he), h key]
      exact hdata.2 (.inr he)
  · rintro ⟨hkeys, hrest⟩ key
    ext v
    rw [Dict.get?_update_iff hnes, hdata]
    refine or_congr_right ⟨?_, fun he => ⟨hfs he, Dict.get?_eq_some_iff.2 (hrest _ he)⟩⟩
    rintro ⟨hno, hold⟩
    -- A key of the old data is a key of the new data, so it is among the rest.
    obtain ⟨w, hw⟩ := Dict.mem_keys_iff.1 (hkeys key (Dict.mem_keys_iff.2 ⟨v, hold⟩))
    rcases hdata.1 hw with he | he
    · exact absurd (List.mem_map_of_mem he) hno
    · have hold' := Dict.get?_eq_some_iff.2 (hrest _ he)
      rw [hold] at hold'
      cases hold'
      exact he

end

theorem nodup_take (n : Nat) : ((data.entries.take n).map Prod.fst).Nodup :=
  data.nodup.sublist ((List.take_sublist n _).map Prod.fst)

theorem empty_update_eq_iff {es : List (String × V)} (hn : (es.map Prod.fst).Nodup) :
    (∀ key, (Dict.empty.update es).get? key = old.get? key) ↔ ∀ e, e ∈ old.entries ↔ e ∈ es := by
  constructor
  · rintro h ⟨key, v⟩
    rw [← Dict.get?_eq_some_iff, ← h key, Dict.get?_update_iff hn]
    simp
  · intro h key
    ext v
    rw [Dict.get?_update_iff hn, Dict.get?_eq_some_iff (d := old), h]
    simp

theorem left_iff : ((∀ key, (left codec old data outcomes).get? key = old.get? key) ∨
    ∀ key, (left codec old data outcomes).get? key = data.get? key) ↔ Harmless codec old data outcomes := by
  unfold left deleted Harmless
  dsimp only
  generalize hj : written codec data.entries outcomes.puts = j
  have hn : ((data.entries.take j).map Prod.fst).Nodup := nodup_take j
  have hsplit : data.entries = data.entries.take j ++ data.entries.drop j := (List.take_append_drop j _).symm
  split
  · rw [empty_update_eq_iff hn, update_eq_data_iff hsplit, or_comm]
    refine or_congr_left ⟨fun h => ?_, fun h => ⟨fun key hk => (by cases hk), fun e he => ?_⟩⟩
    · exact List.eq_nil_iff_forall_not_mem.2 fun e he => by cases h.2 e he
    · rw [h] at he
      cases he
  · rw [update_eq_self_iff hn, update_eq_data_iff hsplit]

/-- A call restores to the old data or to the new data exactly when it does not get the lock or fails harmlessly. -/
theorem persistData_allOrNothing_iff (codec : JsonCodec V T) (hc : codec.Lawful) (c : EtcdClient)
    (store : Dict String T) (keyPrefix : String) (hr : c.Resolves keyPrefix) (old data : Dict String V)
    (h : Stores codec c store keyPrefix old) (outcomes : PersistOutcomes) :
    AllOrNothing codec c store keyPrefix data outcomes ↔
      outcomes.locked = false ∨ Harmless codec old data outcomes := by
  unfold AllOrNothing
  cases hl : outcomes.locked with
  | false =>
      have hstore : (persistData codec c store keyPrefix data outcomes).2 = store := by simp [persistData, hl]
      rw [hstore]
      exact iff_of_true (.inl ((h.sameData h).2 fun _ => rfl)) (.inl rfl)
  | true =>
      have hleft := h.persistData hc hr data outcomes hl
      rw [hleft.sameData h, hleft.sameData_nonEmpty, left_iff]
      simp

/-! ## A put that fails after the deletion -/

theorem resolves_of_slash {first : Char} {name path : List Char} (hname : c.podNamespace.toList = first :: name)
    (hfirst : first ≠ '/') (hpath : keyPrefix.toList = '/' :: path) : c.Resolves keyPrefix := by
  have hresolve : ∀ rest, c.getKeyWithNamespaceAndJobName (keyPrefix ++ rest) =
      c.podNamespace ++ "/" ++ c.jobName ++ (keyPrefix ++ rest) := by
    intro rest
    unfold getKeyWithNamespaceAndJobName startsWith
    rw [if_neg]
    simp [hname, hpath, hfirst]
  intro dataKey
  have hstart := hresolve ""
  rw [String.append_empty] at hstart
  rw [String.append_assoc, hresolve, hstart]
  simp only [String.append_assoc]

def textCodec : JsonCodec String String := ⟨some, some⟩

theorem textCodec_lawful : textCodec.Lawful := by
  constructor
  intro v t h
  cases h
  rfl

def podClient : EtcdClient := ⟨"pod", "job"⟩

theorem podClient_resolves : podClient.Resolves "/data" := resolves_of_slash rfl (by decide) rfl

def oldData : Dict String String := .single "a" "1"

def newData : Dict String String := .single "b" "2"

def oldStore : Dict String String := (persistData textCodec podClient Dict.empty "/data" oldData {}).2

theorem oldStore_stores : Stores textCodec podClient oldStore "/data" oldData :=
  stores_empty.persistData textCodec_lawful podClient_resolves oldData {} rfl

theorem persistData_allOrNothing_complete :
    AllOrNothing textCodec podClient oldStore "/data" newData {} :=
  (persistData_allOrNothing_iff textCodec textCodec_lawful podClient oldStore "/data" podClient_resolves oldData newData
    oldStore_stores {}).2 (.inr (.inl rfl))

/-- The deletion is applied and the put is not: nothing is left to restore. -/
theorem not_allOrNothing_putRefused :
    ¬ ∀ (store : Dict String String) (old data : Dict String String) (outcomes : PersistOutcomes),
      Stores textCodec podClient store "/data" old →
        AllOrNothing textCodec podClient store "/data" data outcomes := by
  intro h
  have hall := h oldStore oldData newData { puts := [.refused] } oldStore_stores
  have hleft := oldStore_stores.persistData textCodec_lawful podClient_resolves newData
    { puts := [.refused] } rfl
  unfold AllOrNothing at hall
  rw [hleft.sameData oldStore_stores, hleft.sameData_nonEmpty] at hall
  rcases hall with hold | hnew
  · exact absurd (hold "a") (by decide)
  · exact absurd (hnew "b") (by decide)

end PyMotor.EtcdClient
