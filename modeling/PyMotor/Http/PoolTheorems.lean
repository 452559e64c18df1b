import PyMotor.Http.ClientPool
import PyMotor.Lib.Numeral
import PyMotor.Lib.Bytes

/-!
# The clients of the pool

No client is lost. The one that a call gets is made for it as long as the key tells the settings apart: it is computed
from a cache by identity and from four of the six settings.
-/

namespace PyMotor

open Lib

namespace HTTPClientPool

section

variable (md5 : String → String) (p : HTTPClientPool)

def tlsHash : Option TLSConfig → String
  | none => ""
  | some tlsConfig => md5 tlsConfig.text

/-- The client or call has this key, and the port has no colon. -/
def Keyed (key ip port : String) (tlsConfig : Option TLSConfig) : Prop :=
  key = poolKey ip port (tlsHash md5 tlsConfig) ∧ ':' ∉ port.toList

/-! ## What the pool is for -/

/-- Every client is in the pool, or closed, or about to be closed. -/
def Accounted : Prop := ∀ client < p.clients.length,
  (∃ key, p.clientPool.get? key = some client) ∨ p.isOpen client = false ∨ .aclose client ∈ p.tasks

structure Correct (event : Event) : Prop where
  returned : ∀ call client, p.returned event = some (call, client) → ∃ c, (p.step md5 event).clients[client]? = some c ∧
    c.ip = call.ip ∧ c.port = call.port ∧ c.tlsConfig = call.tlsConfig
  accounted : (p.step md5 event).Accounted
  cleaned : ∀ activeEndpoints, event = .cleanupUnusedClients activeEndpoints →
    (∀ key client, (p.step md5 event).clientPool.get? key = some client ↔
      p.clientPool.get? key = some client ∧ key ∈ activeEndpoints) ∧
    ∃ closed : List Nat, (p.step md5 event).tasks = p.tasks ++ closed.map .aclose ∧
      ∀ client, client ∈ closed ↔ ∃ key, p.clientPool.get? key = some client ∧ key ∉ activeEndpoints

/-! ## Where the key tells the settings apart -/

/-- The hash that is cached under the identity is that of the object that has it now. -/
def Fresh (tlsId : Option Nat) : Prop := ∀ id ∈ tlsId, ∀ cached ∈ p.tlsHashCache.get? id, cached = md5 (p.objects id).text

instance (tlsId : Option Nat) : Decidable (p.Fresh md5 tlsId) :=
  inferInstanceAs (Decidable (∀ id ∈ tlsId, ∀ cached ∈ p.tlsHashCache.get? id, cached = md5 (p.objects id).text))

/-- An open client for the address of the call and with the same hashed text has the settings of the call. -/
def ToldApart (call : ClientCall) : Prop := ∀ c ∈ p.clients, c.isClosed = false → c.ip = call.ip → c.port = call.port →
  c.tlsConfig.map TLSConfig.text = call.tlsConfig.map TLSConfig.text → c.tlsConfig = call.tlsConfig

instance (call : ClientCall) : Decidable (p.ToldApart call) :=
  inferInstanceAs (Decidable (∀ c ∈ p.clients, c.isClosed = false → c.ip = call.ip → c.port = call.port →
    c.tlsConfig.map TLSConfig.text = call.tlsConfig.map TLSConfig.text → c.tlsConfig = call.tlsConfig))

/-- The call of a task that looks for a client. -/
def callOf (task : Nat) : Option ClientCall :=
  match p.tasks[task]? with
  | some (.get call) => some call
  | some (.warmup call) => some call
  | _ => none

/-- The object is used with the settings that its hash was cached for, no port has a colon, no open client differs in a
setting that is not hashed, and the object stays as it is during the call. -/
def Sound : Event → Prop
  | .getClient _ port tlsId => ':' ∉ port.toList ∧ p.Fresh md5 tlsId
  | .warmupClients endpoints tlsId => (∀ endpoint ∈ endpoints, ':' ∉ endpoint.2.toList) ∧ p.Fresh md5 tlsId
  | .check task => ∀ call ∈ p.callOf task, p.ToldApart call
  | .locked task _ => ∀ call ∈ p.callOf task, p.ToldApart call ∧ call.tlsId.map p.objects = call.tlsConfig
  | _ => True

instance (event : Event) : Decidable (p.Sound md5 event) := by
  cases event <;> unfold Sound <;> infer_instance

end

/-! ## Keys -/

variable {md5 : String → String} {p : HTTPClientPool} {event : Event} {tlsId : Option Nat} {ip port key : String}
  {call : ClientCall} {client task : Nat}

theorem begin_snd (md5 : String → String) (p : HTTPClientPool) (ip port : String) (tlsId : Option Nat) :
    ∃ cache, (p.begin md5 ip port tlsId).2 = { p with tlsHashCache := cache } := by
  cases tlsId with
  | none => exact ⟨p.tlsHashCache, rfl⟩
  | some tlsId =>
      simp only [begin, getPoolKey]
      cases p.tlsHashCache.get? tlsId with
      | none => exact ⟨p.tlsHashCache.set tlsId (md5 (p.objects tlsId).text), rfl⟩
      | some cached => exact ⟨p.tlsHashCache, rfl⟩

theorem begin_fst (hfresh : p.Fresh md5 tlsId) : (p.begin md5 ip port tlsId).1 =
    ⟨ip, port, tlsId, tlsId.map p.objects, poolKey ip port (tlsHash md5 (tlsId.map p.objects))⟩ := by
  cases tlsId with
  | none => rfl
  | some tlsId =>
      have hcached := hfresh tlsId rfl
      simp only [begin, getPoolKey]
      cases hget : p.tlsHashCache.get? tlsId with
      | none => rfl
      | some cached =>
          rw [hcached cached hget]
          rfl

theorem Fresh.begin (hfresh : p.Fresh md5 tlsId) : (p.begin md5 ip port tlsId).2.Fresh md5 tlsId := by
  cases tlsId with
  | none => exact hfresh
  | some tlsId =>
      simp only [HTTPClientPool.begin, getPoolKey]
      cases hget : p.tlsHashCache.get? tlsId with
      | some cached => exact hfresh
      | none =>
          rintro id hid cached hcached
          cases hid
          rw [Dict.get?_set_self] at hcached
          cases hcached
          rfl

theorem toList_poolKey (ip port hash : String) :
    (poolKey ip port hash).toList = (ip.toList ++ ':' :: port.toList) ++ ':' :: hash.toList := by
  have hcolon : ":".toList = [':'] := rfl
  simp only [poolKey, String.toList_append, hcolon, List.append_assoc, List.cons_append, List.nil_append]

/-- The fields of a key can be read from its end. -/
theorem poolKey_inj {ip' port' hash hash' : String} (h : poolKey ip port hash = poolKey ip' port' hash')
    (hhash : ':' ∉ hash.toList) (hhash' : ':' ∉ hash'.toList) (hport : ':' ∉ port.toList) (hport' : ':' ∉ port'.toList) :
    ip = ip' ∧ port = port' ∧ hash = hash' := by
  have htext := congrArg String.toList h
  rw [toList_poolKey, toList_poolKey] at htext
  obtain ⟨haddress, hlast⟩ := Text.append_sep_inj_last htext hhash hhash'
  obtain ⟨hip, hport⟩ := Text.append_sep_inj_last haddress hport hport'
  exact ⟨String.toList_inj.mp hip, String.toList_inj.mp hport, String.toList_inj.mp hlast⟩

/-! ## Clients are accounted for -/

theorem isOpen_eq (p : HTTPClientPool) (client : Nat) :
    p.isOpen client = (p.clients[client]?).any fun c => !c.isClosed := rfl

theorem Accounted.frame {p' : HTTPClientPool} (h : p.Accounted) (hpool : p'.clientPool = p.clientPool)
    (hclients : p'.clients = p.clients) (htasks : ∀ client, .aclose client ∈ p.tasks → .aclose client ∈ p'.tasks) :
    p'.Accounted := by
  intro client hlt
  rw [hclients] at hlt
  rcases h client hlt with hget | hclosed | htask
  · rw [hpool]
    exact .inl hget
  · rw [isOpen_eq, hclients]
    exact .inr (.inl hclosed)
  · exact .inr (.inr (htasks client htask))

theorem Accounted.addTasks (h : p.Accounted) (tasks : List PoolTask) : (p.addTasks tasks).Accounted :=
  h.frame rfl rfl fun _ hmem => List.mem_append_left tasks hmem

theorem mem_endTask {other : PoolTask} (hmem : other ∈ p.tasks) (hne : p.tasks[task]? ≠ some other) :
    other ∈ (p.endTask task).tasks := by
  obtain ⟨i, hi⟩ := List.mem_iff_getElem?.mp hmem
  refine List.mem_eraseIdx_iff_getElem?.mpr ⟨i, ?_, hi⟩
  rintro rfl
  exact hne hi

theorem Accounted.endTask (h : p.Accounted) (htask : ∀ client, p.tasks[task]? ≠ some (.aclose client)) :
    (p.endTask task).Accounted :=
  h.frame rfl rfl fun client hmem => mem_endTask hmem (htask client)

theorem existing_eq_some_iff : p.existing key = some client ↔ p.clientPool.get? key = some client ∧ p.isOpen client = true := by
  rw [existing, Option.filter_eq_some_iff]

theorem Accounted.createClient (h : p.Accounted) (hnone : p.existing call.poolKey = none) :
    (p.createClient call).Accounted := by
  intro client hlt
  rw [HTTPClientPool.createClient, List.length_append, List.length_singleton] at hlt
  rcases Nat.lt_succ_iff_lt_or_eq.mp hlt with hold | rfl
  · have hopen : (p.createClient call).isOpen client = p.isOpen client := by
      rw [isOpen_eq, isOpen_eq, HTTPClientPool.createClient, List.getElem?_append_left hold]
    rcases h client hold with ⟨key, hget⟩ | hclosed | htask
    · by_cases hkey : key = call.poolKey
      · subst hkey
        refine .inr (.inl ?_)
        rw [hopen, ← Bool.not_eq_true]
        intro htrue
        rw [existing_eq_some_iff.mpr ⟨hget, htrue⟩] at hnone
        cases hnone
      · refine .inl ⟨key, ?_⟩
        rw [HTTPClientPool.createClient, Dict.get?_set_ne hkey]
        exact hget
    · exact .inr (.inl (hopen.trans hclosed))
    · exact .inr (.inr htask)
  · exact .inl ⟨call.poolKey, Dict.get?_set_self ..⟩

theorem Accounted.getOrCreate (h : p.Accounted) (call : ClientCall) (creates : Bool) :
    (p.getOrCreate call creates).2.Accounted := by
  rw [HTTPClientPool.getOrCreate]
  cases hexisting : p.existing call.poolKey with
  | some client => exact h
  | none =>
      cases creates with
      | true => exact h.createClient hexisting
      | false => exact h

theorem Accounted.removed {p' : HTTPClientPool} {clients : List Nat} (h : p.Accounted) (hclients : p'.clients = p.clients)
    (htasks : p'.tasks = p.tasks ++ clients.map .aclose)
    (hpool : ∀ key client, p.clientPool.get? key = some client →
      p'.clientPool.get? key = some client ∨ client ∈ clients) : p'.Accounted := by
  intro client hlt
  rw [hclients] at hlt
  rw [htasks]
  rcases h client hlt with ⟨key, hget⟩ | hclosed | htask
  · rcases hpool key client hget with hstays | hmem
    · exact .inl ⟨key, hstays⟩
    · exact .inr (.inr (List.mem_append_right _ (List.mem_map_of_mem hmem)))
  · rw [isOpen_eq, hclients]
    exact .inr (.inl hclosed)
  · exact .inr (.inr (List.mem_append_left _ htask))

theorem mem_toRemove {activeEndpoints : List String} :
    client ∈ p.toRemove activeEndpoints ↔ ∃ key, p.clientPool.get? key = some client ∧ key ∉ activeEndpoints := by
  rw [toRemove, List.mem_map]
  constructor
  · rintro ⟨entry, hentry, rfl⟩
    rw [List.mem_filter] at hentry
    exact ⟨entry.1, Dict.get?_eq_some_iff.mpr hentry.1, by simpa using hentry.2⟩
  · rintro ⟨key, hget, hkey⟩
    exact ⟨(key, client), List.mem_filter.mpr ⟨Dict.get?_eq_some_iff.mp hget, by simpa using hkey⟩, rfl⟩

theorem get?_cleanup {activeEndpoints : List String} : (p.cleanupUnusedClients activeEndpoints).clientPool.get? key =
    some client ↔ p.clientPool.get? key = some client ∧ key ∈ activeEndpoints := by
  rw [cleanupUnusedClients, Dict.get?_filterKeys]
  by_cases hkey : key ∈ activeEndpoints <;> simp [hkey]

theorem Accounted.cleanupUnusedClients (h : p.Accounted) (activeEndpoints : List String) :
    (p.cleanupUnusedClients activeEndpoints).Accounted := by
  have hpool : ∀ key client, p.clientPool.get? key = some client →
      (p.cleanupUnusedClients activeEndpoints).clientPool.get? key = some client ∨
        client ∈ p.toRemove activeEndpoints := by
    intro key client hget
    by_cases hkey : key ∈ activeEndpoints
    · exact .inl (get?_cleanup.mpr ⟨hget, hkey⟩)
    · exact .inr (mem_toRemove.mpr ⟨key, hget, hkey⟩)
  exact h.removed rfl rfl hpool

theorem Accounted.closeAll (h : p.Accounted) : p.closeAll.Accounted :=
  h.removed rfl rfl fun key _ hget => .inr (Dict.mem_values_iff.mpr ⟨key, hget⟩)

theorem Accounted.popClient (h : p.Accounted) (key : String) : (p.popClient key).Accounted := by
  rw [HTTPClientPool.popClient]
  cases hget : p.clientPool.get? key with
  | none => exact h
  | some popped =>
      have hpool : ∀ other client, p.clientPool.get? other = some client →
          (p.clientPool.erase key).get? other = some client ∨ client ∈ [popped] := by
        intro other client hother
        by_cases hkey : other = key
        · subst hkey
          rw [hget, Option.some.injEq] at hother
          exact .inr (List.mem_singleton.mpr hother.symm)
        · exact .inl ((Dict.get?_erase_ne hkey).trans hother)
      exact h.removed rfl rfl hpool

theorem isOpen_closeClientAt (p : HTTPClientPool) (closed client : Nat) :
    (p.closeClientAt closed).isOpen client = (decide (closed ≠ client) && p.isOpen client) := by
  rw [isOpen_eq, isOpen_eq, closeClientAt, List.getElem?_modify]
  by_cases hsame : closed = client
  · subst hsame
    cases p.clients[closed]? <;> simp
  · cases p.clients[client]? <;> simp [hsame]

theorem accounted_closeClientAt (h : ∀ other < p.clients.length, other ≠ client →
    (∃ key, p.clientPool.get? key = some other) ∨ p.isOpen other = false ∨ .aclose other ∈ p.tasks) :
    (p.closeClientAt client).Accounted := by
  intro other hlt
  rw [closeClientAt, List.length_modify] at hlt
  rw [isOpen_closeClientAt]
  by_cases hsame : client = other
  · simp [hsame]
  · rcases h other hlt (Ne.symm hsame) with hget | hclosed | htask
    · exact .inl hget
    · rw [hclosed, Bool.and_false]
      exact .inr (.inl rfl)
    · exact .inr (.inr htask)

theorem Accounted.aclose (h : p.Accounted) (htask : p.tasks[task]? = some (.aclose client)) :
    ((p.endTask task).closeClientAt client).Accounted := by
  refine accounted_closeClientAt fun other hlt hne => ?_
  rcases h other hlt with hget | hclosed | hmem
  · exact .inl hget
  · exact .inr (.inl hclosed)
  · refine .inr (.inr (mem_endTask hmem ?_))
    rw [htask]
    rintro heq
    cases heq
    exact hne rfl

theorem Accounted.begin (h : p.Accounted) (md5 : String → String) (ip port : String) (tlsId : Option Nat) :
    (p.begin md5 ip port tlsId).2.Accounted := by
  obtain ⟨cache, heq⟩ := begin_snd md5 p ip port tlsId
  rw [heq]
  exact h.frame rfl rfl fun _ hmem => hmem

theorem Accounted.warmupEndpoint (h : p.Accounted) (endpoint : String × String) :
    (warmupEndpoint md5 tlsId p endpoint).Accounted := by
  have hbegin := h.begin md5 endpoint.1 endpoint.2 tlsId
  rw [HTTPClientPool.warmupEndpoint]
  dsimp only
  split
  · exact hbegin
  · exact hbegin.addTasks _

/-! ## What a step can do -/

theorem check_cases (md5 : String → String) (p : HTTPClientPool) (task : Nat) :
    p.step md5 (.check task) = p ∨ ∃ call, p.tasks[task]? = some (.get call) ∧ p.step md5 (.check task) = p.endTask task := by
  cases htask : p.tasks[task]? with
  | none => exact .inl (by simp only [HTTPClientPool.step, htask])
  | some t =>
      cases t with
      | get call =>
          simp only [HTTPClientPool.step, htask]
          split
          · exact .inr ⟨call, rfl, rfl⟩
          · exact .inl rfl
      | _ => exact .inl (by simp only [HTTPClientPool.step, htask])

theorem locked_cases (md5 : String → String) (p : HTTPClientPool) (task : Nat) (creates : Bool) :
    p.step md5 (.locked task creates) = p ∨
    (∃ call, (p.tasks[task]? = some (.get call) ∨ p.tasks[task]? = some (.warmup call)) ∧
      p.step md5 (.locked task creates) = ((p.endTask task).getOrCreate call creates).2) ∨
    ∃ key, p.tasks[task]? = some (.close key) ∧ p.step md5 (.locked task creates) = (p.endTask task).popClient key := by
  cases htask : p.tasks[task]? with
  | none => exact .inl (by simp only [HTTPClientPool.step, htask])
  | some t =>
      cases t with
      | get call => exact .inr (.inl ⟨call, .inl rfl, by simp only [HTTPClientPool.step, htask]⟩)
      | warmup call => exact .inr (.inl ⟨call, .inr rfl, by simp only [HTTPClientPool.step, htask]⟩)
      | close key => exact .inr (.inr ⟨key, rfl, by simp only [HTTPClientPool.step, htask]⟩)
      | aclose client => exact .inl (by simp only [HTTPClientPool.step, htask])

theorem aclose_cases (md5 : String → String) (p : HTTPClientPool) (task : Nat) :
    p.step md5 (.aclose task) = p ∨ ∃ client, p.tasks[task]? = some (.aclose client) ∧
      p.step md5 (.aclose task) = (p.endTask task).closeClientAt client := by
  cases htask : p.tasks[task]? with
  | none => exact .inl (by simp only [HTTPClientPool.step, htask])
  | some t =>
      cases t with
      | aclose client => exact .inr ⟨client, rfl, by simp only [HTTPClientPool.step, htask]⟩
      | _ => exact .inl (by simp only [HTTPClientPool.step, htask])

theorem Accounted.endCall (h : p.Accounted)
    (htask : p.tasks[task]? = some (.get call) ∨ p.tasks[task]? = some (.warmup call)) : (p.endTask task).Accounted := by
  refine h.endTask fun client heq => ?_
  rcases htask with htask | htask
  · rw [htask] at heq
    cases heq
  · rw [htask] at heq
    cases heq

theorem Accounted.step (h : p.Accounted) (event : Event) : (p.step md5 event).Accounted := by
  cases event with
  | tlsConfig tlsId tlsConfig => exact h.frame rfl rfl fun _ hmem => hmem
  | getClient ip port tlsId => exact (h.begin md5 ip port tlsId).addTasks _
  | closeClient ip port tlsId => exact (h.begin md5 ip port tlsId).addTasks _
  | warmupClients endpoints tlsId =>
      rw [HTTPClientPool.step]
      induction endpoints generalizing p with
      | nil => exact h
      | cons endpoint endpoints ih => exact ih (h.warmupEndpoint endpoint)
  | closeAll => exact h.closeAll
  | cleanupUnusedClients activeEndpoints => exact h.cleanupUnusedClients activeEndpoints
  | closeElsewhere client => exact accounted_closeClientAt fun other hlt _ => h other hlt
  | check task =>
      rcases check_cases md5 p task with heq | ⟨call, htask, heq⟩
      · rwa [heq]
      · rw [heq]
        exact h.endCall (.inl htask)
  | locked task creates =>
      rcases locked_cases md5 p task creates with heq | ⟨call, htask, heq⟩ | ⟨key, htask, heq⟩
      · rwa [heq]
      · rw [heq]
        exact (h.endCall htask).getOrCreate call creates
      · rw [heq]
        have hend : (p.endTask task).Accounted := by
          refine h.endTask fun client hclose => ?_
          rw [htask] at hclose
          cases hclose
        exact hend.popClient key
  | aclose task =>
      rcases aclose_cases md5 p task with heq | ⟨client, htask, heq⟩
      · rwa [heq]
      · rw [heq]
        exact h.aclose htask

/-! ## Keys and clients -/

/-- The clients in the pool and the calls on their way have the keys of their settings. -/
structure Consistent (md5 : String → String) (p : HTTPClientPool) : Prop where
  keyed : ∀ key client, p.clientPool.get? key = some client → ∃ c, p.clients[client]? = some c ∧
    Keyed md5 key c.ip c.port c.tlsConfig
  called : ∀ call, .get call ∈ p.tasks ∨ .warmup call ∈ p.tasks → Keyed md5 call.poolKey call.ip call.port call.tlsConfig

theorem Consistent.frame {p' : HTTPClientPool} (h : p.Consistent md5)
    (hpool : ∀ key client, p'.clientPool.get? key = some client → p.clientPool.get? key = some client)
    (hclients : ∀ (client : Nat) (c : HttpClient), p.clients[client]? = some c →
      ∃ c', p'.clients[client]? = some c' ∧ c'.ip = c.ip ∧ c'.port = c.port ∧ c'.tlsConfig = c.tlsConfig)
    (htasks : ∀ call, .get call ∈ p'.tasks ∨ .warmup call ∈ p'.tasks → .get call ∈ p.tasks ∨ .warmup call ∈ p.tasks) :
    p'.Consistent md5 where
  keyed key client hget := by
    obtain ⟨c, hc, hkeyed⟩ := h.keyed key client (hpool key client hget)
    obtain ⟨c', hc', hip, hport, htls⟩ := hclients client c hc
    refine ⟨c', hc', ?_⟩
    rwa [hip, hport, htls]
  called call hmem := h.called call (htasks call hmem)

theorem sameClients (p : HTTPClientPool) (client : Nat) (c : HttpClient) (hc : p.clients[client]? = some c) :
    ∃ c', p.clients[client]? = some c' ∧ c'.ip = c.ip ∧ c'.port = c.port ∧ c'.tlsConfig = c.tlsConfig :=
  ⟨c, hc, rfl, rfl, rfl⟩

theorem Consistent.endTask (h : p.Consistent md5) (task : Nat) : (p.endTask task).Consistent md5 :=
  h.frame (fun _ _ hget => hget) (sameClients p) fun _ hmem =>
    hmem.imp List.mem_of_mem_eraseIdx List.mem_of_mem_eraseIdx

theorem Consistent.removed {p' : HTTPClientPool} {clients : List Nat} (h : p.Consistent md5) (hclients : p'.clients = p.clients)
    (htasks : p'.tasks = p.tasks ++ clients.map .aclose)
    (hpool : ∀ key client, p'.clientPool.get? key = some client → p.clientPool.get? key = some client) :
    p'.Consistent md5 := by
  refine h.frame hpool ?_ fun call hmem => ?_
  · rw [hclients]
    exact sameClients p
  · rw [htasks] at hmem
    simpa using hmem

theorem Consistent.popClient (h : p.Consistent md5) (key : String) : (p.popClient key).Consistent md5 := by
  rw [HTTPClientPool.popClient]
  cases p.clientPool.get? key with
  | none => exact h
  | some popped =>
      have hpool : ∀ other client, (p.clientPool.erase key).get? other = some client →
          p.clientPool.get? other = some client := by
        intro other client hother
        rw [Dict.get?_erase] at hother
        split at hother
        · cases hother
        · exact hother
      have htasks : p.tasks ++ [.aclose popped] = p.tasks ++ [popped].map .aclose := rfl
      exact h.removed rfl htasks hpool

theorem Consistent.closeClientAt (h : p.Consistent md5) (closed : Nat) : (p.closeClientAt closed).Consistent md5 := by
  refine h.frame (fun _ _ hget => hget) (fun client c hc => ?_) fun _ hmem => hmem
  rw [HTTPClientPool.closeClientAt, List.getElem?_modify, hc]
  split
  · exact ⟨_, rfl, rfl, rfl, rfl⟩
  · exact ⟨_, rfl, rfl, rfl, rfl⟩

theorem Consistent.begin (h : p.Consistent md5) (ip port : String) (tlsId : Option Nat) :
    (p.begin md5 ip port tlsId).2.Consistent md5 := by
  obtain ⟨cache, heq⟩ := begin_snd md5 p ip port tlsId
  rw [heq]
  exact h.frame (fun _ _ hget => hget) (sameClients p) fun _ hmem => hmem

theorem Consistent.addCall {task : PoolTask} (h : p.Consistent md5)
    (hcall : ∀ call, task = .get call ∨ task = .warmup call → Keyed md5 call.poolKey call.ip call.port call.tlsConfig) :
    (p.addTasks [task]).Consistent md5 where
  keyed := h.keyed
  called call hmem := by
    simp only [addTasks, List.mem_append, List.mem_singleton] at hmem
    rcases hmem with (hold | hnew) | hold | hnew
    · exact h.called call (.inl hold)
    · exact hcall call (.inl hnew.symm)
    · exact h.called call (.inr hold)
    · exact hcall call (.inr hnew.symm)

theorem keyed_begin (hport : ':' ∉ port.toList) (hfresh : p.Fresh md5 tlsId) :
    Keyed md5 (p.begin md5 ip port tlsId).1.poolKey (p.begin md5 ip port tlsId).1.ip (p.begin md5 ip port tlsId).1.port
      (p.begin md5 ip port tlsId).1.tlsConfig := by
  rw [begin_fst hfresh]
  exact ⟨rfl, hport⟩

theorem Consistent.getOrCreate (h : p.Consistent md5) {creates : Bool}
    (hkeyed : Keyed md5 call.poolKey call.ip call.port call.tlsConfig)
    (hsettings : call.tlsId.map p.objects = call.tlsConfig) : (p.getOrCreate call creates).2.Consistent md5 := by
  rw [HTTPClientPool.getOrCreate]
  cases p.existing call.poolKey with
  | some client => exact h
  | none =>
      cases creates with
      | false => exact h
      | true =>
          refine ⟨fun key client hget => ?_, h.called⟩
          rw [if_pos rfl, HTTPClientPool.createClient, Dict.get?_set] at hget
          rw [if_pos rfl, HTTPClientPool.createClient]
          dsimp only
          split at hget
          · rename_i hkey
            cases hget
            subst hkey
            refine ⟨_, List.getElem?_concat_length, ?_⟩
            rwa [hsettings]
          · obtain ⟨c, hc, hk⟩ := h.keyed key client hget
            refine ⟨c, ?_, hk⟩
            rw [List.getElem?_append_left (List.getElem?_eq_some_iff.mp hc).1]
            exact hc

theorem Consistent.warmup {endpoints : List (String × String)} (h : p.Consistent md5)
    (hports : ∀ endpoint ∈ endpoints, ':' ∉ endpoint.2.toList) (hfresh : p.Fresh md5 tlsId) :
    (endpoints.foldl (warmupEndpoint md5 tlsId) p).Consistent md5 := by
  induction endpoints generalizing p with
  | nil => exact h
  | cons endpoint endpoints ih =>
      rw [List.forall_mem_cons] at hports
      have hbegin := h.begin endpoint.1 endpoint.2 tlsId
      have hkeyed : Keyed md5 (p.begin md5 endpoint.1 endpoint.2 tlsId).1.poolKey
          (p.begin md5 endpoint.1 endpoint.2 tlsId).1.ip (p.begin md5 endpoint.1 endpoint.2 tlsId).1.port
          (p.begin md5 endpoint.1 endpoint.2 tlsId).1.tlsConfig := keyed_begin hports.1 hfresh
      have hfresh' : (p.begin md5 endpoint.1 endpoint.2 tlsId).2.Fresh md5 tlsId := hfresh.begin
      rw [List.foldl_cons, HTTPClientPool.warmupEndpoint]
      dsimp only
      split
      · exact ih hbegin hports.2 hfresh'
      · refine ih (hbegin.addCall fun call hcall => ?_) hports.2 hfresh'
        rcases hcall with hcall | hcall
        · cases hcall
        · cases hcall
          exact hkeyed

theorem mem_of_callOf (htask : p.tasks[task]? = some (.get call) ∨ p.tasks[task]? = some (.warmup call)) :
    p.callOf task = some call ∧ (.get call ∈ p.tasks ∨ .warmup call ∈ p.tasks) := by
  rw [callOf]
  rcases htask with htask | htask
  · rw [htask]
    exact ⟨rfl, .inl (List.mem_of_getElem? htask)⟩
  · rw [htask]
    exact ⟨rfl, .inr (List.mem_of_getElem? htask)⟩

theorem Consistent.step (h : p.Consistent md5) (hsound : p.Sound md5 event) : (p.step md5 event).Consistent md5 := by
  cases event with
  | tlsConfig tlsId tlsConfig => exact h.frame (fun _ _ hget => hget) (sameClients p) fun _ hmem => hmem
  | getClient ip port tlsId =>
      refine (h.begin ip port tlsId).addCall fun call hcall => ?_
      rcases hcall with hcall | hcall
      · cases hcall
        exact keyed_begin hsound.1 hsound.2
      · cases hcall
  | closeClient ip port tlsId =>
      refine (h.begin ip port tlsId).addCall fun call hcall => ?_
      rcases hcall with hcall | hcall
      · cases hcall
      · cases hcall
  | warmupClients endpoints tlsId => exact h.warmup hsound.1 hsound.2
  | closeAll => exact h.removed rfl rfl fun key client hget => by cases hget
  | cleanupUnusedClients activeEndpoints => exact h.removed rfl rfl fun key client hget => (get?_cleanup.mp hget).1
  | closeElsewhere client => exact h.closeClientAt client
  | check task =>
      rcases check_cases md5 p task with heq | ⟨call, htask, heq⟩
      · rwa [heq]
      · rw [heq]
        exact h.endTask task
  | locked task creates =>
      rcases locked_cases md5 p task creates with heq | ⟨call, htask, heq⟩ | ⟨key, htask, heq⟩
      · rwa [heq]
      · rw [heq]
        obtain ⟨hcall, hmem⟩ := mem_of_callOf htask
        exact (h.endTask task).getOrCreate (h.called call hmem) (hsound call hcall).2
      · rw [heq]
        exact (h.endTask task).popClient key
  | aclose task =>
      rcases aclose_cases md5 p task with heq | ⟨client, htask, heq⟩
      · rwa [heq]
      · rw [heq]
        exact (h.endTask task).closeClientAt client

/-! ## The client of a call -/

theorem returned_cases (h : p.returned event = some (call, client)) :
    ∃ task, p.tasks[task]? = some (.get call) ∧
      (p.existing call.poolKey = some client ∧ (event = .check task ∨ ∃ creates, event = .locked task creates) ∨
        p.existing call.poolKey = none ∧ event = .locked task true ∧ client = p.clients.length) := by
  cases event with
  | check task =>
      simp only [returned] at h
      cases htask : p.tasks[task]? with
      | none =>
          rw [htask] at h
          cases h
      | some t =>
          rw [htask] at h
          cases t with
          | get other =>
              obtain ⟨found, hfound, heq⟩ := Option.map_eq_some_iff.mp h
              cases heq
              exact ⟨task, htask, .inl ⟨hfound, .inl rfl⟩⟩
          | _ => cases h
  | locked task creates =>
      simp only [returned] at h
      cases htask : p.tasks[task]? with
      | none =>
          rw [htask] at h
          cases h
      | some t =>
          rw [htask] at h
          cases t with
          | get other =>
              obtain ⟨found, hfound, heq⟩ := Option.map_eq_some_iff.mp h
              cases heq
              rw [getOrCreate] at hfound
              cases hexisting : p.existing call.poolKey with
              | some existing =>
                  rw [hexisting] at hfound
                  cases hfound
                  exact ⟨task, htask, .inl ⟨rfl, .inr ⟨creates, rfl⟩⟩⟩
              | none =>
                  rw [hexisting] at hfound
                  cases creates with
                  | false => cases hfound
                  | true =>
                      cases hfound
                      exact ⟨task, htask, .inr ⟨rfl, rfl, rfl⟩⟩
          | _ => cases h
  | _ => cases h

section

variable (hinj : Function.Injective md5) (hhex : ∀ text, md5 text ≠ "" ∧ ':' ∉ (md5 text).toList)
include hhex

theorem colon_not_mem_tlsHash (tlsConfig : Option TLSConfig) : ':' ∉ (tlsHash md5 tlsConfig).toList := by
  cases tlsConfig with
  | none => exact List.not_mem_nil
  | some tlsConfig => exact (hhex _).2

include hinj

theorem tlsHash_inj {a b : Option TLSConfig} (h : tlsHash md5 a = tlsHash md5 b) :
    a.map TLSConfig.text = b.map TLSConfig.text := by
  cases a with
  | none =>
      cases b with
      | none => rfl
      | some b => exact absurd h.symm (hhex _).1
  | some a =>
      cases b with
      | none => exact absurd h (hhex _).1
      | some b => exact congrArg some (hinj h)

/-- The open client under the key of a call is made for it, when the open clients can be told apart. -/
theorem existing_correct (h : p.Consistent md5) (hmem : .get call ∈ p.tasks) (htold : p.ToldApart call)
    (hexisting : p.existing call.poolKey = some client) :
    ∃ c, p.clients[client]? = some c ∧ c.ip = call.ip ∧ c.port = call.port ∧ c.tlsConfig = call.tlsConfig := by
  obtain ⟨hget, hopen⟩ := existing_eq_some_iff.mp hexisting
  obtain ⟨c, hc, hkey, hport⟩ := h.keyed _ _ hget
  obtain ⟨hkey', hport'⟩ := h.called call (.inl hmem)
  obtain ⟨hip, hp, hhash⟩ := poolKey_inj (hkey.symm.trans hkey') (colon_not_mem_tlsHash hhex _)
    (colon_not_mem_tlsHash hhex _) hport hport'
  have hclosed : c.isClosed = false := by
    rw [isOpen_eq, hc] at hopen
    simpa using hopen
  exact ⟨c, hc, hip, hp, htold c (List.mem_of_getElem? hc) hclosed hip hp (tlsHash_inj hinj hhex hhash)⟩

theorem Consistent.returned (h : p.Consistent md5) (hsound : p.Sound md5 event)
    (hreturned : p.returned event = some (call, client)) : ∃ c, (p.step md5 event).clients[client]? = some c ∧
      c.ip = call.ip ∧ c.port = call.port ∧ c.tlsConfig = call.tlsConfig := by
  obtain ⟨task, htask, hcase⟩ := returned_cases hreturned
  have hmem : .get call ∈ p.tasks := List.mem_of_getElem? htask
  have hcall := (mem_of_callOf (.inl htask)).1
  rcases hcase with ⟨hexisting, rfl | ⟨creates, rfl⟩⟩ | ⟨hnone, rfl, rfl⟩
  · have hclients : (p.step md5 (.check task)).clients = p.clients := by
      rcases check_cases md5 p task with heq | ⟨_, -, heq⟩
      · rw [heq]
      · rw [heq]
        rfl
    rw [hclients]
    exact existing_correct hinj hhex h hmem (hsound call hcall) hexisting
  · have hclients : (p.step md5 (.locked task creates)).clients = p.clients := by
      simp only [HTTPClientPool.step, htask]
      have hsame : (p.endTask task).existing call.poolKey = some client := hexisting
      rw [HTTPClientPool.getOrCreate, hsame]
      rfl
    rw [hclients]
    exact existing_correct hinj hhex h hmem (hsound call hcall).1 hexisting
  · have hclients : (p.step md5 (.locked task true)).clients = p.clients ++
        [{ ip := call.ip, port := call.port, tlsConfig := call.tlsId.map p.objects }] := by
      simp only [HTTPClientPool.step, htask]
      have hsame : (p.endTask task).existing call.poolKey = none := hnone
      rw [HTTPClientPool.getOrCreate, hsame]
      rfl
    rw [hclients]
    exact ⟨_, List.getElem?_concat_length, rfl, rfl, (hsound call hcall).2⟩

theorem Consistent.correct (h : p.Consistent md5) (haccounted : p.Accounted) (hsound : p.Sound md5 event) :
    p.Correct md5 event where
  returned _ _ := h.returned hinj hhex hsound
  accounted := haccounted.step event
  cleaned activeEndpoints hevent := by
    subst hevent
    exact ⟨fun _ _ => get?_cleanup, p.toRemove activeEndpoints, rfl, fun _ => mem_toRemove⟩

/-! ## Runs -/

/-- Along every run whose steps are sound, each call gets a client that is made for it, no client is lost, and a clean-up
takes out the clients whose key is not active. -/
theorem correct_along {events : List Event} (hsound : Along (step md5) (Sound md5) ({} : HTTPClientPool) events) :
    Along (step md5) (Correct md5) ({} : HTTPClientPool) events := by
  have hstart : Consistent md5 {} ∧ Accounted {} := by
    refine ⟨⟨fun key client hget => ?_, fun call hmem => ?_⟩, fun client hlt => ?_⟩
    · cases hget
    · rcases hmem with hmem | hmem <;> cases hmem
    · cases hlt
  exact along_of_invariant (I := fun p => p.Consistent md5 ∧ p.Accounted) (fun p event h hok => ⟨h.1.step hok, h.2.step event⟩)
    (fun p event h hok => h.1.correct hinj hhex h.2 hok) hstart hsound

end

def testMd5 (text : String) : String :=
  if text = TLSConfig.text {} then "20ffb6a5" else String.ofList ('x' :: Text.hex (Bytes.encode text))

theorem testMd5_injective : Function.Injective testMd5 := by
  have hother : ∀ text, "20ffb6a5" ≠ String.ofList ('x' :: Text.hex (Bytes.encode text)) := by
    intro text h
    have hhead := congrArg (fun s => s.toList.head?) h
    rw [@String.toList_ofList ('x' :: _)] at hhead
    cases hhead
  intro a b h
  simp only [testMd5] at h
  split at h
  · split at h
    · rename_i ha hb
      exact ha.trans hb.symm
    · exact absurd h (hother b)
  · split at h
    · exact absurd h.symm (hother a)
    · have hlist := congrArg String.toList h
      rw [String.toList_ofList, String.toList_ofList, List.cons.injEq] at hlist
      exact Bytes.encode_injective (Text.hex_injective hlist.2)

theorem testMd5_plain (text : String) : testMd5 text ≠ "" ∧ ':' ∉ (testMd5 text).toList := by
  rw [testMd5]
  split
  · decide
  · constructor
    · intro h
      have hlist := congrArg String.toList h
      rw [String.toList_ofList] at hlist
      cases hlist
    · rw [String.toList_ofList, List.mem_cons, not_or]
      exact ⟨by decide, Text.colon_not_mem_hex _⟩

theorem correct_along_reused : Along (step testMd5) (Correct testMd5) ({} : HTTPClientPool)
    [.getClient "10.0.0.1" "8080" (some 1), .locked 0 true, .getClient "10.0.0.1" "8080" (some 1), .check 0] :=
  correct_along testMd5_injective testMd5_plain (by decide)

/-- After TLS is enabled in the configuration the call gets the client that was made without it. -/
theorem changed_config_ignored : ¬ Along (step testMd5) (Correct testMd5) ({} : HTTPClientPool)
    [.getClient "10.0.0.1" "8080" (some 1), .locked 0 true, .tlsConfig 1 { enableTls := true },
      .getClient "10.0.0.1" "8080" (some 1), .check 0] := by
  intro h
  obtain ⟨c, hc, -, -, htls⟩ := h.2.2.2.2.1.returned
    ⟨"10.0.0.1", "8080", some 1, some { enableTls := true }, "10.0.0.1:8080:20ffb6a5"⟩ 0 (by decide)
  replace hc : some { ip := "10.0.0.1", port := "8080", tlsConfig := some {} } = some c := hc
  cases hc
  cases htls

end HTTPClientPool

end PyMotor
