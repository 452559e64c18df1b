import PyMotor.Request.RequestManager

/-!
# Bumped ids stay unique

While no clock reading serves more than 100 calls, the counter leaves the two characters that a bump rewrites at zero.
-/

namespace PyMotor

open Lib Recompute

/-! ## Digits -/

theorem twoDigits_length (n : Nat) : (twoDigits n).length = 2 := rfl

theorem twoDigits_digits : ∀ n < 100, (twoDigits n).all Char.isDigit = true ∧
    (twoDigits n).foldl (fun n c => 10 * n + (c.toNat - 48)) 0 = n := by
  decide

theorem twoDigits_inj {m n : Nat} (hm : m < 100) (hn : n < 100) (h : twoDigits m = twoDigits n) : m = n := by
  rw [← (twoDigits_digits m hm).2, h, (twoDigits_digits n hn).2]

theorem fourDigits_eq : ∀ n < 100, fourDigits n = twoDigits 0 ++ twoDigits n := by
  decide

theorem toDigits_inj {m n : Nat} (h : Nat.toDigits 10 m = Nat.toDigits 10 n) : m = n := by
  have hvalue := congrArg (fun cs => Nat.ofDigitChars 10 cs 0) h
  simpa using hvalue

theorem toDigits_length {n : Nat} (hmin : 10 ^ 15 ≤ n) (hmax : n < 10 ^ 16) : (Nat.toDigits 10 n).length = 16 := by
  have hle := (Nat.length_toDigits_le_iff (b := 10) (n := n) (k := 16) (by omega) (by omega)).mpr hmax
  have hgt : ¬ (Nat.toDigits 10 n).length ≤ 15 := by
    rw [Nat.length_toDigits_le_iff (by omega) (by omega)]
    omega
  omega

/-! ## Bumps -/

def idChars (timestamp counter bumps : Nat) (suffix : List Char) : List Char :=
  Nat.toDigits 10 timestamp ++ twoDigits bumps ++ twoDigits counter ++ suffix

theorem modifyReqIdRetrySegment_ofList {before after : List Char} {n : Nat} (hbefore : before.length = 16) (hn : n < 100) :
    modifyReqIdRetrySegment (String.ofList (before ++ twoDigits n ++ after)) =
      String.ofList (before ++ twoDigits ((n + 1) % 100) ++ after) := by
  obtain ⟨hdigits, hvalue⟩ := twoDigits_digits n hn
  have htake : (before ++ twoDigits n ++ after).take 16 = before := by
    rw [List.append_assoc, ← hbefore, List.take_left]
  have hdrop : (before ++ twoDigits n ++ after).drop 16 = twoDigits n ++ after := by
    rw [List.append_assoc, ← hbefore, List.drop_left]
  have hrest : (before ++ twoDigits n ++ after).drop 18 = after := by
    have hlength : 18 = (before ++ twoDigits n).length := by
      rw [List.length_append, hbefore, twoDigits_length]
    rw [hlength, List.drop_left]
  have htarget : (twoDigits n ++ after).take 2 = twoDigits n := rfl
  have hlong : 16 < (before ++ twoDigits n ++ after).length := by
    rw [List.length_append, List.length_append, hbefore, twoDigits_length]
    omega
  rw [modifyReqIdRetrySegment]
  simp only [String.toList_ofList, hdrop, htarget, hdigits, hlong, decide_true, Bool.and_self, if_true, hvalue, htake, hrest]

theorem iterate_modifyReqIdRetrySegment {timestamp counter : Nat} {suffix : List Char}
    (htimestamp : (Nat.toDigits 10 timestamp).length = 16) {bumps : Nat} (hbumps : bumps ≤ 99) :
    modifyReqIdRetrySegment^[bumps] (String.ofList (idChars timestamp counter 0 suffix)) =
      String.ofList (idChars timestamp counter bumps suffix) := by
  induction bumps with
  | zero => rfl
  | succ bumps ih =>
      rw [Function.iterate_succ_apply', ih (by omega), idChars, List.append_assoc _ (twoDigits counter),
        modifyReqIdRetrySegment_ofList htimestamp (by omega), Nat.mod_eq_of_lt (by omega), idChars,
        List.append_assoc _ (twoDigits counter)]

theorem idChars_length {timestamp counter bumps : Nat} {suffix : List Char}
    (htimestamp : (Nat.toDigits 10 timestamp).length = 16) (hsuffix : suffix.length = 8) :
    (idChars timestamp counter bumps suffix).length = 28 := by
  simp only [idChars, List.length_append, htimestamp, twoDigits_length, hsuffix]

theorem idChars_inj {timestamp₁ counter₁ bumps₁ timestamp₂ counter₂ bumps₂ : Nat} {suffix₁ suffix₂ : List Char}
    (h₁ : (Nat.toDigits 10 timestamp₁).length = 16) (h₂ : (Nat.toDigits 10 timestamp₂).length = 16)
    (hbumps₁ : bumps₁ ≤ 99) (hbumps₂ : bumps₂ ≤ 99) (hcounter₁ : counter₁ ≤ 99) (hcounter₂ : counter₂ ≤ 99)
    (h : idChars timestamp₁ counter₁ bumps₁ suffix₁ = idChars timestamp₂ counter₂ bumps₂ suffix₂) :
    (timestamp₁, counter₁) = (timestamp₂, counter₂) ∧ bumps₁ = bumps₂ := by
  rw [idChars, idChars] at h
  obtain ⟨hcounter, -⟩ := List.append_inj h (by simp only [List.length_append, h₁, h₂, twoDigits_length])
  obtain ⟨hbumps, hcounter⟩ := List.append_inj hcounter (by simp only [List.length_append, h₁, h₂, twoDigits_length])
  obtain ⟨htimestamp, hbumps⟩ := List.append_inj hbumps (by rw [h₁, h₂])
  rw [toDigits_inj htimestamp, twoDigits_inj (by omega) (by omega) hcounter, twoDigits_inj (by omega) (by omega) hbumps]
  exact ⟨rfl, rfl⟩

theorem idChars_getElem? {timestamp counter bumps i : Nat} {suffix : List Char}
    (htimestamp : (Nat.toDigits 10 timestamp).length = 16) (h₁ : i ≠ 16) (h₂ : i ≠ 17) :
    (idChars timestamp counter bumps suffix)[i]? = (idChars timestamp counter 0 suffix)[i]? := by
  rw [idChars, idChars]
  simp only [List.append_assoc]
  by_cases hlt : i < 16
  · rw [List.getElem?_append_left (by omega), List.getElem?_append_left (by omega)]
  · simp only [List.getElem?_append, htimestamp, twoDigits_length, if_neg hlt, if_neg (show ¬ i - 16 < 2 by omega)]

/-! ## The counter -/

namespace RequestIds

/-- The parts of an id. -/
structure Stamp where
  timestamp : Nat
  counter : Nat
  suffix : List Char

/-- The parts of the ids of the calls. -/
def stamps (s : RequestIds) : List Call → List Stamp
  | [] => []
  | call :: calls =>
    { timestamp := call.timestamp, counter := (s.tick call.timestamp).counter, suffix := call.suffix } ::
      stamps (s.tick call.timestamp) calls

def Stamp.requestId (stamp : Stamp) : String :=
  String.ofList (Nat.toDigits 10 stamp.timestamp ++ fourDigits stamp.counter ++ stamp.suffix)

theorem generateRequestIds_eq (s : RequestIds) (calls : List Call) :
    s.generateRequestIds calls = (s.stamps calls).map Stamp.requestId := by
  induction calls generalizing s with
  | nil => rfl
  | cons call calls ih => exact congrArg (_ :: ·) (ih _)

theorem tick_lastTimestamp (s : RequestIds) (t : Nat) : (s.tick t).lastTimestamp = t := by
  rw [tick]
  split
  · rename_i h
    exact h.symm
  · rfl

/-- The clock has not gone back behind the last reading. -/
structure Clocked (s : RequestIds) (calls : List Call) : Prop where
  sorted : (calls.map Call.timestamp).Pairwise (· ≤ ·)
  last : ∀ call ∈ calls, s.lastTimestamp ≤ call.timestamp

theorem Clocked.tick {s : RequestIds} {call : Call} {calls : List Call} (h : Clocked s (call :: calls)) :
    Clocked (s.tick call.timestamp) calls := by
  have hsorted := h.sorted
  rw [List.map_cons, List.pairwise_cons] at hsorted
  refine ⟨hsorted.2, fun other hother => ?_⟩
  rw [tick_lastTimestamp]
  exact hsorted.1 _ (List.mem_map_of_mem hother)

theorem stamps_later {s : RequestIds} {calls : List Call} (h : Clocked s calls) :
    ∀ stamp ∈ s.stamps calls, s.lastTimestamp < stamp.timestamp ∨
      (stamp.timestamp = s.lastTimestamp ∧ s.counter < stamp.counter) := by
  induction calls generalizing s with
  | nil => simp [stamps]
  | cons call calls ih =>
      have hcall := h.last call List.mem_cons_self
      have hlast := tick_lastTimestamp s call.timestamp
      rw [stamps, List.forall_mem_cons]
      by_cases heq : call.timestamp = s.lastTimestamp
      · have hcounter : (s.tick call.timestamp).counter = s.counter + 1 := by rw [tick, if_pos heq]
        refine ⟨.inr ⟨heq, by rw [hcounter]; exact Nat.lt_succ_self _⟩, fun stamp hstamp => ?_⟩
        have hlater := ih h.tick stamp hstamp
        omega
      · refine ⟨.inl (show s.lastTimestamp < call.timestamp by omega), fun stamp hstamp => ?_⟩
        have hlater := ih h.tick stamp hstamp
        omega

theorem stamps_pairwise {s : RequestIds} {calls : List Call} (h : Clocked s calls) :
    (s.stamps calls).Pairwise fun a b => (a.timestamp, a.counter) ≠ (b.timestamp, b.counter) := by
  induction calls generalizing s with
  | nil => exact .nil
  | cons call calls ih =>
      refine .cons (fun stamp hstamp heq => ?_) (ih h.tick)
      have hlater := stamps_later h.tick stamp hstamp
      rw [tick_lastTimestamp] at hlater
      rw [Prod.mk.injEq] at heq
      obtain ⟨htimestamp, hcounter⟩ := heq
      dsimp only at htimestamp hcounter
      omega

theorem stamps_counter {s : RequestIds} {calls : List Call} (h : Clocked s calls) : ∀ stamp ∈ s.stamps calls,
    stamp.counter + 1 ≤ calls.countP (fun call => call.timestamp = stamp.timestamp) +
      if stamp.timestamp = s.lastTimestamp then s.counter + 1 else 0 := by
  induction calls generalizing s with
  | nil => simp [stamps]
  | cons call calls ih =>
      have hlast := tick_lastTimestamp s call.timestamp
      have hcounter : (s.tick call.timestamp).counter = if call.timestamp = s.lastTimestamp then s.counter + 1 else 0 := by
        rw [tick]
        split
        · rfl
        · rfl
      rw [stamps, List.forall_mem_cons]
      refine ⟨?_, fun stamp hstamp => ?_⟩
      · dsimp only
        rw [hcounter, List.countP_cons_of_pos (by simp)]
        split
        · omega
        · omega
      · have hbound := ih h.tick stamp hstamp
        rw [hlast, hcounter] at hbound
        rw [List.countP_cons]
        by_cases hsame : stamp.timestamp = call.timestamp
        · rw [if_pos hsame] at hbound
          rw [if_pos (by simp [hsame]), hsame]
          rw [hsame] at hbound
          split at hbound
          · rename_i heq
            rw [if_pos heq]
            omega
          · rename_i heq
            rw [if_neg heq]
            omega
        · rw [if_neg hsame] at hbound
          rw [if_neg (by simpa using Ne.symm hsame)]
          omega

structure Stamp.Valid (stamp : Stamp) : Prop where
  timestamp : (Nat.toDigits 10 stamp.timestamp).length = 16
  counter : stamp.counter ≤ 99
  suffix : stamp.suffix.length = 8

theorem Stamp.Valid.requestId {stamp : Stamp} (h : stamp.Valid) :
    stamp.requestId = String.ofList (idChars stamp.timestamp stamp.counter 0 stamp.suffix) := by
  have hcounter := h.counter
  rw [Stamp.requestId, fourDigits_eq _ (by omega), idChars]
  simp only [List.append_assoc]

theorem mem_stamps {s : RequestIds} {calls : List Call} : ∀ stamp ∈ s.stamps calls, ∃ call ∈ calls,
    stamp.timestamp = call.timestamp ∧ stamp.suffix = call.suffix := by
  induction calls generalizing s with
  | nil => simp [stamps]
  | cons call calls ih =>
      rw [stamps, List.forall_mem_cons]
      refine ⟨⟨call, List.mem_cons_self, rfl, rfl⟩, fun stamp hstamp => ?_⟩
      obtain ⟨other, hother, hparts⟩ := ih stamp hstamp
      exact ⟨other, List.mem_cons_of_mem _ hother, hparts⟩

theorem Calls.clocked {calls : List Call} (h : Calls calls) : Clocked {} calls :=
  ⟨h.clock, fun _ _ => Nat.zero_le _⟩

theorem Calls.valid {calls : List Call} (h : Calls calls) : ∀ stamp ∈ stamps {} calls, stamp.Valid := by
  intro stamp hstamp
  obtain ⟨call, hcall, htimestamp, hsuffix⟩ := mem_stamps stamp hstamp
  obtain ⟨hmin, hmax⟩ := h.digits call hcall
  have hcounter := stamps_counter h.clocked stamp hstamp
  have hrate := h.rate stamp.timestamp
  have hfresh : stamp.timestamp ≠ 0 := by omega
  rw [if_neg hfresh] at hcounter
  refine ⟨?_, by omega, hsuffix ▸ h.suffix call hcall⟩
  rw [htimestamp]
  exact toDigits_length hmin hmax

end RequestIds

/-! ## The tables -/

namespace RequestManager

/-- The tables hold the same for an id. -/
structure Agree (rm₁ rm₂ : RequestManager) (reqId : String) : Prop where
  info : rm₁.getReqInfo reqId = rm₂.getReqInfo reqId
  workload : ∀ role, rm₁.getReqWorkload (reqId, role) = rm₂.getReqWorkload (reqId, role)

theorem Agree.refl (rm : RequestManager) (reqId : String) : Agree rm rm reqId := ⟨rfl, fun _ => rfl⟩

theorem Agree.symm {rm₁ rm₂ : RequestManager} {reqId : String} (h : Agree rm₁ rm₂ reqId) : Agree rm₂ rm₁ reqId :=
  ⟨h.info.symm, fun role => (h.workload role).symm⟩

theorem Agree.trans {rm₁ rm₂ rm₃ : RequestManager} {reqId : String} (h₁ : Agree rm₁ rm₂ reqId) (h₂ : Agree rm₂ rm₃ reqId) :
    Agree rm₁ rm₃ reqId :=
  ⟨h₁.info.trans h₂.info, fun role => (h₁.workload role).trans (h₂.workload role)⟩

theorem TableAction.apply_other {reqId other : String} (h : reqId ≠ other) (rm : RequestManager) (action : TableAction) :
    Agree (action.apply rm other) rm reqId := by
  have hkey : ∀ role role' : PDRole, (reqId, role) ≠ (other, role') := fun role role' heq => h (congrArg Prod.fst heq)
  cases action with
  | addReqInfo info =>
      rw [apply, RequestManager.addReqInfo]
      split
      · exact .refl rm reqId
      · exact ⟨Dict.get?_set_ne h, fun role => rfl⟩
  | delReqInfo =>
      rw [apply, RequestManager.delReqInfo]
      split
      · refine ⟨Dict.get?_erase_ne h, fun role => ?_⟩
        rw [getReqWorkload, Dict.get?_filterKeys]
        simp [h, getReqWorkload]
      · exact .refl rm reqId
  | addReqWorkload role workload =>
      rw [apply, RequestManager.addReqWorkload]
      split
      · exact .refl rm reqId
      · exact ⟨rfl, fun role' => Dict.get?_set_ne (hkey role' role)⟩
  | updateReqWorkload role workload =>
      rw [apply, RequestManager.updateReqWorkload]
      split
      · exact ⟨rfl, fun role' => Dict.get?_set_ne (hkey role' role)⟩
      · exact .refl rm reqId
  | delReqWorkload role =>
      rw [apply, RequestManager.delReqWorkload]
      split
      · exact ⟨rfl, fun role' => Dict.get?_erase_ne (hkey role' role)⟩
      · exact .refl rm reqId

section

variable {rm₁ rm₂ : RequestManager} {reqId : String}
  (h : ∀ role, rm₁.getReqWorkload (reqId, role) = rm₂.getReqWorkload (reqId, role))

include h

theorem set_workload (role : PDRole) (workload : Workload) (role' : PDRole) :
    (rm₁.reqWorkloadDict.set (reqId, role) workload).get? (reqId, role') =
      (rm₂.reqWorkloadDict.set (reqId, role) workload).get? (reqId, role') := by
  rw [Dict.get?_set, Dict.get?_set]
  split
  · rfl
  · exact h role'

theorem erase_workload (role role' : PDRole) :
    (rm₁.reqWorkloadDict.erase (reqId, role)).get? (reqId, role') =
      (rm₂.reqWorkloadDict.erase (reqId, role)).get? (reqId, role') := by
  rw [Dict.get?_erase, Dict.get?_erase]
  split
  · rfl
  · exact h role'

end

theorem TableAction.apply_same {rm₁ rm₂ : RequestManager} {reqId : String} (h : Agree rm₁ rm₂ reqId) (action : TableAction) :
    Agree (action.apply rm₁ reqId) (action.apply rm₂ reqId) reqId := by
  obtain ⟨hinfo, hworkload⟩ := h
  have hcontains : rm₁.reqInfoDict.contains reqId = rm₂.reqInfoDict.contains reqId := congrArg Option.isSome hinfo
  have hrecorded : ∀ role, rm₁.reqWorkloadDict.contains (reqId, role) = rm₂.reqWorkloadDict.contains (reqId, role) :=
    fun role => congrArg Option.isSome (hworkload role)
  cases action with
  | addReqInfo info =>
      rw [apply, apply, RequestManager.addReqInfo, RequestManager.addReqInfo, hcontains]
      cases rm₂.reqInfoDict.contains reqId with
      | true => exact ⟨hinfo, hworkload⟩
      | false => exact ⟨(Dict.get?_set_self _ _ _).trans (Dict.get?_set_self _ _ _).symm, hworkload⟩
  | delReqInfo =>
      rw [apply, apply, RequestManager.delReqInfo, RequestManager.delReqInfo, hcontains]
      cases rm₂.reqInfoDict.contains reqId with
      | true =>
          refine ⟨(Dict.get?_erase_self _ _).trans (Dict.get?_erase_self _ _).symm, fun role => ?_⟩
          simp [getReqWorkload, Dict.get?_filterKeys]
      | false => exact ⟨hinfo, hworkload⟩
  | addReqWorkload role workload =>
      rw [apply, apply, RequestManager.addReqWorkload, RequestManager.addReqWorkload, hrecorded]
      cases rm₂.reqWorkloadDict.contains (reqId, role) with
      | true => exact ⟨hinfo, hworkload⟩
      | false => exact ⟨hinfo, set_workload hworkload role workload⟩
  | updateReqWorkload role workload =>
      rw [apply, apply, RequestManager.updateReqWorkload, RequestManager.updateReqWorkload, hrecorded]
      cases rm₂.reqWorkloadDict.contains (reqId, role) with
      | true => exact ⟨hinfo, set_workload hworkload role workload⟩
      | false => exact ⟨hinfo, hworkload⟩
  | delReqWorkload role =>
      rw [apply, apply, RequestManager.delReqWorkload, RequestManager.delReqWorkload, hrecorded]
      cases rm₂.reqWorkloadDict.contains (reqId, role) with
      | true => exact ⟨hinfo, erase_workload hworkload role⟩
      | false => exact ⟨hinfo, hworkload⟩

end RequestManager

open RequestManager

theorem runTables_agree {ids : List String} {request bumps : Nat} (calls : List TableCall)
    (h : ∀ call ∈ calls, call.request ≠ request → bumpedId ids request bumps ≠ bumpedId ids call.request call.bumps) :
    Agree (runTables ids calls) (runTables ids (calls.filter fun call => call.request = request))
      (bumpedId ids request bumps) := by
  have hfold : ∀ rm₁ rm₂ : RequestManager, Agree rm₁ rm₂ (bumpedId ids request bumps) →
      Agree (calls.foldl (fun rm call => call.action.apply rm (bumpedId ids call.request call.bumps)) rm₁)
        ((calls.filter fun call => call.request = request).foldl
          (fun rm call => call.action.apply rm (bumpedId ids call.request call.bumps)) rm₂) (bumpedId ids request bumps) := by
    induction calls with
    | nil => exact fun _ _ hagree => hagree
    | cons call calls ih =>
        rw [List.forall_mem_cons] at h
        intro rm₁ rm₂ hagree
        rw [List.foldl_cons]
        by_cases hrequest : call.request = request
        · rw [List.filter_cons_of_pos (by simp [hrequest]), List.foldl_cons]
          refine ih h.2 _ _ ?_
          by_cases hid : bumpedId ids request bumps = bumpedId ids call.request call.bumps
          · rw [← hid]
            exact call.action.apply_same hagree
          · exact ((call.action.apply_other hid rm₁).trans hagree).trans (call.action.apply_other hid rm₂).symm
        · rw [List.filter_cons_of_neg (by simp [hrequest])]
          exact ih h.2 _ _ ((call.action.apply_other (h.1 hrequest) rm₁).trans hagree)
  exact hfold _ _ (.refl _ _)

/-! ## The ids -/

open RequestIds

theorem bumpedId_stamps {stamps : List Stamp} (hvalid : ∀ stamp ∈ stamps, stamp.Valid) {request bumps : Nat}
    (hrequest : request < stamps.length) (hbumps : bumps ≤ 99) :
    (bumpedId (stamps.map Stamp.requestId) request bumps).toList =
      idChars stamps[request].timestamp stamps[request].counter bumps stamps[request].suffix := by
  have hstamp := hvalid _ (List.getElem_mem hrequest)
  have hget : (stamps.map Stamp.requestId).getD request "" = stamps[request].requestId := by
    rw [List.getD_eq_getElem?_getD, List.getElem?_map, List.getElem?_eq_getElem hrequest]
    rfl
  rw [bumpedId, hget, hstamp.requestId, iterate_modifyReqIdRetrySegment hstamp.timestamp hbumps, String.toList_ofList]

theorem uniqueIds_of_stamps {stamps : List Stamp} (hvalid : ∀ stamp ∈ stamps, stamp.Valid)
    (hpairwise : stamps.Pairwise fun a b => (a.timestamp, a.counter) ≠ (b.timestamp, b.counter)) :
    UniqueIds (stamps.map Stamp.requestId) := by
  have hdistinct : ∀ request₁ request₂ bumps₁ bumps₂, request₁ < (stamps.map Stamp.requestId).length →
      request₂ < (stamps.map Stamp.requestId).length → bumps₁ ≤ 99 → bumps₂ ≤ 99 →
      bumpedId (stamps.map Stamp.requestId) request₁ bumps₁ = bumpedId (stamps.map Stamp.requestId) request₂ bumps₂ →
      request₁ = request₂ ∧ bumps₁ = bumps₂ := by
    intro request₁ request₂ bumps₁ bumps₂ h₁ h₂ hbumps₁ hbumps₂ heq
    rw [List.length_map] at h₁ h₂
    have hchars := congrArg String.toList heq
    rw [bumpedId_stamps hvalid h₁ hbumps₁, bumpedId_stamps hvalid h₂ hbumps₂] at hchars
    have hstamp₁ := hvalid _ (List.getElem_mem h₁)
    have hstamp₂ := hvalid _ (List.getElem_mem h₂)
    obtain ⟨hparts, hbumps⟩ := idChars_inj hstamp₁.timestamp hstamp₂.timestamp hbumps₁ hbumps₂ hstamp₁.counter
      hstamp₂.counter hchars
    refine ⟨?_, hbumps⟩
    by_contra hne
    rw [List.pairwise_iff_getElem] at hpairwise
    rcases Nat.lt_or_gt_of_ne hne with hlt | hgt
    · exact hpairwise request₁ request₂ h₁ h₂ hlt hparts
    · exact hpairwise request₂ request₁ h₂ h₁ hgt hparts.symm
  constructor
  · exact hdistinct
  · intro request bumps hrequest hbumps
    rw [List.length_map] at hrequest
    have hstamp := hvalid _ (List.getElem_mem hrequest)
    rw [bumpedId_stamps hvalid hrequest hbumps, idChars_length hstamp.timestamp hstamp.suffix]
  · intro request bumps i hrequest hbumps h₁ h₂
    rw [List.length_map] at hrequest
    rw [bumpedId_stamps hvalid hrequest hbumps, bumpedId_stamps hvalid hrequest (by omega)]
    exact idChars_getElem? (hvalid _ (List.getElem_mem hrequest)).timestamp h₁ h₂
  · intro calls hcalls request bumps hrequest hbumps
    have hagree : Agree _ _ (bumpedId _ request bumps) := runTables_agree calls fun call hcall hne heq =>
      hne (hdistinct _ _ _ _ hrequest (hcalls call hcall).1 hbumps (hcalls call hcall).2 heq).1.symm
    exact ⟨hagree.info, hagree.workload⟩

/-- Generated ids and their bumps are unique. -/
theorem generateRequestIds_unique {calls : List Call} (h : Calls calls) : UniqueIds (generateRequestIds {} calls) := by
  rw [generateRequestIds_eq]
  exact uniqueIds_of_stamps h.valid (stamps_pairwise h.clocked)

def twoCalls : List Call :=
  [{ timestamp := 1700000000000000, suffix := ['a', 'b', 'c', 'd', 'e', 'f', '0', '1'] },
    { timestamp := 1700000000000000, suffix := ['0', '0', '0', '0', '0', '0', '0', '0'] }]

theorem twoCalls_unique : UniqueIds (generateRequestIds {} twoCalls) := by
  refine generateRequestIds_unique ⟨by simp [twoCalls], by simp [twoCalls], by simp [twoCalls], fun t => ?_⟩
  exact List.countP_le_length.trans (by simp [twoCalls])

end PyMotor
