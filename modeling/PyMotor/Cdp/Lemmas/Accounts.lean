import PyMotor.Cdp.System
import PyMotor.Router.Lemmas.PdHandler

/-!
# The accounts of a request in CDP mode

While no prefill workload is in the way of the request context or of another prefill, at most one metaserver
handler holds an allocation, and the accounts of the request are what the handlers hold.
-/

namespace PyMotor

open Lib Recompute Router RequestManager

/-- The handler has an allocation that it has not released. -/
def MetaPhase.Holds : MetaPhase → Prop
  | .holding _ => True
  | .releasing _ => True
  | _ => False

/-- What a metaserver handler holds is the account of the prefill. -/
def MetaPhase.Accounted (prefill : Account) : MetaPhase → Prop
  | .waiting _ w => 0 ≤ w ∧ 0 < w.activeKvCache
  | .holding resource => ∃ iid eid w, resource = scheduledResource .roleP iid eid ∧ prefill = some ((iid, eid), w) ∧ 0 ≤ w ∧
      0 < w.activeKvCache
  | .releasing resource => ∃ iid eid w, resource = scheduledResource .roleP iid eid ∧ prefill = some ((iid, eid), w) ∧
      0 ≤ w ∧ w.activeTokens ≤ 0
  | _ => True

/-- What the decode handler holds is the account of the decode. -/
def DecodePhase.Accounted (decode : Account) : DecodePhase → Prop
  | .waiting _ w => decode = none ∧ 0 ≤ w ∧ w.activeKvCache ≤ 0
  | .holding resource => ∃ iid eid w, resource = scheduledResource .roleD iid eid ∧ decode = some ((iid, eid), w) ∧ 0 ≤ w ∧
      w.activeKvCache ≤ 0
  | _ => decode = none

namespace CdpSystem

variable {s : CdpSystem} {a : PDRole → Account} (env : RouterEnv)

structure Inv (a : PDRole → Account) (s : CdpSystem) : Prop where
  accounts : Accounts s.router a
  both : a .roleU = none
  decode : s.decode.Accounted (a .roleD)
  metas : ∀ {i : Nat} {phase : MetaPhase}, s.metas[i]? = some phase → phase.Accounted (a .roleP)
  unique : ∀ {i j : Nat} {p q : MetaPhase}, s.metas[i]? = some p → s.metas[j]? = some q → p.Holds → q.Holds → i = j
  held : a .roleP ≠ none → ∃ (i : Nat) (phase : MetaPhase), s.metas[i]? = some phase ∧ phase.Holds

theorem Inv.moveDecode {s' : CdpSystem} {x : Account} (h : Inv a s)
    (hacc : Accounts s'.router (Function.update a .roleD x)) (hmetas : s'.metas = s.metas)
    (hdecode : s'.decode.Accounted x) : Inv (Function.update a .roleD x) s' where
  accounts := hacc
  both := h.both
  decode := by rw [Function.update_self]; exact hdecode
  metas := by rw [hmetas]; exact h.metas
  unique := by rw [hmetas]; exact h.unique
  held := by rw [hmetas]; exact h.held

theorem Inv.moveDecode_same {s' : CdpSystem} (h : Inv a s) (hacc : Accounts s'.router a)
    (hmetas : s'.metas = s.metas) (hdecode : s'.decode.Accounted (a .roleD)) : Inv a s' where
  accounts := hacc
  both := h.both
  decode := hdecode
  metas := by rw [hmetas]; exact h.metas
  unique := by rw [hmetas]; exact h.unique
  held := by rw [hmetas]; exact h.held

theorem getElem?_set_cases {metas : List MetaPhase} {i j : Nat} {phase p : MetaPhase}
    (h : (metas.set i phase)[j]? = some p) : j = i ∧ p = phase ∨ j ≠ i ∧ metas[j]? = some p := by
  by_cases hj : j = i
  · subst hj
    rw [List.getElem?_set_self'] at h
    obtain ⟨_, _, rfl⟩ := Option.map_eq_some_iff.mp h
    exact .inl ⟨rfl, rfl⟩
  · rw [List.getElem?_set_ne (Ne.symm hj)] at h
    exact .inr ⟨hj, h⟩

theorem Inv.moveMeta {router : Router} {i : Nat} {old phase : MetaPhase} {x : Account} (h : Inv a s)
    (hi : s.metas[i]? = some old) (hacc : Accounts router (Function.update a .roleP x))
    (hothers : ∀ (j : Nat) (p : MetaPhase), j ≠ i → s.metas[j]? = some p → ¬ p.Holds) (hphase : phase.Accounted x)
    (hheld : x ≠ none → phase.Holds) :
    Inv (Function.update a .roleP x) (setMeta { s with router := router } i phase) where
  accounts := hacc
  both := h.both
  decode := h.decode
  metas {j p} hj := by
    rw [Function.update_self]
    rcases getElem?_set_cases hj with ⟨rfl, rfl⟩ | ⟨hne, hj⟩
    · exact hphase
    · have hp := h.metas hj
      have hn := hothers j p hne hj
      cases p with
      | holding resource => exact absurd trivial hn
      | releasing resource => exact absurd trivial hn
      | _ => exact hp
  unique {j k p q} hj hk hp hq := by
    rcases getElem?_set_cases hj with ⟨rfl, rfl⟩ | ⟨hne, hj⟩
    · rcases getElem?_set_cases hk with ⟨rfl, rfl⟩ | ⟨hne, hk⟩
      · rfl
      · exact absurd hq (hothers k q hne hk)
    · exact absurd hp (hothers j p hne hj)
  held hx := by
    rw [Function.update_self] at hx
    have hlt := (List.getElem?_eq_some_iff.mp hi).1
    exact ⟨i, phase, by simp [setMeta, hlt], hheld hx⟩

/-! ## The request context -/

theorem accounts_addReqInfo (h : Accounts s.router a) : Accounts s.addReqInfo.router a := h.addReqInfo _ _

theorem accounts_delReqInfo (h : Accounts s.router a) (ha : ∀ role, a role = none) :
    Accounts s.delReqInfo.router a := h.delReqInfo ha _

theorem Inv.prefill_none (h : Inv a s) (hn : s.NoPrefillRecord) : a .roleP = none := by
  unfold NoPrefillRecord at hn
  rw [h.accounts.record] at hn
  exact Option.map_eq_none_iff.mp hn

theorem Inv.all_none (h : Inv a s) (hn : s.NoPrefillRecord) (hD : a .roleD = none) : ∀ role, a role = none := by
  intro role
  cases role with
  | roleP => exact h.prefill_none hn
  | roleD => exact hD
  | roleU => exact h.both

theorem Inv.decodeAbort (h : Inv a s) (hn : s.NoPrefillRecord) (hD : a .roleD = none) : Inv a s.decodeAbort :=
  h.moveDecode_same (accounts_delReqInfo h.accounts (h.all_none hn hD)) rfl hD

theorem Inv.decodeAttemptFailed (h : Inv a s) {n : Nat} (hn : env.maxRetry ≤ n + 1 → s.NoPrefillRecord)
    (hD : a .roleD = none) : Inv a (s.decodeAttemptFailed env n) := by
  unfold CdpSystem.decodeAttemptFailed
  split
  · exact h.moveDecode_same h.accounts rfl hD
  · rename_i hlt
    exact h.decodeAbort (hn (Nat.le_of_not_lt hlt)) hD

theorem Inv.decodeAllocated (h : Inv a s) (hD : a .roleD = none) {w : Workload} (hw : 0 ≤ w)
    (hkv : w.activeKvCache ≤ 0) (hrole : env.answeredRole s.router.sent.length .roleD = .roleD) (n : Nat) (iid eid : Int) :
    ∃ a', Inv a' (s.decodeAllocated env n w iid eid) := by
  obtain ⟨rm, he, hs⟩ := h.accounts.allocated hD (iid, eid) w
  unfold CdpSystem.decodeAllocated
  dsimp only
  rw [he]
  rw [hrole]
  exact ⟨_, h.moveDecode hs rfl ⟨iid, eid, w, rfl, rfl, hw, hkv⟩⟩

theorem accounts_noteRecompute (h : Accounts s.router a) (signal : LegSignal) :
    Accounts (s.noteRecompute env signal).router a := by
  unfold noteRecompute
  split
  · exact h.congr rfl rfl rfl
  · exact h

theorem metas_noteRecompute (signal : LegSignal) : (s.noteRecompute env signal).metas = s.metas := by
  unfold noteRecompute
  split <;> rfl

theorem Inv.decodeLeave (h : Inv a s) {resource : ScheduledResource} (hp : s.decode = .holding resource)
    (signal : LegSignal) :
    Inv (Function.update a .roleD none) (s.advance env (.decodeLeave signal)) := by
  have hdecode := h.decode
  rw [hp] at hdecode
  obtain ⟨iid, eid, w, rfl, ha, hw, hkv⟩ := hdecode
  have hrelease := (accounts_noteRecompute env h.accounts signal).releaseDecode ha hw hkv
  unfold advance
  rw [hp]
  exact h.moveDecode hrelease (metas_noteRecompute env signal) rfl

theorem Inv.decodeFail (h : Inv a s) (chunkSent : Bool) : Inv a (s.advance env (.decodeFail chunkSent)) := by
  have hdecode := h.decode
  unfold advance
  cases hp : s.decode with
  | entering =>
      rw [hp] at hdecode
      dsimp only
      unfold afterLeg
      dsimp only
      split
      · exact h.moveDecode_same h.accounts rfl hdecode
      · exact h.moveDecode_same h.accounts rfl hdecode
  | _ => exact h

theorem Inv.decodeRefuse (h : Inv a s) : Inv a (s.advance env .decodeRefuse) := by
  have hdecode := h.decode
  unfold advance
  cases hp : s.decode with
  | entering =>
      rw [hp] at hdecode
      exact h.moveDecode_same h.accounts rfl hdecode
  | _ => exact h

theorem Inv.decodeExit (h : Inv a s) {outcome : LegOutcome} (hp : s.decode = .leaving outcome)
    (hn : s.NoPrefillRecord) : Inv a (s.advance env .decodeExit) := by
  have hD : a .roleD = none := by
    have hdecode := h.decode
    rw [hp] at hdecode
    exact hdecode
  obtain rfl : a = fun _ => none := funext (h.all_none hn hD)
  have hdel := accounts_delReqInfo h.accounts fun _ => rfl
  unfold advance
  rw [hp]
  dsimp only
  unfold afterLeg
  split
  · exact h.moveDecode_same hdel rfl rfl
  · split
    · exact h.moveDecode_same hdel.bumpReqId rfl rfl
    · refine h.moveDecode_same hdel rfl ?_
      unfold nextAttempt
      dsimp only
      split <;> rfl
  · exact h.moveDecode_same hdel rfl rfl
  · split
    · exact h.moveDecode_same hdel rfl rfl
    · exact h.moveDecode_same hdel rfl rfl
  · exact h.moveDecode_same hdel rfl rfl

/-! ## The metaserver handlers -/

theorem Inv.no_holder (h : Inv a s) (hP : a .roleP = none) {j : Nat} {p : MetaPhase} (hj : s.metas[j]? = some p) :
    ¬ p.Holds := by
  intro hp
  have hacc := h.metas hj
  cases p with
  | holding resource =>
      obtain ⟨iid, eid, w, -, hw, -⟩ := hacc
      rw [hP] at hw; cases hw
  | releasing resource =>
      obtain ⟨iid, eid, w, -, hw, -⟩ := hacc
      rw [hP] at hw; cases hw
  | _ => exact hp

theorem Inv.setMeta (h : Inv a s) {i : Nat} {old phase : MetaPhase} (hi : s.metas[i]? = some old)
    (hold : ¬ old.Holds) (hphase : phase.Accounted (a .roleP)) (hnot : ¬ phase.Holds) : Inv a (s.setMeta i phase) where
  accounts := h.accounts
  both := h.both
  decode := h.decode
  metas hj := by
    rcases getElem?_set_cases hj with ⟨rfl, rfl⟩ | ⟨-, hj⟩
    · exact hphase
    · exact h.metas hj
  unique hj hk hp hq := by
    rcases getElem?_set_cases hj with ⟨rfl, rfl⟩ | ⟨-, hj⟩
    · exact absurd hp hnot
    · rcases getElem?_set_cases hk with ⟨rfl, rfl⟩ | ⟨-, hk⟩
      · exact absurd hq hnot
      · exact h.unique hj hk hp hq
  held hne := by
    obtain ⟨j, p, hj, hp⟩ := h.held hne
    refine ⟨j, p, ?_, hp⟩
    have hji : i ≠ j := by
      rintro rfl
      rw [hi] at hj; cases hj
      exact hold hp
    show (s.metas.set i phase)[j]? = some p
    rw [List.getElem?_set_ne hji, hj]

theorem Inv.metaStart (h : Inv a s) (requestId : String) : Inv a (s.advance env (.metaStart requestId)) := by
  unfold advance
  dsimp only
  split
  · have hnew : ∀ p : MetaPhase, p = (if 0 < env.maxRetry then .preparing 0 else .ended) →
        ¬ p.Holds ∧ p.Accounted (a .roleP) := by
      rintro p rfl
      split <;> exact ⟨id, trivial⟩
    refine ⟨h.accounts, h.both, h.decode, fun hj => ?_, fun hj hk hp hq => ?_, fun hne => ?_⟩
    · rcases getElem?_concat hj with hj | ⟨-, he⟩
      · exact h.metas hj
      · exact (hnew _ he).2
    · rcases getElem?_concat hj with hj | ⟨-, he⟩
      · rcases getElem?_concat hk with hk | ⟨-, he⟩
        · exact h.unique hj hk hp hq
        · exact absurd hq (hnew _ he).1
      · exact absurd hp (hnew _ he).1
    · obtain ⟨j, p, hj, hp⟩ := h.held hne
      refine ⟨j, p, ?_, hp⟩
      rw [List.getElem?_append_left (List.getElem?_eq_some_iff.mp hj).1, hj]
  · exact h

theorem Inv.metaAllocated (h : Inv a s) {i n : Nat} {w : Workload} (hi : s.metas[i]? = some (.waiting n w))
    (hn : s.NoPrefillRecord) (hrole : env.answeredRole s.router.sent.length .roleP = .roleP) (iid eid : Int) :
    ∃ a', Inv a' (s.metaAllocated env i n w iid eid) := by
  obtain ⟨hw, hpos⟩ := h.metas hi
  have hP := h.prefill_none hn
  obtain ⟨rm, he, hs⟩ := h.accounts.allocated hP (iid, eid) w
  unfold CdpSystem.metaAllocated
  dsimp only
  rw [he]
  rw [hrole]
  exact ⟨_, h.moveMeta hi hs (fun j p _ hj => h.no_holder hP hj) ⟨iid, eid, w, rfl, rfl, hw, hpos⟩ fun _ => trivial⟩

theorem Inv.metaLeave (h : Inv a s) {i : Nat} {resource : ScheduledResource} (hi : s.metas[i]? = some (.holding resource)) :
    ∃ a', Inv a' (s.advance env (.metaLeave i)) := by
  obtain ⟨iid, eid, w, rfl, ha, hw, hpos⟩ := h.metas hi
  have hs := h.accounts.release .releaseTokens (by decide) ha hw
  have hrest : releasedAccount .releaseTokens (iid, eid) w = some ((iid, eid), ⟨w.activeKvCache, 0⟩) := by
    simp [releasedAccount, nothingLeft, releaseRest, hpos.not_ge]
  rw [hrest] at hs
  unfold advance
  dsimp only
  rw [hi]
  refine ⟨_, h.moveMeta hi hs (fun j p hne hj hp => hne (h.unique hj hi hp trivial)) ?_ fun _ => trivial⟩
  exact ⟨iid, eid, _, rfl, rfl, ⟨hw.1, le_refl _⟩, le_refl _⟩

theorem Inv.metaRelease (h : Inv a s) {i : Nat} {resource : ScheduledResource}
    (hi : s.metas[i]? = some (.releasing resource)) : ∃ a', Inv a' (s.advance env (.metaRelease i)) := by
  obtain ⟨iid, eid, w, rfl, ha, hw, htok⟩ := h.metas hi
  have hkv : KvOnly (iid, eid) (a .roleP) := by
    intro y hy
    rw [ha] at hy
    cases hy
    exact ⟨rfl, hw, htok⟩
  have hs := h.accounts.releaseKv hkv
  unfold advance
  dsimp only
  rw [hi]
  exact ⟨_, h.moveMeta hi hs (fun j p hne hj hp => hne (h.unique hj hi hp trivial)) trivial fun hx => absurd rfl hx⟩

/-! ## Every step -/

theorem allocateWorkload_prefill_pos {env : RouterEnv} (hrr : env.schedulerType ≠ .roundRobin) (s : Router) :
    0 < (allocateWorkload env s .roleP).activeKvCache := by
  unfold allocateWorkload
  rw [if_neg hrr]
  exact calculatePrefillScores_pos _

theorem Inv.decodeEnter (h : Inv a s) (hp : s.decode = .entering)
    (hn : env.maxRetry = 0 → s.NoPrefillRecord) : Inv a (s.advance env .decodeEnter) := by
  have hD : a .roleD = none := by
    have hdecode := h.decode
    rw [hp] at hdecode
    exact hdecode
  have hadd : Inv a s.addReqInfo := h.moveDecode_same (accounts_addReqInfo h.accounts) rfl h.decode
  unfold advance
  rw [hp]
  dsimp only
  split
  · exact hadd.moveDecode_same hadd.accounts rfl hD
  · rename_i hlt
    refine hadd.decodeAbort ?_ hD
    unfold NoPrefillRecord
    rw [hadd.accounts.record, h.prefill_none (hn (Nat.eq_zero_of_not_pos hlt))]
    rfl

theorem Inv.decodeAnswer (h : Inv a s) {n : Nat} {w : Workload} (hp : s.decode = .waiting n w)
    (outcome : SelectOutcome) (hn : s.leavesContext env (.decodeAnswer outcome) = true → s.NoPrefillRecord)
    (hrole : s.AnswersAsRequested env (.decodeAnswer outcome)) :
    ∃ a', Inv a' (s.advance env (.decodeAnswer outcome)) := by
  have hdecode := h.decode
  rw [hp] at hdecode
  obtain ⟨hD, hw, hkv⟩ := hdecode
  unfold leavesContext at hn
  unfold advance
  rw [hp] at hn ⊢
  cases outcome with
  | nothing applied => exact ⟨a, h.decodeAttemptFailed env (fun hle => hn (by simpa using hle)) hD⟩
  | cancelled applied => exact ⟨a, h.decodeAbort (hn rfl) hD⟩
  | allocated iid eid =>
      have hrole' : env.answeredRole s.router.sent.length .roleD = .roleD := by
        rw [AnswersAsRequested, hp] at hrole
        exact hrole
      exact h.decodeAllocated env hD hw hkv hrole' n iid eid

theorem Inv.metaAnswer (h : Inv a s) {i n : Nat} {w : Workload} (hi : s.metas[i]? = some (.waiting n w))
    (outcome : SelectOutcome) (hn : s.recordsPrefill (.metaAnswer i outcome) = true → s.NoPrefillRecord)
    (hrole : s.AnswersAsRequested env (.metaAnswer i outcome)) :
    ∃ a', Inv a' (s.advance env (.metaAnswer i outcome)) := by
  unfold advance
  dsimp only
  rw [hi]
  cases outcome with
  | nothing applied =>
      refine ⟨a, h.setMeta hi id ?_ ?_⟩
      · split <;> trivial
      · split <;> exact id
  | cancelled applied => exact ⟨a, h.setMeta hi id trivial id⟩
  | allocated iid eid =>
      unfold recordsPrefill at hn
      dsimp only at hn
      rw [hi] at hn
      have hrole' : env.answeredRole s.router.sent.length .roleP = .roleP := by
        rw [AnswersAsRequested, hi] at hrole
        exact hrole
      exact h.metaAllocated env hi (hn rfl) hrole' iid eid

theorem Inv.advance (hrr : env.schedulerType ≠ .roundRobin) (h : Inv a s) {event : Event}
    (hok : s.PrefillApart env event) : ∃ a', Inv a' (s.advance env event) := by
  cases event with
  | decodeFail chunkSent => exact ⟨a, h.decodeFail env chunkSent⟩
  | decodeRefuse => exact ⟨a, h.decodeRefuse env⟩
  | decodeEnter =>
      cases hp : s.decode with
      | entering => exact ⟨a, h.decodeEnter env hp fun hz => hok.1 (by simp [leavesContext, hp, hz])⟩
      | _ =>
          unfold CdpSystem.advance
          rw [hp]
          exact ⟨a, h⟩
  | decodeSelect =>
      have hdecode := h.decode
      unfold CdpSystem.advance
      cases hp : s.decode with
      | preparing n =>
          rw [hp] at hdecode
          exact ⟨a, h.moveDecode_same h.accounts rfl
            ⟨hdecode, allocateWorkload_nonneg env s.router .roleD, allocateWorkload_decode_kv env s.router⟩⟩
      | _ => exact ⟨a, h⟩
  | decodeAnswer outcome =>
      cases hp : s.decode with
      | waiting n w => exact h.decodeAnswer env hp outcome (fun hl => hok.1 (by rw [hl]; rfl)) hok.2.2
      | _ =>
          unfold CdpSystem.advance
          rw [hp]
          exact ⟨a, h⟩
  | decodeCancel =>
      have hdecode := h.decode
      have hn := hok.1
      unfold CdpSystem.advance
      unfold leavesContext at hn
      cases hp : s.decode with
      | preparing n =>
          rw [hp] at hdecode hn
          exact ⟨a, h.decodeAbort (hn rfl) hdecode⟩
      | sleeping =>
          rw [hp] at hdecode
          exact ⟨a, h.moveDecode_same h.accounts rfl hdecode⟩
      | _ => exact ⟨a, h⟩
  | decodeLeave signal =>
      cases hp : s.decode with
      | holding resource => exact ⟨_, h.decodeLeave env hp signal⟩
      | _ =>
          unfold CdpSystem.advance
          rw [hp]
          exact ⟨a, h⟩
  | decodeExit =>
      have hn := hok.1
      unfold leavesContext at hn
      cases hp : s.decode with
      | leaving outcome =>
          rw [hp] at hn
          exact ⟨a, h.decodeExit env hp (hn rfl)⟩
      | _ =>
          unfold CdpSystem.advance
          rw [hp]
          exact ⟨a, h⟩
  | decodeWake =>
      have hdecode := h.decode
      unfold CdpSystem.advance
      cases hp : s.decode with
      | sleeping =>
          rw [hp] at hdecode
          refine ⟨a, h.moveDecode_same h.accounts rfl ?_⟩
          unfold nextAttempt
          dsimp only
          split <;> exact hdecode
      | _ => exact ⟨a, h⟩
  | metaStart requestId => exact ⟨a, h.metaStart env requestId⟩
  | metaSelect i =>
      unfold CdpSystem.advance
      dsimp only
      split
      · rename_i n hi
        exact ⟨a, h.setMeta hi id
          ⟨allocateWorkload_nonneg env s.router .roleP, allocateWorkload_prefill_pos hrr s.router⟩ id⟩
      · exact ⟨a, h⟩
  | metaAnswer i outcome =>
      by_cases hi : ∃ n w, s.metas[i]? = some (.waiting n w)
      · obtain ⟨n, w, hi⟩ := hi
        exact h.metaAnswer env hi outcome (fun hl => hok.1 (by rw [hl, Bool.or_true])) hok.2.2
      · unfold CdpSystem.advance
        dsimp only
        split
        · rename_i n w hi'
          exact absurd ⟨n, w, hi'⟩ hi
        · exact ⟨a, h⟩
  | metaCancel i =>
      unfold CdpSystem.advance
      dsimp only
      split
      · rename_i n hi
        exact ⟨a, h.setMeta hi id trivial id⟩
      · exact ⟨a, h⟩
  | metaLeave i =>
      by_cases hi : ∃ resource, s.metas[i]? = some (.holding resource)
      · obtain ⟨resource, hi⟩ := hi
        exact h.metaLeave env hi
      · unfold CdpSystem.advance
        dsimp only
        split
        · rename_i resource hi'
          exact absurd ⟨resource, hi'⟩ hi
        · exact ⟨a, h⟩
  | metaRelease i =>
      by_cases hi : ∃ resource, s.metas[i]? = some (.releasing resource)
      · obtain ⟨resource, hi⟩ := hi
        exact h.metaRelease env hi
      · unfold CdpSystem.advance
        dsimp only
        split
        · rename_i resource hi'
          exact absurd ⟨resource, hi'⟩ hi
        · exact ⟨a, h⟩

end CdpSystem

end PyMotor
