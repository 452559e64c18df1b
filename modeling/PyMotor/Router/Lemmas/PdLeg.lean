import PyMotor.Router.Lemmas.Accounts
import PyMotor.Router.Lemmas.Frames

/-!
# The accounts of a leg

After a leg that starts with nothing held, the account of the decode is closed, and the account of the
prefill is closed unless the leg leaves the KV cache.
-/

/-!
## The accounts along a decode stream

The first frame gives the KV cache of the prefill back. Before it, the account of the prefill is as the
prefill has left it.
-/

namespace PyMotor.Router

open Lib Recompute RequestManager

variable {s : Router} {a : PDRole → Account} {iid eid : Int} (env : RouterEnv)

/-- An account that a release of the KV cache closes. -/
def KvOnly (p : Int × Int) (x : Account) : Prop := ∀ y ∈ x, y.1 = p ∧ 0 ≤ y.2 ∧ y.2.activeTokens ≤ 0

theorem Accounts.releaseKv (h : Accounts s a) (hkv : KvOnly (iid, eid) (a .roleP)) :
    Accounts (s.releaseKv (scheduledResource .roleP iid eid)) (Function.update a .roleP none) := by
  cases ha : a .roleP with
  | none =>
      rw [← ha, Function.update_eq_self]
      exact h.release_none (by decide) ha iid eid
  | some y =>
      obtain ⟨p, w⟩ := y
      obtain ⟨rfl, hw, htok⟩ := hkv _ ha
      have hr := h.release .releaseKv (by decide) ha hw
      have hclosed : releasedAccount .releaseKv (iid, eid) w = none := by
        simp [releasedAccount, nothingLeft, releaseRest, htok]
      rw [hclosed] at hr
      exact hr

theorem kvOnly_none (p : Int × Int) : KvOnly p none := fun _ hy => nomatch hy

theorem Accounts.handleStreamError (h : Accounts s a) (hkv : KvOnly (iid, eid) (a .roleP)) :
    Accounts (s.handleStreamError (scheduledResource .roleP iid eid))
      (if s.firstChunkSent then a else Function.update a .roleP none) := by
  unfold Router.handleStreamError
  split
  · exact h
  · exact h.releaseKv hkv

theorem frame_handleStreamError (resource : ScheduledResource) : Frame s (s.handleStreamError resource) := by
  unfold Router.handleStreamError
  split
  · exact Frame.refl s
  · exact frame_updateWorkload _ _

/-! ## The loop body -/

theorem Accounts.prepareRecomputeRetry {env : RouterEnv} (h : Accounts s a) {reqData : JsonObj} {track : RequestTrack} {s' : Router}
    (he : s.prepareRecomputeRetry env reqData track = .ok s') : Accounts s' a := by
  unfold Router.prepareRecomputeRetry at he
  split at he
  · cases hr : prepareRetryRequest env.codec reqData track with
    | error e => rw [hr] at he; cases he
    | ok retry =>
        rw [hr] at he
        cases he
        exact h.congr rfl rfl rfl
  · cases he

theorem Accounts.handleRecomputation (h : Accounts s a) (reqData : JsonObj) (track : RequestTrack)
    (prefill : ScheduledResource) : Accounts (s.handleRecomputation env reqData track prefill true).2 a := by
  unfold Router.handleRecomputation
  have hs : Accounts (updateState { s with wantsRetry := true } .recompute) a := h.congr rfl rfl rfl
  split
  · exact h
  · dsimp only
    split
    · exact hs
    · rename_i he
      exact hs.prepareRecomputeRetry he

theorem Accounts.releaseKvOnce {st : StreamLocals × Router} (h : Accounts st.2 a)
    (hkv : KvOnly (iid, eid) (a .roleP)) (hreleased : st.1.releaseKv = true → a .roleP = none)
    {frame : Bytes} (hne : frame ≠ []) :
    (releaseKvOnce (scheduledResource .roleP iid eid) frame st).1.releaseKv = true ∧
    Accounts (releaseKvOnce (scheduledResource .roleP iid eid) frame st).2 (Function.update a .roleP none) := by
  have hf : frame.isEmpty = false := by simpa using hne
  unfold Router.releaseKvOnce
  cases hr : st.1.releaseKv with
  | false =>
      rw [hf]
      exact ⟨rfl, h.releaseKv hkv⟩
  | true =>
      refine ⟨hr, ?_⟩
      rw [← hreleased hr, Function.update_eq_self]
      exact h

theorem Accounts.yieldOut (h : Accounts s a) (output : StreamOutput) : Accounts (yieldOut env output s).2 a :=
  h.congr rfl rfl rfl

theorem Accounts.forwardFrame (h : Accounts s a) {locals : StreamLocals} (hl : locals.releaseKv = true)
    (reqData : JsonObj) (prefill : ScheduledResource) (frame : Bytes) :
    (forwardFrame env reqData prefill frame locals s).2.1.releaseKv = true ∧
    Accounts (forwardFrame env reqData prefill frame locals s).2.2 a := by
  unfold Router.forwardFrame
  split
  · exact ⟨hl, h⟩
  · rename_i leg _
    split
    · exact ⟨hl, h⟩
    · rw [hl]
      have hrec := h.handleRecomputation env reqData leg.track prefill
      split <;> (rename_i he; rw [he] at hrec; exact ⟨rfl, hrec⟩)
  · split
    · exact ⟨hl, h⟩
    · rename_i frame' bytes leg _ _
      have hs : Accounts { s with streamChunkSentToClient := true } a := h.congr rfl rfl rfl
      have hy := hs.yieldOut env (.chunk frame bytes)
      split <;> (rename_i he; rw [he] at hy; exact ⟨hl, hy⟩)

theorem Accounts.streamBody {st : StreamLocals × Router} (h : Accounts st.2 a)
    (hkv : KvOnly (iid, eid) (a .roleP)) (hreleased : st.1.releaseKv = true → a .roleP = none)
    (reqData : JsonObj) {frame : Bytes} (hne : frame ≠ []) :
    (streamBody env reqData (scheduledResource .roleP iid eid) frame st).2.1.releaseKv = true ∧
    Accounts (streamBody env reqData (scheduledResource .roleP iid eid) frame st).2.2
      (Function.update a .roleP none) := by
  obtain ⟨hl, hs⟩ := h.releaseKvOnce hkv hreleased hne
  exact hs.forwardFrame env hl reqData _ frame

/-! ## The loop -/

theorem Accounts.noteChunk (h : Accounts s a) (chunk : Bytes) : Accounts (s.noteChunk chunk) a := by
  unfold Router.noteChunk
  split <;> exact h.congr rfl rfl rfl

/-- The KV cache is given back, and the accounts are as given. -/
def KvReleased (a : PDRole → Account) (st : StreamLocals × Router) : Prop :=
  st.1.releaseKv = true ∧ Accounts st.2 (Function.update a .roleP none)

theorem KvReleased.streamBody {st : StreamLocals × Router} (h : KvReleased a st) (reqData : JsonObj)
    {frame : Bytes} (hne : frame ≠ []) :
    KvReleased a (streamBody env reqData (scheduledResource .roleP iid eid) frame st).2 := by
  have hkv : KvOnly (iid, eid) (Function.update a .roleP none .roleP) := by
    rw [Function.update_self]
    exact kvOnly_none _
  have hb := h.2.streamBody env hkv (fun _ => Function.update_self ..) reqData hne
  rw [Function.update_idem] at hb
  exact hb

theorem KvReleased.forChunks {st : StreamLocals × Router} (h : KvReleased a st) (reqData : JsonObj)
    (ending : Option Raised) (chunks : List Bytes) (pending : Bytes) :
    KvReleased a (forChunks (Router.streamBody env reqData (scheduledResource .roleP iid eid)) ending chunks pending
      st).2 :=
  forChunks_invariant (I := KvReleased a) (fun _ hne _ hi => hi.streamBody env reqData hne)
    (fun _ _ chunk hi => ⟨hi.1, hi.2.noteChunk chunk⟩) ending h

theorem wantsRetry_noteChunk (chunk : Bytes) : (s.noteChunk chunk).wantsRetry = s.wantsRetry := by
  unfold Router.noteChunk
  split <;> rfl

theorem firstChunkSent_noteChunk {pending chunk : Bytes} (h : s.firstChunkSent = !pending.isEmpty) :
    (s.noteChunk chunk).firstChunkSent = !(pending ++ chunk).isEmpty := by
  unfold Router.noteChunk
  cases hp : pending.isEmpty <;> cases hc : chunk.isEmpty <;> simp_all [updateState]

theorem Accounts.forChunks_withoutFrame {σ : Type} (body : Bytes → σ × Router → FrameEnd × σ × Router) (locals : σ)
    (h : Accounts s a) (ending : Option Raised) {chunks : List Bytes} {pending rest : Bytes}
    (hw : withoutFrame pending chunks = some rest) (hfirst : s.firstChunkSent = !pending.isEmpty) :
    ∃ s', forChunks body ending chunks pending (locals, s) = forChunks body ending [] rest (locals, s') ∧
      Accounts s' a ∧ s'.firstChunkSent = !rest.isEmpty ∧ s'.wantsRetry = s.wantsRetry := by
  induction chunks generalizing pending s with
  | nil =>
      cases hw
      exact ⟨s, rfl, h, hfirst, rfl⟩
  | cons chunk chunks ih =>
      unfold withoutFrame at hw
      cases hn : nextFrame (pending ++ chunk) with
      | some p => rw [hn] at hw; cases hw
      | none =>
          rw [hn] at hw
          obtain ⟨s', he, hs', hf, hr⟩ := ih (h.noteChunk chunk) hw (firstChunkSent_noteChunk hfirst)
          refine ⟨s', ?_, hs', hf, hr.trans (wantsRetry_noteChunk chunk)⟩
          rw [← he]
          conv_lhs => unfold Router.forChunks
          simp only [splitFrames_none hn, forFrames]

theorem Accounts.forChunks_withFrame {locals : StreamLocals} (h : Accounts s a)
    (hkv : KvOnly (iid, eid) (a .roleP)) (hl : locals.releaseKv = false) (reqData : JsonObj)
    (ending : Option Raised) {chunks : List Bytes} {pending : Bytes} (hw : withoutFrame pending chunks = none) :
    KvReleased a (forChunks (Router.streamBody env reqData (scheduledResource .roleP iid eid)) ending chunks pending
      (locals, s)).2 := by
  induction chunks generalizing pending s with
  | nil => cases hw
  | cons chunk chunks ih =>
      unfold withoutFrame at hw
      unfold Router.forChunks
      cases hn : nextFrame (pending ++ chunk) with
      | none =>
          rw [hn] at hw
          simp only [splitFrames_none hn, forFrames]
          exact ih (h.noteChunk chunk) hw
      | some p =>
          obtain ⟨frames, rest, hsplit⟩ := splitFrames_some hn
          have hne : ∀ frame ∈ p.1 :: frames, frame ≠ [] := by
            have := splitFrames_ne_nil (pending ++ chunk).length (pending ++ chunk)
            rw [hsplit] at this
            exact this
          have hnote : Accounts (locals, s.noteChunk chunk).2 a := h.noteChunk chunk
          have hbody := hnote.streamBody env hkv (fun hr => absurd hr (by rw [hl]; decide)) reqData
            (hne _ (List.mem_cons_self ..))
          have hframes : KvReleased a (forFrames (Router.streamBody env reqData (scheduledResource .roleP iid eid))
              (p.1 :: frames) (locals, s.noteChunk chunk)).2 := by
            unfold forFrames
            split
            · rename_i he
              rw [he] at hbody
              exact forFrames_invariant (I := KvReleased a)
                (fun frame hmem _ hi => hi.streamBody env reqData (hne frame (List.mem_cons_of_mem _ hmem))) hbody
            · exact hbody
          simp only [hsplit]
          split <;> rename_i he <;> rw [he] at hframes
          · exact hframes.forChunks env reqData ending chunks rest
          · exact hframes
          · exact hframes

variable {s : Router} {a : PDRole → Account} {iid eid : Int} (env : RouterEnv)

theorem Frame.wantsRetry {s' : Router} (h : Frame s s') : s'.wantsRetry = s.wantsRetry := by rw [h]

theorem Frame.firstChunkSent {s' : Router} (h : Frame s s') : s'.firstChunkSent = s.firstChunkSent := by rw [h]

theorem afterStream_wantsRetry (prefill : ScheduledResource) (r : LoopEnd × StreamLocals × Router) :
    (afterStream prefill r).2.wantsRetry = r.2.2.wantsRetry := by
  unfold afterStream
  split
  · exact (frame_handleStreamError prefill).wantsRetry
  · rfl
  · split <;> rfl

theorem KvReleased.afterStream {r : LoopEnd × StreamLocals × Router} (h : KvReleased a r.2) :
    Accounts (afterStream (scheduledResource .roleP iid eid) r).2 (Function.update a .roleP none) := by
  obtain ⟨result, locals, s⟩ := r
  have hs : Accounts s (Function.update a .roleP none) := h.2
  have hnone : Function.update a .roleP none .roleP = none := Function.update_self ..
  have herr : Accounts (s.handleStreamError (scheduledResource .roleP iid eid)) (Function.update a .roleP none) := by
    unfold Router.handleStreamError
    split
    · exact hs
    · exact hs.release_none (by decide) hnone iid eid
  cases result with
  | raised e =>
      cases e with
      | exception e => exact herr
      | cancelled => exact hs
  | exhausted =>
      simp only [Router.afterStream]
      split
      · exact hs
      · exact hs.congr rfl rfl rfl
  | broke =>
      simp only [Router.afterStream]
      split
      · exact hs
      · exact hs.congr rfl rfl rfl

/-- How a stream leaves the KV cache: nothing after it gives it back. -/
def LeavesKv (a : PDRole → Account) (r : Except Raised Unit × Router) : Prop :=
  Accounts r.2 a ∧ r.2.wantsRetry = false ∧ (r.1 = .ok () ∨ r.1 = .error .cancelled ∨ r.2.firstChunkSent = true)

/-- The KV cache of the prefill is left, or given back. -/
def KvAfter (a : PDRole → Account) (leaves : Bool) (r : Except Raised Unit × Router) : Prop :=
  if leaves then LeavesKv a r else Accounts r.2 (Function.update a .roleP none)

theorem Accounts.afterStream_withoutFrame (h : Accounts s a) (hkv : KvOnly (iid, eid) (a .roleP))
    (hretry : s.wantsRetry = false) {rest : Bytes} (hfirst : s.firstChunkSent = !rest.isEmpty)
    {locals : StreamLocals} (hl : locals.releaseKv = false) (reqData : JsonObj) (ending : Option Raised) :
    KvAfter a (endLeavesKv rest ending) (afterStream (scheduledResource .roleP iid eid)
      (forChunks (Router.streamBody env reqData (scheduledResource .roleP iid eid)) ending [] rest (locals, s))) := by
  cases ending with
  | none =>
      cases rest with
      | nil =>
          refine ⟨?_, ?_, .inl rfl⟩
          · simp only [Router.forChunks, List.isEmpty_nil, if_true, Router.afterStream, hretry]
            exact h.congr rfl rfl rfl
          · rw [afterStream_wantsRetry]
            exact hretry
      | cons b rest =>
          have hst : Accounts (locals, s).2 a := h
          have hbody := hst.streamBody env hkv (fun hr => absurd hr (by rw [hl]; decide)) reqData
            (List.cons_ne_nil b rest)
          have hlast : KvReleased a (forChunks (Router.streamBody env reqData (scheduledResource .roleP iid eid)) none
              [] (b :: rest) (locals, s)).2 := by
            simp only [Router.forChunks, List.isEmpty_cons, Bool.false_eq_true, if_false]
            split <;> (rename_i he; rw [he] at hbody; exact hbody)
          exact hlast.afterStream
  | some e =>
      cases e with
      | cancelled => exact ⟨h, hretry, .inr (.inl rfl)⟩
      | exception e =>
          have herr := h.handleStreamError hkv
          cases hr : rest.isEmpty with
          | true =>
              rw [hr] at hfirst
              rw [hfirst] at herr
              simp only [endLeavesKv, hr]
              exact herr
          | false =>
              rw [hr] at hfirst
              rw [hfirst] at herr
              simp only [endLeavesKv, hr]
              refine ⟨herr, ?_, .inr (.inr ?_)⟩
              · rw [afterStream_wantsRetry]
                exact hretry
              · exact (frame_handleStreamError _).firstChunkSent.trans hfirst

theorem Accounts.afterStream (h : Accounts s a) (hkv : KvOnly (iid, eid) (a .roleP))
    (hretry : s.wantsRetry = false) (reqData : JsonObj) {locals : StreamLocals} (hl : locals.releaseKv = false)
    (stream : DecodeStream) :
    KvAfter a stream.leavesKv (afterStream (scheduledResource .roleP iid eid)
      (forwardStreamRequest (Router.streamBody env reqData (scheduledResource .roleP iid eid)) stream locals s)) := by
  have hs : Accounts { s with firstChunkSent := false } a := h.congr rfl rfl rfl
  unfold forwardStreamRequest DecodeStream.leavesKv
  cases hc : stream.connect with
  | some e =>
      cases e with
      | cancelled => exact ⟨hs, hretry, .inr (.inl rfl)⟩
      | exception e => exact hs.handleStreamError hkv
  | none =>
      dsimp only
      cases hw : withoutFrame [] stream.chunks with
      | none => exact (hs.forChunks_withFrame env hkv hl reqData stream.ending hw).afterStream
      | some rest =>
          obtain ⟨s', he, hs', hfirst, hretry'⟩ := hs.forChunks_withoutFrame
            (Router.streamBody env reqData (scheduledResource .roleP iid eid)) locals stream.ending hw rfl
          rw [he]
          exact hs'.afterStream_withoutFrame env hkv (hretry'.trans hretry) hfirst hl reqData stream.ending

theorem Accounts.forwardDRequest (h : Accounts s a) (hkv : KvOnly (iid, eid) (a .roleP))
    (hfirst : s.firstChunkSent = false) (hretry : s.wantsRetry = false) (respJson : Json) (stream : DecodeStream) :
    KvAfter a ((decodeRequest env s respJson).isOk && stream.leavesKv)
      (forwardDRequest env respJson stream (scheduledResource .roleP iid eid) s) := by
  have hclose : Accounts (s.handleStreamError (scheduledResource .roleP iid eid)) (Function.update a .roleP none) := by
    have := h.handleStreamError hkv
    rw [hfirst] at this
    exact this
  unfold Router.forwardDRequest decodeRequest
  cases genDRequest env s respJson with
  | error e => exact hclose
  | ok reqData =>
      simp only [Except.bind]
      cases extractRequestInfo reqData with
      | error e => exact hclose
      | ok track => exact h.afterStream env hkv hretry reqData rfl stream

/-! ## The decode part -/

theorem Accounts.finishWithErrorChunk (h : Accounts s a) (e : PyException) :
    Accounts (finishWithErrorChunk env e s).2 a := by
  unfold Router.finishWithErrorChunk
  have hy := h.yieldOut env (.error (buildErrorResponse e))
  split <;> (rename_i he; rw [he] at hy; exact hy.congr rfl rfl rfl)

theorem wantsRetry_finishWithErrorChunk (e : PyException) :
    (finishWithErrorChunk env e s).2.wantsRetry = s.wantsRetry := by
  unfold Router.finishWithErrorChunk yieldOut
  split <;> (rename_i he; cases congrArg Prod.snd he; rfl)

theorem Accounts.decodeFailed (h : Accounts s a) (hkv : KvOnly (iid, eid) (a .roleP)) (attempt : Nat) (e : Raised) :
    Accounts (decodeFailed env attempt (scheduledResource .roleP iid eid) e s).2
      (if e = .cancelled ∨ s.firstChunkSent = true then a else Function.update a .roleP none) := by
  have herr := h.handleStreamError hkv
  cases e with
  | cancelled => exact h
  | exception e =>
      simp only [reduceCtorEq, false_or]
      unfold Router.decodeFailed
      split
      · rename_i he; cases he
      · exact herr.finishWithErrorChunk env _
      · dsimp only
        split
        · exact herr.finishWithErrorChunk env _
        · exact herr

theorem wantsRetry_decodeFailed (attempt : Nat) (prefill : ScheduledResource) (e : Raised) :
    (decodeFailed env attempt prefill e s).2.wantsRetry = s.wantsRetry := by
  have hf := (frame_handleStreamError (s := s) prefill).wantsRetry
  unfold Router.decodeFailed
  split
  · rfl
  · exact (wantsRetry_finishWithErrorChunk env _).trans hf
  · dsimp only
    split
    · exact (wantsRetry_finishWithErrorChunk env _).trans hf
    · exact hf

theorem Accounts.releaseDecode (h : Accounts s a) {w : Workload} (ha : a .roleD = some ((iid, eid), w)) (hw : 0 ≤ w)
    (hkv : w.activeKvCache ≤ 0) :
    Accounts (s.releaseTokens (scheduledResource .roleD iid eid)) (Function.update a .roleD none) := by
  have hr := h.release .releaseTokens (by decide) ha hw
  have hclosed : releasedAccount .releaseTokens (iid, eid) w = none := by
    simp [releasedAccount, nothingLeft, releaseRest, hkv]
  rw [hclosed] at hr
  exact hr

theorem allocateWorkload_decode_kv (s : Router) :
    (allocateWorkload env s .roleD).activeKvCache ≤ 0 := by
  unfold allocateWorkload
  split <;> exact le_refl _

theorem genDRequest_frame {env : RouterEnv} {s' : Router} (h : Frame s s') (respJson : Json) :
    genDRequest env s' respJson = genDRequest env s respJson := by
  rw [h]
  rfl

/-- The account of the prefill after a part of a leg. -/
def PrefillAfter (a : PDRole → Account) (leaves : Bool) (s : Router) : Prop :=
  if leaves then Accounts s a ∧ s.wantsRetry = false else Accounts s (Function.update a .roleP none)

theorem KvAfter.afterDecode {leaves : Bool} {r : Except Raised Unit × Router} (h : KvAfter a leaves r)
    (hkv : KvOnly (iid, eid) (a .roleP)) (attempt : Nat) :
    PrefillAfter a leaves (afterDecode env attempt (scheduledResource .roleP iid eid) r).2 := by
  obtain ⟨result, s⟩ := r
  cases leaves with
  | true =>
      obtain ⟨hs, hretry, hend⟩ := h
      dsimp only at hs hretry hend
      cases result with
      | ok u =>
          simp only [Router.afterDecode, hretry, Bool.false_eq_true, if_false]
          exact ⟨hs.congr rfl rfl rfl, rfl⟩
      | error e =>
          refine ⟨?_, (wantsRetry_decodeFailed ..).trans hretry⟩
          have hcond : e = .cancelled ∨ s.firstChunkSent = true := by simpa using hend
          have hd := hs.decodeFailed env hkv attempt e
          rw [if_pos hcond] at hd
          exact hd
  | false =>
      have hs : Accounts s (Function.update a .roleP none) := h
      cases result with
      | ok u =>
          show Accounts (if s.wantsRetry then s else { s with isFinished := true }) _
          split
          · exact hs
          · exact hs.congr rfl rfl rfl
      | error e =>
          have hn : KvOnly (iid, eid) (Function.update a .roleP none .roleP) := by
            rw [Function.update_self]; exact kvOnly_none _
          have hd := hs.decodeFailed env hn attempt e
          rw [Function.update_idem, ite_self] at hd
          exact hd

theorem PrefillAfter.releaseDecode {leaves : Bool} {w : Workload} (hD : a .roleD = none) (hw : 0 ≤ w)
    (hkv : w.activeKvCache ≤ 0) (h : PrefillAfter (Function.update a .roleD (some ((iid, eid), w))) leaves s) :
    PrefillAfter a leaves (s.releaseTokens (scheduledResource .roleD iid eid)) := by
  have hretry := (frame_updateWorkload (s := s) (scheduledResource .roleD iid eid) .releaseTokens).wantsRetry
  have hback : Function.update a .roleD none = a := by rw [← hD, Function.update_eq_self]
  cases leaves with
  | true =>
      obtain ⟨hs, hr⟩ := h
      have hd := hs.releaseDecode (Function.update_self ..) hw hkv
      rw [Function.update_idem, hback] at hd
      exact ⟨hd, hretry.trans hr⟩
  | false =>
      have hs : Accounts s _ := h
      rw [Function.update_comm (by decide)] at hs
      have hd := hs.releaseDecode (Function.update_self ..) hw hkv
      rw [Function.update_idem, Function.update_comm (by decide), hback] at hd
      exact hd

theorem Accounts.decodePhase {env : RouterEnv} (hroles : env.AnswersAsRequested) (h : Accounts s a) (hkv : KvOnly (iid, eid) (a .roleP)) (hD : a .roleD = none)
    (hfirst : s.firstChunkSent = false) (hretry : s.wantsRetry = false) (leg : PdLeg DecodeStream) (attempt : Nat)
    (respJson : Json) :
    PrefillAfter a (leg.decodeLeavesKv env s respJson)
      (decodePhase env leg attempt (scheduledResource .roleP iid eid) respJson s).2 := by
  have hframe := frame_prepareResource env s .roleD leg.decodeSelect
  unfold Router.decodePhase PdLeg.decodeLeavesKv
  rcases h.prepareResource hroles hD leg.decodeSelect with ⟨e, he, hcase, hs⟩ | ⟨iid', eid', he, hsel, hs⟩
  · rcases hp : Router.prepareResource env .roleD leg.decodeSelect s with ⟨result, s'⟩
    rw [hp] at he hs hframe
    dsimp only at he hs
    subst he
    have hd := hs.decodeFailed env hkv attempt e
    rw [hframe.firstChunkSent, hfirst] at hd
    rcases hcase with ⟨hsel, hne⟩ | ⟨⟨applied, hsel⟩, rfl⟩
    · rw [hsel]
      rw [if_neg (by simp [hne])] at hd
      exact hd
    · rw [hsel]
      rw [if_pos (.inl rfl)] at hd
      exact ⟨hd, (wantsRetry_decodeFailed ..).trans (hframe.wantsRetry.trans hretry)⟩
  · rcases hp : Router.prepareResource env .roleD leg.decodeSelect s with ⟨result, s'⟩
    rw [hp] at he hs hframe
    dsimp only at he hs
    subst he
    rw [hsel]
    have hkv' : KvOnly (iid, eid)
        (Function.update a .roleD (some ((iid', eid'), allocateWorkload env s .roleD)) .roleP) := by
      rw [Function.update_of_ne (by decide)]
      exact hkv
    have hreq : decodeRequest env s' respJson = decodeRequest env s respJson := by
      unfold decodeRequest
      rw [genDRequest_frame hframe]
    have hafter := (hs.forwardDRequest env hkv' (hframe.firstChunkSent.trans hfirst)
      (hframe.wantsRetry.trans hretry) respJson leg.decode).afterDecode env hkv' attempt
    rw [hreq] at hafter
    exact hafter.releaseDecode hD (allocateWorkload_nonneg env s .roleD) (allocateWorkload_decode_kv env s)

/-! ## The whole leg -/

/-- What the prefill holds after its tokens are released. -/
def prefillAccount (env : RouterEnv) (s : Router) (iid eid : Int) : PDRole → Account :=
  Function.update (fun _ => none) .roleP (releasedAccount .releaseTokens (iid, eid) (allocateWorkload env s .roleP))

theorem kvOnly_prefillAccount (s : Router) :
    KvOnly (iid, eid) (prefillAccount env s iid eid .roleP) := by
  intro y hy
  have hw := allocateWorkload_nonneg env s .roleP
  rw [prefillAccount, Function.update_self, releasedAccount] at hy
  split at hy
  · cases hy
  · cases hy
    exact ⟨rfl, ⟨hw.1, le_refl _⟩, le_refl _⟩

/-- A leg that starts with nothing held. -/
def LegAfter (env : RouterEnv) (s : Router) (leaves : Bool) (s' : Router) : Prop :=
  if leaves then ∃ iid eid, Accounts s' (prefillAccount env s iid eid) ∧ s'.wantsRetry = false
  else Accounts s' fun _ => none

theorem PrefillAfter.legAfter {leaves : Bool} {s' : Router} (h : PrefillAfter (prefillAccount env s iid eid) leaves s') :
    LegAfter env s leaves s' := by
  cases leaves with
  | true => exact ⟨iid, eid, h⟩
  | false =>
      have hs : Accounts s' _ := h
      rw [prefillAccount, Function.update_idem, Function.update_eq_self] at hs
      exact hs

theorem Accounts.releasePrefill {s' : Router} (hstate : s'.reqInfo.state ≠ .prefillEnd)
    (h : Accounts s' (Function.update (fun _ => none) .roleP (some ((iid, eid), allocateWorkload env s .roleP)))) :
    Accounts (s'.releasePrefill (scheduledResource .roleP iid eid)) fun _ => none := by
  have htokens := h.release .releaseTokens (by decide) (Function.update_self ..) (allocateWorkload_nonneg env s .roleP)
  rw [Function.update_idem] at htokens
  have hall := htokens.releaseKv (kvOnly_prefillAccount env s)
  rw [Function.update_idem, Function.update_eq_self] at hall
  unfold Router.releasePrefill
  rw [if_pos hstate]
  exact hall

theorem prefill_cases {env : RouterEnv} (hroles : env.AnswersAsRequested) (h : Accounts s fun _ => none)
    (outcomes : List SelectOutcome) (answer : Except Raised Json) :
    (∃ e s', prepareResource env .roleP outcomes s = (.error e, s') ∧ Frame s s' ∧ (Accounts s' fun _ => none) ∧
      ∀ iid eid, selected env.maxRetry outcomes ≠ .allocated iid eid) ∨
    ∃ iid eid s₁, prepareResource env .roleP outcomes s = (.ok (scheduledResource .roleP iid eid), s₁) ∧
      selected env.maxRetry outcomes = .allocated iid eid ∧
      ((∃ e, answer = .error e ∧ forwardPRequest answer (scheduledResource .roleP iid eid) s₁ = (.error e, s₁) ∧
          s₁.reqInfo.state ≠ .prefillEnd ∧
          Accounts s₁ (Function.update (fun _ => none) .roleP (some ((iid, eid), allocateWorkload env s .roleP)))) ∨
        ∃ respJson s₂, answer = .ok respJson ∧
          forwardPRequest answer (scheduledResource .roleP iid eid) s₁ = (.ok respJson, s₂) ∧
          s₂.releasePrefill (scheduledResource .roleP iid eid) = s₂ ∧ Frame s s₂ ∧
          Accounts s₂ (prefillAccount env s iid eid)) := by
  have hframe := frame_prepareResource env s .roleP outcomes
  rcases h.prepareResource hroles rfl outcomes with ⟨e, he, hcase, hs⟩ | ⟨iid, eid, he, hsel, hs⟩
  · left
    refine ⟨e, _, Prod.ext he rfl, hframe, hs, fun iid eid hsel => ?_⟩
    rcases hcase with ⟨hn, -⟩ | ⟨⟨applied, hn⟩, -⟩ <;> (rw [hsel] at hn; cases hn)
  · right
    have hstate := state_prepareResource he
    refine ⟨iid, eid, _, Prod.ext he rfl, hsel, ?_⟩
    cases answer with
    | error e => exact .inl ⟨e, rfl, rfl, by rw [hstate]; decide, hs⟩
    | ok respJson =>
        right
        have hs₁ : Accounts (updateState (prepareResource env .roleP outcomes s).2 .prefillEnd)
            (Function.update (fun _ => none) .roleP (some ((iid, eid), allocateWorkload env s .roleP))) :=
          hs.congr rfl rfl rfl
        have hf₁ : Frame s (updateState (prepareResource env .roleP outcomes s).2 .prefillEnd) :=
          hframe.trans rfl
        have hs₂ := hs₁.release .releaseTokens (by decide) (Function.update_self ..)
          (allocateWorkload_nonneg env s .roleP)
        rw [Function.update_idem] at hs₂
        refine ⟨respJson, _, rfl, rfl, ?_, hf₁.trans (frame_updateWorkload _ _), hs₂⟩
        unfold releasePrefill releaseTokens
        rw [state_updateWorkload]
        simp [updateState]

theorem wantsRetry_prefillFailed (attempt : Nat) (e : Raised) :
    (prefillFailed env attempt e s).2.wantsRetry = s.wantsRetry := by
  unfold prefillFailed
  split
  · rfl
  · split
    · rfl
    · exact wantsRetry_finishWithErrorChunk env _

theorem Accounts.prefillFailed (h : Accounts s a) (attempt : Nat) (e : Raised) :
    Accounts (prefillFailed env attempt e s).2 a := by
  unfold Router.prefillFailed
  split
  · exact h
  · split
    · exact h.congr rfl rfl rfl
    · exact h.finishWithErrorChunk env _

theorem reqInfo_prefillFailed (attempt : Nat) (e : Raised) :
    (prefillFailed env attempt e s).2.reqInfo = s.reqInfo := by
  unfold Router.prefillFailed
  split
  · rfl
  · split
    · rfl
    · unfold Router.finishWithErrorChunk yieldOut
      split <;> (rename_i he; cases congrArg Prod.snd he; rfl)

section Leaves

variable {δ : Type} {leg : PdLeg δ} (decodeLeaves : Json → Bool) {env}

theorem PdLeg.leavesKv_of_not_allocated
    (h : ∀ iid eid, selected env.maxRetry leg.prefillSelect ≠ .allocated iid eid) :
    leg.leavesKv decodeLeaves env = false := by
  unfold PdLeg.leavesKv
  split
  · rename_i he _
    exact absurd he (h _ _)
  · rfl

theorem PdLeg.leavesKv_of_error {e : Raised} (h : leg.prefill = .error e) :
    leg.leavesKv decodeLeaves env = false := by
  unfold PdLeg.leavesKv
  split
  · rename_i _ he
    rw [h] at he
    cases he
  · rfl

theorem PdLeg.leavesKv_of_ok {respJson : Json} (hsel : selected env.maxRetry leg.prefillSelect = .allocated iid eid)
    (h : leg.prefill = .ok respJson) : leg.leavesKv decodeLeaves env = decodeLeaves respJson := by
  unfold PdLeg.leavesKv
  rw [hsel, h]

end Leaves

/-- An attempt of either kind: `failed` ends it when the prefill fails, and the decode runs after the prefill is released. -/
theorem Accounts.singleAttempt {α δ : Type} {env : RouterEnv} (hroles : env.AnswersAsRequested)
    (h : Accounts s fun _ => none) (hfirst : s.firstChunkSent = false) (hretry : s.wantsRetry = false) (leg : PdLeg δ)
    {failed : Raised → Router → α × Router} {decode : ScheduledResource → Json → Router → α × Router}
    (leaves : Router → Json → Bool)
    (hfailed : ∀ {s a} e, Accounts s a → Accounts (failed e s).2 a)
    (hreqInfo : ∀ e s, (failed e s).2.reqInfo = s.reqInfo)
    (hleaves : ∀ {s'} respJson, Frame s s' → leaves s' respJson = leaves s respJson)
    (hdecode : ∀ {s' iid eid} respJson, Accounts s' (prefillAccount env s iid eid) → s'.firstChunkSent = false →
      s'.wantsRetry = false →
      PrefillAfter (prefillAccount env s iid eid) (leaves s' respJson)
        (decode (scheduledResource .roleP iid eid) respJson s').2) :
    LegAfter env s (leg.leavesKv (leaves s) env)
      (match Router.prepareResource env .roleP leg.prefillSelect s with
        | (.error e, s) => failed e s
        | (.ok prefill, s) =>
          match forwardPRequest leg.prefill prefill s with
          | (.error e, s) =>
            let (result, s) := failed e s
            (result, s.releasePrefill prefill)
          | (.ok respJson, s) => decode prefill respJson (s.releasePrefill prefill)).2 := by
  rcases prefill_cases hroles h leg.prefillSelect leg.prefill with
    ⟨e, s', hp, -, hs, hsel⟩ | ⟨iid, eid, s₁, hp, hsel, hrest⟩
  · rw [hp, PdLeg.leavesKv_of_not_allocated _ hsel]
    exact hfailed e hs
  · rw [hp]
    rcases hrest with ⟨e, hanswer, hforward, hstate, hs⟩ | ⟨respJson, s₂, hanswer, hforward, hrelease, hframe, hs⟩
    · rw [PdLeg.leavesKv_of_error _ hanswer]
      dsimp only
      rw [hforward]
      exact (hfailed e hs).releasePrefill env (by rw [hreqInfo]; exact hstate)
    · rw [PdLeg.leavesKv_of_ok _ hsel hanswer]
      dsimp only
      rw [hforward]
      dsimp only
      rw [hrelease]
      have hd := hdecode respJson hs (hframe.firstChunkSent.trans hfirst) (hframe.wantsRetry.trans hretry)
      rw [hleaves respJson hframe] at hd
      exact hd.legAfter

theorem Accounts.processSingleAttempt {env : RouterEnv} (hroles : env.AnswersAsRequested) (h : Accounts s fun _ => none)
    (hfirst : s.firstChunkSent = false) (hretry : s.wantsRetry = false) (leg : PdLeg DecodeStream) (attempt : Nat) :
    LegAfter env s (leg.leavesKv (fun respJson => leg.decodeLeavesKv env s respJson) env)
      (processSingleAttempt env leg attempt s).2 := by
  refine h.singleAttempt hroles hfirst hretry leg (fun s respJson => leg.decodeLeavesKv env s respJson)
    (fun e hs => hs.prefillFailed env attempt e) (fun e _ => reqInfo_prefillFailed env attempt e) (fun respJson hframe => ?_)
    (fun respJson hs hfirst hretry => ?_)
  · unfold PdLeg.decodeLeavesKv decodeRequest
    rw [genDRequest_frame hframe]
  · exact hs.decodePhase hroles (kvOnly_prefillAccount env s) rfl hfirst hretry leg attempt respJson

end PyMotor.Router
