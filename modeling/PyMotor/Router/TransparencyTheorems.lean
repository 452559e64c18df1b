import PyMotor.Router.Lemmas.CdpFollow

/-!
# What recomputes leave of the output
-/

namespace PyMotor

open Lib Recompute Router

section

variable (engine : Engine) (env : RouterEnv) (henv : env.Relays) {info : RequestInfo} {rm : RequestManager}
  (hrm : Unrecorded { reqInfo := info, requestManager := rm }) {maxTokens : Nat} (hinfo : ClientRequest maxTokens info.reqData)

include henv hrm hinfo

end

/-! ## A recompute near the budget -/

mutual

def compactJson : Json → List Char
  | .null => "null".toList
  | .bool b => if b then "true".toList else "false".toList
  | .int n => (toString n).toList
  | .float q => (toString q.floor).toList
  | .str s => '"' :: s.toList ++ ['"']
  | .arr [] => "[]".toList
  | .arr (x :: xs) => '[' :: compactJson x ++ compactItems xs ++ [']']
  | .obj [] => ['\x7b', '\x7d']
  | .obj ((key, v) :: rest) =>
    '\x7b' :: ('"' :: key.toList ++ ['"', ':'] ++ compactJson v ++ compactFields rest ++ ['\x7d'])

def compactItems : List Json → List Char
  | [] => []
  | x :: xs => ',' :: compactJson x ++ compactItems xs

def compactFields : List (String × Json) → List Char
  | [] => []
  | (key, v) :: rest => ',' :: '"' :: key.toList ++ ['"', ':'] ++ compactJson v ++ compactFields rest

end

def firstBatch : JsonObj :=
  [("choices", .arr [.obj [("text", .str "a"), ("token_ids", .arr [.int 1])]]), ("prompt_token_ids", .arr [.int 0])]

def recomputeSignal : JsonObj := [("choices", .arr [.obj [("text", .str ""), ("stop_reason", .str "recomputed")]])]

def secondBatch : JsonObj :=
  [("choices", .arr [.obj [("text", .str "b"), ("token_ids", .arr [.int 2, .int 3])]]),
    ("prompt_token_ids", .arr [.int 0, .int 1])]

def asciiBytes (text : List Char) : Bytes := text.map fun c => c.toNat.toUInt8

def chunkCodec : Recompute.JsonCodec where
  loads text := .ok (([firstBatch, recomputeSignal, secondBatch].find? fun d => compactJson (.obj d) = text).map .obj)
  compact d := asciiBytes (compactJson d)
  dumps d := asciiBytes (compactJson d)

def chunkEnv : RouterEnv := { codec := chunkCodec, transportRetryLimit := 2, recomputeRetryLimit := 1 }

def frameOf (d : JsonObj) : Bytes := asciiBytes (compactJson (.obj d)) ++ [10, 10]

theorem compactJson_obj (d : JsonObj) : ∃ inner, compactJson (.obj d) = '\x7b' :: inner ++ ['\x7d'] := by
  cases d with
  | nil => exact ⟨[], rfl⟩
  | cons item rest =>
      refine ⟨'"' :: item.1.toList ++ ['"', ':'] ++ compactJson item.2 ++ compactFields rest, ?_⟩
      simp [compactJson]

theorem braced_chunkCodec : chunkCodec.Braced := by
  intro d
  obtain ⟨inner, hinner⟩ := compactJson_obj d
  refine ⟨asciiBytes inner, ?_⟩
  rw [show chunkCodec.compact (.obj d) = asciiBytes (compactJson (.obj d)) from rfl, hinner]
  simp [asciiBytes]

theorem relays_chunkEnv : chunkEnv.Relays := ⟨rfl, fun _ _ => rfl, fun _ => rfl, braced_chunkCodec⟩

theorem decodeUtf8_frameOf : ∀ d ∈ [firstBatch, recomputeSignal, secondBatch],
    (frameOf d).decodeUtf8 = some (compactJson (.obj d) ++ ['\n', '\n']) := by
  have h : [firstBatch, recomputeSignal, secondBatch].all fun d =>
      (frameOf d).decodeUtf8 = some (compactJson (.obj d) ++ ['\n', '\n']) := by decide +kernel
  simpa using h

theorem nodup_texts : ([firstBatch, recomputeSignal, secondBatch].map fun d => compactJson (.obj d)).Nodup := by
  decide +kernel

theorem loads_chunkCodec {d : JsonObj} (hd : d ∈ [firstBatch, recomputeSignal, secondBatch]) :
    chunkCodec.loads (compactJson (.obj d)) = .ok (some (.obj d)) := by
  have hnodup := nodup_texts
  simp only [List.map_cons, List.map_nil, List.nodup_cons, List.mem_cons, List.not_mem_nil, or_false, not_or] at hnodup
  simp only [List.mem_cons, List.not_mem_nil, or_false] at hd
  rcases hd with rfl | rfl | rfl
  · simp [chunkCodec]
  · simp [chunkCodec, hnodup.1.1]
  · simp [chunkCodec, hnodup.1.2, hnodup.2.1]

theorem parse_frameOf {d : JsonObj} (hd : d ∈ [firstBatch, recomputeSignal, secondBatch]) :
    parseStreamChunkJson chunkCodec (frameOf d) = .ok (some (.obj d)) := by
  obtain ⟨inner, hinner⟩ := compactJson_obj d
  have hstrip : Text.strip (compactJson (.obj d) ++ ['\n', '\n']) = compactJson (.obj d) := by
    simp [Text.strip, Text.isSpace, hinner]
  have hbare : Text.startsWith dataPrefix (compactJson (.obj d)) = false := by
    rw [hinner]
    rfl
  have hne : (compactJson (.obj d)).isEmpty = false := by
    rw [hinner]
    rfl
  rw [parseStreamChunkJson, decodeUtf8_frameOf d hd]
  simp [hstrip, hbare, hne, loads_chunkCodec hd]

def counting : Engine where
  cont p := ((List.range 4).map Int.ofNat).drop p.length
  cont_append p o _ := by rw [List.length_append, List.drop_drop]
  promptIds reqData :=
    match reqData.get? "prompt" with
    | some (.arr ids) => ids.filterMap fun
        | .int n => some n
        | _ => none
    | _ => []
  promptIds_edit reqData sent h := by rw [h "prompt" (by decide) (by decide)]
  promptIds_tokens reqData ids h _ := by
    rw [h]
    simp [List.filterMap_map]

def countingInfo (maxTokens : Nat) : RequestInfo :=
  { reqId := "r", reqLen := 40, api := "v1/completions"
    reqData := [("prompt", .arr [.int 0]), ("max_tokens", .int maxTokens), ("stream", .bool true)] }

theorem unrecorded_countingInfo (maxTokens : Nat) : Unrecorded { reqInfo := countingInfo maxTokens } := fun _ _ _ => rfl

theorem clientRequest_countingInfo (maxTokens : Nat) : ClientRequest maxTokens (countingInfo maxTokens).reqData where
  eligible :=
    { single := rfl
      budget := ⟨maxTokens, rfl⟩
      prompt := ⟨.arr [.int 0], rfl⟩
      chat := fun h => by cases h }
  streams := rfl
  budget := rfl
  origin := rfl
  cumulative := rfl

def interruptedStream : DecodeStream := { chunks := [frameOf firstBatch, frameOf recomputeSignal] }

def lastStream : DecodeStream := { chunks := [frameOf secondBatch] }

theorem interruptedStream_frames : interruptedStream.frames = [frameOf firstBatch, frameOf recomputeSignal] := by
  decide +kernel

theorem lastStream_frames : lastStream.frames = [frameOf secondBatch] := by
  decide +kernel

variable {maxTokens : Nat} {reqData : JsonObj}

theorem parse_firstBatch : parseStreamChunkJson chunkCodec (frameOf firstBatch) = .ok (some (.obj firstBatch)) :=
  parse_frameOf (by simp)

theorem parse_recomputeSignal : parseStreamChunkJson chunkCodec (frameOf recomputeSignal) = .ok (some (.obj recomputeSignal)) :=
  parse_frameOf (by simp)

theorem parse_secondBatch : parseStreamChunkJson chunkCodec (frameOf secondBatch) = .ok (some (.obj secondBatch)) :=
  parse_frameOf (by simp)

theorem interrupts_interruptedStream (h : Resumable counting maxTokens false [0] 0 [] reqData) (hpos : 0 < maxTokens) :
    counting.Interrupts chunkCodec (copyReqDataForEngine reqData) interruptedStream [frameOf firstBatch]
      (frameOf recomputeSignal) [1] where
  connect := rfl
  frames := by
    rw [interruptedStream_frames]
    exact List.prefix_refl _
  batches := by
    intro frame hframe
    cases List.mem_singleton.mp hframe
    exact .inr ⟨_, parse_firstBatch, _, rfl, ⟨[], rfl, .inr ⟨[], rfl⟩⟩, rfl⟩
  asks := ⟨_, parse_recomputeSignal, ⟨_, rfl, ⟨[], rfl, .inr ⟨[], rfl⟩⟩, rfl⟩, rfl⟩
  tokens := by
    simp only [framesTokens, framesJson, List.filterMap_cons, frameJson, parse_firstBatch]
    rfl
  part := by
    rw [h.output, legTokens, if_pos rfl]
    obtain ⟨n, rfl⟩ : ∃ n, maxTokens = n + 1 := ⟨maxTokens - 1, by omega⟩
    exact ⟨[2, 3].take n, rfl⟩
  prompt := by
    rw [h.prompt]
    simp only [framesJson, List.cons_append, List.nil_append, List.filterMap_cons, frameJson, parse_firstBatch]
    rfl

theorem answers_interruptedStream (h : Resumable counting maxTokens false [0] 0 [] reqData) (hpos : 0 < maxTokens) :
    counting.Answers chunkCodec (copyReqDataForEngine reqData) (.interrupted true [1]) interruptedStream := by
  have hshown : [frameOf firstBatch].any (isShown chunkCodec) = true := by
    simp [isShown, frameJson, parse_firstBatch]
  rw [← hshown]
  exact .interrupted (interrupts_interruptedStream h hpos)

theorem answers_lastStream (h : Resumable counting maxTokens false [0] 1 [1] reqData) (htwo : 2 ≤ maxTokens) :
    counting.Answers chunkCodec (copyReqDataForEngine reqData) .finished lastStream := by
  refine .finished ⟨rfl, rfl, ?_, ?_⟩
  · rw [lastStream_frames]
    intro frame hframe
    cases List.mem_singleton.mp hframe
    exact .inr ⟨_, parse_secondBatch, _, rfl, ⟨[], rfl, .inr ⟨[], rfl⟩⟩, rfl⟩
  · have hleg : 2 ≤ legTokens maxTokens 1 [1] := by
      rw [legTokens, if_neg Nat.one_ne_zero]
      simpa using htwo
    have htake : (counting.cont ([0] ++ [1])).take (legTokens maxTokens 1 [1]) = [2, 3] := List.take_of_length_le hleg
    rw [lastStream_frames, h.output, htake]
    simp only [framesTokens, framesJson, List.filterMap_cons, frameJson, parse_secondBatch]
    rfl

def pdLegOf (stream : DecodeStream) : PdLeg DecodeStream :=
  { prefillSelect := [.allocated 1 10], prefill := .ok (.obj []), decodeSelect := [.allocated 2 20], decode := stream }

def cdpLegOf (stream : DecodeStream) : CdpLeg DecodeStream := { decodeSelect := [.allocated 2 20], decode := stream }

theorem pdLegOf_asks {x : Session Int} {h : PdHandler} (hf : PdHandler.Follows counting chunkEnv maxTokens false [0] x h)
    {fate : LegFate Int} {stream : DecodeStream}
    (hanswers : ∀ {sent : JsonObj}, Resumable counting maxTokens false [0] x.resumes x.given sent →
      counting.Answers chunkCodec (copyReqDataForEngine sent) fate stream) :
    PdLeg.Asks counting chunkEnv h.router (fate, pdLegOf stream) := by
  obtain ⟨sent, hsent⟩ : ∃ sent, genDRequest chunkEnv h.router (.obj []) = .ok sent := ⟨_, rfl⟩
  exact .served rfl rfl rfl hsent (hanswers (hf.view.request.edit (genDRequest_edit hsent)))

theorem follows_pdStart (maxTokens : Nat) : PdHandler.Follows counting chunkEnv maxTokens false [0] {}
    (PdHandler.start chunkEnv .returned { reqInfo := countingInfo maxTokens }) :=
  PdHandler.follows_start counting (by decide) (unrecorded_countingInfo maxTokens) (clientRequest_countingInfo maxTokens)

theorem completeRun_pdLegs (htwo : 2 ≤ maxTokens) :
    CompleteRun (PdHandler.streamLeg chunkEnv) PdHandler.view (fun h => PdLeg.Asks counting chunkEnv h.router)
      (PdHandler.start chunkEnv .returned { reqInfo := countingInfo maxTokens })
      [(.interrupted true [1], pdLegOf interruptedStream)] (pdLegOf lastStream) where
  asks := by
    have hfirst := pdLegOf_asks (follows_pdStart maxTokens) fun hsent => answers_interruptedStream hsent (by omega)
    have hnext : PdHandler.Follows counting chunkEnv maxTokens false [0] _ _ :=
      (follows_pdStart maxTokens).step relays_chunkEnv hfirst (by simp) fun _ => by decide
    exact ⟨fun _ => hfirst, fun _ => pdLegOf_asks hnext fun hsent => answers_lastStream hsent htwo, trivial⟩
  unfinished := by simp

theorem cdpLegOf_asks {x : Session Int} {h : CdpHandler} (hf : CdpHandler.Follows counting chunkEnv maxTokens false [0] x h)
    {fate : LegFate Int} {stream : DecodeStream}
    (hanswers : ∀ {sent : JsonObj}, Resumable counting maxTokens false [0] x.resumes x.given sent →
      counting.Answers chunkCodec (copyReqDataForEngine sent) fate stream) :
    CdpLeg.Asks counting chunkEnv h.reqData (fate, cdpLegOf stream) where
  decodeSelect := ⟨2, 20, rfl⟩
  awake := rfl
  answers := hanswers (hf.view.request.edit (attach_edit chunkEnv h.reqData))

theorem follows_cdpStart (maxTokens : Nat) : CdpHandler.Follows counting chunkEnv maxTokens false [0] {}
    (CdpHandler.start chunkEnv { reqInfo := countingInfo maxTokens }) :=
  CdpHandler.follows_start counting (by decide) (unrecorded_countingInfo maxTokens) (clientRequest_countingInfo maxTokens)

theorem completeRun_cdpLegs (htwo : 2 ≤ maxTokens) :
    CompleteRun (CdpHandler.streamLeg chunkEnv) CdpHandler.view (fun h => CdpLeg.Asks counting chunkEnv h.reqData)
      (CdpHandler.start chunkEnv { reqInfo := countingInfo maxTokens })
      [(.interrupted true [1], cdpLegOf interruptedStream)] (cdpLegOf lastStream) where
  asks := by
    have hfirst := cdpLegOf_asks (follows_cdpStart maxTokens) fun hsent => answers_interruptedStream hsent (by omega)
    have hnext : CdpHandler.Follows counting chunkEnv maxTokens false [0] _ _ :=
      (follows_cdpStart maxTokens).step relays_chunkEnv hfirst (by simp) fun _ => by decide
    exact ⟨fun _ => hfirst, fun _ => cdpLegOf_asks hnext fun hsent => answers_lastStream hsent htwo, trivial⟩
  unfinished := by simp

end PyMotor
