import Mathlib.Data.List.Forall2
import PyMotor.Zmq.Protocol

/-!
# Reading back what was written

A value whose large parts went to side frames resolves to the value again, under every list of frames that goes on
from the frames written so far.
-/

namespace PyMotor.Zmq

open Lib

variable {codec : Codec} {threshold : Nat}

/-! ## Resolving -/

/-- From some depth of the recursion on, `m` resolves to `r`. -/
def Resolves (codec : Codec) (aux : List Bytes) (m r : Msg) : Prop :=
  ∃ depth, ∀ fuel, depth ≤ fuel → resolveRefs codec aux fuel m = pure r

theorem mapM_eq_pure {α β : Type} {f : α → Reading β} {xs : List α} {ys : List β}
    (h : List.Forall₂ (fun x y => f x = pure y) xs ys) : xs.mapM f = pure ys := by
  induction h with
  | nil => rfl
  | cons hx _ ih => rw [List.mapM_cons, hx, pure_bind, ih, pure_bind]

theorem depth_forall₂ {α β : Type} {p : Nat → α → β → Prop} {xs : List α} {ys : List β}
    (h : List.Forall₂ (fun x y => ∃ depth, ∀ fuel, depth ≤ fuel → p fuel x y) xs ys) :
    ∃ depth, ∀ fuel, depth ≤ fuel → List.Forall₂ (p fuel) xs ys := by
  induction h with
  | nil => exact ⟨0, fun _ _ => .nil⟩
  | cons hx _ ih =>
      obtain ⟨d₁, h₁⟩ := hx
      obtain ⟨d₂, h₂⟩ := ih
      exact ⟨max d₁ d₂, fun fuel hf => .cons (h₁ fuel (by omega)) (h₂ fuel (by omega))⟩

theorem resolves_scalar {aux : List Bytes} {m : Msg} (h : m.isContainer = false) : Resolves codec aux m m := by
  refine ⟨1, fun fuel hf => ?_⟩
  obtain ⟨n, rfl⟩ : ∃ n, fuel = n + 1 := ⟨fuel - 1, by omega⟩
  cases m <;> simp_all [Msg.isContainer, resolveRefs]

theorem resolves_arr {aux : List Bytes} {xs ys : List Msg} (h : List.Forall₂ (Resolves codec aux) xs ys) :
    Resolves codec aux (.arr xs) (.arr ys) := by
  obtain ⟨depth, hdepth⟩ := depth_forall₂ h
  refine ⟨depth + 1, fun fuel hf => ?_⟩
  obtain ⟨n, rfl⟩ : ∃ n, fuel = n + 1 := ⟨fuel - 1, by omega⟩
  rw [resolveRefs, mapM_eq_pure (hdepth n (by omega)), pure_bind]

/-- The same keys, and each value resolves. -/
def ResolvesItem (codec : Codec) (aux : List Bytes) (item r : Msg × Msg) : Prop :=
  item.1 = r.1 ∧ Resolves codec aux item.2 r.2

theorem resolves_map {aux : List Bytes} {items out : Msg.Items} (hnot : refFrame aux.length items = none)
    (h : List.Forall₂ (ResolvesItem codec aux) items out) : Resolves codec aux (.map items) (.map out) := by
  have hall : List.Forall₂ (fun item r => ∃ depth, ∀ fuel, depth ≤ fuel →
      (do return (item.1, ← resolveRefs codec aux fuel item.2) : Reading (Msg × Msg)) = pure r) items out := by
    refine h.imp ?_
    rintro ⟨k, v⟩ ⟨k', r⟩ ⟨hk, depth, hdepth⟩
    subst hk
    refine ⟨depth, fun fuel hf => ?_⟩
    rw [hdepth fuel hf, pure_bind]
  obtain ⟨depth, hdepth⟩ := depth_forall₂ hall
  refine ⟨depth + 1, fun fuel hf => ?_⟩
  obtain ⟨n, rfl⟩ : ∃ n, fuel = n + 1 := ⟨fuel - 1, by omega⟩
  simp only [resolveRefs, hnot]
  rw [mapM_eq_pure (hdepth n (by omega)), pure_bind]

theorem refFrame_refTo {count index : Nat} (h : index < count) :
    refFrame count [(.str zeroCopyRefKey, .int index)] = some index := by
  simp [refFrame, refIndex, h]

theorem resolves_refTo {aux : List Bytes} {index : Nat} {b : Bytes} {m r : Msg} (hb : aux[index]? = some b)
    (hm : codec.decode b = some m) (h : Resolves codec aux m r) : Resolves codec aux (refTo index) r := by
  obtain ⟨depth, hdepth⟩ := h
  have hlt : index < aux.length := (List.getElem?_eq_some_iff.1 hb).1
  refine ⟨depth + 1, fun fuel hf => ?_⟩
  obtain ⟨n, rfl⟩ : ∃ n, fuel = n + 1 := ⟨fuel - 1, by omega⟩
  simp only [refTo, resolveRefs, refFrame_refTo hlt, List.getD_eq_getElem?_getD, hb, Option.getD_some, hm]
  exact hdepth n (by omega)

/-! ## Dictionaries that are no references -/

theorem NotRef.refIndex {items : Msg.Items} (h : NotRef items) : refIndex items = none := by
  unfold NotRef at h
  unfold Zmq.refIndex
  split <;> simp_all

theorem NotRef.refFrame {items : Msg.Items} (h : NotRef items) (count : Nat) : refFrame count items = none := by
  simp [Zmq.refFrame, h.refIndex]

theorem NotRef.isRefDict {items : Msg.Items} (h : NotRef items) : isRefDict items = false := by
  unfold NotRef at h
  unfold Zmq.isRefDict
  split <;> simp_all

theorem NotRef.of_keys {items out : Msg.Items} (h : NotRef items) (hk : out.map Prod.fst = items.map Prod.fst) :
    NotRef out := by
  unfold NotRef
  rw [hk]
  exact h

mutual
theorem resolves_self (aux : List Bytes) : (m : Msg) → m.Everywhere NotRef → Resolves codec aux m m
  | .map items, h => by
      rw [Msg.Everywhere] at h
      exact resolves_map (h.1.refFrame _) (resolves_self_items aux items h.2)
  | .arr xs, h => by
      rw [Msg.Everywhere] at h
      exact resolves_arr (resolves_self_elements aux xs h)
  | .nil, _ | .bool _, _ | .int _, _ | .float _, _ | .str _, _ | .bin _, _ | .ext _ _, _ => resolves_scalar rfl

theorem resolves_self_items (aux : List Bytes) : (items : Msg.Items) → Msg.EverywhereItems NotRef items →
    List.Forall₂ (ResolvesItem codec aux) items items
  | [], _ => .nil
  | (_, v) :: items, h => by
      rw [Msg.EverywhereItems] at h
      exact .cons ⟨rfl, resolves_self aux v h.1⟩ (resolves_self_items aux items h.2)

theorem resolves_self_elements (aux : List Bytes) : (xs : List Msg) → Msg.EverywhereList NotRef xs →
    List.Forall₂ (Resolves codec aux) xs xs
  | [], _ => .nil
  | x :: xs, h => by
      rw [Msg.EverywhereList] at h
      exact .cons (resolves_self aux x h.1) (resolves_self_elements aux xs h.2)
end

mutual
theorem refs_self (count : Nat) : (m : Msg) → m.Everywhere NotRef → refs count m = []
  | .map items, h => by
      rw [Msg.Everywhere] at h
      rw [refs, h.1.refFrame]
      exact refs_self_items count items h.2
  | .arr xs, h => by
      rw [Msg.Everywhere] at h
      rw [refs]
      exact refs_self_elements count xs h
  | .nil, _ | .bool _, _ | .int _, _ | .float _, _ | .str _, _ | .bin _, _ | .ext _ _, _ => by simp [refs]

theorem refs_self_items (count : Nat) : (items : Msg.Items) → Msg.EverywhereItems NotRef items →
    refsItems count items = []
  | [], _ => by simp [refsItems]
  | (_, v) :: items, h => by
      rw [Msg.EverywhereItems] at h
      simp [refsItems, refs_self count v h.1, refs_self_items count items h.2]

theorem refs_self_elements (count : Nat) : (xs : List Msg) → Msg.EverywhereList NotRef xs →
    refsElements count xs = []
  | [], _ => by simp [refsElements]
  | x :: xs, h => by
      rw [Msg.EverywhereList] at h
      simp [refsElements, refs_self count x h.1, refs_self_elements count xs h.2]
end

/-! ## Replacing -/

/-- The frame holds a value without references. -/
def PlainFrame (codec : Codec) (b : Bytes) : Prop := ∃ m, codec.decode b = some m ∧ ∀ count, refs count m = []

/-- What writing a value `m` as `m'` and its frames from `aux` to `aux'` guarantees. -/
structure Replaced (codec : Codec) (aux : List Bytes) (m m' : Msg) (aux' : List Bytes) : Prop where
  extends_frames : aux <+: aux'
  tree : m'.Tree
  resolves : ∀ frames, aux' <+: frames → Resolves codec frames m' m
  unchanged : aux' = aux → m' = m
  plain : ∀ b ∈ aux', b ∈ aux ∨ PlainFrame codec b
  refs_eq : ∀ count, aux'.length ≤ count → refs count m' = List.range' aux.length (aux'.length - aux.length)

structure ReplacedItems (codec : Codec) (aux : List Bytes) (items items' : Msg.Items) (aux' : List Bytes) : Prop where
  extends_frames : aux <+: aux'
  keys : items'.map Prod.fst = items.map Prod.fst
  trees : Msg.EverywhereItems Msg.StringKeys items'
  resolves : ∀ frames, aux' <+: frames → List.Forall₂ (ResolvesItem codec frames) items' items
  unchanged : aux' = aux → items' = items
  plain : ∀ b ∈ aux', b ∈ aux ∨ PlainFrame codec b
  refs_eq : ∀ count, aux'.length ≤ count → refsItems count items' = List.range' aux.length (aux'.length - aux.length)

structure ReplacedElements (codec : Codec) (aux : List Bytes) (xs xs' : List Msg) (aux' : List Bytes) : Prop where
  extends_frames : aux <+: aux'
  trees : Msg.EverywhereList Msg.StringKeys xs'
  resolves : ∀ frames, aux' <+: frames → List.Forall₂ (Resolves codec frames) xs' xs
  unchanged : aux' = aux → xs' = xs
  plain : ∀ b ∈ aux', b ∈ aux ∨ PlainFrame codec b
  refs_eq : ∀ count, aux'.length ≤ count → refsElements count xs' = List.range' aux.length (aux'.length - aux.length)

theorem range'_append_of_le {a b c : Nat} (h₁ : a ≤ b) (h₂ : b ≤ c) :
    List.range' a (b - a) ++ List.range' b (c - b) = List.range' a (c - a) := by
  have h := @List.range'_append_1 a (b - a) (c - b)
  rw [show a + (b - a) = b by omega, show b - a + (c - b) = c - a by omega] at h
  exact h

theorem eq_of_prefix_of_prefix {α : Type} {xs ys : List α} (h₁ : xs <+: ys) (h₂ : ys <+: xs) : ys = xs :=
  (h₁.eq_of_length_le h₂.length_le).symm

theorem Replaced.same {aux : List Bytes} {m : Msg} (h : Sendable m) : Replaced codec aux m m aux where
  extends_frames := List.prefix_refl aux
  tree := h.1
  resolves := fun frames _ => resolves_self frames m h.2
  unchanged := fun _ => rfl
  plain := fun _ hb => .inl hb
  refs_eq := fun count _ => by simp [refs_self count m h.2]

theorem tree_refTo (index : Nat) : (refTo index).Tree := by
  simp [Msg.Tree, refTo, Msg.Everywhere, Msg.EverywhereItems, Msg.StringKeys]

theorem decode_blobOf (hcodec : codec.Inverse) {m : Msg} (h : m.Tree) (hlarge : threshold < (blobOf codec m).length) :
    codec.decode (blobOf codec m) = some m := by
  cases henc : codec.encode m with
  | none => simp [blobOf, henc] at hlarge
  | some b => simpa [blobOf, henc] using hcodec m b h henc

theorem Replaced.ref (hcodec : codec.Inverse) {aux : List Bytes} {m : Msg} (h : Sendable m)
    (hlarge : threshold < (blobOf codec m).length) :
    Replaced codec aux m (refTo aux.length) (aux ++ [blobOf codec m]) where
  extends_frames := List.prefix_append aux _
  tree := tree_refTo aux.length
  resolves := by
    rintro frames ⟨rest, rfl⟩
    have hget : (aux ++ [blobOf codec m] ++ rest)[aux.length]? = some (blobOf codec m) := by simp
    exact resolves_refTo hget (decode_blobOf hcodec h.1 hlarge) (resolves_self _ m h.2)
  unchanged := fun heq => by simp at heq
  plain := by
    intro b hb
    rcases List.mem_append.1 hb with hb | hb
    · exact .inl hb
    · rw [List.mem_singleton.1 hb]
      exact .inr ⟨m, decode_blobOf hcodec h.1 hlarge, fun count => refs_self count m h.2⟩
  refs_eq := by
    intro count hcount
    rw [List.length_append, List.length_singleton] at hcount ⊢
    rw [refTo, refs, refFrame_refTo (by omega)]
    simp

theorem Replaced.arr {aux aux' : List Bytes} {xs xs' : List Msg} (h : ReplacedElements codec aux xs xs' aux') :
    Replaced codec aux (.arr xs) (.arr xs') aux' where
  extends_frames := h.extends_frames
  tree := by
    rw [Msg.Tree, Msg.Everywhere]
    exact h.trees
  resolves := fun frames hframes => resolves_arr (h.resolves frames hframes)
  unchanged := fun heq => by rw [h.unchanged heq]
  plain := h.plain
  refs_eq := by
    intro count hcount
    rw [refs]
    exact h.refs_eq count hcount

theorem Replaced.map {aux aux' : List Bytes} {items items' : Msg.Items} (hkeys : Msg.StringKeys items)
    (hnot : NotRef items) (h : ReplacedItems codec aux items items' aux') :
    Replaced codec aux (.map items) (.map items') aux' where
  extends_frames := h.extends_frames
  tree := by
    rw [Msg.Tree, Msg.Everywhere]
    exact ⟨hkeys.of_keys h.keys, h.trees⟩
  resolves := fun frames hframes => resolves_map ((hnot.of_keys h.keys).refFrame _) (h.resolves frames hframes)
  unchanged := fun heq => by rw [h.unchanged heq]
  plain := h.plain
  refs_eq := by
    intro count hcount
    rw [refs, (hnot.of_keys h.keys).refFrame]
    exact h.refs_eq count hcount

theorem ReplacedItems.nil (aux : List Bytes) : ReplacedItems codec aux [] [] aux where
  extends_frames := List.prefix_refl aux
  keys := rfl
  trees := by simp [Msg.EverywhereItems]
  resolves := fun _ _ => .nil
  unchanged := fun _ => rfl
  plain := fun _ hb => .inl hb
  refs_eq := fun _ _ => by simp [refsItems]

theorem ReplacedItems.cons {aux aux₁ aux₂ : List Bytes} {k v v' : Msg} {items items' : Msg.Items}
    (hv : Replaced codec aux v v' aux₁) (h : ReplacedItems codec aux₁ items items' aux₂) :
    ReplacedItems codec aux ((k, v) :: items) ((k, v') :: items') aux₂ where
  extends_frames := hv.extends_frames.trans h.extends_frames
  keys := by simp [h.keys]
  trees := by
    rw [Msg.EverywhereItems]
    exact ⟨hv.tree, h.trees⟩
  resolves := fun frames hframes =>
    .cons ⟨rfl, hv.resolves frames (h.extends_frames.trans hframes)⟩ (h.resolves frames hframes)
  unchanged := by
    rintro rfl
    have heq := eq_of_prefix_of_prefix hv.extends_frames h.extends_frames
    rw [hv.unchanged heq, h.unchanged heq.symm]
  plain := by
    intro b hb
    rcases h.plain b hb with hb | hb
    · exact hv.plain b hb
    · exact .inr hb
  refs_eq := by
    intro count hcount
    have h₁ := hv.extends_frames.length_le
    have h₂ := h.extends_frames.length_le
    rw [refsItems, hv.refs_eq count (by omega), h.refs_eq count hcount, range'_append_of_le h₁ h₂]

theorem ReplacedElements.nil (aux : List Bytes) : ReplacedElements codec aux [] [] aux where
  extends_frames := List.prefix_refl aux
  trees := by simp [Msg.EverywhereList]
  resolves := fun _ _ => .nil
  unchanged := fun _ => rfl
  plain := fun _ hb => .inl hb
  refs_eq := fun _ _ => by simp [refsElements]

theorem ReplacedElements.cons {aux aux₁ aux₂ : List Bytes} {x x' : Msg} {xs xs' : List Msg}
    (hx : Replaced codec aux x x' aux₁) (h : ReplacedElements codec aux₁ xs xs' aux₂) :
    ReplacedElements codec aux (x :: xs) (x' :: xs') aux₂ where
  extends_frames := hx.extends_frames.trans h.extends_frames
  trees := by
    rw [Msg.EverywhereList]
    exact ⟨hx.tree, h.trees⟩
  resolves := fun frames hframes =>
    .cons (hx.resolves frames (h.extends_frames.trans hframes)) (h.resolves frames hframes)
  unchanged := by
    rintro rfl
    have heq := eq_of_prefix_of_prefix hx.extends_frames h.extends_frames
    rw [hx.unchanged heq, h.unchanged heq.symm]
  plain := by
    intro b hb
    rcases h.plain b hb with hb | hb
    · exact hx.plain b hb
    · exact .inr hb
  refs_eq := by
    intro count hcount
    have h₁ := hx.extends_frames.length_le
    have h₂ := h.extends_frames.length_le
    rw [refsElements, hx.refs_eq count (by omega), h.refs_eq count hcount, range'_append_of_le h₁ h₂]

mutual
theorem replaced_replaceLargeWithRefs (hcodec : codec.Inverse) (threshold : Nat) : (m : Msg) → Sendable m →
    (aux : List Bytes) →
    Replaced codec aux m (replaceLargeWithRefs codec threshold m aux).1 (replaceLargeWithRefs codec threshold m aux).2
  | .map items, h, aux => by
      obtain ⟨htree, hnot⟩ := h
      rw [Msg.Tree, Msg.Everywhere] at htree
      rw [Msg.Everywhere] at hnot
      simp only [replaceLargeWithRefs, hnot.1.isRefDict, Bool.false_eq_true, if_false]
      exact Replaced.map htree.1 hnot.1 (replaced_replaceItems hcodec threshold items htree.2 hnot.2 aux)
  | .arr xs, h, aux => by
      rw [replaceLargeWithRefs]
      by_cases hlarge : threshold < (blobOf codec (.arr xs)).length
      · rw [if_pos hlarge]
        exact Replaced.ref hcodec h hlarge
      · rw [if_neg hlarge]
        obtain ⟨htree, hnot⟩ := h
        rw [Msg.Tree, Msg.Everywhere] at htree
        rw [Msg.Everywhere] at hnot
        exact Replaced.arr (replaced_replaceElements hcodec threshold xs htree hnot aux)
  | .nil, h, _ | .bool _, h, _ | .int _, h, _ | .float _, h, _ | .str _, h, _ | .bin _, h, _ | .ext _ _, h, _ => by
      simpa only [replaceLargeWithRefs] using Replaced.same h

theorem replaced_replaceItems (hcodec : codec.Inverse) (threshold : Nat) : (items : Msg.Items) →
    Msg.EverywhereItems Msg.StringKeys items → Msg.EverywhereItems NotRef items → (aux : List Bytes) →
    ReplacedItems codec aux items (replaceItems codec threshold items aux).1
      (replaceItems codec threshold items aux).2
  | [], _, _, aux => by
      rw [replaceItems]
      exact ReplacedItems.nil aux
  | (k, v) :: items, htree, hnot, aux => by
      rw [Msg.EverywhereItems] at htree hnot
      have hv : Sendable v := ⟨htree.1, hnot.1⟩
      rw [replaceItems]
      by_cases hcont : v.isContainer
      · by_cases hlarge : threshold < (blobOf codec v).length
        · simp only [hcont, if_true, hlarge]
          exact .cons (Replaced.ref hcodec hv hlarge) (replaced_replaceItems hcodec threshold items htree.2 hnot.2 _)
        · simp only [hcont, if_true, hlarge, if_false]
          exact .cons (replaced_replaceLargeWithRefs hcodec threshold v hv aux)
            (replaced_replaceItems hcodec threshold items htree.2 hnot.2 _)
      · simp only [hcont, Bool.false_eq_true, if_false]
        exact .cons (Replaced.same hv) (replaced_replaceItems hcodec threshold items htree.2 hnot.2 _)

theorem replaced_replaceElements (hcodec : codec.Inverse) (threshold : Nat) : (xs : List Msg) →
    Msg.EverywhereList Msg.StringKeys xs → Msg.EverywhereList NotRef xs → (aux : List Bytes) →
    ReplacedElements codec aux xs (replaceElements codec threshold xs aux).1
      (replaceElements codec threshold xs aux).2
  | [], _, _, aux => by
      rw [replaceElements]
      exact ReplacedElements.nil aux
  | x :: xs, htree, hnot, aux => by
      rw [Msg.EverywhereList] at htree hnot
      rw [replaceElements]
      exact .cons (replaced_replaceLargeWithRefs hcodec threshold x ⟨htree.1, hnot.1⟩ aux)
        (replaced_replaceElements hcodec threshold xs htree.2 hnot.2 _)
end

/-! ## Messages -/

theorem unpackRecvPayload_packSendFrames (head : List Bytes) (mainBuf : Bytes) (aux : List Bytes) :
    unpackRecvPayload (packSendFrames head (payloadOf mainBuf aux)) head.length = payloadOf mainBuf aux := by
  cases aux with
  | nil =>
      have hlen : ¬ head.length + 1 ≤ head.length := by omega
      simp [payloadOf, packSendFrames, unpackRecvPayload, hlen]
  | cons b aux => simp [payloadOf, packSendFrames, unpackRecvPayload]

theorem recv_packSendFrames (clientId empty mainBuf : Bytes) (aux : List Bytes) :
    recv (packSendFrames [clientId, empty] (payloadOf mainBuf aux)) = some (clientId, mainBuf :: aux) := by
  cases aux with
  | nil => simp [payloadOf, packSendFrames, recv]
  | cons b aux => simp [payloadOf, packSendFrames, recv]

theorem requestPayload_frames (mainBuf : Bytes) (aux : List Bytes) :
    requestPayload (mainBuf :: aux) = payloadOf mainBuf aux := by
  cases aux with
  | nil => simp [requestPayload, payloadOf, unpackRecvPayload]
  | cons b aux => simp [requestPayload, payloadOf, unpackRecvPayload]

theorem carried_payloadOf {α : Type} {deserialize : Nat → Payload → Reading α} {dataOf : Bytes → Option Msg} {x : α}
    {mainBuf : Bytes} {aux : List Bytes} {data : Msg}
    (hread : ∃ depth, ∀ fuel, depth ≤ fuel → deserialize fuel (payloadOf mainBuf aux) = pure x)
    (hdata : dataOf mainBuf = some data) (hrefs : refs aux.length data = List.range aux.length)
    (hplain : ∀ b ∈ aux, PlainFrame codec b) : Carried codec deserialize dataOf x (payloadOf mainBuf aux) where
  read := by
    obtain ⟨depth, hdepth⟩ := hread
    refine ⟨depth, fun fuel hf first clientId empty => ⟨?_, ?_, mainBuf :: aux, ?_, ?_⟩⟩
    · rw [← hdepth fuel hf]
      exact congrArg _ (unpackRecvPayload_packSendFrames [first] mainBuf aux)
    · rw [← hdepth fuel hf]
      exact congrArg _ (unpackRecvPayload_packSendFrames [clientId, empty] mainBuf aux)
    · exact recv_packSendFrames clientId empty mainBuf aux
    · rw [requestPayload_frames, hdepth fuel hf]
  referred := by
    intro mainBuf' aux' hpay
    have heq : mainBuf = mainBuf' ∧ aux = aux' := by
      cases aux with
      | nil => simp [payloadOf] at hpay
      | cons b aux => simpa [payloadOf] using hpay
    obtain ⟨rfl, rfl⟩ := heq
    refine ⟨⟨data, hdata, hrefs⟩, fun b hb => ?_⟩
    obtain ⟨m, hm, hnone⟩ := hplain b hb
    exact ⟨m, hm, hnone _⟩

theorem asDict_of_stringKeys {items : Msg.Items} (h : Msg.StringKeys items) :
    asDict (.map items) = some (.map items) := by
  have hall : items.all (fun item => isStr item.1) = true := by
    rw [List.all_eq_true]
    intro item hitem
    obtain ⟨s, hs⟩ := h.2 item hitem
    rw [hs]
    rfl
  rw [asDict, if_pos hall]

theorem SchedulerRequest.tree_toMsg {x : SchedulerRequest} (h : x.data.Tree) : x.toMsg.Tree := by
  simp only [Msg.Tree] at h
  simp [Msg.Tree, SchedulerRequest.toMsg, Msg.Everywhere, Msg.EverywhereItems, Msg.StringKeys, h]

theorem SchedulerResponse.tree_toMsg {x : SchedulerResponse} (h : x.data.Tree) : x.toMsg.Tree := by
  simp only [Msg.Tree] at h
  cases herr : x.error <;>
    simp [Msg.Tree, SchedulerResponse.toMsg, Msg.Everywhere, Msg.EverywhereItems, Msg.StringKeys, h, herr]

theorem decodeRequest_encode (hcodec : codec.Inverse) {x : SchedulerRequest} {items : Msg.Items} {b : Bytes}
    (hdata : x.data = .map items) (htree : x.data.Tree) (hb : codec.encode x.toMsg = some b) :
    decodeRequest codec b = some x := by
  have hdec : asDict x.data = some x.data := by
    rw [hdata, Msg.Tree, Msg.Everywhere] at htree
    rw [hdata]
    exact asDict_of_stringKeys htree.1
  rw [decodeRequest, hcodec _ b (SchedulerRequest.tree_toMsg htree) hb, SchedulerRequest.toMsg]
  simp [field, isKey, asStr, hdec]

theorem decodeResponse_encode (hcodec : codec.Inverse) {x : SchedulerResponse} {b : Bytes}
    (hdata : x.data = .nil ∨ ∃ items, x.data = .map items) (htree : x.data.Tree)
    (hb : codec.encode x.toMsg = some b) : decodeResponse codec b = some x := by
  obtain ⟨responseType, requestId, data, error⟩ := x
  have hopt : (asOptional asDict (some data)).map (·.getD .nil) = some data := by
    rcases hdata with hnil | ⟨items, hitems⟩
    · simp only at hnil
      rw [hnil]
      rfl
    · simp only at hitems htree
      rw [hitems, Msg.Tree, Msg.Everywhere] at htree
      rw [hitems, asOptional, asDict_of_stringKeys htree.1]
      · rfl
      · simp
  have herr : asOptional asStr (some ((error.map Msg.str).getD .nil)) = some error := by
    cases error <;> rfl
  rw [decodeResponse, hcodec _ b (SchedulerResponse.tree_toMsg htree) hb, SchedulerResponse.toMsg]
  obtain ⟨d, hd, hgetD⟩ := Option.map_eq_some_iff.1 hopt
  simp [field, isKey, asStr, hd, hgetD, herr]

theorem Replaced.carried {α : Type} {deserialize : Nat → Payload → Reading α} {dataOf : Bytes → Option Msg} {x : α}
    {mainBuf : Bytes} {aux : List Bytes} {m data : Msg} (hrep : Replaced codec [] m data aux)
    (hread : ∃ depth, ∀ fuel, depth ≤ fuel → deserialize fuel (payloadOf mainBuf aux) = pure x)
    (hdata : dataOf mainBuf = some data) : Carried codec deserialize dataOf x (payloadOf mainBuf aux) := by
  refine carried_payloadOf hread hdata ?_ fun b hb => (hrep.plain b hb).resolve_left (by simp)
  rw [hrep.refs_eq aux.length (Nat.le_refl _), List.range_eq_range']
  rfl

theorem replaceLargeWithRefs_map (codec : Codec) (threshold : Nat) (items : Msg.Items) (aux : List Bytes) :
    ∃ items', (replaceLargeWithRefs codec threshold (.map items) aux).1 = .map items' := by
  rw [replaceLargeWithRefs]
  split
  · exact ⟨items, rfl⟩
  · exact ⟨_, rfl⟩

theorem serializeRequest_replaced (hcodec : codec.Inverse) (threshold : Nat) {x : SchedulerRequest}
    (hx : x.Sendable) : ∃ items aux, Replaced codec [] x.data (.map items) aux ∧
      serializeRequest codec threshold x =
        (codec.encode { x with data := .map items }.toMsg).map fun mainBuf => payloadOf mainBuf aux := by
  obtain ⟨⟨items, hitems⟩, hsend⟩ := hx
  have hrep := replaced_replaceLargeWithRefs hcodec threshold x.data hsend []
  obtain ⟨items', hitems'⟩ := replaceLargeWithRefs_map codec threshold items []
  rw [← hitems] at hitems'
  refine ⟨items', _, hitems' ▸ hrep, ?_⟩
  rw [serializeRequest, ← hitems']

theorem serializeResponse_replaced (hcodec : codec.Inverse) (threshold : Nat) {x : SchedulerResponse}
    (hx : x.Sendable) : ∃ data aux, Replaced codec [] x.data data aux ∧
      (data = .nil ∧ aux = [] ∨ ∃ items, data = .map items ∧ (items = [] → aux = [])) ∧
      serializeResponse codec threshold x =
        (codec.encode { x with data }.toMsg).map fun mainBuf => payloadOf mainBuf aux := by
  obtain ⟨responseType, requestId, data, error⟩ := x
  obtain ⟨hdata, hsend⟩ := hx
  rcases hdata with rfl | ⟨items, rfl⟩
  · exact ⟨.nil, [], Replaced.same hsend, .inl ⟨rfl, rfl⟩, rfl⟩
  · have hrep := replaced_replaceLargeWithRefs hcodec threshold _ hsend []
    obtain ⟨items', hitems'⟩ := replaceLargeWithRefs_map codec threshold items []
    refine ⟨_, _, hrep, .inr ⟨items', hitems', ?_⟩, rfl⟩
    · -- The main frame refers to every side frame, an empty dictionary to none.
      rintro rfl
      have hrefs := hrep.refs_eq _ (Nat.le_refl _)
      rw [hitems'] at hrefs
      simpa [refs, refsItems, refFrame, refIndex] using hrefs.symm

end PyMotor.Zmq
