import VrpnWire.FrameEncoder
import VrpnWire.FrameDecoder

/-!
# Frames in a stream

The decoder reads back what the encoder writes, frame by frame, and leaves
the bytes after a frame alone, so a stream of frames decodes in order and to
the last byte. Conversely a frame the decoder accepts is what the encoder
writes for the decoded message, but for the padding, which it writes as
zeros. A frame cut short anywhere is reported as short by exactly the bytes
that are missing.
-/

set_option autoImplicit false

namespace VrpnWire.FrameStream

open VrpnWire.Basic VrpnWire.ByteOrder VrpnWire.Buffers VrpnWire.Types VrpnWire.Padding
open VrpnWire.Frame MessageSize VrpnWire.FrameEncoder VrpnWire.FrameDecoder

theorem drop_chunk (y : Nat) (r : Bytes) {i : Nat} (h : 4 ≤ i) :
    (beBytes 4 y ++ r).drop i = r.drop (i-4) := by
  simp [List.drop_append_eq_append_drop, List.drop_eq_nil_of_le, h]

theorem word_chunk (y : Nat) (r : Bytes) {i : Nat} (h : 4 ≤ i) :
    word 32 (beBytes 4 y ++ r) i = word 32 r (i-4) := by
  simp only [word, drop_chunk y r h]

theorem word_beBytes_nat (n : Nat) (r : Bytes) : word 32 (beBytes 4 n ++ r) 0 = BitVec.ofNat 32 n := by
  apply BitVec.eq_of_toNat_eq
  simp [word, List.take_left' (length_beBytes _ _), beValue_beBytes]

variable {m : SequencedGenericMessage}

theorem lengthFieldOf_frame (hm : m.message.body.inner.length+24 ≤ u32Max) (rest : Bytes) :
    lengthFieldOf (frameBytes m ++ rest) = m.message.body.inner.length+24 := by
  have hlt : m.message.body.inner.length+24 < 4294967296 := by simp only [u32Max] at hm; omega
  simp [lengthFieldOf, frameBytes, word_beBytes_nat, Nat.mod_eq_of_lt hlt]

theorem unbufferRef_frame (hm : m.message.body.inner.length+24 ≤ u32Max) (rest : Bytes) :
    SequencedMessage.unbufferRef (frameBytes m ++ rest) = .ok m rest := by
  have hl := lengthFieldOf_frame hm rest
  have hs : frameSizeOf (frameBytes m ++ rest) = (frameBytes m).length := by
    simp only [frameSizeOf, bodySizeOf, hl, length_frameBytes, Nat.add_sub_cancel]
  rw [unbufferRef_complete (by simp [frameBytes]) (by omega) (by simp [hs]), hs, List.drop_left]
  have hb : ((frameBytes m ++ rest).drop 24).take (bodySizeOf (frameBytes m ++ rest)) =
      m.message.body.inner := by
    rw [bodySizeOf, hl, Nat.add_sub_cancel]
    simp [frameBytes, drop_chunk]
  rw [frameMessage, hb]
  simp [SequencedMessage.new, frameBytes, word_chunk, word_beBytes (w := 32)]

def bufferAll : List SequencedGenericMessage → Step BufMut Unit
  | [] => pure ()
  | m::ms => do m.bufferRef; bufferAll ms

def unbufferN : Nat → Step Bytes (List SequencedGenericMessage)
  | 0 => pure []
  | n+1 => do
    let m ← SequencedMessage.unbufferRef
    let ms ← unbufferN n
    pure (m::ms)

theorem bufferAll_of_le (ms : List SequencedGenericMessage)
    (hms : ∀ m ∈ ms, m.message.body.inner.length ≤ isizeMax) (d : BufMut)
    (hr : (ms.flatMap frameBytes).length ≤ d.remainingMut) :
    bufferAll ms d = .ok () (d.write (ms.flatMap frameBytes)) := by
  induction ms generalizing d with
  | nil => simp [bufferAll]
  | cons m ms ih =>
    simp only [List.flatMap_cons, List.length_append] at hr
    have h1 := bufferRef_of_le (hms m (by simp)) (d := d) (by omega)
    have h2 := ih (fun m' hm' => hms m' (by simp [hm'])) (d.write (frameBytes m))
      (by simp only [BufMut.write_remainingMut]; omega)
    simp [bufferAll, h1, h2, BufMut.write_append]

theorem unbufferN_frames (ms : List SequencedGenericMessage)
    (hms : ∀ m ∈ ms, m.message.body.inner.length+24 ≤ u32Max) (rest : Bytes) :
    unbufferN ms.length (ms.flatMap frameBytes ++ rest) = .ok ms rest := by
  induction ms with
  | nil => rfl
  | cons m ms ih =>
    have h1 := unbufferRef_frame (hms m (by simp)) (ms.flatMap frameBytes ++ rest)
    have h2 := ih (fun m' hm' => hms m' (by simp [hm']))
    simp [unbufferN, h1, h2]

/-- Writing messages one after another into one buffer and calling
`unbuffer_ref` as many times on the result gives the messages back in order
and consumes every byte: the decoder never loses frame sync. -/
theorem frame_stream_round_trip (ms : List SequencedGenericMessage)
    (hms : ∀ m ∈ ms, m.message.body.inner.length+24 ≤ u32Max) (r : Nat)
    (hr : (ms.flatMap frameBytes).length ≤ r) :
    ∃ d, bufferAll ms ⟨[], r⟩ = .ok () d ∧ unbufferN ms.length d.written = .ok ms [] := by
  refine ⟨_, bufferAll_of_le ms (fun m hm => ?_) ⟨[], r⟩ hr, ?_⟩
  · have := hms m hm
    simp only [u32Max, isizeMax] at this ⊢
    omega
  · simpa using unbufferN_frames ms hms []

theorem frame_stream_round_trip_control :
    (∀ m ∈ [controlMessage, controlMessage], m.message.body.inner.length+24 ≤ u32Max) ∧
    ([controlMessage, controlMessage].flatMap frameBytes).length ≤ 96 ∧
    ∃ d, bufferAll [controlMessage, controlMessage] ⟨[], 96⟩ = .ok () d ∧
      unbufferN [controlMessage, controlMessage].length d.written = .ok [controlMessage, controlMessage] [] := by
  have hms : ∀ m ∈ [controlMessage, controlMessage], m.message.body.inner.length+24 ≤ u32Max := by decide
  have hr : ([controlMessage, controlMessage].flatMap frameBytes).length ≤ 96 := by decide
  exact ⟨hms, hr, frame_stream_round_trip [controlMessage, controlMessage] hms 96 hr⟩

theorem unbufferRef_cut_frame (hm : m.message.body.inner.length+24 ≤ u32Max) {P : Bytes}
    (hp : P <+: frameBytes m) (hlt : P.length < (frameBytes m).length) :
    SequencedMessage.unbufferRef P =
      if P.length < 4 then .err (.needMoreData (.atLeast (4-P.length))) P
      else .err (.needMoreData (.exactly ((frameBytes m).length-P.length))) (P.drop 4) := by
  split_ifs with h4
  · exact unbufferRef_short h4
  obtain ⟨t, ht⟩ := hp
  have hl : lengthFieldOf P = m.message.body.inner.length+24 := by
    rw [← lengthFieldOf_append t (by omega), ht, ← lengthFieldOf_frame hm [], List.append_nil]
  have hs : frameSizeOf P = (frameBytes m).length := by
    simp only [frameSizeOf, bodySizeOf, hl, length_frameBytes, Nat.add_sub_cancel]
  rw [unbufferRef_incomplete (by omega) (by omega) (by omega), hs]

/-- Cutting a frame short anywhere is reported with the exact shortfall once
the length field is in, and as the rest of the length field before that;
nothing else can come of it. -/
theorem truncated_frame_shortfall (m : SequencedGenericMessage)
    (hm : m.message.body.inner.length+24 ≤ u32Max) (P : Bytes)
    (hp : P <+: frameBytes m) (hlt : P.length < (frameBytes m).length) :
    (∀ d : BufMut, (frameBytes m).length ≤ d.remainingMut →
      m.bufferRef d = .ok () (d.write (frameBytes m))) ∧
    SequencedMessage.unbufferRef P =
      if P.length < 4 then .err (.needMoreData (.atLeast (4-P.length))) P
      else .err (.needMoreData (.exactly ((frameBytes m).length-P.length))) (P.drop 4) := by
  refine ⟨fun d => bufferRef_of_le (by simp only [u32Max, isizeMax] at hm ⊢; omega), unbufferRef_cut_frame hm hp hlt⟩

theorem truncated_control_frame :
    controlMessage.message.body.inner.length+24 ≤ u32Max ∧
    (frameBytes controlMessage).take 10 <+: frameBytes controlMessage ∧
    ((frameBytes controlMessage).take 10).length < (frameBytes controlMessage).length ∧
    ((∀ d : BufMut, (frameBytes controlMessage).length ≤ d.remainingMut →
      controlMessage.bufferRef d = .ok () (d.write (frameBytes controlMessage))) ∧
    SequencedMessage.unbufferRef ((frameBytes controlMessage).take 10) =
      if ((frameBytes controlMessage).take 10).length < 4 then
        .err (.needMoreData (.atLeast (4-((frameBytes controlMessage).take 10).length)))
          ((frameBytes controlMessage).take 10)
      else .err (.needMoreData (.exactly ((frameBytes controlMessage).length-
          ((frameBytes controlMessage).take 10).length))) (((frameBytes controlMessage).take 10).drop 4)) := by
  have hm : controlMessage.message.body.inner.length+24 ≤ u32Max := by decide
  have hlt : ((frameBytes controlMessage).take 10).length < (frameBytes controlMessage).length := by decide
  exact ⟨hm, List.take_prefix 10 _, hlt,
    truncated_frame_shortfall controlMessage hm _ (List.take_prefix 10 _) hlt⟩

theorem length_frameMessage_body (b : Bytes) (hb : frameSizeOf b ≤ b.length) :
    (frameMessage b).message.body.inner.length = bodySizeOf b := by
  simp [frameMessage, SequencedMessage.new, frameSizeOf] at hb ⊢
  omega

theorem frameBytes_frameMessage (b : Bytes) (hf : 24 ≤ lengthFieldOf b) (hb : frameSizeOf b ≤ b.length) :
    frameBytes (frameMessage b) =
      b.take (24+bodySizeOf b) ++ List.replicate (computePadding (bodySizeOf b)) 0 := by
  have hl := length_frameMessage_body b hb
  simp only [frameSizeOf, bodySizeOf, lengthFieldOf] at hb hf hl
  have hw : ∀ i, i+4 ≤ 24 → beBytes 4 (word 32 b i).toNat = (b.drop i).take 4 :=
    fun i hi => beBytes_word (w := 32) (by decide) b i (by omega)
  rw [frameBytes, hl]
  simp only [frameMessage, SequencedMessage.new, bodySizeOf, lengthFieldOf,
    Nat.sub_add_cancel hf]
  rw [hw 0 (by omega), hw 4 (by omega), hw 8 (by omega), hw 12 (by omega), hw 16 (by omega),
    hw 20 (by omega), List.drop_zero]
  simp only [← List.take_add]

/-- What the decoder accepts is what the encoder writes for the decoded
message, but for the padding, which the decoder skips and the encoder writes
as zeros; the decoder consumes exactly the padded frame. -/
theorem unbufferRef_ok_reencodes (b b' : Bytes) (m : SequencedGenericMessage)
    (h : SequencedMessage.unbufferRef b = .ok m b') :
    ∃ k, (genericMessageSize m).paddedMessageSize = some k ∧ k ≤ b.length ∧ b' = b.drop k ∧
      ∀ d : BufMut, k ≤ d.remainingMut →
        m.bufferRef d = .ok () (d.write (b.take (k-(genericMessageSize m).bodyPadding) ++
          List.replicate (genericMessageSize m).bodyPadding 0)) := by
  rcases unbufferRef_cases b with ⟨-, he⟩ | ⟨-, -, he⟩ | ⟨-, -, -, he⟩ | ⟨h4, hf, hb, he⟩ <;>
    rw [he] at h <;> cases h
  have hl := length_frameMessage_body b hb
  have hL : bodySizeOf b < 4294967296 := by
    have := lengthFieldOf_lt b
    simp only [bodySizeOf]
    omega
  have hp : (genericMessageSize (frameMessage b)).paddedMessageSize = some (frameSizeOf b) := by
    rw [genericMessageSize, hl, paddedMessageSize_of_le (by simp only [usizeMax]; omega), frameSizeOf]
  refine ⟨_, hp, hb, rfl, fun d hd => ?_⟩
  rw [bufferRef_of_le (by simp only [isizeMax]; omega)
    (by rw [length_frameBytes, hl]; simpa only [frameSizeOf] using hd), frameBytes_frameMessage b hf hb,
    genericMessageSize, hl, bodyPadding_fromUnpaddedBodySize, frameSizeOf,
    show bodySizeOf b+computePadding (bodySizeOf b)+24-computePadding (bodySizeOf b) = 24+bodySizeOf b
      by omega]

def paddedFrameSample : Bytes := [0,0,0,25] ++ List.replicate 20 1 ++ [7] ++ List.replicate 7 5 ++ [9]

theorem unbufferRef_ok_reencodes_sample :
    SequencedMessage.unbufferRef paddedFrameSample = .ok (frameMessage paddedFrameSample) [9] ∧
    ∃ k, (genericMessageSize (frameMessage paddedFrameSample)).paddedMessageSize = some k ∧
      k ≤ paddedFrameSample.length ∧ [9] = paddedFrameSample.drop k ∧
      ∀ d : BufMut, k ≤ d.remainingMut →
        (frameMessage paddedFrameSample).bufferRef d = .ok () (d.write (paddedFrameSample.take
          (k-(genericMessageSize (frameMessage paddedFrameSample)).bodyPadding) ++
          List.replicate (genericMessageSize (frameMessage paddedFrameSample)).bodyPadding 0)) := by
  have h : SequencedMessage.unbufferRef paddedFrameSample = .ok (frameMessage paddedFrameSample) [9] :=
    unbufferRef_complete (by decide) (by decide) (by decide)
  exact ⟨h, unbufferRef_ok_reencodes _ _ _ h⟩

end VrpnWire.FrameStream
