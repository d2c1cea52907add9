import VrpnWire.FrameStream

/-!
# Partial streams

Both ends of a connection handle a stream of frames that is not all there. A
receiver holds some prefix of what the sender wrote: repeated `unbuffer_ref`
decodes exactly the whole frames in it, in order, and the frame the prefix
cuts is reported short by exactly its missing bytes. A sender buffers frames
into a destination of bounded room: since each `buffer_ref` is all or nothing,
it writes the longest run of whole frames that fits and stops with
`OutOfBuffer` at the first that does not, so what it wrote always decodes back.
-/

set_option autoImplicit false

namespace VrpnWire.PartialStreams

open VrpnWire.Basic VrpnWire.ByteOrder VrpnWire.Buffers VrpnWire.Types VrpnWire.Padding
open VrpnWire.Frame VrpnWire.FrameEncoder VrpnWire.FrameDecoder VrpnWire.FrameStream

variable {m : SequencedGenericMessage}

theorem unbufferN_succ_frame (hm : m.message.body.inner.length+24 ≤ u32Max) (j : Nat) (rest R : Bytes)
    (ms : List SequencedGenericMessage) (h : unbufferN j rest = .ok ms R) :
    unbufferN (j+1) (frameBytes m ++ rest) = .ok (m :: ms) R := by
  simp [unbufferN, unbufferRef_frame hm rest, h]

theorem unbufferN_take_stream (ms : List SequencedGenericMessage)
    (hms : ∀ m ∈ ms, m.message.body.inner.length+24 ≤ u32Max) (k : Nat) :
    ∃ j R, unbufferN j ((ms.flatMap frameBytes).take k) = .ok (ms.take j) R ∧ j ≤ ms.length ∧
      (ms.flatMap frameBytes).take k = (ms.take j).flatMap frameBytes ++ R ∧
      ((j = ms.length ∧ R = []) ∨ ∃ m, ms[j]? = some m ∧ R <+: frameBytes m ∧ R.length < (frameBytes m).length) := by
  induction ms generalizing k with
  | nil => exact ⟨0, [], by simp [unbufferN], le_rfl, by simp, .inl ⟨rfl, rfl⟩⟩
  | cons m ms ih =>
    rw [List.flatMap_cons]
    by_cases hk : k < (frameBytes m).length
    · -- the prefix ends inside the first frame
      rw [List.take_append_of_le_length (by omega)]
      exact ⟨0, _, rfl, Nat.zero_le _, by simp, .inr ⟨m, by simp, List.take_prefix _ _, by simp; omega⟩⟩
    · -- the first frame is whole, and the rest is a prefix of the rest of the stream
      rw [List.take_append_eq_append_take, List.take_of_length_le (by omega)]
      obtain ⟨j, R, hj, hle, hs, hR⟩ := ih (fun x hx => hms x (by simp [hx])) (k-(frameBytes m).length)
      refine ⟨j+1, R, unbufferN_succ_frame (hms m (by simp)) j _ R _ hj, by simpa using hle, ?_, ?_⟩
      · rw [hs, List.take_succ_cons, List.flatMap_cons, List.append_assoc]
      · rcases hR with ⟨rfl, rfl⟩ | ⟨m', hm', hR⟩
        · exact .inl ⟨rfl, rfl⟩
        · exact .inr ⟨m', by simpa using hm', hR⟩

/-- What a receiver holding any prefix of a sender's stream gets from calling
`unbuffer_ref` over and over: the whole frames in the prefix, in order, and
then either nothing left after the last frame of the stream, or the frame the
prefix cuts, reported short by exactly its missing bytes. -/
theorem stream_prefix_decodes (ms : List SequencedGenericMessage)
    (hms : ∀ m ∈ ms, m.message.body.inner.length+24 ≤ u32Max) (k : Nat) :
    ∃ j R, unbufferN j ((ms.flatMap frameBytes).take k) = .ok (ms.take j) R ∧
      ((j = ms.length ∧ R = []) ∨
       ∃ m, ms[j]? = some m ∧ R <+: frameBytes m ∧ R.length < (frameBytes m).length ∧
         SequencedMessage.unbufferRef R =
           if R.length < 4 then .err (.needMoreData (.atLeast (4-R.length))) R
           else .err (.needMoreData (.exactly ((frameBytes m).length-R.length))) (R.drop 4)) := by
  obtain ⟨j, R, hj, -, -, hR⟩ := unbufferN_take_stream ms hms k
  rcases hR with hR | ⟨m, hm, hp, hlt⟩
  · exact ⟨j, R, hj, .inl hR⟩
  · exact ⟨j, R, hj, .inr ⟨m, hm, hp, hlt, unbufferRef_cut_frame (hms m (List.getElem?_mem hm)) hp hlt⟩⟩

theorem stream_prefix_decodes_control :
    (∀ m ∈ [controlMessage, controlMessage], m.message.body.inner.length+24 ≤ u32Max) ∧
    ∃ j R, unbufferN j (([controlMessage, controlMessage].flatMap frameBytes).take 60) =
        .ok ([controlMessage, controlMessage].take j) R ∧
      ((j = [controlMessage, controlMessage].length ∧ R = []) ∨
       ∃ m, [controlMessage, controlMessage][j]? = some m ∧ R <+: frameBytes m ∧
         R.length < (frameBytes m).length ∧
         SequencedMessage.unbufferRef R =
           if R.length < 4 then .err (.needMoreData (.atLeast (4-R.length))) R
           else .err (.needMoreData (.exactly ((frameBytes m).length-R.length))) (R.drop 4)) := by
  have hms : ∀ m ∈ [controlMessage, controlMessage], m.message.body.inner.length+24 ≤ u32Max := by
    decide
  exact ⟨hms, stream_prefix_decodes _ hms 60⟩

/-- A sender writing frames one after another into one destination writes
whole frames only: the longest run of them that fits, and then either all of
them fitted or it stops with `OutOfBuffer` at the first frame that does not,
having written nothing of it. What it wrote decodes back to exactly the
messages of that run, to the last byte. -/
theorem bufferAll_whole_frames (ms : List SequencedGenericMessage)
    (hms : ∀ m ∈ ms, m.message.body.inner.length+24 ≤ u32Max) (d : BufMut) :
    ∃ j W, W = (ms.take j).flatMap frameBytes ∧ W.length ≤ d.remainingMut ∧
      unbufferN j W = .ok (ms.take j) [] ∧
      ((j = ms.length ∧ bufferAll ms d = .ok () (d.write W)) ∨
       ∃ m, ms[j]? = some m ∧ d.remainingMut-W.length < (frameBytes m).length ∧
         bufferAll ms d = .err .outOfBuffer (d.write W)) := by
  induction ms generalizing d with
  | nil => exact ⟨0, [], rfl, by simp, rfl, .inl ⟨rfl, by simp [bufferAll]⟩⟩
  | cons m ms ih =>
    have hm := hms m (by simp)
    have hL : m.message.body.inner.length ≤ isizeMax := by simp only [u32Max, isizeMax] at hm ⊢; omega
    by_cases hr : (frameBytes m).length ≤ d.remainingMut
    · -- the first frame goes in whole; the rest is the same problem with less room
      obtain ⟨j, W, rfl, hW, hd, hR⟩ := ih (fun x hx => hms x (by simp [hx])) (d.write (frameBytes m))
      simp only [BufMut.write_remainingMut] at hW hR
      have hb : bufferAll (m :: ms) d = bufferAll ms (d.write (frameBytes m)) := by
        simp [bufferAll, bufferRef_of_le hL hr]
      refine ⟨j+1, _, rfl, ?_, unbufferN_succ_frame hm j _ [] _ hd, ?_⟩
      · simp only [List.take_succ_cons, List.flatMap_cons, List.length_append]
        omega
      rw [hb, List.take_succ_cons, List.flatMap_cons, ← BufMut.write_append]
      rcases hR with ⟨rfl, hb'⟩ | ⟨m', hm', hlt, hb'⟩
      · exact .inl ⟨rfl, hb'⟩
      · exact .inr ⟨m', by simpa using hm', by simp only [List.length_append]; omega, hb'⟩
    · -- the first frame does not fit, and nothing is written
      have hb : bufferAll (m :: ms) d = .err .outOfBuffer d := by
        simp [bufferAll, bufferRef_of_lt hL (not_le.mp hr)]
      exact ⟨0, [], rfl, by simp, rfl, .inr ⟨m, by simp, by simp; omega, by simpa using hb⟩⟩

theorem bufferAll_whole_frames_control :
    (∀ m ∈ [controlMessage, controlMessage], m.message.body.inner.length+24 ≤ u32Max) ∧
    ∃ j W, W = ([controlMessage, controlMessage].take j).flatMap frameBytes ∧
      W.length ≤ BufMut.remainingMut ⟨[], 60⟩ ∧
      unbufferN j W = .ok ([controlMessage, controlMessage].take j) [] ∧
      ((j = [controlMessage, controlMessage].length ∧
          bufferAll [controlMessage, controlMessage] ⟨[], 60⟩ = .ok () (BufMut.write ⟨[], 60⟩ W)) ∨
       ∃ m, [controlMessage, controlMessage][j]? = some m ∧
         BufMut.remainingMut ⟨[], 60⟩-W.length < (frameBytes m).length ∧
         bufferAll [controlMessage, controlMessage] ⟨[], 60⟩ = .err .outOfBuffer (BufMut.write ⟨[], 60⟩ W)) := by
  have hms : ∀ m ∈ [controlMessage, controlMessage], m.message.body.inner.length+24 ≤ u32Max := by
    decide
  exact ⟨hms, bufferAll_whole_frames _ hms ⟨[], 60⟩⟩

end VrpnWire.PartialStreams
