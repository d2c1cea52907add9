import VrpnWire.Frame

/-!
# Writing one frame

`bufferRef` checks the room for the whole frame once, up front. With less room
it fails with `OutOfBuffer` and writes nothing; otherwise every field write
finds room, and the frame goes out whole: the wire layout of the spec, a
multiple of `ALIGN` bytes long.
-/

set_option autoImplicit false

namespace VrpnWire.FrameEncoder

open VrpnWire.Basic VrpnWire.ByteOrder VrpnWire.Buffers VrpnWire.Types VrpnWire.Padding
open VrpnWire.Frame MessageSize

/-- The frame of the spec's wire format: length field, seconds, microseconds,
sender, type and sequence number, each four bytes big-endian, then the body
and zeros to the next multiple of `ALIGN`. -/
def frameBytes (m : SequencedGenericMessage) : List UInt8 :=
  beBytes 4 (m.message.body.inner.length+24) ++
  beBytes 4 m.message.header.time.sec.toNat ++ beBytes 4 m.message.header.time.usec.toNat ++
  beBytes 4 m.message.header.sender.get.toNat ++ beBytes 4 m.message.header.messageType.get.toNat ++
  beBytes 4 m.sequenceNumber.get.toNat ++ m.message.body.inner ++
  List.replicate (computePadding m.message.body.inner.length) 0

theorem length_frameBytes (m : SequencedGenericMessage) :
    (frameBytes m).length =
      m.message.body.inner.length+computePadding m.message.body.inner.length+24 := by
  simp [frameBytes]
  omega

variable {m : SequencedGenericMessage} {d : BufMut}

theorem bufferRef_of_le (hL : m.message.body.inner.length ≤ isizeMax)
    (hr : (frameBytes m).length ≤ d.remainingMut) :
    m.bufferRef d = .ok () (d.write (frameBytes m)) := by
  rw [length_frameBytes] at hr
  simp only [isizeMax] at hL
  simp [SequencedMessage.bufferRef, genericMessageSize,
    paddedMessageSize_of_le (show m.message.body.inner.length ≤ usizeMax-31 by simp only [usizeMax]; omega),
    lengthField_of_le (show m.message.body.inner.length+24 ≤ usizeMax by simp only [usizeMax]; omega)]
  rw [if_neg (by omega)]
  simp (disch := (try simp only [BufMut.write_remainingMut, length_beBytes, List.length_append,
      List.length_cons, List.length_nil]); omega) [bufferBits_of_le, TimeVal.bufferRef_of_le,
    SenderId.bufferRef, TypeId.bufferRef, SequenceNumber.bufferRef, bufferWrapped_of_le,
    BufMut.putSlice_of_le, BufMut.putZeros_of_le, BufMut.write_append]
  have hl : beBytes 4 ((m.message.body.inner.length+24) % 4294967296) =
      beBytes 4 (m.message.body.inner.length+24) := beBytes_mod 4 _
  simp [hl, frameBytes]

theorem bufferRef_of_lt (hL : m.message.body.inner.length ≤ isizeMax)
    (hr : d.remainingMut < (frameBytes m).length) :
    m.bufferRef d = .err .outOfBuffer d := by
  rw [length_frameBytes] at hr
  simp only [isizeMax] at hL
  simp [SequencedMessage.bufferRef, genericMessageSize, hr,
    paddedMessageSize_of_le (show m.message.body.inner.length ≤ usizeMax-31 by simp only [usizeMax]; omega)]

/-- The one up-front check decides everything: with less room than the padded
frame `bufferRef` writes nothing, with enough it writes the whole frame, whose
length is the padded message size, a multiple of `ALIGN`. -/
theorem bufferRef_all_or_nothing (m : SequencedGenericMessage) (d : BufMut)
    (hL : m.message.body.inner.length ≤ isizeMax) :
    (genericMessageSize m).paddedMessageSize = some (frameBytes m).length ∧
    (frameBytes m).length % align = 0 ∧
    (d.remainingMut < (frameBytes m).length → m.bufferRef d = .err .outOfBuffer d) ∧
    ((frameBytes m).length ≤ d.remainingMut → m.bufferRef d = .ok () (d.write (frameBytes m))) := by
  have hm := add_computePadding_mod m.message.body.inner.length
  simp only [align] at hm
  refine ⟨?_, ?_, bufferRef_of_lt hL, bufferRef_of_le hL⟩
  · rw [genericMessageSize, length_frameBytes,
      paddedMessageSize_of_le (by simp only [isizeMax, usizeMax] at hL ⊢; omega)]
  · rw [length_frameBytes, align]
    omega

def controlMessage : SequencedGenericMessage :=
  SequencedMessage.new ⟨0, 0⟩ ⟨0xFFFFFFFF⟩ ⟨0⟩ ⟨List.replicate 17 0x41⟩ ⟨0⟩

theorem controlMessage_all_or_nothing :
    controlMessage.message.body.inner.length ≤ isizeMax ∧
    ((genericMessageSize controlMessage).paddedMessageSize = some (frameBytes controlMessage).length ∧
    (frameBytes controlMessage).length % align = 0 ∧
    (BufMut.remainingMut ⟨[], 47⟩ < (frameBytes controlMessage).length →
      controlMessage.bufferRef ⟨[], 47⟩ = .err .outOfBuffer ⟨[], 47⟩) ∧
    ((frameBytes controlMessage).length ≤ BufMut.remainingMut ⟨[], 47⟩ →
      controlMessage.bufferRef ⟨[], 47⟩ = .ok () (BufMut.write ⟨[], 47⟩ (frameBytes controlMessage)))) :=
  ⟨by decide, bufferRef_all_or_nothing controlMessage ⟨[], 47⟩ (by decide)⟩

end VrpnWire.FrameEncoder
