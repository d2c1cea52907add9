import VrpnWire.Types
import VrpnWire.Padding

/-!
# Messages and their frames

A sequenced generic message is a header, a body of raw bytes not yet decoded
by type, and a sequence number. On the wire it is one frame: the length field,
the time, the sender, the type and the sequence number, 24 bytes in all, then
the body and zeros up to the next multiple of `ALIGN`. `bufferRef` writes a
frame into a destination and `unbufferRef` reads one from the front of a buffer.
`SequencedMessage::new` is modelled with the time given, as the decoder calls
it; with `None` it reads the clock.
-/

set_option autoImplicit false

namespace VrpnWire.Frame

open VrpnWire.Basic VrpnWire.ByteOrder VrpnWire.Buffers VrpnWire.Types VrpnWire.Padding

structure MessageHeader where
  time : TimeVal
  messageType : TypeId
  sender : SenderId
  deriving DecidableEq, Repr

structure Message (T : Type) where
  header : MessageHeader
  body : T
  deriving DecidableEq, Repr

structure SequencedMessage (T : Type) where
  message : Message T
  sequenceNumber : SequenceNumber
  deriving DecidableEq, Repr

structure GenericBody where
  inner : Bytes
  deriving DecidableEq, Repr

abbrev SequencedGenericMessage := SequencedMessage GenericBody

def SequencedMessage.new {T : Type} (time : TimeVal) (messageType : TypeId) (sender : SenderId)
    (body : T) (sequenceNumber : SequenceNumber) : SequencedMessage T :=
  ⟨⟨⟨time, messageType, sender⟩, body⟩, sequenceNumber⟩

def genericMessageSize (msg : SequencedGenericMessage) : MessageSize :=
  MessageSize.fromUnpaddedBodySize msg.message.body.inner.length

def GenericBody.unbufferRef : Step Bytes GenericBody := fun buf => .ok ⟨buf⟩ []

@[simp] theorem runOn_unbufferRef (t s : Bytes) :
    mapExactlyErrToAtLeast (Step.runOn GenericBody.unbufferRef t) s = .ok (⟨t⟩, []) s := rfl

def GenericBody.bufferRef (body : GenericBody) : Step BufMut Unit := do
  let remaining ← BufMut.remaining
  if remaining < body.inner.length then Step.fail .outOfBuffer
  else BufMut.putSlice body.inner

def SequencedMessage.bufferRef (msg : SequencedGenericMessage) : Step BufMut Unit := do
  let size := genericMessageSize msg
  let total ← Step.orPanic size.paddedMessageSize
  let remaining ← BufMut.remaining
  if remaining < total then Step.fail .outOfBuffer
  else do
    let lengthField ← Step.orPanic size.lengthField
    bufferBits lengthField
    msg.message.header.time.bufferRef
    msg.message.header.sender.bufferRef
    msg.message.header.messageType.bufferRef
    msg.sequenceNumber.bufferRef
    BufMut.putSlice msg.message.body.inner
    BufMut.putZeros size.bodyPadding

def SequencedMessage.unbufferRef : Step Bytes SequencedGenericMessage := do
  let initialRemaining ← len
  let lengthField ← mapExactlyErrToAtLeast (unbufferBits 32)
  let size ← Step.orPanic (MessageSize.fromLengthField lengthField)
  let total ← Step.orPanic size.paddedMessageSize
  let expectedRemainingBytes ← Step.orPanic (usizeSub total 4)
  let remaining ← len
  if remaining < expectedRemainingBytes then
    Step.fail (.needMoreData (.exactly (expectedRemainingBytes-remaining)))
  else do
    let time ← TimeVal.unbufferRef
    let sender ← SenderId.unbufferRef
    let messageType ← TypeId.unbufferRef
    let sequenceNumber ← SequenceNumber.unbufferRef
    let remaining ← len
    let consumed ← Step.orPanic (usizeSub initialRemaining remaining)
    Step.assertEq (consumed % align) 0
    let bodyBuf ← splitTo size.unpaddedBodySize
    let (body, bodyBuf) ← mapExactlyErrToAtLeast (Step.runOn GenericBody.unbufferRef bodyBuf)
    Step.assertEq bodyBuf.length 0
    let _ ← splitTo size.bodyPadding
    pure (SequencedMessage.new time messageType sender body sequenceNumber)

end VrpnWire.Frame
