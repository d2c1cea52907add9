import VrpnWire.FrameStream

/-!
# Typed message bodies

A handler turns a generic message into a typed one with `try_from_generic`:
the type's `Unbuffer` impl decodes a copy of the body, and bytes it leaves
over are an error naming both lengths. A sender goes the other way with
`try_into_generic`, which buffers the body into a buffer of its own. The
typed impls are outside the repository's files, so a body type comes with
its codec as a parameter. Whenever that codec reads back what it writes, a
typed message survives the whole way: made generic, framed, decoded and made
typed again.
-/

set_option autoImplicit false

namespace VrpnWire.TypedMessage

open VrpnWire.Basic VrpnWire.ByteOrder VrpnWire.Buffers VrpnWire.Types VrpnWire.Frame
open VrpnWire.FrameEncoder VrpnWire.FrameStream

/-- The `Unbuffer` impl of a typed body and `allocate_and_buffer` of its
`Buffer` impl, which writes the body into a fresh buffer of its own size.
A call that borrows no buffer hands back `()`. -/
structure BodyCodec (T : Type) where
  unbufferRef : Step Bytes T
  allocateAndBuffer : T → Outcome Unit Bytes

def BodyCodec.RoundTrips {T : Type} (c : BodyCodec T) : Prop :=
  ∀ t bytes, c.allocateAndBuffer t = .ok bytes () → c.unbufferRef bytes = .ok t []

section Conversions

variable {T : Type} (genericParseErr : String → Error)

def mapNeedMoreErrToGenericParseErr {σ α : Type} (msg : String) (x : Step σ α) : Step σ α := fun s =>
  match x s with
  | .err (.needMoreData _) s' => .err (genericParseErr msg) s'
  | o => o

def unconsumedError (indicated remaining : Nat) : Error :=
  .otherMessage ("message body length was indicated as " ++ toString indicated ++ ", but " ++
    toString remaining ++ " bytes remain unconsumed")

def Message.tryFromGeneric (c : BodyCodec T) (msg : Message GenericBody) : Outcome Unit (Message T) :=
  match mapNeedMoreErrToGenericParseErr genericParseErr "parsing message body" c.unbufferRef
      msg.body.inner with
  | .ok body buf =>
    if buf.length > 0 then .err (unconsumedError msg.body.inner.length buf.length) ()
    else .ok ⟨msg.header, body⟩ ()
  | .err e _ => .err e ()
  | .panic => .panic

def Message.tryIntoGeneric (c : BodyCodec T) (m : Message T) : Outcome Unit (Message GenericBody) :=
  (c.allocateAndBuffer m.body).bind fun body => pure ⟨m.header, ⟨body⟩⟩

def unbufferTypedMessageBody (c : BodyCodec T) (msg : Message GenericBody) : Outcome Unit (Message T) :=
  Message.tryFromGeneric genericParseErr c msg

def makeSequencedMessageBodyGeneric (c : BodyCodec T) (msg : SequencedMessage T) :
    Outcome Unit SequencedGenericMessage :=
  (Message.tryIntoGeneric c msg.message).bind fun g => pure ⟨g, msg.sequenceNumber⟩

theorem makeSequencedMessageBodyGeneric_ok {c : BodyCodec T} {msg : SequencedMessage T}
    {g : SequencedGenericMessage} (hg : makeSequencedMessageBodyGeneric c msg = .ok g ()) :
    ∃ bytes, c.allocateAndBuffer msg.message.body = .ok bytes () ∧
      g = ⟨⟨msg.message.header, ⟨bytes⟩⟩, msg.sequenceNumber⟩ := by
  simp only [makeSequencedMessageBodyGeneric, Message.tryIntoGeneric] at hg
  rcases ha : c.allocateAndBuffer msg.message.body with ⟨bytes, ⟨⟩⟩ | ⟨e, ⟨⟩⟩ | _ <;>
    rw [ha] at hg <;> cases hg
  exact ⟨bytes, rfl, rfl⟩

theorem tryFromGeneric_of_roundTrips {c : BodyCodec T} (hc : c.RoundTrips) (h : MessageHeader) (t : T)
    {bytes : Bytes} (hb : c.allocateAndBuffer t = .ok bytes ()) :
    Message.tryFromGeneric genericParseErr c ⟨h, ⟨bytes⟩⟩ = .ok ⟨h, t⟩ () := by
  simp [Message.tryFromGeneric, mapNeedMoreErrToGenericParseErr, hc t bytes hb]

/-- A typed message made generic, framed into a fresh buffer, decoded and
made typed again is the message it was, sequence number included, whenever
its codec reads back what it writes and its body fits a frame. -/
theorem typed_message_round_trip (c : BodyCodec T) (hc : c.RoundTrips) (msg : SequencedMessage T)
    (g : SequencedGenericMessage) (hg : makeSequencedMessageBodyGeneric c msg = .ok g ())
    (hL : g.message.body.inner.length+24 ≤ u32Max) (r : Nat) (hr : (frameBytes g).length ≤ r) :
    ∃ d, g.bufferRef ⟨[], r⟩ = .ok () d ∧ ∃ g', SequencedMessage.unbufferRef d.written = .ok g' [] ∧
      unbufferTypedMessageBody genericParseErr c g'.message = .ok msg.message () ∧
      g'.sequenceNumber = msg.sequenceNumber := by
  obtain ⟨bytes, hb, rfl⟩ := makeSequencedMessageBodyGeneric_ok hg
  refine ⟨_, bufferRef_of_le (by simp only [u32Max, isizeMax] at hL ⊢; omega) hr, _,
    by simpa [BufMut.write] using unbufferRef_frame hL [], ?_, rfl⟩
  exact tryFromGeneric_of_roundTrips genericParseErr hc _ _ hb

end Conversions

def u32Codec : BodyCodec (BitVec 32) := ⟨unbufferBits 32, fun t => .ok (beBytes 4 t.toNat) ()⟩

theorem u32Codec_roundTrips : u32Codec.RoundTrips := by
  rintro t bytes ⟨⟩
  have hw : word 32 (beBytes 4 t.toNat) 0 = t := by simpa using word_beBytes (w := 32) (by decide) t []
  simpa [u32Codec, hw, List.drop_eq_nil_of_le] using unbufferBits_of_le (w := 32) (b := beBytes 4 t.toNat) (by simp)

theorem typed_message_round_trip_u32 :
    makeSequencedMessageBodyGeneric u32Codec ⟨⟨⟨⟨0, 0⟩, ⟨3⟩, ⟨0⟩⟩, 7⟩, ⟨1⟩⟩ =
      .ok ⟨⟨⟨⟨0, 0⟩, ⟨3⟩, ⟨0⟩⟩, ⟨[0,0,0,7]⟩⟩, ⟨1⟩⟩ () ∧
    [0,0,0,7].length+24 ≤ u32Max ∧ (frameBytes ⟨⟨⟨⟨0, 0⟩, ⟨3⟩, ⟨0⟩⟩, ⟨[0,0,0,7]⟩⟩, ⟨1⟩⟩).length ≤ 32 ∧
    ∃ d, SequencedMessage.bufferRef ⟨⟨⟨⟨0, 0⟩, ⟨3⟩, ⟨0⟩⟩, ⟨[0,0,0,7]⟩⟩, ⟨1⟩⟩ ⟨[], 32⟩ = .ok () d ∧
      ∃ g', SequencedMessage.unbufferRef d.written = .ok g' [] ∧
      unbufferTypedMessageBody .otherMessage u32Codec g'.message = .ok ⟨⟨⟨0, 0⟩, ⟨3⟩, ⟨0⟩⟩, 7⟩ () ∧
      g'.sequenceNumber = ⟨1⟩ := by
  have hg : makeSequencedMessageBodyGeneric u32Codec ⟨⟨⟨⟨0, 0⟩, ⟨3⟩, ⟨0⟩⟩, 7⟩, ⟨1⟩⟩ =
      .ok ⟨⟨⟨⟨0, 0⟩, ⟨3⟩, ⟨0⟩⟩, ⟨[0,0,0,7]⟩⟩, ⟨1⟩⟩ () := rfl
  have hL : [0,0,0,7].length+24 ≤ u32Max := by decide
  have hr : (frameBytes ⟨⟨⟨⟨0, 0⟩, ⟨3⟩, ⟨0⟩⟩, ⟨[0,0,0,7]⟩⟩, ⟨1⟩⟩).length ≤ 32 := by decide
  exact ⟨hg, hL, hr, typed_message_round_trip .otherMessage u32Codec u32Codec_roundTrips _ _ hg hL 32 hr⟩

end VrpnWire.TypedMessage
