import VrpnWire.Buffers

/-!
# Identities, sequence numbers and timestamps

`TypeId`, `SenderId` and `SequenceNumber` are `WrappedConstantSize` newtypes:
they go on the wire as the 32-bit integer they wrap. `TimeVal` and its codecs
are outside the repository's files; the spec fixes its wire form, seconds and
then microseconds as two big-endian `i32`.
-/

set_option autoImplicit false

namespace VrpnWire.Types

open VrpnWire.Basic VrpnWire.ByteOrder VrpnWire.Buffers

abbrev IdType := BitVec 32

structure TypeId where
  get : IdType
  deriving DecidableEq, Repr

structure SenderId where
  get : IdType
  deriving DecidableEq, Repr

structure SequenceNumber where
  get : BitVec 32
  deriving DecidableEq, Repr

/-- Modelled from the spec: `TimeVal`, on the wire as seconds then microseconds. -/
structure TimeVal where
  sec : BitVec 32
  usec : BitVec 32
  deriving DecidableEq, Repr

def TypeId.isSystemMessage (t : TypeId) : Bool := decide (t.get.toInt < 0)

inductive RangedId where
  | belowZero (raw : IdType)
  | inArray (raw : IdType)
  | aboveArray (raw : IdType)
  deriving DecidableEq, Repr

def determineIdRange {T : Type} (get : T → IdType) (id : T) (len : Nat) : RangedId :=
  let raw := get id
  if raw.toInt < 0 then .belowZero raw
  else if raw.toInt.toNat < len then .inArray raw else .aboveArray raw

section Wrapped

variable {T : Type}

/-- Modelled from the spec: the blanket `Unbuffer` impl of `WrappedConstantSize`. -/
def unbufferWrapped (new : BitVec 32 → T) : Step Bytes T := do
  let v ← unbufferBits 32
  pure (new v)

/-- Modelled from the spec: the blanket `Buffer` impl of `WrappedConstantSize`. -/
def bufferWrapped (get : T → BitVec 32) (t : T) : Step BufMut Unit := bufferBits (get t)

theorem unbufferWrapped_of_le (new : BitVec 32 → T) {b : Bytes} (h : 4 ≤ b.length) :
    unbufferWrapped new b = .ok (new (word 32 b 0)) (b.drop 4) := by
  simp [unbufferWrapped, unbufferBits_of_le (w := 32) h]

theorem bufferWrapped_of_le (get : T → BitVec 32) (t : T) {d : BufMut} (h : 4 ≤ d.remainingMut) :
    bufferWrapped get t d = .ok () (d.write (beBytes 4 (get t).toNat)) :=
  bufferBits_of_le (w := 32) _ h

end Wrapped

def TypeId.unbufferRef : Step Bytes TypeId := unbufferWrapped TypeId.mk
def SenderId.unbufferRef : Step Bytes SenderId := unbufferWrapped SenderId.mk
def SequenceNumber.unbufferRef : Step Bytes SequenceNumber := unbufferWrapped SequenceNumber.mk

def TypeId.bufferRef : TypeId → Step BufMut Unit := bufferWrapped TypeId.get
def SenderId.bufferRef : SenderId → Step BufMut Unit := bufferWrapped SenderId.get
def SequenceNumber.bufferRef : SequenceNumber → Step BufMut Unit := bufferWrapped SequenceNumber.get

/-- Modelled from the spec: `TimeVal::unbuffer_ref`. -/
def TimeVal.unbufferRef : Step Bytes TimeVal := do
  let sec ← unbufferBits 32
  let usec ← unbufferBits 32
  pure ⟨sec, usec⟩

/-- Modelled from the spec: `TimeVal::buffer_ref`. -/
def TimeVal.bufferRef (t : TimeVal) : Step BufMut Unit := do
  bufferBits t.sec
  bufferBits t.usec

theorem TimeVal.unbufferRef_of_le {b : Bytes} (h : 8 ≤ b.length) :
    TimeVal.unbufferRef b = .ok ⟨word 32 b 0, word 32 b 4⟩ (b.drop 8) := by
  have h2 : 4 ≤ (b.drop 4).length := by simp; omega
  simp [TimeVal.unbufferRef, unbufferBits_of_le (w := 32) (by omega : 4 ≤ b.length),
    unbufferBits_of_le (w := 32) h2, word_drop, List.drop_drop]

theorem TimeVal.bufferRef_of_le (t : TimeVal) {d : BufMut} (h : 8 ≤ d.remainingMut) :
    t.bufferRef d = .ok () (d.write (beBytes 4 t.sec.toNat ++ beBytes 4 t.usec.toNat)) := by
  have h2 : 4 ≤ (d.write (beBytes 4 t.sec.toNat)).remainingMut := by simp [BufMut.write]; omega
  simp [TimeVal.bufferRef, bufferBits_of_le (w := 32) t.sec (by omega : 4 ≤ d.remainingMut),
    bufferBits_of_le (w := 32) t.usec h2, BufMut.write_append]

end VrpnWire.Types
