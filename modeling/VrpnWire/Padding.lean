import VrpnWire.Basic

/-!
# Message sizes and padding

All size arithmetic of a frame goes through `MessageSize`: a padded header of
24 bytes, whose last four hold the sequence number, then the body padded to
`ALIGN`. The length field on the wire is the padded header plus the unpadded
body, cast to `u32`. The tests compare this against a transcription of the C++
`vrpn_Endpoint::marshall_message` arithmetic, which is modelled here as well.
-/

set_option autoImplicit false

namespace VrpnWire.Padding

open VrpnWire.Basic

/-- Modelled from the spec: `constants::ALIGN`. -/
def align : Nat := 8

def computePadding (len : Nat) : Nat :=
  let remainder := len % align
  if remainder ≠ 0 then align-remainder else 0

def padded (len : Nat) : Option Nat := usizeAdd len (computePadding len)

structure MessageSize where
  unpaddedBodySize : Nat
  deriving DecidableEq, Repr

abbrev LengthField := BitVec 32

namespace MessageSize

def unpaddedHeaderSize : Nat := 5*4

def fromUnpaddedBodySize (unpaddedBodySize : Nat) : MessageSize := ⟨unpaddedBodySize⟩

def fromUnpaddedMessageSize (unpaddedMessageSize : Nat) : Option MessageSize := do
  let b ← usizeSub unpaddedMessageSize unpaddedHeaderSize
  pure (fromUnpaddedBodySize b)

def fromLengthField (lengthField : LengthField) : Option MessageSize := do
  let h ← padded unpaddedHeaderSize
  let b ← usizeSub lengthField.toNat h
  pure (fromUnpaddedBodySize b)

def lengthField (s : MessageSize) : Option LengthField := do
  let h ← padded unpaddedHeaderSize
  let t ← usizeAdd s.unpaddedBodySize h
  pure (BitVec.ofNat 32 t)

def paddedBodySize (s : MessageSize) : Option Nat := padded s.unpaddedBodySize

def bodyPadding (s : MessageSize) : Nat := computePadding s.unpaddedBodySize

def paddedMessageSize (s : MessageSize) : Option Nat := do
  let b ← s.paddedBodySize
  let h ← padded unpaddedHeaderSize
  usizeAdd b h

end MessageSize

theorem computePadding_lt (n : Nat) : computePadding n < align := by
  simp only [computePadding, align]
  split <;> omega

theorem add_computePadding_mod (n : Nat) : (n+computePadding n) % align = 0 := by
  simp only [computePadding, align]
  split <;> omega

theorem computePadding_add_header (n : Nat) : computePadding (24+n) = computePadding n := by
  simp only [computePadding, align]
  split_ifs <;> omega

theorem padded_of_le {n : Nat} (h : n ≤ usizeMax-7) : padded n = some (n+computePadding n) := by
  have := computePadding_lt n
  simp only [align, usizeMax] at this h
  exact usizeAdd_of_le (by simp only [usizeMax]; omega)

theorem padded_header : padded MessageSize.unpaddedHeaderSize = some 24 := by decide

namespace MessageSize

variable {n : Nat}

@[simp] theorem bodyPadding_fromUnpaddedBodySize :
    (fromUnpaddedBodySize n).bodyPadding = computePadding n := rfl

theorem paddedMessageSize_of_le (h : n ≤ usizeMax-31) :
    (fromUnpaddedBodySize n).paddedMessageSize = some (n+computePadding n+24) := by
  have := computePadding_lt n
  simp only [align, usizeMax] at this h
  simp only [paddedMessageSize, paddedBodySize, fromUnpaddedBodySize,
    padded_of_le (n := n) (by simp only [usizeMax]; omega), padded_header, Option.bind_eq_bind, Option.some_bind]
  exact usizeAdd_of_le (by simp only [usizeMax]; omega)

theorem lengthField_of_le (h : n+24 ≤ usizeMax) :
    (fromUnpaddedBodySize n).lengthField = some (BitVec.ofNat 32 (n+24)) := by
  simp [lengthField, fromUnpaddedBodySize, padded_header, usizeAdd_of_le h]

theorem fromLengthField_of_le {f : LengthField} (h : 24 ≤ f.toNat) :
    fromLengthField f = some (fromUnpaddedBodySize (f.toNat-24)) := by
  simp [fromLengthField, padded_header, usizeSub_of_le h]

theorem fromLengthField_of_lt {f : LengthField} (h : f.toNat < 24) : fromLengthField f = none := by
  simp [fromLengthField, padded_header, usizeSub_of_lt h]

end MessageSize

open MessageSize

/-- Reading a length field of at least the padded header size and writing it
back gives the same field; writing the length field of a body that fits in a
`u32` frame and reading it back gives the same size. -/
theorem length_field_round_trip :
    (∀ f : LengthField, 24 ≤ f.toNat → (fromLengthField f).bind lengthField = some f) ∧
    ∀ n, 24+n ≤ u32Max →
      (fromUnpaddedBodySize n).lengthField.bind fromLengthField = some (fromUnpaddedBodySize n) := by
  constructor
  · intro f hf
    have hf' := f.isLt
    rw [fromLengthField_of_le hf, Option.some_bind,
      lengthField_of_le (by simp only [usizeMax]; omega), Nat.sub_add_cancel hf, BitVec.ofNat_toNat,
      BitVec.setWidth_eq]
  · intro n hn
    have hb : (BitVec.ofNat 32 (n+24)).toNat = n+24 := by
      rw [BitVec.toNat_ofNat, Nat.mod_eq_of_lt (by simp only [u32Max] at hn; omega)]
    rw [lengthField_of_le (by simp only [u32Max, usizeMax] at hn ⊢; omega), Option.some_bind,
      fromLengthField_of_le (by omega), hb, Nat.add_sub_cancel]

theorem length_field_truncates :
    (fromUnpaddedBodySize 4294967296).lengthField.bind fromLengthField = some (fromUnpaddedBodySize 0) ∧
    fromUnpaddedBodySize 0 ≠ fromUnpaddedBodySize 4294967296 := by
  refine ⟨?_, by simp [fromUnpaddedBodySize]⟩
  rw [lengthField_of_le (by simp [usizeMax]), Option.some_bind,
    fromLengthField_of_le (by simp [BitVec.toNat_ofNat])]
  simp [BitVec.toNat_ofNat]

structure Lengths where
  headerLen : Nat
  totalLen : Nat
  lenField : BitVec 32
  deriving DecidableEq, Repr

def roundUp (x : Nat) : Option Nat := if x % align ≠ 0 then usizeAdd x (align-x % align) else some x

/-- A literal transcription of the C++ `vrpn_Endpoint::marshall_message`
arithmetic, used as ground truth by the tests. -/
def transcribedPaddingFunction (len : Nat) : Option Lengths := do
  let ceilLen ← roundUp len
  let headerLen ← roundUp (5*4)
  let totalLen ← usizeAdd headerLen ceilLen
  let lenField ← usizeAdd headerLen len
  pure ⟨headerLen, totalLen, BitVec.ofNat 32 lenField⟩

theorem roundUp_eq_padded {x : Nat} (h : x ≤ usizeMax) : roundUp x = padded x := by
  simp only [roundUp, padded, computePadding]
  split_ifs
  · rfl
  · rw [usizeAdd_of_le (by omega), Nat.add_zero]

theorem transcribedPaddingFunction_of_le {n : Nat} (h : n ≤ usizeMax-31) :
    transcribedPaddingFunction n =
      some ⟨24, 24+(n+computePadding n), BitVec.ofNat 32 (24+n)⟩ := by
  have := computePadding_lt n
  simp only [align, usizeMax] at this h
  have hh : roundUp (5*4) = some 24 := by decide
  simp [transcribedPaddingFunction, hh, roundUp_eq_padded (x := n) (by simp only [usizeMax]; omega),
    padded_of_le (n := n) (by simp only [usizeMax]; omega),
    usizeAdd_of_le (show 24+(n+computePadding n) ≤ usizeMax by simp only [usizeMax]; omega),
    usizeAdd_of_le (show 24+n ≤ usizeMax by simp only [usizeMax]; omega)]

/-- `MessageSize` agrees with the transcribed C++ arithmetic on every body
size that leaves room in `usize` for padding and header. -/
theorem message_size_matches_reference (n : Nat) (h : n ≤ usizeMax-31) :
    ∃ t, transcribedPaddingFunction n = some t ∧
      (fromUnpaddedBodySize n).lengthField = some t.lenField ∧
      (fromUnpaddedBodySize n).paddedMessageSize = some t.totalLen ∧
      t.totalLen % align = 0 ∧
      (fromUnpaddedBodySize n).paddedBodySize = some (n+(fromUnpaddedBodySize n).bodyPadding) ∧
      (fromUnpaddedBodySize n).bodyPadding < align ∧
      (usizeAdd 24 n).bind padded = some t.totalLen := by
  have hc := computePadding_lt n
  have hm := add_computePadding_mod n
  simp only [align] at hc hm
  have hn : n ≤ 18446744073709551584 := by simpa only [usizeMax] using h
  refine ⟨_, transcribedPaddingFunction_of_le h, ?_, ?_, ?_, ?_, computePadding_lt n, ?_⟩
  · rw [lengthField_of_le (by simp only [usizeMax]; omega), Nat.add_comm]
  · rw [paddedMessageSize_of_le h]
    dsimp only
    congr 1
    omega
  · show (24+(n+computePadding n)) % 8 = 0
    omega
  · exact padded_of_le (n := n) (by simp only [usizeMax]; omega)
  · rw [usizeAdd_of_le (by simp only [usizeMax]; omega), Option.some_bind,
      padded_of_le (by simp only [usizeMax]; omega), computePadding_add_header]
    dsimp only
    congr 1
    omega

theorem message_size_matches_reference_seventeen :
    17 ≤ usizeMax-31 ∧ ∃ t, transcribedPaddingFunction 17 = some t ∧
      (fromUnpaddedBodySize 17).lengthField = some t.lenField ∧
      (fromUnpaddedBodySize 17).paddedMessageSize = some t.totalLen ∧
      t.totalLen % align = 0 ∧
      (fromUnpaddedBodySize 17).paddedBodySize = some (17+(fromUnpaddedBodySize 17).bodyPadding) ∧
      (fromUnpaddedBodySize 17).bodyPadding < align ∧
      (usizeAdd 24 17).bind padded = some t.totalLen :=
  ⟨by decide, message_size_matches_reference 17 (by decide)⟩

example : (fromUnpaddedBodySize 17).paddedMessageSize = some 48 ∧
    (fromUnpaddedBodySize 17).lengthField = some 41 ∧ fromLengthField 37 = some (fromUnpaddedBodySize 13) := by
  decide

end VrpnWire.Padding
