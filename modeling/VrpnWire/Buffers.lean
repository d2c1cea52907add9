import VrpnWire.Basic
import VrpnWire.ByteOrder

/-!
# Byte buffers and the primitive codecs

`Bytes` is the view of the bytes still to be read. A `BufMut` destination is
the bytes written so far with the room left (`remaining_mut`); its `put_*`
methods assert that there is room. The `Buffer` and `Unbuffer` impls of the
primitives live outside the repository's files and are modelled from the spec.
-/

set_option autoImplicit false

namespace VrpnWire.Buffers

open VrpnWire.Basic VrpnWire.ByteOrder

abbrev Bytes := List UInt8

def len : Step Bytes Nat := fun b => .ok b.length b

def splitTo (n : Nat) : Step Bytes Bytes := fun b =>
  if n ≤ b.length then .ok (b.take n) (b.drop n) else .panic

@[simp] theorem len_apply (b : Bytes) : len b = .ok b.length b := rfl

theorem splitTo_of_le {n : Nat} {b : Bytes} (h : n ≤ b.length) :
    splitTo n b = .ok (b.take n) (b.drop n) := if_pos h

def word (w : Nat) (b : Bytes) (i : Nat) : BitVec w :=
  BitVec.ofNat w (beValue ((b.drop i).take (w/8)))

structure BufMut where
  written : List UInt8
  remainingMut : Nat
  deriving DecidableEq, Repr

namespace BufMut

def write (d : BufMut) (src : List UInt8) : BufMut :=
  ⟨d.written ++ src, d.remainingMut-src.length⟩

def remaining : Step BufMut Nat := fun d => .ok d.remainingMut d

def putSlice (src : List UInt8) : Step BufMut Unit := fun d =>
  if src.length ≤ d.remainingMut then .ok () (d.write src) else .panic

def putU8 (v : UInt8) : Step BufMut Unit := putSlice [v]

def putZeros : Nat → Step BufMut Unit
  | 0 => pure ()
  | n+1 => do putU8 0; putZeros n

@[simp] theorem write_nil (d : BufMut) : d.write [] = d := by simp [write]

@[simp] theorem write_remainingMut (d : BufMut) (src : List UInt8) :
    (d.write src).remainingMut = d.remainingMut-src.length := rfl

@[simp] theorem remaining_apply (d : BufMut) : remaining d = .ok d.remainingMut d := rfl

theorem write_append (d : BufMut) (a c : List UInt8) :
    (d.write a).write c = d.write (a ++ c) := by
  simp [write, Nat.sub_sub]

theorem putSlice_of_le {src : List UInt8} {d : BufMut} (h : src.length ≤ d.remainingMut) :
    putSlice src d = .ok () (d.write src) := if_pos h

theorem putZeros_of_le (n : Nat) (d : BufMut) (h : n ≤ d.remainingMut) :
    putZeros n d = .ok () (d.write (List.replicate n 0)) := by
  induction n generalizing d with
  | zero => simp [putZeros]
  | succ n ih =>
    have hs : putU8 0 d = .ok () (d.write [0]) := putSlice_of_le (by simp; omega)
    have hr := ih (d.write [0]) (by simp [write]; omega)
    simp only [putZeros, Step.bind_apply, hs, Outcome.ok_bind, hr, write_append]
    rfl

end BufMut

/-- Modelled from the spec: the `Unbuffer` impl of a `w`-bit big-endian
primitive (`u32`, `i32`), which needs `w/8` bytes and reports the exact
shortfall without consuming anything when they are not there. -/
def unbufferBits (w : Nat) : Step Bytes (BitVec w) := fun b =>
  if b.length < w/8 then .err (.needMoreData (.exactly (w/8-b.length))) b
  else .ok (word w b 0) (b.drop (w/8))

/-- Modelled from the spec: the matching `Buffer` impl, which fails with
`OutOfBuffer` and writes nothing when there is no room. -/
def bufferBits {w : Nat} (x : BitVec w) : Step BufMut Unit := fun d =>
  if d.remainingMut < w/8 then .err .outOfBuffer d else BufMut.putSlice (beBytes (w/8) x.toNat) d

/-- Modelled from the spec: `map_exactly_err_to_at_least`. -/
def mapExactlyErrToAtLeast {σ α : Type} (x : Step σ α) : Step σ α := fun s =>
  match x s with
  | .err (.needMoreData (.exactly n)) s' => .err (.needMoreData (.atLeast n)) s'
  | o => o

section Primitive

variable {w : Nat}

theorem unbufferBits_of_le {b : Bytes} (h : w/8 ≤ b.length) :
    unbufferBits w b = .ok (word w b 0) (b.drop (w/8)) := if_neg (by omega)

theorem unbufferBits_of_lt {b : Bytes} (h : b.length < w/8) :
    unbufferBits w b = .err (.needMoreData (.exactly (w/8-b.length))) b := if_pos h

theorem bufferBits_of_le (x : BitVec w) {d : BufMut} (h : w/8 ≤ d.remainingMut) :
    bufferBits x d = .ok () (d.write (beBytes (w/8) x.toNat)) := by
  rw [bufferBits, if_neg (by omega), BufMut.putSlice_of_le (by simpa using h)]

theorem word_drop (b : Bytes) (i j : Nat) : word w (b.drop i) j = word w b (i+j) := by
  simp [word, List.drop_drop]

theorem word_beBytes (hw : w % 8 = 0) (x : BitVec w) (rest : Bytes) :
    word w (beBytes (w/8) x.toNat ++ rest) 0 = x := by
  simp [word, List.take_left' (length_beBytes _ _), ofNat_beValue_beBytes hw]

theorem beBytes_word (hw : w % 8 = 0) (b : Bytes) (i : Nat) (h : i+w/8 ≤ b.length) :
    beBytes (w/8) (word w b i).toNat = (b.drop i).take (w/8) :=
  beBytes_toNat_ofNat hw _ (by simp; omega)

@[simp] theorem mapExactlyErrToAtLeast_ok {σ α : Type} {x : Step σ α} {s s' : σ} {a : α}
    (h : x s = .ok a s') : mapExactlyErrToAtLeast x s = .ok a s' := by
  simp [mapExactlyErrToAtLeast, h]

end Primitive

end VrpnWire.Buffers
