import VrpnWire.Basic
import VrpnWire.Serializer

/-!
# The serde deserializer

The `Deserializer` reads from any `Buf`. `PrimitiveSerde::check_size` reports
a shortfall without consuming; `get` reads big-endian and panics short of
bytes. `peek` reads through a `Take` of the input, and a `Take` of a `&mut`
buffer advances the buffer it wraps, so `peek` consumes exactly as `parse`
does. Shapes whose `deserialize_*` method is `unimplemented!()` panic.
-/

set_option autoImplicit false

namespace VrpnWire.Deserializer

open VrpnWire.Basic VrpnWire.ByteOrder VrpnWire.Serializer

class Buf (β : Type) where
  bytes : β → List UInt8
  advance : β → Nat → β

variable {β : Type} [Buf β]

def remaining (b : β) : Nat := (Buf.bytes b).length

instance : Buf (List UInt8) := ⟨id, fun b n => b.drop n⟩

structure Take (β : Type) where
  inner : β
  limit : Nat

instance : Buf (Take β) where
  bytes t := (Buf.bytes t.inner).take t.limit
  advance t n := ⟨Buf.advance t.inner n, t.limit-n⟩

/-- `self.input.take(limit)` over the `&mut` input, used once and dropped:
the input is left as the `Take` left its inner buffer. -/
def throughTake {α : Type} (limit : Nat) (x : Step (Take β) α) : Step β α := fun b =>
  match x ⟨b, limit⟩ with
  | .ok a t => .ok a t.inner
  | .err e t => .err e t.inner
  | .panic => .panic

def checkSize (p : Prim) : Step β Nat := fun b =>
  if remaining b < p.size then .err (.needMoreData (.atLeast (p.size-remaining b))) b
  else .ok p.size b

def get (p : Prim) : Step β (BitVec (8*p.size)) := fun b =>
  if remaining b < p.size then .panic
  else .ok (BitVec.ofNat _ (beValue ((Buf.bytes b).take p.size))) (Buf.advance b p.size)

def peek (p : Prim) : Step β (BitVec (8*p.size)) := do
  let size ← checkSize p
  throughTake size (get p)

def parse (p : Prim) : Step β (BitVec (8*p.size)) := do
  let _ ← checkSize p
  get p

def peekBool : Step β Bool := do
  let v ← peek .u32
  pure (v == 1)

def parseBool : Step β Bool := do
  let v ← parse .u32
  pure (v == 1)

def deserialize : (s : Shape) → Step β s.Val
  | .prim p => parse p
  | .bool => parseBool
  | .unit => pure ()
  | .unitStruct => pure ()
  | .newtypeStruct s => deserialize s
  | .tuple _ _ => fun _ => .panic

def fromBuf (s : Shape) : Step β s.Val := do
  let t ← deserialize s
  fun b => if 0 < remaining b then .err .trailingCharacters b else .ok t b

theorem checkSize_of_le {p : Prim} {b : β} (h : p.size ≤ remaining b) :
    (checkSize p : Step β Nat) b = .ok p.size b := if_neg (by omega)

theorem checkSize_of_lt {p : Prim} {b : β} (h : remaining b < p.size) :
    (checkSize p : Step β Nat) b = .err (.needMoreData (.atLeast (p.size-remaining b))) b := if_pos h

theorem peek_eq_parse (p : Prim) : (peek p : Step β _) = parse p := by
  funext b
  by_cases h : remaining b < p.size
  · simp [peek, parse, checkSize_of_lt h]
  · have ht : remaining (⟨b, p.size⟩ : Take β) = p.size := by
      simp only [remaining, Buf.bytes, List.length_take]
      simp only [remaining] at h
      omega
    simp [peek, parse, checkSize_of_le (not_lt.mp h), throughTake, get, ht, h, Buf.bytes, Buf.advance,
      List.take_take]

theorem peekBool_eq_parseBool : (peekBool : Step β Bool) = parseBool := by
  simp only [peekBool, parseBool, peek_eq_parse]

/-- Peeking is parsing: for every primitive and for `bool`, on every buffer,
`peek` returns and consumes exactly what `parse` does. -/
theorem peek_reads_as_parse :
    (∀ p : Prim, (peek p : Step β _) = parse p) ∧ (peekBool : Step β Bool) = parseBool :=
  ⟨peek_eq_parse, peekBool_eq_parseBool⟩

/-- `peek` advances its input. -/
theorem peek_consumes :
    (peek .u32 : Step (List UInt8) _) [0,0,0,1] = .ok 1 [] ∧ ([] : List UInt8) ≠ [0,0,0,1] := by
  decide

end VrpnWire.Deserializer
