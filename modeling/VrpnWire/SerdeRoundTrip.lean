import VrpnWire.Deserializer

/-!
# Round trips through the serde codec

On every shape built from primitives, units and newtypes, `from_buf` inverts
`to_bytes`: exactly the bytes give the value back, more bytes are trailing
characters, and fewer are a shortfall of exactly the missing bytes. `bool` is
the exception: `serialize_bool` writes an `i16` while `parse_bool` reads a `u32`.
-/

set_option autoImplicit false

namespace VrpnWire.SerdeRoundTrip

open VrpnWire.Basic VrpnWire.ByteOrder VrpnWire.Serializer VrpnWire.Deserializer

def Plain : Shape → Prop
  | .prim _ => True
  | .unit => True
  | .unitStruct => True
  | .newtypeStruct s => Plain s
  | .bool => False
  | .tuple _ _ => False

theorem deserialize_serialize (s : Shape) (hs : Plain s) (v : s.Val) (rest : List UInt8) :
    (deserialize s : Step (List UInt8) _) (serialize s v ++ rest) = .ok v rest := by
  induction s with
  | prim p =>
    have hl : p.size ≤ remaining (serialize (.prim p) v ++ rest) := by
      simp [remaining, Buf.bytes, serialize, serializePrim]
    simp only [deserialize, parse, Step.bind_apply, checkSize_of_le hl, Outcome.ok_bind]
    simp [Deserializer.get, remaining, Buf.bytes, Buf.advance, serialize, serializePrim,
      List.take_left' (length_beBytes _ _), ofNat_beValue_beBytes_bytes]
  | unit => rfl
  | unitStruct => rfl
  | newtypeStruct s ih => exact ih hs v
  | bool => exact hs.elim
  | tuple _ _ => exact hs.elim

theorem deserialize_prefix (s : Shape) (hs : Plain s) (v : s.Val) (p : List UInt8)
    (hp : p <+: serialize s v) (hlt : p.length < (serialize s v).length) :
    (deserialize s : Step (List UInt8) _) p =
      .err (.needMoreData (.atLeast ((serialize s v).length-p.length))) p := by
  induction s with
  | prim q =>
    have hq : remaining p < q.size := by simpa [remaining, Buf.bytes, serialize, serializePrim] using hlt
    simp [deserialize, parse, checkSize_of_lt hq, remaining, Buf.bytes, serialize, serializePrim]
  | unit => simp [serialize] at hlt
  | unitStruct => simp [serialize] at hlt
  | newtypeStruct s ih => exact ih hs v hp hlt
  | bool => exact hs.elim
  | tuple _ _ => exact hs.elim

theorem fromBuf_serialize (s : Shape) (hs : Plain s) (v : s.Val) (rest : List UInt8) :
    (fromBuf s : Step (List UInt8) _) (serialize s v ++ rest) =
      if rest = [] then .ok v [] else .err .trailingCharacters rest := by
  simp only [fromBuf, Step.bind_apply, deserialize_serialize s hs v rest, Outcome.ok_bind]
  cases rest <;> simp [remaining, Buf.bytes]

/-- `from_buf` inverts `to_bytes` on every shape of primitives, units and
newtypes: exactly its bytes decode to the value, extra bytes are trailing
characters, and a proper prefix is short by exactly the missing bytes. -/
theorem from_buf_to_bytes (s : Shape) (hs : Plain s) (v : s.Val) :
    (fromBuf s : Step (List UInt8) _) (toBytes s v) = .ok v [] ∧
    (∀ t : List UInt8, t ≠ [] → (fromBuf s : Step (List UInt8) _) (toBytes s v ++ t) = .err .trailingCharacters t) ∧
    (∀ p : List UInt8, p <+: toBytes s v → p.length < (toBytes s v).length →
      (fromBuf s : Step (List UInt8) _) p = .err (.needMoreData (.atLeast ((toBytes s v).length-p.length))) p) := by
  refine ⟨?_, fun t ht => ?_, fun p hp hlt => ?_⟩
  · simpa using fromBuf_serialize s hs v []
  · simpa [ht] using fromBuf_serialize s hs v t
  · simp only [fromBuf, Step.bind_apply, toBytes, deserialize_prefix s hs v p hp hlt, Outcome.err_bind]

theorem from_buf_to_bytes_u32 :
    Plain (.prim .u32) ∧
    ((fromBuf (.prim .u32) : Step (List UInt8) _) (toBytes (.prim .u32) (7 : BitVec 32)) = .ok (7 : BitVec 32) [] ∧
    (∀ t : List UInt8, t ≠ [] →
      (fromBuf (.prim .u32) : Step (List UInt8) _) (toBytes (.prim .u32) (7 : BitVec 32) ++ t) = .err .trailingCharacters t) ∧
    (∀ p : List UInt8, p <+: toBytes (.prim .u32) (7 : BitVec 32) → p.length < (toBytes (.prim .u32) (7 : BitVec 32)).length →
      (fromBuf (.prim .u32) : Step (List UInt8) _) p =
        .err (.needMoreData (.atLeast ((toBytes (.prim .u32) (7 : BitVec 32)).length-p.length))) p)) :=
  ⟨trivial, from_buf_to_bytes (.prim .u32) trivial (7 : BitVec 32)⟩

/-- `true` goes out as the two bytes of an `i16` and comes back as a shortfall. -/
theorem from_buf_to_bytes_true :
    toBytes .bool true = [0,1] ∧
    (fromBuf .bool : Step (List UInt8) _) (toBytes .bool true) = .err (.needMoreData (.atLeast 2)) [0,1] := by
  decide

end VrpnWire.SerdeRoundTrip
