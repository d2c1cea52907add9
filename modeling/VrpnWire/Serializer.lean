import VrpnWire.ByteOrder

/-!
# The serde serializer

The crate serializes only what fits a fixed binary layout. A type reaches the
`Serializer` through the serde shape of its `Serialize` impl; `Shape` lists
the shapes the codec handles without `unimplemented!()`. A 2-tuple stands for
every tuple, tuple struct and struct, which all go through `serialize_seq`.
Floats are their IEEE bits, which is all `put_f32_be` writes.
-/

set_option autoImplicit false

namespace VrpnWire.Serializer

open VrpnWire.ByteOrder

inductive Prim where
  | i8 | u8 | i16 | u16 | i32 | u32 | i64 | u64 | f32 | f64
  deriving DecidableEq, Repr

def Prim.size : Prim → Nat
  | .i8 | .u8 => 1
  | .i16 | .u16 => 2
  | .i32 | .u32 | .f32 => 4
  | .i64 | .u64 | .f64 => 8

inductive Shape where
  | prim (p : Prim)
  | bool
  | unit
  | unitStruct
  | newtypeStruct (inner : Shape)
  | tuple (fst snd : Shape)
  deriving DecidableEq, Repr

def Shape.Val : Shape → Type
  | .prim p => BitVec (8*p.size)
  | .bool => Bool
  | .unit => Unit
  | .unitStruct => Unit
  | .newtypeStruct s => s.Val
  | .tuple a b => a.Val × b.Val

instance Shape.decEqVal : (s : Shape) → DecidableEq s.Val
  | .prim p => inferInstanceAs (DecidableEq (BitVec (8*p.size)))
  | .bool => inferInstanceAs (DecidableEq Bool)
  | .unit => inferInstanceAs (DecidableEq Unit)
  | .unitStruct => inferInstanceAs (DecidableEq Unit)
  | .newtypeStruct s => Shape.decEqVal s
  | .tuple a b => @instDecidableEqProd _ _ (Shape.decEqVal a) (Shape.decEqVal b)

def serializePrim (p : Prim) (v : BitVec (8*p.size)) : List UInt8 := beBytes p.size v.toNat

def serialize : (s : Shape) → s.Val → List UInt8
  | .prim p, v => serializePrim p v
  | .bool, v => serializePrim .i16 (if v = true then 1 else 0)
  | .unit, _ => []
  | .unitStruct, _ => []
  | .newtypeStruct s, v => serialize s v
  | .tuple a b, v => serialize a v.1 ++ serialize b v.2

def toBytes (s : Shape) (v : s.Val) : List UInt8 := serialize s v

end VrpnWire.Serializer
