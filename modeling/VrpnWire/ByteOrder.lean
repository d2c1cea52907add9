import Mathlib.Tactic.Ring
import Mathlib.Tactic.Positivity
import Mathlib.Data.Nat.Defs

/-!
# Big-endian byte order

Every integer on the wire is written most significant byte first. `beBytes k n`
are the `k` bytes `put_*_be` writes for `n` and `beValue` is what `get_*_be`
reads back. The two are inverse in both directions; the wire formats rely on both.
-/

set_option autoImplicit false

namespace VrpnWire.ByteOrder

def beBytes : Nat → Nat → List UInt8
  | 0, _ => []
  | k+1, n => UInt8.ofNat (n / 256^k) :: beBytes k n

def beValue : List UInt8 → Nat
  | [] => 0
  | b::bs => b.toNat * 256^bs.length + beValue bs

theorem toNat_ofNat_byte (n : Nat) : (UInt8.ofNat n).toNat = n % 256 :=
  BitVec.toNat_ofNat n 8

@[simp] theorem length_beBytes (k n : Nat) : (beBytes k n).length = k := by
  induction k with
  | zero => rfl
  | succ k ih => simp [beBytes, ih]

theorem beValue_lt (bs : List UInt8) : beValue bs < 256^bs.length := by
  induction bs with
  | nil => simp [beValue]
  | cons b bs ih =>
    have hm : b.toNat*256^bs.length+256^bs.length ≤ 256*256^bs.length := by
      rw [← Nat.succ_mul]
      exact Nat.mul_le_mul_right _ (UInt8.toNat_lt_size b)
    simp only [beValue, List.length_cons, pow_succ]
    omega

theorem beValue_beBytes (k n : Nat) : beValue (beBytes k n) = n % 256^k := by
  induction k with
  | zero => simp [beBytes, beValue, Nat.mod_one]
  | succ k ih =>
    rw [beBytes, beValue, length_beBytes, ih, toNat_ofNat_byte, Nat.mod_pow_succ]
    ring

theorem beBytes_add_mul (k c n : Nat) : beBytes k (c*256^k+n) = beBytes k n := by
  induction k generalizing c with
  | zero => rfl
  | succ k ih =>
    have hd : (c*256^(k+1)+n)/256^k = n/256^k+c*256 := by
      rw [show c*256^(k+1)+n = n+c*256*256^k by ring, Nat.add_mul_div_right _ _ (by positivity)]
    have hb : UInt8.ofNat ((c*256^(k+1)+n)/256^k) = UInt8.ofNat (n/256^k) :=
      UInt8.toNat.inj (by rw [toNat_ofNat_byte, toNat_ofNat_byte, hd]; omega)
    have ht : beBytes k (c*256^(k+1)+n) = beBytes k n := by
      rw [show c*256^(k+1) = c*256*256^k by ring, ih]
    simp only [beBytes, hb, ht]

theorem beBytes_beValue (bs : List UInt8) : beBytes bs.length (beValue bs) = bs := by
  induction bs with
  | nil => rfl
  | cons b bs ih =>
    have hv := beValue_lt bs
    have hd : (b.toNat*256^bs.length+beValue bs)/256^bs.length = b.toNat := by
      rw [Nat.add_comm, Nat.add_mul_div_right _ _ (by positivity), Nat.div_eq_of_lt hv,
        Nat.zero_add]
    have hb : UInt8.ofNat b.toNat = b :=
      UInt8.toNat.inj (by rw [toNat_ofNat_byte]; exact Nat.mod_eq_of_lt (UInt8.toNat_lt_size b))
    simp only [List.length_cons, beValue, beBytes, hd, hb, beBytes_add_mul, ih]

theorem beBytes_mod (k n : Nat) : beBytes k (n % 256^k) = beBytes k n := by
  conv_rhs => rw [← Nat.div_add_mod n (256^k), Nat.mul_comm, beBytes_add_mul]

theorem byte_pow_eq_two_pow {w : Nat} (hw : w % 8 = 0) : (256:Nat)^(w/8) = 2^w := by
  rw [show (256:Nat) = 2^8 from rfl, ← pow_mul, Nat.mul_div_cancel' (Nat.dvd_of_mod_eq_zero hw)]

theorem ofNat_beValue_beBytes {w : Nat} (hw : w % 8 = 0) (x : BitVec w) :
    BitVec.ofNat w (beValue (beBytes (w/8) x.toNat)) = x := by
  apply BitVec.eq_of_toNat_eq
  rw [BitVec.toNat_ofNat, beValue_beBytes, byte_pow_eq_two_pow hw, Nat.mod_mod, Nat.mod_eq_of_lt x.isLt]

theorem ofNat_beValue_beBytes_bytes {k : Nat} (x : BitVec (8*k)) :
    BitVec.ofNat (8*k) (beValue (beBytes k x.toNat)) = x := by
  simpa using ofNat_beValue_beBytes (Nat.mul_mod_right 8 k) x

theorem beBytes_toNat_ofNat {w : Nat} (hw : w % 8 = 0) (bs : List UInt8) (hl : bs.length = w/8) :
    beBytes (w/8) (BitVec.ofNat w (beValue bs)).toNat = bs := by
  rw [BitVec.toNat_ofNat, ← byte_pow_eq_two_pow hw, beBytes_mod, ← hl, beBytes_beValue]

end VrpnWire.ByteOrder
