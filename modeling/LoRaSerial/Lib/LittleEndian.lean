import Mathlib.Algebra.Group.Nat.Defs

namespace LittleEndian

/-- The number that some bytes stand for, the lowest first. -/
def toNat : List UInt8 → Nat
  | [] => 0
  | b :: bs => b.toNat + 256 * toNat bs

/-- The lowest bytes of a number. -/
def ofNat : Nat → Nat → List UInt8
  | 0,_ => []
  | width + 1,n => UInt8.ofNat n :: ofNat width (n / 256)

@[simp] theorem length_ofNat (width n : Nat) : (ofNat width n).length = width := by
  induction width generalizing n with
  | zero => rfl
  | succ width ih => rw [ofNat,List.length_cons,ih]

theorem toNat_ofNat {width n : Nat} (h : n < 256 ^ width) : toNat (ofNat width n) = n := by
  induction width generalizing n with
  | zero =>
    rw [Nat.pow_zero] at h
    exact (Nat.lt_one_iff.mp h).symm
  | succ width ih =>
    have hlow : n / 256 < 256 ^ width := by
      rw [Nat.pow_succ] at h
      exact Nat.div_lt_of_lt_mul (by omega)
    rw [ofNat,toNat,ih hlow]
    simp only [UInt8.toNat_ofNat']
    omega

theorem ofNat_toNat (bs : List UInt8) : ofNat bs.length (toNat bs) = bs := by
  induction bs with
  | nil => rfl
  | cons b bs ih =>
    have hb := b.toNat_lt
    have hhigh : (b.toNat + 256 * toNat bs) / 256 = toNat bs := by omega
    have hlow : UInt8.ofNat (b.toNat + 256 * toNat bs) = b := by
      apply UInt8.toNat_inj.mp
      simp only [UInt8.toNat_ofNat']
      omega
    rw [List.length_cons,toNat,ofNat,hhigh,ih,hlow]

/-- Bytes that stand for `n` are the bytes of `n`. -/
theorem eq_ofNat {bs : List UInt8} {width n : Nat} (hlen : bs.length = width)
    (h : toNat bs = n) : bs = ofNat width n := by
  rw [← hlen,← h,ofNat_toNat]

end LittleEndian
