import Mathlib.Init

namespace LoRaSerial.Codec

/-- WhiteningKeyMSB and WhiteningKeyLSB. -/
structure WhiteningKey where
  msb : UInt8
  lsb : UInt8
  deriving DecidableEq, Repr

/-- One turn of the inner loop of radioComputeWhitening. -/
def WhiteningKey.shift (k : WhiteningKey) : WhiteningKey where
  msb := (k.lsb &&& (0x01 : UInt8)) ^^^ ((k.lsb >>> (5 : UInt8)) &&& (0x01 : UInt8))
  lsb := ((k.lsb >>> (1 : UInt8)) &&& (0xff : UInt8)) ||| ((k.msb <<< (7 : UInt8)) &&& (0x80 : UInt8))

/-- The eight turns after each byte. -/
def WhiteningKey.next (k : WhiteningKey) : WhiteningKey :=
  Nat.repeat WhiteningKey.shift 8 k

def whitenFrom : WhiteningKey → List UInt8 → List UInt8
  | _,[] => []
  | k,b :: bs => (b ^^^ k.lsb) :: whitenFrom k.next bs

/-- radioComputeWhitening on the bytes of a frame. -/
def radioComputeWhitening (bs : List UInt8) : List UInt8 :=
  whitenFrom ⟨0x01,0xff⟩ bs

theorem length_whitenFrom (k : WhiteningKey) (bs : List UInt8) :
    (whitenFrom k bs).length = bs.length := by
  induction bs generalizing k with
  | nil => rfl
  | cons b bs ih => simp [whitenFrom,ih]

/-- The key stream does not depend on the data, so whitening undoes itself. -/
theorem whitenFrom_whitenFrom (k : WhiteningKey) (bs : List UInt8) :
    whitenFrom k (whitenFrom k bs) = bs := by
  induction bs generalizing k with
  | nil => rfl
  | cons b bs ih =>
    rw [whitenFrom,whitenFrom,ih,UInt8.xor_assoc,UInt8.xor_self,UInt8.xor_zero]

@[simp] theorem length_radioComputeWhitening (bs : List UInt8) :
    (radioComputeWhitening bs).length = bs.length :=
  length_whitenFrom _ bs

@[simp] theorem radioComputeWhitening_twice (bs : List UInt8) :
    radioComputeWhitening (radioComputeWhitening bs) = bs :=
  whitenFrom_whitenFrom _ bs

end LoRaSerial.Codec
