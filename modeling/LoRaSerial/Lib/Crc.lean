import Mathlib.Data.List.Basic

namespace Crc

variable {w : Nat} {poly : BitVec w}

/-- One bit of a message enters the register. When it differs from the bit that
leaves at the top, the polynomial is subtracted. -/
def step (poly crc : BitVec w) (bit : Bool) : BitVec w :=
  if crc.msb ^^ bit then (crc <<< 1) ^^^ poly else crc <<< 1

def feed (poly : BitVec w) : BitVec w → List Bool → BitVec w := List.foldl (step poly)

/-- The first n bits, most significant first. -/
def topBits {v : Nat} (n : Nat) (x : BitVec v) : List Bool := (List.range n).map x.getMsbD

/-- The bitwise CRC of a message: every byte most significant bit first, and no
final XOR. -/
def crc (poly init : BitVec w) (message : List (BitVec 8)) : BitVec w :=
  feed poly init (message.flatMap (topBits 8))

/-- The table of a byte-wise implementation. -/
def table (poly : BitVec w) (index : BitVec 8) : BitVec w := feed poly 0#w (topBits 8 index)

@[simp] theorem length_topBits {v : Nat} (n : Nat) (x : BitVec v) : (topBits n x).length = n := by
  simp [topBits]

@[simp] theorem feed_nil (c : BitVec w) : feed poly c [] = c := rfl

@[simp] theorem feed_cons (c : BitVec w) (b : Bool) (bs : List Bool) :
    feed poly c (b :: bs) = feed poly (step poly c b) bs := rfl

theorem feed_append (c : BitVec w) (as bs : List Bool) :
    feed poly c (as ++ bs) = feed poly (feed poly c as) bs :=
  List.foldl_append

theorem step_xor (x y : BitVec w) (a b : Bool) :
    step poly (x ^^^ y) (a ^^ b) = step poly x a ^^^ step poly y b := by
  have hmsb : ((x ^^^ y).msb ^^ (a ^^ b)) = ((x.msb ^^ a) ^^ (y.msb ^^ b)) := by
    rw [BitVec.msb_xor]
    cases x.msb <;> cases y.msb <;> cases a <;> cases b <;> rfl
  unfold step
  rw [hmsb,BitVec.shiftLeft_xor_distrib]
  cases x.msb ^^ a <;> cases y.msb ^^ b
  · rfl
  · exact BitVec.xor_assoc ..
  · simp only [Bool.xor_false,if_true,Bool.false_eq_true,if_false]
    ac_rfl
  · simp only [Bool.xor_self,Bool.false_eq_true,if_true,if_false]
    rw [BitVec.xor_comm (y <<< 1),← BitVec.xor_assoc,BitVec.xor_assoc (x <<< 1),BitVec.xor_self,
      BitVec.xor_zero]

theorem feed_xor {as bs : List Bool} (h : as.length = bs.length) (x y : BitVec w) :
    feed poly (x ^^^ y) (List.zipWith xor as bs) = feed poly x as ^^^ feed poly y bs := by
  induction as generalizing bs x y with
  | nil =>
    cases bs with
    | nil => rfl
    | cons b bs => cases h
  | cons a as ih =>
    cases bs with
    | nil => cases h
    | cons b bs =>
      rw [List.zipWith_cons_cons,feed_cons,feed_cons,feed_cons,step_xor]
      exact ih (Nat.succ.inj h) _ _

theorem step_split (c : BitVec w) (b : Bool) :
    step poly c b = step poly 0#w (c.msb ^^ b) ^^^ (c <<< 1) := by
  unfold step
  simp only [BitVec.msb_zero,Bool.false_xor]
  split
  · simp [BitVec.xor_comm]
  · simp

theorem topBits_succ {v : Nat} (n : Nat) (x : BitVec v) :
    topBits (n + 1) x = x.msb :: topBits n (x <<< 1) := by
  simp only [topBits,List.range_succ_eq_map,List.map_cons,List.map_map]
  congr 1
  apply List.map_congr_left
  intro i _
  simp [BitVec.getMsbD_shiftLeft]

/-- A second value of the register shifts through beside the message. -/
theorem feed_xor_register (x c : BitVec w) (bs : List Bool) :
    feed poly (x ^^^ c) bs = feed poly x (List.replicate bs.length false) ^^^ feed poly c bs := by
  have hzero : List.zipWith xor (List.replicate bs.length false) bs = bs := by
    induction bs with
    | nil => rfl
    | cons b bs ih => rw [List.length_cons,List.replicate_succ,List.zipWith_cons_cons,ih,
        Bool.false_xor]
  have h : feed poly (x ^^^ c) (List.zipWith xor (List.replicate bs.length false) bs) =
      feed poly x (List.replicate bs.length false) ^^^ feed poly c bs :=
    feed_xor (by simp) x c
  rwa [hzero] at h

theorem feed_split (c : BitVec w) (bs : List Bool) :
    feed poly c bs =
      feed poly 0#w (List.zipWith xor (topBits bs.length c) bs) ^^^ (c <<< bs.length) := by
  induction bs generalizing c with
  | nil => simp [topBits]
  | cons b bs ih =>
    have hlength : (List.zipWith xor (topBits bs.length (c <<< 1)) bs).length = bs.length := by
      simp
    generalize hmix : List.zipWith xor (topBits bs.length (c <<< 1)) bs = mixed at hlength
    have hmixed : feed poly (step poly 0#w (c.msb ^^ b) ^^^ 0#w) mixed =
        feed poly (step poly 0#w (c.msb ^^ b)) (List.replicate mixed.length false) ^^^
          feed poly 0#w mixed :=
      feed_xor_register _ 0#w mixed
    rw [BitVec.xor_zero,hlength] at hmixed
    rw [feed_cons,step_split,feed_xor_register,ih,hmix,← BitVec.xor_assoc,← hmixed,
      List.length_cons,topBits_succ,List.zipWith_cons_cons,hmix,feed_cons,Nat.add_comm,
      BitVec.shiftLeft_add]

theorem feed_zero (n : Nat) : feed poly 0#w (List.replicate n false) = 0#w := by
  induction n with
  | zero => rfl
  | succ n ih =>
    rw [List.replicate_succ,feed_cons]
    simpa [step] using ih

/-- A message that ends in what its register holds leaves zero there. -/
theorem feed_topBits (c : BitVec w) : feed poly c (topBits w c) = 0#w := by
  have hself : List.zipWith xor (topBits w c) (topBits w c) = List.replicate w false := by simp
  rw [feed_split,length_topBits,hself,feed_zero]
  simp

/-- A byte at a time: the byte of the register that leaves selects, together
with the byte of the message, an entry of the table. -/
theorem crc_cons (hw : 8 ≤ w) (c : BitVec w) (byte : BitVec 8) (message : List (BitVec 8)) :
    crc poly c (byte :: message) =
      crc poly (table poly (byte ^^^ c.extractLsb' (w - 8) 8) ^^^ (c <<< 8)) message := by
  have hbyte : List.zipWith xor (topBits 8 c) (topBits 8 byte) =
      topBits 8 (byte ^^^ c.extractLsb' (w - 8) 8) := by
    apply List.ext_getElem
    · simp
    intro i hi _
    have hlt : i < 8 := by simpa using hi
    have htop : (c.extractLsb' (w - 8) 8).getMsbD i = c.getMsbD i := by
      have hle : w - 8 + 8 - i ≤ w := by omega
      have hindex : w - (w - 8 + 8 - i) = i := by omega
      rw [BitVec.getMsbD_extractLsb',hindex,decide_eq_true hlt,decide_eq_true hle,Bool.true_and,
        Bool.true_and]
    simp [topBits,htop,Bool.xor_comm]
  rw [crc,List.flatMap_cons,feed_append,feed_split c (topBits 8 byte),length_topBits,hbyte]
  rfl

end Crc
