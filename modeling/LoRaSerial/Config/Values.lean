import LoRaSerial.Config.Commands
import LoRaSerial.Lib.Rounding
import Mathlib.Data.List.TakeWhile
import Mathlib.Tactic.NormNum

namespace LoRaSerial.Config
open Rounding

variable {text : List Char} {c x : Rat}

theorem roundTo_eq_round (bits : Int) (hx : 0 < x) : roundTo bits x = round bits x := by
  have habs : x.abs = x := Rat.abs_of_nonneg hx.le
  unfold roundTo
  rw [if_neg hx.ne',habs]
  rfl

theorem le_roundTo {bits : Int} (hbits : 1 ≤ bits) (hc : Fits bits c) (hx : 0 < x) (h : c ≤ x) :
    c ≤ roundTo bits x := by
  rw [roundTo_eq_round bits hx]
  exact le_round hbits hc hx h

theorem roundTo_le {bits : Int} (hc : Fits bits c) (hx : 0 < x) (h : x ≤ c) :
    roundTo bits x ≤ c := by
  rw [roundTo_eq_round bits hx]
  exact round_le hc hx h

theorem fits_natCast {bits n : Nat} (h : n < 2 ^ bits) : Fits bits (n : Rat) :=
  ⟨n,0,by simp,by exact_mod_cast h⟩

theorem toDouble_natCast {n : Nat} (h : n < 2 ^ 53) : toDouble n = n := by
  rcases Nat.eq_zero_or_pos n with rfl | hpos
  · rfl
  · have hn : (0 : Rat) < n := by exact_mod_cast hpos
    have hfits : Fits 53 (n : Rat) := fits_natCast h
    exact (roundTo_eq_round 53 hn).trans (round_eq (by decide) hn hfits)

theorem le_toDouble_natCast {m n : Nat} (hm : m < 2 ^ 53) (hpos : 0 < n) (h : m ≤ n) :
    (m : Rat) ≤ toDouble n :=
  le_roundTo (by decide) (fits_natCast hm) (by exact_mod_cast hpos) (by exact_mod_cast h)

theorem strtod_digits (h : text.all Char.isDigit = true) :
    strtod text = toDouble (digitsToNat text : Nat) := by
  have hall := List.all_eq_true.mp h
  have htake : text.takeWhile Char.isDigit = text := List.takeWhile_eq_self_iff.mpr hall
  have hdrop : text.dropWhile Char.isDigit = [] := List.dropWhile_eq_nil_iff.mpr hall
  unfold strtod
  rw [htake,hdrop]
  simp [digitsToNat]

/-- A value of 32 bits is exact, and a larger one saturates. -/
theorem settingValue_digits (h : text.all Char.isDigit = true) :
    settingValue text = min (digitsToNat text) 0xffffffff := by
  unfold settingValue
  rw [strtod_digits h]
  generalize digitsToNat text = n
  by_cases hn : n < 2 ^ 53
  · rw [toDouble_natCast hn]
    have hfloor : (n : Rat).floor = n := Rat.floor_intCast n
    rw [hfloor,Int.toNat_natCast]
  · have hlarge := le_toDouble_natCast (m := 0xffffffff) (by norm_num) (n := n) (by omega)
      (by omega)
    have hfloor : (0xffffffff : Int) ≤ (toDouble n).floor :=
      Rat.le_floor_iff.mpr (by exact_mod_cast hlarge)
    omega

end LoRaSerial.Config
