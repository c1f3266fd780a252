import Mathlib.Data.List.Basic

namespace Overlay

variable {α : Type*}

/-- Write `bs` into a buffer of fixed size at position `off`; what would pass
its end is not stored. -/
def overlay (buf : List α) (off : Nat) (bs : List α) : List α :=
  (buf.take off ++ bs ++ buf.drop (off + bs.length)).take buf.length

@[simp] theorem length_overlay (buf : List α) (off : Nat) (bs : List α) :
    (overlay buf off bs).length = buf.length := by
  simp only [overlay,List.length_take,List.length_append,List.length_drop]
  omega

/-- A write that fits replaces one stretch of the buffer. -/
theorem overlay_eq {buf bs : List α} {off : Nat} (h : off + bs.length ≤ buf.length) :
    overlay buf off bs = buf.take off ++ bs ++ buf.drop (off + bs.length) := by
  apply List.take_of_length_le
  simp only [List.length_append,List.length_take,List.length_drop]
  omega

theorem take_overlay (buf bs : List α) (off : Nat) (h : off + bs.length ≤ buf.length) :
    (overlay buf off bs).take (off + bs.length) = buf.take off ++ bs := by
  have hlen : (buf.take off ++ bs).length = off + bs.length := by
    simp only [List.length_append,List.length_take]
    omega
  rw [overlay_eq h,← hlen,List.take_left]

/-- Writing at the front. -/
theorem take_overlay_zero (buf bs : List α) (h : bs.length ≤ buf.length) :
    (overlay buf 0 bs).take bs.length = bs := by
  simpa using take_overlay buf bs 0 (by omega)

/-- What was written is read back where it was written. -/
theorem drop_take_overlay (buf bs : List α) (off : Nat) (h : off + bs.length ≤ buf.length) :
    ((overlay buf off bs).drop off).take bs.length = bs := by
  have htake := take_overlay buf bs off h
  have hlen : (buf.take off).length = off := List.length_take_of_le (by omega)
  have hdrop : ((overlay buf off bs).take (off + bs.length)).drop off = bs := by
    rw [htake]
    nth_rewrite 1 [← hlen]
    exact List.drop_left
  rwa [List.drop_take,Nat.add_sub_cancel_left] at hdrop

/-- A second write behind the first leaves the first in place. -/
theorem drop_take_overlay_overlay (buf as bs : List α) (off : Nat)
    (h : off + as.length + bs.length ≤ buf.length) :
    ((overlay (overlay buf off as) (off + as.length) bs).drop off).take
      (as.length + bs.length) = as ++ bs := by
  have htake := take_overlay (overlay buf off as) bs (off + as.length) (by simpa using h)
  rw [take_overlay buf as off (by omega)] at htake
  have hlen : (buf.take off).length = off := List.length_take_of_le (by omega)
  have hdrop : ((overlay (overlay buf off as) (off + as.length) bs).take
      (off + as.length + bs.length)).drop off = as ++ bs := by
    rw [htake,List.append_assoc]
    nth_rewrite 1 [← hlen]
    exact List.drop_left
  rwa [List.drop_take,Nat.add_assoc,Nat.add_sub_cancel_left] at hdrop

/-- A byte at or behind the start of a write is the written one if the write
reaches it. -/
theorem getElem?_overlay {buf bs : List α} {off : Nat} (h : off + bs.length ≤ buf.length)
    (i : Nat) :
    (overlay buf off bs)[off + i]? = if i < bs.length then bs[i]? else buf[off + i]? := by
  have hlen : (buf.take off).length = off := List.length_take_of_le (by omega)
  rw [overlay_eq h,List.append_assoc,List.getElem?_append_right (by omega),hlen,
    Nat.add_sub_cancel_left]
  split
  next hi => exact List.getElem?_append_left hi
  next hi =>
    rw [List.getElem?_append_right (by omega),List.getElem?_drop]
    congr 1
    omega

theorem overlay_singleton (buf : List α) (i : Nat) (b : α) (h : i < buf.length) :
    overlay buf i [b] = buf.set i b := by
  rw [overlay_eq (by simp only [List.length_singleton]; omega),
    List.set_eq_take_append_cons_drop,if_pos h]
  simp

/-- A stretch of `n` elements. -/
def window (buf : List α) (off n : Nat) : List α := (buf.drop off).take n

theorem length_window {buf : List α} {off n : Nat} (h : off + n ≤ buf.length) :
    (window buf off n).length = n := by
  rw [window,List.length_take,List.length_drop]
  omega

theorem getElem?_window (buf : List α) (off n i : Nat) :
    (window buf off n)[i]? = if i < n then buf[off + i]? else none := by
  rw [window,List.getElem?_take,List.getElem?_drop]

/-- A part of what is read of a buffer. -/
theorem window_window {buf : List α} {off n off' n' : Nat} (h : off' + n' ≤ n) :
    window (window buf off n) off' n' = window buf (off + off') n' := by
  apply List.ext_getElem?
  intro i
  rw [getElem?_window,getElem?_window,getElem?_window]
  by_cases hi : i < n'
  · rw [if_pos hi,if_pos (by omega),if_pos hi,Nat.add_assoc]
  · rw [if_neg hi,if_neg hi]

theorem window_overlay_self {buf bs : List α} {off : Nat} (h : off + bs.length ≤ buf.length) :
    window (overlay buf off bs) off bs.length = bs := drop_take_overlay buf bs off h

/-- A write leaves what is in front of it and what is behind it. -/
theorem window_overlay_of_disjoint {buf bs : List α} {off off' n : Nat}
    (hfit : off + bs.length ≤ buf.length) (h : off' + n ≤ off ∨ off + bs.length ≤ off') :
    window (overlay buf off bs) off' n = window buf off' n := by
  apply List.ext_getElem?
  intro i
  rw [getElem?_window,getElem?_window]
  split
  next hi =>
    rcases h with h | h
    · have hlen : (buf.take off).length = off := List.length_take_of_le (by omega)
      rw [overlay_eq hfit,List.append_assoc,List.getElem?_append_left (by omega),
        List.getElem?_take,if_pos (by omega)]
    · obtain ⟨k,hk⟩ := Nat.exists_eq_add_of_le (show off ≤ off' + i by omega)
      rw [hk,getElem?_overlay hfit,if_neg (by omega)]
  next => rfl

/-- Writing what is already there. -/
theorem overlay_window {buf : List α} {off n : Nat} (h : off + n ≤ buf.length) :
    overlay buf off (window buf off n) = buf := by
  have hlen := length_window h
  rw [overlay_eq (by omega),hlen,window,List.append_assoc]
  have hrest : (buf.drop off).take n ++ buf.drop (off + n) = buf.drop off := by
    rw [← List.drop_drop]
    exact List.take_append_drop n _
  rw [hrest,List.take_append_drop]

/-- Of two writes at one place, the second counts. -/
theorem overlay_overlay {buf as bs : List α} {off : Nat} (hlen : as.length = bs.length)
    (h : off + bs.length ≤ buf.length) : overlay (overlay buf off as) off bs = overlay buf off bs := by
  apply List.ext_getElem?
  intro i
  have hfit : off + as.length ≤ buf.length := hlen ▸ h
  rw [overlay_eq (by rwa [length_overlay]),overlay_eq h,overlay_eq hfit]
  have htake : ((buf.take off ++ as ++ buf.drop (off + as.length)).take off) = buf.take off := by
    rw [List.append_assoc,List.take_append_of_le_length (by rw [List.length_take]; omega),
      List.take_take,Nat.min_self]
  have hdrop : (buf.take off ++ as ++ buf.drop (off + as.length)).drop (off + bs.length) =
      buf.drop (off + bs.length) := by
    have hfront : (buf.take off ++ as).length = off + bs.length := by
      rw [List.length_append,List.length_take]
      omega
    rw [← hfront,List.drop_left,hfront,hlen]
  rw [htake,hdrop]

end Overlay
