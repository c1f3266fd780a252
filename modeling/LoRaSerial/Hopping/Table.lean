import LoRaSerial.HopTable
import Mathlib.Algebra.Order.Field.Rat
import Mathlib.Data.List.Nodup
import Mathlib.Tactic.FieldSimp
import Mathlib.Tactic.Linarith
import Mathlib.Tactic.Positivity
import Mathlib.Tactic.Ring

namespace LoRaSerial.Hopping

/-- The channel list of generateHopTable, with this rounding of each operation
on frequencies. -/
def populate (round : Rat → Rat) (s : Settings) : List Rat :=
  let channelSpacing := round (round (s.frequencyMax - s.frequencyMin) /
    (s.numberOfChannels.toNat + 2 : Nat))
  let operatingMinFreq := round (s.frequencyMin + round (channelSpacing / 2))
  (List.range s.numberOfChannels.toNat).map fun (x : Nat) =>
    round (operatingMinFreq + round (x * channelSpacing))

theorem counter_succ {n i : UInt8} (h : i.toNat + 1 < n.toNat) : (i + 1).toNat = i.toNat + 1 := by
  have hn := n.toNat_lt
  rw [UInt8.toNat_add]
  exact Nat.mod_eq_of_lt (by change i.toNat + 1 < 2 ^ 8; omega)

/-- The loop of shuffle from this counter on. The counter has 8 bits; it is
compared with n - 1 as an int. -/
def shuffleLoop (n i : UInt8) (array : List Rat) (myRandSeed : UInt16) : List Rat × UInt16 :=
  if i.toNat + 1 < n.toNat then
    let seed := myRand myRandSeed
    let j := UInt8.ofNat (seed.toNat % n.toNat)
    shuffleLoop n (i + 1) (swap array i.toNat j.toNat) seed
  else (array,myRandSeed)
termination_by n.toNat - i.toNat
decreasing_by
  rw [counter_succ ‹_›]
  omega

/-- The pairs of indexes that the loop swaps, in order. -/
def swapped (n i : UInt8) (myRandSeed : UInt16) : List (UInt8 × UInt8) :=
  if i.toNat + 1 < n.toNat then
    let seed := myRand myRandSeed
    (i,UInt8.ofNat (seed.toNat % n.toNat)) :: swapped n (i + 1) seed
  else []
termination_by n.toNat - i.toNat
decreasing_by
  rw [counter_succ ‹_›]
  omega

/-- The channel table that generateHopTable leaves, from this value of myRandSeed. -/
def hopChannels (round : Rat → Rat) (s : Settings) (myRandSeed : UInt16) : List Rat :=
  (shuffleLoop s.numberOfChannels 0 (populate round s) myRandSeed).1

theorem index_toNat {n : UInt8} (hn : 0 < n.toNat) (seed : UInt16) :
    (UInt8.ofNat (seed.toNat % n.toNat)).toNat = seed.toNat % n.toNat := by
  have hmod := Nat.mod_lt seed.toNat hn
  have hlt := n.toNat_lt
  rw [UInt8.toNat_ofNat']
  exact Nat.mod_eq_of_lt (by omega)

theorem shuffleLoop_eq_foldl (n i : UInt8) (array : List Rat) (seed : UInt16) :
    shuffleLoop n i array seed =
      (List.range' i.toNat (n.toNat - 1 - i.toNat)).foldl (fun (array,seed) i =>
        let seed := myRand seed
        (swap array i (seed.toNat % n.toNat),seed)) (array,seed) := by
  fun_induction shuffleLoop n i array seed with
  | case1 i array myRandSeed h seed j ih =>
    have hcount : n.toNat - 1 - i.toNat = n.toNat - 1 - (i + 1).toNat + 1 := by
      rw [counter_succ h]
      omega
    rw [ih,hcount,List.range'_succ,List.foldl_cons,counter_succ h]
    simp only [j,seed,index_toNat (by omega : 0 < n.toNat)]
  | case2 i array myRandSeed h =>
    have hcount : n.toNat - 1 - i.toNat = 0 := by omega
    rw [hcount]
    rfl

theorem shuffleLoop_eq_shuffle (n : UInt8) (array : List Rat) (seed : UInt16) :
    shuffleLoop n 0 array seed = shuffle array n.toNat seed := by
  rw [shuffleLoop_eq_foldl,shuffle,List.range_eq_range']
  rfl

theorem channels_generateHopTable (s : Settings) :
    (generateHopTable s).channels = hopChannels toFloat s (hopSeed s) := by
  rw [hopChannels,shuffleLoop_eq_shuffle]
  rfl

theorem shuffleLoop_eq_swaps (n i : UInt8) (array : List Rat) (seed : UInt16) :
    (shuffleLoop n i array seed).1 =
      (swapped n i seed).foldl (fun array (i,j) => swap array i.toNat j.toNat) array := by
  fun_induction shuffleLoop n i array seed with
  | case1 i array myRandSeed h seed j ih =>
    rw [ih,swapped.eq_1 n i,if_pos h]
    rfl
  | case2 i array myRandSeed h =>
    rw [swapped,if_neg h]
    rfl

theorem swapped_lt {n i : UInt8} {seed : UInt16} {p : UInt8 × UInt8}
    (hp : p ∈ swapped n i seed) : p.1 < n ∧ p.2 < n := by
  fun_induction swapped n i seed with
  | case1 i myRandSeed h seed ih =>
    have hindex := index_toNat (by omega : 0 < n.toNat) seed
    have hmod := Nat.mod_lt seed.toNat (by omega : 0 < n.toNat)
    rcases List.mem_cons.mp hp with rfl | hp
    · constructor
      · exact UInt8.lt_iff_toNat_lt.mpr (show i.toNat < n.toNat by omega)
      · exact UInt8.lt_iff_toNat_lt.mpr (hindex.trans_lt hmod)
    · exact ih hp
  | case2 => cases hp

theorem swap_perm {array : List Rat} {i j : Nat} (hi : i < array.length) (hj : j < array.length) :
    (swap array i j).Perm array := by
  have hread {i : Nat} (hi : i < array.length) : array.getD i 0 = array[i] := by
    rw [List.getD_eq_getElem?_getD,List.getElem?_eq_getElem hi,Option.getD_some]
  rw [swap,hread hi,hread hj]
  exact List.set_set_perm hj hi

theorem swaps_perm {swaps : List (UInt8 × UInt8)} {array : List Rat}
    (h : ∀ p ∈ swaps, p.1.toNat < array.length ∧ p.2.toNat < array.length) :
    (swaps.foldl (fun array (i,j) => swap array i.toNat j.toNat) array).Perm array := by
  induction swaps generalizing array with
  | nil => exact .refl _
  | cons p swaps ih =>
    obtain ⟨hi,hj⟩ := h p List.mem_cons_self
    have hrest : ∀ q ∈ swaps, q.1.toNat < (swap array p.1.toNat p.2.toNat).length ∧
        q.2.toNat < (swap array p.1.toNat p.2.toNat).length := by
      intro q hq
      rw [length_swap]
      exact h q (List.mem_cons_of_mem _ hq)
    exact (ih hrest).trans (swap_perm hi hj)

/-- With any rounding, shuffle leaves the channels it was given. -/
theorem hopChannels_perm (round : Rat → Rat) (s : Settings) (seed : UInt16) :
    (hopChannels round s seed).Perm (populate round s) := by
  have hlength : (populate round s).length = s.numberOfChannels.toNat := by
    rw [populate,List.length_map,List.length_range]
  rw [hopChannels,shuffleLoop_eq_swaps]
  apply swaps_perm
  intro p hp
  obtain ⟨hi,hj⟩ := swapped_lt hp
  rw [hlength]
  exact ⟨UInt8.lt_iff_toNat_lt.mp hi,UInt8.lt_iff_toNat_lt.mp hj⟩

/-- The frequency of channel x before the shuffle. -/
def frequency (s : Settings) (x : Nat) : Rat :=
  s.frequencyMin + (x + 1 / 2) * (s.frequencyMax - s.frequencyMin) /
    (s.numberOfChannels.toNat + 2)

theorem populate_exact (s : Settings) :
    populate id s = (List.range s.numberOfChannels.toNat).map (frequency s) := by
  rw [populate]
  apply List.map_congr_left
  intro x _
  simp only [id,frequency]
  push_cast
  ring

section

variable {s : Settings}

theorem frequency_lt (hband : s.frequencyMin < s.frequencyMax) {x y : Nat} (hxy : x < y) :
    frequency s x < frequency s y := by
  have hwidth : 0 < s.frequencyMax - s.frequencyMin := sub_pos.mpr hband
  have hcast : (x : Rat) < y := by exact_mod_cast hxy
  rw [frequency,frequency]
  gcongr

theorem frequency_inBand (hband : s.frequencyMin < s.frequencyMax) {x : Nat}
    (hx : x < s.numberOfChannels.toNat) :
    s.frequencyMin < frequency s x ∧ frequency s x < s.frequencyMax := by
  have hwidth : 0 < s.frequencyMax - s.frequencyMin := sub_pos.mpr hband
  have hcast : (x : Rat) < s.numberOfChannels.toNat := by exact_mod_cast hx
  have hlow : 0 < (x + 1 / 2) * (s.frequencyMax - s.frequencyMin) /
      (s.numberOfChannels.toNat + 2 : Rat) := by positivity
  have hhigh : (x + 1 / 2) * (s.frequencyMax - s.frequencyMin) /
      (s.numberOfChannels.toNat + 2 : Rat) < s.frequencyMax - s.frequencyMin := by
    rw [div_lt_iff₀ (by positivity),mul_comm]
    gcongr
    linarith
  exact ⟨by rw [frequency]; linarith,by rw [frequency]; linarith⟩

end

/-- Over exact arithmetic the hop table is a permutation of equally spaced
frequencies, which are distinct and inside the band. The table arises by swaps
whose indexes are in it. -/
theorem hopChannels_exact (s : Settings) (myRandSeed : UInt16)
    (hband : s.frequencyMin < s.frequencyMax) :
    (hopChannels id s myRandSeed).Perm
        ((List.range s.numberOfChannels.toNat).map fun (x : Nat) =>
          s.frequencyMin + (x + 1 / 2) * (s.frequencyMax - s.frequencyMin) /
            (s.numberOfChannels.toNat + 2)) ∧
      (hopChannels id s myRandSeed).Nodup ∧
      (∀ f ∈ hopChannels id s myRandSeed, s.frequencyMin < f ∧ f < s.frequencyMax) ∧
      hopChannels id s myRandSeed = (swapped s.numberOfChannels 0 myRandSeed).foldl
        (fun array (i,j) => swap array i.toNat j.toNat) (populate id s) ∧
      ∀ p ∈ swapped s.numberOfChannels 0 myRandSeed,
        p.1 < s.numberOfChannels ∧ p.2 < s.numberOfChannels := by
  have hperm := hopChannels_perm id s myRandSeed
  rw [populate_exact] at hperm
  have hinj : Function.Injective (frequency s) := by
    have hmono : StrictMono (frequency s) := fun _ _ => frequency_lt hband
    exact hmono.injective
  refine ⟨hperm,?_,?_,shuffleLoop_eq_swaps ..,fun _ => swapped_lt⟩
  · rw [hperm.nodup_iff]
    exact List.nodup_range.map hinj
  · intro f hf
    obtain ⟨x,hx,rfl⟩ := List.mem_map.mp (hperm.mem_iff.mp hf)
    exact frequency_inBand hband (List.mem_range.mp hx)

theorem hopChannels_exact_default :
    (hopChannels id defaultSettings 1).Nodup :=
  (hopChannels_exact defaultSettings 1 (by decide)).2.1

end LoRaSerial.Hopping
