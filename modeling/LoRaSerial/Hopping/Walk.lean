import LoRaSerial.HopTable
import LoRaSerial.Lib.Runs
import Mathlib.Data.Int.ModEq
import Mathlib.Data.List.Nodup
import Mathlib.Data.List.Perm.Subperm

namespace LoRaSerial.Hopping

open Runs

/-- The calls that move through the hop table. A synchronization makes at most
3 hops at once. -/
inductive HopCall where
  | hopChannel
  | hopChannelReverse
  | delayedHops (delayedHopCount : Fin 4)
  deriving DecidableEq, Repr

namespace HopCall

def target (s : Settings) (channelNumber : UInt8) : HopCall → UInt8
  | hopChannel => hopTarget true 1 channelNumber s
  | hopChannelReverse => hopTarget false 1 channelNumber s
  | delayedHops k => hopTarget true (UInt8.ofNat k) channelNumber s

/-- The hops forward, less those in reverse. -/
def hops : HopCall → Int
  | hopChannel => 1
  | hopChannelReverse => -1
  | delayedHops k => k.val

/-- What a call adds to channelNumber. -/
def addend (s : Settings) : HopCall → Nat
  | hopChannel => 1
  | hopChannelReverse => s.numberOfChannels.toNat - 1
  | delayedHops k => k.val

end HopCall

/-- The channel, and where it should be: the start plus the hops so far. -/
structure Walk where
  channelNumber : UInt8
  position : Int
  deriving DecidableEq, Repr

def Walk.hop (s : Settings) (w : Walk) (call : HopCall) : Walk :=
  ⟨call.target s w.channelNumber,w.position + call.hops⟩

/-- The sum of the call is below 256, before the modulus. -/
def NoWrap (s : Settings) (w : Walk) (call : HopCall) : Prop :=
  w.channelNumber.toNat + call.addend s ≤ 255

instance (s : Settings) (w : Walk) (call : HopCall) : Decidable (NoWrap s w call) :=
  inferInstanceAs (Decidable (_ ≤ _))

def OnTrack (s : Settings) (w : Walk) : Prop :=
  (w.channelNumber.toNat : Int) = w.position % s.numberOfChannels.toNat

/-- The channels of this many reverse hops. -/
def reverseScan (s : Settings) : Nat → UInt8 → List UInt8
  | 0,_ => []
  | n + 1,c =>
    let c' := HopCall.hopChannelReverse.target s c
    c' :: reverseScan s n c'

theorem position_run (s : Settings) (w : Walk) (calls : List HopCall) :
    (run (Walk.hop s) w calls).position = w.position + (calls.map HopCall.hops).sum := by
  induction calls generalizing w with
  | nil => simp
  | cons call calls ih =>
    rw [run_cons,ih,List.map_cons,List.sum_cons,Walk.hop,add_assoc]

/-- A sum that wraps at 256 has another remainder for every modulus that does
not divide 256, such as those above 128. -/
theorem mod_wrap_iff {x n : Nat} (hx : x < 512) (hn : 256 ≤ x → 128 < n ∧ n < 256) :
    x % 256 % n = x % n ↔ x < 256 := by
  constructor
  · intro h
    by_contra hwrap
    obtain ⟨hlow,hhigh⟩ := hn (by omega)
    have hrest : x % 256 = x - 256 := by omega
    have hdvd : n ∣ x - (x - 256) := by
      rw [hrest] at h
      exact (Nat.modEq_iff_dvd' (by omega)).mp h
    obtain ⟨q,hq⟩ := hdvd
    have hq' : n * q = 256 := by omega
    rcases q with _ | _ | q
    · omega
    · omega
    · have hmul := Nat.mul_le_mul_left n (by omega : 2 ≤ q + 1 + 1)
      omega
  · intro h
    rw [Nat.mod_eq_of_lt h]

section

variable {s : Settings}

theorem target_toNat (c : UInt8) (call : HopCall) (hn : 0 < s.numberOfChannels.toNat) :
    (call.target s c).toNat =
      (c.toNat + call.addend s) % 256 % s.numberOfChannels.toNat := by
  cases call with
  | hopChannel =>
    rw [HopCall.target,hopTarget,if_pos rfl,UInt8.toNat_mod,UInt8.toNat_add]
    rfl
  | hopChannelReverse =>
    have hone : (s.numberOfChannels - 1).toNat = s.numberOfChannels.toNat - 1 :=
      UInt8.toNat_sub_of_le _ _ hn
    rw [HopCall.target,hopTarget,if_neg Bool.false_ne_true,UInt8.toNat_mod,UInt8.toNat_add,hone]
    rfl
  | delayedHops k =>
    have hk : (UInt8.ofNat k).toNat = k.val := by
      rw [UInt8.toNat_ofNat']
      exact Nat.mod_eq_of_lt (by omega)
    rw [HopCall.target,hopTarget,if_pos rfl,UInt8.toNat_mod,UInt8.toNat_add,hk]
    rfl

theorem target_lt (c : UInt8) (call : HopCall) (hn : 0 < s.numberOfChannels.toNat) :
    (call.target s c).toNat < s.numberOfChannels.toNat := by
  rw [target_toNat c call hn]
  exact Nat.mod_lt _ hn

theorem addend_modEq (call : HopCall) (hn : 0 < s.numberOfChannels.toNat) :
    (call.addend s : Int) ≡ call.hops [ZMOD s.numberOfChannels.toNat] := by
  cases call with
  | hopChannel => exact Int.ModEq.refl _
  | hopChannelReverse =>
    have hsub : ((s.numberOfChannels.toNat - 1 : Nat) : Int) = s.numberOfChannels.toNat - 1 := by
      omega
    rw [HopCall.addend,hsub,Int.modEq_iff_dvd]
    exact ⟨-1,by rw [HopCall.hops]; omega⟩
  | delayedHops k => exact Int.ModEq.refl _

/-- One call stays on track exactly if its sum does not wrap. -/
theorem onTrack_hop_iff {w : Walk} (hn : 0 < s.numberOfChannels.toNat) (hw : OnTrack s w)
    (call : HopCall) : OnTrack s (w.hop s call) ↔ NoWrap s w call := by
  have hlt : w.channelNumber.toNat < s.numberOfChannels.toNat := by
    have hmod := Int.emod_lt_of_pos w.position (by omega : (0 : Int) < s.numberOfChannels.toNat)
    rw [OnTrack] at hw
    omega
  have hn' := s.numberOfChannels.toNat_lt
  have haddend : call.addend s ≤ s.numberOfChannels.toNat - 1 ∨ call.addend s ≤ 3 := by
    cases call with
    | hopChannel => exact .inr (by rw [HopCall.addend]; omega)
    | hopChannelReverse => exact .inl le_rfl
    | delayedHops k => exact .inr (by rw [HopCall.addend]; omega)
  have hexact : (w.position + call.hops) % s.numberOfChannels.toNat =
      ((w.channelNumber.toNat + call.addend s) % s.numberOfChannels.toNat : Nat) := by
    have hposition : w.position ≡ w.channelNumber.toNat [ZMOD s.numberOfChannels.toNat] := by
      rw [hw]
      exact (Int.mod_modEq ..).symm
    push_cast
    exact hposition.add (addend_modEq call hn).symm
  rw [OnTrack,Walk.hop,hexact,target_toNat _ _ hn,NoWrap,Nat.cast_inj,
    mod_wrap_iff (by omega) (by omega)]
  omega

theorem noWrap_of_le {w : Walk} (hn : s.numberOfChannels.toNat ≤ 128)
    (hw : w.channelNumber.toNat < s.numberOfChannels.toNat) (call : HopCall) :
    NoWrap s w call := by
  rw [NoWrap]
  cases call with
  | hopChannel => rw [HopCall.addend]; omega
  | hopChannelReverse => rw [HopCall.addend]; omega
  | delayedHops k => rw [HopCall.addend]; omega

theorem onTrack_start {start : UInt8} (hstart : start < s.numberOfChannels) :
    OnTrack s ⟨start,start.toNat⟩ := by
  have hlt := UInt8.lt_iff_toNat_lt.mp hstart
  exact (Int.emod_eq_of_lt (Int.natCast_nonneg _) (Int.ofNat_lt.mpr hlt)).symm

/-- The walk follows the hops exactly as long as no sum wraps. -/
theorem always_onTrack_iff {w : Walk} (hn : 0 < s.numberOfChannels.toNat) (hw : OnTrack s w)
    (calls : List HopCall) :
    Always (Walk.hop s) (OnTrack s) w calls ↔ Along (Walk.hop s) (NoWrap s) w calls :=
  always_iff_along (fun _ call hw hfits => (onTrack_hop_iff hn hw call).mpr hfits)
    (fun w (hw : OnTrack s w) => hw)
    (fun _ call hw hnext => (onTrack_hop_iff hn hw call).mp hnext) hw calls

theorem target_reverse (hn : s.numberOfChannels.toNat ≤ 128) {c : UInt8} {p : Int}
    (hc : (c.toNat : Int) = p % s.numberOfChannels.toNat) (hpos : 0 < s.numberOfChannels.toNat) :
    ((HopCall.hopChannelReverse.target s c).toNat : Int) = (p - 1) % s.numberOfChannels.toNat := by
  have hlt : c.toNat < s.numberOfChannels.toNat := by
    have hmod := Int.emod_lt_of_pos p (by omega : (0 : Int) < s.numberOfChannels.toNat)
    omega
  have hw : OnTrack s ⟨c,p⟩ := hc
  exact (onTrack_hop_iff hpos hw .hopChannelReverse).mpr (noWrap_of_le hn hlt _)

/-- Without a wrap the scan goes down the table. -/
theorem reverseScan_eq (hn : s.numberOfChannels.toNat ≤ 128) (hpos : 0 < s.numberOfChannels.toNat)
    (n : Nat) {c : UInt8} {p : Int} (hc : (c.toNat : Int) = p % s.numberOfChannels.toNat) :
    (reverseScan s n c).map (fun c => (c.toNat : Int)) =
      (List.range n).map fun (i : Nat) => (p - 1 - i) % s.numberOfChannels.toNat := by
  induction n generalizing c p with
  | zero => rfl
  | succ n ih =>
    have hnext := target_reverse hn hc hpos
    rw [reverseScan,List.map_cons,ih hnext,hnext,List.range_succ_eq_map,List.map_cons,
      List.map_map]
    congr 1
    · simp
    · apply List.map_congr_left
      intro i _
      change (p - 1 - 1 - (i : Int)) % _ = (p - 1 - ((i + 1 : Nat) : Int)) % _
      congr 1
      omega

theorem length_reverseScan (n : Nat) (c : UInt8) : (reverseScan s n c).length = n := by
  induction n generalizing c with
  | zero => rfl
  | succ n ih => rw [reverseScan,List.length_cons,ih]

theorem reverseScan_lt (hpos : 0 < s.numberOfChannels.toNat) {n : Nat} {c channel : UInt8}
    (h : channel ∈ reverseScan s n c) : channel.toNat < s.numberOfChannels.toNat := by
  induction n generalizing c with
  | zero => cases h
  | succ n ih =>
    rcases List.mem_cons.mp h with rfl | h
    · exact target_lt _ _ hpos
    · exact ih h

theorem nodup_reverseScan (hn : s.numberOfChannels.toNat ≤ 128) {start : UInt8}
    (hstart : start < s.numberOfChannels) :
    (reverseScan s s.numberOfChannels.toNat start).Nodup := by
  have hlt := UInt8.lt_iff_toNat_lt.mp hstart
  have hpos : 0 < s.numberOfChannels.toNat := by omega
  have hnodup : ((List.range s.numberOfChannels.toNat).map fun (i : Nat) =>
      ((start.toNat : Int) - 1 - i) % s.numberOfChannels.toNat).Nodup := by
    apply List.nodup_range.map_on
    intro i hi j hj hij
    rw [List.mem_range] at hi hj
    -- Two positions less than a table apart with one remainder are the same.
    have hdvd := Int.ModEq.dvd hij
    have hzero := Int.eq_zero_of_abs_lt_dvd hdvd (by rw [abs_lt]; omega)
    omega
  rw [← reverseScan_eq hn hpos _ (onTrack_start hstart)] at hnodup
  exact hnodup.of_map

/-- The last channel but one is reached in reverse only from the last one, and
that hop wraps in a table of more than 128 channels. -/
theorem target_ne_of_wrap (hn : 128 < s.numberOfChannels.toNat) {c : UInt8}
    (hc : c.toNat < s.numberOfChannels.toNat) :
    (HopCall.hopChannelReverse.target s c).toNat ≠ s.numberOfChannels.toNat - 2 := by
  have hlt := s.numberOfChannels.toNat_lt
  rw [target_toNat _ _ (by omega),HopCall.addend]
  by_cases hwrap : c.toNat + (s.numberOfChannels.toNat - 1) < 256
  · rw [Nat.mod_eq_of_lt hwrap]
    by_cases hzero : c.toNat = 0
    · rw [hzero,Nat.mod_eq_of_lt (by omega)]
      omega
    · rw [Nat.mod_eq_sub_mod (by omega),Nat.mod_eq_of_lt (by omega)]
      omega
  · have hrest : (c.toNat + (s.numberOfChannels.toNat - 1)) % 256 =
        c.toNat + (s.numberOfChannels.toNat - 1) - 256 := by omega
    rw [hrest,Nat.mod_eq_of_lt (by omega)]
    omega

theorem notMem_reverseScan (hn : 128 < s.numberOfChannels.toNat) {n : Nat} {c channel : UInt8}
    (hc : c.toNat < s.numberOfChannels.toNat) (hchannel : channel ∈ reverseScan s n c) :
    channel.toNat ≠ s.numberOfChannels.toNat - 2 := by
  induction n generalizing c with
  | zero => cases hchannel
  | succ n ih =>
    rcases List.mem_cons.mp hchannel with rfl | hchannel
    · exact target_ne_of_wrap hn hc
    · exact ih (target_lt _ _ (by omega)) hchannel

/-- As many reverse hops as channels visit each of them once exactly if the
table has 128 channels at most. -/
theorem reverseScan_visits_iff {start : UInt8} (hstart : start < s.numberOfChannels) :
    (∀ channel < s.numberOfChannels,
        (reverseScan s s.numberOfChannels.toNat start).count channel = 1) ↔
      s.numberOfChannels.toNat ≤ 128 := by
  have hlt := UInt8.lt_iff_toNat_lt.mp hstart
  have hmax := s.numberOfChannels.toNat_lt
  constructor
  · intro h
    by_contra hn
    have hmissed : (UInt8.ofNat (s.numberOfChannels.toNat - 2)).toNat =
        s.numberOfChannels.toNat - 2 := by
      rw [UInt8.toNat_ofNat']
      exact Nat.mod_eq_of_lt (by omega)
    have hone := h (UInt8.ofNat (s.numberOfChannels.toNat - 2))
      (UInt8.lt_iff_toNat_lt.mpr (by omega))
    have hmem := List.count_pos_iff.mp (hone.symm ▸ Nat.one_pos)
    exact notMem_reverseScan (by omega) hlt hmem hmissed
  · intro hn channel hchannel
    have hnodup := nodup_reverseScan hn hstart
    -- A list without repetition of as many channels as there are has them all.
    have hmap : ((reverseScan s s.numberOfChannels.toNat start).map UInt8.toNat).Perm
        (List.range s.numberOfChannels.toNat) := by
      apply (List.subperm_of_subset (hnodup.map fun _ _ => UInt8.toNat_inj.mp) _).perm_of_length_le
      · rw [List.length_map,length_reverseScan,List.length_range]
      · intro x hx
        obtain ⟨c,hc,rfl⟩ := List.mem_map.mp hx
        exact List.mem_range.mpr (reverseScan_lt (by omega) hc)
    have hmem := hmap.mem_iff.mpr (List.mem_range.mpr (UInt8.lt_iff_toNat_lt.mp hchannel))
    obtain ⟨c,hc,hcc⟩ := List.mem_map.mp hmem
    rw [UInt8.toNat_inj.mp hcc] at hc
    exact List.count_eq_one_of_mem hnodup hc

end

/-- Hopping is cyclic exactly as long as no sum of a channel and a call wraps
at 256, and a scan in reverse visits every channel once exactly in tables of
128 channels at most. -/
theorem hopping_cyclic_iff (s : Settings) (start : UInt8) (hstart : start < s.numberOfChannels) :
    (∀ calls : List HopCall,
      (∀ fs, fs <+: calls →
        ((run (Walk.hop s) ⟨start,start.toNat⟩ fs).channelNumber.toNat : Int) =
          (start.toNat + (fs.map HopCall.hops).sum) % s.numberOfChannels.toNat) ↔
        Along (Walk.hop s) (NoWrap s) ⟨start,start.toNat⟩ calls) ∧
      ((∀ channel < s.numberOfChannels,
          (reverseScan s s.numberOfChannels.toNat start).count channel = 1) ↔
        s.numberOfChannels.toNat ≤ 128) := by
  have hlt := UInt8.lt_iff_toNat_lt.mp hstart
  constructor
  · intro calls
    rw [← always_onTrack_iff (by omega) (onTrack_start hstart)]
    simp only [Always,OnTrack,position_run]
  · exact reverseScan_visits_iff hstart

theorem hopping_cyclic_default :
    (reverseScan defaultSettings defaultSettings.numberOfChannels.toNat 0).count 49 = 1 :=
  (hopping_cyclic_iff defaultSettings 0 (by decide)).2.mpr (by decide) 49 (by decide)

def manyChannels : Settings := { defaultSettings with numberOfChannels := 129 }

/-- From channel 128 of 129 the hop in reverse leads to channel 0, and a whole
scan misses channel 127. -/
theorem reverse_hop_leaves_cycle :
    ((run (Walk.hop manyChannels) ⟨128,128⟩ [.hopChannelReverse]).channelNumber.toNat : Int) ≠
        (128 + ([HopCall.hopChannelReverse].map HopCall.hops).sum) %
          manyChannels.numberOfChannels.toNat ∧
      (reverseScan manyChannels manyChannels.numberOfChannels.toNat 128).count 127 = 0 := by
  decide

end LoRaSerial.Hopping
