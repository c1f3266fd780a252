import LoRaSerial.HopTable
import Mathlib.Algebra.Ring.Divisibility.Basic
import Mathlib.Data.Int.ModEq
import Mathlib.Tactic.LinearCombination
import Mathlib.Tactic.Ring

namespace LoRaSerial

/-- The channel timer. millis() is counted in 32 bits. -/
structure ChannelTimer where
  channelNumber : UInt8
  channelTimerMsec : UInt16
  channelTimerStart : UInt32
  timeToHop : Bool
  reloadChannelTimer : Bool
  deriving DecidableEq, Repr

/-- A value stored in an int16_t. -/
def int16 (x : Int) : Int := x.bmod 65536

theorem int16_of_range {x : Int} (hlow : -32768 ≤ x) (hhigh : x ≤ 32767) : int16 x = x := by
  rw [int16,Int.bmod]
  split <;> omega

namespace ChannelTimer

def stopChannelTimer (t : ChannelTimer) : ChannelTimer :=
  { t with channelTimerMsec := 0, timeToHop := false }

/-- ISR that fires when channel timer expires. -/
def channelTimerHandler (t : ChannelTimer) (s : Settings) (millis : UInt32) : ChannelTimer :=
  { t with
    channelTimerStart := millis
    reloadChannelTimer := false
    channelTimerMsec := if t.reloadChannelTimer then s.maxDwellTime else t.channelTimerMsec
    timeToHop := s.frequencyHop || t.timeToHop }

/-- Move forward by this many channels. -/
def hopChannel (t : ChannelTimer) (s : Settings) (channelCount : UInt8) : ChannelTimer :=
  { t with timeToHop := false, channelNumber := hopTarget true channelCount t.channelNumber s }

section

variable (t : ChannelTimer) (s : Settings) (currentMillis : UInt32)
variable (msToNextHopRemote : Int) (frameAirTimeMsec : UInt16)

def rmtHopTimeMsec : Int := int16 (msToNextHopRemote - frameAirTimeMsec.toNat)

/-- The time since the local timer was started. -/
def elapsed : Nat := (currentMillis - t.channelTimerStart).toNat

def lclHopTimeMsec : Int := int16 (t.elapsed currentMillis)

/-- The remote has hopped or is likely to hop very soon. -/
def remoteHops : Prop := rmtHopTimeMsec msToNextHopRemote frameAirTimeMsec ≤ 2

/-- Case 2, the local system did not hop. The comparison is unsigned. -/
def localDidNotHop : Prop :=
  remoteHops msToNextHopRemote frameAirTimeMsec ∧
    ¬(0 ≤ t.lclHopTimeMsec currentMillis ∧
      t.lclHopTimeMsec currentMillis ≤ frameAirTimeMsec.toNat + 2)

instance : Decidable (remoteHops msToNextHopRemote frameAirTimeMsec) :=
  inferInstanceAs (Decidable (_ ≤ _))

instance : Decidable (t.localDidNotHop currentMillis msToNextHopRemote frameAirTimeMsec) :=
  inferInstanceAs (Decidable (_ ∧ _))

/-- For low airspeeds multiple hops may occur resulting in a negative value.
The dwell time is at most 32767 here, so the sum fits 16 bits. -/
def skipHops (maxDwellTime : Nat) (msToNextHop : Int) : Int :=
  if 0 < maxDwellTime ∧ msToNextHop ≤ 0 then skipHops maxDwellTime (msToNextHop + maxDwellTime)
  else msToNextHop
termination_by (1 - msToNextHop).toNat

def msToNextHop : Int :=
  let rmtHopTime := rmtHopTimeMsec msToNextHopRemote frameAirTimeMsec
  skipHops s.maxDwellTime.toNat
    (if remoteHops msToNextHopRemote frameAirTimeMsec then
      int16 (rmtHopTime + s.maxDwellTime.toNat)
    else rmtHopTime)

/-- The next hop is very nearly a dwell time away. -/
def nearDwell : Prop :=
  ((s.maxDwellTime.toNat : Int) - msToNextHop s msToNextHopRemote frameAirTimeMsec).natAbs ≤ 3

instance : Decidable (nearDwell s msToNextHopRemote frameAirTimeMsec) :=
  inferInstanceAs (Decidable (_ ≤ _))

def delayedHopCount : Nat :=
  t.timeToHop.toNat +
    (if t.localDidNotHop currentMillis msToNextHopRemote frameAirTimeMsec then 1 else 0) +
    (if nearDwell s msToNextHopRemote frameAirTimeMsec then 1 else 0)

end

/-- Given the remote unit's number of ms before its next hop, adjust our own
channelTimer interrupt to be synchronized with the remote unit. -/
def syncChannelTimer (t : ChannelTimer) (s : Settings) (clockSyncReceiver : Bool)
    (currentMillis : UInt32) (msToNextHopRemote : Int) (frameAirTimeMsec : UInt16) :
    ChannelTimer :=
  if clockSyncReceiver = false ∨ s.frequencyHop = false then t
  else
    let hops := t.delayedHopCount s currentMillis msToNextHopRemote frameAirTimeMsec
    let restarted := { t with
      reloadChannelTimer := true
      timeToHop := false
      channelTimerStart := currentMillis
      channelTimerMsec :=
        UInt16.ofNat (msToNextHop s msToNextHopRemote frameAirTimeMsec).toNat }
    if hops = 0 then restarted else restarted.hopChannel s (UInt8.ofNat hops)

/-- The position in the hop schedule, in ms. A hop that is due counts as done. -/
def schedule (t : ChannelTimer) (s : Settings) (millis : UInt32) : Int :=
  (t.channelNumber.toNat + t.timeToHop.toNat) * s.maxDwellTime.toNat -
    (t.channelTimerMsec.toNat - t.elapsed millis)

/-- The time to the sender's next hop, if its hop at the time of the stamp is x
ms away from now: x up to whole dwell times, and at least one ms. -/
def senderMsToHop (dwell x : Int) : Int := (x - 1) % dwell + 1

/-- The number of hops the sender is ahead of a receiver that has `left` ms to
its next hop, when their schedules differ by 2 ms at most. -/
def hopsAhead (dwell x left : Int) : Int := (senderMsToHop dwell x - left + 2) / dwell

theorem senderMsToHop_range {dwell : Int} (hd : 0 < dwell) (x : Int) :
    1 ≤ senderMsToHop dwell x ∧ senderMsToHop dwell x ≤ dwell := by
  have hlow := Int.emod_nonneg (x - 1) (by omega : dwell ≠ 0)
  have hhigh := Int.emod_lt_of_pos (x - 1) hd
  rw [senderMsToHop]
  omega

theorem senderMsToHop_add (dwell x : Int) :
    senderMsToHop dwell (x + dwell) = senderMsToHop dwell x := by
  have h : x + dwell - 1 = x - 1 + dwell := by omega
  rw [senderMsToHop,senderMsToHop,h,Int.add_emod_right]

theorem senderMsToHop_of_range {dwell x : Int} (hlow : 1 ≤ x) (hhigh : x ≤ dwell) :
    senderMsToHop dwell x = x := by
  rw [senderMsToHop,Int.emod_eq_of_lt (by omega) (by omega)]
  omega

/-- Of two schedules within 2 ms of each other, hopping k times and setting the
timer u dwell times past the sender's next hop makes the one the other exactly
if k - u is the number of hops the sender is ahead, modulo the channels. -/
theorem schedule_joins_iff {dwell channels a c x left skew k u : Int} (hd : 4 < dwell)
    (hskew : -2 ≤ skew ∧ skew ≤ 2)
    (hbefore : a * dwell - left ≡ c * dwell - x + skew [ZMOD channels * dwell]) :
    (a + k) * dwell - (senderMsToHop dwell x + u * dwell) ≡ c * dwell - x
        [ZMOD channels * dwell] ↔
      channels ∣ k - u - hopsAhead dwell x left := by
  obtain ⟨z,hz⟩ := Int.modEq_iff_dvd.mp hbefore
  have hx : dwell * ((x - 1) / dwell) + (x - 1) % dwell = x - 1 := Int.mul_ediv_add_emod ..
  generalize hw : (x - 1) / dwell = w at hx
  have hsender : senderMsToHop dwell x = x - dwell * w := by
    rw [senderMsToHop]
    omega
  -- The difference of the schedules is a whole number of dwell times and the skew.
  have hahead : hopsAhead dwell x left = c - a - w - channels * z := by
    have hsum : senderMsToHop dwell x - left + 2 =
        (skew + 2) + dwell * (c - a - w - channels * z) := by
      rw [hsender]
      linear_combination -hz
    rw [hopsAhead,hsum,Int.add_mul_ediv_left _ _ (by omega),
      Int.ediv_eq_zero_of_lt (by omega) (by omega),zero_add]
  have hdiff : c * dwell - x - ((a + k) * dwell - (senderMsToHop dwell x + u * dwell)) =
      (channels * z - (k - u - hopsAhead dwell x left)) * dwell := by
    rw [hahead,hsender]
    ring
  rw [Int.modEq_iff_dvd,hdiff,mul_dvd_mul_iff_right (by omega)]
  exact dvd_sub_right (dvd_mul_right _ _)

end ChannelTimer

end LoRaSerial
