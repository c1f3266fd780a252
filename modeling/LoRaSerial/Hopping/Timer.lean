import LoRaSerial.ChannelSync
import LoRaSerial.Lib.Loops
import Mathlib.Data.Nat.Prime.Basic

namespace LoRaSerial.Hopping

open ChannelTimer Loops

/-- The channel timer with its hardware: the interval last given to
setInterval_MS, and whether the timer is enabled. -/
structure HopTimer extends ChannelTimer where
  interval : Int
  enabled : Bool
  deriving DecidableEq, Repr

section

variable (s : Settings) (msToNextHopRemote : Int) (frameAirTimeMsec : UInt16)

def adjustment : Int :=
  if remoteHops msToNextHopRemote frameAirTimeMsec then int16 s.maxDwellTime.toNat else 0

/-- The next hop time before the loop. -/
def firstHopTime : Int :=
  int16 (rmtHopTimeMsec msToNextHopRemote frameAirTimeMsec +
    adjustment s msToNextHopRemote frameAirTimeMsec)

def addDwell (msToNextHop : Int) : Int := int16 (msToNextHop + s.maxDwellTime.toNat)

/-- The loop for low airspeeds, given up after this many tests. -/
def nextHopTime (tests : Nat) : Option Int :=
  loop (addDwell s) (0 < ·) tests (firstHopTime s msToNextHopRemote frameAirTimeMsec)

def delayedHops (t : ChannelTimer) (currentMillis : UInt32) (msToNextHop : Int) : Nat :=
  t.timeToHop.toNat +
    (if t.localDidNotHop currentMillis msToNextHopRemote frameAirTimeMsec then 1 else 0) +
    (if ((s.maxDwellTime.toNat : Int) - msToNextHop).natAbs ≤ 3 then 1 else 0)

end

namespace HopTimer

/-- The parameter is an int16_t. -/
def startChannelTimer (t : HopTimer) (s : Settings) (millis : UInt32) (startAmount : Int) :
    HopTimer :=
  { t with
    interval := startAmount
    reloadChannelTimer := startAmount ≠ s.maxDwellTime.toNat
    timeToHop := false
    channelTimerStart := millis
    channelTimerMsec := UInt16.ofInt startAmount
    enabled := true }

/-- startChannelTimer without an argument. -/
def start (t : HopTimer) (s : Settings) (millis : UInt32) : HopTimer :=
  t.startChannelTimer s millis (int16 s.maxDwellTime.toNat)

def stop (t : HopTimer) : HopTimer :=
  { t with toChannelTimer := t.toChannelTimer.stopChannelTimer, enabled := false }

def channelTimerHandler (t : HopTimer) (s : Settings) (millis : UInt32) : HopTimer :=
  { t with
    toChannelTimer := t.toChannelTimer.channelTimerHandler s millis
    interval := if t.reloadChannelTimer then s.maxDwellTime.toNat else t.interval }

/-- The end of syncChannelTimer, which restarts the timer and hops. -/
def restart (t : HopTimer) (s : Settings) (currentMillis : UInt32) (msToNextHopRemote : Int)
    (frameAirTimeMsec : UInt16) (msToNextHop : Int) : HopTimer :=
  let hops := delayedHops s msToNextHopRemote frameAirTimeMsec t.toChannelTimer currentMillis
    msToNextHop
  { t with
    reloadChannelTimer := true
    timeToHop := false
    interval := msToNextHop
    channelTimerStart := currentMillis
    channelTimerMsec := UInt16.ofInt msToNextHop
    enabled := true
    channelNumber :=
      if hops = 0 then t.channelNumber else hopTarget true (UInt8.ofNat hops) t.channelNumber s }

/-- syncChannelTimer, whose loop may not end. -/
def syncChannelTimer (tests : Nat) (t : HopTimer) (s : Settings) (clockSyncReceiver : Bool)
    (currentMillis : UInt32) (msToNextHopRemote : Int) (frameAirTimeMsec : UInt16) :
    Option HopTimer :=
  if clockSyncReceiver = false ∨ s.frequencyHop = false then some t
  else (nextHopTime s msToNextHopRemote frameAirTimeMsec tests).map
    (t.restart s currentMillis msToNextHopRemote frameAirTimeMsec)

section

variable (t : HopTimer) (s : Settings) (millis : UInt32) (startAmount : Int)

@[simp] theorem interval_startChannelTimer :
    (t.startChannelTimer s millis startAmount).interval = startAmount := rfl

@[simp] theorem msec_startChannelTimer :
    (t.startChannelTimer s millis startAmount).channelTimerMsec = UInt16.ofInt startAmount := rfl

@[simp] theorem reload_startChannelTimer :
    (t.startChannelTimer s millis startAmount).reloadChannelTimer =
      decide (startAmount ≠ s.maxDwellTime.toNat) := rfl

@[simp] theorem channel_startChannelTimer :
    (t.startChannelTimer s millis startAmount).channelNumber = t.channelNumber := rfl

@[simp] theorem channel_start : (t.start s millis).channelNumber = t.channelNumber := by
  rw [start,channel_startChannelTimer]

@[simp] theorem interval_start : (t.start s millis).interval = int16 s.maxDwellTime.toNat := by
  rw [start,interval_startChannelTimer]

@[simp] theorem msec_start :
    (t.start s millis).channelTimerMsec = UInt16.ofInt (int16 s.maxDwellTime.toNat) := by
  rw [start,msec_startChannelTimer]

@[simp] theorem reload_start : (t.start s millis).reloadChannelTimer =
    decide (int16 s.maxDwellTime.toNat ≠ s.maxDwellTime.toNat) := by
  rw [start,reload_startChannelTimer]

end

end HopTimer

end LoRaSerial.Hopping
