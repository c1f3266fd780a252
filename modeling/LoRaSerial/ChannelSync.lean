import LoRaSerial.ChannelTimer

namespace LoRaSerial.ChannelTimer

section

variable {dwell : Nat} {x : Int}

theorem skipHops_eq (hd : 0 < dwell) (y : Int) :
    skipHops dwell y = if 0 < y then y else senderMsToHop dwell y := by
  fun_induction skipHops dwell y with
  | case1 y h ih =>
    rw [ih,if_neg (Int.not_lt.mpr h.2)]
    split
    next hpos =>
      rw [← senderMsToHop_add,senderMsToHop_of_range (by omega) (by omega)]
    next => exact senderMsToHop_add ..
  | case2 y h => rw [if_pos (by omega)]

/-- Whether the remote hops in 1 or 2 ms, and its timer is extended. -/
def aboutToHop (x : Int) : Int := if x = 1 ∨ x = 2 then 1 else 0

/-- Whether the remote has hopped in the last 3 ms. -/
def justHopped (dwell : Nat) (x : Int) : Int :=
  if (dwell : Int) - 3 ≤ senderMsToHop dwell x then 1 else 0

theorem aboutToHop_eq (hd : 10 ≤ dwell) :
    aboutToHop x = 0 ∨ aboutToHop x = 1 ∧ senderMsToHop dwell x = x ∧ 1 ≤ x ∧ x ≤ 2 := by
  rw [aboutToHop]
  split
  next h => exact .inr ⟨rfl,senderMsToHop_of_range (by omega) (by omega),by omega,by omega⟩
  next => exact .inl rfl

end

variable {t : ChannelTimer} {s : Settings} {now : UInt32} {m : Int} {e : UInt16} {c : Nat}

/-- The 16-bit values of the computation do not overflow. -/
structure Fits (t : ChannelTimer) (s : Settings) (now : UInt32) (m : Int) (e : UInt16) : Prop where
  remote : -32768 ≤ m - e.toNat
  timer : m - e.toNat ≤ 2 → m - e.toNat + s.maxDwellTime.toNat ≤ 32767
  channel : t.channelNumber.toNat + t.timeToHop.toNat +
    ((if t.localDidNotHop now m e then 1 else 0) + justHopped s.maxDwellTime.toNat (m - e.toNat) +
      aboutToHop (m - e.toNat)) ≤ 255

theorem rmtHopTimeMsec_eq (hlow : -32768 ≤ m - e.toNat) (hm : m ≤ s.maxDwellTime.toNat)
    (hdwell : s.maxDwellTime.toNat ≤ 32767) : rmtHopTimeMsec m e = m - e.toNat :=
  int16_of_range hlow (by omega)

theorem msToNextHop_eq (hfits : Fits t s now m e) (hm : m ≤ s.maxDwellTime.toNat)
    (hdwell : 10 ≤ s.maxDwellTime.toNat ∧ s.maxDwellTime.toNat ≤ 32767) :
    msToNextHop s m e = senderMsToHop s.maxDwellTime.toNat (m - e.toNat) +
      aboutToHop (m - e.toNat) * s.maxDwellTime.toNat := by
  have hrmt := rmtHopTimeMsec_eq hfits.remote hm hdwell.2
  have htimer := hfits.timer
  have hlow := hfits.remote
  have hx : m - e.toNat ≤ s.maxDwellTime.toNat := by omega
  unfold msToNextHop
  dsimp only
  rw [skipHops_eq (by omega),hrmt,aboutToHop]
  by_cases hsoon : remoteHops m e
  · rw [if_pos hsoon]
    rw [remoteHops,hrmt] at hsoon
    generalize m - (e.toNat : Int) = x at hx htimer hlow hsoon ⊢
    rw [int16_of_range (by omega) (htimer hsoon)]
    by_cases hnow : x ≤ 0
    · rw [if_neg (by omega : ¬(x = 1 ∨ x = 2)),zero_mul,add_zero]
      split
      next hpos => rw [← senderMsToHop_add,senderMsToHop_of_range (by omega) (by omega)]
      next => exact senderMsToHop_add ..
    · rw [if_pos (by omega),if_pos (by omega : x = 1 ∨ x = 2),
        senderMsToHop_of_range (by omega) hx,one_mul]
  · rw [if_neg hsoon]
    rw [remoteHops,hrmt] at hsoon
    generalize m - (e.toNat : Int) = x at hx hsoon ⊢
    rw [if_pos (by omega),if_neg (by omega),senderMsToHop_of_range (by omega) hx]
    omega

theorem nearDwell_iff (hfits : Fits t s now m e) (hm : m ≤ s.maxDwellTime.toNat)
    (hdwell : 10 ≤ s.maxDwellTime.toNat ∧ s.maxDwellTime.toNat ≤ 32767) :
    nearDwell s m e ↔
      (s.maxDwellTime.toNat : Int) - 3 ≤ senderMsToHop s.maxDwellTime.toNat (m - e.toNat) ∨
        aboutToHop (m - e.toNat) = 1 := by
  have hrange := senderMsToHop_range
    (by omega : (0 : Int) < s.maxDwellTime.toNat) (m - e.toNat)
  rw [nearDwell,msToNextHop_eq hfits hm hdwell]
  rcases aboutToHop_eq (x := m - e.toNat) hdwell.1 with habout | ⟨habout,hsender,hx⟩
  · rw [habout]
    omega
  · rw [habout,hsender]
    omega

theorem nearDwell_eq (hfits : Fits t s now m e) (hm : m ≤ s.maxDwellTime.toNat)
    (hdwell : 10 ≤ s.maxDwellTime.toNat ∧ s.maxDwellTime.toNat ≤ 32767) :
    (if nearDwell s m e then 1 else 0 : Int) =
      justHopped s.maxDwellTime.toNat (m - e.toNat) + aboutToHop (m - e.toNat) := by
  have hiff := nearDwell_iff hfits hm hdwell
  rw [justHopped]
  rcases aboutToHop_eq (x := m - e.toNat) hdwell.1 with habout | ⟨habout,hsender,hx⟩
  · have hnear := hiff.trans (or_iff_left (by omega))
    simp only [habout,hnear,add_zero]
  · rw [if_pos (hiff.mpr (.inr habout)),habout,hsender,if_neg (by omega)]
    rfl

/-- The hops syncChannelTimer makes. -/
theorem delayedHopCount_eq (hfits : Fits t s now m e) (hm : m ≤ s.maxDwellTime.toNat)
    (hdwell : 10 ≤ s.maxDwellTime.toNat ∧ s.maxDwellTime.toNat ≤ 32767) :
    (t.delayedHopCount s now m e : Int) = t.timeToHop.toNat +
      ((if t.localDidNotHop now m e then 1 else 0) +
        justHopped s.maxDwellTime.toNat (m - e.toNat) + aboutToHop (m - e.toNat)) := by
  have hnear := nearDwell_eq hfits hm hdwell
  rw [delayedHopCount]
  push_cast
  omega

/-- The schedule of a sender that stamped the frame on channel c, m ms before
its next hop and e ms ago. -/
def senderSchedule (s : Settings) (c : Nat) (m : Int) (e : UInt16) : Int :=
  c * s.maxDwellTime.toNat - (m - e.toNat)

def cycle (s : Settings) : Int := s.numberOfChannels.toNat * s.maxDwellTime.toNat

def Joins (t : ChannelTimer) (s : Settings) (now : UInt32) (c : Nat) (m : Int) (e : UInt16) :
    Prop :=
  t.schedule s now ≡ senderSchedule s c m e [ZMOD cycle s]

instance : Decidable (t.Joins s now c m e) := inferInstanceAs (Decidable (_ % _ = _ % _))

/-- The two schedules differ by 2 ms at most. -/
def Follows (t : ChannelTimer) (s : Settings) (now : UInt32) (c : Nat) (m : Int) (e : UInt16) :
    Prop :=
  ∃ skew : Int, (-2 ≤ skew ∧ skew ≤ 2) ∧
    t.schedule s now ≡ senderSchedule s c m e + skew [ZMOD cycle s]

/-- The hops made too many: one if the sender hopped in the last 3 ms, and one
if its hop is due and the local timer was started longer ago than the frame,
less the hops that the sender is ahead. -/
def surplus (t : ChannelTimer) (s : Settings) (now : UInt32) (m : Int) (e : UInt16) : Int :=
  (if t.localDidNotHop now m e then 1 else 0) + justHopped s.maxDwellTime.toNat (m - e.toNat) -
    hopsAhead s.maxDwellTime.toNat (m - e.toNat) (t.channelTimerMsec.toNat - t.elapsed now)

theorem hopTarget_modEq {k : Nat} {channel : UInt8} (hk : channel.toNat + k ≤ 255) :
    ((hopTarget true (UInt8.ofNat k) channel s).toNat : Int) ≡ channel.toNat + k
      [ZMOD s.numberOfChannels.toNat] := by
  have hsum : (channel + UInt8.ofNat k).toNat = channel.toNat + k := by
    rw [UInt8.toNat_add,UInt8.toNat_ofNat',Nat.mod_eq_of_lt (by omega : k < 2 ^ 8)]
    exact Nat.mod_eq_of_lt (by omega)
  rw [hopTarget,if_pos rfl,UInt8.toNat_mod,hsum]
  push_cast
  exact Int.mod_modEq ..

/-- After the synchronization the schedule is the hops made and the new timer
value. -/
theorem schedule_syncChannelTimer (hhop : s.frequencyHop = true)
    (hfits : t.channelNumber.toNat + t.delayedHopCount s now m e ≤ 255)
    (hrange : 0 ≤ msToNextHop s m e ∧ msToNextHop s m e ≤ 65535) :
    (t.syncChannelTimer s true now m e).schedule s now ≡
      (t.channelNumber.toNat + t.delayedHopCount s now m e) * s.maxDwellTime.toNat -
        msToNextHop s m e [ZMOD cycle s] := by
  have htimer : ((UInt16.ofNat (msToNextHop s m e).toNat).toNat : Int) = msToNextHop s m e := by
    rw [UInt16.toNat_ofNat',Nat.mod_eq_of_lt (by omega)]
    omega
  have helapsed (t' : ChannelTimer) (h : t'.channelTimerStart = now) : t'.elapsed now = 0 := by
    rw [elapsed,h,UInt32.sub_self]
    rfl
  unfold syncChannelTimer
  rw [if_neg (by simp [hhop])]
  dsimp only
  split
  next hzero =>
    rw [schedule,helapsed _ rfl,htimer,hzero]
    simp
  next =>
    rw [schedule,hopChannel,helapsed _ rfl,htimer]
    have hchannel := (hopTarget_modEq (s := s) hfits).mul_right' (c := s.maxDwellTime.toNat)
    simpa [cycle] using hchannel.sub_right (msToNextHop s m e)

/-- A receiver that follows the sender's schedule is on it after
syncChannelTimer if the surplus is a whole number of rounds through the
channels; while nothing overflows, only then. -/
theorem sync_joins_iff (hhop : s.frequencyHop = true)
    (hdwell : 10 ≤ s.maxDwellTime.toNat ∧ s.maxDwellTime.toNat ≤ 32767)
    (hm : 0 ≤ m ∧ m ≤ s.maxDwellTime.toNat) (hfollows : t.Follows s now c m e) :
    (Fits t s now m e ∧ (s.numberOfChannels.toNat : Int) ∣ t.surplus s now m e →
        (t.syncChannelTimer s true now m e).Joins s now c m e) ∧
      (Fits t s now m e → (t.syncChannelTimer s true now m e).Joins s now c m e →
        (s.numberOfChannels.toNat : Int) ∣ t.surplus s now m e) := by
  obtain ⟨skew,hskew,hbefore⟩ := hfollows
  have hiff (hfits : Fits t s now m e) : (t.syncChannelTimer s true now m e).Joins s now c m e ↔
      (s.numberOfChannels.toNat : Int) ∣ t.surplus s now m e := by
    have hhops := delayedHopCount_eq hfits hm.2 hdwell
    have hnext := msToNextHop_eq hfits hm.2 hdwell
    have hrange := senderMsToHop_range
      (by omega : (0 : Int) < s.maxDwellTime.toNat) (m - e.toNat)
    have hbound : 0 ≤ msToNextHop s m e ∧ msToNextHop s m e ≤ 65535 := by
      rw [hnext]
      rcases aboutToHop_eq (x := m - e.toNat) hdwell.1 with habout | ⟨habout,-⟩
      · rw [habout]
        omega
      · rw [habout]
        omega
    have hchannel := hfits.channel
    have hroom : t.channelNumber.toNat + t.delayedHopCount s now m e ≤ 255 := by omega
    have hafter := schedule_syncChannelTimer hhop hroom hbound
    have hjoins := schedule_joins_iff (k := t.delayedHopCount s now m e - t.timeToHop.toNat)
      (u := aboutToHop (m - e.toNat)) (by omega : (4 : Int) < s.maxDwellTime.toNat) hskew hbefore
    rw [← hnext] at hjoins
    have hcount : ((t.channelNumber.toNat : Int) + t.timeToHop.toNat +
        (t.delayedHopCount s now m e - t.timeToHop.toNat)) =
          t.channelNumber.toNat + t.delayedHopCount s now m e := by omega
    have hsurplus : (t.delayedHopCount s now m e : Int) - t.timeToHop.toNat -
        aboutToHop (m - e.toNat) - hopsAhead s.maxDwellTime.toNat (m - e.toNat)
          (t.channelTimerMsec.toNat - t.elapsed now) = t.surplus s now m e := by
      rw [surplus]
      omega
    rw [hcount,hsurplus] at hjoins
    exact ⟨fun h => hjoins.mp (hafter.symm.trans h),fun h => hafter.trans (hjoins.mpr h)⟩
  exact ⟨fun h => (hiff h.1).mpr h.2,fun hfits h => (hiff hfits).mp h⟩

/-- A receiver on channel 5 that hopped this many ms ago. -/
def onChannel5 : ChannelTimer := ⟨5,400,0,false,false⟩

theorem follows_of_inSync (h : t.Joins s now c m e) : t.Follows s now c m e :=
  ⟨0,⟨by decide,by decide⟩,by rw [add_zero]; exact h⟩

theorem sync_joins_iff_midDwell :
    (onChannel5.syncChannelTimer defaultSettings true 100 350 50).Joins defaultSettings 100 5
      350 50 := by
  have hfits : Fits onChannel5 defaultSettings 100 350 50 :=
    ⟨by decide,by decide,by decide⟩
  have hfollows : onChannel5.Follows defaultSettings 100 5 350 50 :=
    follows_of_inSync (by decide)
  exact (sync_joins_iff rfl (by decide) (by decide) hfollows).1 ⟨hfits,by decide⟩

/-- Both radios hopped to channel 5 two ms ago, and the receiver, which is in
sync, moves to channel 6. -/
theorem sync_leaves_schedule :
    onChannel5.Joins defaultSettings 2 4 48 50 ∧
      (onChannel5.syncChannelTimer defaultSettings true 2 48 50).channelNumber = 6 ∧
      ¬(onChannel5.syncChannelTimer defaultSettings true 2 48 50).Joins defaultSettings 2 4
        48 50 := by
  have hnext : msToNextHop defaultSettings 48 50 = 398 := by
    rw [msToNextHop,skipHops]
    decide
  have hsync : onChannel5.syncChannelTimer defaultSettings true 2 48 50 =
      ⟨6,398,2,false,true⟩ := by
    have hnear : nearDwell defaultSettings 48 50 := by
      unfold nearDwell
      rw [hnext]
      decide
    have hcount : onChannel5.delayedHopCount defaultSettings 2 48 50 = 1 := by
      rw [delayedHopCount,if_pos hnear]
      decide
    rw [syncChannelTimer,hcount,hnext]
    decide
  rw [hsync]
  exact ⟨by decide,rfl,by decide⟩

end LoRaSerial.ChannelTimer
