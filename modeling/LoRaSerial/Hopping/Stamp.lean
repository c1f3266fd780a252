import LoRaSerial.Hopping.Clock

namespace LoRaSerial.Hopping

open ChannelTimer Loops Runs

namespace Clock

/-- The channel timer value that transmitDatagram puts in a frame: a hop that is
due is done first. -/
def loadChannelTimer (c : Clock) (s : Settings) : Clock × UInt16 :=
  let c := if c.timeToHop then c.hop s .hopChannel else c
  let msToNextHop :=
    if c.channelTimerMsec ≠ 0 then
      (c.channelTimerMsec.toUInt32 - (c.millis - c.channelTimerStart)).toUInt16
    else s.maxDwellTime
  (c,msToNextHop)

/-- What the radio transmits is in the range that its receivers assume. -/
def StampInRange (s : Settings) (c : Option Clock) : Prop :=
  ∀ c', c = some c' → (c'.loadChannelTimer s).2 ≤ s.maxDwellTime

end Clock

/-- The remote hop time, in 16 bits, is at most the dwell time, and 1 or 2 only
if the dwell time added to it passes 32767. -/
def HopTimeFits (s : Settings) (m : Int) (e : UInt16) : Prop :=
  rmtHopTimeMsec m e ≤ s.maxDwellTime.toNat ∧
    (rmtHopTimeMsec m e = 1 ∨ rmtHopTimeMsec m e = 2 →
      32767 < rmtHopTimeMsec m e + s.maxDwellTime.toNat)

instance (s : Settings) (m : Int) (e : UInt16) : Decidable (HopTimeFits s m e) :=
  inferInstanceAs (Decidable (_ ∧ _))

def Event.Fits (s : Settings) : Event → Prop
  | .syncChannelTimer true m e => HopTimeFits s m e
  | .joinServer _ m e => HopTimeFits s m e
  | _ => True

instance (s : Settings) (event : Event) : Decidable (event.Fits s) := by
  cases event with
  | syncChannelTimer receiver m e =>
    cases receiver with
    | true => exact inferInstanceAs (Decidable (HopTimeFits s m e))
    | false => exact inferInstanceAs (Decidable True)
  | joinServer lead m e => exact inferInstanceAs (Decidable (HopTimeFits s m e))
  | _ => exact inferInstanceAs (Decidable True)

section

variable {s : Settings} {m : Int} {e : UInt16}

theorem firstHopTime_le_iff (hdwell : s.maxDwellTime.toNat ≤ 32767) :
    firstHopTime s m e ≤ s.maxDwellTime.toNat ↔ HopTimeFits s m e := by
  have hrange := int16_range (m - e.toNat)
  have hint : int16 s.maxDwellTime.toNat = s.maxDwellTime.toNat :=
    int16_of_range (by omega) (by omega)
  rw [firstHopTime,adjustment,hint,HopTimeFits]
  split
  next hsoon =>
    rw [remoteHops] at hsoon
    rw [rmtHopTimeMsec] at hsoon ⊢
    generalize int16 (m - e.toNat) = r at hrange hsoon
    by_cases hfits : r + s.maxDwellTime.toNat ≤ 32767
    · rw [int16_of_range (by omega) hfits]
      omega
    · have hwrap : int16 (r + s.maxDwellTime.toNat) < 0 := by
        have hmod := Int.bmod_emod (x := r + s.maxDwellTime.toNat) (m := 65536)
        have hrange := int16_range (r + s.maxDwellTime.toNat)
        change int16 (r + s.maxDwellTime.toNat) % 65536 = _ at hmod
        omega
      omega
  next hlater =>
    rw [remoteHops] at hlater
    rw [rmtHopTimeMsec] at hlater ⊢
    generalize int16 (m - e.toNat) = r at hrange hlater
    rw [add_zero,int16_of_range (by omega) (by omega)]
    omega

/-- The loop ends in the range exactly if it starts there. -/
theorem nextHopTime_le_iff (hdwell : s.maxDwellTime.toNat ≤ 32767) {tests : Nat} {y : Int}
    (hy : nextHopTime s m e tests = some y) :
    y ≤ s.maxDwellTime.toNat ↔ HopTimeFits s m e := by
  rw [← firstHopTime_le_iff hdwell]
  constructor
  · intro hle
    by_contra hfirst
    cases tests with
    | zero => cases hy
    | succ n =>
      rw [nextHopTime,loop_of_stop (by omega),Option.some.injEq] at hy
      omega
  · intro hfirst
    have hrange := firstHopTime_range s m e
    have hstep (x : Int) (hx : ¬0 < x) (hinv : x ≤ s.maxDwellTime.toNat ∧ -32768 ≤ x) :
        addDwell s x ≤ s.maxDwellTime.toNat ∧ -32768 ≤ addDwell s x := by
      have hadd : addDwell s x = x + s.maxDwellTime.toNat := int16_of_range (by omega) (by omega)
      omega
    exact (loop_invariant _ hstep ⟨hfirst,hrange.1⟩ hy).2.1

theorem exists_nextHopTime (hd : 0 < s.maxDwellTime.toNat) (hdwell : s.maxDwellTime.toNat ≤ 32767)
    (m : Int) (e : UInt16) : ∃ y, nextHopTime s m e 65536 = some y :=
  exists_loop_iff.mpr (exists_positive hd (.inl (by omega)))

end

namespace Clock

section

variable {s : Settings} {c : Clock}

theorem remaining_toNat (h : c.sinceStart ≤ c.channelTimerMsec.toNat) :
    (c.channelTimerMsec.toUInt32 - (c.millis - c.channelTimerStart)).toNat = c.left := by
  have hle : c.millis - c.channelTimerStart ≤ c.channelTimerMsec.toUInt32 := by
    rw [UInt32.le_iff_toNat_le,UInt16.toNat_toUInt32]
    exact h
  rw [UInt32.toNat_sub_of_le _ _ hle,UInt16.toNat_toUInt32]
  rfl

theorem stamp_eq (c : Clock) (s : Settings) : (c.loadChannelTimer s).2 =
    if c.channelTimerMsec ≠ 0 then
      (c.channelTimerMsec.toUInt32 - (c.millis - c.channelTimerStart)).toUInt16
    else s.maxDwellTime := by
  rw [loadChannelTimer]
  cases c.timeToHop with
  | true => rfl
  | false => rfl

/-- The stamp of a timer that is on is the time to the next interrupt. -/
theorem stamp_toNat (hmsec : c.channelTimerMsec ≠ 0)
    (h : c.sinceStart ≤ c.channelTimerMsec.toNat) : (c.loadChannelTimer s).2.toNat = c.left := by
  have hlt := c.channelTimerMsec.toNat_lt
  have hleft : c.left ≤ c.channelTimerMsec.toNat := Nat.sub_le ..
  rw [stamp_eq,if_pos hmsec,UInt32.toNat_toUInt16,remaining_toNat h]
  exact Nat.mod_eq_of_lt (by omega)

/-- The timer is programmed in the range, and with the dwell time at most. -/
structure InRange (s : Settings) (c : Clock) : Prop extends c.Sound s where
  msec : c.channelTimerMsec ≤ s.maxDwellTime
  positive : c.enabled = true → 0 < c.interval

theorem InRange.stamp (h : c.InRange s) : (c.loadChannelTimer s).2 ≤ s.maxDwellTime := by
  rw [UInt16.le_iff_toNat_le]
  by_cases hmsec : c.channelTimerMsec = 0
  · rw [stamp_eq,if_neg (not_not_intro hmsec)]
  · have henabled : c.enabled = true := by
      by_contra hoff
      exact hmsec (h.stopped (by simpa using hoff))
    have hsince := (h.interval henabled (h.positive henabled)).2
    have hle := UInt16.le_iff_toNat_le.mp h.msec
    rw [stamp_toNat hmsec hsince,left]
    omega

/-- After a synchronization the stamp is the new timer value. -/
theorem stamp_restart {m y : Int} {e : UInt16} (hy : 0 < y ∧ y ≤ 32767) :
    (((({ c with toHopTimer := c.toHopTimer.restart s c.millis m e y } : Clock).loadChannelTimer
      s).2.toNat : Int)) = y := by
  have hmsec : ((UInt16.ofInt y).toNat : Int) = y := toNat_ofInt (by omega) (by omega)
  have hsince : ({ c with
      toHopTimer := c.toHopTimer.restart s c.millis m e y } : Clock).sinceStart = 0 :=
    sinceStart_of_start rfl
  have hne : UInt16.ofInt y ≠ 0 := by
    intro hzero
    rw [hzero] at hmsec
    change (0 : Int) = y at hmsec
    omega
  rw [stamp_toNat hne (by rw [hsince]; exact Nat.zero_le _),left,hsince]
  exact hmsec

end

section

variable {s : Settings} {c : Clock} {m : Int} {e : UInt16}

/-- A synchronization leaves the stamp in range exactly if the hop time fits. -/
theorem sync_inRange_iff (hhop : s.frequencyHop = true)
    (hd : 0 < s.maxDwellTime.toNat) (hdwell : s.maxDwellTime.toNat ≤ 32767) :
    ∃ c', c.sync s true m e = some c' ∧ (HopTimeFits s m e → c'.InRange s) ∧
      ((c'.loadChannelTimer s).2 ≤ s.maxDwellTime → HopTimeFits s m e) := by
  obtain ⟨y,hy⟩ := exists_nextHopTime hd hdwell m e
  have hrange := nextHopTime_range hy
  have hle := nextHopTime_le_iff hdwell hy
  have hsync : c.sync s true m e =
      some { c with toHopTimer := c.toHopTimer.restart s c.millis m e y } := by
    rw [sync,HopTimer.syncChannelTimer,if_neg (by simp [hhop]),hy]
    rfl
  refine ⟨_,hsync,?_,?_⟩
  · intro hfits
    have hmsec : ((UInt16.ofInt y).toNat : Int) = y := toNat_ofInt (by omega) (by omega)
    have hbound := hle.mpr hfits
    exact ⟨sound_restart hrange c m e,
      UInt16.le_iff_toNat_le.mpr (show (UInt16.ofInt y).toNat ≤ _ by omega),fun _ => hrange.1⟩
  · intro hstamp
    have hvalue := stamp_restart (c := c) (s := s) (m := m) (e := e) hrange
    rw [UInt16.le_iff_toNat_le] at hstamp
    exact hle.mp (by omega)

theorem inRange_tick (h : c.InRange s) : c.tick.InRange s := by
  have hsound := sound_tick h.toSound
  revert hsound
  rw [tick]
  split
  · exact fun _ => h
  · exact fun hsound => ⟨hsound,h.msec,h.positive⟩

theorem inRange_interrupt (hd : 0 < s.maxDwellTime.toNat) (h : c.InRange s) :
    (c.interrupt s).InRange s := by
  have hsound := sound_interrupt hd h.toSound
  revert hsound
  rw [interrupt]
  split
  · next hdue =>
    intro hsound
    refine ⟨hsound,?_,?_⟩
    · change (if c.reloadChannelTimer then s.maxDwellTime else c.channelTimerMsec) ≤ _
      split
      · exact UInt16.le_refl _
      · exact h.msec
    · intro _
      change 0 < if c.reloadChannelTimer then (s.maxDwellTime.toNat : Int) else c.interval
      split
      · omega
      · exact h.positive hdue.1
  · exact fun _ => h

theorem inRange_start (hd : 0 < s.maxDwellTime.toNat) (hdwell : s.maxDwellTime.toNat ≤ 32767)
    (c : Clock) : (c.start s).InRange s := by
  have hmsec : (c.start s).channelTimerMsec = s.maxDwellTime :=
    (HopTimer.msec_start ..).trans (ofInt_int16 _)
  have hinterval : (c.start s).interval = s.maxDwellTime.toNat :=
    (HopTimer.interval_start ..).trans (int16_of_range (by omega) (by omega))
  exact ⟨sound_start hd c,hmsec ▸ UInt16.le_refl _,fun _ => by omega⟩

theorem inRange_stop (c : Clock) (s : Settings) : c.stop.InRange s :=
  ⟨sound_stop c s,UInt16.zero_le,fun h => (nomatch h)⟩

/-- One step: it stays in range if its event fits, and has its stamp in range
only then. -/
theorem inRange_step (hhop : s.frequencyHop = true) (hd : 0 < s.maxDwellTime.toNat)
    (hdwell : s.maxDwellTime.toNat ≤ 32767) (h : c.InRange s) (event : Event) :
    ∃ c', step s c event = some c' ∧ (event.Fits s → c'.InRange s) ∧
      ((c'.loadChannelTimer s).2 ≤ s.maxDwellTime → event.Fits s) := by
  cases event with
  | tick => exact ⟨_,rfl,fun _ => inRange_tick h,fun _ => trivial⟩
  | interrupt => exact ⟨_,rfl,fun _ => inRange_interrupt hd h,fun _ => trivial⟩
  | hop call => exact ⟨_,rfl,fun _ => ⟨sound_hop h.toSound call,h.msec,h.positive⟩,fun _ => trivial⟩
  | startChannelTimer => exact ⟨_,rfl,fun _ => inRange_start hd hdwell c,fun _ => trivial⟩
  | stopChannelTimer => exact ⟨_,rfl,fun _ => inRange_stop c s,fun _ => trivial⟩
  | syncChannelTimer receiver m e =>
    cases receiver with
    | true => exact sync_inRange_iff hhop hd hdwell
    | false => exact ⟨c,rfl,fun _ => h,fun _ => trivial⟩
  | joinServer lead m e => exact sync_inRange_iff hhop hd hdwell

end

/-- The stamps of a run are all in range exactly if the hop time of every
synchronization fits. -/
theorem stamps_inRange_iff (s : Settings) (hhop : s.frequencyHop = true)
    (hdwell : 10 ≤ s.maxDwellTime.toNat ∧ s.maxDwellTime.toNat ≤ 32767) (c : Clock)
    (events : List Event) :
    Always (advance s) (StampInRange s) (some c.stop) events ↔
      ∀ event ∈ events, event.Fits s := by
  rw [← along_event_iff (advance s) (some c.stop)]
  have hstep (c : Option Clock) (event : Event) (hc : ∃ c', c = some c' ∧ c'.InRange s)
      (hfits : event.Fits s) : ∃ c', advance s c event = some c' ∧ c'.InRange s := by
    obtain ⟨c,rfl,hc⟩ := hc
    obtain ⟨c',hstep,hrange,-⟩ := inRange_step hhop (by omega) hdwell.2 hc event
    exact ⟨c',hstep,hrange hfits⟩
  have hstamp (c : Option Clock) (hc : ∃ c', c = some c' ∧ c'.InRange s) : StampInRange s c := by
    intro c' hc'
    obtain ⟨c,rfl,hc⟩ := hc
    obtain rfl := Option.some.inj hc'
    exact hc.stamp
  have honly (c : Option Clock) (event : Event) (hc : ∃ c', c = some c' ∧ c'.InRange s)
      (hafter : StampInRange s (advance s c event)) : event.Fits s := by
    obtain ⟨c,rfl,hc⟩ := hc
    obtain ⟨c',hstep,-,honly⟩ := inRange_step hhop (by omega) hdwell.2 hc event
    exact honly (hafter c' hstep)
  exact always_iff_along hstep hstamp honly ⟨c.stop,rfl,inRange_stop c s⟩ events

def idle : Clock := ⟨HopTimer.stopped,0⟩

theorem stamps_inRange_start :
    Always (advance defaultSettings) (StampInRange defaultSettings) (some idle.stop)
      [.startChannelTimer,.tick,.syncChannelTimer true 300 50,.tick] :=
  (stamps_inRange_iff defaultSettings rfl (by decide) idle _).mpr
    (by simp only [List.forall_mem_cons]; decide)

/-- The sender hops in 1 ms: the receiver sets its timer to 401 ms of 400 and
stamps its next frame with them. -/
theorem stamp_above_dwell :
    ∃ c, run (advance defaultSettings) (some idle.stop)
        [.startChannelTimer,.syncChannelTimer true 51 50] = some c ∧
      (c.loadChannelTimer defaultSettings).2 = 401 ∧ defaultSettings.maxDwellTime = 400 := by
  refine ⟨_,rfl,?_⟩
  decide

end Clock

end LoRaSerial.Hopping
