import LoRaSerial.Hopping.Stamp

namespace LoRaSerial.Hopping

open ChannelTimer Loops Runs

namespace Clock

/-- The time in milliseconds when channel zero is reached again. The remaining
channels are counted in a uint16_t, their time in an int. -/
def mSecToChannelZero (c : Clock) (s : Settings) : UInt32 :=
  let nextChannelZeroTimeInMillis :=
    c.channelTimerMsec.toUInt32 - (c.millis - c.channelTimerStart)
  let remainingChannels :=
    UInt16.ofInt (s.numberOfChannels.toNat - 1 - c.channelNumber.toNat)
  if 0 < remainingChannels then
    nextChannelZeroTimeInMillis + UInt32.ofNat (remainingChannels.toNat * s.maxDwellTime.toNat)
  else nextChannelZeroTimeInMillis

/-- The radio enters channel 0 next after this many milliseconds, when a hop is
done as soon as it is due and an interrupt comes as soon as it is. -/
inductive EntersZeroIn (s : Settings) : Clock → Nat → Prop
  | hop {c : Clock} : c.timeToHop = true → HopCall.hopChannel.target s c.channelNumber = 0 →
      EntersZeroIn s c 0
  | pass {c : Clock} {n : Nat} : c.timeToHop = true →
      HopCall.hopChannel.target s c.channelNumber ≠ 0 →
      EntersZeroIn s (c.hop s .hopChannel) n → EntersZeroIn s c n
  | interrupt {c : Clock} {n : Nat} : c.timeToHop = false → c.Due →
      EntersZeroIn s (c.interrupt s) n → EntersZeroIn s c n
  | tick {c : Clock} {n : Nat} : c.timeToHop = false → ¬c.Due →
      EntersZeroIn s c.tick n → EntersZeroIn s c (n + 1)

section

variable {s : Settings} {c : Clock} {n : Nat}

theorem EntersZeroIn.eq_zero (h : EntersZeroIn s c n) (hp : c.timeToHop = true)
    (hzero : HopCall.hopChannel.target s c.channelNumber = 0) : n = 0 := by
  cases h with
  | hop => rfl
  | pass _ hne _ => exact absurd hzero hne
  | interrupt hq _ _ => rw [hp] at hq; cases hq
  | tick hq _ _ => rw [hp] at hq; cases hq

theorem EntersZeroIn.of_hop (h : EntersZeroIn s c n) (hp : c.timeToHop = true)
    (hne : HopCall.hopChannel.target s c.channelNumber ≠ 0) :
    EntersZeroIn s (c.hop s .hopChannel) n := by
  cases h with
  | hop _ hzero => exact absurd hzero hne
  | pass _ _ h => exact h
  | interrupt hq _ _ => rw [hp] at hq; cases hq
  | tick hq _ _ => rw [hp] at hq; cases hq

theorem EntersZeroIn.of_interrupt (h : EntersZeroIn s c n) (hp : c.timeToHop = false)
    (hdue : c.Due) : EntersZeroIn s (c.interrupt s) n := by
  cases h with
  | hop hq _ => rw [hp] at hq; cases hq
  | pass hq _ _ => rw [hp] at hq; cases hq
  | interrupt _ _ h => exact h
  | tick _ hnot _ => exact absurd hdue hnot

theorem EntersZeroIn.of_tick (h : EntersZeroIn s c n) (hp : c.timeToHop = false)
    (hdue : ¬c.Due) : ∃ k, n = k + 1 ∧ EntersZeroIn s c.tick k := by
  cases h with
  | hop hq _ => rw [hp] at hq; cases hq
  | pass hq _ _ => rw [hp] at hq; cases hq
  | interrupt _ hnow _ => exact absurd hnow hdue
  | tick _ _ h => exact ⟨_,rfl,h⟩

theorem EntersZeroIn.unique {k : Nat} (h : EntersZeroIn s c n) (h' : EntersZeroIn s c k) :
    n = k := by
  induction h generalizing k with
  | hop hp hzero => exact (h'.eq_zero hp hzero).symm
  | pass hp hne _ ih => exact ih (h'.of_hop hp hne)
  | interrupt hp hdue _ ih => exact ih (h'.of_interrupt hp hdue)
  | tick hp hdue _ ih =>
    obtain ⟨k,rfl,hk⟩ := h'.of_tick hp hdue
    rw [ih hk]

/-- The timer is running, on a channel of the table. -/
structure Running (s : Settings) (c : Clock) : Prop extends c.Sound s where
  enabled : c.enabled = true
  positive : 0 < c.interval
  channel : c.channelNumber.toNat < s.numberOfChannels.toNat

theorem Running.due_iff (h : c.Running s) : c.Due ↔ c.left = 0 := by
  obtain ⟨hinterval,hsince⟩ := h.interval h.enabled h.positive
  rw [Due,left]
  have henabled := h.enabled
  constructor
  · rintro ⟨-,hdue⟩
    omega
  · intro hleft
    exact ⟨henabled,by omega⟩

/-- A millisecond before the interrupt. -/
theorem Running.tick (h : c.Running s) (hdue : ¬c.Due) :
    c.tick.Running s ∧ c.tick.left + 1 = c.left ∧ c.tick.timeToHop = c.timeToHop ∧
      c.tick.channelNumber = c.channelNumber := by
  have hsound := sound_tick h.toSound
  have hleft := h.due_iff.not.mp hdue
  have hlt := c.channelTimerMsec.toNat_lt
  obtain ⟨hinterval,hsince⟩ := h.interval h.enabled h.positive
  have hpassed := sinceStart_passed (c := c) (by omega)
  have htick : c.tick = { c with millis := c.millis + 1 } := if_neg (fun hd => hdue hd.1)
  rw [htick] at hsound ⊢
  refine ⟨⟨hsound,h.enabled,h.positive,h.channel⟩,?_,rfl,rfl⟩
  rw [left] at hleft
  rw [left,left,hpassed]
  change c.channelTimerMsec.toNat - _ + 1 = _
  omega

/-- The interrupt asks for a hop and leaves a dwell time to the next one. -/
theorem Running.interrupt (h : c.Running s) (hhop : s.frequencyHop = true)
    (hd : 0 < s.maxDwellTime.toNat) (hdue : c.Due) :
    (c.interrupt s).Running s ∧ (c.interrupt s).left = s.maxDwellTime.toNat ∧
      (c.interrupt s).timeToHop = true ∧ (c.interrupt s).channelNumber = c.channelNumber := by
  have hsound := sound_interrupt hd h.toSound
  have hafter : c.interrupt s = { c with
      toHopTimer := c.toHopTimer.channelTimerHandler s c.millis } := if_pos hdue
  have hsince : ({ c with
      toHopTimer := c.toHopTimer.channelTimerHandler s c.millis } : Clock).sinceStart = 0 :=
    sinceStart_of_start rfl
  have hmsec : (if c.reloadChannelTimer then s.maxDwellTime else c.channelTimerMsec) =
      s.maxDwellTime := by
    split
    · rfl
    · next hreload => exact h.reload h.enabled h.positive (by simpa using hreload)
  have hinterval : 0 < if c.reloadChannelTimer then (s.maxDwellTime.toNat : Int)
      else c.interval := by
    have hpos := h.positive
    split
    · omega
    · exact hpos
  rw [hafter] at hsound ⊢
  refine ⟨⟨hsound,h.enabled,hinterval,h.channel⟩,?_,?_,rfl⟩
  · rw [left,hsince,Nat.sub_zero]
    exact congrArg UInt16.toNat hmsec
  · change (s.frequencyHop || c.timeToHop) = true
    rw [hhop,Bool.true_or]

theorem Running.hop (h : c.Running s) :
    (c.hop s .hopChannel).Running s ∧ (c.hop s .hopChannel).left = c.left ∧
      (c.hop s .hopChannel).timeToHop = false :=
  ⟨⟨sound_hop h.toSound _,h.enabled,h.positive,target_lt _ _ (Nat.zero_lt_of_lt h.channel)⟩,rfl,rfl⟩

/-- A hop forward moves to the next channel, and from the last one to channel 0. -/
theorem next_toNat (hc : c.channelNumber.toNat < s.numberOfChannels.toNat) :
    (HopCall.hopChannel.target s c.channelNumber).toNat =
      if c.channelNumber.toNat + 1 = s.numberOfChannels.toNat then 0
      else c.channelNumber.toNat + 1 := by
  have hlt := s.numberOfChannels.toNat_lt
  rw [target_toNat _ _ (by omega),HopCall.addend,
    Nat.mod_eq_of_lt (by omega : c.channelNumber.toNat + 1 < 256)]
  split
  · next hlast => rw [hlast,Nat.mod_self]
  · exact Nat.mod_eq_of_lt (by omega)

theorem next_zero_iff (hc : c.channelNumber.toNat < s.numberOfChannels.toNat) :
    HopCall.hopChannel.target s c.channelNumber = 0 ↔
      c.channelNumber.toNat + 1 = s.numberOfChannels.toNat := by
  have hnext := next_toNat hc
  rw [← UInt8.toNat_inj,hnext]
  split
  · next hlast => exact iff_of_true rfl hlast
  · next hlast => exact iff_of_false (Nat.succ_ne_zero _) hlast

/-- With no hop pending the time to the interrupt passes first. -/
theorem entersZero_after (hhop : s.frequencyHop = true) (hd : 0 < s.maxDwellTime.toNat)
    (h : c.Running s) (hp : c.timeToHop = false)
    (hafter : ∀ c' : Clock, c'.Running s → c'.left = s.maxDwellTime.toNat → c'.timeToHop = true →
      c'.channelNumber = c.channelNumber → EntersZeroIn s c' n) :
    EntersZeroIn s c (n + c.left) := by
  induction hleft : c.left generalizing c with
  | zero =>
    have hdue := h.due_iff.mpr hleft
    obtain ⟨hrunning,hdwell,hpending,hchannel⟩ := h.interrupt hhop hd hdue
    exact .interrupt hp hdue (hafter _ hrunning hdwell hpending hchannel)
  | succ l ih =>
    have hdue := h.due_iff.not.mpr (by omega)
    obtain ⟨hrunning,hless,hpending,hchannel⟩ := h.tick hdue
    have hrest := ih hrunning (hpending.trans hp)
      (fun c' hc hl hp hch => hafter c' hc hl hp (hch.trans hchannel)) (by omega)
    exact .tick hp hdue hrest

/-- With no hop pending, the remaining channels follow at the dwell time. -/
theorem entersZero_of_not_pending (hhop : s.frequencyHop = true) (hd : 0 < s.maxDwellTime.toNat)
    (k : Nat) (h : c.Running s) (hp : c.timeToHop = false)
    (hk : s.numberOfChannels.toNat - 1 - c.channelNumber.toNat = k) :
    EntersZeroIn s c (k * s.maxDwellTime.toNat + c.left) := by
  induction k generalizing c with
  | zero =>
    rw [Nat.zero_mul]
    apply entersZero_after hhop hd h hp
    intro c' hrunning _ hpending hchannel
    have hlast := h.channel
    have hzero := (next_zero_iff hrunning.channel).mpr (by rw [hchannel]; omega)
    exact .hop hpending hzero
  | succ k ih =>
    apply entersZero_after hhop hd h hp
    intro c' hrunning hdwell hpending hchannel
    have hmore : ¬c'.channelNumber.toNat + 1 = s.numberOfChannels.toNat := by
      rw [hchannel]
      omega
    have hnext := next_toNat hrunning.channel
    rw [if_neg hmore,hchannel] at hnext
    obtain ⟨hhopped,hleft,hnone⟩ := hrunning.hop
    have hrest := ih hhopped hnone (by
      change _ - 1 - (HopCall.hopChannel.target s c'.channelNumber).toNat = k
      rw [hchannel,hnext]
      omega)
    rw [hleft,hdwell,← Nat.succ_mul] at hrest
    exact .pass hpending ((next_zero_iff hrunning.channel).not.mpr hmore) hrest

/-- The value is the time to the interrupt and a dwell time for each channel
that remains behind channelNumber. -/
theorem mSecToChannelZero_toNat (h : c.Running s) : (c.mSecToChannelZero s).toNat =
    (s.numberOfChannels.toNat - 1 - c.channelNumber.toNat) * s.maxDwellTime.toNat + c.left := by
  have hN := s.numberOfChannels.toNat_lt
  have hD := s.maxDwellTime.toNat_lt
  have hc := h.channel
  obtain ⟨hinterval,hsince⟩ := h.interval h.enabled h.positive
  have hnow := remaining_toNat hsince
  have hleft : c.left ≤ c.channelTimerMsec.toNat := Nat.sub_le ..
  have hmsec := c.channelTimerMsec.toNat_lt
  have hremaining : (UInt16.ofInt ((s.numberOfChannels.toNat : Int) - 1 -
      c.channelNumber.toNat)).toNat = s.numberOfChannels.toNat - 1 - c.channelNumber.toNat := by
    have hofInt := toNat_ofInt (x := (s.numberOfChannels.toNat : Int) - 1 - c.channelNumber.toNat)
      (by omega) (by omega)
    omega
  have hproduct : (s.numberOfChannels.toNat - 1 - c.channelNumber.toNat) * s.maxDwellTime.toNat ≤
      255 * 65535 := Nat.mul_le_mul (by omega) (by omega)
  rw [mSecToChannelZero]
  split
  next hmore =>
    rw [UInt32.toNat_add,hnow,UInt32.toNat_ofNat',hremaining,Nat.mod_eq_of_lt (by omega :
      (s.numberOfChannels.toNat - 1 - c.channelNumber.toNat) * s.maxDwellTime.toNat < 2 ^ 32),
      Nat.mod_eq_of_lt (by omega),Nat.add_comm]
  next hlast =>
    have hzero : s.numberOfChannels.toNat - 1 - c.channelNumber.toNat = 0 := by
      rw [UInt16.lt_iff_toNat_lt,hremaining] at hlast
      exact Nat.eq_zero_of_not_pos hlast
    rw [hnow,hzero,Nat.zero_mul,Nat.zero_add]

/-- For a running timer the value is right exactly if no hop is pending, or one
to channel 0 when the next interrupt is due already. -/
theorem Running.entersZero_iff (h : c.Running s) (hhop : s.frequencyHop = true)
    (hd : 0 < s.maxDwellTime.toNat) :
    EntersZeroIn s c (c.mSecToChannelZero s).toNat ↔ c.timeToHop = false ∨
      (c.channelNumber.toNat + 1 = s.numberOfChannels.toNat ∧ c.Due) := by
  have hc := h.channel
  rw [mSecToChannelZero_toNat h]
  cases hp : c.timeToHop with
  | false => exact iff_of_true (entersZero_of_not_pending hhop hd _ h hp rfl) (.inl rfl)
  | true =>
    rw [h.due_iff]
    by_cases hlast : c.channelNumber.toNat + 1 = s.numberOfChannels.toNat
    · have hzero : EntersZeroIn s c 0 := .hop hp ((next_zero_iff hc).mpr hlast)
      have hremaining : s.numberOfChannels.toNat - 1 - c.channelNumber.toNat = 0 := by omega
      rw [hremaining,Nat.zero_mul,Nat.zero_add]
      constructor
      · intro hright
        exact .inr ⟨hlast,hright.unique hzero⟩
      · rintro (hnone | ⟨-,hdue⟩)
        · cases hnone
        · rw [hdue]
          exact hzero
    · have hnext := next_toNat hc
      rw [if_neg hlast] at hnext
      obtain ⟨hhopped,hleft,hnone⟩ := h.hop
      have hrest := entersZero_of_not_pending hhop hd _ hhopped hnone rfl
      have hpass : EntersZeroIn s c _ := .pass hp ((next_zero_iff hc).not.mpr hlast) hrest
      apply iff_of_false
      · intro hright
        have heq := hright.unique hpass
        change _ = (_ - 1 - (HopCall.hopChannel.target s c.channelNumber).toNat) * _ + _ at heq
        rw [hnext,hleft] at heq
        have hone : s.numberOfChannels.toNat - 1 - c.channelNumber.toNat =
            s.numberOfChannels.toNat - 1 - (c.channelNumber.toNat + 1) + 1 := by omega
        rw [hone,Nat.succ_mul] at heq
        omega
      · rintro (hnone | ⟨hlast',-⟩)
        · cases hnone
        · exact hlast hlast'

theorem hopTarget_lt (forward : Bool) (k channel : UInt8) (hn : 0 < s.numberOfChannels.toNat) :
    (hopTarget forward k channel s).toNat < s.numberOfChannels.toNat := by
  rw [hopTarget,UInt8.toNat_mod]
  exact Nat.mod_lt _ hn

theorem channel_restart (t : HopTimer) (now : UInt32) (m : Int) (e : UInt16) (y : Int)
    (h : t.channelNumber.toNat < s.numberOfChannels.toNat) :
    (t.restart s now m e y).channelNumber.toNat < s.numberOfChannels.toNat := by
  rw [HopTimer.restart]
  dsimp only
  split
  · exact h
  · exact hopTarget_lt _ _ _ (Nat.zero_lt_of_lt h)

theorem channel_sync {receiver : Bool} {m : Int} {e : UInt16} {c' : Clock}
    (hc : c.channelNumber.toNat < s.numberOfChannels.toNat)
    (h : c.sync s receiver m e = some c') :
    c'.channelNumber.toNat < s.numberOfChannels.toNat := by
  rcases sync_cases h with ⟨-,rfl⟩ | ⟨-,y,-,rfl⟩
  · exact hc
  · exact channel_restart _ _ _ _ _ hc

/-- The channel stays in the table. -/
theorem channel_step {event : Event} {c' : Clock}
    (hc : c.channelNumber.toNat < s.numberOfChannels.toNat) (h : step s c event = some c') :
    c'.channelNumber.toNat < s.numberOfChannels.toNat := by
  cases event with
  | tick =>
    obtain rfl := Option.some.inj h
    rw [Clock.tick]
    split
    · exact hc
    · exact hc
  | interrupt =>
    obtain rfl := Option.some.inj h
    rw [Clock.interrupt]
    split
    · exact hc
    · exact hc
  | hop call =>
    obtain rfl := Option.some.inj h
    exact target_lt _ call (Nat.zero_lt_of_lt hc)
  | startChannelTimer =>
    obtain rfl := Option.some.inj h
    rw [channel_start]
    exact hc
  | stopChannelTimer =>
    obtain rfl := Option.some.inj h
    exact hc
  | syncChannelTimer receiver m e => exact channel_sync hc h
  | joinServer lead m e =>
    have hstart : ((c.start s).setBack lead).channelNumber.toNat < s.numberOfChannels.toNat := by
      rw [channel_setBack,channel_start]
      exact hc
    exact channel_sync hstart h

/-- In every reachable state the variables agree with the hardware, and the
channel is in the table. -/
theorem sound_run (hd : 0 < s.maxDwellTime.toNat) (hhop : s.frequencyHop = true)
    (hc : c.channelNumber.toNat < s.numberOfChannels.toNat) {events : List Event} {c' : Clock}
    (h : run (advance s) (some c.stop) events = some c') :
    c'.Sound s ∧ c'.channelNumber.toNat < s.numberOfChannels.toNat := by
  have hstep (o : Option Clock) (event : Event)
      (ho : ∀ c, o = some c → c.Sound s ∧ c.channelNumber.toNat < s.numberOfChannels.toNat)
      (_ : True) : ∀ c', advance s o event = some c' →
        c'.Sound s ∧ c'.channelNumber.toNat < s.numberOfChannels.toNat := by
    intro c' hc'
    rw [advance,Option.bind_eq_some_iff] at hc'
    obtain ⟨c,rfl,hstep⟩ := hc'
    obtain ⟨hsound,hchannel⟩ := ho c rfl
    exact ⟨sound_step hd hhop hsound hstep,channel_step hchannel hstep⟩
  have hstart (c'' : Clock) (h : some c.stop = some c'') :
      c''.Sound s ∧ c''.channelNumber.toNat < s.numberOfChannels.toNat := by
    obtain rfl := Option.some.inj h
    exact ⟨sound_stop c s,hc⟩
  exact invariant hstep hstart (along_true _ _ events) c' h

end

/-- In every reachable state with a running timer, mSecToChannelZero returns
the time until channel 0 is entered exactly if no hop is pending, or one to
channel 0 when the next interrupt is due already. -/
theorem mSecToChannelZero_iff (s : Settings) (hhop : s.frequencyHop = true)
    (hd : 0 < s.maxDwellTime.toNat) (c₀ : Clock) (hc₀ : c₀.channelNumber < s.numberOfChannels)
    (events : List Event) (c : Clock) (hrun : run (advance s) (some c₀.stop) events = some c)
    (henabled : c.enabled = true) (hpos : 0 < c.interval) :
    EntersZeroIn s c (c.mSecToChannelZero s).toNat ↔ c.timeToHop = false ∨
      (c.channelNumber.toNat + 1 = s.numberOfChannels.toNat ∧ c.Due) := by
  obtain ⟨hsound,hchannel⟩ := sound_run hd hhop (UInt8.lt_iff_toNat_lt.mp hc₀) hrun
  have hrunning : c.Running s := ⟨hsound,henabled,hpos,hchannel⟩
  exact hrunning.entersZero_iff hhop hd

/-- The clock after start and a millisecond, with 50 channels of 400 ms. -/
theorem mSecToChannelZero_start :
    EntersZeroIn defaultSettings ⟨⟨⟨0,400,0,false,false⟩,400,true⟩,1⟩ 19999 :=
  (mSecToChannelZero_iff defaultSettings rfl (by decide) idle (by decide)
    [.startChannelTimer,.tick] ⟨⟨⟨0,400,0,false,false⟩,400,true⟩,1⟩ (by decide +kernel) rfl
    (by decide)).mpr (.inl rfl)

def pending : Clock := ⟨⟨⟨0,400,3,true,false⟩,400,true⟩,3⟩

/-- A radio on channel 0 of 50 whose timer has just fired takes the hop to
channel 1 for one still to come in 400 ms. -/
theorem mSecToChannelZero_late :
    run (advance defaultSettings) (some idle.stop) [.startChannelTimer,.syncChannelTimer true 53 50,
        .tick,.tick,.tick,.interrupt] = some pending ∧
      pending.mSecToChannelZero defaultSettings = 20000 ∧
      EntersZeroIn defaultSettings pending 19600 ∧
      ¬EntersZeroIn defaultSettings pending 20000 := by
  have hrun : run (advance defaultSettings) (some idle.stop) [.startChannelTimer,
      .syncChannelTimer true 53 50,.tick,.tick,.tick,.interrupt] = some pending := by decide +kernel
  obtain ⟨hsound,hchannel⟩ := sound_run (by decide) rfl (by decide) hrun
  have hrunning : pending.Running defaultSettings := ⟨hsound,rfl,by decide,hchannel⟩
  have hrest := entersZero_of_not_pending rfl (by decide) 48 hrunning.hop.1 rfl (by decide)
  have hright : EntersZeroIn defaultSettings pending 19600 := .pass rfl (by decide) hrest
  have hwrong (h : EntersZeroIn defaultSettings pending 20000) : False := by
    have heq := hright.unique h
    omega
  exact ⟨hrun,by decide,hright,hwrong⟩

end Clock

end LoRaSerial.Hopping
