import LoRaSerial.Hopping.SyncLoop
import LoRaSerial.Hopping.Walk

namespace LoRaSerial.Hopping

open ChannelTimer Runs

/-- The channel timer with the time. -/
structure Clock extends HopTimer where
  millis : UInt32
  deriving DecidableEq, Repr

inductive Event where
  | tick
  | interrupt
  | hop (call : HopCall)
  | startChannelTimer
  | stopChannelTimer
  | syncChannelTimer (clockSyncReceiver : Bool) (msToNextHopRemote : Int)
      (frameAirTimeMsec : UInt16)
  /-- A client that hears the server starts the timer, sets channelTimerStart
  back and synchronizes. -/
  | joinServer (lead : UInt16) (msToNextHopRemote : Int) (frameAirTimeMsec : UInt16)
  deriving DecidableEq, Repr

namespace Clock

/-- The time since channelTimerStart. -/
def sinceStart (c : Clock) : Nat := c.toChannelTimer.elapsed c.millis

/-- The programmed interval has elapsed. -/
def Due (c : Clock) : Prop := c.enabled = true ∧ c.interval ≤ c.sinceStart

instance (c : Clock) : Decidable c.Due := inferInstanceAs (Decidable (_ ∧ _))

/-- A millisecond passes, unless an interrupt is due first. What the hardware
does with an interval that is not positive is not known. -/
def tick (c : Clock) : Clock :=
  if c.Due ∧ 0 < c.interval then c else { c with millis := c.millis + 1 }

def interrupt (c : Clock) (s : Settings) : Clock :=
  if c.Due then { c with toHopTimer := c.toHopTimer.channelTimerHandler s c.millis } else c

def hop (c : Clock) (s : Settings) (call : HopCall) : Clock :=
  { c with timeToHop := false, channelNumber := call.target s c.channelNumber }

def start (c : Clock) (s : Settings) : Clock :=
  { c with toHopTimer := c.toHopTimer.start s c.millis }

def stop (c : Clock) : Clock := { c with toHopTimer := c.toHopTimer.stop }

/-- One round of 16 bits is enough for the loop. -/
def sync (c : Clock) (s : Settings) (clockSyncReceiver : Bool) (msToNextHopRemote : Int)
    (frameAirTimeMsec : UInt16) : Option Clock :=
  (c.toHopTimer.syncChannelTimer 65536 s clockSyncReceiver c.millis msToNextHopRemote
    frameAirTimeMsec).map fun t => { c with toHopTimer := t }

/-- channelTimerStart -= lead. -/
def setBack (c : Clock) (lead : UInt16) : Clock :=
  { c with channelTimerStart := c.channelTimerStart - lead.toUInt32 }

def step (s : Settings) (c : Clock) : Event → Option Clock
  | .tick => some c.tick
  | .interrupt => some (c.interrupt s)
  | .hop call => some (c.hop s call)
  | .startChannelTimer => some (c.start s)
  | .stopChannelTimer => some c.stop
  | .syncChannelTimer clockSyncReceiver m e => c.sync s clockSyncReceiver m e
  | .joinServer lead m e => ((c.start s).setBack lead).sync s true m e

/-- A radio whose synchronization does not end takes no more steps. -/
def advance (s : Settings) (c : Option Clock) (event : Event) : Option Clock :=
  c.bind (step s · event)

/-- The time to the next interrupt. -/
def left (c : Clock) : Nat := c.channelTimerMsec.toNat - c.sinceStart

/-- The variables agree with the hardware: its interval is channelTimerMsec,
not yet passed since channelTimerStart, and after it maxDwellTime again. Only
startChannelTimer with a dwell time above 32767 programs anything else. -/
structure Sound (s : Settings) (c : Clock) : Prop where
  stopped : c.enabled = false → c.channelTimerMsec = 0
  negative : c.enabled = true → c.interval ≤ 0 →
    32767 < s.maxDwellTime.toNat ∧ c.reloadChannelTimer = true
  interval : c.enabled = true → 0 < c.interval →
    c.interval = c.channelTimerMsec.toNat ∧ c.sinceStart ≤ c.channelTimerMsec.toNat
  reload : c.enabled = true → 0 < c.interval → c.reloadChannelTimer = false →
    c.channelTimerMsec = s.maxDwellTime

section

variable {s : Settings} {c : Clock}

theorem sinceStart_of_start (h : c.channelTimerStart = c.millis) : c.sinceStart = 0 := by
  rw [sinceStart,elapsed,h,UInt32.sub_self]
  rfl

theorem sinceStart_passed (h : c.sinceStart < 65536) :
    ({ c with millis := c.millis + 1 } : Clock).sinceStart = c.sinceStart + 1 := by
  rw [sinceStart,elapsed] at h
  rw [sinceStart,sinceStart,elapsed,elapsed]
  have hadd : c.millis + 1 - c.channelTimerStart = c.millis - c.channelTimerStart + 1 := by grind
  change (c.millis + 1 - c.channelTimerStart).toNat = _
  rw [hadd,UInt32.toNat_add]
  exact Nat.mod_eq_of_lt (by change _ + 1 < 2 ^ 32; omega)

theorem sound_tick (hs : c.Sound s) : c.tick.Sound s := by
  rw [tick]
  split
  · exact hs
  · next hdue =>
    refine ⟨hs.stopped,hs.negative,?_,hs.reload⟩
    intro henabled hpos
    obtain ⟨hinterval,hsince⟩ := hs.interval henabled hpos
    have hmax := c.channelTimerMsec.toNat_lt
    have hnot : ¬c.interval ≤ c.sinceStart := fun h => hdue ⟨⟨henabled,h⟩,hpos⟩
    have hpassed := sinceStart_passed (c := c) (by omega)
    exact ⟨hinterval,by rw [hpassed]; change _ ≤ c.channelTimerMsec.toNat; omega⟩

theorem sound_interrupt (hd : 0 < s.maxDwellTime.toNat) (hs : c.Sound s) :
    (c.interrupt s).Sound s := by
  rw [interrupt]
  split
  · next hdue =>
    have hsince : ({ c with
        toHopTimer := c.toHopTimer.channelTimerHandler s c.millis } : Clock).sinceStart = 0 :=
      sinceStart_of_start rfl
    have hon (h : c.enabled = false) : False := Bool.false_ne_true (h.symm.trans hdue.1)
    cases hreload : c.reloadChannelTimer with
    | true =>
      have hinterval : (c.toHopTimer.channelTimerHandler s c.millis).interval =
          s.maxDwellTime.toNat := if_pos hreload
      have hmsec : (c.toHopTimer.channelTimerHandler s c.millis).channelTimerMsec =
          s.maxDwellTime := if_pos hreload
      refine ⟨fun h => (hon h).elim,?_,?_,fun _ _ _ => hmsec⟩
      · intro _ hneg
        change (c.toHopTimer.channelTimerHandler s c.millis).interval ≤ 0 at hneg
        omega
      · intro _ _
        rw [hsince,hinterval,hmsec]
        exact ⟨rfl,Nat.zero_le _⟩
    | false =>
      have hinterval : (c.toHopTimer.channelTimerHandler s c.millis).interval = c.interval :=
        if_neg (by simp [hreload])
      have hmsec : (c.toHopTimer.channelTimerHandler s c.millis).channelTimerMsec =
          c.channelTimerMsec := if_neg (by simp [hreload])
      have hpos : 0 < c.interval := by
        by_contra hneg
        have htrue := (hs.negative hdue.1 (by omega)).2
        exact Bool.false_ne_true (hreload.symm.trans htrue)
      refine ⟨fun h => (hon h).elim,?_,?_,?_⟩
      · intro _ hneg
        change (c.toHopTimer.channelTimerHandler s c.millis).interval ≤ 0 at hneg
        omega
      · intro _ _
        rw [hsince,hinterval,hmsec]
        exact ⟨(hs.interval hdue.1 hpos).1,Nat.zero_le _⟩
      · intro _ _ _
        exact hmsec.trans (hs.reload hdue.1 hpos hreload)
  · exact hs

theorem sound_hop (hs : c.Sound s) (call : HopCall) : (c.hop s call).Sound s :=
  ⟨hs.stopped,hs.negative,hs.interval,hs.reload⟩

theorem channel_start (c : Clock) (s : Settings) :
    (c.start s).channelNumber = c.channelNumber :=
  HopTimer.channel_start ..

theorem channel_setBack (c : Clock) (lead : UInt16) :
    (c.setBack lead).channelNumber = c.channelNumber := rfl

theorem sound_start (hd : 0 < s.maxDwellTime.toNat) (c : Clock) : (c.start s).Sound s := by
  have hlt := s.maxDwellTime.toNat_lt
  have hsince : (c.start s).sinceStart = 0 := sinceStart_of_start rfl
  have hinterval : (c.start s).interval = int16 s.maxDwellTime.toNat :=
    HopTimer.interval_start ..
  have hmsec : (c.start s).channelTimerMsec = s.maxDwellTime :=
    (HopTimer.msec_start ..).trans (ofInt_int16 _)
  have hreload : (c.start s).reloadChannelTimer =
      decide (int16 s.maxDwellTime.toNat ≠ s.maxDwellTime.toNat) := HopTimer.reload_start ..
  by_cases hhalf : s.maxDwellTime.toNat ≤ 32767
  · have hint : int16 s.maxDwellTime.toNat = s.maxDwellTime.toNat :=
      int16_of_range (by omega) (by omega)
    refine ⟨fun h => (nomatch h),?_,?_,fun _ _ _ => hmsec⟩
    · intro _ hneg
      omega
    · intro _ _
      rw [hinterval,hmsec,hsince]
      exact ⟨hint,Nat.zero_le _⟩
  · have hneg : int16 s.maxDwellTime.toNat < 0 := by
      have hrange := int16_range s.maxDwellTime.toNat
      have hmod := (Int.bmod_emod (x := s.maxDwellTime.toNat) (m := 65536))
      change int16 s.maxDwellTime.toNat % 65536 = _ at hmod
      omega
    refine ⟨fun h => (nomatch h),?_,?_,fun _ _ _ => hmsec⟩
    · intro _ _
      rw [hreload,decide_eq_true_eq]
      omega
    · intro _ hpos
      omega

theorem sound_restart {y : Int} (hy : 0 < y ∧ y ≤ 32767) (c : Clock) (m : Int) (e : UInt16) :
    ({ c with toHopTimer := c.toHopTimer.restart s c.millis m e y } : Clock).Sound s := by
  have hsince : ({ c with
      toHopTimer := c.toHopTimer.restart s c.millis m e y } : Clock).sinceStart = 0 :=
    sinceStart_of_start rfl
  have hmsec : ((UInt16.ofInt y).toNat : Int) = y := toNat_ofInt (by omega) (by omega)
  refine ⟨fun h => (nomatch h),?_,?_,fun _ _ h => (nomatch h)⟩
  · intro _ hneg
    change y ≤ 0 at hneg
    omega
  · intro _ _
    rw [hsince]
    exact ⟨hmsec.symm,Nat.zero_le _⟩

theorem sound_stop (c : Clock) (s : Settings) : c.stop.Sound s :=
  ⟨fun _ => rfl,fun h => (nomatch h),fun h => (nomatch h),fun h => (nomatch h)⟩

/-- What a synchronization that ends does. -/
theorem sync_cases {receiver : Bool} {m : Int} {e : UInt16} {c' : Clock}
    (h : c.sync s receiver m e = some c') :
    ((receiver = false ∨ s.frequencyHop = false) ∧ c' = c) ∨
      (receiver = true ∧ s.frequencyHop = true) ∧ ∃ y, nextHopTime s m e 65536 = some y ∧
        c' = { c with toHopTimer := c.toHopTimer.restart s c.millis m e y } := by
  rw [sync,Option.map_eq_some_iff] at h
  obtain ⟨t,ht,rfl⟩ := h
  rw [HopTimer.syncChannelTimer] at ht
  by_cases hoff : receiver = false ∨ s.frequencyHop = false
  · rw [if_pos hoff,Option.some.injEq] at ht
    exact .inl ⟨hoff,by rw [← ht]⟩
  · rw [if_neg hoff,Option.map_eq_some_iff] at ht
    obtain ⟨y,hy,rfl⟩ := ht
    exact .inr ⟨by simpa using hoff,y,hy,rfl⟩

theorem sound_sync {receiver : Bool} {m : Int} {e : UInt16} {c' : Clock} (hs : c.Sound s)
    (h : c.sync s receiver m e = some c') : c'.Sound s := by
  rcases sync_cases h with ⟨-,rfl⟩ | ⟨-,y,hy,rfl⟩
  · exact hs
  · exact sound_restart (nextHopTime_range hy) c m e

/-- Every step keeps the variables in agreement with the hardware. -/
theorem sound_step (hd : 0 < s.maxDwellTime.toNat) (hhop : s.frequencyHop = true) (hs : c.Sound s)
    {event : Event} {c' : Clock} (h : step s c event = some c') : c'.Sound s := by
  cases event with
  | tick =>
    obtain rfl := Option.some.inj h
    exact sound_tick hs
  | interrupt =>
    obtain rfl := Option.some.inj h
    exact sound_interrupt hd hs
  | hop call =>
    obtain rfl := Option.some.inj h
    exact sound_hop hs call
  | startChannelTimer =>
    obtain rfl := Option.some.inj h
    exact sound_start hd c
  | stopChannelTimer =>
    obtain rfl := Option.some.inj h
    exact sound_stop c s
  | syncChannelTimer receiver m e => exact sound_sync hs h
  | joinServer lead m e =>
    rcases sync_cases h with ⟨hoff,-⟩ | ⟨-,y,hy,rfl⟩
    · simp [hhop] at hoff
    · exact sound_restart (nextHopTime_range hy) _ m e

end

end Clock

end LoRaSerial.Hopping
