import LoRaSerial.Heartbeat.Intervals
import LoRaSerial.Hopping.ChannelZero
import Mathlib.Logic.Relation

namespace LoRaSerial.Heartbeat

open Hopping Clock

/-- VC_DELAY_HEARTBEAT_MSEC -/
def vcDelayHeartbeatMsec : Nat := 5

/-- The values of heartbeatRandomTime that setVcHeartbeatTimer may set, from
what mSecToChannelZero returns. -/
def SetVcHeartbeatTimer (s : Settings) (mSecToChannelZero : UInt32)
    (heartbeatRandomTime : UInt16) : Prop :=
  let deltaMillis := int32 mSecToChannelZero.toNat
  if s.server = false ∨ (3 * s.heartbeatTimeout.toNat / 2 : Nat) < deltaMillis ∨
      deltaMillis ≤ 0 then
    ∃ v, Random (s.heartbeatTimeout.toNat / 2 : Nat) s.heartbeatTimeout.toNat v ∧
      heartbeatRandomTime = UInt16.ofInt v
  else if s.heartbeatTimeout.toNat ≤ deltaMillis then
    heartbeatRandomTime = UInt16.ofInt (deltaMillis / 2)
  else heartbeatRandomTime = UInt16.ofInt (deltaMillis + vcDelayHeartbeatMsec)

/-- The server: its hop clock, the time, when the next heartbeat falls due,
when the ones sent fell due, and when channel 0 was entered. -/
structure Server where
  clock : Clock
  now : Nat
  due : Nat
  sent : List Nat
  entries : List Nat

/-- A step of a server that hops as soon as it is due and sends each heartbeat
when due, or late, but before it next enters channel 0. -/
inductive Step (s : Settings) : Server → Server → Prop
  | interrupt {st : Server} : st.clock.timeToHop = false → st.clock.Due →
      Step s st { st with clock := st.clock.interrupt s }
  | hop {st : Server} : st.clock.timeToHop = true →
      HopCall.hopChannel.target s st.clock.channelNumber ≠ 0 →
      Step s st { st with clock := st.clock.hop s .hopChannel }
  | enter {st : Server} : st.clock.timeToHop = true →
      HopCall.hopChannel.target s st.clock.channelNumber = 0 → st.now ≤ st.due →
      Step s st
        { st with clock := st.clock.hop s .hopChannel, entries := st.now :: st.entries }
  | tick {st : Server} : st.clock.timeToHop = false → ¬st.clock.Due →
      Step s st { st with clock := st.clock.tick, now := st.now + 1 }
  | heartbeat {st : Server} {heartbeatRandomTime : UInt16} : st.clock.timeToHop = false →
      ¬st.clock.Due → st.due ≤ st.now →
      SetVcHeartbeatTimer s (st.clock.mSecToChannelZero s) heartbeatRandomTime →
      Step s st
        { st with due := st.now + heartbeatRandomTime.toNat, sent := st.due :: st.sent }

/-- A server that has just set its heartbeat timer. -/
structure Server.Started (s : Settings) (st : Server) : Prop extends st.clock.Running s where
  hopped : st.clock.timeToHop = false
  waiting : ¬st.clock.Due
  timer : ∃ heartbeatRandomTime,
    SetVcHeartbeatTimer s (st.clock.mSecToChannelZero s) heartbeatRandomTime ∧
      st.due = st.now + heartbeatRandomTime.toNat
  entries : st.entries = []

section

variable {s : Settings}

/-- The timer is 5 ms past channel 0, or half a timeout before it. -/
theorem setVcHeartbeatTimer_bound (hserver : s.server = true)
    (hT : 250 ≤ s.heartbeatTimeout.toNat) {d : UInt32} (hd : 0 < d) {h : UInt16}
    (hset : SetVcHeartbeatTimer s d h) :
    h.toNat ≤ d.toNat + vcDelayHeartbeatMsec ∧
      (h.toNat = d.toNat + vcDelayHeartbeatMsec ∨
        (s.heartbeatTimeout.toNat : Int) ≤ 2 * ((d.toNat : Int) - h.toNat)) := by
  have hlt := s.heartbeatTimeout.toNat_lt
  have hd32 := d.toNat_lt
  have hpos := UInt32.lt_iff_toNat_lt.mp hd
  have hlong : int32 d.toNat = d.toNat ∨ int32 d.toNat < 0 ∧ 2147483648 ≤ d.toNat := by
    by_cases hsmall : d.toNat < 2147483648
    · exact .inl (int32_of_range (by omega) (by omega))
    · exact .inr ⟨int32_of_large (by omega) (by omega),by omega⟩
  rw [SetVcHeartbeatTimer] at hset
  rw [vcDelayHeartbeatMsec] at hset ⊢
  change 0 < d.toNat at hpos
  generalize int32 d.toNat = deltaMillis at hset hlong
  split at hset
  next hrandom =>
    -- A random interval, of a timeout at most, long before channel 0.
    obtain ⟨v,hv,rfl⟩ := hset
    obtain ⟨hlow,hhigh⟩ := hv.bounds
    have hvalue := Hopping.toNat_ofInt (x := v) (by omega) (by omega)
    rw [hserver] at hrandom
    have hfar := hrandom.resolve_left (by decide)
    omega
  next hnear =>
    have hdelta : deltaMillis = d.toNat := by omega
    subst hdelta
    split at hset
    next hhalf =>
      subst hset
      have hvalue := Hopping.toNat_ofInt (x := (d.toNat : Int) / 2) (by omega) (by omega)
      omega
    next hrest =>
      subst hset
      -- From 65531 ms on the sum wraps to a few ms.
      have hvalue := ofInt_toNat_mod ((d.toNat : Int) + (5 : Nat))
      omega

/-- Channel 0 is entered in z ms, and the heartbeat falls due 5 ms after that,
or not after it; past entries have had theirs. -/
structure Server.OnTime (s : Settings) (st : Server) : Prop extends st.clock.Running s where
  hopped : st.clock.timeToHop = true → st.clock.left = s.maxDwellTime.toNat
  timer : ∃ z, EntersZeroIn s st.clock z ∧
    (st.due = st.now + z + vcDelayHeartbeatMsec ∨ st.due ≤ st.now + z)
  served : ∀ e ∈ st.entries, ∃ t ∈ st.due :: st.sent, e ≤ t ∧ t ≤ e + vcDelayHeartbeatMsec

/-- With no hop pending and no interrupt due, mSecToChannelZero is the time
until channel 0 is entered, and above 0. -/
theorem mSecToChannelZero_pos {c : Clock} (h : c.Running s) (hhop : s.frequencyHop = true)
    (hd : 0 < s.maxDwellTime.toNat) (hhopped : c.timeToHop = false) (hdue : ¬c.Due) :
    EntersZeroIn s c (c.mSecToChannelZero s).toNat ∧ 0 < c.mSecToChannelZero s := by
  have hleft := h.due_iff.not.mp hdue
  have hvalue := mSecToChannelZero_toNat h
  refine ⟨(h.entersZero_iff hhop hd).mpr (.inl hhopped),UInt32.lt_iff_toNat_lt.mpr ?_⟩
  change 0 < _
  omega

section

variable {st st' : Server} (hserver : s.server = true) (hhop : s.frequencyHop = true)
  (hT : 250 ≤ s.heartbeatTimeout.toNat) (hdwell : 10 ≤ s.maxDwellTime.toNat)

include hserver hhop hT hdwell

/-- A timer set now falls due 5 ms after the next entry, or not after it. -/
theorem due_after_set {c : Clock} (h : c.Running s) (hhopped : c.timeToHop = false)
    (hdue : ¬c.Due) {heartbeatRandomTime : UInt16}
    (hset : SetVcHeartbeatTimer s (c.mSecToChannelZero s) heartbeatRandomTime) (now : Nat) :
    ∃ z, EntersZeroIn s c z ∧
      (now + heartbeatRandomTime.toNat = now + z + vcDelayHeartbeatMsec ∨
        now + heartbeatRandomTime.toNat ≤ now + z) := by
  obtain ⟨hzero,hpos⟩ := mSecToChannelZero_pos h hhop (by omega) hhopped hdue
  obtain ⟨-,hafter | hbefore⟩ := setVcHeartbeatTimer_bound hserver hT hpos hset
  · exact ⟨_,hzero,.inl (by omega)⟩
  · exact ⟨_,hzero,.inr (by omega)⟩

theorem onTime_step (h : st.OnTime s) (hstep : Step s st st') : st'.OnTime s := by
  obtain ⟨z,hz,htimer⟩ := h.timer
  have hrunning := h.toRunning
  cases hstep with
  | interrupt hhopped hdue =>
    obtain ⟨hnext,hleft,hpending,-⟩ := hrunning.interrupt hhop (by omega) hdue
    have hz' := hz.of_interrupt hhopped hdue
    exact ⟨hnext,fun _ => hleft,⟨z,hz',htimer⟩,h.served⟩
  | hop hpending hne =>
    obtain ⟨hnext,-,hhopped⟩ := hrunning.hop
    have hz' := hz.of_hop hpending hne
    refine ⟨hnext,fun hp => ?_,⟨z,hz',htimer⟩,h.served⟩
    rw [hhopped] at hp
    cases hp
  | enter hpending hzero hlate =>
    obtain ⟨hnext,hleft,hhopped⟩ := hrunning.hop
    obtain rfl := hz.eq_zero hpending hzero
    -- The next entry is a whole cycle away, and 5 ms are less than that.
    have hz' := entersZero_of_not_pending hhop (by omega) _ hnext hhopped rfl
    rw [hleft,h.hopped hpending] at hz'
    refine ⟨hnext,fun hp => ?_,⟨_,hz',.inr ?_⟩,?_⟩
    · rw [hhopped] at hp
      cases hp
    · rw [vcDelayHeartbeatMsec] at htimer
      change st.due ≤ st.now + _
      omega
    · intro e he
      rcases List.mem_cons.mp he with rfl | he
      · rw [vcDelayHeartbeatMsec] at htimer ⊢
        exact ⟨st.due,List.mem_cons_self,by omega,by omega⟩
      · exact h.served e he
  | tick hhopped hdue =>
    obtain ⟨hnext,-,hpending,-⟩ := hrunning.tick hdue
    rw [hhopped] at hpending
    obtain ⟨n,rfl,hn⟩ := hz.of_tick hhopped hdue
    refine ⟨hnext,fun hp => ?_,⟨n,hn,?_⟩,h.served⟩
    · rw [hpending] at hp
      cases hp
    · change st.due = st.now + 1 + n + _ ∨ st.due ≤ st.now + 1 + n
      omega
  | heartbeat hhopped hdue hsent hset =>
    have htimer' := due_after_set hserver hhop hT hdwell hrunning hhopped hdue hset st.now
    refine ⟨hrunning,h.hopped,htimer',?_⟩
    intro e he
    obtain ⟨t,ht,hte⟩ := h.served e he
    exact ⟨t,List.mem_cons_of_mem _ ht,hte⟩

theorem onTime_start (h : st.Started s) : st.OnTime s := by
  obtain ⟨heartbeatRandomTime,hset,hdue⟩ := h.timer
  have htimer := due_after_set hserver hhop hT hdwell h.toRunning h.hopped h.waiting hset st.now
  rw [← hdue] at htimer
  refine ⟨h.toRunning,fun hp => ?_,htimer,fun e he => ?_⟩
  · rw [h.hopped] at hp
    cases hp
  · rw [h.entries] at he
    cases he

end

end

/-- The server's heartbeat timer: each setting is at most 5 ms past channel 0,
and exactly so or half a timeout before it, so that in every run each entry
into channel 0 has a heartbeat that falls due in the 5 ms after it. -/
theorem heartbeat_channel_zero (s : Settings) (hserver : s.server = true)
    (hhop : s.frequencyHop = true) (hT : 250 ≤ s.heartbeatTimeout.toNat)
    (hdwell : 10 ≤ s.maxDwellTime.toNat) :
    (∀ (d : UInt32) (h : UInt16), 0 < d → SetVcHeartbeatTimer s d h →
        h.toNat ≤ d.toNat + vcDelayHeartbeatMsec ∧
          (h.toNat = d.toNat + vcDelayHeartbeatMsec ∨
            (s.heartbeatTimeout.toNat : Int) ≤ 2 * ((d.toNat : Int) - h.toNat))) ∧
      ∀ start st : Server, start.Started s → Relation.ReflTransGen (Step s) start st →
        ∀ e ∈ st.entries, ∃ t ∈ st.due :: st.sent, e ≤ t ∧ t ≤ e + vcDelayHeartbeatMsec := by
  constructor
  · intro d h hd hset
    exact setVcHeartbeatTimer_bound hserver hT hd hset
  · intro start st hstart hrun
    have honTime : st.OnTime s := by
      induction hrun with
      | refl => exact onTime_start hserver hhop hT hdwell hstart
      | tail _ hstep ih => exact onTime_step hserver hhop hT hdwell ih hstep
    exact honTime.served

/-- A server with one channel, which it enters every 10 ms. -/
def oneChannel : Settings :=
  { defaultSettings with
    server := true, numberOfChannels := 1, maxDwellTime := 10, heartbeatTimeout := 250 }

/-- It is 1 ms before the interrupt, and the heartbeat falls due in 6. -/
def beforeEntry : Server := ⟨⟨⟨⟨0,10,0,false,false⟩,10,true⟩,9⟩,0,6,[],[]⟩

theorem started_beforeEntry : beforeEntry.Started oneChannel := by
  have hset : SetVcHeartbeatTimer oneChannel 1 6 := by
    have hlong : int32 (1 : UInt32).toNat = 1 := int32_of_range (by decide) (by decide)
    rw [SetVcHeartbeatTimer,hlong,if_neg (by decide),if_neg (by decide)]
    decide
  have hsound : beforeEntry.clock.Sound oneChannel :=
    ⟨by decide,by decide,by decide,by decide⟩
  exact ⟨⟨hsound,rfl,by decide,by decide⟩,rfl,by decide,⟨6,hset,rfl⟩,rfl⟩

theorem heartbeat_channel_zero_entry :
    ∃ t ∈ [6], 1 ≤ t ∧ t ≤ 1 + vcDelayHeartbeatMsec := by
  have htick : Step oneChannel beforeEntry _ := .tick rfl (by decide)
  have hinterrupt : Step oneChannel { beforeEntry with
      clock := beforeEntry.clock.tick, now := 1 } _ := .interrupt rfl (by decide)
  have henter : Step oneChannel { beforeEntry with
      clock := beforeEntry.clock.tick.interrupt oneChannel, now := 1 } _ :=
    .enter (by decide) (by decide) (by decide)
  exact (heartbeat_channel_zero oneChannel rfl rfl (by decide) (by decide)).2 beforeEntry _
    started_beforeEntry (((Relation.ReflTransGen.single htick).tail hinterrupt).tail henter) 1
    List.mem_cons_self

end LoRaSerial.Heartbeat
