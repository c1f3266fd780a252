import LoRaSerial.Hopping.SyncLoop

namespace LoRaSerial.Heartbeat

open Hopping

/-- What Arduino's random(howsmall, howbig) may return. -/
def Random (howsmall howbig v : Int) : Prop :=
  if howbig ≤ howsmall then v = howsmall else howsmall ≤ v ∧ v < howbig

/-- LINK_BREAK_MULTIPLIER -/
def linkBreakMultiplier : Nat := 3

/-- A value stored in a long. -/
@[irreducible] def int32 (x : Int) : Int := x.bmod 4294967296

section

variable (s : Settings) (txHeartbeatUsec txDataAckUsec : UInt32)

/-- The time that a heartbeat takes: the frames, and twice the overhead. -/
def exchangeMsec : Nat :=
  (txHeartbeatUsec + txDataAckUsec + 2 * s.txToRxUsec).toNat / 1000 + 2 * s.overheadTime.toNat

/-- Ensure that the heartbeat can be received within the specified time. -/
def receivableTime : UInt16 :=
  s.heartbeatTimeout -
    ((txHeartbeatUsec + txDataAckUsec + 2 * s.txToRxUsec) / 1000).toUInt16 - 2 * s.overheadTime

/-- The values that setHeartbeatShort may set: 20-50%. -/
def SetHeartbeatShort (heartbeatRandomTime : UInt16) : Prop :=
  let time := (receivableTime s txHeartbeatUsec txDataAckUsec).toNat
  ∃ v, Random (time * 2 / 10 : Nat) (time / 2 : Nat) v ∧ heartbeatRandomTime = UInt16.ofInt v

/-- The values that setHeartbeatLong may set: 80-100%. -/
def SetHeartbeatLong (heartbeatRandomTime : UInt16) : Prop :=
  let time := (receivableTime s txHeartbeatUsec txDataAckUsec).toNat
  ∃ v, Random (time * 8 / 10 : Nat) time v ∧ heartbeatRandomTime = UInt16.ofInt v

/-- The delays that slow down FIND_PARTNERs after a handshake timeout, waiting
for SYNC_CLOCKS or for ZERO_ACKS. -/
def SlowDown (randomTime : UInt16) : Prop :=
  if txDataAckUsec / 1000 < s.maxDwellTime.toUInt32 then
    ∃ v, Random (s.maxDwellTime.toNat * 2 : Nat) (s.maxDwellTime.toNat * 4 : Nat) v ∧
      randomTime = UInt16.ofInt v
  else
    ∃ v, Random (int32 (txDataAckUsec * 4).toNat) (int32 (txDataAckUsec * 8).toNat) v ∧
      randomTime = UInt16.ofInt (v.tdiv 1000)

/-- The delay lies in the range that is passed to random, in ms. -/
def InRandomRange (randomTime : UInt16) : Prop :=
  if txDataAckUsec / 1000 < s.maxDwellTime.toUInt32 then
    s.maxDwellTime.toNat * 2 ≤ randomTime.toNat ∧ randomTime.toNat ≤ s.maxDwellTime.toNat * 4
  else
    txDataAckUsec.toNat * 4 / 1000 ≤ randomTime.toNat ∧
      randomTime.toNat ≤ txDataAckUsec.toNat * 8 / 1000

end

section

variable {s : Settings} {hb ack : UInt32}

theorem Random.bounds {a b v : Int} (h : Random a b v) : a ≤ v ∧ (v < b ∨ v = a) := by
  rw [Random] at h
  split at h
  · exact ⟨h.ge,.inr h⟩
  · exact ⟨h.1,.inl h.2⟩

theorem random_of_mem {a b v : Int} (hlow : a ≤ v) (hhigh : v < b) : Random a b v := by
  rw [Random,if_neg (by omega)]
  exact ⟨hlow,hhigh⟩

theorem random_first (a b : Int) : Random a b a := by
  rw [Random]
  split
  · rfl
  · exact ⟨le_rfl,by omega⟩

theorem receivableTime_toNat : (receivableTime s hb ack).toNat =
    (s.heartbeatTimeout.toNat + 65536 - exchangeMsec s hb ack % 65536) % 65536 := by
  have hT := s.heartbeatTimeout.toNat_lt
  rw [receivableTime,exchangeMsec,UInt16.toNat_sub,UInt16.toNat_sub,UInt16.toNat_mul,
    UInt32.toNat_toUInt16,UInt32.toNat_div]
  change (2 ^ 16 - 2 * s.overheadTime.toNat % 2 ^ 16 + (2 ^ 16 -
    (hb + ack + 2 * s.txToRxUsec).toNat / 1000 % 2 ^ 16 + s.heartbeatTimeout.toNat) % 2 ^ 16) %
      2 ^ 16 = _
  omega

/-- The interval is at most the timeout exactly if the time that remains is, or
exceeds it by one. -/
theorem heartbeat_le_iff (hT : 250 ≤ s.heartbeatTimeout.toNat) :
    (∀ h, SetHeartbeatShort s hb ack h ∨ SetHeartbeatLong s hb ack h →
        h ≤ s.heartbeatTimeout ∧ h.toNat < linkBreakMultiplier * s.heartbeatTimeout.toNat) ↔
      (receivableTime s hb ack).toNat ≤ s.heartbeatTimeout.toNat + 1 := by
  have hlt := (receivableTime s hb ack).toNat_lt
  rw [linkBreakMultiplier]
  simp only [SetHeartbeatShort,SetHeartbeatLong,UInt16.le_iff_toNat_le]
  generalize (receivableTime s hb ack).toNat = time at hlt
  constructor
  · intro h
    by_contra hover
    -- The longest interval of setHeartbeatLong is too long.
    have hlast : Random (time * 8 / 10 : Nat) time ((time : Int) - 1) :=
      random_of_mem (by omega) (by omega)
    have hvalue := Hopping.toNat_ofInt (x := (time : Int) - 1) (by omega) (by omega)
    have hle := (h _ (.inr ⟨_,hlast,rfl⟩)).1
    omega
  · rintro htime h (⟨v,hv,rfl⟩ | ⟨v,hv,rfl⟩)
    · obtain ⟨hlow,hhigh⟩ := hv.bounds
      have hvalue := Hopping.toNat_ofInt (x := v) (by omega) (by omega)
      omega
    · obtain ⟨hlow,hhigh⟩ := hv.bounds
      have hvalue := Hopping.toNat_ofInt (x := v) (by omega) (by omega)
      omega

theorem ofInt_toNat_mod (v : Int) : ((UInt16.ofInt v).toNat : Int) = v % 65536 := by
  rw [UInt16.ofInt,UInt16.toNat_ofNat']
  omega

/-- Draws stay in their range in 16 bits exactly if all of it fits. -/
theorem random_fits_iff {a b : Nat} (ha : 0 < a) (hab : a < b) :
    (∀ v, Random a b v → a ≤ (UInt16.ofInt v).toNat ∧ (UInt16.ofInt v).toNat ≤ b) ↔ b ≤ 65536 := by
  constructor
  · intro h
    by_contra hover
    by_cases hlow : a ≤ 65536
    · have hv := h 65536 (random_of_mem (by omega) (by omega))
      have hvalue := ofInt_toNat_mod 65536
      omega
    · have hv := h a (random_of_mem (by omega) (by omega))
      have hvalue := (UInt16.ofInt a).toNat_lt
      omega
  · intro hb v hv
    obtain ⟨hlow,hhigh⟩ := hv.bounds
    have hvalue := Hopping.toNat_ofInt (x := v) (by omega) (by omega)
    omega

theorem int32_of_range {x : Int} (hlow : 0 ≤ x) (hhigh : x < 2147483648) : int32 x = x := by
  rw [int32,Int.bmod]
  split <;> omega

theorem int32_of_large {x : Int} (hlow : 2147483648 ≤ x) (hhigh : x < 4294967296) :
    int32 x < 0 := by
  rw [int32,Int.bmod]
  split <;> omega

/-- A time in µs that fits a long when it is multiplied. -/
theorem random_ack_iff {ack : UInt32} (hack : ack.toNat < 268435456) (v : Int) :
    Random (int32 (ack * 4).toNat) (int32 (ack * 8).toNat) v ↔
      Random (ack.toNat * 4) (ack.toNat * 8) v := by
  have hmul4 : (ack * 4).toNat = ack.toNat * 4 := by
    rw [UInt32.toNat_mul]
    exact Nat.mod_eq_of_lt (by change ack.toNat * 4 < 2 ^ 32; omega)
  have hmul8 : (ack * 8).toNat = ack.toNat * 8 := by
    rw [UInt32.toNat_mul]
    exact Nat.mod_eq_of_lt (by change ack.toNat * 8 < 2 ^ 32; omega)
  rw [hmul4,hmul8,int32_of_range (by omega) (by omega),int32_of_range (by omega) (by omega)]
  push_cast
  rfl

/-- In the second branch, which is in µs, the ms stay in range up to 8.192 s. -/
theorem random_ack_fits_iff {ack : UInt32} (hack : 0 < ack.toNat) :
    (∀ v, Random (int32 (ack * 4).toNat) (int32 (ack * 8).toNat) v →
        ack.toNat * 4 / 1000 ≤ (UInt16.ofInt (v.tdiv 1000)).toNat ∧
          (UInt16.ofInt (v.tdiv 1000)).toNat ≤ ack.toNat * 8 / 1000) ↔ ack.toNat ≤ 8192000 := by
  constructor
  · intro h
    by_contra hover
    have hlow : ack.toNat * 4 / 1000 < 65536 := by
      obtain ⟨v,hv⟩ : ∃ v, Random (int32 (ack * 4).toNat) (int32 (ack * 8).toNat) v :=
        ⟨_,random_first _ _⟩
      have hvalue := (UInt16.ofInt (v.tdiv 1000)).toNat_lt
      have hle := (h v hv).1
      omega
    -- 65536 ms are in the range, and 0 in 16 bits.
    have hv := h 65536000 ((random_ack_iff (by omega) _).mpr (random_of_mem (by omega) (by omega)))
    have hvalue : ((UInt16.ofInt ((65536000 : Int).tdiv 1000)).toNat) = 0 := by decide
    omega
  · intro hmax v hv
    obtain ⟨hlow,hhigh⟩ := ((random_ack_iff (by omega) v).mp hv).bounds
    have hdiv : v.tdiv 1000 = v / 1000 := Int.tdiv_eq_ediv_of_nonneg (by omega)
    have hvalue := Hopping.toNat_ofInt (x := v / 1000) (by omega) (by omega)
    rw [hdiv]
    omega

/-- The intervals are in their ranges exactly if the exchange, in 16 bits,
takes at most the heartbeat timeout, or wraps it to one more than that, and
what random returns fits 16 bits. -/
theorem link_timers_iff (s : Settings) (txHeartbeatUsec txDataAckUsec : UInt32)
    (hT : 250 ≤ s.heartbeatTimeout.toNat) (hdwell : 10 ≤ s.maxDwellTime.toNat) :
    ((∀ h, SetHeartbeatShort s txHeartbeatUsec txDataAckUsec h ∨
          SetHeartbeatLong s txHeartbeatUsec txDataAckUsec h →
        h ≤ s.heartbeatTimeout ∧ h.toNat < linkBreakMultiplier * s.heartbeatTimeout.toNat) ↔
      exchangeMsec s txHeartbeatUsec txDataAckUsec % 65536 ≤ s.heartbeatTimeout.toNat ∨
        exchangeMsec s txHeartbeatUsec txDataAckUsec % 65536 = 65535) ∧
    ((∀ r, SlowDown s txDataAckUsec r → InRandomRange s txDataAckUsec r) ↔
      if txDataAckUsec / 1000 < s.maxDwellTime.toUInt32 then s.maxDwellTime.toNat ≤ 16384
      else txDataAckUsec.toNat ≤ 8192000) := by
  constructor
  · have htimeout := s.heartbeatTimeout.toNat_lt
    rw [heartbeat_le_iff hT,receivableTime_toNat]
    omega
  · by_cases hfirst : txDataAckUsec / 1000 < s.maxDwellTime.toUInt32
    · have hfits := random_fits_iff (a := s.maxDwellTime.toNat * 2) (b := s.maxDwellTime.toNat * 4)
        (by omega) (by omega)
      have hmax : s.maxDwellTime.toNat * 4 ≤ 65536 ↔ s.maxDwellTime.toNat ≤ 16384 := by omega
      simp only [SlowDown,InRandomRange,if_pos hfirst]
      rw [← hmax,← hfits]
      constructor
      · intro h v hv
        exact h _ ⟨v,hv,rfl⟩
      · rintro h r ⟨v,hv,rfl⟩
        exact h v hv
    · have hack : 0 < txDataAckUsec.toNat := by
        rw [UInt32.lt_iff_toNat_lt,UInt32.toNat_div,UInt16.toNat_toUInt32] at hfirst
        change ¬txDataAckUsec.toNat / 1000 < _ at hfirst
        omega
      simp only [SlowDown,InRandomRange,if_neg hfirst]
      rw [← random_ack_fits_iff hack]
      constructor
      · intro h v hv
        exact h _ ⟨v,hv,rfl⟩
      · rintro h r ⟨v,hv,rfl⟩
        exact h v hv

end

theorem link_timers_default : InRandomRange defaultSettings 50000 1000 := by
  have hslow : SlowDown defaultSettings 50000 1000 := by
    rw [SlowDown,if_pos (by decide)]
    exact ⟨1000,random_of_mem (by decide) (by decide),by decide⟩
  exact (link_timers_iff defaultSettings 100000 50000 (by decide) (by decide)).2.mpr
    (by decide) 1000 hslow

/-- A timeout that the frames of a slow link exceed. -/
def shortTimeout : Settings := { defaultSettings with heartbeatTimeout := 250 }

def longDwell : Settings := { defaultSettings with maxDwellTime := 20000 }

/-- 250 ms less an exchange of 921 ms is 64865 ms, and 65536 ms are none. -/
theorem link_timers_wrap :
    (∃ h, SetHeartbeatLong shortTimeout 500000 400000 h ∧ shortTimeout.heartbeatTimeout < h) ∧
      ∃ r, SlowDown longDwell 50000 r ∧ ¬InRandomRange longDwell 50000 r := by
  have hlong : SetHeartbeatLong shortTimeout 500000 400000 60000 :=
    ⟨60000,random_of_mem (by decide) (by decide),by decide⟩
  have hslow : SlowDown longDwell 50000 0 := by
    rw [SlowDown,if_pos (by decide)]
    exact ⟨65536,random_of_mem (by decide) (by decide),by decide⟩
  have hout : ¬InRandomRange longDwell 50000 0 := by
    rw [InRandomRange,if_pos (by decide)]
    decide
  exact ⟨⟨_,hlong,by decide⟩,_,hslow,hout⟩

end LoRaSerial.Heartbeat
