import LoRaSerial.Hopping.Timer

namespace LoRaSerial.Hopping

open ChannelTimer Loops

theorem int16_range (x : Int) : -32768 ≤ int16 x ∧ int16 x ≤ 32767 := by
  rw [int16,Int.bmod]
  split <;> omega

theorem toNat_ofInt {x : Int} (hlow : 0 ≤ x) (hhigh : x ≤ 65535) :
    ((UInt16.ofInt x).toNat : Int) = x := by
  rw [UInt16.ofInt,UInt16.toNat_ofNat',Int.emod_eq_of_lt hlow (by omega)]
  omega

theorem ofInt_int16 (x : UInt16) : UInt16.ofInt (int16 x.toNat) = x := by
  have hlt := x.toNat_lt
  rw [UInt16.ofInt,int16]
  change UInt16.ofNat ((Int.bmod x.toNat 65536) % (65536 : Nat)).toNat = x
  rw [Int.bmod_emod,Int.emod_eq_of_lt (by omega) (by omega)]
  exact UInt16.ofNat_toNat

theorem int16_dvd_iff (x : Int) : (32768 : Int) ∣ int16 x ↔ 32768 ∣ x := by
  rw [int16,Int.bmod]
  split <;> omega

section

variable {s : Settings} {m : Int} {e : UInt16}

theorem firstHopTime_range (s : Settings) (m : Int) (e : UInt16) :
    -32768 ≤ firstHopTime s m e ∧ firstHopTime s m e ≤ 32767 :=
  int16_range _

theorem firstHopTime_dvd_iff (hd : s.maxDwellTime.toNat = 32768) :
    (32768 : Int) ∣ firstHopTime s m e ↔ 32768 ∣ m - e.toNat := by
  have hadjust : (32768 : Int) ∣ adjustment s m e := by
    rw [adjustment]
    split
    · rw [int16_dvd_iff,hd]
      exact ⟨1,rfl⟩
    · exact dvd_zero _
  rw [firstHopTime,int16_dvd_iff,dvd_add_left hadjust,rmtHopTimeMsec,int16_dvd_iff]

/-- The steps have a common divisor with 2 ^ 16 of half the range or less. -/
theorem gcd_dwell (hd : 0 < s.maxDwellTime.toNat) (hhalf : s.maxDwellTime.toNat ≠ 32768) :
    Nat.gcd s.maxDwellTime.toNat 65536 ≤ 16384 := by
  have hlt := s.maxDwellTime.toNat_lt
  obtain ⟨v,hv,hgcd⟩ := (Nat.dvd_prime_pow Nat.prime_two).mp
    (Nat.gcd_dvd_right s.maxDwellTime.toNat (2 ^ 16))
  have hdvd := Nat.gcd_dvd_left s.maxDwellTime.toNat (2 ^ 16)
  have hle := Nat.le_of_dvd hd hdvd
  change Nat.gcd s.maxDwellTime.toNat (2 ^ 16) ≤ 2 ^ 14
  rw [hgcd] at hdvd hle ⊢
  have hcases : v ≤ 14 ∨ v = 15 ∨ v = 16 := by omega
  rcases hcases with hv14 | rfl | rfl
  · exact Nat.pow_le_pow_right (by decide) hv14
  · omega
  · omega

/-- Some value of the loop is above 0, unless all are multiples of half the
range of 16 bits. -/
theorem exists_positive (hd : 0 < s.maxDwellTime.toNat)
    (h : s.maxDwellTime.toNat ≠ 32768 ∨ ¬(32768 : Int) ∣ m - e.toNat) :
    ∃ k < 65536, 0 < (addDwell s)^[k] (firstHopTime s m e) := by
  obtain ⟨hlow,hhigh⟩ := firstHopTime_range s m e
  obtain ⟨k,hk,r,hr,hwindow,hmod⟩ := exists_modEq_window (d := s.maxDwellTime.toNat)
    (by decide : 0 < 65536) (firstHopTime s m e) 1
  have hwhole : Nat.gcd s.maxDwellTime.toNat 65536 ≤ 16384 ∨
      s.maxDwellTime.toNat = 32768 ∧ Nat.gcd s.maxDwellTime.toNat 65536 = 32768 := by
    by_cases hhalf : s.maxDwellTime.toNat = 32768
    · exact .inr ⟨hhalf,by rw [hhalf]; decide⟩
    · exact .inl (gcd_dwell hd hhalf)
  have htop : r ≤ 32767 := by
    rcases hwhole with hsmall | ⟨hhalf,hgcd⟩
    · omega
    · have hne := (firstHopTime_dvd_iff hhalf).not.mpr (h.resolve_left (not_not_intro hhalf))
      rw [hhalf,Int.modEq_iff_dvd] at hmod
      omega
  refine ⟨k,hk,?_⟩
  have hvalue : (addDwell s)^[k] (firstHopTime s m e) = r := by
    have hstart : (firstHopTime s m e).bmod 65536 = firstHopTime s m e :=
      int16_of_range hlow hhigh
    change (fun y : Int => (y + s.maxDwellTime.toNat).bmod 65536)^[k] _ = r
    rw [iterate_add_bmod hstart,← Int.emod_bmod,hmod,Int.emod_bmod]
    exact int16_of_range (by omega) htop
  omega

/-- No value of the loop is above 0 if all are multiples of half the range. -/
theorem loop_never_ends (hd : s.maxDwellTime.toNat = 32768) (hm : (32768 : Int) ∣ m - e.toNat)
    (tests : Nat) : nextHopTime s m e tests = none := by
  rw [Option.eq_none_iff_forall_ne_some]
  intro y hy
  -- All values are multiples of 32768, and of these only 0 and -32768 fit.
  have hstep (x : Int) (hx : (32768 : Int) ∣ x ∧ -32768 ≤ x ∧ x ≤ 32767) :
      (32768 : Int) ∣ addDwell s x ∧ -32768 ≤ addDwell s x ∧ addDwell s x ≤ 32767 := by
    have hdvd : (32768 : Int) ∣ addDwell s x := by
      rw [addDwell,int16_dvd_iff,hd]
      exact dvd_add hx.1 ⟨1,rfl⟩
    exact ⟨hdvd,int16_range _⟩
  have hend := loop_invariant _ (fun x _ hx => hstep x hx)
    ⟨(firstHopTime_dvd_iff hd).mpr hm,firstHopTime_range s m e⟩ hy
  omega

/-- The loop ends, within one round of 16 bits, exactly if maxDwellTime is not
32768 or the remote hop time is not a multiple of it. -/
theorem nextHopTime_ends_iff (hd : 0 < s.maxDwellTime.toNat) :
    (∃ tests y, nextHopTime s m e tests = some y) ↔
      ¬(s.maxDwellTime.toNat = 32768 ∧ (32768 : Int) ∣ m - e.toNat) := by
  constructor
  · rintro ⟨tests,y,hy⟩ ⟨hhalf,hm⟩
    rw [loop_never_ends hhalf hm] at hy
    cases hy
  · intro h
    have hstop := exists_loop_iff.mpr (exists_positive hd (not_and_or.mp h))
    exact ⟨65536,hstop⟩

theorem nextHopTime_range {tests : Nat} {y : Int} (h : nextHopTime s m e tests = some y) :
    0 < y ∧ y ≤ 32767 := by
  obtain ⟨hpos,-,hle⟩ := loop_invariant (fun x => -32768 ≤ x ∧ x ≤ 32767)
    (fun _ _ _ => int16_range _) (firstHopTime_range s m e) h
  exact ⟨hpos,hle⟩

/-- For a dwell time of at most 32767 the loop is the one without overflow. -/
theorem nextHopTime_eq (hd : 0 < s.maxDwellTime.toNat) (hdwell : s.maxDwellTime.toNat ≤ 32767)
    {tests : Nat} {y : Int} (h : nextHopTime s m e tests = some y) :
    y = msToNextHop s m e := by
  have hfirst : skipHops s.maxDwellTime.toNat (firstHopTime s m e) = msToNextHop s m e := by
    have hint : int16 s.maxDwellTime.toNat = s.maxDwellTime.toNat :=
      int16_of_range (by omega) (by omega)
    have hrmt : int16 (rmtHopTimeMsec m e) = rmtHopTimeMsec m e :=
      int16_of_range (int16_range _).1 (int16_range _).2
    rw [msToNextHop,firstHopTime,adjustment,hint]
    split
    · rfl
    · rw [add_zero,hrmt]
  have hstep (x : Int) (hx : ¬0 < x) (hinv : skipHops s.maxDwellTime.toNat x = msToNextHop s m e ∧
      -32768 ≤ x ∧ x ≤ 32767) :
      skipHops s.maxDwellTime.toNat (addDwell s x) = msToNextHop s m e ∧
        -32768 ≤ addDwell s x ∧ addDwell s x ≤ 32767 := by
    obtain ⟨hskip,hlow,-⟩ := hinv
    have hadd : addDwell s x = x + s.maxDwellTime.toNat := int16_of_range (by omega) (by omega)
    rw [skipHops,if_pos ⟨hd,Int.not_lt.mp hx⟩] at hskip
    exact ⟨hadd ▸ hskip,int16_range _⟩
  obtain ⟨hpos,hskip,-⟩ := loop_invariant _ hstep ⟨hfirst,firstHopTime_range s m e⟩ h
  rw [skipHops_eq hd,if_pos hpos] at hskip
  exact hskip

end

namespace HopTimer

variable {t : HopTimer} {s : Settings} {now : UInt32} {m : Int} {e : UInt16}

/-- Below 32768 the synchronization is the one without overflow. -/
theorem syncChannelTimer_eq (hd : 0 < s.maxDwellTime.toNat) (hdwell : s.maxDwellTime.toNat ≤ 32767)
    {tests : Nat} {receiver : Bool} {t' : HopTimer}
    (h : t.syncChannelTimer tests s receiver now m e = some t') :
    t'.toChannelTimer = t.toChannelTimer.syncChannelTimer s receiver now m e := by
  rw [syncChannelTimer] at h
  rw [ChannelTimer.syncChannelTimer]
  by_cases hoff : receiver = false ∨ s.frequencyHop = false
  · rw [if_pos hoff,Option.some.injEq] at h
    rw [if_pos hoff,h]
  rw [if_neg hoff,Option.map_eq_some_iff] at h
  obtain ⟨y,hy,rfl⟩ := h
  obtain ⟨hpos,hle⟩ := nextHopTime_range hy
  obtain rfl := nextHopTime_eq hd hdwell hy
  have htimer : UInt16.ofInt (msToNextHop s m e) = UInt16.ofNat (msToNextHop s m e).toNat := by
    rw [UInt16.ofInt,Int.emod_eq_of_lt (by omega) (by omega)]
  have hhops : delayedHops s m e t.toChannelTimer now (msToNextHop s m e) =
      t.toChannelTimer.delayedHopCount s now m e := rfl
  rw [if_neg hoff,restart]
  simp only [hhops,htimer]
  split
  · rfl
  · rfl

/-- The loop of syncChannelTimer ends, with a positive interval, unless
maxDwellTime is 32768 and the remote hop time a multiple of it;
startChannelTimer programs maxDwellTime up to 32767. -/
theorem clock_sync_ends_iff (t : HopTimer) (s : Settings) (now : UInt32) (m : Int) (e : UInt16)
    (hdwell : 10 ≤ s.maxDwellTime.toNat) (hhop : s.frequencyHop = true) :
    ((∃ tests t', t.syncChannelTimer tests s true now m e = some t' ∧ t'.enabled = true ∧
        0 < t'.interval ∧ (t'.channelTimerMsec.toNat : Int) = t'.interval) ↔
      ¬(s.maxDwellTime.toNat = 32768 ∧ (32768 : Int) ∣ m - e.toNat)) ∧
    ((t.start s now).interval = s.maxDwellTime.toNat ↔ s.maxDwellTime.toNat ≤ 32767) := by
  have hends := nextHopTime_ends_iff (m := m) (e := e) (by omega : 0 < s.maxDwellTime.toNat)
  have hsync (tests : Nat) : t.syncChannelTimer tests s true now m e =
      (nextHopTime s m e tests).map (t.restart s now m e) := by
    rw [syncChannelTimer,if_neg (by simp [hhop])]
  constructor
  · rw [← hends]
    constructor
    · rintro ⟨tests,t',h,-⟩
      rw [hsync,Option.map_eq_some_iff] at h
      obtain ⟨y,hy,-⟩ := h
      exact ⟨tests,y,hy⟩
    · rintro ⟨tests,y,hy⟩
      obtain ⟨hpos,hle⟩ := nextHopTime_range hy
      exact ⟨tests,t.restart s now m e y,by rw [hsync,hy]; rfl,rfl,hpos,
        toNat_ofInt (by omega) (by omega)⟩
  · rw [interval_start]
    have hlt := s.maxDwellTime.toNat_lt
    constructor
    · intro h
      have hrange := int16_range s.maxDwellTime.toNat
      omega
    · intro h
      exact int16_of_range (by omega) (by omega)

def stopped : HopTimer := ⟨⟨0,0,0,false,false⟩,0,false⟩

theorem clock_sync_ends_default :
    (stopped.start defaultSettings 7).interval = defaultSettings.maxDwellTime.toNat :=
  (clock_sync_ends_iff stopped defaultSettings 7 0 0 (by decide) rfl).2.mpr (by decide)

def halfRange : Settings := { defaultSettings with maxDwellTime := 32768 }

/-- With a dwell time of 32768 ms a frame whose sender hops right now holds up
the radio for ever, and the timer is programmed with a negative interval. -/
theorem clock_sync_hangs :
    (∀ tests, stopped.syncChannelTimer tests halfRange true 100 50 50 = none) ∧
      (stopped.start halfRange 100).interval < 0 := by
  constructor
  · intro tests
    have hloop := loop_never_ends (s := halfRange) (m := 50) (e := 50) rfl (by decide) tests
    rw [syncChannelTimer,hloop]
    rfl
  · decide

end HopTimer

end LoRaSerial.Hopping
