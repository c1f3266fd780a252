import LoRaSerial.Multipoint.Synchronization

namespace LoRaSerial.Multipoint
open Runs (run)
open scoped List

/-- A radio that hears nothing, with what it sent and the number of times that
the wait for SYNC_CLOCKS ended. -/
structure Search where
  radio : Radio
  sent : List Frame
  timeouts : Nat

/-- The pass ends a wait for SYNC_CLOCKS. -/
def Event.endsWait (r : Radio) : Event → Bool
  | .pass transactionComplete i =>
    decide (r.radioState = .discoverScanning) && !transactionComplete && !i.receiveInProcess &&
      i.syncClocksTimeout
  | .updateSerial _ _ _ => false

def Search.step (x : Search) (e : Event) : Search :=
  let next := handle x.radio none e
  { radio := next.1
    sent := x.sent ++ next.2
    timeouts := x.timeouts + (e.endsWait x.radio).toNat }

def Radio.findPartnerUsec (r : Radio) : UInt32 := r.airTimeUsec .findPartner 4

/-- The time of a FIND_PARTNER and its answer, without the delay. -/
def Radio.findPartnerMsec (r : Radio) : Nat :=
  (r.findPartnerUsec.toNat + r.txDataAckUsec.toNat + r.settings.txToRxUsec.toNat) / 1000

def Radio.channels (r : Radio) : Nat := r.settings.numberOfChannels.toNat

/-- The loops that FIND_PARTNERs fill 10 s with. -/
def Radio.loops (r : Radio) : Nat := 10000 / (r.findPartnerMsec * r.channels)

/-- A FIND_PARTNER exchange takes a millisecond or more, and its time does not
overflow. -/
structure Radio.Timed (r : Radio) : Prop where
  channels : 0 < r.channels
  long : 0 < r.findPartnerMsec
  short : 2 * r.findPartnerUsec.toNat + r.txDataAckUsec.toNat + r.settings.txToRxUsec.toNat <
    2 ^ 32

/-- The frame time is that of a FIND_PARTNER, with the delay or without. -/
def Radio.Settled (r : Radio) : Prop :=
  r.findPartnerUsec.toNat ≤ r.frameAirTimeUsec.toNat ∧
    r.frameAirTimeUsec.toNat ≤ 2 * r.findPartnerUsec.toNat

instance (r : Radio) : Decidable r.Settled := inferInstanceAs (Decidable (_ ∧ _))

variable {r r' : Radio} {i : Inputs}

theorem responseDelay_le (t : UInt32) : (responseDelay t).toNat ≤ t.toNat / 4 := by
  rw [responseDelay]
  have hmod := Nat.mod_le (t / 4).toNat (2 ^ 16)
  simpa using hmod

theorem exchangeMsec_toNat (ht : r.Timed) (hsettled : r.Settled) :
    r.exchangeMsec.toNat = (r.frameAirTimeUsec.toNat + r.txDataAckUsec.toNat +
      r.settings.txToRxUsec.toNat) / 1000 := by
  have hshort := ht.short
  have hlong := hsettled.2
  rw [Radio.exchangeMsec,UInt32.toNat_div,UInt32.toNat_add,UInt32.toNat_add,Nat.mod_add_mod,
    Nat.mod_eq_of_lt (by omega)]
  rfl

/-- The source's number of loops is for a frame that takes no less. -/
theorem multipointMaxLoops_le (ht : r.Timed) (hsettled : r.Settled) :
    r.multipointMaxLoops ≤ r.loops := by
  have hchannels : r.settings.numberOfChannels.toNat < 256 := r.settings.numberOfChannels.toNat_lt
  have hexchange := exchangeMsec_toNat ht hsettled
  have hle : r.findPartnerMsec ≤ r.exchangeMsec.toNat := by
    rw [hexchange]
    exact Nat.div_le_div_right (by have := hsettled.1; omega)
  have hlt := r.exchangeMsec.toNat_lt
  have hsmall : r.exchangeMsec.toNat ≤ 4294967 := by
    have hshort := ht.short
    have hlong := hsettled.2
    omega
  have hproduct : r.exchangeMsec.toNat * r.settings.numberOfChannels.toNat < 2 ^ 32 :=
    Nat.lt_of_le_of_lt (Nat.mul_le_mul hsmall (Nat.le_of_lt_succ hchannels)) (by decide)
  have hdivisor : (r.exchangeMsec * r.settings.numberOfChannels.toUInt32).toNat =
      r.exchangeMsec.toNat * r.channels := by
    rw [UInt32.toNat_mul,UInt8.toNat_toUInt32]
    exact Nat.mod_eq_of_lt hproduct
  rw [Radio.multipointMaxLoops,UInt32.toNat_div,hdivisor]
  exact Nat.div_le_div_left (Nat.mul_le_mul_right _ hle) (Nat.mul_pos ht.long ht.channels)

/-- A hop in reverse goes down the table, and from its start to its end. -/
theorem hopTarget_reverse_cases {s : Settings} {c : UInt8}
    (hc : c.toNat < s.numberOfChannels.toNat) :
    (c.toNat = 0 ∧ (hopTarget false 1 c s).toNat = s.numberOfChannels.toNat - 1) ∨
      (hopTarget false 1 c s).toNat < c.toNat := by
  have hlt := s.numberOfChannels.toNat_lt
  have hone : (s.numberOfChannels - 1).toNat = s.numberOfChannels.toNat - 1 :=
    UInt8.toNat_sub_of_le _ _ (Nat.zero_lt_of_lt hc)
  rw [hopTarget,if_neg Bool.false_ne_true,UInt8.toNat_mod,UInt8.toNat_add,hone]
  by_cases hzero : c.toNat = 0
  · refine .inl ⟨hzero,?_⟩
    rw [hzero,Nat.zero_add,Nat.mod_eq_of_lt (by omega),Nat.mod_eq_of_lt (by omega)]
  refine .inr ?_
  -- The sum passes the number of channels, and above 128 channels maybe 256 too.
  by_cases hwrap : c.toNat + (s.numberOfChannels.toNat - 1) < 256
  · have hsum : c.toNat + (s.numberOfChannels.toNat - 1) =
        c.toNat - 1 + s.numberOfChannels.toNat := by omega
    rw [Nat.mod_eq_of_lt hwrap,hsum,Nat.add_mod_right,Nat.mod_eq_of_lt (by omega)]
    omega
  · have hsum : (c.toNat + (s.numberOfChannels.toNat - 1)) % 2 ^ 8 =
        c.toNat + (s.numberOfChannels.toNat - 1) - 256 := by omega
    rw [hsum]
    exact Nat.lt_of_le_of_lt (Nat.mod_le _ _) (by omega)

/-- The hops to the end of a loop. -/
def Radio.depth (r : Radio) : Nat :=
  if r.channelNumber.toNat = 0 then r.channels else r.channelNumber.toNat

/-- The hops to the end of the last loop. -/
def Radio.remaining (r : Radio) : Nat :=
  if r.multipointChannelLoops < r.loops then
    (r.loops - r.multipointChannelLoops - 1) * r.channels + r.depth
  else 0

/-- The settings and the frame times, as far as they do not depend on what was
sent last. -/
structure SameTimes (r r' : Radio) : Prop where
  settings : r'.settings = r.settings
  airTimeUsec : r'.airTimeUsec = r.airTimeUsec
  txDataAckUsec : r'.txDataAckUsec = r.txDataAckUsec

theorem SameTimes.refl (r : Radio) : SameTimes r r := ⟨rfl,rfl,rfl⟩

theorem SameTimes.trans {r'' : Radio} (h : SameTimes r r') (h' : SameTimes r' r'') :
    SameTimes r r'' := ⟨h'.1.trans h.1,h'.2.trans h.2,h'.3.trans h.3⟩

theorem SameTimes.channels (h : SameTimes r r') : r'.channels = r.channels := by
  rw [Radio.channels,h.settings,Radio.channels]

theorem SameTimes.findPartnerUsec (h : SameTimes r r') :
    r'.findPartnerUsec = r.findPartnerUsec := by
  rw [Radio.findPartnerUsec,h.airTimeUsec,Radio.findPartnerUsec]

theorem SameTimes.findPartnerMsec (h : SameTimes r r') :
    r'.findPartnerMsec = r.findPartnerMsec := by
  rw [Radio.findPartnerMsec,h.findPartnerUsec,h.txDataAckUsec,h.settings,Radio.findPartnerMsec]

theorem SameTimes.loops (h : SameTimes r r') : r'.loops = r.loops := by
  rw [Radio.loops,h.findPartnerMsec,h.channels,Radio.loops]

theorem SameTimes.timed (h : SameTimes r r') (ht : r.Timed) : r'.Timed :=
  ⟨h.channels ▸ ht.channels,h.findPartnerMsec ▸ ht.long,
    by rw [h.findPartnerUsec,h.txDataAckUsec,h.settings]; exact ht.short⟩

theorem sameTimes_previousChannel (r : Radio) : SameTimes r r.previousChannel := by
  unfold Radio.previousChannel
  dsimp only
  split <;> exact ⟨rfl,rfl,rfl⟩

theorem previousChannel_channelNumber (r : Radio) :
    r.previousChannel.channelNumber = hopTarget false 1 r.channelNumber r.settings := by
  unfold Radio.previousChannel
  dsimp only
  split <;> rfl

theorem previousChannel_multipointChannelLoops (r : Radio) :
    r.previousChannel.multipointChannelLoops = r.multipointChannelLoops +
      if r.previousChannel.channelNumber.toNat = 0 then 1 else 0 := by
  have hzero : r.previousChannel.channelNumber.toNat = 0 ↔
      r.hopChannelReverse.channelNumber = 0 := by
    rw [previousChannel_channelNumber]
    exact (UInt8.toNat_inj (b := 0))
  simp only [hzero]
  unfold Radio.previousChannel
  dsimp only
  split <;> rfl

theorem Radio.depth_pos (hc : r.channelNumber.toNat < r.channels) : 0 < r.depth := by
  unfold Radio.depth
  split <;> omega

/-- A hop in reverse leaves less, and brings the channel into the table. -/
theorem remaining_previousChannel (hc : r.channelNumber.toNat < r.channels) :
    r.previousChannel.channelNumber.toNat < r.channels ∧
      r.previousChannel.remaining ≤ r.remaining ∧
      (r.previousChannel.multipointChannelLoops < r.loops →
        r.previousChannel.remaining < r.remaining) := by
  have hsame := sameTimes_previousChannel r
  have htarget := hopTarget_reverse_cases (s := r.settings) hc
  rw [← previousChannel_channelNumber] at htarget
  have hloops := previousChannel_multipointChannelLoops r
  have hdepth := r.depth_pos hc
  have hchannels : r.previousChannel.channelNumber.toNat < r.channels := by
    have hvalue : r.channels = r.settings.numberOfChannels.toNat := rfl
    omega
  refine ⟨hchannels,?_⟩
  unfold Radio.remaining
  rw [hsame.loops,hloops]
  by_cases hzero : r.previousChannel.channelNumber.toNat = 0
  · have hloop : r.previousChannel.depth = r.channels := by
      rw [Radio.depth,if_pos hzero,hsame.channels]
    rw [if_pos hzero,hsame.channels,hloop]
    by_cases hlast : r.multipointChannelLoops + 1 < r.loops
    · have hsplit : r.loops - r.multipointChannelLoops - 1 =
          r.loops - (r.multipointChannelLoops + 1) - 1 + 1 := by omega
      rw [if_pos hlast,if_pos (by omega),hsplit,Nat.add_one_mul]
      omega
    · rw [if_neg hlast]
      exact ⟨Nat.zero_le _,fun h => absurd h hlast⟩
  · have hlower : r.previousChannel.depth < r.depth := by
      have hvalue : r.channels = r.settings.numberOfChannels.toNat := rfl
      rw [Radio.depth,if_neg hzero,Radio.depth]
      split <;> omega
    rw [if_neg hzero,Nat.add_zero,hsame.channels]
    split
    · omega
    · exact ⟨Nat.le_refl _,fun h => absurd h ‹_›⟩

/-- What the discovery may still take: one more time-out while the frame time is
that of another frame, and the one that ends it. -/
def Radio.left (r : Radio) : Nat := 1 + (if r.Settled then 0 else 1) + r.remaining

/-- The states of a client that hears nothing, with what it has sent. -/
def Search.Phase (x : Search) : Prop :=
  match x.radio.radioState with
  | .discoverBegin => x.sent = [] ∧ x.timeouts = 0 ∧ x.radio.channelNumber.toNat < x.radio.channels
  | .discoverScanning | .discoverWaitTxFindPartnerDone =>
    x.sent.length ≤ x.timeouts ∧
      x.timeouts + x.radio.left ≤ 2 + x.radio.loops * x.radio.channels ∧
      x.radio.channelNumber.toNat < x.radio.channels
  | .discoverStandby =>
    x.sent.length ≤ 1 + x.radio.loops * x.radio.channels ∧
      x.timeouts ≤ 2 + x.radio.loops * x.radio.channels ∧ x.radio.channelNumber = 0
  | .mpStandby | .mpWaitTxDone => False

structure Searching (r : Radio) (x : Search) : Prop where
  times : SameTimes r x.radio
  frames : ∀ f ∈ x.sent, f.datagramType = .findPartner
  phase : x.Phase

/-- All of the discovery is left when it begins. -/
theorem left_begin (hloops : r.multipointChannelLoops = 0)
    (hc : r.channelNumber.toNat < r.channels) : r.left ≤ 2 + r.loops * r.channels := by
  have hdepth : r.depth ≤ r.channels := by
    unfold Radio.depth
    split <;> omega
  have hremaining : r.remaining ≤ r.loops * r.channels := by
    unfold Radio.remaining
    rw [hloops]
    split
    next hpos =>
      have hsplit : r.loops = r.loops - 0 - 1 + 1 := by omega
      conv_rhs => rw [hsplit,Nat.add_one_mul]
      omega
    next => exact Nat.zero_le _
  unfold Radio.left
  split <;> omega

/-- What a FIND_PARTNER leaves, in a client whose channel timer is stopped. -/
theorem findPartner_settled (ht : r.Timed) (i : Inputs) :
    let next := (xmitDatagramP2PFindPartner r { i with transmitHop := false }
      .discoverWaitTxFindPartnerDone).1
    SameTimes r next ∧ next.Settled ∧ next.channelNumber = r.channelNumber ∧
      next.multipointChannelLoops = r.multipointChannelLoops ∧
      (next.radioState = .discoverWaitTxFindPartnerDone ∨ next.radioState = r.radioState) := by
  intro next
  have hdelay := responseDelay_le r.findPartnerUsec
  have hshort := ht.short
  have hsum : (r.findPartnerUsec + responseDelay r.findPartnerUsec).toNat =
      r.findPartnerUsec.toNat + (responseDelay r.findPartnerUsec).toNat := by
    rw [UInt32.toNat_add]
    exact Nat.mod_eq_of_lt (by omega)
  cases hresult : i.transmit.result with
  | true =>
    have hnext : next = ({ r with frameAirTimeUsec :=
        r.findPartnerUsec + responseDelay r.findPartnerUsec }).changeState
          .discoverWaitTxFindPartnerDone := by
      simp [next,xmitDatagramP2PFindPartner,Radio.transmitDatagram,Radio.retransmitDatagram,
        Radio.hop,hresult,Radio.findPartnerUsec,P2P.millisBytes]
    rw [hnext]
    refine ⟨⟨rfl,rfl,rfl⟩,?_,rfl,rfl,.inl rfl⟩
    change r.findPartnerUsec.toNat ≤ (r.findPartnerUsec + _).toNat ∧
      (r.findPartnerUsec + _).toNat ≤ 2 * r.findPartnerUsec.toNat
    rw [hsum]
    omega
  | false =>
    have hnext : next = { r with frameAirTimeUsec := r.findPartnerUsec } := by
      simp [next,xmitDatagramP2PFindPartner,Radio.transmitDatagram,Radio.retransmitDatagram,
        Radio.hop,hresult,Radio.findPartnerUsec,P2P.millisBytes]
    rw [hnext]
    refine ⟨⟨rfl,rfl,rfl⟩,?_,rfl,rfl,.inr rfl⟩
    change r.findPartnerUsec.toNat ≤ r.findPartnerUsec.toNat ∧
      r.findPartnerUsec.toNat ≤ 2 * r.findPartnerUsec.toNat
    omega

variable {x : Search} {e : Event}

theorem step_quiet (hnext : handle x.radio none e = (x.radio,[]))
    (hwait : e.endsWait x.radio = false) : x.step e = x := by
  unfold Search.step
  rw [hnext,hwait]
  dsimp only
  rw [List.append_nil]
  rfl

/-- A step into the data of the serial input, or to another state of the same
search. -/
theorem Searching.same_radio (h : Searching r x) {r' : Radio} (hsame : SameTimes x.radio r')
    (hsearching : x.radio.radioState = .discoverScanning ∨
      x.radio.radioState = .discoverWaitTxFindPartnerDone)
    (hstate : r'.radioState = .discoverScanning) (hchannel : r'.channelNumber = x.radio.channelNumber)
    (hleft : r'.left = x.radio.left) : Searching r ⟨r',x.sent,x.timeouts⟩ := by
  refine ⟨h.times.trans hsame,h.frames,?_⟩
  have hphase := h.phase
  unfold Search.Phase at hphase ⊢
  dsimp only
  rw [hstate]
  rcases hsearching with hbefore | hbefore
  all_goals
    rw [hbefore] at hphase
    dsimp only at hphase ⊢
    rw [hsame.loops,hsame.channels,hleft,hchannel]
    exact hphase

/-- The wait for SYNC_CLOCKS ends: the next FIND_PARTNER, or the end of the
discovery. -/
theorem Searching.timeout (h : Searching r x) (ht : r.Timed)
    (hstate : x.radio.radioState = .discoverScanning) (i : Inputs) :
    Searching r ⟨(scanningTimeout x.radio i).1,x.sent ++ (scanningTimeout x.radio i).2,
      x.timeouts + 1⟩ := by
  have htimed := h.times.timed ht
  have hphase := h.phase
  unfold Search.Phase at hphase
  rw [hstate] at hphase
  obtain ⟨hsent,hleft,hchannel⟩ := hphase
  have hsame := sameTimes_previousChannel x.radio
  obtain ⟨hchannel',hle,hlt⟩ := remaining_previousChannel hchannel
  have hbound : 1 ≤ x.radio.left := by
    unfold Radio.left
    omega
  unfold scanningTimeout
  dsimp only
  split
  next hgiveUp =>
    refine ⟨(h.times.trans hsame).trans ⟨rfl,rfl,rfl⟩,by simpa using h.frames,?_⟩
    change (x.sent ++ []).length ≤ 1 + x.radio.previousChannel.loops *
      x.radio.previousChannel.channels ∧ x.timeouts + 1 ≤ 2 + x.radio.previousChannel.loops *
      x.radio.previousChannel.channels ∧ (0 : UInt8) = 0
    rw [List.append_nil,hsame.loops,hsame.channels]
    exact ⟨by omega,by omega,rfl⟩
  next hgoesOn =>
    obtain ⟨hnext,hsettled,hnumber,hloops,hafter⟩ :=
      findPartner_settled (hsame.timed htimed) i
    have hsub : (xmitDatagramP2PFindPartner x.radio.previousChannel { i with transmitHop := false }
        .discoverWaitTxFindPartnerDone).2 <+ [⟨.findPartner,P2P.millisBytes i.millis⟩] :=
      onAir_sublist _ _
    generalize xmitDatagramP2PFindPartner x.radio.previousChannel { i with transmitHop := false }
      .discoverWaitTxFindPartnerDone = q at *
    have hall := hsame.trans hnext
    have hlength : q.2.length ≤ 1 := hsub.length_le
    refine ⟨h.times.trans hall,?_,?_⟩
    · intro f hf
      rcases List.mem_append.mp hf with hf | hf
      · exact h.frames f hf
      · rw [List.mem_singleton.mp (hsub.subset hf)]
    -- One hop less is left, or the frame time is settled now.
    have hfewer : q.1.left + 1 ≤ x.radio.left := by
      have hremaining : q.1.remaining = x.radio.previousChannel.remaining := by
        rw [Radio.remaining,Radio.depth,hloops,hall.loops,hall.channels,hnumber,Radio.remaining,
          Radio.depth,hsame.loops,hsame.channels]
      rw [Radio.left,if_pos hsettled,hremaining,Radio.left]
      split
      next hbefore =>
        have hprevious : x.radio.previousChannel.Settled := by
          have hair : x.radio.previousChannel.frameAirTimeUsec = x.radio.frameAirTimeUsec := by
            unfold Radio.previousChannel
            dsimp only
            split <;> rfl
          unfold Radio.Settled
          rw [hsame.findPartnerUsec,hair]
          exact hbefore
        have hmax := multipointMaxLoops_le (hsame.timed htimed) hprevious
        rw [hsame.loops] at hmax
        have hless := hlt (by omega)
        omega
      next => omega
    have hstates : q.1.radioState = .discoverScanning ∨
        q.1.radioState = .discoverWaitTxFindPartnerDone := by
      rcases hafter with hafter | hafter
      · exact .inr hafter
      · exact .inl (hafter.trans ((previousChannel_radioState x.radio).trans hstate))
    have hcount : (x.sent ++ q.2).length ≤ x.timeouts + 1 ∧
        x.timeouts + 1 + q.1.left ≤ 2 + q.1.loops * q.1.channels ∧
        q.1.channelNumber.toNat < q.1.channels := by
      rw [List.length_append,hall.loops,hall.channels,hnumber]
      omega
    unfold Search.Phase
    dsimp only
    rcases hstates with hs | hs <;> rw [hs] <;> exact hcount

theorem Searching.begin (h : Searching r x) (hclient : r.settings.server = false)
    (hstate : x.radio.radioState = .discoverBegin) :
    Searching r ⟨discoverBeginPass x.radio,x.sent,x.timeouts⟩ := by
  have hphase := h.phase
  unfold Search.Phase at hphase
  rw [hstate] at hphase
  obtain ⟨hsent,htimeouts,hchannel⟩ := hphase
  have hnot : ¬x.radio.settings.server = true := by
    rw [h.times.settings,hclient]
    exact Bool.false_ne_true
  unfold discoverBeginPass
  rw [if_neg hnot]
  split
  · refine ⟨h.times.trans ⟨rfl,rfl,rfl⟩,h.frames,?_⟩
    change x.sent.length ≤ _ ∧ x.timeouts ≤ _ ∧ (0 : UInt8) = 0
    rw [hsent,htimeouts]
    exact ⟨Nat.zero_le _,Nat.zero_le _,rfl⟩
  · refine ⟨h.times.trans ⟨rfl,rfl,rfl⟩,h.frames,?_⟩
    have hleft := left_begin (r := { x.radio with multipointChannelLoops := 0 }.changeState
      .discoverScanning) rfl hchannel
    change x.sent.length ≤ x.timeouts ∧ x.timeouts + _ ≤ _ ∧ _
    rw [hsent,htimeouts,Nat.zero_add]
    exact ⟨Nat.le_refl _,hleft,hchannel⟩

theorem Searching.step (h : Searching r x) (ht : r.Timed) (hclient : r.settings.server = false)
    (e : Event) : Searching r (x.step e) := by
  have hnot : ¬x.radio.settings.server = true := by
    rw [h.times.settings,hclient]
    exact Bool.false_ne_true
  cases e with
  | updateSerial incoming turns millis =>
    have hphase := h.phase
    refine ⟨h.times.trans ⟨rfl,rfl,rfl⟩,by simpa [Search.step,handle] using h.frames,?_⟩
    have hnothing : x.sent ++ [] = x.sent := List.append_nil _
    unfold Search.Phase at hphase ⊢
    simp only [Search.step,handle,hnothing]
    exact hphase
  | pass transactionComplete i =>
    cases hstate : x.radio.radioState with
    | discoverBegin =>
      have hstep : x.step (.pass transactionComplete i) =
          ⟨discoverBeginPass x.radio,x.sent,x.timeouts⟩ := by
        simp [Search.step,handle,updateRadioState,Event.endsWait,hstate]
      rw [hstep]
      exact h.begin hclient hstate
    | discoverScanning =>
      by_cases hends : (Event.pass transactionComplete i).endsWait x.radio = true
      · have hcases := hends
        simp only [Event.endsWait,hstate,decide_true,Bool.true_and,Bool.and_eq_true,
          Bool.not_eq_true'] at hcases
        obtain ⟨⟨htransaction,hreceive⟩,htimeout⟩ := hcases
        have hstep : x.step (.pass transactionComplete i) = ⟨(scanningTimeout x.radio i).1,
            x.sent ++ (scanningTimeout x.radio i).2,x.timeouts + 1⟩ := by
          unfold Search.step
          rw [hends]
          simp [handle,updateRadioState,hstate,discoverScanningPass,hnot,htransaction,hreceive,
            htimeout]
        rw [hstep]
        exact h.timeout ht hstate i
      · have hwait := eq_false_of_ne_true hends
        suffices hnext : handle x.radio none (.pass transactionComplete i) = (x.radio,[]) by
          rw [step_quiet hnext hwait]
          exact h
        have hcases := hwait
        simp only [Event.endsWait,hstate,decide_true,Bool.true_and] at hcases
        cases transactionComplete with
        | true => simp [handle,updateRadioState,hstate,discoverScanningPass,hnot]
        | false =>
          have hidle : ¬(i.receiveInProcess = false ∧ i.syncClocksTimeout = true) := by
            rintro ⟨hreceive,htimeout⟩
            rw [hreceive,htimeout] at hcases
            cases hcases
          simp [handle,updateRadioState,hstate,discoverScanningPass,hnot,hidle]
    | discoverWaitTxFindPartnerDone =>
      have hwait : (Event.pass transactionComplete i).endsWait x.radio = false := by
        simp [Event.endsWait,hstate]
      cases transactionComplete with
      | true =>
        have hstep : x.step (.pass true i) =
            ⟨x.radio.changeState .discoverScanning,x.sent,x.timeouts⟩ := by
          unfold Search.step
          rw [hwait]
          simp [handle,updateRadioState,hstate]
        rw [hstep]
        exact h.same_radio ⟨rfl,rfl,rfl⟩ (.inr hstate) rfl rfl rfl
      | false =>
        have hnext : handle x.radio none (.pass false i) = (x.radio,[]) := by
          simp [handle,updateRadioState,hstate]
        rw [step_quiet hnext hwait]
        exact h
    | discoverStandby =>
      have hwait : (Event.pass transactionComplete i).endsWait x.radio = false := by
        simp [Event.endsWait,hstate]
      have hnext : handle x.radio none (.pass transactionComplete i) = (x.radio,[]) := by
        cases transactionComplete <;> simp [handle,updateRadioState,hstate,discoverStandbyPass]
      rw [step_quiet hnext hwait]
      exact h
    | mpStandby | mpWaitTxDone =>
      have hphase := h.phase
      unfold Search.Phase at hphase
      rw [hstate] at hphase
      exact hphase.elim

/-- A client that hears nothing sends at most one FIND_PARTNER more than 10 s of
exchanges take, and nothing else. At most once more it waits in vain: it has then
given up, and listens on channel 0. -/
theorem discovery_gives_up (ht : r.Timed) (hclient : r.settings.server = false)
    (hstate : r.radioState = .discoverBegin) (hchannel : r.channelNumber.toNat < r.channels)
    (es : List Event) :
    let x := run Search.step ⟨r,[],0⟩ es
    let inTenSeconds := r.loops * r.channels
    inTenSeconds * r.findPartnerMsec ≤ 10000 ∧ x.sent.length ≤ 1 + inTenSeconds ∧
      (∀ f ∈ x.sent, f.datagramType = .findPartner) ∧ ¬x.radio.Synchronized ∧
      x.timeouts ≤ 2 + inTenSeconds ∧
      (x.timeouts = 2 + inTenSeconds → x.radio.radioState = .discoverStandby) ∧
      (x.radio.radioState = .discoverStandby → x.radio.channelNumber = 0) := by
  intro x inTenSeconds
  have hstart : Searching r ⟨r,[],0⟩ := by
    refine ⟨.refl r,fun _ hf => absurd hf List.not_mem_nil,?_⟩
    unfold Search.Phase
    dsimp only
    rw [hstate]
    exact ⟨rfl,rfl,hchannel⟩
  have hkeep : ∀ x e, Searching r x → True → Searching r (x.step e) :=
    fun x e h _ => h.step ht hclient e
  have hx : Searching r x := Runs.invariant hkeep hstart (Runs.along_true _ _ es)
  have htime : inTenSeconds * r.findPartnerMsec ≤ 10000 := by
    calc
      inTenSeconds * r.findPartnerMsec = r.loops * (r.findPartnerMsec * r.channels) := by
        rw [Nat.mul_assoc,Nat.mul_comm r.channels]
      _ ≤ 10000 := Nat.div_mul_le_self 10000 _
  have hphase := hx.phase
  unfold Search.Phase at hphase
  rw [hx.times.loops,hx.times.channels] at hphase
  refine ⟨htime,?_⟩
  cases hfinal : x.radio.radioState with
  | discoverBegin =>
    rw [hfinal] at hphase
    obtain ⟨hsent,htimeouts,-⟩ := hphase
    refine ⟨?_,hx.frames,not_synchronized hfinal (by decide) (by decide),?_,?_,nofun⟩
    · rw [hsent]
      exact Nat.zero_le _
    · rw [htimeouts]
      exact Nat.zero_le _
    · rw [htimeouts]
      intro h
      omega
  | discoverScanning | discoverWaitTxFindPartnerDone =>
    rw [hfinal] at hphase
    obtain ⟨hsent,hleft,-⟩ := hphase
    have hpos : 1 ≤ x.radio.left := by
      unfold Radio.left
      omega
    refine ⟨by omega,hx.frames,not_synchronized hfinal (by decide) (by decide),by omega,?_,nofun⟩
    intro h
    omega
  | discoverStandby =>
    rw [hfinal] at hphase
    obtain ⟨hsent,htimeouts,hzero⟩ := hphase
    exact ⟨hsent,hx.frames,not_synchronized hfinal (by decide) (by decide),htimeouts,
      fun _ => rfl,fun _ => hzero⟩
  | mpStandby | mpWaitTxDone =>
    rw [hfinal] at hphase
    exact hphase.elim

theorem newRadio_timed : (newRadio false).Timed := ⟨by decide,by decide,by decide⟩

/-- A client of the default settings whose frames take 10 ms. -/
theorem newRadio_gives_up :
    (run Search.step ⟨newRadio false,[],0⟩
      (List.replicate 9 (.pass false (inputsAt true)))).sent.length ≤ 501 :=
  (discovery_gives_up newRadio_timed rfl rfl (by decide) _).2.1

end LoRaSerial.Multipoint
