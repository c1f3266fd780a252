import LoRaSerial.VC.Report

namespace LoRaSerial.VC
open P2P (Damage)

/-- A frame that the sender repeats until its DATA_ACK comes. -/
def Frame.sequenced (f : Frame) : Bool := f.control.datagramType.sequenced true

/-- The frame kept for retransmission stays, with its count and its destination;
the ACK timer may stop and waiting messages may go. No sequenced frame goes on
the air, and an address once assigned stays. -/
structure Steady (r r' : Radio) : Prop where
  ackTimer : r'.ackTimer = true → r.ackTimer = true
  rexmt : r'.rexmt = r.rexmt
  rexmtTxDestVc : r'.rexmtTxDestVc = r.rexmtTxDestVc
  myVc : r.myVc ≠ vcUnassigned → r'.myVc = r.myVc
  radioTxBuffer : ∀ m ∈ r'.radioTxBuffer, m ∈ r.radioTxBuffer
  onAir : r'.onAir.filter Frame.sequenced = r.onAir.filter Frame.sequenced

/-- The radio does not begin to wait for the server either. -/
structure Stays (r r' : Radio) : Prop extends Steady r r' where
  radioState : r'.radioState = .waitServer → r.radioState = .waitServer

theorem Steady.trans {r s t : Radio} (h : Steady r s) (k : Steady s t) : Steady r t where
  ackTimer ha := h.ackTimer (k.ackTimer ha)
  rexmt := k.rexmt.trans h.rexmt
  rexmtTxDestVc := k.rexmtTxDestVc.trans h.rexmtTxDestVc
  myVc hm := (k.myVc (h.myVc hm ▸ hm)).trans (h.myVc hm)
  radioTxBuffer m hm := h.radioTxBuffer m (k.radioTxBuffer m hm)
  onAir := k.onAir.trans h.onAir

theorem Stays.trans {r s t : Radio} (h : Stays r s) (k : Stays s t) : Stays r t where
  toSteady := h.toSteady.trans k.toSteady
  radioState hs := h.radioState (k.radioState hs)

/-- The fields that the relations above speak of. -/
def Radio.steady (r : Radio) :=
  (r.ackTimer,r.rexmt,r.rexmtTxDestVc,r.myVc,r.radioTxBuffer,r.onAir)

/-- A record update of the other fields. -/
theorem Steady.of_eq {r r' : Radio} (h : r'.steady = r.steady) : Steady r r' := by
  simp only [Radio.steady,Prod.mk.injEq] at h
  obtain ⟨ha,hx,hd,hm,hb,ho⟩ := h
  exact ⟨fun h => ha ▸ h,hx,hd,fun _ => hm,fun m hm => hb ▸ hm,by rw [ho]⟩

theorem Stays.of_eq {r r' : Radio} (h : r'.steady = r.steady)
    (hs : r'.radioState = r.radioState) : Stays r r' :=
  ⟨.of_eq h,fun h => hs ▸ h⟩

theorem Steady.refl (r : Radio) : Steady r r := .of_eq rfl

theorem Stays.refl (r : Radio) : Stays r r := .of_eq rfl rfl

theorem touch_stays (r : Radio) (a : Access) : Stays r (r.touch a) := .of_eq rfl rfl

theorem log_stays (r : Radio) (a : Action) : Stays r (r.log a) := .of_eq rfl rfl

theorem changeState_steady (r : Radio) (s : RadioState) : Steady r (r.changeState s) :=
  .of_eq rfl

theorem changeState_stays (r : Radio) {s : RadioState} (hs : s ≠ .waitServer) :
    Stays r (r.changeState s) :=
  ⟨changeState_steady r s,fun h => absurd h hs⟩

theorem stopAckTimer_stays (r : Radio) : Stays r r.stopAckTimer :=
  ⟨⟨by simp [Radio.stopAckTimer],rfl,rfl,fun _ => rfl,fun _ => id,rfl⟩,id⟩

theorem setRadioTxBuffer_stays {r : Radio} {ms : List Datagram}
    (hms : ∀ m ∈ ms, m ∈ r.radioTxBuffer) : Stays r (r.setRadioTxBuffer ms) :=
  ⟨⟨id,rfl,rfl,fun _ => rfl,hms,rfl⟩,id⟩

theorem setUnsent_stays (r : Radio) (m : Option Datagram) : Stays r (r.setUnsent m) :=
  .of_eq rfl rfl

theorem setPrintToRf_stays (r : Radio) (b : Bool) : Stays r (r.setPrintToRf b) := .of_eq rfl rfl

theorem setTxDestVc_stays (r : Radio) (a : VcAddress) : Stays r (r.setTxDestVc a) :=
  .of_eq rfl rfl

theorem setVcConnecting_stays (r : Radio) (mask : BitVec 32) :
    Stays r (r.setVcConnecting mask) := .of_eq rfl rfl

theorem setAtLinkCheck_stays (r : Radio) (b : Bool) : Stays r (r.setAtLinkCheck b) :=
  .of_eq rfl rfl

theorem deliver_stays (r : Radio) (p : Reception) : Stays r (r.deliver p) := .of_eq rfl rfl

theorem setRxSrcVc_stays (r : Radio) (a : VcAddress) : Stays r (r.setRxSrcVc a) :=
  .of_eq rfl rfl

theorem setRmtCmdVc_stays (r : Radio) (a : VcAddress) : Stays r (r.setRmtCmdVc a) :=
  .of_eq rfl rfl

theorem setIgnoreFrame_stays (r : Radio) (b : Bool) : Stays r (r.setIgnoreFrame b) :=
  .of_eq rfl rfl

theorem setCircuit_stays (r : Radio) (a : VcAddress) (vc : VirtualCircuit) :
    Stays r (r.setCircuit a vc) := by
  obtain ⟨l,hl⟩ := setCircuit_list r a vc
  rw [hl]
  exact .of_eq rfl rfl

theorem setNumbers_stays (r : Radio) (a : VcAddress) (numbers : AckNumbers) :
    Stays r (r.setNumbers a numbers) :=
  setCircuit_stays r a _

theorem vcSendPcAckNack_stays (r : Radio) (a : VcAddress) (ack : Bool) :
    Stays r (vcSendPcAckNack r a ack) := by
  unfold vcSendPcAckNack
  split
  · exact .refl r
  · exact log_stays r _

theorem vcChangeState_stays (r : Radio) (a : VcAddress) (state : VcState) :
    Stays r (vcChangeState r a state) := by
  unfold vcChangeState
  refine (touch_stays r (.entry a.toInt)).trans ?_
  dsimp only
  split
  · exact (setCircuit_stays _ a _).trans (setVcConnecting_stays _ _)
  · exact .refl _

theorem answerBreak_stays (r : Radio) (v : Fin maxVc) : Stays r (answerBreak r v) := by
  unfold answerBreak
  refine (log_stays r (.broken v)).trans ?_
  dsimp only
  split
  · exact (stopAckTimer_stays _).trans (vcSendPcAckNack_stays _ _ false)
  · exact .refl _

theorem vcBreakLink_stays (r : Radio) (a : VcAddress) : Stays r (vcBreakLink r a) := by
  rw [vcBreakLink_eq]
  split
  · exact .refl r
  refine (answerBreak_stays r a.number).trans ?_
  split
  · exact (setRadioTxBuffer_stays (by simp)).trans (setUnsent_stays _ none)
  · exact vcChangeState_stays _ _ _

theorem vcLinkAlive_stays (r : Radio) (v : Fin maxVc) : Stays r (vcLinkAlive r v) := by
  unfold vcLinkAlive
  split
  · exact vcChangeState_stays r _ _
  · exact .refl r

theorem vcZeroAcks_stays (r : Radio) (a : VcAddress) : Stays r (vcZeroAcks r a) :=
  (touch_stays r _).trans (setNumbers_stays _ a .zero)

theorem vcIdToAddressByte_stays (r : Radio) (srcAddr : VcAddress) (id : List UInt8)
    (server : Bool) : Stays r (vcIdToAddressByte r srcAddr id server).1 := by
  unfold vcIdToAddressByte
  split
  · exact vcLinkAlive_stays r _
  · split
    · exact .refl r
    · split
      · exact .refl r
      next v _ =>
        dsimp only
        split
        · exact .refl r
        · exact (setCircuit_stays r _ _).trans (vcLinkAlive_stays _ v)

/-- A frame without a number of its own leaves the sequenced ones on the air. -/
theorem transmitDatagram_stays (r : Radio) (t : DatagramType) (d : Datagram) (i : Inputs)
    (ht : t.sequenced true = false := by rfl) : Stays r (transmitDatagram r t d i).1 := by
  have hair : (transmitDatagram r t d i).1.onAir.filter Frame.sequenced =
      r.onAir.filter Frame.sequenced := by
    have hframe : (r.builtFrame t d).sequenced = false := ht
    rcases transmitDatagram_onAir r t d i with ha | ha <;> simp [ha,hframe]
  revert hair
  unfold transmitDatagram retransmitDatagram
  dsimp only
  split
  · exact fun _ => .of_eq rfl rfl
  · exact fun hair => ⟨⟨id,rfl,rfl,fun _ => rfl,fun _ => id,hair⟩,id⟩

theorem enter_stays (x : Radio × Bool) : Stays x.1 (enter x .waitTxDone) := by
  unfold enter
  split
  · exact changeState_stays x.1 (by decide)
  · exact .refl _

/-- A branch that ends in a transmit attempt. -/
theorem xmit_stays (r : Radio) (t : DatagramType) (d : Datagram) (i : Inputs)
    (ht : t.sequenced true = false := by rfl) :
    Stays r (enter (transmitDatagram r t d i) .waitTxDone) :=
  (transmitDatagram_stays r t d i ht).trans (enter_stays _)

theorem getTxTime_stays (r : Radio) (i : Inputs) : Stays r (getTxTime r i) :=
  ((setIgnoreFrame_stays r true).trans (transmitDatagram_stays _ _ _ i)).trans
    (setIgnoreFrame_stays _ false)

/-- A loop whose steps are all related relates its end to its start. -/
theorem foldl_related {σ : Type} {R : Radio → Radio → Prop} (hrefl : ∀ r, R r r)
    (htrans : ∀ {r s t}, R r s → R s t → R r t) (radio : σ → Radio) (f : σ → Fin maxVc → σ)
    (hf : ∀ q v, R (radio q) (radio (f q v))) (l : List (Fin maxVc)) (q : σ) :
    R (radio q) (radio (l.foldl f q)) := by
  induction l generalizing q with
  | nil => exact hrefl _
  | cons v l ih => exact htrans (hf q v) (ih (f q v))

theorem breakLinks_stays (r : Radio) : Stays r (breakLinks r) := by
  unfold breakLinks
  refine Stays.trans (foldl_related Stays.refl Stays.trans id _ ?_ (List.finRange maxVc) r)
    (changeState_stays _ (by decide))
  intro q v
  dsimp only [id]
  split
  · exact vcBreakLink_stays q _
  · exact .refl q

theorem checkCommand_stays (r : Radio) (c : Command) : Stays r (checkCommand r c) := by
  cases c with
  | connect =>
    change Stays r (if _ then r else _)
    split
    · exact .refl r
    · exact vcChangeState_stays r _ _
  | breakLinks => exact breakLinks_stays r
  | reset => exact changeState_stays r (by decide)
  | setCmdVc v => exact .of_eq rfl rfl
  | other => exact .refl r

theorem checkRemoteCommand_stays (r : Radio) (c : Command) : Stays r (checkRemoteCommand r c) :=
  ((setPrintToRf_stays r true).trans (checkCommand_stays _ c)).trans (setPrintToRf_stays _ false)

theorem refresh_stays (r : Radio) (a : VcAddress) (i : Inputs) : Stays r (r.refresh a i) :=
  (touch_stays r _).trans (setCircuit_stays _ a _)

theorem hear_stays (r : Radio) (i : Inputs) : Stays r (r.hear i) := by
  unfold Radio.hear
  split
  · exact refresh_stays r _ i
  · exact .refl r

theorem saveMyVc_stays (r : Radio) (id : List UInt8) : Stays r (r.saveMyVc id) := by
  unfold Radio.saveMyVc
  split
  next h => exact ⟨⟨fun h => h,rfl,rfl,fun hm => absurd h.1 hm,fun _ h => h,rfl⟩,fun h => h⟩
  · exact .refl r

theorem vcReceiveHeartbeat_stays (r : Radio) (data : List UInt8) (i : Inputs) :
    Stays r (vcReceiveHeartbeat r data i) := by
  unfold vcReceiveHeartbeat
  dsimp only
  refine (saveMyVc_stays r (heartbeatId data)).trans ?_
  generalize r.saveMyVc (heartbeatId data) = s
  have hid := vcIdToAddressByte_stays s s.rxSrcVc (heartbeatId data) i.server
  revert hid
  generalize vcIdToAddressByte s s.rxSrcVc (heartbeatId data) i.server = q
  obtain ⟨t,_ | v⟩ := q
  · exact fun hid => hid
  · intro hid
    refine hid.trans ?_
    dsimp only
    split
    · exact xmit_stays t _ _ i
    · exact .refl t

theorem findVc_stays (r : Radio) (a : VcAddress) : Stays r (r.findVc a) := by
  unfold Radio.findVc
  split
  · exact .refl r
  · exact touch_stays r _

theorem accepted_stays (r : Radio) (p : PacketType) : Stays r (r.accepted p).1 := by
  unfold Radio.accepted
  dsimp only
  split
  · exact log_stays r _
  · exact .refl r

theorem rcvDatagram_stays (r : Radio) (p : Reception) (i : Inputs) :
    Stays r (rcvDatagram r p i).1 := by
  exact rcvDatagram_preserves p i (.refl r) (setRxSrcVc_stays r)
    (fun s a _ hs => hs.trans (findVc_stays s a))
    (fun s a numbers hs => hs.trans (setNumbers_stays s a numbers))
    (fun s q hs => hs.trans (accepted_stays s q))

theorem waitReceiveFrame_stays (r : Radio) (p : Reception) (i : Inputs) :
    Stays r (waitReceiveFrame r p i) := by
  unfold waitReceiveFrame
  dsimp only
  refine ((rcvDatagram_stays r p i).trans (hear_stays _ i)).trans ?_
  generalize (rcvDatagram r p i).1.hear i = s
  have hack : ∀ q : Radio, Stays q (enter (xmitVcAckFrame q q.rxSrcVc i) .waitTxDone) :=
    fun q => xmit_stays q _ _ i
  split
  · exact vcReceiveHeartbeat_stays s _ i
  · exact (deliver_stays s p).trans (hack _)
  · exact deliver_stays s p
  · exact (vcSendPcAckNack_stays s _ true).trans (stopAckTimer_stays _)
  · exact hack s
  · have hsync : Stays s (enter (xmitVcSyncAcks s s.rxSrcVc i) .waitTxDone) := xmit_stays s _ _ i
    exact (hsync.trans (vcChangeState_stays _ _ _)).trans (touch_stays _ _)
  · have hzero : Stays s (xmitVcZeroAcks s s.rxSrcVc i).1 := transmitDatagram_stays s _ _ i
    split
    · refine (hzero.trans (changeState_stays _ (s := .waitTxDone) (by decide))).trans ?_
      exact (vcZeroAcks_stays _ _).trans (vcChangeState_stays _ _ _)
    · exact hzero
  · exact (vcZeroAcks_stays s _).trans (vcChangeState_stays _ _ _)
  · refine Stays.trans ?_ (checkRemoteCommand_stays _ _)
    exact (setRmtCmdVc_stays s s.rxSrcVc).trans (xmit_stays _ _ _ i)
  · exact hack s
  · exact .refl s

theorem waitReceiveHandshake_stays (r : Radio) (i : Inputs) :
    Stays r (waitReceiveHandshake r i) := by
  unfold waitReceiveHandshake
  split
  · exact .refl r
  next v _ =>
    refine (touch_stays r (.entry v.val)).trans ?_
    dsimp only
    generalize r.touch (.entry v.val) = s
    split
    · have hsent : Stays s (xmitVcUnknownAcks s (.ofNumber v) i).1 :=
        transmitDatagram_stays s _ _ i
      split
      · have hstate : Stays _ (vcChangeState (xmitVcUnknownAcks s (.ofNumber v) i).1
            (.ofNumber v) .waitSyncAcks) := vcChangeState_stays _ _ _
        exact (hsent.trans hstate).trans (changeState_stays _ (by decide))
      · exact hsent
    · split
      · exact xmit_stays s _ _ i
      · split
        · exact xmit_stays s _ _ i
        · exact .refl s

theorem vcSerialMessageReceived_stays (r : Radio) (i : Inputs) :
    Stays r (vcSerialMessageReceived r i).1 := by
  unfold vcSerialMessageReceived
  split
  · exact .refl r
  next m rest hbuf =>
    have hrest : Stays r (r.setRadioTxBuffer rest) :=
      setRadioTxBuffer_stays fun n hn => by simp [hbuf,hn]
    dsimp only
    refine hrest.trans ?_
    generalize r.setRadioTxBuffer rest = s
    split
    · exact .refl s
    split
    · split
      · exact .refl s
      · exact vcBreakLink_stays s _
    have htouch : Stays s (if m.destVc = vcBroadcast then s else
        s.touch (.entry m.destVc.number)) := by
      split
      · exact .refl s
      · exact touch_stays s _
    refine htouch.trans ?_
    generalize (if m.destVc = vcBroadcast then s else
      s.touch (.entry m.destVc.number)) = t
    split
    · dsimp only
      split
      · exact log_stays _ _
      · exact .refl _
    split
    · exact setUnsent_stays _ _
    · exact .refl _

theorem waitServerPass_stays (r : Radio) (packet : Option Reception) (i : Inputs) :
    Stays r (waitServerPass r packet i) := by
  unfold waitServerPass
  split
  · exact changeState_stays r (by decide)
  cases packet with
  | none => exact .refl r
  | some p =>
    have hrcv := rcvDatagram_stays r p i
    dsimp only
    generalize rcvDatagram r p i = q at hrcv
    split
    next s =>
      split
      · refine hrcv.trans ((refresh_stays s vcServer i).trans ?_)
        exact (vcReceiveHeartbeat_stays _ _ i).trans (changeState_stays _ (by decide))
      · exact hrcv
    · exact hrcv

theorem linkCheck_steady (r : Radio) (now limit : BitVec 32) :
    Steady r (linkCheck r now limit) := by
  refine foldl_related Steady.refl Steady.trans Prod.fst (linkCheckIndex now limit) ?_ _ (r,false)
  intro q v
  unfold linkCheckIndex
  split
  · exact .refl _
  have htouch := (touch_stays q.1 (.entry v)).1
  dsimp only
  split
  · split
    · exact (htouch.trans (changeState_steady _ _)).trans (vcBreakLink_stays _ _).1
    · exact htouch.trans (vcBreakLink_stays _ _).1
  · exact htouch

/-- Only the address is chosen anew. -/
theorem selectMyVc_stays (r : Radio) (server : Bool) :
    ∃ s a, Stays r s ∧ selectMyVc r server = s.setMyVc a := by
  unfold selectMyVc
  split
  · exact ⟨_,_,vcIdToAddressByte_stays r vcServer r.myUniqueId server,rfl⟩
  · exact ⟨r,_,.refl r,rfl⟩

end LoRaSerial.VC
