import LoRaSerial.VC.ServerLink

namespace LoRaSerial.VC

/-- The lastTrafficMillis of every circuit. -/
def Radio.traffic (r : Radio) (v : Fin maxVc) : BitVec 32 :=
  (r.virtualCircuitList v).lastTrafficMillis

@[simp] theorem traffic_touch (r : Radio) (a : Access) : (r.touch a).traffic = r.traffic := rfl

@[simp] theorem traffic_log (r : Radio) (a : Action) : (r.log a).traffic = r.traffic := rfl

@[simp] theorem traffic_changeState (r : Radio) (s : RadioState) :
    (r.changeState s).traffic = r.traffic := rfl

@[simp] theorem traffic_setMyVc (r : Radio) (a : VcAddress) :
    (r.setMyVc a).traffic = r.traffic := rfl

@[simp] theorem traffic_setTxDestVc (r : Radio) (a : VcAddress) :
    (r.setTxDestVc a).traffic = r.traffic := rfl

@[simp] theorem traffic_setRxSrcVc (r : Radio) (a : VcAddress) :
    (r.setRxSrcVc a).traffic = r.traffic := rfl

@[simp] theorem traffic_setRmtCmdVc (r : Radio) (a : VcAddress) :
    (r.setRmtCmdVc a).traffic = r.traffic := rfl

@[simp] theorem traffic_setVcConnecting (r : Radio) (mask : BitVec 32) :
    (r.setVcConnecting mask).traffic = r.traffic := rfl

@[simp] theorem traffic_setPrintToRf (r : Radio) (b : Bool) :
    (r.setPrintToRf b).traffic = r.traffic := rfl

@[simp] theorem traffic_setUnsent (r : Radio) (m : Option Datagram) :
    (r.setUnsent m).traffic = r.traffic := rfl

@[simp] theorem traffic_setRadioTxBuffer (r : Radio) (ms : List Datagram) :
    (r.setRadioTxBuffer ms).traffic = r.traffic := rfl

@[simp] theorem traffic_setAtLinkCheck (r : Radio) (b : Bool) :
    (r.setAtLinkCheck b).traffic = r.traffic := rfl

@[simp] theorem traffic_setIgnoreFrame (r : Radio) (b : Bool) :
    (r.setIgnoreFrame b).traffic = r.traffic := rfl

@[simp] theorem traffic_stopAckTimer (r : Radio) : r.stopAckTimer.traffic = r.traffic := rfl

@[simp] theorem traffic_startAckTimer (r : Radio) : r.startAckTimer.traffic = r.traffic := rfl

@[simp] theorem traffic_awaitAck (r : Radio) : r.awaitAck.traffic = r.traffic := rfl

@[simp] theorem traffic_restoreTxBuffer (r : Radio) : r.restoreTxBuffer.traffic = r.traffic := rfl

@[simp] theorem traffic_clear (r : Radio) : r.clear.traffic = r.traffic := rfl

@[simp] theorem traffic_deliver (r : Radio) (p : Reception) :
    (r.deliver p).traffic = r.traffic := rfl

theorem traffic_setCircuit {r : Radio} {a : VcAddress} {vc : VirtualCircuit}
    (h : vc.lastTrafficMillis = (r.circuit a).lastTrafficMillis) :
    (r.setCircuit a vc).traffic = r.traffic := by
  unfold Radio.setCircuit
  unfold Radio.circuit at h
  cases ha : a.index with
  | none => rfl
  | some v =>
    simp only [ha] at h
    funext w
    by_cases hv : w = v
    · subst hv
      simpa [Radio.traffic] using h
    · simp [Radio.traffic,Function.update_of_ne hv]

@[simp] theorem traffic_setNumbers (r : Radio) (a : VcAddress) (numbers : AckNumbers) :
    (r.setNumbers a numbers).traffic = r.traffic :=
  traffic_setCircuit rfl

@[simp] theorem traffic_vcZeroAcks (r : Radio) (a : VcAddress) :
    (vcZeroAcks r a).traffic = r.traffic := by
  simp [vcZeroAcks]

@[simp] theorem traffic_vcSendPcAckNack (r : Radio) (a : VcAddress) (ack : Bool) :
    (vcSendPcAckNack r a ack).traffic = r.traffic := by
  unfold vcSendPcAckNack
  split
  · rfl
  · rfl

@[simp] theorem traffic_vcChangeState (r : Radio) (a : VcAddress) (state : VcState) :
    (vcChangeState r a state).traffic = r.traffic := by
  unfold vcChangeState
  dsimp only
  split
  · rw [traffic_setVcConnecting]
    exact traffic_setCircuit rfl
  · rfl

@[simp] theorem traffic_vcBreakLink (r : Radio) (a : VcAddress) :
    (vcBreakLink r a).traffic = r.traffic := by
  rw [vcBreakLink_eq]
  have hanswer : (answerBreak r a.number).traffic = r.traffic := by
    unfold answerBreak
    dsimp only
    split
    · simp
    · simp
  split
  · rfl
  · split
    · simpa using hanswer
    · simpa using hanswer

@[simp] theorem traffic_vcLinkAlive (r : Radio) (v : Fin maxVc) :
    (vcLinkAlive r v).traffic = r.traffic := by
  unfold vcLinkAlive
  split
  · simp
  · rfl

@[simp] theorem traffic_vcIdToAddressByte (r : Radio) (a : VcAddress) (id : List UInt8)
    (server : Bool) : (vcIdToAddressByte r a id server).1.traffic = r.traffic := by
  unfold vcIdToAddressByte
  split
  · simp
  · split
    · rfl
    · split
      · rfl
      next v _ =>
        dsimp only
        split
        · rfl
        · rw [traffic_vcLinkAlive,traffic_setCircuit (by rw [circuit_ofNumber])]

@[simp] theorem traffic_retransmitDatagram (r : Radio) (i : Inputs) :
    (retransmitDatagram r i).1.traffic = r.traffic := by
  unfold retransmitDatagram
  dsimp only
  split
  · rfl
  · rfl

@[simp] theorem traffic_transmitDatagram (r : Radio) (t : DatagramType) (d : Datagram)
    (i : Inputs) : (transmitDatagram r t d i).1.traffic = r.traffic := by
  unfold transmitDatagram
  rw [traffic_retransmitDatagram]
  rfl

@[simp] theorem traffic_enter (x : Radio × Bool) (s : RadioState) :
    (enter x s).traffic = x.1.traffic := by
  unfold enter
  split
  · rfl
  · rfl

@[simp] theorem traffic_getTxTime (r : Radio) (i : Inputs) :
    (getTxTime r i).traffic = r.traffic := by
  simp [getTxTime,xmitVcHeartbeat]

@[simp] theorem traffic_breakLinks (r : Radio) : (breakLinks r).traffic = r.traffic := by
  unfold breakLinks
  rw [traffic_changeState]
  refine foldl_related (R := fun s t => t.traffic = s.traffic) ?_ ?_ id _ ?_ _ r
  · exact fun _ => rfl
  · exact fun h k => k.trans h
  · intro q v
    dsimp only [id]
    split
    · exact traffic_vcBreakLink q _
    · rfl

@[simp] theorem traffic_checkCommand (r : Radio) (c : Command) :
    (checkCommand r c).traffic = r.traffic := by
  cases c with
  | connect =>
    change Radio.traffic (if _ then r else _) = _
    split
    · rfl
    · exact traffic_vcChangeState r _ _
  | breakLinks => exact traffic_breakLinks r
  | reset => rfl
  | setCmdVc v => rfl
  | other => rfl

@[simp] theorem traffic_checkRemoteCommand (r : Radio) (c : Command) :
    (checkRemoteCommand r c).traffic = r.traffic := by
  simp [checkRemoteCommand]

@[simp] theorem traffic_findVc (r : Radio) (a : VcAddress) : (r.findVc a).traffic = r.traffic := by
  unfold Radio.findVc
  split
  · rfl
  · rfl

@[simp] theorem traffic_accepted (r : Radio) (p : PacketType) :
    (r.accepted p).1.traffic = r.traffic := by
  unfold Radio.accepted
  dsimp only
  split
  · rfl
  · rfl

@[simp] theorem traffic_rcvDatagram (r : Radio) (p : Reception) (i : Inputs) :
    (rcvDatagram r p i).1.traffic = r.traffic := by
  refine rcvDatagram_preserves (P := fun s => s.traffic = r.traffic) p i rfl (fun _ => ?_)
    (fun s a _ hs => ?_) (fun s a numbers hs => ?_) (fun s q hs => ?_)
  · simp
  · simpa using hs
  · simpa using hs
  · simpa using hs

@[simp] theorem traffic_saveMyVc (r : Radio) (id : List UInt8) :
    (r.saveMyVc id).traffic = r.traffic := by
  unfold Radio.saveMyVc
  split
  · rfl
  · rfl

@[simp] theorem traffic_vcReceiveHeartbeat (r : Radio) (data : List UInt8) (i : Inputs) :
    (vcReceiveHeartbeat r data i).traffic = r.traffic := by
  have hid : (vcIdToAddressByte (r.saveMyVc (heartbeatId data))
      (r.saveMyVc (heartbeatId data)).rxSrcVc (heartbeatId data) i.server).1.traffic =
        r.traffic := by simp
  unfold vcReceiveHeartbeat
  dsimp only
  revert hid
  generalize vcIdToAddressByte (r.saveMyVc (heartbeatId data))
    (r.saveMyVc (heartbeatId data)).rxSrcVc (heartbeatId data) i.server = q
  obtain ⟨s,_ | v⟩ := q
  · exact id
  · intro hid
    dsimp only
    split
    · simpa [xmitVcHeartbeat] using hid
    · exact hid

/-- A refresh sets one entry. -/
theorem traffic_refresh (r : Radio) (v : Fin maxVc) (i : Inputs) :
    (r.refresh (.ofNumber v) i).traffic = Function.update r.traffic v i.currentMillis := by
  funext w
  simp only [Radio.refresh,Radio.setCircuit,VcAddress.index_ofNumber,Radio.traffic]
  by_cases hv : w = v
  · subst hv
    simp
  · rw [Function.update_of_ne hv,Function.update_of_ne hv]
    rfl

/-- The circuit that a value of rxSrcVc has refreshed after a reception. -/
def refreshedBy (rxSrcVc : VcAddress) : Option (Fin maxVc) :=
  if rxSrcVc.toNat < minRxNotAllowed.toNat then some rxSrcVc.number else none

theorem traffic_hear (r : Radio) (i : Inputs) :
    (r.hear i).traffic = match refreshedBy r.rxSrcVc with
      | some v => Function.update r.traffic v i.currentMillis
      | none => r.traffic := by
  unfold Radio.hear refreshedBy
  split
  · exact traffic_refresh r _ i
  · rfl

/-- rxSrcVc behind rcvDatagram: the source of the header it came to, or what an
earlier frame left there. -/
def Reception.rxSrcVc (rxSrcVc : VcAddress) : Reception → VcAddress
  | .damaged _ => rxSrcVc
  | .frame f => if f.control.ignoreFrame then rxSrcVc else f.datagram.srcVc

theorem rxSrcVc_setCircuit (r : Radio) (a : VcAddress) (vc : VirtualCircuit) :
    (r.setCircuit a vc).rxSrcVc = r.rxSrcVc := by
  unfold Radio.setCircuit
  split
  · rfl
  · rfl

theorem rxSrcVc_findVc (r : Radio) (a : VcAddress) : (r.findVc a).rxSrcVc = r.rxSrcVc := by
  unfold Radio.findVc
  split
  · rfl
  · rfl

theorem rxSrcVc_accepted (r : Radio) (p : PacketType) :
    (r.accepted p).1.rxSrcVc = r.rxSrcVc := by
  unfold Radio.accepted
  dsimp only
  split
  · rfl
  · rfl

theorem rxSrcVc_rcvDatagram (r : Radio) (p : Reception) (i : Inputs) :
    (rcvDatagram r p i).1.rxSrcVc = p.rxSrcVc r.rxSrcVc := by
  cases p with
  | damaged d => rfl
  | frame f =>
    unfold rcvDatagram Reception.rxSrcVc
    dsimp only
    split
    · rfl
    · split
      · rfl
      · split
        · exact rxSrcVc_findVc _ _
        · split
          · exact rxSrcVc_findVc _ _
          · split
            · rw [rxSrcVc_accepted,rxSrcVc_findVc]
              rfl
            · rw [rxSrcVc_accepted,Radio.setNumbers,rxSrcVc_setCircuit,rxSrcVc_findVc]
              rfl

/-- The circuit that a reception in RADIO_VC_WAIT_RECEIVE refreshes. -/
def Radio.refreshed (r : Radio) (p : Reception) (i : Inputs) : Option (Fin maxVc) :=
  refreshedBy (rcvDatagram r p i).1.rxSrcVc

/-- A reception sets lastTrafficMillis of the refreshed circuit, and of no other. -/
theorem traffic_waitReceiveFrame (r : Radio) (p : Reception) (i : Inputs) :
    (waitReceiveFrame r p i).traffic = match r.refreshed p i with
      | some v => Function.update r.traffic v i.currentMillis
      | none => r.traffic := by
  have hheard := traffic_hear (rcvDatagram r p i).1 i
  rw [traffic_rcvDatagram] at hheard
  refine Eq.trans ?_ hheard
  unfold waitReceiveFrame
  dsimp only
  generalize (rcvDatagram r p i).1.hear i = s
  split
  · simp
  · simp [xmitVcAckFrame]
  · simp
  · simp
  · simp [xmitVcAckFrame]
  · simp [xmitVcSyncAcks]
  · split
    · simp [xmitVcZeroAcks]
    · simp [xmitVcZeroAcks]
  · simp
  · simp [xmitVcAckFrame]
  · simp [xmitVcAckFrame]
  · rfl

theorem traffic_resetPass (r : Radio) (i : Inputs) : (resetPass r i).traffic = r.traffic := by
  have hselect : ∀ s : Radio, (selectMyVc s i.server).traffic = s.traffic := by
    intro s
    unfold selectMyVc
    split
    · simp
    · rfl
  unfold resetPass
  simp [xmitVcHeartbeat,hselect]

theorem traffic_waitTxDonePass (r : Radio) (packet : Option Reception) :
    (waitTxDonePass r packet).traffic = r.traffic := by
  unfold waitTxDonePass
  split
  · rfl
  · rfl

theorem traffic_waitReceiveRetransmit (r : Radio) (i : Inputs) :
    (waitReceiveRetransmit r i).traffic = r.traffic := by
  unfold waitReceiveRetransmit
  dsimp only
  split
  · simp
  · split
    · split
      · split
        · simp
        · simp
      · simp
    · simp

theorem traffic_waitReceiveHandshake (r : Radio) (i : Inputs) :
    (waitReceiveHandshake r i).traffic = r.traffic := by
  unfold waitReceiveHandshake
  split
  · rfl
  · dsimp only
    split
    · split
      · simp [xmitVcUnknownAcks]
      · simp [xmitVcUnknownAcks]
    · split
      · simp [xmitVcUnknownAcks]
      · split
        · simp [xmitVcSyncAcks]
        · rfl

theorem traffic_vcSerialMessageReceived (r : Radio) (i : Inputs) :
    (vcSerialMessageReceived r i).1.traffic = r.traffic := by
  unfold vcSerialMessageReceived
  split
  · rfl
  next m rest _ =>
    dsimp only
    rw [← traffic_setRadioTxBuffer r rest]
    generalize r.setRadioTxBuffer rest = s
    split
    · rfl
    split
    · split
      · rfl
      · exact traffic_vcBreakLink s _
    have htouch : (if m.destVc = vcBroadcast then s else
        s.touch (.entry m.destVc.number)).traffic = s.traffic := by
      split
      · rfl
      · rfl
    refine Eq.trans ?_ htouch
    generalize (if m.destVc = vcBroadcast then s else
      s.touch (.entry m.destVc.number)) = t
    split
    · dsimp only
      split
      · rfl
      · rfl
    split
    · rfl
    · rfl

theorem traffic_waitReceiveMessage (r : Radio) (m : Datagram) (i : Inputs) :
    (waitReceiveMessage r m i).traffic = r.traffic := by
  unfold waitReceiveMessage
  split
  · simp [xmitVcDatagram]
  · split
    · simp [xmitDatagramP2PData]
    · split
      · split
        · simp
        · simp [xmitDatagramP2PCommand]
      · rfl

/-- When nothing is received, a heartbeat refreshes the own circuit. -/
theorem traffic_waitReceiveTransmit {r : Radio} (i : Inputs) {v : Fin maxVc}
    (hv : r.myVc ≠ .ofNumber v) : (waitReceiveTransmit r i).traffic v = r.traffic v := by
  unfold waitReceiveTransmit
  split
  · dsimp only
    split
    · rw [traffic_changeState]
      split
      next hown =>
        have hmy : r.myVc = .ofNumber r.myVc.number := (VcAddress.ofNumber_number hown).symm
        have hne : v ≠ r.myVc.number := by
          rintro rfl
          exact hv hmy
        rw [hmy,traffic_refresh,Function.update_of_ne hne]
        simp [xmitVcHeartbeat]
      · simp [xmitVcHeartbeat]
    · simp [xmitVcHeartbeat]
  · split
    · rw [traffic_waitReceiveRetransmit]
    · split
      · simp [xmitDatagramP2PCommandResponse]
      · split
        · rw [traffic_waitReceiveHandshake]
        · have hserial := traffic_vcSerialMessageReceived r i
          revert hserial
          generalize vcSerialMessageReceived r i = q
          obtain ⟨s,_ | m⟩ := q
          · exact fun h => congrFun h v
          · intro h
            rw [← h]
            exact congrFun (traffic_waitReceiveMessage s m i) v

/-- The frame passed the checks as far as its length byte, and comes from a
circuit. -/
def Reception.PassedFrom (p : Reception) (v : Fin maxVc) : Prop :=
  ∃ f, p = .frame f ∧ f.control.ignoreFrame = false ∧ f.datagram.srcVc = .ofNumber v ∧
    f.datagram.length.toNat = f.rxDataBytes

/-- A datagram is accepted only after its header was. -/
theorem rcvDatagram_datagram {r : Radio} {p : Reception} {i : Inputs} {t : DatagramType}
    (h : (rcvDatagram r p i).2 = .datagram t) :
    ∃ f, p = .frame f ∧ f.control.ignoreFrame = false ∧
      f.datagram.length.toNat = f.rxDataBytes := by
  cases p with
  | damaged d => cases d <;> cases h
  | frame f =>
    unfold rcvDatagram at h
    dsimp only at h
    split at h
    · cases h
    next hignore =>
      split at h
      · cases h
      · split at h
        · cases h
        next hlength =>
          exact ⟨f,rfl,by simpa using hignore,by simpa using hlength⟩

/-- In RADIO_VC_WAIT_SERVER an accepted heartbeat refreshes the server. -/
theorem traffic_waitServerPass {r : Radio} {packet : Option Reception} (i : Inputs)
    {v : Fin maxVc} (hp : ∀ p ∈ packet, ¬p.PassedFrom v) :
    (waitServerPass r packet i).traffic v = r.traffic v := by
  unfold waitServerPass
  split
  · rfl
  cases packet with
  | none => rfl
  | some p =>
    have htraffic := traffic_rcvDatagram r p i
    have hsource := rxSrcVc_rcvDatagram r p i
    have hpassed := @rcvDatagram_datagram r p i .vcHeartbeat
    dsimp only
    generalize rcvDatagram r p i = q at htraffic hsource hpassed
    split
    next s =>
      split
      next hserver =>
        obtain ⟨f,rfl,hignore,hlength⟩ := hpassed rfl
        have hsrc : f.datagram.srcVc = vcServer := by
          rw [← hserver,hsource,Reception.rxSrcVc,hignore]
          rfl
        have hne : v ≠ 0 := by
          rintro rfl
          exact hp _ rfl ⟨f,rfl,hignore,hsrc,hlength⟩
        have hrefresh := traffic_refresh s 0 i
        rw [traffic_changeState,traffic_vcReceiveHeartbeat]
        exact (congrFun hrefresh v).trans ((Function.update_of_ne hne _ _).trans
          (congrFun htraffic v))
      · exact congrFun htraffic v
    · exact congrFun htraffic v

/-- The pass of RADIO_VC_WAIT_RECEIVE. -/
theorem traffic_waitReceivePass {r : Radio} {packet : Option Reception} (i : Inputs)
    {v : Fin maxVc} (hv : r.myVc ≠ .ofNumber v) (hp : ∀ p ∈ packet, r.refreshed p i ≠ some v) :
    (waitReceivePass r packet i).traffic v = r.traffic v := by
  unfold waitReceivePass
  rw [traffic_setAtLinkCheck]
  cases packet with
  | none =>
    dsimp only
    split
    · rfl
    · exact traffic_waitReceiveTransmit i hv
  | some p =>
    have hother := hp p rfl
    rw [traffic_waitReceiveFrame]
    cases hw : r.refreshed p i with
    | none => rfl
    | some w =>
      have hne : v ≠ w := by
        rintro rfl
        exact hother hw
      exact Function.update_of_ne hne _ _

/-- A pass leaves a circuit's lastTrafficMillis alone when it neither receives a
frame from it nor refreshes it through rxSrcVc. -/
theorem traffic_updateRadioState {r : Radio} {packet : Option Reception} (i : Inputs)
    {v : Fin maxVc} (hv : r.myVc ≠ .ofNumber v) (hp : ∀ p ∈ packet, ¬p.PassedFrom v)
    (hreceive : r.radioState = .waitReceive → ∀ p ∈ packet, r.refreshed p i ≠ some v) :
    (updateRadioState r packet i).traffic v = r.traffic v := by
  unfold updateRadioState
  cases hstate : r.radioState with
  | reset => rw [traffic_resetPass]
  | waitServer => exact traffic_waitServerPass i hp
  | waitTxDone => rw [traffic_waitTxDonePass]
  | waitReceive => exact traffic_waitReceivePass i hv (hreceive hstate)

theorem linkCheckIndex_frame (now limit : BitVec 32) (q : Radio × Bool) (v : Fin maxVc) :
    (linkCheckIndex now limit q v).1.traffic = q.1.traffic ∧
      (linkCheckIndex now limit q v).1.myVc = q.1.myVc ∧
      ∀ w, (q.1.virtualCircuitList w).vcState = .linkDown →
        ((linkCheckIndex now limit q v).1.virtualCircuitList w).vcState = .linkDown := by
  unfold linkCheckIndex
  split
  · exact ⟨rfl,rfl,fun _ => id⟩
  · dsimp only
    split
    · split
      · exact ⟨traffic_vcBreakLink _ _,(vcBreakLink_breakFrame _ v).myVc,
          fun w hw => vcBreakLink_keeps_down hw⟩
      · exact ⟨traffic_vcBreakLink _ _,(vcBreakLink_breakFrame _ v).myVc,
          fun w hw => vcBreakLink_keeps_down hw⟩
    · exact ⟨rfl,rfl,fun _ => id⟩

/-- A circuit whose traffic is too old is down behind its index. -/
theorem linkCheckIndex_old {now limit : BitVec 32} {q : Radio × Bool} {v : Fin maxVc}
    (hv : q.1.myVc ≠ .ofNumber v) (hold : limit < now - q.1.traffic v) :
    ((linkCheckIndex now limit q v).1.virtualCircuitList v).vcState = .linkDown := by
  unfold linkCheckIndex
  rw [if_neg (Ne.symm hv)]
  dsimp only
  split
  · split
    · exact vcBreakLink_down _ (Ne.symm hv)
    · exact vcBreakLink_down _ (Ne.symm hv)
  next hspared =>
    by_contra hup
    exact hspared ⟨hup,.inr hold⟩

theorem linkCheck_fold (now limit : BitVec 32) (l : List (Fin maxVc)) (q : Radio × Bool) :
    (l.foldl (linkCheckIndex now limit) q).1.traffic = q.1.traffic ∧
      (l.foldl (linkCheckIndex now limit) q).1.myVc = q.1.myVc ∧
      (∀ w, (q.1.virtualCircuitList w).vcState = .linkDown →
        ((l.foldl (linkCheckIndex now limit) q).1.virtualCircuitList w).vcState = .linkDown) ∧
      ∀ v ∈ l, q.1.myVc ≠ .ofNumber v → limit < now - q.1.traffic v →
        ((l.foldl (linkCheckIndex now limit) q).1.virtualCircuitList v).vcState = .linkDown := by
  induction l generalizing q with
  | nil => exact ⟨rfl,rfl,fun _ => id,fun v hv => nomatch hv⟩
  | cons u l ih =>
    obtain ⟨htraffic,hmy,hdown⟩ := linkCheckIndex_frame now limit q u
    obtain ⟨htraffic',hmy',hdown',hold'⟩ := ih (linkCheckIndex now limit q u)
    refine ⟨htraffic'.trans htraffic,hmy'.trans hmy,fun w hw => hdown' w (hdown w hw),?_⟩
    intro v hv hown hold
    rcases List.mem_cons.mp hv with rfl | hmem
    · exact hdown' v (linkCheckIndex_old hown hold)
    · exact hold' v hmem (hmy ▸ hown) (htraffic ▸ hold)

theorem linkCheck_frame (r : Radio) (now limit : BitVec 32) :
    (linkCheck r now limit).traffic = r.traffic ∧ (linkCheck r now limit).myVc = r.myVc := by
  unfold linkCheck
  generalize List.finRange maxVc = l
  obtain ⟨htraffic,hmy,-⟩ := linkCheck_fold now limit l (r,false)
  exact ⟨htraffic,hmy⟩

/-- Each circuit but the own one is broken when its traffic is too old. -/
theorem linkCheck_old {r : Radio} {now limit : BitVec 32} {v : Fin maxVc}
    (hv : r.myVc ≠ .ofNumber v) (hold : limit < now - r.traffic v) :
    ((linkCheck r now limit).virtualCircuitList v).vcState = .linkDown := by
  unfold linkCheck
  have hmem := List.mem_finRange v
  generalize List.finRange maxVc = l at hmem
  obtain ⟨-,-,-,hbroken⟩ := linkCheck_fold now limit l (r,false)
  exact hbroken v hmem hv hold

end LoRaSerial.VC
