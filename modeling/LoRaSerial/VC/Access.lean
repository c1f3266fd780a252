import LoRaSerial.VC.Report

namespace LoRaSerial.VC
open Runs

/-- An entry of virtualCircuitList. -/
def Access.Valid : Access → Prop
  | .entry index => 0 ≤ index ∧ index < maxVc
  | .null | .uninitialised => False

instance : (a : Access) → Decidable a.Valid
  | .entry _ => inferInstanceAs (Decidable (_ ∧ _))
  | .null => inferInstanceAs (Decidable False)
  | .uninitialised => inferInstanceAs (Decidable False)

/-- An address that names an entry when it is used as an index. -/
def VcAddress.Numbered (a : VcAddress) : Prop := a.toNat < maxVc

instance (a : VcAddress) : Decidable a.Numbered := inferInstanceAs (Decidable (_ < _))

@[simp] theorem ofNumber_numbered (v : Fin maxVc) : VcAddress.Numbered (.ofNumber v) := by
  simp [VcAddress.Numbered]

@[simp] theorem entry_valid (a : VcAddress) : (Access.entry a.toInt).Valid ↔ a.Numbered := by
  have ha := a.isLt
  simp only [Access.Valid,VcAddress.Numbered,BitVec.toInt_eq_toNat_cond,maxVc]
  split <;> omega

@[simp] theorem entry_number_valid (v : Fin maxVc) : (Access.entry (v.val : Int)).Valid := by
  have hv : v.val < 32 := v.isLt
  simp only [Access.Valid,maxVc]
  omega

/-- The comparison with MAX_VC in transmitDatagram admits one index too many,
the entry then read is still outside the table. -/
@[simp] theorem pointer_valid (d : Datagram) : d.pointer.Valid ↔ d.destVc.Numbered := by
  unfold Datagram.pointer
  split
  · exact entry_valid d.destVc
  next hbig =>
    simp only [Access.Valid,VcAddress.Numbered,false_iff]
    omega

/-- Every use of the table so far was of an entry. -/
def Radio.Valid (r : Radio) : Prop := ∀ a ∈ r.accesses, a.Valid

instance (r : Radio) : Decidable r.Valid := inferInstanceAs (Decidable (∀ _ ∈ _,_))

@[simp] theorem valid_touch (r : Radio) (a : Access) : (r.touch a).Valid ↔ a.Valid ∧ r.Valid := by
  simp [Radio.Valid,Radio.touch]

@[simp] theorem valid_log (r : Radio) (a : Action) : (r.log a).Valid ↔ r.Valid := Iff.rfl
@[simp] theorem valid_changeState (r : Radio) (s : RadioState) :
    (r.changeState s).Valid ↔ r.Valid := Iff.rfl
@[simp] theorem valid_setMyVc (r : Radio) (a : VcAddress) : (r.setMyVc a).Valid ↔ r.Valid := Iff.rfl
@[simp] theorem valid_setTxDestVc (r : Radio) (a : VcAddress) :
    (r.setTxDestVc a).Valid ↔ r.Valid := Iff.rfl
@[simp] theorem valid_setRxSrcVc (r : Radio) (a : VcAddress) :
    (r.setRxSrcVc a).Valid ↔ r.Valid := Iff.rfl
@[simp] theorem valid_setRmtCmdVc (r : Radio) (a : VcAddress) :
    (r.setRmtCmdVc a).Valid ↔ r.Valid := Iff.rfl
@[simp] theorem valid_setPrintToRf (r : Radio) (b : Bool) :
    (r.setPrintToRf b).Valid ↔ r.Valid := Iff.rfl
@[simp] theorem valid_setUnsent (r : Radio) (m : Option Datagram) :
    (r.setUnsent m).Valid ↔ r.Valid := Iff.rfl
@[simp] theorem valid_setRadioTxBuffer (r : Radio) (ms : List Datagram) :
    (r.setRadioTxBuffer ms).Valid ↔ r.Valid := Iff.rfl
@[simp] theorem valid_setAtLinkCheck (r : Radio) (b : Bool) :
    (r.setAtLinkCheck b).Valid ↔ r.Valid := Iff.rfl
@[simp] theorem valid_setVcConnecting (r : Radio) (mask : BitVec 32) :
    (r.setVcConnecting mask).Valid ↔ r.Valid := Iff.rfl
@[simp] theorem valid_startTransmit (r : Radio) (t : P2P.StartTransmit) :
    (r.startTransmit t).Valid ↔ r.Valid := Iff.rfl
@[simp] theorem valid_load (r : Radio) (f : Frame) : (r.load f).Valid ↔ r.Valid := Iff.rfl
@[simp] theorem valid_awaitAck (r : Radio) : r.awaitAck.Valid ↔ r.Valid := Iff.rfl
@[simp] theorem valid_startAckTimer (r : Radio) : r.startAckTimer.Valid ↔ r.Valid := Iff.rfl
@[simp] theorem valid_stopAckTimer (r : Radio) : r.stopAckTimer.Valid ↔ r.Valid := Iff.rfl
@[simp] theorem valid_restoreTxBuffer (r : Radio) : r.restoreTxBuffer.Valid ↔ r.Valid := Iff.rfl
@[simp] theorem valid_deliver (r : Radio) (p : Reception) : (r.deliver p).Valid ↔ r.Valid := Iff.rfl

@[simp] theorem valid_setCircuit (r : Radio) (a : VcAddress) (vc : VirtualCircuit) :
    (r.setCircuit a vc).Valid ↔ r.Valid := by
  unfold Radio.setCircuit
  split <;> exact Iff.rfl

@[simp] theorem valid_setNumbers (r : Radio) (a : VcAddress) (numbers : AckNumbers) :
    (r.setNumbers a numbers).Valid ↔ r.Valid := valid_setCircuit r a _

@[simp] theorem valid_vcSendPcAckNack (r : Radio) (a : VcAddress) (ack : Bool) :
    (vcSendPcAckNack r a ack).Valid ↔ r.Valid := by
  unfold vcSendPcAckNack
  split <;> exact Iff.rfl

@[simp] theorem valid_vcChangeState (r : Radio) (a : VcAddress) (state : VcState) :
    (vcChangeState r a state).Valid ↔ a.Numbered ∧ r.Valid := by
  unfold vcChangeState
  dsimp only
  split
  · simp
  · simp

@[simp] theorem valid_vcZeroAcks (r : Radio) (a : VcAddress) :
    (vcZeroAcks r a).Valid ↔ a.Numbered ∧ r.Valid := by
  simp [vcZeroAcks]

@[simp] theorem valid_vcLinkAlive (r : Radio) (v : Fin maxVc) :
    (vcLinkAlive r v).Valid ↔ r.Valid := by
  unfold vcLinkAlive
  split <;> simp

@[simp] theorem valid_vcIdToAddressByte (r : Radio) (a : VcAddress) (id : List UInt8)
    (server : Bool) : (vcIdToAddressByte r a id server).1.Valid ↔ r.Valid := by
  unfold vcIdToAddressByte
  split
  · simp
  split
  · simp
  split
  · simp
  · dsimp only
    split <;> simp

@[simp] theorem valid_vcBreakLink (r : Radio) (a : VcAddress) :
    (vcBreakLink r a).Valid ↔ r.Valid := by
  have hanswer : ∀ v, (answerBreak r v).Valid ↔ r.Valid := by
    intro v
    unfold answerBreak
    dsimp only
    split <;> simp
  rw [vcBreakLink_eq]
  split
  · exact Iff.rfl
  split <;> simp [hanswer]

@[simp] theorem valid_retransmitDatagram (r : Radio) (i : Inputs) :
    (retransmitDatagram r i).1.Valid ↔ r.Valid := by
  unfold retransmitDatagram
  dsimp only
  split
  · simp
  · simp

/-- The ACK number comes from an entry exactly if the destination has one. -/
@[simp] theorem valid_transmitDatagram (r : Radio) (t : DatagramType) (d : Datagram)
    (i : Inputs) : (transmitDatagram r t d i).1.Valid ↔ d.destVc.Numbered ∧ r.Valid := by
  simp [transmitDatagram]

@[simp] theorem valid_enter (x : Radio × Bool) (s : RadioState) :
    (enter x s).Valid ↔ x.1.Valid := by
  unfold enter
  split <;> exact Iff.rfl

@[simp] theorem valid_refresh (r : Radio) (a : VcAddress) (i : Inputs) :
    (r.refresh a i).Valid ↔ a.Numbered ∧ r.Valid := by
  simp [Radio.refresh]

@[simp] theorem valid_hear (r : Radio) (i : Inputs) : (r.hear i).Valid ↔ r.Valid := by
  unfold Radio.hear
  split <;> simp

/-- rcvDatagram looks an entry up only after it has checked the source. -/
@[simp] theorem valid_rcvDatagram (r : Radio) (p : Reception) (i : Inputs) :
    (rcvDatagram r p i).1.Valid ↔ r.Valid := by
  refine rcvDatagram_preserves p i .rfl (fun _ => .rfl) (fun s a ha hs => ?_)
    (fun s a numbers hs => (valid_setNumbers s a numbers).trans hs) (fun s q hs => ?_)
  · unfold Radio.findVc
    split
    · exact hs
    next hne =>
      have hnumbered : a.Numbered := ha hne
      simpa [hnumbered] using hs
  · unfold Radio.accepted
    dsimp only
    split
    · exact hs
    · exact hs

/-- A loop that adds no invalid access in any step adds none at all. -/
theorem valid_foldl {σ : Type} (radio : σ → Radio) (f : σ → Fin maxVc → σ)
    (hf : ∀ q v, (radio (f q v)).Valid ↔ (radio q).Valid) (l : List (Fin maxVc)) (q : σ) :
    (radio (l.foldl f q)).Valid ↔ (radio q).Valid := by
  induction l generalizing q with
  | nil => exact Iff.rfl
  | cons v l ih => exact (ih (f q v)).trans (hf q v)

@[simp] theorem valid_linkCheck (r : Radio) (now limit : BitVec 32) :
    (linkCheck r now limit).Valid ↔ r.Valid := by
  unfold linkCheck
  refine valid_foldl Prod.fst _ (fun q v => ?_) _ (r,false)
  unfold linkCheckIndex
  split
  · exact Iff.rfl
  dsimp only
  split
  · split <;> simp
  · simp

@[simp] theorem valid_checkCommand (r : Radio) (c : Command) :
    (checkCommand r c).Valid ↔ r.Valid := by
  cases c with
  | connect =>
    simp only [checkCommand]
    split <;> simp
  | breakLinks =>
    simp only [checkCommand,breakLinks,valid_changeState]
    refine valid_foldl id _ (fun q v => ?_) _ r
    dsimp only [id]
    split <;> simp
  | reset => exact Iff.rfl
  | setCmdVc v => exact Iff.rfl
  | other => exact Iff.rfl

@[simp] theorem valid_checkRemoteCommand (r : Radio) (c : Command) :
    (checkRemoteCommand r c).Valid ↔ r.Valid := by
  simp [checkRemoteCommand]

/-- The destination of a frame written at endOfTxData: that of a message left
there, if there is one. -/
def Radio.destination (r : Radio) (a : VcAddress) : VcAddress :=
  (r.unsent.map (·.destVc)).getD a

@[simp] theorem atEnd_destVc (r : Radio) (d : Datagram) :
    (r.atEnd d).destVc = r.destination d.destVc := by
  unfold Radio.atEnd Radio.destination
  cases r.unsent <;> rfl

@[simp] theorem build_destVc (destVc srcVc : VcAddress) (data : List UInt8) :
    (Datagram.build destVc srcVc data).destVc = destVc := rfl

/-- Whether a transmission to `a` starts. -/
def Radio.reaches (r : Radio) (a : VcAddress) (i : Inputs) : Bool :=
  !(r.setTxDestVc a).destinationDown && i.transmit.result

@[simp] theorem transmitDatagram_started (r : Radio) (t : DatagramType) (d : Datagram)
    (i : Inputs) : (transmitDatagram r t d i).2 = r.reaches d.destVc i := by
  have hdown : (((r.touch d.pointer).load (r.builtFrame t d)).touch
      (.entry d.destVc.number)).destinationDown = (r.setTxDestVc d.destVc).destinationDown := rfl
  change (if (((r.touch d.pointer).load (r.builtFrame t d)).touch
      (.entry d.destVc.number)).destinationDown then _ else _ : Radio × Bool).2 = _
  rw [hdown]
  unfold Radio.reaches
  split
  next h => simp [h]
  next h => simp [h]

@[simp] theorem enter_rxSrcVc (x : Radio × Bool) (s : RadioState) :
    (enter x s).rxSrcVc = x.1.rxSrcVc := by
  unfold enter
  split <;> rfl

@[simp] theorem transmitDatagram_rxSrcVc (r : Radio) (t : DatagramType) (d : Datagram)
    (i : Inputs) : (transmitDatagram r t d i).1.rxSrcVc = r.rxSrcVc := by
  unfold transmitDatagram retransmitDatagram
  dsimp only
  split <;> rfl

/-- The frame being built and the source of the received one. -/
def Radio.framing (r : Radio) : Option Datagram × VcAddress := (r.unsent,r.rxSrcVc)

theorem setCircuit_framing (r : Radio) (a : VcAddress) (vc : VirtualCircuit) :
    (r.setCircuit a vc).framing = r.framing := by
  unfold Radio.setCircuit
  split <;> rfl

theorem refresh_framing (r : Radio) (a : VcAddress) (i : Inputs) :
    (r.refresh a i).framing = r.framing :=
  setCircuit_framing _ _ _

theorem vcLinkAlive_framing (r : Radio) (v : Fin maxVc) :
    (vcLinkAlive r v).framing = r.framing := by
  unfold vcLinkAlive vcChangeState
  dsimp only
  split
  · split
    · exact setCircuit_framing _ _ _
    · rfl
  · rfl

theorem vcIdToAddressByte_framing (r : Radio) (a : VcAddress) (id : List UInt8)
    (server : Bool) : (vcIdToAddressByte r a id server).1.framing = r.framing := by
  unfold vcIdToAddressByte
  split
  · exact vcLinkAlive_framing r _
  split
  · rfl
  split
  · rfl
  · dsimp only
    split
    · rfl
    · exact (vcLinkAlive_framing _ _).trans (setCircuit_framing _ _ _)

theorem saveMyVc_framing (r : Radio) (id : List UInt8) : (r.saveMyVc id).framing = r.framing := by
  unfold Radio.saveMyVc
  split <;> rfl

theorem destination_framing {r r' : Radio} (h : r'.framing = r.framing) (a : VcAddress) :
    r'.destination a = r.destination a := by
  unfold Radio.destination
  rw [show r'.unsent = r.unsent from congrArg Prod.fst h]

/-- What a received frame leads to uses entries alone. `r` is the radio as
rcvDatagram leaves it. -/
def Radio.ReplyDefined (r : Radio) (packetType : PacketType) (data : List UInt8) (i : Inputs) :
    Prop :=
  match packetType with
  | .datagram .vcHeartbeat => i.server = true ∧ r.rxSrcVc = vcUnassigned ∧
      (vcIdToAddressByte (r.saveMyVc (heartbeatId data)) r.rxSrcVc (heartbeatId data)
        i.server).2.isSome → (r.destination vcBroadcast).Numbered
  | .datagram .data | .duplicate | .datagram .remoteCommand
  | .datagram .remoteCommandResponse => (r.destination r.rxSrcVc).Numbered
  | .datagram .vcUnknownAcks => (r.destination r.rxSrcVc).Numbered ∧ r.rxSrcVc.Numbered
  | .datagram .vcSyncAcks => (r.destination r.rxSrcVc).Numbered ∧
      (r.reaches (r.destination r.rxSrcVc) i = true → r.rxSrcVc.Numbered)
  | .datagram .vcZeroAcks => r.rxSrcVc.Numbered
  | _ => True

instance (r : Radio) (packetType : PacketType) (data : List UInt8) (i : Inputs) :
    Decidable (r.ReplyDefined packetType data i) := by
  unfold Radio.ReplyDefined
  split <;> infer_instance

theorem valid_vcReceiveHeartbeat (r : Radio) (data : List UInt8) (i : Inputs) :
    (vcReceiveHeartbeat r data i).Valid ↔
      r.ReplyDefined (.datagram .vcHeartbeat) data i ∧ r.Valid := by
  unfold vcReceiveHeartbeat Radio.ReplyDefined
  dsimp only
  have hsave : (r.saveMyVc (heartbeatId data)).Valid ↔ r.Valid := by
    unfold Radio.saveMyVc
    split <;> exact Iff.rfl
  have hsaved := saveMyVc_framing r (heartbeatId data)
  have hsrc : (r.saveMyVc (heartbeatId data)).rxSrcVc = r.rxSrcVc := congrArg Prod.snd hsaved
  rw [← hsrc]
  generalize r.saveMyVc (heartbeatId data) = s at hsave hsaved
  have hid := vcIdToAddressByte_framing s s.rxSrcVc (heartbeatId data) i.server
  have hvalid := valid_vcIdToAddressByte s s.rxSrcVc (heartbeatId data) i.server
  generalize vcIdToAddressByte s s.rxSrcVc (heartbeatId data) i.server = q at hid hvalid
  obtain ⟨t,_ | v⟩ := q
  · simp [hvalid,hsave]
  · dsimp only at hid hvalid ⊢
    rw [show t.rxSrcVc = s.rxSrcVc from congrArg Prod.snd hid]
    split
    next hc =>
      simp only [xmitVcHeartbeat,valid_enter,valid_transmitDatagram,atEnd_destVc,build_destVc,
        destination_framing (hid.trans hsaved),hvalid,hsave]
      simp [hc]
    next hc =>
      rw [hvalid,hsave]
      simp only [Option.isSome_some,and_true]
      exact ⟨fun h => ⟨fun hs => absurd hs hc,h⟩,fun h => h.2⟩

theorem valid_ack (r : Radio) (a : VcAddress) (i : Inputs) (s : RadioState) :
    (enter (xmitVcAckFrame r a i) s).Valid ↔ (r.destination a).Numbered ∧ r.Valid := by
  simp [xmitVcAckFrame]

theorem valid_waitReceiveFrame (r : Radio) (p : Reception) (i : Inputs) :
    (waitReceiveFrame r p i).Valid ↔
      ((rcvDatagram r p i).1.hear i).ReplyDefined (rcvDatagram r p i).2 p.data i ∧ r.Valid := by
  unfold waitReceiveFrame
  dsimp only
  have hq : ((rcvDatagram r p i).1.hear i).Valid ↔ r.Valid := by simp
  generalize (rcvDatagram r p i).1.hear i = s at hq
  rw [← hq]
  cases (rcvDatagram r p i).2 with
  | datagram t =>
    cases t
    case vcHeartbeat => exact valid_vcReceiveHeartbeat s p.data i
    case data => exact valid_ack (s.deliver p) s.rxSrcVc i _
    case remoteCommand =>
      rw [valid_checkRemoteCommand]
      exact valid_ack (s.setRmtCmdVc s.rxSrcVc) s.rxSrcVc i _
    case remoteCommandResponse => exact valid_ack s s.rxSrcVc i _
    case vcUnknownAcks =>
      simp only [xmitVcSyncAcks,enter_rxSrcVc,transmitDatagram_rxSrcVc,valid_touch,entry_valid,
        valid_vcChangeState,valid_enter,valid_transmitDatagram,atEnd_destVc,build_destVc,
        Radio.ReplyDefined]
      tauto
    case vcSyncAcks =>
      simp only [xmitVcZeroAcks,transmitDatagram_started,atEnd_destVc,build_destVc,
        Radio.ReplyDefined]
      split
      next hs => simp [hs]; tauto
      next hs => simp [hs]
    case vcZeroAcks => simp [Radio.ReplyDefined]
    all_goals simp [Radio.ReplyDefined]
  | duplicate => exact valid_ack s s.rxSrcVc i _
  | bad | crcError | netIdMismatch | notMine => simp [Radio.ReplyDefined]

/-- A retransmission is due, and not on a circuit that is down. -/
def Radio.RetransmitDue (r : Radio) (i : Inputs) : Prop :=
  i.retransmitTimeout = true ∧ (r.rexmtTxDestVc = vcBroadcast ∨
    (r.virtualCircuitList r.rexmtTxDestVc.number).vcState ≠ .linkDown)

instance (r : Radio) (i : Inputs) : Decidable (r.RetransmitDue i) :=
  inferInstanceAs (Decidable (_ ∧ _))

/-- Another retransmission is allowed, and its destination passes for an entry
only if it is one. -/
def Radio.RetransmitDefined (r : Radio) (i : Inputs) : Prop :=
  (i.maxResends = 0 ∨ r.rexmt.frameSentCount < i.maxResends) ∧ r.rexmtTxDestVc.toNat ≠ maxVc

instance (r : Radio) (i : Inputs) : Decidable (r.RetransmitDefined i) :=
  inferInstanceAs (Decidable (_ ∧ _))

/-- The handshake step for circuit `v` sends a frame. -/
def Radio.Shakes (r : Radio) (v : Fin maxVc) (i : Inputs) : Prop :=
  (r.virtualCircuitList v).vcState.code ≤ VcState.sendUnknownAcks.code ∨
    i.handshakeTimeout = true ∧ ((r.virtualCircuitList v).vcState = .waitSyncAcks ∨
      (r.virtualCircuitList v).vcState = .waitZeroAcks)

instance (r : Radio) (v : Fin maxVc) (i : Inputs) : Decidable (r.Shakes v i) :=
  inferInstanceAs (Decidable (_ ∨ _))

/-- The pending transmit request uses entries alone. -/
def Radio.RequestDefined (r : Radio) (i : Inputs) : Prop :=
  if i.heartbeatTimeout then (r.destination vcBroadcast).Numbered
  else if r.ackTimer then r.RetransmitDue i → r.RetransmitDefined i
  else if i.commandPacket.isSome then r.rmtCmdVc.Numbered
  else if r.vcConnecting ≠ 0 then
    ∀ v ∈ (List.finRange maxVc).find? fun v => r.vcConnecting.getLsbD v.val,
      r.Shakes v i → (r.destination (.ofNumber v)).Numbered
  else ∀ m ∈ r.radioTxBuffer.head?, m.destVc = vcBroadcast → i.maxDatagramSize < m.length.toNat

theorem valid_pointer_or_null (r : Radio) (a : VcAddress) :
    (if a.toNat ≤ maxVc then r.touch (.entry a.toInt) else r).Valid ↔
      a.toNat ≠ maxVc ∧ r.Valid := by
  split
  · rw [valid_touch,entry_valid]
    simp only [VcAddress.Numbered]
    refine and_congr_left fun _ => ?_
    omega
  · refine (and_iff_right ?_).symm
    omega

theorem valid_waitReceiveRetransmit (r : Radio) (i : Inputs) :
    (waitReceiveRetransmit r i).Valid ↔
      (r.RetransmitDue i → r.RetransmitDefined i) ∧ r.Valid := by
  unfold waitReceiveRetransmit Radio.RetransmitDue Radio.RetransmitDefined
  dsimp only
  have hs : ((r.setTxDestVc r.rexmtTxDestVc).touch (.entry r.rexmtTxDestVc.number)).Valid ↔
      r.Valid := by simp
  change (if r.rexmtTxDestVc ≠ vcBroadcast ∧
    (r.virtualCircuitList r.rexmtTxDestVc.number).vcState = .linkDown then _ else
      if i.retransmitTimeout = true then
        if i.maxResends = 0 ∨ r.rexmt.frameSentCount < i.maxResends then _ else _ else _ :
          Radio).Valid ↔ _
  split
  next hdown =>
    rw [valid_stopAckTimer,hs]
    have hnot : ¬ (r.rexmtTxDestVc = vcBroadcast ∨
        (r.virtualCircuitList r.rexmtTxDestVc.number).vcState ≠ .linkDown) := by
      simpa [not_or] using hdown
    simp [hnot]
  next hup =>
    have hdue : r.rexmtTxDestVc = vcBroadcast ∨
        (r.virtualCircuitList r.rexmtTxDestVc.number).vcState ≠ .linkDown := by
      by_contra hno
      exact hup (by simpa [not_or] using hno)
    split
    next ht =>
      split
      next hmore =>
        rw [valid_startAckTimer,valid_enter,valid_retransmitDatagram,valid_restoreTxBuffer,
          valid_pointer_or_null,hs]
        simp only [ht,hdue,hmore,true_and,true_implies]
        exact Iff.rfl
      next hmore =>
        simp [ht,hdue,hmore,Access.Valid]
    next ht =>
      rw [hs]
      simp [ht]

theorem valid_waitReceiveHandshake (r : Radio) (i : Inputs) :
    (waitReceiveHandshake r i).Valid ↔
      (∀ v ∈ (List.finRange maxVc).find? fun v : Fin maxVc => r.vcConnecting.getLsbD v.val,
        r.Shakes v i → (r.destination (.ofNumber v)).Numbered) ∧ r.Valid := by
  unfold waitReceiveHandshake
  cases (List.finRange maxVc).find? fun v : Fin maxVc => r.vcConnecting.getLsbD v.val with
  | none => simp
  | some v =>
    have hs : (r.touch (.entry v.val)).Valid ↔ r.Valid := by simp
    have hdest : (r.touch (.entry v.val)).destination (.ofNumber v) =
        r.destination (.ofNumber v) := rfl
    have hshakes : (r.touch (.entry v.val)).Shakes v i ↔ r.Shakes v i := Iff.rfl
    dsimp only
    generalize r.touch (.entry v.val) = s at hs hdest hshakes
    simp only [Option.mem_def,Option.some.injEq,forall_eq',← hs,← hdest,← hshakes]
    unfold Radio.Shakes
    split
    next hlow =>
      simp only [xmitVcUnknownAcks,transmitDatagram_started,atEnd_destVc,build_destVc]
      split <;> simp [hlow]
    next hlow =>
      split
      next hsync => simp [xmitVcUnknownAcks,hsync]
      next hsync =>
        split
        next hzero => simp [xmitVcSyncAcks,hzero]
        next hzero =>
          have hno : ¬ (i.handshakeTimeout = true ∧ ((s.virtualCircuitList v).vcState =
              .waitSyncAcks ∨ (s.virtualCircuitList v).vcState = .waitZeroAcks)) := by
            rintro ⟨ht,h | h⟩
            · exact hsync ⟨h,ht⟩
            · exact hzero ⟨h,ht⟩
          simp [hlow,hno]

theorem valid_waitReceiveMessage (r : Radio) (m : Datagram) (i : Inputs) :
    (waitReceiveMessage r m i).Valid ↔ m.destVc ≠ vcBroadcast ∧ r.Valid := by
  have hbroadcast : ¬ VcAddress.Numbered vcBroadcast := by decide
  unfold waitReceiveMessage
  split
  next hb => simp [xmitVcDatagram,hb,hbroadcast]
  next hb =>
  split
  next hchannel =>
    have hnum : m.destVc.Numbered := by
      have hzero : m.destVc.toNat / 32 = 0 := hchannel
      change m.destVc.toNat < 32
      omega
    simp [xmitDatagramP2PData,hnum,hb]
  next hchannel =>
  split
  · split
    · simp [hb]
    · simp [xmitDatagramP2PCommand,hb]
  · simp [hb]

/-- A message comes out of vcSerialMessageReceived as it lay in radioTxBuffer;
a broadcast one is only discarded when it is too long. -/
theorem valid_vcSerialMessageReceived (r : Radio) (i : Inputs) :
    ((vcSerialMessageReceived r i).1.Valid ↔ r.Valid) ∧
      ((∀ m, (vcSerialMessageReceived r i).2 = some m → m.destVc ≠ vcBroadcast) ↔
        ∀ m ∈ r.radioTxBuffer.head?, m.destVc = vcBroadcast →
          i.maxDatagramSize < m.length.toNat) := by
  unfold vcSerialMessageReceived
  cases r.radioTxBuffer with
  | nil => simp
  | cons m rest =>
    dsimp only
    split
    next hbad => simp [hbad.2]
    next hbad =>
    split
    next hlong =>
      split
      · simp [hlong]
      · simp [hlong]
    next hlong =>
    have hfind : (if m.destVc = vcBroadcast then r.setRadioTxBuffer rest
        else (r.setRadioTxBuffer rest).touch (.entry m.destVc.number)).Valid ↔ r.Valid := by
      split <;> simp
    generalize (if m.destVc = vcBroadcast then r.setRadioTxBuffer rest
        else (r.setRadioTxBuffer rest).touch (.entry m.destVc.number)) = s at hfind
    split
    next hdown =>
      refine ⟨?_,by simp [hdown.1]⟩
      dsimp only
      split <;> simpa using hfind
    split
    next hself => exact ⟨by simpa using hfind,by simp [hself.1]⟩
    · exact ⟨hfind,by simp [hlong]⟩

theorem valid_waitReceiveTransmit (r : Radio) (i : Inputs) :
    (waitReceiveTransmit r i).Valid ↔ r.RequestDefined i ∧ r.Valid := by
  unfold waitReceiveTransmit Radio.RequestDefined
  split
  next hbeat =>
    have hsent : (xmitVcHeartbeat r r.myVc r.myUniqueId i).1.Valid ↔
        (r.destination vcBroadcast).Numbered ∧ r.Valid := by simp [xmitVcHeartbeat]
    dsimp only
    rw [← hsent]
    split
    · rw [valid_changeState]
      split
      next hmy =>
        rw [valid_refresh]
        exact and_iff_right hmy
      · exact Iff.rfl
    · exact Iff.rfl
  split
  · exact valid_waitReceiveRetransmit r i
  cases i.commandPacket with
  | some packet => simp [xmitDatagramP2PCommandResponse]
  | none =>
    simp only [Option.isSome_none,Bool.false_eq_true,if_false]
    by_cases hc : r.vcConnecting ≠ 0
    · rw [if_pos hc,if_pos hc]
      exact valid_waitReceiveHandshake r i
    · rw [if_neg hc,if_neg hc]
      obtain ⟨hvalid,hmsg⟩ := valid_vcSerialMessageReceived r i
      rw [← hmsg,← hvalid]
      generalize vcSerialMessageReceived r i = q
      obtain ⟨s,_ | m⟩ := q
      · simp
      · simpa using valid_waitReceiveMessage s m i

/-- Every use of the table in one step is of an entry: the step is not
RADIO_RESET, it answers no frame and starts no transmission to an address that
is not a circuit number, it follows no handshake frame of an unassigned radio
and does not give up retransmitting. -/
def Radio.UsesEntries (r : Radio) (e : Event) : Prop :=
  match e,r.atLinkCheck with
  | .pass packet i,false =>
    match r.radioState with
    | .reset => False
    | .waitServer | .waitTxDone => True
    | .waitReceive =>
      match packet with
      | some p => ((rcvDatagram r p i).1.hear i).ReplyDefined (rcvDatagram r p i).2 p.data i
      | none => i.receiveInProcess = true ∨ r.RequestDefined i
  | _,_ => True

instance (r : Radio) (i : Inputs) : Decidable (r.RequestDefined i) := by
  unfold Radio.RequestDefined
  infer_instance

instance (r : Radio) (e : Event) : Decidable (r.UsesEntries e) := by
  unfold Radio.UsesEntries
  exact
    match e,r.atLinkCheck with
    | .pass packet i,false =>
      match r.radioState,packet with
      | .reset,_ => instDecidableFalse
      | .waitServer,_ => instDecidableTrue
      | .waitTxDone,_ => instDecidableTrue
      | .waitReceive,some p => inferInstanceAs (Decidable (Radio.ReplyDefined _ _ _ _))
      | .waitReceive,none => inferInstanceAs (Decidable (_ ∨ _))
    | .pass _ _,true => instDecidableTrue
    | .linkCheck _ _,_ => instDecidableTrue
    | .command _,_ => instDecidableTrue
    | .hostMessage _ _ _,_ => instDecidableTrue

/-- RADIO_RESET broadcasts a heartbeat. -/
theorem not_valid_resetPass (r : Radio) (i : Inputs) : ¬ (resetPass r i).Valid := by
  intro h
  unfold resetPass at h
  have hsel : ∀ s : Radio, (selectMyVc s i.server).Valid → s.Valid := by
    intro s
    unfold selectMyVc
    split <;> simp
  have hget : ¬ (getTxTime r.clear i).Valid := by
    intro hv
    have hsent : (xmitVcHeartbeat (r.clear.setIgnoreFrame true) vcIgnoreTx
        r.clear.myUniqueId i).1.Valid := hv
    simp only [xmitVcHeartbeat,valid_transmitDatagram,atEnd_destVc,build_destVc] at hsent
    have hnot : ¬ VcAddress.Numbered vcBroadcast := by decide
    exact hnot hsent.1
  simp only [valid_changeState,xmitVcHeartbeat,valid_transmitDatagram] at h
  exact hget (hsel _ h.2)

theorem valid_waitServerPass (r : Radio) (packet : Option Reception) (i : Inputs) :
    (waitServerPass r packet i).Valid ↔ r.Valid := by
  unfold waitServerPass
  split
  · exact Iff.rfl
  cases packet with
  | none => exact Iff.rfl
  | some p =>
    have hrcv := valid_rcvDatagram r p i
    dsimp only
    generalize rcvDatagram r p i = q at hrcv
    split
    · split
      next s hserver =>
        have hserved : (s.refresh vcServer i).ReplyDefined (.datagram .vcHeartbeat) p.data i := by
          rintro ⟨-,hun,-⟩
          have hsrc : (s.refresh vcServer i).rxSrcVc = s.rxSrcVc :=
            congrArg Prod.snd (refresh_framing s vcServer i)
          rw [hsrc,hserver] at hun
          exact absurd hun (by decide)
        have hnum : vcServer.Numbered := by decide
        rw [valid_changeState,valid_vcReceiveHeartbeat,valid_refresh]
        exact (and_iff_right hserved).trans ((and_iff_right hnum).trans hrcv)
      · exact hrcv
    · exact hrcv

/-- One step makes only valid accesses exactly if it meets the condition. -/
theorem step_valid_iff (r : Radio) (e : Event) :
    (step r e).Valid ↔ r.UsesEntries e ∧ r.Valid := by
  unfold step Radio.UsesEntries
  cases e with
  | pass packet i =>
    cases r.atLinkCheck with
    | true => simp
    | false =>
      dsimp only
      unfold updateRadioState
      cases r.radioState with
      | reset => simp [not_valid_resetPass]
      | waitServer => simp [valid_waitServerPass]
      | waitTxDone =>
        have hserver : vcServer.Numbered := by decide
        simp only [true_and,waitTxDonePass]
        split
        · rw [valid_changeState,valid_touch,entry_valid]
          exact and_iff_right hserver
        · exact Iff.rfl
      | waitReceive =>
        simp only [waitReceivePass,valid_setAtLinkCheck]
        cases packet with
        | some p => exact valid_waitReceiveFrame r p i
        | none =>
          dsimp only
          split
          next hbusy => simp [hbusy]
          next hidle => simp [hidle,valid_waitReceiveTransmit]
  | linkCheck now limit => cases r.atLinkCheck <;> simp
  | command c => cases r.atLinkCheck <;> simp
  | hostMessage destVc srcVc data =>
    cases r.atLinkCheck with
    | true => simp
    | false =>
      simp only [true_and]
      split
      · unfold hostMessage
        split
        · exact Iff.rfl
        split <;> exact Iff.rfl
      · exact Iff.rfl

/-- A run makes only valid accesses exactly if each of its steps meets the
condition, from any state and with any frames received. -/
theorem run_valid_iff (r : Radio) (es : List Event) :
    (run step r es).Valid ↔ Along step Radio.UsesEntries r es ∧ r.Valid := by
  induction es generalizing r with
  | nil => simp [Along]
  | cons e es ih =>
    rw [run_cons,ih,step_valid_iff,Along]
    tauto

/-- The server's first heartbeat takes its ACK number through NULL, and a
ZERO_ACKS frame from VC_UNASSIGNED writes to entry -3 of the table. -/
theorem unassigned_source_indexes_table :
    Access.null ∈ (run step .powerUp [.pass none .idle]).accesses ∧
    Access.entry (-3) ∈ (run step .powerUp
      ([.pass none .idle] ++ txDone ++ hears .vcZeroAcks vcUnassigned 0 [])).accesses ∧
    ¬ (run step .powerUp [.pass none .idle]).Valid ∧
    ¬ (run step .powerUp
      ([.pass none .idle] ++ txDone ++ hears .vcZeroAcks vcUnassigned 0 [])).Valid := by
  have hnull : Access.null ∈ (run step .powerUp [.pass none .idle]).accesses := by
    decide +kernel
  have hentry : Access.entry (-3) ∈ (run step .powerUp
      ([.pass none .idle] ++ txDone ++ hears .vcZeroAcks vcUnassigned 0 [])).accesses := by
    decide +kernel
  exact ⟨hnull,hentry,fun h => h _ hnull,fun h => absurd (h _ hentry) (by decide)⟩

end LoRaSerial.VC
