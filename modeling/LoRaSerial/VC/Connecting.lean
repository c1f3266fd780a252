import LoRaSerial.VC.Access
import LoRaSerial.VC.Steady

namespace LoRaSerial.VC
open Runs

/-- Bit v of vcConnecting is set exactly if circuit v is connecting. -/
def MaskExact (r : Radio) : Prop :=
  ∀ v : Fin maxVc, r.vcConnecting.getLsbD v = (r.virtualCircuitList v).connecting

/-- The mask stays exact, and no circuit becomes flagged as connected before. -/
structure Tracks (r r' : Radio) : Prop where
  mask : MaskExact r → MaskExact r'
  flags : ∀ v, (r'.virtualCircuitList v).wasConnected = true →
    (r.virtualCircuitList v).wasConnected = true

theorem Tracks.trans {r s t : Radio} (h : Tracks r s) (k : Tracks s t) : Tracks r t where
  mask hr := k.mask (h.mask hr)
  flags v hv := h.flags v (k.flags v hv)

/-- The fields that the relation speaks of. -/
def Radio.circuits (r : Radio) := (r.virtualCircuitList,r.vcConnecting)

/-- A record update of the other fields. -/
theorem Tracks.of_eq {r r' : Radio} (h : r'.circuits = r.circuits) : Tracks r r' := by
  simp only [Radio.circuits,Prod.mk.injEq] at h
  obtain ⟨hl,hm⟩ := h
  constructor
  · intro hr v
    rw [hm,hl]
    exact hr v
  · intro v hv
    rwa [hl] at hv

theorem Tracks.refl (r : Radio) : Tracks r r := .of_eq rfl

theorem touch_tracks (r : Radio) (a : Access) : Tracks r (r.touch a) := .of_eq rfl

theorem log_tracks (r : Radio) (a : Action) : Tracks r (r.log a) := .of_eq rfl

theorem changeState_tracks (r : Radio) (s : RadioState) : Tracks r (r.changeState s) := .of_eq rfl

theorem setUnsent_tracks (r : Radio) (m : Option Datagram) : Tracks r (r.setUnsent m) := .of_eq rfl

theorem awaitAck_tracks (r : Radio) : Tracks r r.awaitAck := .of_eq rfl

theorem setAtLinkCheck_tracks (r : Radio) (b : Bool) : Tracks r (r.setAtLinkCheck b) := .of_eq rfl

theorem deliver_tracks (r : Radio) (p : Reception) : Tracks r (r.deliver p) := .of_eq rfl

theorem vcSendPcAckNack_tracks (r : Radio) (a : VcAddress) (ack : Bool) :
    Tracks r (vcSendPcAckNack r a ack) := by
  unfold vcSendPcAckNack
  split
  · exact .refl r
  · exact log_tracks r _

/-- A write to an entry that changes neither its state nor its flag. -/
theorem setCircuit_tracks {r : Radio} {a : VcAddress} {vc : VirtualCircuit}
    (hstate : vc.vcState = (r.circuit a).vcState)
    (hflag : vc.wasConnected = (r.circuit a).wasConnected) : Tracks r (r.setCircuit a vc) := by
  unfold Radio.setCircuit
  unfold Radio.circuit at hstate hflag
  cases ha : a.index with
  | none => exact .refl r
  | some v =>
    simp only [ha] at hstate hflag
    have hsame : ∀ w, (Function.update r.virtualCircuitList v vc w).vcState =
          (r.virtualCircuitList w).vcState ∧
        (Function.update r.virtualCircuitList v vc w).wasConnected =
          (r.virtualCircuitList w).wasConnected := by
      intro w
      by_cases hw : w = v
      · subst hw
        simpa using ⟨hstate,hflag⟩
      · simp [Function.update_of_ne hw]
    constructor
    · intro hr w
      refine (hr w).trans ?_
      unfold VirtualCircuit.connecting
      dsimp only
      rw [(hsame w).1,(hsame w).2]
    · intro w hw
      rwa [← (hsame w).2]

theorem setNumbers_tracks (r : Radio) (a : VcAddress) (numbers : AckNumbers) :
    Tracks r (r.setNumbers a numbers) :=
  setCircuit_tracks rfl rfl

theorem refresh_tracks (r : Radio) (a : VcAddress) (i : Inputs) : Tracks r (r.refresh a i) :=
  (touch_tracks r _).trans (setCircuit_tracks rfl rfl)

theorem vcZeroAcks_tracks (r : Radio) (a : VcAddress) : Tracks r (vcZeroAcks r a) :=
  (touch_tracks r _).trans (setNumbers_tracks _ a .zero)

theorem getLsbD_vcBit (v w : Fin maxVc) :
    ((1 : BitVec 32) <<< v.val).getLsbD w = decide (w = v) := by
  revert v w
  decide +kernel

/-- No bit is shifted so far. -/
theorem vcBit_eq_zero {a : VcAddress} (h : a.index = none) :
    (1 : BitVec 32) <<< a.toNat = 0 := by
  have hlarge : 32 ≤ a.toNat := by
    unfold VcAddress.index at h
    split at h
    · cases h
    · exact Nat.le_of_not_lt ‹_›
  exact BitVec.shiftLeft_eq_zero hlarge

theorem VcAddress.eq_ofNumber {a : VcAddress} {v : Fin maxVc} (h : a.index = some v) :
    a = .ofNumber v := by
  unfold VcAddress.index at h
  split at h
  next hlt =>
    obtain rfl := Option.some.inj h
    exact (VcAddress.ofNumber_number hlt).symm.trans
      (congrArg VcAddress.ofNumber (Fin.ext (Nat.mod_eq_of_lt hlt)))
  · cases h

/-- vcChangeState sets or clears one bit, the others stay. -/
theorem getLsbD_setBit (mask : BitVec 32) (v w : Fin maxVc) (b : Bool) :
    (if b then mask ||| (1 : BitVec 32) <<< v.val else
      mask &&& ~~~((1 : BitVec 32) <<< v.val)).getLsbD w =
      if w = v then b else mask.getLsbD w := by
  have hw : w.val < 32 := w.isLt
  cases b with
  | true =>
    rw [if_pos rfl,BitVec.getLsbD_or,getLsbD_vcBit]
    by_cases hv : w = v <;> simp [hv]
  | false =>
    rw [if_neg Bool.false_ne_true,BitVec.getLsbD_and,BitVec.getLsbD_not,getLsbD_vcBit]
    by_cases hv : w = v <;> simp [hv,hw]

/-- Behind the table no bit changes. -/
theorem setBit_none (mask : BitVec 32) {a : VcAddress} (ha : a.index = none) (b : Bool) :
    (if b then mask ||| (1 : BitVec 32) <<< a.toNat else
      mask &&& ~~~((1 : BitVec 32) <<< a.toNat)) = mask := by
  rw [vcBit_eq_zero ha]
  cases b with
  | true => exact BitVec.or_zero
  | false => exact BitVec.and_allOnes

/-- A connected circuit is not connecting, whatever its flag. -/
theorem connecting_flag (vc : VirtualCircuit) :
    { vc with wasConnected := vc.wasConnected && vc.vcState != VcState.connected }.connecting =
      vc.connecting := by
  obtain ⟨_,_,flag,state,_,_⟩ := vc
  cases flag <;> cases state <;> rfl

/-- The bit of the circuit whose state changes is computed anew. -/
theorem vcChangeState_tracks (r : Radio) (a : VcAddress) (state : VcState) :
    Tracks r (vcChangeState r a state) := by
  unfold vcChangeState
  refine (touch_tracks r (.entry a.toInt)).trans ?_
  generalize r.touch (.entry a.toInt) = s
  dsimp only
  split
  swap
  · exact .refl s
  cases ha : a.index with
  | none =>
    rw [setBit_none s.vcConnecting ha]
    unfold Radio.setCircuit
    rw [ha]
    exact .refl s
  | some v =>
    obtain rfl := VcAddress.eq_ofNumber ha
    rw [circuit_ofNumber,VcAddress.toNat_ofNumber]
    unfold Radio.setCircuit
    rw [ha]
    constructor
    · intro hs w
      refine (getLsbD_setBit _ v w _).trans ?_
      dsimp only [Radio.setVcConnecting]
      by_cases hw : w = v
      · subst hw
        rw [if_pos rfl,Function.update_self]
        exact (connecting_flag { s.virtualCircuitList w with vcState := state }).symm
      · rw [if_neg hw,Function.update_of_ne hw]
        exact hs w
    · intro w hw
      dsimp only [Radio.setVcConnecting] at hw
      by_cases hv : w = v
      · subst hv
        rw [Function.update_self] at hw
        exact (Bool.and_eq_true_iff.mp hw).1
      · rwa [Function.update_of_ne hv] at hw

theorem answerBreak_tracks (r : Radio) (v : Fin maxVc) : Tracks r (answerBreak r v) := by
  unfold answerBreak
  refine (log_tracks r (.broken v)).trans ?_
  dsimp only
  split
  · exact Tracks.trans (s := (r.log (.broken v)).stopAckTimer) (.of_eq rfl)
      (vcSendPcAckNack_tracks _ _ false)
  · exact .refl _

theorem vcBreakLink_tracks (r : Radio) (a : VcAddress) : Tracks r (vcBreakLink r a) := by
  rw [vcBreakLink_eq]
  split
  · exact .refl r
  refine (answerBreak_tracks r a.number).trans ?_
  split
  · exact .of_eq rfl
  · exact vcChangeState_tracks _ _ _

theorem vcLinkAlive_tracks (r : Radio) (v : Fin maxVc) : Tracks r (vcLinkAlive r v) := by
  unfold vcLinkAlive
  split
  · exact vcChangeState_tracks r _ _
  · exact .refl r

theorem vcIdToAddressByte_tracks (r : Radio) (srcAddr : VcAddress) (id : List UInt8)
    (server : Bool) : Tracks r (vcIdToAddressByte r srcAddr id server).1 := by
  unfold vcIdToAddressByte
  split
  · exact vcLinkAlive_tracks r _
  split
  · exact .refl r
  split
  · exact .refl r
  next v _ =>
    dsimp only
    split
    · exact .refl r
    · refine Tracks.trans (setCircuit_tracks ?_ ?_) (vcLinkAlive_tracks _ v)
      · rw [circuit_ofNumber]
      · rw [circuit_ofNumber]

theorem retransmitDatagram_tracks (r : Radio) (i : Inputs) :
    Tracks r (retransmitDatagram r i).1 := by
  unfold retransmitDatagram
  dsimp only
  split
  · exact touch_tracks r _
  · exact .of_eq rfl

theorem transmitDatagram_tracks (r : Radio) (t : DatagramType) (d : Datagram) (i : Inputs) :
    Tracks r (transmitDatagram r t d i).1 :=
  Tracks.trans (s := (r.touch d.pointer).load (r.builtFrame t d)) (.of_eq rfl)
    (retransmitDatagram_tracks _ i)

theorem enter_tracks (x : Radio × Bool) (s : RadioState) : Tracks x.1 (enter x s) := by
  unfold enter
  split
  · exact changeState_tracks x.1 s
  · exact .refl _

/-- A branch that ends in a transmit attempt. -/
theorem xmit_tracks (r : Radio) (t : DatagramType) (d : Datagram) (i : Inputs)
    (s : RadioState) : Tracks r (enter (transmitDatagram r t d i) s) :=
  (transmitDatagram_tracks r t d i).trans (enter_tracks _ s)

theorem getTxTime_tracks (r : Radio) (i : Inputs) : Tracks r (getTxTime r i) := by
  have hignore : ∀ (s : Radio) (b : Bool), Tracks s (s.setIgnoreFrame b) :=
    fun s b => .of_eq rfl
  exact ((hignore r true).trans (transmitDatagram_tracks _ _ _ i)).trans (hignore _ false)

theorem breakLinks_tracks (r : Radio) : Tracks r (breakLinks r) := by
  unfold breakLinks
  refine Tracks.trans (foldl_related Tracks.refl Tracks.trans id _ ?_ (List.finRange maxVc) r)
    (changeState_tracks _ .reset)
  intro q v
  dsimp only [id]
  split
  · exact vcBreakLink_tracks q _
  · exact .refl q

theorem checkCommand_tracks (r : Radio) (c : Command) : Tracks r (checkCommand r c) := by
  cases c with
  | connect =>
    change Tracks r (if _ then r else _)
    split
    · exact .refl r
    · exact vcChangeState_tracks r _ _
  | breakLinks => exact breakLinks_tracks r
  | reset => exact changeState_tracks r .reset
  | setCmdVc v => exact .of_eq rfl
  | other => exact .refl r

theorem checkRemoteCommand_tracks (r : Radio) (c : Command) :
    Tracks r (checkRemoteCommand r c) := by
  have hprint : ∀ (s : Radio) (b : Bool), Tracks s (s.setPrintToRf b) := fun s b => .of_eq rfl
  exact ((hprint r true).trans (checkCommand_tracks _ c)).trans (hprint _ false)

theorem hear_tracks (r : Radio) (i : Inputs) : Tracks r (r.hear i) := by
  unfold Radio.hear
  split
  · exact refresh_tracks r _ i
  · exact .refl r

theorem vcReceiveHeartbeat_tracks (r : Radio) (data : List UInt8) (i : Inputs) :
    Tracks r (vcReceiveHeartbeat r data i) := by
  have hsave : Tracks r (r.saveMyVc (heartbeatId data)) := by
    unfold Radio.saveMyVc
    split
    · exact .of_eq rfl
    · exact .refl r
  unfold vcReceiveHeartbeat
  dsimp only
  refine hsave.trans ?_
  generalize r.saveMyVc (heartbeatId data) = s
  have hid := vcIdToAddressByte_tracks s s.rxSrcVc (heartbeatId data) i.server
  revert hid
  generalize vcIdToAddressByte s s.rxSrcVc (heartbeatId data) i.server = q
  obtain ⟨t,_ | v⟩ := q
  · exact id
  · intro hid
    refine hid.trans ?_
    dsimp only
    split
    · exact xmit_tracks t _ _ i _
    · exact .refl t

theorem rcvDatagram_tracks (r : Radio) (p : Reception) (i : Inputs) :
    Tracks r (rcvDatagram r p i).1 := by
  have hfind : ∀ (s : Radio) (a : VcAddress), Tracks s (s.findVc a) := by
    intro s a
    unfold Radio.findVc
    split
    · exact .refl s
    · exact touch_tracks s _
  have haccepted : ∀ (s : Radio) (q : PacketType), Tracks s (s.accepted q).1 := by
    intro s q
    unfold Radio.accepted
    dsimp only
    split
    · exact log_tracks s _
    · exact .refl s
  exact rcvDatagram_preserves p i (.refl r) (fun _ => .of_eq rfl)
    (fun s a _ hs => hs.trans (hfind s a))
    (fun s a numbers hs => hs.trans (setNumbers_tracks s a numbers))
    (fun s q hs => hs.trans (haccepted s q))

theorem waitReceiveFrame_tracks (r : Radio) (p : Reception) (i : Inputs) :
    Tracks r (waitReceiveFrame r p i) := by
  unfold waitReceiveFrame
  dsimp only
  refine ((rcvDatagram_tracks r p i).trans (hear_tracks _ i)).trans ?_
  generalize (rcvDatagram r p i).1.hear i = s
  have hack : ∀ q : Radio, Tracks q (enter (xmitVcAckFrame q q.rxSrcVc i) .waitTxDone) :=
    fun q => xmit_tracks q _ _ i _
  split
  · exact vcReceiveHeartbeat_tracks s _ i
  · exact (deliver_tracks s p).trans (hack _)
  · exact deliver_tracks s p
  · exact (vcSendPcAckNack_tracks s _ true).trans (.of_eq rfl)
  · exact hack s
  · have hsync : Tracks s (enter (xmitVcSyncAcks s s.rxSrcVc i) .waitTxDone) :=
      xmit_tracks s _ _ i _
    exact (hsync.trans (vcChangeState_tracks _ _ _)).trans (touch_tracks _ _)
  · have hzero : Tracks s (xmitVcZeroAcks s s.rxSrcVc i).1 := transmitDatagram_tracks s _ _ i
    split
    · refine (hzero.trans (changeState_tracks _ .waitTxDone)).trans ?_
      exact (vcZeroAcks_tracks _ _).trans (vcChangeState_tracks _ _ _)
    · exact hzero
  · exact (vcZeroAcks_tracks s _).trans (vcChangeState_tracks _ _ _)
  · have hcommand : Tracks s (s.setRmtCmdVc s.rxSrcVc) := .of_eq rfl
    exact (hcommand.trans (xmit_tracks _ _ _ i _)).trans (checkRemoteCommand_tracks _ _)
  · exact hack s
  · exact .refl s

theorem resetPass_tracks (r : Radio) (i : Inputs) : Tracks r (resetPass r i) := by
  have hselect : ∀ s : Radio, Tracks s (selectMyVc s i.server) := by
    intro s
    unfold selectMyVc
    split
    · exact (vcIdToAddressByte_tracks s vcServer s.myUniqueId i.server).trans (.of_eq rfl)
    · exact .of_eq rfl
  have hclear : Tracks r r.clear := .of_eq rfl
  refine ((hclear.trans (getTxTime_tracks _ i)).trans (hselect _)).trans ?_
  exact (transmitDatagram_tracks _ _ _ i).trans (changeState_tracks _ .waitTxDone)

theorem waitServerPass_tracks (r : Radio) (packet : Option Reception) (i : Inputs) :
    Tracks r (waitServerPass r packet i) := by
  unfold waitServerPass
  split
  · exact changeState_tracks r .waitReceive
  cases packet with
  | none => exact .refl r
  | some p =>
    have hrcv := rcvDatagram_tracks r p i
    dsimp only
    generalize rcvDatagram r p i = q at hrcv
    split
    next s =>
      split
      · refine hrcv.trans ((refresh_tracks s vcServer i).trans ?_)
        exact (vcReceiveHeartbeat_tracks _ _ i).trans (changeState_tracks _ .waitReceive)
      · exact hrcv
    · exact hrcv

theorem waitReceiveRetransmit_tracks (r : Radio) (i : Inputs) :
    Tracks r (waitReceiveRetransmit r i) := by
  unfold waitReceiveRetransmit
  have hdest : Tracks r ((r.setTxDestVc r.rexmtTxDestVc).touch
      (.entry r.rexmtTxDestVc.number)) := .of_eq rfl
  refine hdest.trans ?_
  generalize (r.setTxDestVc r.rexmtTxDestVc).touch (.entry r.rexmtTxDestVc.number) = s
  dsimp only
  split
  · exact .of_eq rfl
  split
  · split
    · have hpointer : Tracks s (if s.txDestVc.toNat ≤ maxVc then
          s.touch (.entry s.txDestVc.toInt) else s) := by
        split
        · exact touch_tracks s _
        · exact .refl s
      refine hpointer.trans ?_
      generalize (if s.txDestVc.toNat ≤ maxVc then s.touch (.entry s.txDestVc.toInt) else s) = t
      have hsent : Tracks t (retransmitDatagram t.restoreTxBuffer i).1 :=
        Tracks.trans (s := t.restoreTxBuffer) (.of_eq rfl) (retransmitDatagram_tracks _ i)
      exact (hsent.trans (enter_tracks _ .waitTxDone)).trans (.of_eq rfl)
    · exact (touch_tracks s .uninitialised).trans (vcBreakLink_tracks _ _)
  · exact .refl s

theorem waitReceiveHandshake_tracks (r : Radio) (i : Inputs) :
    Tracks r (waitReceiveHandshake r i) := by
  unfold waitReceiveHandshake
  split
  · exact .refl r
  next v _ =>
    refine (touch_tracks r (.entry v.val)).trans ?_
    dsimp only
    generalize r.touch (.entry v.val) = s
    split
    · have hsent : Tracks s (xmitVcUnknownAcks s (.ofNumber v) i).1 :=
        transmitDatagram_tracks s _ _ i
      split
      · exact (hsent.trans (vcChangeState_tracks _ _ .waitSyncAcks)).trans
          (changeState_tracks _ .waitTxDone)
      · exact hsent
    split
    · exact xmit_tracks s _ _ i _
    split
    · exact xmit_tracks s _ _ i _
    · exact .refl s

theorem vcSerialMessageReceived_tracks (r : Radio) (i : Inputs) :
    Tracks r (vcSerialMessageReceived r i).1 := by
  unfold vcSerialMessageReceived
  split
  · exact .refl r
  next m rest _ =>
    have hrest : Tracks r (r.setRadioTxBuffer rest) := .of_eq rfl
    dsimp only
    refine hrest.trans ?_
    generalize r.setRadioTxBuffer rest = s
    split
    · exact .refl s
    split
    · split
      · exact .refl s
      · exact vcBreakLink_tracks s _
    have htouch : Tracks s (if m.destVc = vcBroadcast then s else
        s.touch (.entry m.destVc.number)) := by
      split
      · exact .refl s
      · exact touch_tracks s _
    refine htouch.trans ?_
    generalize (if m.destVc = vcBroadcast then s else
      s.touch (.entry m.destVc.number)) = t
    split
    · dsimp only
      split
      · exact log_tracks _ _
      · exact .refl _
    split
    · exact setUnsent_tracks _ _
    · exact .refl _

theorem waitReceiveMessage_tracks (r : Radio) (m : Datagram) (i : Inputs) :
    Tracks r (waitReceiveMessage r m i) := by
  unfold waitReceiveMessage
  split
  · exact xmit_tracks r _ _ i _
  split
  · exact (xmit_tracks r _ _ i _).trans (awaitAck_tracks _)
  split
  · split
    · exact (setUnsent_tracks r none).trans (checkRemoteCommand_tracks _ _)
    · exact (xmit_tracks r _ _ i _).trans (awaitAck_tracks _)
  · exact setUnsent_tracks r _

theorem waitReceiveTransmit_tracks (r : Radio) (i : Inputs) :
    Tracks r (waitReceiveTransmit r i) := by
  unfold waitReceiveTransmit
  split
  · have hsent : Tracks r (xmitVcHeartbeat r r.myVc r.myUniqueId i).1 :=
      transmitDatagram_tracks r _ _ i
    dsimp only
    split
    · refine Tracks.trans ?_ (changeState_tracks _ .waitTxDone)
      split
      · exact hsent.trans (refresh_tracks _ _ i)
      · exact hsent
    · exact hsent
  split
  · exact waitReceiveRetransmit_tracks r i
  cases i.commandPacket with
  | some packet => exact (xmit_tracks r _ _ i _).trans (awaitAck_tracks _)
  | none =>
    dsimp only
    split
    · exact waitReceiveHandshake_tracks r i
    · have hserial := vcSerialMessageReceived_tracks r i
      revert hserial
      generalize vcSerialMessageReceived r i = q
      obtain ⟨s,_ | m⟩ := q
      · exact id
      · exact fun hserial => hserial.trans (waitReceiveMessage_tracks s m i)

theorem waitReceivePass_tracks (r : Radio) (packet : Option Reception) (i : Inputs) :
    Tracks r (waitReceivePass r packet i) := by
  unfold waitReceivePass
  refine Tracks.trans ?_ (setAtLinkCheck_tracks _ true)
  cases packet with
  | some p => exact waitReceiveFrame_tracks r p i
  | none =>
    dsimp only
    split
    · exact .refl r
    · exact waitReceiveTransmit_tracks r i

theorem updateRadioState_tracks (r : Radio) (packet : Option Reception) (i : Inputs) :
    Tracks r (updateRadioState r packet i) := by
  unfold updateRadioState
  cases r.radioState with
  | reset => exact resetPass_tracks r i
  | waitServer => exact waitServerPass_tracks r packet i
  | waitTxDone =>
    unfold waitTxDonePass
    dsimp only
    split
    · exact .of_eq rfl
    · exact .refl r
  | waitReceive => exact waitReceivePass_tracks r packet i

theorem linkCheck_tracks (r : Radio) (now limit : BitVec 32) :
    Tracks r (linkCheck r now limit) := by
  refine foldl_related Tracks.refl Tracks.trans Prod.fst (linkCheckIndex now limit) ?_ _ (r,false)
  intro q v
  unfold linkCheckIndex
  split
  · exact .refl _
  have htouch := touch_tracks q.1 (.entry v)
  dsimp only
  split
  · split
    · exact (htouch.trans (changeState_tracks _ _)).trans (vcBreakLink_tracks _ _)
    · exact htouch.trans (vcBreakLink_tracks _ _)
  · exact htouch

/-- Every step computes the mask along with the states. -/
theorem step_tracks (r : Radio) (e : Event) : Tracks r (step r e) := by
  unfold step
  cases e with
  | pass packet i =>
    cases r.atLinkCheck with
    | true => exact .refl r
    | false => exact updateRadioState_tracks r packet i
  | linkCheck now limit =>
    cases r.atLinkCheck with
    | true => exact (linkCheck_tracks r now limit).trans (setAtLinkCheck_tracks _ false)
    | false => exact .refl r
  | command c =>
    cases r.atLinkCheck with
    | true => exact .refl r
    | false => exact checkCommand_tracks r c
  | hostMessage destVc srcVc data =>
    cases r.atLinkCheck with
    | true => exact .refl r
    | false =>
      dsimp only
      unfold hostMessage
      split
      · split
        · exact .refl r
        split
        · exact .refl r
        · exact .of_eq rfl
      · exact .refl r

/-- The pass gives up retransmitting: the frame is due again and was sent
maxResends times. -/
def Radio.Exhausts (r : Radio) : Event → Prop
  | .pass none i => r.atLinkCheck = false ∧ r.radioState = .waitReceive ∧
      i.receiveInProcess = false ∧ i.heartbeatTimeout = false ∧ r.ackTimer = true ∧
      r.RetransmitDue i ∧ i.maxResends ≠ 0 ∧ i.maxResends ≤ r.rexmt.frameSentCount
  | _ => False

instance (r : Radio) : (e : Event) → Decidable (r.Exhausts e)
  | .pass none _ => inferInstanceAs (Decidable (_ ∧ _))
  | .pass (some _) _ | .linkCheck _ _ | .command _ | .hostMessage _ _ _ =>
    inferInstanceAs (Decidable False)

/-- The pass changes the state of VC_UNASSIGNED, for a handshake frame from a
radio without an address. -/
def Radio.ShakesUnassigned (r : Radio) : Event → Prop
  | .pass (some p) i => r.atLinkCheck = false ∧ r.radioState = .waitReceive ∧
      (rcvDatagram r p i).1.rxSrcVc = vcUnassigned ∧
      ((rcvDatagram r p i).2 = .datagram .vcUnknownAcks ∨
        (rcvDatagram r p i).2 = .datagram .vcZeroAcks ∨
        (rcvDatagram r p i).2 = .datagram .vcSyncAcks ∧
          (xmitVcZeroAcks ((rcvDatagram r p i).1.hear i) vcUnassigned i).2 = true)
  | _ => False

instance (r : Radio) : (e : Event) → Decidable (r.ShakesUnassigned e)
  | .pass (some _) _ => inferInstanceAs (Decidable (_ ∧ _))
  | .pass none _ | .linkCheck _ _ | .command _ | .hostMessage _ _ _ =>
    inferInstanceAs (Decidable False)

/-- What a compiler makes of a step: the entry that the unset local variable vc
points to, if it points to one, and what the mask holds behind `1 << -3`. -/
structure Undefined where
  pointer : Option (Fin maxVc)
  shifted : BitVec 32 → BitVec 32

/-- `vc->flags.wasConnected = true`. -/
def Radio.setWasConnected (r : Radio) : Option (Fin maxVc) → Radio
  | some v => r.setCircuit (.ofNumber v) { r.virtualCircuitList v with wasConnected := true }
  | none => r

/-- A step with what it leaves undefined filled in. -/
def undefinedStep (r : Radio) (e : Event × Undefined) : Radio :=
  let s := step (if r.Exhausts e.1 then r.setWasConnected e.2.pointer else r) e.1
  if r.ShakesUnassigned e.1 then s.setVcConnecting (e.2.shifted s.vcConnecting) else s

/-- Giving up on a circuit sets its flag and no other. -/
def FlagsDestination (r : Radio) (e : Event × Undefined) : Prop :=
  r.Exhausts e.1 → ∀ v, ((undefinedStep r e).virtualCircuitList v).wasConnected =
    (decide (v = r.rexmtTxDestVc.number) || (r.virtualCircuitList v).wasConnected)

/-- A heartbeat of a circuit that is down and flagged starts the handshake. -/
def Reconnects (r : Radio) : Prop :=
  ∀ v, (r.virtualCircuitList v).wasConnected = true →
    (r.virtualCircuitList v).vcState = .linkDown →
    (vcLinkAlive r v).vcConnecting.getLsbD v = true

/-- The mask is exact throughout the run, giving up flags the circuit given up,
and its next heartbeat reconnects it. -/
structure MaskFollows (r : Radio) (es : List (Event × Undefined)) : Prop where
  mask : Always undefinedStep MaskExact r es
  flags : Along undefinedStep FlagsDestination r es
  reconnects : Always undefinedStep Reconnects r es

/-- The mask is exact, and no circuit is flagged, as after power up. -/
structure Settled (r : Radio) : Prop where
  mask : MaskExact r
  flags : ∀ v, (r.virtualCircuitList v).wasConnected = false

theorem settled_powerUp : Settled .powerUp := by
  constructor
  · intro v
    exact BitVec.getLsbD_zero
  · exact fun _ => rfl

theorem step_settled {r : Radio} (h : Settled r) (e : Event) : Settled (step r e) where
  mask := (step_tracks r e).mask h.mask
  flags v := by
    by_contra hset
    have hbefore := (step_tracks r e).flags v (Bool.not_eq_false _ ▸ hset)
    rw [h.flags v] at hbefore
    cases hbefore

/-- What vcChangeState writes to the entry. -/
theorem vcChangeState_entry (r : Radio) (v : Fin maxVc) {state : VcState}
    (h : state ≠ (r.virtualCircuitList v).vcState) :
    (vcChangeState r (.ofNumber v) state).virtualCircuitList v =
      { r.virtualCircuitList v with
        vcState := state
        wasConnected := (r.virtualCircuitList v).wasConnected && state != .connected } := by
  unfold vcChangeState
  dsimp only
  have hentry : (r.touch (.entry (VcAddress.ofNumber v).toInt)).virtualCircuitList v =
      r.virtualCircuitList v := rfl
  rw [circuit_ofNumber,hentry,if_pos h]
  simp [Radio.setVcConnecting,Radio.setCircuit,Radio.touch]

theorem MaskExact.reconnects {r : Radio} (h : MaskExact r) : Reconnects r := by
  intro v hflag hdown
  refine ((vcLinkAlive_tracks r v).mask h v).trans ?_
  unfold vcLinkAlive
  rw [if_pos hdown,vcChangeState_entry r v (by rw [hdown]; decide),hflag]
  rfl

/-- The step leaves nothing undefined. -/
def Radio.Determined (r : Radio) (e : Event) : Prop := ¬r.Exhausts e ∧ ¬r.ShakesUnassigned e

instance (r : Radio) (e : Event) : Decidable (r.Determined e) :=
  inferInstanceAs (Decidable (_ ∧ _))

theorem undefinedStep_determined {r : Radio} {e : Event × Undefined} (h : r.Determined e.1) :
    undefinedStep r e = step r e.1 := by
  unfold undefinedStep
  dsimp only
  rw [if_neg h.1,if_neg h.2]

theorem Radio.Exhausts.not_shakes {r : Radio} {e : Event} (h : r.Exhausts e) :
    ¬r.ShakesUnassigned e := by
  cases e with
  | pass packet i =>
    cases packet with
    | none => exact id
    | some p => exact h.elim
  | linkCheck now limit => exact h.elim
  | command c => exact h.elim
  | hostMessage destVc srcVc data => exact h.elim

theorem MaskFollows.exact {r : Radio} {es : List (Event × Undefined)} (h : MaskFollows r es) :
    MaskExact r :=
  h.mask [] List.nil_prefix

theorem maskFollows_cons {r : Radio} {e : Event × Undefined} {es : List (Event × Undefined)} :
    MaskFollows r (e :: es) ↔ MaskExact r ∧ FlagsDestination r e ∧
      MaskFollows (undefinedStep r e) es := by
  constructor
  · rintro ⟨hmask,hflags,hreconnects⟩
    rw [always_cons] at hmask hreconnects
    exact ⟨hmask.1,hflags.1,hmask.2,hflags.2,hreconnects.2⟩
  · rintro ⟨hmask,hflags,hrest⟩
    exact ⟨always_cons.mpr ⟨hmask,hrest.mask⟩,⟨hflags,hrest.flags⟩,
      always_cons.mpr ⟨hmask.reconnects,hrest.reconnects⟩⟩

/-- A pointer that points to no entry leaves the circuit given up unflagged. -/
theorem Settled.not_exhausts {r : Radio} (h : Settled r) {e : Event}
    (hflags : ∀ u, FlagsDestination r (e,u)) : ¬r.Exhausts e := by
  intro hx
  have hset := hflags ⟨none,id⟩ hx r.rexmtTxDestVc.number
  have hstep : undefinedStep r (e,⟨none,id⟩) = step r e := by
    unfold undefinedStep
    dsimp only
    rw [if_neg hx.not_shakes,if_pos hx]
    rfl
  rw [hstep,(step_settled h e).flags,decide_eq_true rfl] at hset
  cases hset

/-- A shift that turns every bit leaves no bit right. -/
theorem Settled.not_shakes {r : Radio} (h : Settled r) {e : Event} (hx : ¬r.Exhausts e)
    (hmask : ∀ u, MaskExact (undefinedStep r (e,u))) : ¬r.ShakesUnassigned e := by
  intro hs
  have hturned := hmask ⟨none,fun mask => ~~~mask⟩ 0
  have hright := (step_settled h e).mask 0
  unfold undefinedStep at hturned
  dsimp only at hturned
  rw [if_pos hs,if_neg hx] at hturned
  have hbit : (~~~(step r e).vcConnecting).getLsbD 0 =
      !(step r e).vcConnecting.getLsbD 0 := by simp
  have hboth := (hbit.symm.trans hturned).trans hright.symm
  simp at hboth

/-- A run whose undefined pointer has one value throughout. -/
def pointing (pointer : Option (Fin maxVc)) (es : List Event) : List (Event × Undefined) :=
  es.map fun e => (e,⟨pointer,id⟩)

theorem map_fst_pointing (pointer : Option (Fin maxVc)) (es : List Event) :
    (pointing pointer es).map Prod.fst = es := by
  unfold pointing
  rw [List.map_map]
  exact List.map_id es

/-- From a settled radio, whatever the undefined values: the mask is exact, and
follows the circuits given up, in exactly the runs that leave none undefined. -/
theorem connecting_mask_exact_iff {r : Radio} (h : Settled r) (es : List Event) :
    (∀ ts : List (Event × Undefined), ts.map Prod.fst = es → MaskFollows r ts) ↔
      Along step Radio.Determined r es := by
  induction es generalizing r with
  | nil =>
    refine iff_of_true (fun ts hts => ?_) trivial
    obtain rfl := List.map_eq_nil_iff.mp hts
    refine ⟨fun fs hfs => ?_,trivial,fun fs hfs => ?_⟩
    · rw [List.prefix_nil.mp hfs]
      exact h.mask
    · rw [List.prefix_nil.mp hfs]
      exact h.mask.reconnects
  | cons e es ih =>
    constructor
    · intro hall
      have hfirst : ∀ u ts, ts.map Prod.fst = es → MaskExact r ∧ FlagsDestination r (e,u) ∧
          MaskFollows (undefinedStep r (e,u)) ts := by
        intro u ts hts
        exact maskFollows_cons.mp (hall ((e,u) :: ts) (by rw [List.map_cons,hts]))
      have hsome := map_fst_pointing none es
      have hexhausts := h.not_exhausts fun u => (hfirst u _ hsome).2.1
      have hdet : r.Determined e :=
        ⟨hexhausts,h.not_shakes hexhausts fun u => (hfirst u _ hsome).2.2.exact⟩
      refine ⟨hdet,(ih (step_settled h e)).mp fun ts hts => ?_⟩
      obtain ⟨-,-,hrest⟩ := hfirst ⟨none,id⟩ ts hts
      rwa [undefinedStep_determined hdet] at hrest
    · rintro ⟨hdet,hrest⟩ ts hts
      obtain ⟨t,ts,rfl,rfl,rfl⟩ := List.map_eq_cons_iff.mp hts
      rw [maskFollows_cons,undefinedStep_determined hdet]
      exact ⟨h.mask,fun hx => absurd hx hdet.1,(ih (step_settled h _)).mpr hrest ts rfl⟩

/-- The server connects to circuit 1 and sends it a byte. -/
theorem connecting_mask_exact_iff_send :
    Settled .powerUp ∧ ∀ ts : List (Event × Undefined),
      ts.map Prod.fst = connectFirst ++ sendFirst → MaskFollows .powerUp ts :=
  ⟨settled_powerUp,(connecting_mask_exact_iff settled_powerUp _).mpr (by decide +kernel)⟩

/-- Circuit 1 is connected, circuit 2 is alive, and a byte sent to circuit 1 is
not acknowledged. -/
def giveUp : List Event :=
  connectFirst ++ hears .vcHeartbeat 2 0xFF (List.replicate 16 0xB2 ++ [0,0,0,0]) ++ sendFirst ++
    [.pass none { Inputs.idle with maxResends := 1, retransmitTimeout := true },.linkCheck 0 3000]

/-- The next heartbeat of circuit 1. -/
def heartbeatAgain : List Event :=
  hears .vcHeartbeat 1 0xFF (List.replicate 16 0xB1 ++ [0,0,0,0])

/-- The flag goes where the unset pointer points, not to circuit 1: to no
circuit, and the heartbeat leaves circuit 1 alive, or to circuit 2, which is
alive and then misses from the mask. -/
theorem given_up_circuit_not_flagged :
    ((run undefinedStep .powerUp (pointing none (giveUp ++ heartbeatAgain))).virtualCircuitList
      1).vcState = .linkAlive ∧
    (run undefinedStep .powerUp (pointing none (giveUp ++ heartbeatAgain))).vcConnecting = 0 ∧
    ((run undefinedStep .powerUp (pointing (some 2) giveUp)).virtualCircuitList 1).wasConnected =
      false ∧
    ¬ MaskExact (run undefinedStep .powerUp (pointing (some 2) giveUp)) ∧
    ¬ ∀ ts : List (Event × Undefined), ts.map Prod.fst = giveUp → MaskFollows .powerUp ts := by
  have hstray : ¬ MaskExact (run undefinedStep .powerUp (pointing (some 2) giveUp)) :=
    fun h => absurd (h 2) (by decide +kernel)
  refine ⟨by decide +kernel,by decide +kernel,by decide +kernel,hstray,fun hall => ?_⟩
  exact hstray ((hall _ (map_fst_pointing (some 2) giveUp)).mask _ List.prefix_rfl)

end LoRaSerial.VC
