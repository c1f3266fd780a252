import LoRaSerial.Lib.Ring
import LoRaSerial.Outgoing.Packet
import LoRaSerial.VC.Access
import Mathlib.Data.List.Find

namespace LoRaSerial.VC
open Rings
open Outgoing (vcRadioHeaderBytes vcSerialHeaderBytes startOfVcSerial)

abbrev commandTxBufferSize : Nat := 1024 * 4

instance : NeZero commandTxBufferSize := ⟨by decide⟩

/-- A radio with its commandTXBuffer. The last two fields are history: the
output of each remote command under the circuit that the command came from, and
the data of each response frame under its destination. -/
structure Responder where
  radio : Radio
  commandTXBuffer : Ring UInt8 commandTxBufferSize
  executed : List (VcAddress × List UInt8)
  responses : List (VcAddress × List UInt8)

/-- What one step reads besides the inputs of the radio: the settings, which
lay out the frames, and the output of a command, should one run. -/
structure Call where
  event : Event
  settings : Settings
  response : List UInt8

def Call.inputs (c : Call) (i : Inputs) : Inputs :=
  { i with
    maxDatagramSize := (selectHeaderAndTrailerBytes c.settings).maxDatagramSize
    commandPacket := none }

/-- Where a frame of `bytesToSend` bytes has to end so that it does not split a
VC_COMMAND_COMPLETE_MESSAGE. -/
def beforeSplitMessage (q : Ring UInt8 commandTxBufferSize) (bytesToSend : Nat) : Nat :=
  let first := bytesToSend - vcSerialHeaderBytes - 1 + 1
  ((List.range' first (bytesToSend - first)).find? fun length =>
    q.peek length == startOfVcSerial).getD bytesToSend

/-- The number of bytes readyOutgoingCommandPacket(VC_RADIO_HEADER_BYTES) sends. -/
def commandBytes (q : Ring UInt8 commandTxBufferSize) (maxDatagramSize : Nat) : Nat :=
  let maxLength := maxDatagramSize - vcRadioHeaderBytes
  if q.available ≤ maxLength then q.available
  else
    let bytesToSend := maxLength - vcSerialHeaderBytes
    if q.peek 0 = startOfVcSerial then bytesToSend else beforeSplitMessage q bytesToSend

/-- A retransmission is given up on the own circuit: vcBreakLink then calls
resetSerial. -/
def Radio.breaksOwn (r : Radio) (i : Inputs) : Bool :=
  let a := r.rexmtTxDestVc
  i.retransmitTimeout && i.maxResends != 0 && decide (i.maxResends ≤ r.rexmt.frameSentCount) &&
    decide (a.toNat < minRxNotAllowed.toNat) && VcAddress.ofNumber a.number == r.myVc &&
    (r.virtualCircuitList a.number).vcState != .linkDown

/-- The message that comes next is a remote command for the local radio. -/
def Radio.localCommand (r : Radio) (i : Inputs) : Bool :=
  match vcSerialMessageReceived r i with
  | (r,some m) => m.destVc != vcBroadcast && m.destVc.channel == 1 &&
      VcAddress.ofNumber m.destVc.number == r.myVc
  | (_,none) => false

/-- A response frame built now would not be transmitted, since the circuit it
goes to is down. -/
def Radio.responseBlocked (r : Radio) : Bool := (r.setTxDestVc r.rmtCmdVc).destinationDown

def Responder.next (s : Responder) (e : Event) : Responder := { s with radio := step s.radio e }

/-- A received datagram; a remote command leaves its output in commandTXBuffer,
which nothing keeps from running over. -/
def Responder.receive (s : Responder) (p : Reception) (i : Inputs) (response : List UInt8) :
    Responder :=
  let q := rcvDatagram s.radio p i
  if q.2 = .datagram .remoteCommand then
    { s.next (.pass (some p) i) with
      commandTXBuffer := s.commandTXBuffer.pushAll response
      executed := s.executed ++ [(q.1.rxSrcVc,response)] }
  else s.next (.pass (some p) i)

/-- Priority 3: send the next portion of the command response. -/
def Responder.sendResponse (s : Responder) (i : Inputs) : Responder :=
  let q := s.commandTXBuffer.take (commandBytes s.commandTXBuffer i.maxDatagramSize)
  let t := s.next (.pass none { i with commandPacket := some q.1 })
  let d := t.radio.tx.frame.datagram
  { t with
    commandTXBuffer := q.2
    responses :=
      if s.radio.responseBlocked then s.responses else s.responses ++ [(d.destVc,d.data)] }

/-- The transmit priorities. A local command runs with commandTXBuffer empty,
and all its output goes to the host. -/
def Responder.transmit (s : Responder) (i : Inputs) (response : List UInt8) : Responder :=
  if i.receiveInProcess ∨ i.heartbeatTimeout then s.next (.pass none i)
  else if s.radio.ackTimer then
    { s.next (.pass none i) with
      commandTXBuffer :=
        if s.radio.breaksOwn i then s.commandTXBuffer.revoke else s.commandTXBuffer }
  else if s.commandTXBuffer.available = 0 then
    { s.next (.pass none i) with
      commandTXBuffer :=
        if s.radio.vcConnecting = 0 ∧ s.radio.localCommand i then
          (s.commandTXBuffer.pushAll response).flush
        else s.commandTXBuffer }
  else s.sendResponse i

/-- updateRadioState: RADIO_RESET discards what commandTXBuffer holds. -/
def Responder.pass (s : Responder) (packet : Option Reception) (i : Inputs)
    (response : List UInt8) : Responder :=
  match s.radio.radioState,packet with
  | .reset,_ => { s.next (.pass packet i) with commandTXBuffer := s.commandTXBuffer.flush }
  | .waitReceive,some p => s.receive p i response
  | .waitReceive,none => s.transmit i response
  | _,_ => s.next (.pass packet i)

def respond (s : Responder) (c : Call) : Responder :=
  match c.event,s.radio.atLinkCheck with
  | .pass packet i,false => s.pass packet (c.inputs i) c.response
  | e,_ => s.next e

theorem beforeSplitMessage_le (q : Ring UInt8 commandTxBufferSize) (n : Nat) :
    beforeSplitMessage q n ≤ n := by
  unfold beforeSplitMessage
  dsimp only
  cases hfind : (List.range' (n - vcSerialHeaderBytes - 1 + 1)
      (n - (n - vcSerialHeaderBytes - 1 + 1))).find? fun length =>
        q.peek length == startOfVcSerial with
  | none => exact Nat.le_refl n
  | some length =>
    have hmem := List.mem_of_find?_eq_some hfind
    rw [List.mem_range'_1] at hmem
    simp only [Option.getD_some]
    omega

theorem beforeSplitMessage_pos (q : Ring UInt8 commandTxBufferSize) {n : Nat} (hn : 0 < n) :
    0 < beforeSplitMessage q n := by
  unfold beforeSplitMessage
  dsimp only
  cases hfind : (List.range' (n - vcSerialHeaderBytes - 1 + 1)
      (n - (n - vcSerialHeaderBytes - 1 + 1))).find? fun length =>
        q.peek length == startOfVcSerial with
  | none => exact hn
  | some length =>
    have hmem := List.mem_of_find?_eq_some hfind
    rw [List.mem_range'_1] at hmem
    simp only [Option.getD_some]
    omega

theorem commandBytes_le (q : Ring UInt8 commandTxBufferSize) (n : Nat) :
    commandBytes q n ≤ q.available := by
  have hsplit := beforeSplitMessage_le q (n - vcRadioHeaderBytes - vcSerialHeaderBytes)
  unfold commandBytes
  dsimp only
  split
  · exact Nat.le_refl _
  · split <;> omega

theorem commandBytes_pos {q : Ring UInt8 commandTxBufferSize} {n : Nat}
    (hn : vcRadioHeaderBytes + vcSerialHeaderBytes < n) (hsome : q.available ≠ 0) :
    0 < commandBytes q n := by
  have hsplit := beforeSplitMessage_pos q (n := n - vcRadioHeaderBytes - vcSerialHeaderBytes)
    (by omega)
  unfold commandBytes
  dsimp only
  split
  · exact Nat.pos_of_ne_zero hsome
  · split <;> omega

theorem maxDatagramSize_large (s : Settings) :
    vcRadioHeaderBytes + vcSerialHeaderBytes < (selectHeaderAndTrailerBytes s).maxDatagramSize := by
  simp only [selectHeaderAndTrailerBytes,vcRadioHeaderBytes,vcSerialHeaderBytes,maxPacketSize]
  split <;> split <;> split <;> split <;> omega

/-- The model of outgoingPacket, which has a list for commandTXBuffer, sends the
same number of bytes. -/
theorem commandBytes_refines {r : Outgoing.Radio} {q : Ring UInt8 commandTxBufferSize}
    (hq : r.commandTXBuffer = q.contents) (hmode : r.settings.operatingMode = .virtualCircuit) :
    r.commandBytes vcRadioHeaderBytes = commandBytes q r.layout.maxDatagramSize := by
  have hbyte : ∀ k < q.available, r.commandTXBuffer.getD k 0 = q.peek k :=
    fun k hk => hq ▸ Ring.getD_contents hk 0
  unfold Outgoing.Radio.commandBytes commandBytes
  dsimp only
  rw [hq,Ring.length_contents,if_pos hmode]
  split
  · rfl
  next hlong =>
    rw [← hq,hbyte 0 (by omega)]
    split
    · rfl
    · unfold Outgoing.Radio.beforeSplitMessage beforeSplitMessage
      dsimp only
      congr 1
      apply List.find?_congr
      intro k hk
      rw [List.mem_range'_1] at hk
      rw [hbyte k (by omega)]

@[simp] theorem touch_rmtCmdVc (r : Radio) (a : Access) : (r.touch a).rmtCmdVc = r.rmtCmdVc := rfl

@[simp] theorem changeState_rmtCmdVc (r : Radio) (s : RadioState) :
    (r.changeState s).rmtCmdVc = r.rmtCmdVc := rfl

@[simp] theorem setAtLinkCheck_rmtCmdVc (r : Radio) (b : Bool) :
    (r.setAtLinkCheck b).rmtCmdVc = r.rmtCmdVc := rfl

@[simp] theorem setCircuit_rmtCmdVc (r : Radio) (a : VcAddress) (vc : VirtualCircuit) :
    (r.setCircuit a vc).rmtCmdVc = r.rmtCmdVc := by
  unfold Radio.setCircuit
  split <;> rfl

@[simp] theorem vcChangeState_rmtCmdVc (r : Radio) (a : VcAddress) (state : VcState) :
    (vcChangeState r a state).rmtCmdVc = r.rmtCmdVc := by
  unfold vcChangeState
  dsimp only
  split
  · exact setCircuit_rmtCmdVc _ _ _
  · rfl

@[simp] theorem vcZeroAcks_rmtCmdVc (r : Radio) (a : VcAddress) :
    (vcZeroAcks r a).rmtCmdVc = r.rmtCmdVc :=
  setCircuit_rmtCmdVc _ _ _

@[simp] theorem vcSendPcAckNack_rmtCmdVc (r : Radio) (a : VcAddress) (ack : Bool) :
    (vcSendPcAckNack r a ack).rmtCmdVc = r.rmtCmdVc := by
  unfold vcSendPcAckNack
  split <;> rfl

@[simp] theorem vcBreakLink_rmtCmdVc (r : Radio) (a : VcAddress) :
    (vcBreakLink r a).rmtCmdVc = r.rmtCmdVc := by
  unfold vcBreakLink
  dsimp only
  split
  · rfl
  split
  · split
    · exact vcSendPcAckNack_rmtCmdVc _ _ _
    · rw [vcChangeState_rmtCmdVc,vcSendPcAckNack_rmtCmdVc]
      rfl
  · split
    · rfl
    · exact vcChangeState_rmtCmdVc _ _ _

@[simp] theorem vcLinkAlive_rmtCmdVc (r : Radio) (v : Fin maxVc) :
    (vcLinkAlive r v).rmtCmdVc = r.rmtCmdVc := by
  unfold vcLinkAlive
  split
  · exact vcChangeState_rmtCmdVc _ _ _
  · rfl

@[simp] theorem vcIdToAddressByte_rmtCmdVc (r : Radio) (a : VcAddress) (id : List UInt8)
    (server : Bool) : (vcIdToAddressByte r a id server).1.rmtCmdVc = r.rmtCmdVc := by
  unfold vcIdToAddressByte
  split
  · exact vcLinkAlive_rmtCmdVc _ _
  split
  · rfl
  split
  · rfl
  · dsimp only
    split
    · rfl
    · rw [vcLinkAlive_rmtCmdVc,setCircuit_rmtCmdVc]

@[simp] theorem retransmitDatagram_rmtCmdVc (r : Radio) (i : Inputs) :
    (retransmitDatagram r i).1.rmtCmdVc = r.rmtCmdVc := by
  unfold retransmitDatagram
  dsimp only
  split <;> rfl

@[simp] theorem transmitDatagram_rmtCmdVc (r : Radio) (t : DatagramType) (d : Datagram)
    (i : Inputs) : (transmitDatagram r t d i).1.rmtCmdVc = r.rmtCmdVc :=
  retransmitDatagram_rmtCmdVc _ i

@[simp] theorem enter_rmtCmdVc (x : Radio × Bool) (s : RadioState) :
    (enter x s).rmtCmdVc = x.1.rmtCmdVc := by
  unfold enter
  split <;> rfl

theorem foldl_rmtCmdVc {σ : Type} (radio : σ → Radio) (f : σ → Fin maxVc → σ)
    (hf : ∀ q v, (radio (f q v)).rmtCmdVc = (radio q).rmtCmdVc) (q : σ) (vs : List (Fin maxVc)) :
    (radio (vs.foldl f q)).rmtCmdVc = (radio q).rmtCmdVc := by
  induction vs generalizing q with
  | nil => rfl
  | cons v vs ih => exact (ih (f q v)).trans (hf q v)

theorem breakLinks_rmtCmdVc (r : Radio) : (breakLinks r).rmtCmdVc = r.rmtCmdVc := by
  unfold breakLinks
  rw [changeState_rmtCmdVc]
  refine foldl_rmtCmdVc (fun q => q) _ ?_ r (List.finRange maxVc)
  intro q v
  split
  · exact vcBreakLink_rmtCmdVc _ _
  · rfl

@[simp] theorem checkCommand_rmtCmdVc (r : Radio) (c : Command) :
    (checkCommand r c).rmtCmdVc = r.rmtCmdVc := by
  cases c with
  | connect =>
    change (if _ then r else vcChangeState r _ _ : Radio).rmtCmdVc = _
    split
    · rfl
    · exact vcChangeState_rmtCmdVc _ _ _
  | breakLinks => exact breakLinks_rmtCmdVc r
  | reset => rfl
  | setCmdVc v => rfl
  | other => rfl

@[simp] theorem checkRemoteCommand_rmtCmdVc (r : Radio) (c : Command) :
    (checkRemoteCommand r c).rmtCmdVc = r.rmtCmdVc :=
  checkCommand_rmtCmdVc _ c

@[simp] theorem linkCheck_rmtCmdVc (r : Radio) (now limit : BitVec 32) :
    (linkCheck r now limit).rmtCmdVc = r.rmtCmdVc := by
  unfold linkCheck
  refine foldl_rmtCmdVc Prod.fst (linkCheckIndex now limit) ?_ (r,false) _
  intro q v
  unfold linkCheckIndex
  split
  · rfl
  dsimp only
  split
  · split <;> exact vcBreakLink_rmtCmdVc _ _
  · rfl

@[simp] theorem rcvDatagram_rmtCmdVc (r : Radio) (p : Reception) (i : Inputs) :
    (rcvDatagram r p i).1.rmtCmdVc = r.rmtCmdVc := by
  refine rcvDatagram_preserves (P := fun s => s.rmtCmdVc = r.rmtCmdVc) p i rfl (fun _ => rfl)
    (fun s a _ hs => ?_) (fun s a numbers hs => ?_) (fun s q hs => ?_)
  · unfold Radio.findVc
    split
    · exact hs
    · exact hs
  · exact (setCircuit_rmtCmdVc _ _ _).trans hs
  · unfold Radio.accepted
    dsimp only
    split
    · exact hs
    · exact hs

@[simp] theorem hear_rmtCmdVc (r : Radio) (i : Inputs) : (r.hear i).rmtCmdVc = r.rmtCmdVc := by
  unfold Radio.hear
  split
  · exact setCircuit_rmtCmdVc _ _ _
  · rfl

@[simp] theorem vcReceiveHeartbeat_rmtCmdVc (r : Radio) (data : List UInt8) (i : Inputs) :
    (vcReceiveHeartbeat r data i).rmtCmdVc = r.rmtCmdVc := by
  have hsave : (r.saveMyVc (heartbeatId data)).rmtCmdVc = r.rmtCmdVc := by
    unfold Radio.saveMyVc
    split <;> rfl
  have hid := vcIdToAddressByte_rmtCmdVc (r.saveMyVc (heartbeatId data))
    (r.saveMyVc (heartbeatId data)).rxSrcVc (heartbeatId data) i.server
  unfold vcReceiveHeartbeat
  dsimp only
  split
  next heq =>
    rw [heq] at hid
    exact hid.trans hsave
  next heq =>
    rw [heq] at hid
    split
    · rw [enter_rmtCmdVc,xmitVcHeartbeat,transmitDatagram_rmtCmdVc]
      exact hid.trans hsave
    · exact hid.trans hsave

@[simp] theorem resetPass_rmtCmdVc (r : Radio) (i : Inputs) :
    (resetPass r i).rmtCmdVc = r.rmtCmdVc := by
  have hselect : ∀ q : Radio, (selectMyVc q i.server).rmtCmdVc = q.rmtCmdVc := by
    intro q
    unfold selectMyVc
    split
    · exact vcIdToAddressByte_rmtCmdVc _ _ _ _
    · rfl
  unfold resetPass
  rw [changeState_rmtCmdVc,xmitVcHeartbeat,transmitDatagram_rmtCmdVc,hselect]
  exact transmitDatagram_rmtCmdVc _ _ _ i

@[simp] theorem waitServerPass_rmtCmdVc (r : Radio) (packet : Option Reception) (i : Inputs) :
    (waitServerPass r packet i).rmtCmdVc = r.rmtCmdVc := by
  unfold waitServerPass
  split
  · rfl
  split
  · rfl
  next p =>
    have hrcv := rcvDatagram_rmtCmdVc r p i
    split
    next heq =>
      rw [heq] at hrcv
      split
      · rw [changeState_rmtCmdVc,vcReceiveHeartbeat_rmtCmdVc]
        exact (setCircuit_rmtCmdVc _ _ _).trans hrcv
      · exact hrcv
    next heq =>
      rw [heq] at hrcv
      exact hrcv

@[simp] theorem waitReceiveRetransmit_rmtCmdVc (r : Radio) (i : Inputs) :
    (waitReceiveRetransmit r i).rmtCmdVc = r.rmtCmdVc := by
  unfold waitReceiveRetransmit
  dsimp only
  split
  · rfl
  split
  · split
    · change (enter (retransmitDatagram _ i) .waitTxDone).rmtCmdVc = _
      rw [enter_rmtCmdVc,retransmitDatagram_rmtCmdVc]
      unfold Radio.restoreTxBuffer
      dsimp only
      split <;> rfl
    · exact vcBreakLink_rmtCmdVc _ _
  · rfl

@[simp] theorem waitReceiveHandshake_rmtCmdVc (r : Radio) (i : Inputs) :
    (waitReceiveHandshake r i).rmtCmdVc = r.rmtCmdVc := by
  unfold waitReceiveHandshake
  split
  · rfl
  dsimp only
  split
  · split
    · rw [changeState_rmtCmdVc,vcChangeState_rmtCmdVc]
      exact transmitDatagram_rmtCmdVc _ _ _ i
    · exact transmitDatagram_rmtCmdVc _ _ _ i
  split
  · rw [enter_rmtCmdVc]
    exact transmitDatagram_rmtCmdVc _ _ _ i
  split
  · rw [enter_rmtCmdVc]
    exact transmitDatagram_rmtCmdVc _ _ _ i
  · rfl

@[simp] theorem vcSerialMessageReceived_rmtCmdVc (r : Radio) (i : Inputs) :
    (vcSerialMessageReceived r i).1.rmtCmdVc = r.rmtCmdVc := by
  unfold vcSerialMessageReceived
  split
  · rfl
  next m rest _ =>
  have hrest : (r.setRadioTxBuffer rest).rmtCmdVc = r.rmtCmdVc := rfl
  dsimp only
  generalize r.setRadioTxBuffer rest = s at hrest
  split
  · exact hrest
  split
  · split
    · exact hrest
    · exact (vcBreakLink_rmtCmdVc _ _).trans hrest
  have hfind : (if m.destVc = vcBroadcast then s
      else s.touch (.entry m.destVc.number)).rmtCmdVc = r.rmtCmdVc := by
    split <;> exact hrest
  generalize (if m.destVc = vcBroadcast then s else s.touch (.entry m.destVc.number)) = t at hfind
  split
  · split <;> exact hfind
  split
  · exact hfind
  · exact hfind

@[simp] theorem waitReceiveMessage_rmtCmdVc (r : Radio) (m : Datagram) (i : Inputs) :
    (waitReceiveMessage r m i).rmtCmdVc = r.rmtCmdVc := by
  unfold waitReceiveMessage
  split
  · rw [enter_rmtCmdVc]
    exact transmitDatagram_rmtCmdVc _ _ _ i
  split
  · change (enter _ RadioState.waitTxDone).rmtCmdVc = _
    rw [enter_rmtCmdVc]
    exact transmitDatagram_rmtCmdVc _ _ _ i
  split
  · split
    · exact checkRemoteCommand_rmtCmdVc _ _
    · change (enter _ RadioState.waitTxDone).rmtCmdVc = _
      rw [enter_rmtCmdVc]
      exact transmitDatagram_rmtCmdVc _ _ _ i
  · rfl

@[simp] theorem waitReceiveTransmit_rmtCmdVc (r : Radio) (i : Inputs) :
    (waitReceiveTransmit r i).rmtCmdVc = r.rmtCmdVc := by
  unfold waitReceiveTransmit
  split
  · dsimp only
    split
    · rw [changeState_rmtCmdVc]
      split
      · refine (setCircuit_rmtCmdVc _ _ _).trans ?_
        exact transmitDatagram_rmtCmdVc _ _ _ i
      · exact transmitDatagram_rmtCmdVc _ _ _ i
    · exact transmitDatagram_rmtCmdVc _ _ _ i
  split
  · exact waitReceiveRetransmit_rmtCmdVc r i
  split
  · change (enter _ RadioState.waitTxDone).rmtCmdVc = _
    rw [enter_rmtCmdVc]
    exact transmitDatagram_rmtCmdVc _ _ _ i
  split
  · exact waitReceiveHandshake_rmtCmdVc r i
  have hreceived := vcSerialMessageReceived_rmtCmdVc r i
  split
  next heq =>
    rw [heq] at hreceived
    rw [waitReceiveMessage_rmtCmdVc]
    exact hreceived
  next heq =>
    rw [heq] at hreceived
    exact hreceived

/-- What a received datagram leaves in rmtCmdVc. -/
theorem waitReceiveFrame_rmtCmdVc (r : Radio) (p : Reception) (i : Inputs) :
    (waitReceiveFrame r p i).rmtCmdVc =
      if (rcvDatagram r p i).2 = .datagram .remoteCommand then (rcvDatagram r p i).1.rxSrcVc
      else r.rmtCmdVc := by
  have hr : ((rcvDatagram r p i).1.hear i).rmtCmdVc = r.rmtCmdVc := by
    rw [hear_rmtCmdVc,rcvDatagram_rmtCmdVc]
  have hsrc : ((rcvDatagram r p i).1.hear i).rxSrcVc = (rcvDatagram r p i).1.rxSrcVc := by
    unfold Radio.hear
    split
    · exact congrArg Prod.snd (refresh_framing _ _ _)
    · rfl
  unfold waitReceiveFrame
  dsimp only
  split
  next heq =>
    rw [heq,vcReceiveHeartbeat_rmtCmdVc]
    exact hr
  next heq =>
    rw [heq,enter_rmtCmdVc]
    exact (transmitDatagram_rmtCmdVc _ _ _ i).trans hr
  next heq =>
    rw [heq]
    exact hr
  next heq =>
    rw [heq]
    exact (vcSendPcAckNack_rmtCmdVc _ _ true).trans hr
  next heq =>
    rw [heq,enter_rmtCmdVc]
    exact (transmitDatagram_rmtCmdVc _ _ _ i).trans hr
  next heq =>
    rw [heq,touch_rmtCmdVc,vcChangeState_rmtCmdVc,enter_rmtCmdVc]
    exact (transmitDatagram_rmtCmdVc _ _ _ i).trans hr
  next heq =>
    rw [heq]
    split
    · rw [vcChangeState_rmtCmdVc,vcZeroAcks_rmtCmdVc,changeState_rmtCmdVc]
      exact (transmitDatagram_rmtCmdVc _ _ _ i).trans hr
    · exact (transmitDatagram_rmtCmdVc _ _ _ i).trans hr
  next heq =>
    rw [heq,vcChangeState_rmtCmdVc,vcZeroAcks_rmtCmdVc]
    exact hr
  next heq =>
    rw [if_pos heq,checkRemoteCommand_rmtCmdVc,enter_rmtCmdVc]
    exact (transmitDatagram_rmtCmdVc _ _ _ i).trans hsrc
  next heq =>
    rw [heq,enter_rmtCmdVc]
    exact (transmitDatagram_rmtCmdVc _ _ _ i).trans hr
  next hcommand _ =>
    rw [if_neg hcommand]
    exact hr

end LoRaSerial.VC
