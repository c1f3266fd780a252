import LoRaSerial.Serial.Reassembly
import LoRaSerial.VC.Radio
import LoRaSerial.VcSerial.Port

namespace LoRaSerial.VcSerial
open Rings VC
open Outgoing (startOfVcSerial vcHeader vcRadioHeaderBytes)

def pcDataAck : VcAddress := 0xE2
def pcDataNack : VcAddress := 0xE3

/-- An entry of virtualCircuitList with its failure count. -/
structure Circuit extends VirtualCircuit where
  linkFailures : BitVec 32

/-- State, flags and failure count. -/
def Circuit.condition (vc : Circuit) : VcState × Bool × Bool × BitVec 32 :=
  (vc.vcState,vc.valid,vc.wasConnected,vc.linkFailures)

/-- The serial input and what a link break reads or changes beside it. The last
field is history: the bytes written to the host. -/
structure Links where
  port : Port
  virtualCircuitList : Fin maxVc → Circuit
  vcConnecting : BitVec 32
  ackTimer : Bool
  txDestVc : VcAddress
  linkFailures : BitVec 32
  written : List UInt8

namespace Links

def systemWrite (l : Links) (bytes : List UInt8) : Links :=
  { l with written := l.written ++ bytes }

def stopAckTimer (l : Links) : Links := { l with ackTimer := false }

def setPort (l : Links) (port : Port) : Links := { l with port }

def setCircuit (l : Links) (v : Fin maxVc) (vc : Circuit) : Links :=
  { l with virtualCircuitList := Function.update l.virtualCircuitList v vc }

def setVcConnecting (l : Links) (mask : BitVec 32) : Links := { l with vcConnecting := mask }

/-- VC_SERIAL_MESSAGE_HEADER and the message behind it. -/
def writeMessage (l : Links) (destVc srcVc : VcAddress) (message : List UInt8) : Links :=
  l.systemWrite
    (startOfVcSerial :: vcHeader (vcRadioHeaderBytes + message.length) destVc srcVc ++ message)

/-- Notify the PC of the message delivery failure. -/
def vcSendPcAckNack (l : Links) (v : Fin maxVc) (ackMsg : Bool) : Links :=
  l.writeMessage (if ackMsg then pcDataAck else pcDataNack) l.port.myVc [UInt8.ofNat v]

/-- Send the PC the state message. -/
def vcSendPcStateMessage (l : Links) (v : Fin maxVc) (state : VcState) : Links :=
  l.systemWrite
    (Serial.vcSendPcStateMessage (fun v => (l.virtualCircuitList v).toVirtualCircuit) v state)

/-- Output VC link status. -/
def vcChangeState (l : Links) (v : Fin maxVc) (state : VcState) : Links :=
  let changed :=
    if state ≠ (l.virtualCircuitList v).vcState then
      let vc := { l.virtualCircuitList v with vcState := state }
      let vcBit := (1 : BitVec 32) <<< v.val
      (l.setVcConnecting (if vc.toVirtualCircuit.connecting then l.vcConnecting ||| vcBit
          else l.vcConnecting &&& ~~~vcBit)).setCircuit v
        { vc with wasConnected := vc.wasConnected && state != .connected }
    else l
  changed.vcSendPcStateMessage v state

/-- vc->linkFailures++ -/
def countFailure (l : Links) (v : Fin maxVc) : Links :=
  let vc := l.virtualCircuitList v
  l.setCircuit v { vc with linkFailures := vc.linkFailures + 1 }

/-- If waiting for an ACK and the link breaks, stop the retransmissions. -/
def stopRetransmissions (l : Links) (v : Fin maxVc) : Links :=
  if l.ackTimer ∧ l.txDestVc = .ofNumber v then l.stopAckTimer.vcSendPcAckNack v false else l

/-- Break the virtual-circuit link. -/
def vcBreakLink (l : Links) (vcIndex : VcAddress) : Links :=
  if minRxNotAllowed.toNat ≤ vcIndex.toNat then l
  else
    let v := vcIndex.number
    let l := l.stopRetransmissions v
    let l := if VcAddress.ofNumber v ≠ l.port.myVc then
        (l.countFailure v).vcChangeState v .linkDown
      else l
    { l with
      linkFailures := l.linkFailures + 1
      port := VcSerial.vcBreakLink l.port vcIndex }

/-- What vcSerialMessageReceived reads from elsewhere. -/
structure Inputs where
  receiveInProcess : Bool
  maxDatagramSize : UInt8
  /-- The bytes of outgoingPacket in front of the data. -/
  header : List UInt8

/-- The length and the destination byte behind radioTxTail. -/
def msgLength (l : Links) : Nat := (l.port.radioTxBuffer.peek 0).toNat

def vcDest (l : Links) : VcAddress := (l.port.radioTxBuffer.peek 1).toBitVec

/-- Determine if received serial data may be sent to the remote system. What is
written back to ourself starts at outgoingPacket, not behind its header. -/
def vcSerialMessageReceived (l : Links) (i : Inputs) : Links × Bool :=
  let dataBytes := l.port.radioTxBuffer.available
  let msgLength := l.msgLength
  let vcDest := l.vcDest
  let v := vcDest.number
  let discarded := l.setPort (l.port.discardMessage msgLength)
  if i.receiveInProcess ∨ dataBytes = 0 then (l,false)
  else if dataBytes < msgLength then (l,false)
  else if minRxNotAllowed.toNat ≤ vcDest.toNat ∧ vcDest ≠ vcBroadcast then (discarded,false)
  else if i.maxDatagramSize.toNat < msgLength then
    if minTxNotAllowed.toNat ≤ vcDest.toNat ∧ vcDest ≠ vcBroadcast then (discarded,false)
    else (discarded.vcBreakLink (.ofNumber v),false)
  else if vcDest ≠ vcBroadcast ∧
      (l.virtualCircuitList v).vcState.code < VcState.connected.code then
    (if vcDest.toNat < minTxNotAllowed.toNat then discarded.vcSendPcAckNack v false
      else discarded,false)
  else
    let readied := l.setPort (readyOutgoingPacket l.port msgLength i.maxDatagramSize)
    if vcDest ≠ vcBroadcast ∧ VcAddress.ofNumber v = l.port.myVc ∧ vcDest.channel = 0 then
      (readied.systemWrite (startOfVcSerial ::
        (i.header ++ readied.port.payloads.getLastD []).take msgLength),false)
    else (readied,true)

/-- What the serial input takes from the inputs and the table. -/
def portInputs (l : Links) (i : Inputs) : VcSerial.Inputs where
  receiveInProcess := i.receiveInProcess
  maxDatagramSize := i.maxDatagramSize
  connected v := !decide ((l.virtualCircuitList v).vcState.code < VcState.connected.code)

/-- The circuit a message may act on: that of a destination which may be
transmitted to, none for VC_BROADCAST. -/
def named (l : Links) : Option (Fin maxVc) :=
  if l.vcDest.toNat < minTxNotAllowed.toNat then some l.vcDest.number else none

/-- Whatever lies at the head of radioTxBuffer, one call leaves all the other
circuits as they are. -/
def OnlyNamedAffected (l : Links) (i : Inputs) : Prop :=
  ∀ v, l.named ≠ some v →
    ((l.vcSerialMessageReceived i).1.virtualCircuitList v).condition =
      (l.virtualCircuitList v).condition

/-- A message that is discarded because of its length. -/
def Oversize (l : Links) (i : Inputs) : Prop :=
  i.receiveInProcess = false ∧ l.msgLength ≤ l.port.radioTxBuffer.available ∧
    i.maxDatagramSize.toNat < l.msgLength

/-- An oversize broadcast at a radio which does not have the address that
VC_BROADCAST is masked to. -/
def OversizeBroadcast (l : Links) (i : Inputs) : Prop :=
  l.Oversize i ∧ l.vcDest = vcBroadcast ∧ l.port.myVc ≠ .ofNumber vcBroadcast.number

@[simp] theorem virtualCircuitList_systemWrite (l : Links) (bytes : List UInt8) :
    (l.systemWrite bytes).virtualCircuitList = l.virtualCircuitList :=
  rfl

theorem vcChangeState_other {l : Links} {v w : Fin maxVc} (state : VcState) (h : w ≠ v) :
    (l.vcChangeState v state).virtualCircuitList w = l.virtualCircuitList w := by
  unfold vcChangeState
  dsimp only
  split
  · exact Function.update_of_ne h _ _
  · rfl

theorem linkFailures_vcChangeState (l : Links) (v : Fin maxVc) (state : VcState) :
    ((l.vcChangeState v state).virtualCircuitList v).linkFailures =
      (l.virtualCircuitList v).linkFailures := by
  unfold vcChangeState
  dsimp only
  split
  · simp [vcSendPcStateMessage,setCircuit]
  · rfl

theorem countFailure_other {l : Links} {v w : Fin maxVc} (h : w ≠ v) :
    (l.countFailure v).virtualCircuitList w = l.virtualCircuitList w :=
  Function.update_of_ne h _ _

theorem linkFailures_countFailure (l : Links) (v : Fin maxVc) :
    ((l.countFailure v).virtualCircuitList v).linkFailures =
      (l.virtualCircuitList v).linkFailures + 1 := by
  simp [countFailure,setCircuit]

theorem stopRetransmissions_frame (l : Links) (v : Fin maxVc) :
    (l.stopRetransmissions v).virtualCircuitList = l.virtualCircuitList ∧
      (l.stopRetransmissions v).port = l.port := by
  unfold stopRetransmissions
  split
  · exact ⟨rfl,rfl⟩
  · exact ⟨rfl,rfl⟩

/-- What a break does to the table: nothing for the own circuit. -/
theorem virtualCircuitList_vcBreakLink (l : Links) (v : Fin maxVc) :
    (l.vcBreakLink (.ofNumber v)).virtualCircuitList =
      if VcAddress.ofNumber v ≠ l.port.myVc then
        (((l.stopRetransmissions v).countFailure v).vcChangeState v .linkDown).virtualCircuitList
      else l.virtualCircuitList := by
  obtain ⟨hlist,hport⟩ := l.stopRetransmissions_frame v
  unfold vcBreakLink
  simp only [if_neg (VcAddress.ofNumber_not_special v),VcAddress.number_ofNumber,hport]
  by_cases hown : VcAddress.ofNumber v ≠ l.port.myVc
  · rw [if_pos hown,if_pos hown]
  · rw [if_neg hown,if_neg hown]
    exact hlist

theorem vcBreakLink_other {l : Links} {v w : Fin maxVc} (h : w ≠ v) :
    (l.vcBreakLink (.ofNumber v)).virtualCircuitList w = l.virtualCircuitList w := by
  rw [virtualCircuitList_vcBreakLink]
  split
  · rw [vcChangeState_other _ h,countFailure_other h,(l.stopRetransmissions_frame v).1]
  · rfl

theorem vcBreakLink_own {l : Links} {v : Fin maxVc} (h : l.port.myVc = .ofNumber v) :
    (l.vcBreakLink (.ofNumber v)).virtualCircuitList = l.virtualCircuitList := by
  rw [virtualCircuitList_vcBreakLink,if_neg (not_not.mpr h.symm)]

theorem linkFailures_vcBreakLink {l : Links} {v : Fin maxVc} (h : l.port.myVc ≠ .ofNumber v) :
    ((l.vcBreakLink (.ofNumber v)).virtualCircuitList v).linkFailures =
      (l.virtualCircuitList v).linkFailures + 1 := by
  rw [virtualCircuitList_vcBreakLink,if_pos h.symm,linkFailures_vcChangeState,
    linkFailures_countFailure,(l.stopRetransmissions_frame v).1]

theorem port_vcChangeState (l : Links) (v : Fin maxVc) (state : VcState) :
    (l.vcChangeState v state).port = l.port := by
  unfold vcChangeState
  dsimp only
  split
  · rfl
  · rfl

theorem port_vcBreakLink (l : Links) (vcIndex : VcAddress) :
    (l.vcBreakLink vcIndex).port = VcSerial.vcBreakLink l.port vcIndex := by
  obtain ⟨-,hport⟩ := l.stopRetransmissions_frame vcIndex.number
  unfold vcBreakLink
  split
  next hspecial => rw [VcSerial.vcBreakLink,if_pos hspecial]
  · refine congrArg (VcSerial.vcBreakLink · vcIndex) ?_
    split
    · rw [port_vcChangeState]
      exact hport
    · exact hport

def ports (x : Links × Bool) : Port × Bool := (x.1.port,x.2)

/-- The rings change as in the serial input alone, with the same result. -/
theorem ports_vcSerialMessageReceived (l : Links) (i : Inputs) :
    ports (l.vcSerialMessageReceived i) =
      VcSerial.vcSerialMessageReceived l.port (l.portInputs i) := by
  unfold vcSerialMessageReceived VcSerial.vcSerialMessageReceived
  simp only [apply_ite ports]
  refine ite_congr rfl (fun _ => rfl) fun _ => ?_
  refine ite_congr rfl (fun _ => rfl) fun _ => ?_
  refine ite_congr rfl (fun _ => rfl) fun _ => ?_
  refine ite_congr rfl (fun _ => ite_congr rfl (fun _ => rfl) fun _ => ?_) fun _ => ?_
  · exact congrArg (·,false) (port_vcBreakLink _ _)
  refine ite_congr (by simp [portInputs,vcDest]) (fun _ => ?_) fun _ => ?_
  · split
    · rfl
    · rfl
  · have hown : (l.vcDest != vcBroadcast && VcAddress.ofNumber l.vcDest.number == l.port.myVc &&
        l.vcDest.channel == 0) = decide (l.vcDest ≠ vcBroadcast ∧
          VcAddress.ofNumber l.vcDest.number = l.port.myVc ∧ l.vcDest.channel = 0) := by
      rw [Bool.eq_iff_iff]
      simp [and_assoc]
    refine Eq.trans ?_ (congrArg (fun own => (readyOutgoingPacket l.port l.msgLength
      i.maxDatagramSize,!own)) hown).symm
    split
    next hdata => exact congrArg (Prod.mk _) (by rw [decide_eq_true hdata]; rfl)
    next hdata => exact congrArg (Prod.mk _) (by rw [decide_eq_false hdata]; rfl)

/-- Of the outcomes only the oversize one that breaks a link touches the table. -/
theorem virtualCircuitList_vcSerialMessageReceived (l : Links) (i : Inputs) :
    (l.vcSerialMessageReceived i).1.virtualCircuitList = l.virtualCircuitList ∨
      l.Oversize i ∧ (l.vcDest.toNat < minTxNotAllowed.toNat ∨ l.vcDest = vcBroadcast) ∧
        (l.vcSerialMessageReceived i).1 =
          (l.setPort (l.port.discardMessage l.msgLength)).vcBreakLink
            (.ofNumber l.vcDest.number) := by
  unfold vcSerialMessageReceived
  dsimp only
  split
  · exact .inl rfl
  next hidle =>
  split
  · exact .inl rfl
  next hwhole =>
  split
  · exact .inl rfl
  split
  next hlong =>
    split
    · exact .inl rfl
    next hdest =>
      refine .inr ⟨⟨by simpa using fun h => hidle (.inl h),Nat.le_of_not_lt hwhole,hlong⟩,?_,rfl⟩
      by_contra hneither
      exact hdest ⟨Nat.le_of_not_lt fun h => hneither (.inl h),fun h => hneither (.inr h)⟩
  · split
    · refine .inl ?_
      split
      · rfl
      · rfl
    · split
      · exact .inl rfl
      · exact .inl rfl

/-- An oversize message to an address that may be transmitted to, or to all,
breaks the link that the five bits of the address name. -/
theorem vcSerialMessageReceived_oversize {l : Links} {i : Inputs} (h : l.Oversize i)
    (hdest : l.vcDest.toNat < minTxNotAllowed.toNat ∨ l.vcDest = vcBroadcast) :
    (l.vcSerialMessageReceived i).1 =
      (l.setPort (l.port.discardMessage l.msgLength)).vcBreakLink (.ofNumber l.vcDest.number) := by
  obtain ⟨hidle,hwhole,hlong⟩ := h
  have hmin : minTxNotAllowed.toNat ≤ minRxNotAllowed.toNat := by decide
  have hsome : l.port.radioTxBuffer.available ≠ 0 := by omega
  unfold vcSerialMessageReceived
  dsimp only
  rw [if_neg (by simp [hidle,hsome]),if_neg (by omega),if_neg (by grind),if_pos hlong,
    if_neg (by grind)]

theorem named_of_valid {l : Links} (h : l.vcDest.toNat < minTxNotAllowed.toNat) :
    l.named = some l.vcDest.number :=
  if_pos h

theorem named_of_broadcast {l : Links} (h : l.vcDest = vcBroadcast) : l.named = none := by
  rw [named,h]
  exact if_neg (by decide)

theorem condition_ne_of_linkFailures {c c' : Circuit}
    (h : c'.linkFailures = c.linkFailures + 1) : c'.condition ≠ c.condition := by
  intro heq
  have hcount : c'.linkFailures = c.linkFailures :=
    congrArg (fun x : VcState × Bool × Bool × BitVec 32 => x.2.2.2) heq
  rw [h] at hcount
  bv_omega

theorem host_message_frame_iff (l : Links) (i : Inputs) :
    l.OnlyNamedAffected i ↔ ¬l.OversizeBroadcast i := by
  constructor
  · rintro hframe ⟨hover,hall,hown⟩
    have hnamed : l.named ≠ some l.vcDest.number := by simp [named_of_broadcast hall]
    refine condition_ne_of_linkFailures ?_ (hframe l.vcDest.number hnamed)
    rw [vcSerialMessageReceived_oversize hover (.inr hall)]
    exact linkFailures_vcBreakLink (hall ▸ hown)
  · intro hnot v hv
    refine congrArg Circuit.condition ?_
    rcases virtualCircuitList_vcSerialMessageReceived l i with hsame | ⟨hover,hdest,hbreak⟩
    · rw [hsame]
    rw [hbreak]
    rcases hdest with hvalid | hall
    · refine vcBreakLink_other fun h => hv ?_
      rw [named_of_valid hvalid,h]
    · have hown : l.port.myVc = .ofNumber l.vcDest.number := by
        by_contra hown
        exact hnot ⟨hover,hall,hall ▸ hown⟩
      rw [vcBreakLink_own (by exact hown)]
      rfl

/-- A broadcast of 254 bytes at the head of radioTxBuffer, and circuit 31 is
connected. -/
def broadcastAtHead : Links where
  port :=
    { serialReceiveBuffer := ⟨fun _ => 0,0,0⟩
      radioTxBuffer := ⟨fun k => if k.val = 0 then 254 else 0xFF,254,0⟩
      commandBuffer := []
      myVc := 1
      payloads := [] }
  virtualCircuitList _ := ⟨{ VirtualCircuit.garbage with valid := true, vcState := .connected },0⟩
  vcConnecting := 0
  ackTimer := false
  txDestVc := 0
  linkFailures := 0
  written := []

theorem oversize_broadcast_breaks_link :
    broadcastAtHead.vcDest = vcBroadcast ∧
      (broadcastAtHead.virtualCircuitList 31).vcState = .connected ∧
      ((broadcastAtHead.vcSerialMessageReceived ⟨false,250,[]⟩).1.virtualCircuitList 31).vcState =
        .linkDown ∧
      ¬broadcastAtHead.OnlyNamedAffected ⟨false,250,[]⟩ := by
  refine ⟨by decide +kernel,rfl,by decide +kernel,fun h => ?_⟩
  have hnamed : broadcastAtHead.named ≠ some 31 := by decide +kernel
  have hstate := congrArg Prod.fst (h 31 hnamed)
  revert hstate
  decide +kernel

end Links

end LoRaSerial.VcSerial
