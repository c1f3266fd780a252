import LoRaSerial.P2P.Radio
import LoRaSerial.VC.Circuit

namespace LoRaSerial.VC
open P2P (Damage StartTransmit millisBytes)

/-- The virtual circuit states of updateRadioState. -/
inductive RadioState where
  | reset | waitServer | waitTxDone | waitReceive
  deriving DecidableEq, Repr

/-- What a pointer or an index into virtualCircuitList refers to: the entry at
an index, no entry because the pointer is NULL, or whatever a local variable
that nothing has set points at. -/
inductive Access where
  | entry (index : Int)
  | null
  | uninitialised
  deriving DecidableEq, Repr

/-- What the host sees of its messages: a frame for which the ACK timer was
started, its DATA_ACK, the break of a circuit, PC_DATA_ACK or PC_DATA_NACK, and
the PC_DATA_NACK of a message discarded before it was sent. -/
inductive Action where
  | started (f : Frame)
  | acknowledged (srcVc : VcAddress)
  | broken (v : Fin maxVc)
  | report (msgDestVc : VcAddress) (ack : Bool)
  | refused (v : Fin maxVc)
  deriving DecidableEq, Repr

/-- txControl, the datagram in outgoingPacket and frameSentCount; the same
three are saved as rexmtControl, rexmtBuffer and rexmtFrameSentCount. -/
structure TxBuffer where
  frame : Frame
  frameSentCount : UInt8
  deriving DecidableEq, Repr

/-- The state of one radio. `unsent` holds the bytes between the start of the
data and endOfTxData when a pass left a message there. The last four fields are
history: the uses of virtualCircuitList and the host reports, newest first, the
frames whose data went to serialTransmitBuffer, and those put on the air. -/
structure Radio where
  myUniqueId : List UInt8
  radioState : RadioState
  atLinkCheck : Bool
  myVc : VcAddress
  virtualCircuitList : Fin maxVc → VirtualCircuit
  vcConnecting : BitVec 32
  ackTimer : Bool
  txDestVc : VcAddress
  rexmtTxDestVc : VcAddress
  rxSrcVc : VcAddress
  rmtCmdVc : VcAddress
  cmdVc : Fin maxVc
  tx : TxBuffer
  rexmt : TxBuffer
  unsent : Option Datagram
  radioTxBuffer : List Datagram
  printToRf : Bool
  datagramsSent : Nat
  accesses : List Access
  history : List Action
  delivered : List Frame
  onAir : List Frame

/-- The commands that act on the circuits: ATC, ATB, a command that ends in
RADIO_RESET, AT-CmdVC, and all others. -/
inductive Command where
  | connect | breakLinks | reset | setCmdVc (v : Fin maxVc) | other
  deriving DecidableEq, Repr

/-- What one pass reads from the settings, the timers, the receiver and the
command buffers. -/
structure Inputs where
  server : Bool
  maxResends : UInt8
  maxDatagramSize : Nat
  currentMillis : BitVec 32
  transmit : StartTransmit
  receiveInProcess : Bool
  heartbeatTimeout : Bool
  retransmitTimeout : Bool
  handshakeTimeout : Bool
  /-- readyOutgoingCommandPacket, when command bytes are available. -/
  commandPacket : Option (List UInt8)
  /-- What a received or local remote command does. -/
  command : Command
  /-- What lies in outgoingPacket behind the bytes this model tracks. -/
  residue : Nat → UInt8
  space : FreeSpace

/-- What lies behind transactionComplete. -/
inductive Reception where
  | frame (f : Frame)
  | damaged (d : Damage)
  deriving DecidableEq, Repr

def Radio.touch (r : Radio) (a : Access) : Radio := { r with accesses := a :: r.accesses }

def Radio.log (r : Radio) (a : Action) : Radio := { r with history := a :: r.history }

/-- `virtualCircuitList[a]`. -/
def Radio.circuit (r : Radio) (a : VcAddress) : VirtualCircuit :=
  match a.index with
  | some v => r.virtualCircuitList v
  | none => .garbage

def Radio.setCircuit (r : Radio) (a : VcAddress) (vc : VirtualCircuit) : Radio :=
  match a.index with
  | some v => { r with virtualCircuitList := Function.update r.virtualCircuitList v vc }
  | none => r

def Radio.setNumbers (r : Radio) (a : VcAddress) (numbers : AckNumbers) : Radio :=
  r.setCircuit a { r.circuit a with numbers }

def Radio.changeState (r : Radio) (s : RadioState) : Radio := { r with radioState := s }

def Radio.setMyVc (r : Radio) (a : VcAddress) : Radio := { r with myVc := a }

def Radio.setTxDestVc (r : Radio) (a : VcAddress) : Radio := { r with txDestVc := a }

def Radio.setRxSrcVc (r : Radio) (a : VcAddress) : Radio := { r with rxSrcVc := a }

def Radio.setRmtCmdVc (r : Radio) (a : VcAddress) : Radio := { r with rmtCmdVc := a }

def Radio.setVcConnecting (r : Radio) (mask : BitVec 32) : Radio := { r with vcConnecting := mask }

def Radio.setPrintToRf (r : Radio) (b : Bool) : Radio := { r with printToRf := b }

def Radio.setUnsent (r : Radio) (m : Option Datagram) : Radio := { r with unsent := m }

def Radio.setRadioTxBuffer (r : Radio) (ms : List Datagram) : Radio :=
  { r with radioTxBuffer := ms }

/-- START_ACK_TIMER, SAVE_TX_BUFFER and rexmtTxDestVc close every branch that
sends a new numbered frame, whether the transmission started or not. -/
def Radio.awaitAck (r : Radio) : Radio :=
  { r with ackTimer := true, rexmt := r.tx, rexmtTxDestVc := r.txDestVc }.log
    (.started r.tx.frame)

/-- START_ACK_TIMER; the source keeps the value non-zero while it runs. -/
def Radio.startAckTimer (r : Radio) : Radio := { r with ackTimer := true }

/-- Count a retransmission, then RESTORE_TX_BUFFER. -/
def Radio.restoreTxBuffer (r : Radio) : Radio :=
  let rexmt := { r.rexmt with frameSentCount := r.rexmt.frameSentCount + 1 }
  { r with rexmt, tx := rexmt }

/-- STOP_ACK_TIMER. -/
def Radio.stopAckTimer (r : Radio) : Radio := { r with ackTimer := false }

/-- Notify the PC. During a remote command prints go to the RF link. -/
def vcSendPcAckNack (r : Radio) (vcIndex : VcAddress) (ackMsg : Bool) : Radio :=
  if r.printToRf then r else r.log (.report vcIndex ackMsg)

/-- Whether vcChangeState counts a circuit among the connecting ones. -/
def VirtualCircuit.connecting (vc : VirtualCircuit) : Bool :=
  (VcState.linkAlive.code < vc.vcState.code && vc.vcState.code < VcState.connected.code) ||
    (vc.wasConnected && vc.vcState == .linkAlive)

def vcChangeState (r : Radio) (vcIndex : VcAddress) (state : VcState) : Radio :=
  let r := r.touch (.entry vcIndex.toInt)
  if state ≠ (r.circuit vcIndex).vcState then
    let vc := { r.circuit vcIndex with vcState := state }
    let vcBit := (1 : BitVec 32) <<< vcIndex.toNat
    (r.setCircuit vcIndex
      { vc with wasConnected := vc.wasConnected && state != .connected }).setVcConnecting
        (if vc.connecting then r.vcConnecting ||| vcBit else r.vcConnecting &&& ~~~vcBit)
  else r

/-- Break the virtual-circuit link. -/
def vcBreakLink (r : Radio) (vcIndex : VcAddress) : Radio :=
  if minRxNotAllowed.toNat ≤ vcIndex.toNat then r
  else
    let v := vcIndex.number
    let a := VcAddress.ofNumber v
    let r := r.log (.broken v)
    let r := if r.ackTimer ∧ r.txDestVc = a then vcSendPcAckNack r.stopAckTimer a false else r
    if a = r.myVc then (r.setRadioTxBuffer []).setUnsent none
    else vcChangeState r a .linkDown

/-- Place the circuit in the alive state since its heartbeats arrive. -/
def vcLinkAlive (r : Radio) (v : Fin maxVc) : Radio :=
  if (r.virtualCircuitList v).vcState = .linkDown then vcChangeState r (.ofNumber v) .linkAlive
  else r

def vcZeroAcks (r : Radio) (vcIndex : VcAddress) : Radio :=
  (r.touch (.entry vcIndex.toInt)).setNumbers vcIndex .zero

/-- Translate a unique ID into a circuit number; `none` is a negative result.
The pointer the source forms from the received address before it knows that
the address is assigned is never followed. -/
def vcIdToAddressByte (r : Radio) (srcAddr : VcAddress) (id : List UInt8) (server : Bool) :
    Radio × Option (Fin maxVc) :=
  match (List.finRange maxVc).find? fun v =>
      (r.virtualCircuitList v).valid && (r.virtualCircuitList v).uniqueId == id with
  | some v => (vcLinkAlive r v,some v)
  | none =>
    if srcAddr = vcUnassigned ∧ server = false then (r,none)
    else
      match if srcAddr = vcUnassigned then
          (List.finRange maxVc).find? fun v => !(r.virtualCircuitList v).valid
        else srcAddr.index with
      | none => (r,none)
      | some v =>
        if (r.virtualCircuitList v).valid then (r,none)
        else
          let vc := { r.virtualCircuitList v with uniqueId := id, valid := true }
          (vcLinkAlive (r.setCircuit (.ofNumber v) vc) v,some v)

/-- A datagram written at endOfTxData: behind what was left there. -/
def Radio.atEnd (r : Radio) (d : Datagram) : Datagram :=
  match r.unsent with
  | none => d
  | some m => { m with data := m.data ++ d.bytes }

/-- A datagram written at the start of the data while endOfTxData still counts
what was left there. -/
def Radio.atFront (r : Radio) (d : Datagram) (i : Inputs) : Datagram :=
  match r.unsent with
  | none => d
  | some m =>
    let behind := m.bytes.drop d.bytes.length
    { d with data := d.data ++
        (List.range m.bytes.length).map fun k => behind.getD k (i.residue k) }

/-- The circuit behind the destination is down, so nothing is transmitted. -/
def Radio.destinationDown (r : Radio) : Bool :=
  r.txDestVc != vcBroadcast && r.txDestVc != vcUnassigned &&
    (r.virtualCircuitList r.txDestVc.number).vcState == .linkDown

def Radio.startTransmit (r : Radio) (transmit : StartTransmit) : Radio :=
  { r with
    onAir := if transmit.onAir then r.onAir ++ [r.tx.frame] else r.onAir
    tx := if transmit = .sent then
        { r.tx with frameSentCount := r.tx.frameSentCount + 1 }
      else r.tx }

def retransmitDatagram (r : Radio) (i : Inputs) : Radio × Bool :=
  let r := r.touch (.entry r.txDestVc.number)
  if r.destinationDown then (r,false) else (r.startTransmit i.transmit,i.transmit.result)

/-- The pointer transmitDatagram takes its numbers through. -/
def Datagram.pointer (d : Datagram) : Access :=
  if d.destVc.toNat ≤ maxVc then .entry d.destVc.toInt else .null

/-- The frame transmitDatagram builds. -/
def Radio.builtFrame (r : Radio) (datagramType : DatagramType) (d : Datagram) : Frame where
  control := { r.tx.frame.control with
    datagramType
    ackNumber := selectAckNumber (r.circuit d.destVc).numbers datagramType
    requestYield := datagramType == .dataAck && !r.radioTxBuffer.isEmpty }
  datagram := d
  serial := r.datagramsSent

def Radio.load (r : Radio) (f : Frame) : Radio :=
  { r with
    txDestVc := f.datagram.destVc
    tx := ⟨f,0⟩
    unsent := none
    datagramsSent := r.datagramsSent + 1 }

def transmitDatagram (r : Radio) (datagramType : DatagramType) (d : Datagram) (i : Inputs) :
    Radio × Bool :=
  retransmitDatagram ((r.touch d.pointer).load (r.builtFrame datagramType d)) i

def xmitVcDatagram (r : Radio) (d : Datagram) (i : Inputs) : Radio × Bool :=
  transmitDatagram r .datagram d i

def xmitVcHeartbeat (r : Radio) (addr : VcAddress) (id : List UInt8) (i : Inputs) :
    Radio × Bool :=
  transmitDatagram r .vcHeartbeat
    (r.atEnd (.build vcBroadcast addr (id ++ millisBytes i.currentMillis))) i

def xmitVcAckFrame (r : Radio) (destVc : VcAddress) (i : Inputs) : Radio × Bool :=
  transmitDatagram r .dataAck (r.atEnd (.build destVc r.myVc [])) i

def xmitVcUnknownAcks (r : Radio) (destVc : VcAddress) (i : Inputs) : Radio × Bool :=
  transmitDatagram r .vcUnknownAcks (r.atEnd (.build destVc r.myVc [])) i

def xmitVcSyncAcks (r : Radio) (destVc : VcAddress) (i : Inputs) : Radio × Bool :=
  transmitDatagram r .vcSyncAcks (r.atEnd (.build destVc r.myVc [])) i

def xmitVcZeroAcks (r : Radio) (destVc : VcAddress) (i : Inputs) : Radio × Bool :=
  transmitDatagram r .vcZeroAcks (r.atEnd (.build destVc r.myVc [])) i

def xmitDatagramP2PData (r : Radio) (d : Datagram) (i : Inputs) : Radio × Bool :=
  transmitDatagram r .data d i

def xmitDatagramP2PCommand (r : Radio) (d : Datagram) (i : Inputs) : Radio × Bool :=
  transmitDatagram r .remoteCommand d i

def xmitDatagramP2PCommandResponse (r : Radio) (d : Datagram) (i : Inputs) : Radio × Bool :=
  transmitDatagram r .remoteCommandResponse d i

/-- The common tail of the transmit branches: change state when it started. -/
def enter (x : Radio × Bool) (s : RadioState) : Radio :=
  if x.2 then x.1.changeState s else x.1

def Radio.setIgnoreFrame (r : Radio) (ignoreFrame : Bool) : Radio :=
  { r with tx := { r.tx with frame := { r.tx.frame with
    control := { r.tx.frame.control with ignoreFrame } } } }

/-- getTxTime transmits a frame that every receiver discards. -/
def getTxTime (r : Radio) (i : Inputs) : Radio :=
  (xmitVcHeartbeat (r.setIgnoreFrame true) vcIgnoreTx r.myUniqueId i).1.setIgnoreFrame false

/-- ATB: break every link and reset the radio. -/
def breakLinks (r : Radio) : Radio :=
  ((List.finRange maxVc).foldl (fun r v =>
    if (r.virtualCircuitList v).vcState ≠ .linkDown ∧ VcAddress.ofNumber v ≠ r.myVc then
      vcBreakLink r (.ofNumber v)
    else r) r).changeState .reset

def checkCommand (r : Radio) : Command → Radio
  | .connect =>
    if (r.virtualCircuitList r.cmdVc).vcState ≠ .linkAlive then r
    else vcChangeState r (.ofNumber r.cmdVc)
      (if VcAddress.ofNumber r.cmdVc = r.myVc then .connected else .sendUnknownAcks)
  | .breakLinks => breakLinks r
  | .reset => r.changeState .reset
  | .setCmdVc v => { r with cmdVc := v }
  | .other => r

/-- A command whose prints go to the RF link. -/
def checkRemoteCommand (r : Radio) (c : Command) : Radio :=
  (checkCommand (r.setPrintToRf true) c).setPrintToRf false

/-- The result of rcvDatagram, with an accepted DATA_ACK noted. -/
def Radio.accepted (r : Radio) (p : PacketType) : Radio × PacketType :=
  (if p = .datagram .dataAck then r.log (.acknowledged r.rxSrcVc) else r,p)

/-- The pointer rcvDatagram takes to the source's entry, NULL without address. -/
def Radio.findVc (r : Radio) (srcVc : VcAddress) : Radio :=
  if srcVc = vcUnassigned then r else r.touch (.entry srcVc.toInt)

def rcvDatagram (r : Radio) (packet : Reception) (i : Inputs) : Radio × PacketType :=
  match packet with
  | .damaged d => (r,d.packetType)
  | .frame f =>
    if f.control.ignoreFrame then (r,.bad)
    else
      let r := r.setRxSrcVc f.datagram.srcVc
      if f.datagram.srcVc ≠ vcUnassigned ∧ maxVc ≤ f.datagram.srcVc.toNat then (r,.bad)
      else
        let r := r.findVc f.datagram.srcVc
        if f.datagram.length.toNat ≠ f.rxDataBytes then (r,.bad)
        else if f.datagram.destVc ≠ vcBroadcast ∧ f.datagram.destVc ≠ r.myVc then (r,.notMine)
        else if f.datagram.srcVc = vcUnassigned then
          r.accepted (.datagram f.control.datagramType)
        else
          let q := rcvNumber true (r.circuit f.datagram.srcVc).numbers f.control
            f.rxDataBytes i.space
          (r.setNumbers f.datagram.srcVc q.1).accepted q.2

def Reception.data : Reception → List UInt8
  | .frame f => f.datagram.data
  | .damaged _ => []

/-- The frames whose data a reception moves to serialTransmitBuffer. -/
def Reception.frames : Reception → List Frame
  | .frame f => [f]
  | .damaged _ => []

def Radio.deliver (r : Radio) (p : Reception) : Radio :=
  { r with delivered := r.delivered ++ p.frames }

def Radio.refresh (r : Radio) (a : VcAddress) (i : Inputs) : Radio :=
  (r.touch (.entry a.toInt)).setCircuit a
    { r.circuit a with lastTrafficMillis := i.currentMillis }

/-- Indicate receive traffic from this circuit. -/
def Radio.hear (r : Radio) (i : Inputs) : Radio :=
  if r.rxSrcVc.toNat < minRxNotAllowed.toNat then r.refresh (.ofNumber r.rxSrcVc.number) i else r

/-- Save our address. -/
def Radio.saveMyVc (r : Radio) (id : List UInt8) : Radio :=
  if r.myVc = vcUnassigned ∧ r.myUniqueId = id then r.setMyVc r.rxSrcVc else r

/-- UNIQUE_ID_BYTES at the start of a heartbeat. -/
def heartbeatId (data : List UInt8) : List UInt8 := data.take 16

def vcReceiveHeartbeat (r : Radio) (data : List UInt8) (i : Inputs) : Radio :=
  let id := heartbeatId data
  let r := r.saveMyVc id
  match vcIdToAddressByte r r.rxSrcVc id i.server with
  | (r,none) => r
  | (r,some v) =>
    if i.server ∧ r.rxSrcVc = vcUnassigned then
      enter (xmitVcHeartbeat r (.ofNumber v) id i) .waitTxDone
    else r

/-- discardPreviousData, selectHeaderAndTrailerBytes and the cleared control
byte. -/
def Radio.clear (r : Radio) : Radio :=
  { r.stopAckTimer with
    radioTxBuffer := []
    unsent := none
    tx := { r.tx with frame := { r.tx.frame with control := ⟨.findPartner,0,false,false⟩ } } }

/-- The server reserves its address, a client does not know its own. -/
def selectMyVc (r : Radio) (server : Bool) : Radio :=
  if server then
    let q := vcIdToAddressByte r vcServer r.myUniqueId server
    q.1.setMyVc ((q.2.map VcAddress.ofNumber).getD vcUnassigned)
  else r.setMyVc vcUnassigned

/-- RADIO_RESET. -/
def resetPass (r : Radio) (i : Inputs) : Radio :=
  let r := selectMyVc (getTxTime r.clear i) i.server
  (xmitVcHeartbeat r r.myVc r.myUniqueId i).1.changeState .waitTxDone

/-- RADIO_VC_WAIT_SERVER. -/
def waitServerPass (r : Radio) (packet : Option Reception) (i : Inputs) : Radio :=
  if r.myVc = vcServer then r.changeState .waitReceive
  else
    match packet with
    | none => r
    | some p =>
      match rcvDatagram r p i with
      | (r,.datagram .vcHeartbeat) =>
        if r.rxSrcVc = vcServer then
          (vcReceiveHeartbeat (r.refresh vcServer i) p.data i).changeState .waitReceive
        else r
      | (r,_) => r

/-- RADIO_VC_WAIT_TX_DONE. -/
def waitTxDonePass (r : Radio) (packet : Option Reception) : Radio :=
  if packet.isSome then
    (r.touch (.entry vcServer.toInt)).changeState
      (if (r.circuit vcServer).vcState = .linkDown then .waitServer else .waitReceive)
  else r

/-- RADIO_VC_WAIT_RECEIVE, a received datagram. -/
def waitReceiveFrame (r : Radio) (p : Reception) (i : Inputs) : Radio :=
  let q := rcvDatagram r p i
  let r := q.1.hear i
  match q.2 with
  | .datagram .vcHeartbeat => vcReceiveHeartbeat r p.data i
  | .datagram .data => enter (xmitVcAckFrame (r.deliver p) r.rxSrcVc i) .waitTxDone
  | .datagram .datagram => r.deliver p
  | .datagram .dataAck => (vcSendPcAckNack r r.rexmtTxDestVc true).stopAckTimer
  | .duplicate => enter (xmitVcAckFrame r r.rxSrcVc i) .waitTxDone
  | .datagram .vcUnknownAcks =>
    let r := enter (xmitVcSyncAcks r r.rxSrcVc i) .waitTxDone
    (vcChangeState r r.rxSrcVc .waitZeroAcks).touch (.entry r.rxSrcVc.toInt)
  | .datagram .vcSyncAcks =>
    let x := xmitVcZeroAcks r r.rxSrcVc i
    if x.2 then
      vcChangeState (vcZeroAcks (x.1.changeState .waitTxDone) r.rxSrcVc) r.rxSrcVc .connected
    else x.1
  | .datagram .vcZeroAcks => vcChangeState (vcZeroAcks r r.rxSrcVc) r.rxSrcVc .connected
  | .datagram .remoteCommand =>
    checkRemoteCommand
      (enter (xmitVcAckFrame (r.setRmtCmdVc r.rxSrcVc) r.rxSrcVc i) .waitTxDone) i.command
  | .datagram .remoteCommandResponse => enter (xmitVcAckFrame r r.rxSrcVc i) .waitTxDone
  | _ => r

/-- Priority 2: an outstanding ACK. -/
def waitReceiveRetransmit (r : Radio) (i : Inputs) : Radio :=
  let r := (r.setTxDestVc r.rexmtTxDestVc).touch (.entry r.rexmtTxDestVc.number)
  if r.txDestVc ≠ vcBroadcast ∧
      (r.virtualCircuitList r.txDestVc.number).vcState = .linkDown then r.stopAckTimer
  else if i.retransmitTimeout then
    if i.maxResends = 0 ∨ r.rexmt.frameSentCount < i.maxResends then
      let r := if r.txDestVc.toNat ≤ maxVc then r.touch (.entry r.txDestVc.toInt) else r
      (enter (retransmitDatagram r.restoreTxBuffer i) .waitTxDone).startAckTimer
    else vcBreakLink (r.touch .uninitialised) r.txDestVc
  else r

/-- Priority 4: the first circuit that walks through the 3-way handshake. -/
def waitReceiveHandshake (r : Radio) (i : Inputs) : Radio :=
  match (List.finRange maxVc).find? fun v : Fin maxVc => r.vcConnecting.getLsbD v.val with
  | none => r
  | some v =>
    let a := VcAddress.ofNumber v
    let r := r.touch (.entry v.val)
    let state := (r.virtualCircuitList v).vcState
    if state.code ≤ VcState.sendUnknownAcks.code then
      let x := xmitVcUnknownAcks r a i
      if x.2 then (vcChangeState x.1 a .waitSyncAcks).changeState .waitTxDone else x.1
    else if state = .waitSyncAcks ∧ i.handshakeTimeout then
      enter (xmitVcUnknownAcks r a i) .waitTxDone
    else if state = .waitZeroAcks ∧ i.handshakeTimeout then
      enter (xmitVcSyncAcks r a i) .waitTxDone
    else r

/-- What is left behind the start of the data after `m` was written over it and
endOfTxData was moved back by the length of `m`. -/
def Datagram.over (m left : Datagram) : Datagram :=
  { m with data := (m.data ++ left.data.drop m.data.length).take left.data.length }

/-- Determine if received serial data may be sent to the remote system. -/
def vcSerialMessageReceived (r : Radio) (i : Inputs) : Radio × Option Datagram :=
  match r.radioTxBuffer with
  | [] => (r,none)
  | m :: rest =>
    let r := r.setRadioTxBuffer rest
    let v := m.destVc.number
    if minRxNotAllowed.toNat ≤ m.destVc.toNat ∧ m.destVc ≠ vcBroadcast then (r,none)
    else if i.maxDatagramSize < m.length.toNat then
      if minTxNotAllowed.toNat ≤ m.destVc.toNat ∧ m.destVc ≠ vcBroadcast then (r,none)
      else (vcBreakLink r (.ofNumber v),none)
    else
      let r := if m.destVc = vcBroadcast then r else r.touch (.entry v)
      if m.destVc ≠ vcBroadcast ∧
          (r.virtualCircuitList v).vcState.code < VcState.connected.code then
        (if m.destVc.toNat < minTxNotAllowed.toNat then r.log (.refused v) else r,none)
      else if m.destVc ≠ vcBroadcast ∧ VcAddress.ofNumber v = r.myVc ∧ m.destVc.channel = 0 then
        (r.setUnsent (r.unsent.map m.over),none)
      else (r,some m)

/-- The lowest priority: a message readied for transmission, by its channel. -/
def waitReceiveMessage (r : Radio) (m : Datagram) (i : Inputs) : Radio :=
  if m.destVc = vcBroadcast then
    enter (xmitVcDatagram r (r.atFront m i) i) .waitTxDone
  else if m.destVc.channel = 0 then
    (enter (xmitDatagramP2PData r (r.atFront m i) i) .waitTxDone).awaitAck
  else if m.destVc.channel = 1 then
    if VcAddress.ofNumber m.destVc.number = r.myVc then
      checkRemoteCommand (r.setUnsent none) i.command
    else
      let d := { r.atFront m i with destVc := .ofNumber m.destVc.number }
      (enter (xmitDatagramP2PCommand r d i) .waitTxDone).awaitAck
  else r.setUnsent (some (r.atFront m i))

/-- RADIO_VC_WAIT_RECEIVE, nothing received: the transmit priorities. -/
def waitReceiveTransmit (r : Radio) (i : Inputs) : Radio :=
  if i.heartbeatTimeout then
    let x := xmitVcHeartbeat r r.myVc r.myUniqueId i
    if x.2 then
      (if r.myVc.toNat < maxVc then x.1.refresh r.myVc i else x.1).changeState .waitTxDone
    else x.1
  else if r.ackTimer then waitReceiveRetransmit r i
  else
    match i.commandPacket with
    | some packet =>
      let d := Datagram.build r.rmtCmdVc r.myVc packet
      (enter (xmitDatagramP2PCommandResponse r (r.atFront d i) i) .waitTxDone).awaitAck
    | none =>
      if r.vcConnecting ≠ 0 then waitReceiveHandshake r i
      else
        match vcSerialMessageReceived r i with
        | (r,some m) => waitReceiveMessage r m i
        | (r,none) => r

def Radio.setAtLinkCheck (r : Radio) (b : Bool) : Radio := { r with atLinkCheck := b }

/-- RADIO_VC_WAIT_RECEIVE up to its closing link check. -/
def waitReceivePass (r : Radio) (packet : Option Reception) (i : Inputs) : Radio :=
  (match packet with
    | some p => waitReceiveFrame r p i
    | none => if i.receiveInProcess then r else waitReceiveTransmit r i).setAtLinkCheck true

/-- Check for link timeout. The loop carries serverLinkBroken; `linkBreakMillis`
is LINK_BREAK_MULTIPLIER * settings.heartbeatTimeout. -/
def linkCheckIndex (currentMillis linkBreakMillis : BitVec 32) (q : Radio × Bool)
    (v : Fin maxVc) : Radio × Bool :=
  if VcAddress.ofNumber v = q.1.myVc then q
  else
    let r := q.1.touch (.entry v)
    let vc := r.virtualCircuitList v
    if vc.vcState ≠ .linkDown ∧
        (q.2 ∨ linkBreakMillis < currentMillis - vc.lastTrafficMillis) then
      if v.val = 0 then (vcBreakLink (r.changeState .waitServer) (.ofNumber v),true)
      else (vcBreakLink r (.ofNumber v),q.2)
    else (r,q.2)

def linkCheck (r : Radio) (currentMillis linkBreakMillis : BitVec 32) : Radio :=
  ((List.finRange maxVc).foldl (linkCheckIndex currentMillis linkBreakMillis) (r,false)).1

/-- updateRadioState up to the link check of RADIO_VC_WAIT_RECEIVE; `packet` is
what lies behind transactionComplete. -/
def updateRadioState (r : Radio) (packet : Option Reception) (i : Inputs) : Radio :=
  match r.radioState with
  | .reset => resetPass r i
  | .waitServer => waitServerPass r packet i
  | .waitTxDone => waitTxDonePass r packet
  | .waitReceive => waitReceivePass r packet i

/-- vcProcessSerialInput, a message for the radio link. -/
def hostMessage (r : Radio) (destVc srcVc : VcAddress) (data : List UInt8) : Radio :=
  if srcVc ≠ r.myVc ∨ r.myVc = vcUnassigned then r
  else if minTxNotAllowed.toNat ≤ destVc.toNat ∧ destVc.slt vcBroadcast then r
  else r.setRadioTxBuffer (r.radioTxBuffer ++ [.build destVc srcVc data])

/-- A pass up to its link check, the link check, a command or a message from
the host. A host message has one to 252 bytes behind its header. -/
inductive Event where
  | pass (packet : Option Reception) (i : Inputs)
  | linkCheck (currentMillis linkBreakMillis : BitVec 32)
  | command (c : Command)
  | hostMessage (destVc srcVc : VcAddress) (data : List UInt8)

/-- A pass that has come to its link check continues with it. -/
def step (r : Radio) (e : Event) : Radio :=
  match e,r.atLinkCheck with
  | .linkCheck currentMillis linkBreakMillis,true =>
    (linkCheck r currentMillis linkBreakMillis).setAtLinkCheck false
  | .pass packet i,false => updateRadioState r packet i
  | .command c,false => checkCommand r c
  | .hostMessage destVc srcVc data,false =>
    if 0 < data.length ∧ data.length ≤ 252 then hostMessage r destVc srcVc data else r
  | _,_ => r

/-- A powered-up radio without known circuits, and a pass for which nothing is
due. -/
def Radio.powerUp : Radio where
  myUniqueId := List.replicate 16 0xA0
  radioState := .reset
  atLinkCheck := false
  myVc := 0
  virtualCircuitList _ := .garbage
  vcConnecting := 0
  ackTimer := false
  txDestVc := 0
  rexmtTxDestVc := 0
  rxSrcVc := 0
  rmtCmdVc := 0
  cmdVc := 0
  tx := ⟨⟨⟨.findPartner,0,false,false⟩,⟨0,0,0,[]⟩,0⟩,0⟩
  rexmt := ⟨⟨⟨.findPartner,0,false,false⟩,⟨0,0,0,[]⟩,0⟩,0⟩
  unsent := none
  radioTxBuffer := []
  printToRf := false
  datagramsSent := 0
  accesses := []
  history := []
  delivered := []
  onAir := []

def Inputs.idle : Inputs where
  server := true
  maxResends := 0
  maxDatagramSize := 250
  currentMillis := 0
  transmit := .sent
  receiveInProcess := false
  heartbeatTimeout := false
  retransmitTimeout := false
  handshakeTimeout := false
  commandPacket := none
  command := .other
  residue _ := 0
  space := ⟨100,4096,false⟩

end LoRaSerial.VC
