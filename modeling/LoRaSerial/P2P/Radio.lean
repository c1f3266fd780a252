import LoRaSerial.Datagram

namespace LoRaSerial.P2P

/-- The point-to-point states of updateRadioState. -/
inductive RadioState where
  | reset
  | linkDown | waitTxFindPartnerDone | waitSyncClocks
  | waitTxSyncClocksDone | waitZeroAcks | waitTxZeroAcksDone
  | linkUp | linkUpWaitTxDone
  deriving DecidableEq, Repr

/-- A datagram as rcvDatagram recovers it from the air. -/
structure Frame where
  control : Control
  payload : List UInt8
  deriving DecidableEq, Repr

/-- The checks before the number switch that a damaged frame can fail. -/
inductive Damage where
  | bad | crcError | netIdMismatch
  deriving DecidableEq, Repr

def Damage.packetType : Damage → PacketType
  | .bad => .bad
  | .crcError => .crcError
  | .netIdMismatch => .netIdMismatch

/-- What lies behind transactionComplete when the radio is receiving. -/
inductive Reception where
  | frame (f : Frame)
  | damaged (d : Damage)
  deriving DecidableEq, Repr

/-- How retransmitDatagram ends: given up for a receive in progress, sent, on
the air although a preamble was detected meanwhile, or refused by the radio. -/
inductive StartTransmit where
  | canceled | sent | preambleDetected | failed
  deriving DecidableEq, Repr

/-- The value retransmitDatagram returns. -/
def StartTransmit.result : StartTransmit → Bool
  | .sent | .failed => true
  | .canceled | .preambleDetected => false

def StartTransmit.onAir : StartTransmit → Bool
  | .sent | .preambleDetected => true
  | .canceled | .failed => false

/-- txControl, the datagram in outgoingPacket and frameSentCount; the same
three are saved as rexmtControl, rexmtBuffer and rexmtFrameSentCount. -/
structure TxBuffer where
  control : Control
  payload : List UInt8
  frameSentCount : UInt8
  deriving DecidableEq, Repr

def TxBuffer.frame (b : TxBuffer) : Frame := ⟨b.control,b.payload⟩

structure Radio where
  radioState : RadioState
  vc : AckNumbers
  ackTimer : Bool
  requestYield : Bool
  tx : TxBuffer
  rexmt : TxBuffer
  deriving DecidableEq, Repr

/-- What one pass of updateRadioState reads from the timers, the receiver and
the serial buffers. Each timer comparison is named after the timer it reads. -/
structure Inputs where
  millis : BitVec 32
  channelNumber : UInt8
  maxResends : UInt8
  transmit : StartTransmit
  receiveInProcess : Bool
  findPartnerTimeout : Bool
  handshakeTimeout : Bool
  heartbeatTimeout : Bool
  retransmitTimeout : Bool
  yieldTimeout : Bool
  linkTimeout : Bool
  remoteCommandResponse : Bool
  /-- readyOutgoingCommandPacket, when command bytes are available. -/
  commandPacket : Option (List UInt8)
  availableRadioTXBytes : Bool
  /-- readyOutgoingPacket, when processWaitingSerial decides to send. -/
  serialPacket : Option (List UInt8)
  space : FreeSpace
  deriving DecidableEq, Repr

/-- The bytes memcpy takes from a 32 bit millis value. -/
def millisBytes (n : BitVec 32) : List UInt8 :=
  [⟨n.extractLsb' 0 8⟩,⟨n.extractLsb' 8 8⟩,⟨n.extractLsb' 16 8⟩,⟨n.extractLsb' 24 8⟩]

/-- A transmit attempt: the radio after it, the returned value and the frame
that went on the air. -/
structure Xmit where
  radio : Radio
  started : Bool
  onAir : Option Frame
  deriving DecidableEq, Repr

def retransmitDatagram (r : Radio) (i : Inputs) : Xmit where
  radio :=
    if i.transmit = .sent then
      { r with tx := { r.tx with frameSentCount := r.tx.frameSentCount + 1 } }
    else r
  started := i.transmit.result
  onAir := if i.transmit.onAir then some r.tx.frame else none

def transmitDatagram (r : Radio) (datagramType : DatagramType) (payload : List UInt8)
    (i : Inputs) : Xmit :=
  let control := { r.tx.control with
    datagramType
    ackNumber := selectAckNumber r.vc datagramType
    requestYield := datagramType == .dataAck && i.availableRadioTXBytes }
  retransmitDatagram { r with tx := ⟨control,payload,0⟩ } i

def xmitDatagramP2PFindPartner (r : Radio) (i : Inputs) : Xmit :=
  transmitDatagram r .findPartner (millisBytes i.millis) i

def xmitDatagramP2PSyncClocks (r : Radio) (i : Inputs) : Xmit :=
  transmitDatagram r .syncClocks (i.channelNumber :: millisBytes i.millis) i

def xmitDatagramP2PZeroAcks (r : Radio) (i : Inputs) : Xmit :=
  transmitDatagram r .zeroAcks (millisBytes i.millis) i

def xmitDatagramP2PCommand (r : Radio) (packet : List UInt8) (i : Inputs) : Xmit :=
  transmitDatagram r .remoteCommand packet i

def xmitDatagramP2PCommandResponse (r : Radio) (packet : List UInt8) (i : Inputs) : Xmit :=
  transmitDatagram r .remoteCommandResponse packet i

def xmitDatagramP2PData (r : Radio) (packet : List UInt8) (i : Inputs) : Xmit :=
  transmitDatagram r .data packet i

def xmitDatagramP2PHeartbeat (r : Radio) (i : Inputs) : Xmit :=
  transmitDatagram r .heartbeat (millisBytes i.millis) i

def xmitDatagramP2PAck (r : Radio) (i : Inputs) : Xmit :=
  transmitDatagram r .dataAck (millisBytes i.millis) i

/-- SAVE_TX_BUFFER. -/
def Radio.saveTxBuffer (r : Radio) : Radio := { r with rexmt := r.tx }

/-- RESTORE_TX_BUFFER. -/
def Radio.restoreTxBuffer (r : Radio) : Radio := { r with tx := r.rexmt }

/-- START_ACK_TIMER; the source keeps the value non-zero while it runs. -/
def Radio.startAckTimer (r : Radio) : Radio := { r with ackTimer := true }

/-- STOP_ACK_TIMER. -/
def Radio.stopAckTimer (r : Radio) : Radio := { r with ackTimer := false }

/-- One pass of updateRadioState: the radio after it, the frame it put on the
air, the payloads it took from radioTxBuffer and moved to serialTransmitBuffer,
and whether it brought the link up. -/
structure Pass where
  radio : Radio
  onAir : Option Frame := none
  taken : List (List UInt8) := []
  delivered : List (List UInt8) := []
  linkUp : Bool := false
  deriving DecidableEq, Repr

/-- The common tail of the transmit branches: change state when it started. -/
def Xmit.enter (x : Xmit) (s : RadioState) : Pass where
  radio := if x.started then { x.radio with radioState := s } else x.radio
  onAir := x.onAir

def rcvDatagram (r : Radio) (packet : Reception) (i : Inputs) : Radio × PacketType :=
  match packet with
  | .damaged d => (r,d.packetType)
  | .frame f =>
    if f.control.ignoreFrame then (r,.bad)
    else
      match rcvNumber false r.vc f.control f.payload.length i.space with
      | (vc,.datagram t) => ({ r with vc, requestYield := f.control.requestYield },.datagram t)
      | (vc,p) => ({ r with vc },p)

def Reception.payload : Reception → List UInt8
  | .frame f => f.payload
  | .damaged _ => []

/-- breakLink: stop the ACK timer and reset the radio. -/
def breakLink (p : Pass) : Pass :=
  { p with radio := { p.radio.stopAckTimer with radioState := .reset } }

/-- enterLinkUp: zero the numbers, stop the ACK timer, change state. -/
def enterLinkUp (r : Radio) : Pass where
  radio := { r.stopAckTimer with vc := .zero, radioState := .linkUp }
  linkUp := true

/-- getTxTime transmits a frame that every receiver discards. -/
def getTxTime (xmit : Radio → Inputs → Xmit) (r : Radio) (i : Inputs) : Xmit :=
  let x := xmit
    { r with tx := { r.tx with control := { r.tx.control with ignoreFrame := true } } } i
  { x with radio := { x.radio with
      tx := { x.radio.tx with control := { x.radio.tx.control with ignoreFrame := false } } } }

/-- RADIO_RESET. The four timing frames follow each other on the air; only the
last can still be there when the pass ends. -/
def resetPass (r : Radio) (i : Inputs) : Pass :=
  let r := { r.stopAckTimer with tx := { r.tx with control := ⟨.findPartner,0,false,false⟩ } }
  let r := (getTxTime xmitDatagramP2PFindPartner r i).radio
  let r := (getTxTime xmitDatagramP2PSyncClocks r i).radio
  let r := (getTxTime xmitDatagramP2PHeartbeat r i).radio
  let x := getTxTime xmitDatagramP2PAck r i
  { radio := { x.radio with radioState := .linkDown }, onAir := x.onAir }

/-- RADIO_P2P_LINK_DOWN. -/
def linkDownPass (r : Radio) (packet : Option Reception) (i : Inputs) : Pass :=
  match packet with
  | some p =>
    match rcvDatagram r p i with
    | (r,.datagram .findPartner) =>
      (xmitDatagramP2PSyncClocks r i).enter .waitTxSyncClocksDone
    | (r,_) => { radio := r }
  | none =>
    if i.receiveInProcess = false ∧ i.findPartnerTimeout then
      (xmitDatagramP2PFindPartner r i).enter .waitTxFindPartnerDone
    else { radio := r }

/-- RADIO_P2P_WAIT_SYNC_CLOCKS. -/
def waitSyncClocksPass (r : Radio) (packet : Option Reception) (i : Inputs) : Pass :=
  match packet with
  | some p =>
    match rcvDatagram r p i with
    | (r,.datagram .findPartner) =>
      (xmitDatagramP2PSyncClocks r i).enter .waitTxSyncClocksDone
    | (r,.datagram .syncClocks) => (xmitDatagramP2PZeroAcks r i).enter .waitTxZeroAcksDone
    | (r,_) => { radio := r }
  | none => if i.handshakeTimeout then { radio := { r with radioState := .linkDown } }
            else { radio := r }

/-- RADIO_P2P_WAIT_ZERO_ACKS. -/
def waitZeroAcksPass (r : Radio) (packet : Option Reception) (i : Inputs) : Pass :=
  match packet with
  | some p =>
    match rcvDatagram r p i with
    | (r,.datagram .zeroAcks) => enterLinkUp r
    | (r,_) => { radio := r }
  | none => if i.handshakeTimeout then { radio := { r with radioState := .linkDown } }
            else { radio := r }

/-- P2P_SEND_ACK. -/
def p2pSendAck (r : Radio) (i : Inputs) : Pass :=
  (xmitDatagramP2PAck r i).enter .linkUpWaitTxDone

/-- RADIO_P2P_LINK_UP, a received datagram. -/
def linkUpReceive (r : Radio) (p : Reception) (i : Inputs) : Pass :=
  match rcvDatagram r p i with
  | (r,.datagram .findPartner) => breakLink { radio := r }
  | (r,.datagram .heartbeat) => p2pSendAck r i
  | (r,.datagram .data) => { p2pSendAck r i with delivered := [p.payload] }
  | (r,.duplicate) => p2pSendAck r i
  | (r,.datagram .dataAck) => { radio := r.stopAckTimer }
  | (r,.datagram .remoteCommand) => p2pSendAck r i
  | (r,.datagram .remoteCommandResponse) => p2pSendAck r i
  | (r,_) => { radio := r }

/-- SAVE_TX_BUFFER and START_ACK_TIMER close every branch that sends a new
numbered frame, whether the transmission started or not. -/
def Pass.awaitAck (p : Pass) : Pass :=
  { p with radio := p.radio.saveTxBuffer.startAckTimer }

/-- RADIO_P2P_LINK_UP, an outstanding ACK: retransmit, or give up on the link. -/
def linkUpRetransmit (r : Radio) (i : Inputs) : Pass :=
  if i.maxResends = 0 ∨ r.tx.frameSentCount < i.maxResends then
    let r := r.restoreTxBuffer
    let p :=
      if r.rexmt.control.datagramType = .heartbeat then
        (xmitDatagramP2PHeartbeat r i).enter .linkUpWaitTxDone
      else
        (retransmitDatagram r i).enter .linkUpWaitTxDone
    { p with radio := p.radio.startAckTimer }
  else breakLink { radio := r }

/-- RADIO_P2P_LINK_UP, nothing received: the transmit priorities. -/
def linkUpTransmit (r : Radio) (i : Inputs) : Pass :=
  if i.heartbeatTimeout then
    ((xmitDatagramP2PHeartbeat r i).enter .linkUpWaitTxDone).awaitAck
  else if r.ackTimer then
    if i.retransmitTimeout then linkUpRetransmit r i else { radio := r }
  else
    match i.commandPacket with
    | some packet =>
      ((if i.remoteCommandResponse then xmitDatagramP2PCommandResponse r packet i
        else xmitDatagramP2PCommand r packet i).enter .linkUpWaitTxDone).awaitAck
    | none =>
      if i.availableRadioTXBytes ∧ (r.requestYield = false ∨ i.yieldTimeout) then
        let r := { r with requestYield := false }
        match i.serialPacket with
        | some packet =>
          { ((xmitDatagramP2PData r packet i).enter .linkUpWaitTxDone).awaitAck with
            taken := [packet] }
        | none => { radio := r }
      else { radio := r }

/-- RADIO_P2P_LINK_UP. -/
def linkUpPass (r : Radio) (packet : Option Reception) (i : Inputs) : Pass :=
  let p :=
    match packet with
    | some p => linkUpReceive r p i
    | none => if i.receiveInProcess = false then linkUpTransmit r i else { radio := r }
  if i.linkTimeout then breakLink p else p

/-- A state that waits for the end of a transmission. -/
def waitTxDonePass (r : Radio) (packet : Option Reception) (next : RadioState) : Pass where
  radio := if packet.isSome then { r with radioState := next } else r

/-- One pass of updateRadioState in point-to-point mode; `packet` is what lies
behind transactionComplete. -/
def updateRadioState (r : Radio) (packet : Option Reception) (i : Inputs) : Pass :=
  match r.radioState with
  | .reset => resetPass r i
  | .linkDown => linkDownPass r packet i
  | .waitTxFindPartnerDone => waitTxDonePass r packet .waitSyncClocks
  | .waitSyncClocks => waitSyncClocksPass r packet i
  | .waitTxSyncClocksDone => waitTxDonePass r packet .waitZeroAcks
  | .waitZeroAcks => waitZeroAcksPass r packet i
  | .waitTxZeroAcksDone => if packet.isSome then enterLinkUp r else { radio := r }
  | .linkUp => linkUpPass r packet i
  | .linkUpWaitTxDone => waitTxDonePass r packet .linkUp

end LoRaSerial.P2P
