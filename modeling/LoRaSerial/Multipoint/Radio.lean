import LoRaSerial.HopTable
import LoRaSerial.Lib.Broadcast
import LoRaSerial.P2P.Radio
import LoRaSerial.Serial.Port

namespace LoRaSerial.Multipoint
open P2P (StartTransmit millisBytes)
open Serial (Port Turn)

/-- The multipoint states of updateRadioState, after RADIO_RESET. -/
inductive RadioState where
  | discoverBegin | discoverScanning | discoverWaitTxFindPartnerDone | discoverStandby
  | mpStandby | mpWaitTxDone
  deriving DecidableEq, Repr

structure Frame where
  datagramType : DatagramType
  payload : List UInt8
  deriving DecidableEq, Repr

/-- A radio in multipoint mode. `airTimeUsec` is the time of a frame, by its type
and the bytes of its payload, and `txDataAckUsec` what RADIO_RESET measured. The
last field is history: what serialBufferOutput got. -/
structure Radio where
  settings : Settings
  airTimeUsec : DatagramType → Nat → UInt32
  txDataAckUsec : UInt32
  frameAirTimeUsec : UInt32
  radioState : RadioState
  channelNumber : UInt8
  multipointChannelLoops : Nat
  port : Port
  delivered : List (List UInt8)

/-- What a pass reads from the timers and the receiver, and what transmitDatagram
returns. Each timer comparison is named after the timer it reads. The hops are
those due before the pass, in rcvDatagram and in transmitDatagram, and those
that syncChannelTimer makes. `staleByte` lies behind a payload of no bytes. -/
structure Inputs where
  millis : BitVec 32
  transmit : StartTransmit
  receiveInProcess : Bool
  passHop : Bool
  receiveHop : Bool
  transmitHop : Bool
  delayedHopCount : Fin 4
  staleByte : UInt8
  syncClocksTimeout : Bool
  heartbeatTimeout : Bool
  serialTimeout : Bool
  linkTimeout : Bool
  deriving DecidableEq, Repr

def Radio.changeState (r : Radio) (radioState : RadioState) : Radio := { r with radioState }

def Radio.tune (r : Radio) (channelNumber : UInt8) : Radio := { r with channelNumber }

/-- hopChannel, when the channel timer has expired. -/
def Radio.hop (r : Radio) (timeToHop : Bool) : Radio :=
  if timeToHop then r.tune (hopTarget true 1 r.channelNumber r.settings) else r

def Radio.hopChannelReverse (r : Radio) : Radio :=
  r.tune (hopTarget false 1 r.channelNumber r.settings)

/-- The hops that are missing when the channel timer is adjusted. -/
def Radio.syncChannelTimer (r : Radio) (delayedHopCount : Fin 4) : Radio :=
  if delayedHopCount.val = 0 then r
  else r.tune (hopTarget true (UInt8.ofNat delayedHopCount) r.channelNumber r.settings)

/-- Some more time for the answer to a frame: a quarter of its air time, in 16
bits. -/
def responseDelay (frameAirTimeUsec : UInt32) : UInt32 :=
  (frameAirTimeUsec / 4).toUInt16.toUInt32

/-- Calculate the air time of the frame, and start to transmit it. -/
def Radio.retransmitDatagram (r : Radio) (frameAirTimeUsec : UInt32) (i : Inputs) : Radio :=
  { r with
    frameAirTimeUsec :=
      if i.transmit.result then frameAirTimeUsec + responseDelay frameAirTimeUsec
      else frameAirTimeUsec }

/-- Transmit a datagram, which the current channel number may already be part
of, and change the state if that started. -/
def Radio.transmitDatagram (r : Radio) (datagramType : DatagramType) (payload : List UInt8)
    (i : Inputs) (next : RadioState) : Radio × List Frame :=
  let r := (r.hop i.transmitHop).retransmitDatagram (r.airTimeUsec datagramType payload.length) i
  (if i.transmit.result then r.changeState next else r,
    if i.transmit.onAir then [⟨datagramType,payload⟩] else [])

def xmitDatagramP2PFindPartner (r : Radio) (i : Inputs) (next : RadioState) : Radio × List Frame :=
  r.transmitDatagram .findPartner (millisBytes i.millis) i next

def xmitDatagramP2PSyncClocks (r : Radio) (i : Inputs) (next : RadioState) : Radio × List Frame :=
  r.transmitDatagram .syncClocks (r.channelNumber :: millisBytes i.millis) i next

def xmitDatagramMpHeartbeat (r : Radio) (i : Inputs) (next : RadioState) : Radio × List Frame :=
  r.transmitDatagram .heartbeat [r.channelNumber] i next

def xmitDatagramMpData (r : Radio) (packet : List UInt8) (i : Inputs) (next : RadioState) :
    Radio × List Frame :=
  r.transmitDatagram .data packet i next

/-- The time of a FIND_PARTNER and its answer. -/
def Radio.exchangeMsec (r : Radio) : UInt32 :=
  (r.frameAirTimeUsec + r.txDataAckUsec + r.settings.txToRxUsec) / 1000

/-- The loops through the channels that take 10 s. The source divides by a time
that is never zero. -/
def Radio.multipointMaxLoops (r : Radio) : Nat :=
  (10000 / (r.exchangeMsec * r.settings.numberOfChannels.toUInt32)).toNat

/-- RADIO_DISCOVER_BEGIN. -/
def discoverBeginPass (r : Radio) : Radio :=
  if r.settings.server then r.changeState .mpStandby
  else if r.settings.maxDwellTime.toUInt32 / 2 < r.exchangeMsec then
    (r.tune 0).changeState .discoverStandby
  else { r with multipointChannelLoops := 0 }.changeState .discoverScanning

/-- A client takes over the channel and the clock of the server. -/
def Radio.join (r : Radio) (rxData : List UInt8) (i : Inputs) : Radio :=
  ((((r.tune (rxData.headD i.staleByte)).syncChannelTimer i.delayedHopCount)).hop
    i.passHop).changeState .mpStandby

/-- Move to the previous channel in the table, and count the loops. -/
def Radio.previousChannel (r : Radio) : Radio :=
  let r := r.hopChannelReverse
  if r.channelNumber = 0 then { r with multipointChannelLoops := r.multipointChannelLoops + 1 }
  else r

/-- Return to channel 0, and wait for a heartbeat of the server. -/
def Radio.giveUp (r : Radio) : Radio :=
  (({ r with multipointChannelLoops := 0 }).tune 0).changeState .discoverStandby

/-- RADIO_DISCOVER_SCANNING, nothing received in time. The channel timer is
stopped. -/
def scanningTimeout (r : Radio) (i : Inputs) : Radio × List Frame :=
  let r := r.previousChannel
  if r.multipointMaxLoops ≤ r.multipointChannelLoops then (r.giveUp,[])
  else
    xmitDatagramP2PFindPartner r { i with transmitHop := false } .discoverWaitTxFindPartnerDone

/-- RADIO_DISCOVER_SCANNING. The channel timer is stopped. -/
def discoverScanningPass (r : Radio) (packet : Option (Option Frame)) (i : Inputs) :
    Radio × List Frame :=
  if r.settings.server then (r.changeState .mpStandby,[])
  else
    match packet with
    | some (some f) => (if f.datagramType = .syncClocks then r.join f.payload i else r,[])
    | some none => (r,[])
    | none =>
      if i.receiveInProcess = false ∧ i.syncClocksTimeout = true then scanningTimeout r i
      else (r,[])

/-- RADIO_DISCOVER_STANDBY. The channel timer is stopped. -/
def discoverStandbyPass (r : Radio) (packet : Option (Option Frame)) (i : Inputs) :
    Radio × List Frame :=
  match packet with
  | some (some f) =>
    (if f.datagramType = .heartbeat ∧ r.settings.server = false then r.join f.payload i else r,[])
  | _ => (r,[])

def Radio.maxDatagramSize (r : Radio) : UInt8 :=
  UInt8.ofNat (selectHeaderAndTrailerBytes r.settings).maxDatagramSize

/-- processWaitingSerial loads a packet: a full one, all that is there at once,
or what has waited long enough. -/
def Radio.packetReady (r : Radio) (i : Inputs) : Bool :=
  let dataBytes := r.port.radioTxBuffer.available
  dataBytes != 0 && (r.maxDatagramSize.toNat ≤ dataBytes || i.heartbeatTimeout || i.serialTimeout)

/-- The packet that readyOutgoingPacket loads. -/
def Radio.packet (r : Radio) : List UInt8 :=
  (r.port.radioTxBuffer.take (min r.port.radioTxBuffer.available r.maxDatagramSize.toNat)).1

def Radio.processWaitingSerial (r : Radio) (i : Inputs) : Radio :=
  { r with
    port := Serial.processWaitingSerial r.port i.heartbeatTimeout i.serialTimeout
      r.maxDatagramSize }

/-- RADIO_MP_STANDBY, a frame. -/
def mpReceive (r : Radio) (f : Frame) (i : Inputs) : Radio × List Frame :=
  match f.datagramType with
  | .findPartner =>
    if r.settings.server then xmitDatagramP2PSyncClocks r i .mpWaitTxDone else (r,[])
  | .heartbeat => (if r.settings.server then r else r.syncChannelTimer i.delayedHopCount,[])
  | .data => ({ r with delivered := r.delivered ++ [f.payload] },[])
  | _ => (r,[])

/-- RADIO_MP_STANDBY, nothing received: the server's heartbeat, serial data, or
the client's return to scanning. -/
def mpTransmit (r : Radio) (i : Inputs) : Radio × List Frame :=
  if r.settings.server = true ∧ i.heartbeatTimeout = true then
    xmitDatagramMpHeartbeat r i .mpWaitTxDone
  else if r.packetReady i then
    xmitDatagramMpData (r.processWaitingSerial i) r.packet i .mpWaitTxDone
  else if r.settings.server = false ∧ i.linkTimeout = true then
    (r.changeState .discoverBegin,[])
  else (r,[])

/-- RADIO_MP_STANDBY. -/
def mpStandbyPass (r : Radio) (packet : Option (Option Frame)) (i : Inputs) :
    Radio × List Frame :=
  let r := r.hop i.passHop
  match packet with
  | some (some f) => mpReceive (r.hop i.receiveHop) f i
  | some none => (r.hop i.receiveHop,[])
  | none => if i.receiveInProcess = false then mpTransmit r i else (r,[])

/-- One pass of updateRadioState in multipoint mode. `packet` is what lies behind
transactionComplete: a frame, or a packet that is none. -/
def updateRadioState (r : Radio) (packet : Option (Option Frame)) (i : Inputs) :
    Radio × List Frame :=
  match r.radioState with
  | .discoverBegin => (discoverBeginPass r,[])
  | .discoverScanning => discoverScanningPass r packet i
  | .discoverWaitTxFindPartnerDone =>
    (if packet.isSome then r.changeState .discoverScanning else r,[])
  | .discoverStandby => discoverStandbyPass r packet i
  | .mpStandby => mpStandbyPass r packet i
  | .mpWaitTxDone =>
    let r := r.hop i.passHop
    (if packet.isSome then r.changeState .mpStandby else r,[])

/-- A pass, with or without transactionComplete, or what the serial input of the
radio does. -/
inductive Event where
  | pass (transactionComplete : Bool) (i : Inputs)
  | updateSerial (incoming : List UInt8) (turns : List Turn) (millis : BitVec 32)

/-- A radio's step, given the frame it may find behind transactionComplete. -/
def handle (r : Radio) (heard : Option Frame) : Event → Radio × List Frame
  | .pass transactionComplete i =>
    updateRadioState r (if transactionComplete then some heard else none) i
  | .updateSerial incoming turns millis =>
    ({ r with port := Serial.updateSerial r.port incoming turns millis },[])

abbrev Network (ι : Type*) := Broadcast.Network ι Radio Frame
abbrev NetworkEvent (ι : Type*) := Broadcast.Event ι Event

abbrev step {ι : Type*} [DecidableEq ι] : Network ι → NetworkEvent ι → Network ι :=
  Broadcast.step handle

end LoRaSerial.Multipoint
