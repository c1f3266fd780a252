import LoRaSerial.Codec.Frame
import LoRaSerial.Lib.Runs
import LoRaSerial.P2P.Radio
import LoRaSerial.PacketBuffer
import LoRaSerial.VC.Circuit

namespace LoRaSerial.Outgoing
open Codec (Gcm datagramSize)
open P2P (millisBytes)
open VC (VcAddress maxVc vcBroadcast minRxNotAllowed minTxNotAllowed)

abbrev UniqueId := { id : List UInt8 // id.length = 16 }

/-- The bytes of a Settings structure, sizeof(Settings) of them. -/
abbrev SettingsBytes := { bytes : List UInt8 // bytes.length = 132 }

/-- One call of transmitDatagram: the payload its caller built, and what it
finds in outgoingPacket and in the two globals it computes the size from. -/
structure Transmission where
  datagramType : DatagramType
  payload : List UInt8
  data : List UInt8
  endOfTxData : Nat
  trailerBytes : Nat
  txDatagramSize : Nat
  deriving DecidableEq, Repr

/-- The state the builders work on. The last field is history. -/
structure Radio where
  settings : Settings
  layout : Layout
  outgoingPacket : PacketBuffer
  rexmtBuffer : PacketBuffer
  endOfTxData : Nat
  radioTxBuffer : List UInt8
  commandTXBuffer : List UInt8
  transmissions : List Transmission
  deriving DecidableEq

/-- What a transmission reads from elsewhere: the AES library and its IV, the
rest of txControl and the channel timer. -/
structure Air where
  gcm : Gcm
  iv : List UInt8
  control : Control
  msToNextHop : BitVec 16

/-- What the virtual circuit branch reads from elsewhere. -/
structure VcInputs where
  receiveInProcess : Bool
  myVc : VcAddress
  /-- Whether the state of a circuit is at least VC_STATE_CONNECTED. -/
  connected : Fin maxVc → Bool

/-- endOfTxData = &outgoingPacket[headerBytes]. -/
def Radio.resetPointer (r : Radio) : Radio := { r with endOfTxData := r.layout.headerBytes }

/-- Write at endOfTxData and advance it. -/
def Radio.append (r : Radio) (bs : List UInt8) : Radio :=
  { r with
    outgoingPacket := r.outgoingPacket.write r.endOfTxData bs
    endOfTxData := r.endOfTxData + bs.length }

/-- Write behind the header, wherever endOfTxData is, and advance endOfTxData
by as much. -/
def Radio.place (r : Radio) (offset : Nat) (bs : List UInt8) : Radio :=
  { r with
    outgoingPacket := r.outgoingPacket.write (r.layout.headerBytes + offset) bs
    endOfTxData := r.endOfTxData + bs.length }

/-- The bytes from the header to endOfTxData. -/
def Radio.data (r : Radio) : List UInt8 :=
  r.outgoingPacket.slice r.layout.headerBytes (r.endOfTxData - r.layout.headerBytes)

/-- The destination a virtual circuit header in outgoingPacket names. -/
def Radio.headerDest (r : Radio) : VcAddress :=
  (r.outgoingPacket.byte (r.layout.headerBytes + 1)).toBitVec

/-- Push the outgoing packet to the air. Whether it goes out or is dropped,
endOfTxData is back behind the header. -/
def transmitDatagram (r : Radio) (t : DatagramType) (payload : List UInt8) (a : Air) : Radio :=
  { r with
    outgoingPacket := r.outgoingPacket.write 0 (Codec.transmitDatagram r.settings r.layout a.gcm
      a.iv { a.control with datagramType := t } a.msToNextHop r.outgoingPacket.bytes r.endOfTxData)
    endOfTxData := r.layout.headerBytes
    transmissions :=
      { datagramType := t
        payload
        data := r.data
        endOfTxData := r.endOfTxData
        trailerBytes := r.layout.trailerBytes
        txDatagramSize := datagramSize r.settings r.layout t r.endOfTxData +
          r.layout.trailerBytes } :: r.transmissions }

/-- What the builders of whole datagrams share: write the payload at
endOfTxData, then transmit. -/
def Radio.xmit (r : Radio) (t : DatagramType) (payload : List UInt8) (a : Air) : Radio :=
  transmitDatagram (r.append payload) t payload a

def xmitDatagramP2PFindPartner (r : Radio) (currentMillis : BitVec 32) : Air → Radio :=
  r.xmit .findPartner (millisBytes currentMillis)

def xmitDatagramP2PSyncClocks (r : Radio) (channelNumber : UInt8) (currentMillis : BitVec 32) :
    Air → Radio :=
  r.xmit .syncClocks (channelNumber :: millisBytes currentMillis)

def xmitDatagramP2PZeroAcks (r : Radio) (currentMillis : BitVec 32) : Air → Radio :=
  r.xmit .zeroAcks (millisBytes currentMillis)

def xmitDatagramP2PHeartbeat (r : Radio) (currentMillis : BitVec 32) : Air → Radio :=
  r.xmit .heartbeat (millisBytes currentMillis)

def xmitDatagramP2PAck (r : Radio) (currentMillis : BitVec 32) : Air → Radio :=
  r.xmit .dataAck (millisBytes currentMillis)

def xmitDatagramMpHeartbeat (r : Radio) (channelNumber : UInt8) : Air → Radio :=
  r.xmit .heartbeat [channelNumber]

def xmitDatagramTrainingFindPartner (r : Radio) (myUniqueId : UniqueId) : Air → Radio :=
  r.xmit .trainingFindPartner myUniqueId

def xmitDatagramTrainingAck (r : Radio) (serverID myUniqueId : UniqueId) : Air → Radio :=
  r.xmit .trainingAck (serverID ++ myUniqueId)

def xmitDatagramTrainRadioParameters (r : Radio) (clientID myUniqueId : UniqueId)
    (params : SettingsBytes) : Air → Radio :=
  r.xmit .trainingParams (clientID ++ myUniqueId ++ params)

/-- VC_RADIO_MESSAGE_HEADER of a datagram of `n` bytes. -/
def vcHeader (n : Nat) (destVc srcVc : VcAddress) : List UInt8 :=
  [UInt8.ofNat n,⟨destVc⟩,⟨srcVc⟩]

def xmitVcHeartbeat (r : Radio) (addr : VcAddress) (id : UniqueId) (currentMillis : BitVec 32) :
    Air → Radio :=
  r.xmit .vcHeartbeat (vcHeader 23 vcBroadcast addr ++ id ++ millisBytes currentMillis)

def xmitVcAckFrame (r : Radio) (destVc myVc : VcAddress) : Air → Radio :=
  r.xmit .dataAck (vcHeader 3 destVc myVc)

def xmitVcUnknownAcks (r : Radio) (destVc myVc : VcAddress) : Air → Radio :=
  r.xmit .vcUnknownAcks (vcHeader 3 destVc myVc)

def xmitVcSyncAcks (r : Radio) (destVc myVc : VcAddress) : Air → Radio :=
  r.xmit .vcSyncAcks (vcHeader 3 destVc myVc)

def xmitVcZeroAcks (r : Radio) (destVc myVc : VcAddress) : Air → Radio :=
  r.xmit .vcZeroAcks (vcHeader 3 destVc myVc)

/-- Send a portion of the radioTxBuffer to outgoingPacket. -/
def readyOutgoingPacket (r : Radio) (bytesToSend : Nat) : Radio :=
  let bytesToSend := min bytesToSend r.layout.maxDatagramSize
  { r.place 0 (r.radioTxBuffer.take bytesToSend) with
    radioTxBuffer := r.radioTxBuffer.drop bytesToSend }

/-- If we have data to send, get the packet ready. -/
def processWaitingSerial (r : Radio) (sendNow timeout : Bool) : Radio × Bool :=
  let dataBytes := r.radioTxBuffer.length
  if r.layout.maxDatagramSize ≤ dataBytes then (readyOutgoingPacket r dataBytes,true)
  else if sendNow ∨ (0 < dataBytes ∧ timeout) then (readyOutgoingPacket r dataBytes,true)
  else (r,false)

/-- The data branch of point-to-point and multipoint mode. -/
def sendSerialData (r : Radio) (sendNow timeout : Bool) (a : Air) : Radio :=
  if r.radioTxBuffer = [] then r
  else
    match processWaitingSerial r sendNow timeout with
    | (s,true) =>
      transmitDatagram s .data (r.radioTxBuffer.take r.layout.maxDatagramSize) a
    | (s,false) => s

def vcRadioHeaderBytes : Nat := 3
def vcSerialHeaderBytes : Nat := 4
def startOfVcSerial : UInt8 := 0x02

/-- Where a frame of `bytesToSend` bytes has to end so that it does not split a
VC_COMMAND_COMPLETE_MESSAGE, one status byte behind its header. -/
def Radio.beforeSplitMessage (r : Radio) (bytesToSend : Nat) : Nat :=
  let first := bytesToSend - vcSerialHeaderBytes - 1 + 1
  ((List.range' first (bytesToSend - first)).find? fun length =>
    r.commandTXBuffer.getD length 0 == startOfVcSerial).getD bytesToSend

/-- The number of bytes readyOutgoingCommandPacket sends. -/
def Radio.commandBytes (r : Radio) (offset : Nat) : Nat :=
  let maxLength := r.layout.maxDatagramSize - offset
  if r.commandTXBuffer.length ≤ maxLength then r.commandTXBuffer.length
  else if r.settings.operatingMode = .virtualCircuit then
    let bytesToSend := maxLength - vcSerialHeaderBytes
    if r.commandTXBuffer.getD 0 0 = startOfVcSerial then bytesToSend
    else r.beforeSplitMessage bytesToSend
  else maxLength

/-- Send a portion of the commandTXBuffer to outgoingPacket. -/
def readyOutgoingCommandPacket (r : Radio) (offset : Nat) : Radio :=
  let bytesToSend := r.commandBytes offset
  { r.place offset (r.commandTXBuffer.take bytesToSend) with
    commandTXBuffer := r.commandTXBuffer.drop bytesToSend }

/-- The command branch of point-to-point mode. -/
def sendCommand (r : Radio) (remoteCommandResponse : Bool) (a : Air) : Radio :=
  if r.commandTXBuffer = [] then r
  else
    transmitDatagram (readyOutgoingCommandPacket r 0)
      (if remoteCommandResponse then .remoteCommandResponse else .remoteCommand)
      (r.commandTXBuffer.take (r.commandBytes 0)) a

/-- The command response branch of virtual circuit mode. -/
def sendVcCommandResponse (r : Radio) (rmtCmdVc myVc : VcAddress) (a : Air) : Radio :=
  if r.commandTXBuffer = [] then r
  else
    let bytesToSend := r.commandBytes vcRadioHeaderBytes
    let header := vcHeader (bytesToSend + vcRadioHeaderBytes) rmtCmdVc myVc
    transmitDatagram (readyOutgoingCommandPacket (r.place 0 header) vcRadioHeaderBytes)
      .remoteCommandResponse (header ++ r.commandTXBuffer.take bytesToSend) a

def Radio.messageLength (r : Radio) : Nat := (r.radioTxBuffer.getD 0 0).toNat

def Radio.messageDest (r : Radio) : VcAddress := (r.radioTxBuffer.getD 1 0).toBitVec

/-- Move radioTxTail over the message at the head of radioTxBuffer. -/
def Radio.discardMessage (r : Radio) : Radio :=
  { r with radioTxBuffer := r.radioTxBuffer.drop r.messageLength }

/-- What resetSerial discards of the data that waits for the radio. -/
def resetSerial (r : Radio) : Radio := { r with commandTXBuffer := [] }

/-- Break the virtual circuit link. Breaking the own circuit flushes the
buffers. -/
def vcBreakLink (r : Radio) (vcIndex myVc : VcAddress) : Radio :=
  if minRxNotAllowed.toNat ≤ vcIndex.toNat then r
  else if VcAddress.ofNumber vcIndex.number = myVc then
    { resetSerial r with radioTxBuffer := [] }.resetPointer
  else r

/-- A message to the data channel of the own circuit. -/
def VcInputs.ownData (i : VcInputs) (dest : VcAddress) : Bool :=
  dest != vcBroadcast && VcAddress.ofNumber dest.number == i.myVc && dest.channel == 0

/-- Determine if received serial data may be sent to the remote system. -/
def vcSerialMessageReceived (r : Radio) (i : VcInputs) : Radio × Bool :=
  let vcDest := r.messageDest
  if i.receiveInProcess ∨ r.radioTxBuffer = [] then (r,false)
  else if r.radioTxBuffer.length < r.messageLength then (r,false)
  else if minRxNotAllowed.toNat ≤ vcDest.toNat ∧ vcDest ≠ vcBroadcast then
    (r.discardMessage,false)
  else if r.layout.maxDatagramSize < r.messageLength then
    if minTxNotAllowed.toNat ≤ vcDest.toNat ∧ vcDest ≠ vcBroadcast then (r.discardMessage,false)
    else (vcBreakLink r.discardMessage (.ofNumber vcDest.number) i.myVc,false)
  else if vcDest ≠ vcBroadcast ∧ i.connected vcDest.number = false then (r.discardMessage,false)
  else
    let s := readyOutgoingPacket r r.messageLength
    if i.ownData vcDest then ({ s with endOfTxData := s.endOfTxData - r.messageLength },false)
    else (s,true)

/-- The switch on the channel of the message in outgoingPacket, which is
`message`. There is no case for the other channels. A command for the local
radio goes to checkCommand, whose response all goes to the host. -/
def sendVcMessage (r : Radio) (message : List UInt8) (i : VcInputs) (a : Air) : Radio :=
  let destVc := r.headerDest
  match if destVc = vcBroadcast then 0 else destVc.channel with
  | 0 => transmitDatagram r (if destVc = vcBroadcast then .datagram else .data) message a
  | 1 =>
    if VcAddress.ofNumber destVc.number = i.myVc then { r with commandTXBuffer := [] }.resetPointer
    else
      let number : UInt8 := ⟨VcAddress.ofNumber destVc.number⟩
      transmitDatagram
        { r with outgoingPacket := r.outgoingPacket.write (r.layout.headerBytes + 1) [number] }
        .remoteCommand (message.set 1 number) a
  | _ => r

/-- The data branch of virtual circuit mode. -/
def sendVcData (r : Radio) (i : VcInputs) (a : Air) : Radio :=
  match vcSerialMessageReceived r i with
  | (s,true) => sendVcMessage s (r.radioTxBuffer.take r.messageLength) i a
  | (s,false) => s

/-- selectHeaderAndTrailerBytes sets the layout and, with it, endOfTxData. -/
def Radio.selectLayout (r : Radio) : Radio :=
  { r with layout := selectHeaderAndTrailerBytes r.settings }.resetPointer

/-- RADIO_RESET discards the buffered data and lays the frames out anew. -/
def radioReset (r : Radio) : Radio :=
  { r with radioTxBuffer := [], commandTXBuffer := [] }.selectLayout

/-- Break the point-to-point link. -/
def breakLink (r : Radio) (inCommandMode : Bool) : Radio :=
  { (if inCommandMode then r else resetSerial r) with radioTxBuffer := [] }.resetPointer

/-- The operations on outgoingPacket and endOfTxData, in any order. The first
three bring in data and settings: host bytes, command output, and settings
applied without a reset. -/
inductive Event where
  | serialData (bytes : List UInt8)
  | commandOutput (bytes : List UInt8)
  | settings (s : Settings)
  | radioReset
  | commonTrainingInitialization (s : Settings)
  | breakLink (inCommandMode : Bool)
  | vcBreakLink (vcIndex myVc : VcAddress)
  | saveTxBuffer
  | restoreTxBuffer
  | p2pFindPartner (currentMillis : BitVec 32) (a : Air)
  | p2pSyncClocks (channelNumber : UInt8) (currentMillis : BitVec 32) (a : Air)
  | p2pZeroAcks (currentMillis : BitVec 32) (a : Air)
  | p2pHeartbeat (currentMillis : BitVec 32) (a : Air)
  | p2pAck (currentMillis : BitVec 32) (a : Air)
  | mpHeartbeat (channelNumber : UInt8) (a : Air)
  | trainingFindPartner (myUniqueId : UniqueId) (a : Air)
  | trainingAck (serverID myUniqueId : UniqueId) (a : Air)
  | trainRadioParameters (clientID myUniqueId : UniqueId) (params : SettingsBytes) (a : Air)
  | vcHeartbeat (addr : VcAddress) (id : UniqueId) (currentMillis : BitVec 32) (a : Air)
  | vcAckFrame (destVc myVc : VcAddress) (a : Air)
  | vcUnknownAcks (destVc myVc : VcAddress) (a : Air)
  | vcSyncAcks (destVc myVc : VcAddress) (a : Air)
  | vcZeroAcks (destVc myVc : VcAddress) (a : Air)
  | sendSerialData (sendNow timeout : Bool) (a : Air)
  | sendCommand (remoteCommandResponse : Bool) (a : Air)
  | sendVcCommandResponse (rmtCmdVc myVc : VcAddress) (a : Air)
  | sendVcData (i : VcInputs) (a : Air)

def step (r : Radio) : Event → Radio
  | .serialData bytes => { r with radioTxBuffer := r.radioTxBuffer ++ bytes }
  | .commandOutput bytes => { r with commandTXBuffer := r.commandTXBuffer ++ bytes }
  | .settings s => { r with settings := s }
  | .radioReset => Outgoing.radioReset r
  | .commonTrainingInitialization s => { r with settings := s }.selectLayout
  | .breakLink inCommandMode => Outgoing.breakLink r inCommandMode
  | .vcBreakLink vcIndex myVc => Outgoing.vcBreakLink r vcIndex myVc
  | .saveTxBuffer => { r with rexmtBuffer := r.outgoingPacket }
  | .restoreTxBuffer => { r with outgoingPacket := r.rexmtBuffer }
  | .p2pFindPartner ms a => xmitDatagramP2PFindPartner r ms a
  | .p2pSyncClocks channelNumber ms a => xmitDatagramP2PSyncClocks r channelNumber ms a
  | .p2pZeroAcks ms a => xmitDatagramP2PZeroAcks r ms a
  | .p2pHeartbeat ms a => xmitDatagramP2PHeartbeat r ms a
  | .p2pAck ms a => xmitDatagramP2PAck r ms a
  | .mpHeartbeat channelNumber a => xmitDatagramMpHeartbeat r channelNumber a
  | .trainingFindPartner id a => xmitDatagramTrainingFindPartner r id a
  | .trainingAck serverID id a => xmitDatagramTrainingAck r serverID id a
  | .trainRadioParameters clientID id params a =>
    xmitDatagramTrainRadioParameters r clientID id params a
  | .vcHeartbeat addr id ms a => xmitVcHeartbeat r addr id ms a
  | .vcAckFrame destVc myVc a => xmitVcAckFrame r destVc myVc a
  | .vcUnknownAcks destVc myVc a => xmitVcUnknownAcks r destVc myVc a
  | .vcSyncAcks destVc myVc a => xmitVcSyncAcks r destVc myVc a
  | .vcZeroAcks destVc myVc a => xmitVcZeroAcks r destVc myVc a
  | .sendSerialData sendNow timeout a => Outgoing.sendSerialData r sendNow timeout a
  | .sendCommand remoteCommandResponse a => Outgoing.sendCommand r remoteCommandResponse a
  | .sendVcCommandResponse rmtCmdVc myVc a => Outgoing.sendVcCommandResponse r rmtCmdVc myVc a
  | .sendVcData i a => Outgoing.sendVcData r i a

end LoRaSerial.Outgoing
