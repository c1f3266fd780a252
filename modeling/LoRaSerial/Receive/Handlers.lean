import LoRaSerial.Lib.Reading
import LoRaSerial.Serial.Output

namespace LoRaSerial.Receive
open Reading Reading.Prog
open VC (VcAddress vcServer vcUnassigned)
open Outgoing (vcRadioHeaderBytes vcSerialHeaderBytes startOfVcSerial)
open Serial (pcRemoteResponse vcCommandCompleteMessageBytes)

/-- The states of updateRadioState that call rcvDatagram. -/
inductive RadioState where
  | p2pLinkDown | p2pWaitSyncClocks | p2pWaitZeroAcks | p2pLinkUp
  | discoverScanning | discoverStandby | mpStandby
  | trainWaitRxRadioParameters | trainWaitForFindPartner
  | vcWaitServer | vcWaitReceive
  deriving DecidableEq, Repr

/-- What the handlers read besides the frame. Entries of virtualCircuitList that
are not valid are none; `length` is what the variable of updateRadioState holds
before it is set. -/
structure Inputs where
  settings : Settings
  length : UInt16
  myUniqueId : List UInt8
  trainingPartnerID : List UInt8
  myVc : VcAddress
  rxSrcVc : VcAddress
  virtualCircuitList : List (Option (List UInt8))

/-- What vcIdToAddressByte returns, and the ID it saves. -/
inductive Address where
  | refused
  | known (vcIndex : Nat)
  | saved (vcIndex : Nat) (id : List UInt8)
  deriving DecidableEq, Repr

/-- What vcReceiveHeartbeat does: synchronize the channel timer, update the
timestamp offset, save the own address, look up the sender and answer it. -/
structure VcHeartbeat where
  sync : Bool
  millis : Option (BitVec 32)
  assigned : Bool
  vcSrc : Address
  reply : Option (Nat × List UInt8)
  deriving DecidableEq, Repr

/-- What a handler makes of the payload. -/
inductive Outcome where
  | ignored
  | timestamp (remoteSystemMillis : BitVec 32)
  | syncClocks (channelNumber : UInt8) (remoteSystemMillis : BitVec 32)
  | channel (channelNumber : UInt8)
  | serial (data : List UInt8)
  | command (data : List UInt8)
  | response (data complete : List UInt8)
  | trainingParams (trainingPartnerID params : List UInt8)
  | trainingFindPartner (trainingPartnerID : List UInt8)
  | trainingAck (known : Bool)
  | vcHeartbeat (h : VcHeartbeat)
  deriving DecidableEq, Repr

def uniqueIdBytes : Nat := 16
def sizeofSettings : Nat := 132

/-- The value of four bytes, as memcpy leaves it in an unsigned long. -/
def millisOfBytes : List UInt8 → BitVec 32
  | [a,b,c,d] => d.toBitVec ++ c.toBitVec ++ b.toBitVec ++ a.toBitVec
  | _ => 0

/-- remoteSystemMillis, which COMPUTE_TIMESTAMP_OFFSET copies from rxData + k. -/
def millisAt (k : Nat) : Prog UInt8 (BitVec 32) := do
  let bytes ← cells k 4
  pure (millisOfBytes bytes)

/-- RADIO_P2P_LINK_DOWN. -/
def p2pLinkDown : DatagramType → Prog UInt8 Outcome
  | .findPartner => do
    let millis ← millisAt 0
    pure (.timestamp millis)
  | _ => pure .ignored

/-- RADIO_P2P_WAIT_SYNC_CLOCKS. -/
def p2pWaitSyncClocks : DatagramType → Prog UInt8 Outcome
  | .findPartner => do
    let millis ← millisAt 1
    pure (.timestamp millis)
  | .syncClocks => do
    let millis ← millisAt 1
    pure (.timestamp millis)
  | _ => pure .ignored

/-- dumpBuffer(rxData, length), before length is set. -/
def debugLength (i : Inputs) : Prog UInt8 (List UInt8) :=
  if i.settings.debugging.debugSerial then cells 0 i.length.toNat else pure []

/-- RADIO_P2P_LINK_UP. -/
def p2pLinkUp (i : Inputs) (rxDataBytes : Nat) : DatagramType → Prog UInt8 Outcome
  | .heartbeat | .dataAck => do
    let millis ← millisAt 0
    pure (.timestamp millis)
  | .data | .remoteCommandResponse => do
    let _ ← debugLength i
    let data ← cells 0 rxDataBytes
    pure (.serial data)
  | .remoteCommand => do
    let _ ← debugLength i
    let data ← cells 0 rxDataBytes
    pure (.command data)
  | _ => pure .ignored

/-- RADIO_DISCOVER_SCANNING. -/
def discoverScanning (i : Inputs) : DatagramType → Prog UInt8 Outcome
  | .syncClocks =>
    if i.settings.server then pure .ignored
    else do
      let channelNumber ← cell 0
      let millis ← millisAt 1
      pure (.syncClocks channelNumber millis)
  | _ => pure .ignored

/-- RADIO_DISCOVER_STANDBY. -/
def discoverStandby (i : Inputs) : DatagramType → Prog UInt8 Outcome
  | .heartbeat =>
    if i.settings.server then pure .ignored
    else do
      let channelNumber ← cell 0
      pure (.channel channelNumber)
  | _ => pure .ignored

/-- RADIO_MP_STANDBY. -/
def mpStandby (rxDataBytes : Nat) : DatagramType → Prog UInt8 Outcome
  | .data => do
    let data ← cells 0 rxDataBytes
    pure (.serial data)
  | _ => pure .ignored

/-- RADIO_TRAIN_WAIT_RX_RADIO_PARAMETERS. The same ID is compared twice. -/
def trainWaitRxRadioParameters (i : Inputs) : DatagramType → Prog UInt8 Outcome
  | .trainingParams => do
    let id ← cells 0 uniqueIdBytes
    if id ≠ i.myUniqueId then do
      let _ ← cells 0 uniqueIdBytes
      pure .ignored
    else do
      let trainingPartnerID ← cells uniqueIdBytes uniqueIdBytes
      let params ← cells (uniqueIdBytes * 2) sizeofSettings
      let _ ← cells uniqueIdBytes uniqueIdBytes
      pure (.trainingParams trainingPartnerID params)
  | _ => pure .ignored

/-- RADIO_TRAIN_WAIT_FOR_FIND_PARTNER. -/
def trainWaitForFindPartner (i : Inputs) : DatagramType → Prog UInt8 Outcome
  | .trainingFindPartner => do
    let trainingPartnerID ← cells 0 uniqueIdBytes
    pure (.trainingFindPartner trainingPartnerID)
  | .trainingAck => do
    let id ← cells uniqueIdBytes uniqueIdBytes
    pure (.trainingAck (id == i.trainingPartnerID))
  | _ => pure .ignored

/-- rxVcData - rxData. -/
def Inputs.vcData (i : Inputs) : Nat :=
  if i.settings.operatingMode = .virtualCircuit then vcRadioHeaderBytes else 0

/-- Determine if the address is already in the list. -/
def idIndex (vcData : Nat) : List (Option (List UInt8)) → Prog UInt8 (Option Nat)
  | [] => pure none
  | none :: entries => do
    let k ← idIndex vcData entries
    pure (k.map (· + 1))
  | some uniqueId :: entries => do
    let id ← cells vcData uniqueIdBytes
    if uniqueId = id then pure (some 0)
    else do
      let k ← idIndex vcData entries
      pure (k.map (· + 1))

/-- The unique ID is not in the list. It is printed if the address is taken, and
goes to the NVM if not. -/
def saveId (i : Inputs) (vcIndex : Nat) : Prog UInt8 Address := do
  let id ← cells i.vcData uniqueIdBytes
  if (i.virtualCircuitList.getD vcIndex none).isSome then pure .refused
  else pure (.saved vcIndex id)

def vcIdToAddressByte (i : Inputs) : Prog UInt8 Address := do
  match ← idIndex i.vcData i.virtualCircuitList with
  | some vcIndex => pure (.known vcIndex)
  | none =>
    if i.rxSrcVc ≠ vcUnassigned then saveId i i.rxSrcVc.toNat
    else if i.settings.server = false then pure .refused
    else
      let vcIndex := i.virtualCircuitList.findIdx Option.isNone
      if i.virtualCircuitList.length ≤ vcIndex then pure .refused else saveId i vcIndex

/-- The server assigns the address, with a heartbeat to the sender. -/
def assignAddress (i : Inputs) : Address → Prog UInt8 (Option (Nat × List UInt8))
  | .refused => pure none
  | .known vcIndex | .saved vcIndex _ =>
    if i.settings.server ∧ i.rxSrcVc = vcUnassigned then do
      let id ← cells i.vcData uniqueIdBytes
      pure (some (vcIndex,id))
    else pure none

/-- memcmp(rxVcData, myUniqueId, UNIQUE_ID_BYTES) == 0. -/
def ownId (i : Inputs) : Prog UInt8 Bool := do
  let id ← cells i.vcData uniqueIdBytes
  pure (id == i.myUniqueId)

/-- Whether the channel timer is synchronized. -/
def synced (i : Inputs) : Prog UInt8 Bool :=
  if i.rxSrcVc = vcServer then pure true else ownId i

/-- Whether rxSrcVc becomes the own address. -/
def assigned (i : Inputs) : Prog UInt8 Bool :=
  if i.myVc = vcUnassigned then ownId i else pure false

/-- The time behind the unique ID, if the server is the sender. -/
def serverMillis (i : Inputs) : Prog UInt8 (Option (BitVec 32)) :=
  if i.rxSrcVc = vcServer then do
    let millis ← millisAt (i.vcData + uniqueIdBytes)
    pure (some millis)
  else pure none

/-- Process a received HEARTBEAT frame from a VC. -/
def vcReceiveHeartbeat (i : Inputs) : Prog UInt8 Outcome := do
  let sync ← synced i
  let millis ← serverMillis i
  let assigned ← assigned i
  let vcSrc ← vcIdToAddressByte i
  let reply ← assignAddress i vcSrc
  pure (.vcHeartbeat ⟨sync,millis,assigned,vcSrc,reply⟩)

/-- RADIO_VC_WAIT_SERVER. -/
def vcWaitServer (i : Inputs) : DatagramType → Prog UInt8 Outcome
  | .vcHeartbeat =>
    if i.rxSrcVc = vcServer then vcReceiveHeartbeat i else pure .ignored
  | _ => pure .ignored

/-- Where the VC_COMMAND_COMPLETE_MESSAGE would start, as 16 bits. -/
def completeStart (rxDataBytes : Nat) : Nat :=
  (rxDataBytes + 2 ^ 16 - (vcSerialHeaderBytes + vcCommandCompleteMessageBytes)) % 2 ^ 16

/-- Determine if the VC_COMMAND_COMPLETE_MESSAGE is contained in this response. -/
def responseLength (rxDataBytes : Nat) : Prog UInt8 Nat :=
  let length := completeStart rxDataBytes
  if rxDataBytes < length then pure rxDataBytes
  else do
    let start ← cell length
    if start ≠ startOfVcSerial then pure rxDataBytes else pure length

/-- Transfer the response data to the host. The length and the destination in
the header are written before. -/
def transferResponse (length : Nat) : Prog UInt8 (List UInt8) :=
  if length = 0 then pure []
  else do
    let _ ← cell 1
    let data ← cells 0 length
    pure (Serial.responseHeader length data)

/-- The case DATAGRAM_REMOTE_COMMAND_RESPONSE. -/
def vcResponse (rxDataBytes : Nat) : Prog UInt8 Outcome := do
  let length ← responseLength rxDataBytes
  let data ← transferResponse length
  let complete ← cells length (rxDataBytes - length)
  pure (.response data complete)

/-- RADIO_VC_WAIT_RECEIVE. -/
def vcWaitReceive (i : Inputs) (rxDataBytes : Nat) : DatagramType → Prog UInt8 Outcome
  | .vcHeartbeat => vcReceiveHeartbeat i
  | .data | .datagram => do
    let data ← cells 0 rxDataBytes
    pure (.serial data)
  | .remoteCommand => do
    -- commandLength is a uint8_t
    let commandLength := (rxDataBytes + 2 ^ 8 - vcRadioHeaderBytes) % 2 ^ 8
    let data ← cells vcRadioHeaderBytes commandLength
    pure (.command data)
  | .remoteCommandResponse => vcResponse rxDataBytes
  | _ => pure .ignored

/-- What updateRadioState does with a datagram that rcvDatagram returns. The
positions are those behind rxData. -/
def handle (state : RadioState) (i : Inputs) (t : DatagramType) (rxDataBytes : Nat) :
    Prog UInt8 Outcome :=
  match state with
  | .p2pLinkDown => p2pLinkDown t
  | .p2pWaitSyncClocks => p2pWaitSyncClocks t
  | .p2pWaitZeroAcks => pure .ignored
  | .p2pLinkUp => p2pLinkUp i rxDataBytes t
  | .discoverScanning => discoverScanning i t
  | .discoverStandby => discoverStandby i t
  | .mpStandby => mpStandby rxDataBytes t
  | .trainWaitRxRadioParameters => trainWaitRxRadioParameters i t
  | .trainWaitForFindPartner => trainWaitForFindPartner i t
  | .vcWaitServer => vcWaitServer i t
  | .vcWaitReceive => vcWaitReceive i rxDataBytes t

end LoRaSerial.Receive
