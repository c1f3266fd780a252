import LoRaSerial.Lib.Runs
import LoRaSerial.Outgoing.Packet
import LoRaSerial.Serial.Port

namespace LoRaSerial.VcSerial
open Rings VC
open Serial (serialReceiveBufferSize radioTxBufferSize commandBufferSize)
open Outgoing (vcRadioHeaderBytes vcSerialHeaderBytes startOfVcSerial)

def vcCommand : VcAddress := 0xFE
def pcCommand : VcAddress := minRxNotAllowed

/-- The serial input in virtual circuit mode. The last field is history: what
readyOutgoingPacket loaded. -/
structure Port where
  serialReceiveBuffer : Ring UInt8 serialReceiveBufferSize
  radioTxBuffer : Ring UInt8 radioTxBufferSize
  commandBuffer : List UInt8
  myVc : VcAddress
  payloads : List (List UInt8)

/-- rxTail = NEXT_RX_TAIL(n). -/
def Port.skipRx (p : Port) (n : Nat) : Port :=
  { p with serialReceiveBuffer := p.serialReceiveBuffer.skip n }

/-- Place the data in radioTxBuffer. -/
def Port.moveMessage (p : Port) : Nat → Port
  | 0 => p
  | length + 1 =>
    Port.moveMessage
      { p with
        radioTxBuffer := p.radioTxBuffer.push (p.serialReceiveBuffer.peek 0)
        serialReceiveBuffer := p.serialReceiveBuffer.skip 1 } length

def toupper (b : UInt8) : UInt8 := if 0x61 ≤ b ∧ b ≤ 0x7A then b - 0x20 else b

/-- Move this message into the command buffer. -/
def Port.moveCommand (p : Port) : Nat → Port
  | 0 => p
  | length + 1 =>
    Port.moveCommand
      { p with
        commandBuffer := p.commandBuffer ++ [toupper (p.serialReceiveBuffer.peek 0)]
        serialReceiveBuffer := p.serialReceiveBuffer.skip 1 } length

/-- resetSerial empties the receive buffer by taking its head back. -/
def resetSerial (p : Port) : Port :=
  { p with
    serialReceiveBuffer := p.serialReceiveBuffer.revoke
    commandBuffer := [] }

/-- Break the virtual circuit link. Breaking the own circuit flushes the
buffers. -/
def vcBreakLink (p : Port) (vcIndex : VcAddress) : Port :=
  if minRxNotAllowed.toNat ≤ vcIndex.toNat then p
  else if VcAddress.ofNumber vcIndex.number = p.myVc then
    { resetSerial p with radioTxBuffer := p.radioTxBuffer.revoke }
  else p

/-- checkCommand, as far as it touches the rings: the links that ATB breaks. -/
def checkCommand (p : Port) (breaks : List VcAddress) : Port :=
  { breaks.foldl vcBreakLink p with commandBuffer := [] }

/-- The switch of vcProcessSerialInput; the START_OF_VC_SERIAL byte is gone.
VC_BROADCAST is negative, and the comparison with it is signed. -/
def processMessage (p : Port) (length : Nat) (breaks : List VcAddress) : Port :=
  let vcDest : VcAddress := (p.serialReceiveBuffer.peek 1).toBitVec
  let vcSrc : VcAddress := (p.serialReceiveBuffer.peek 2).toBitVec
  if vcDest = vcCommand then
    if vcSrc ≠ pcCommand ∨ commandBufferSize - 1 < length then p.skipRx length
    else
      checkCommand (Port.moveCommand { p.skipRx vcRadioHeaderBytes with commandBuffer := [] }
        (length - vcRadioHeaderBytes)) breaks
  else if vcSrc ≠ p.myVc ∨ p.myVc = vcUnassigned then p.skipRx length
  else if minTxNotAllowed.toNat ≤ vcDest.toNat ∧ vcDest.slt vcBroadcast then p.skipRx length
  else p.moveMessage length

/-- One turn of the loop in vcProcessSerialInput, and whether the loop is left.
A length that is too small stays where it is, and so does the loop. -/
def processTurn (p : Port) (breaks : List VcAddress) : Port × Bool :=
  let dataBytes := p.serialReceiveBuffer.available
  if p.serialReceiveBuffer.peek 0 ≠ startOfVcSerial then (p.skipRx 1,false)
  else
    let length := (p.serialReceiveBuffer.peek 1).toNat
    if length < vcSerialHeaderBytes then (p,false)
    else if dataBytes < length + 1 then (p,true)
    else (processMessage (p.skipRx 1) length breaks,false)

/-- Process serial input when running in MODE_VIRTUAL_CIRCUIT, one turn for each
pass of the loop before transactionComplete is set. -/
def vcProcessSerialInput (p : Port) : List (List VcAddress) → Port
  | [] => p
  | breaks :: turns =>
    if p.serialReceiveBuffer.available ≠ 0 ∧
        p.radioTxBuffer.available < radioTxBufferSize - 256 then
      match processTurn p breaks with
      | (p,true) => p
      | (p,false) => vcProcessSerialInput p turns
    else p

/-- The serial part of updateSerial; `incoming` are the bytes that arrive before
transactionComplete is set. -/
def updateSerial (p : Port) (incoming : List UInt8) (turns : List (List VcAddress)) : Port :=
  let bufferSpace := serialReceiveBufferSize - 1 - p.serialReceiveBuffer.available
  vcProcessSerialInput
    { p with serialReceiveBuffer := p.serialReceiveBuffer.pushAll (incoming.take bufferSpace) }
    turns

/-- Send a portion of the radioTxBuffer to outgoingPacket. -/
def readyOutgoingPacket (p : Port) (bytesToSend : Nat) (maxDatagramSize : UInt8) : Port :=
  let q := p.radioTxBuffer.take (min bytesToSend maxDatagramSize.toNat)
  { p with radioTxBuffer := q.2, payloads := p.payloads ++ [q.1] }

/-- What vcSerialMessageReceived reads from elsewhere. -/
structure Inputs where
  receiveInProcess : Bool
  maxDatagramSize : UInt8
  /-- Whether the state of a circuit is at least VC_STATE_CONNECTED. -/
  connected : Fin maxVc → Bool

/-- radioTxTail = NEXT_RADIO_TX_TAIL(msgLength). -/
def Port.discardMessage (p : Port) (msgLength : Nat) : Port :=
  { p with radioTxBuffer := p.radioTxBuffer.skip msgLength }

/-- Determine if received serial data may be sent to the remote system. A message
to ourself is loaded too, but written to the host. -/
def vcSerialMessageReceived (p : Port) (i : Inputs) : Port × Bool :=
  let dataBytes := p.radioTxBuffer.available
  let msgLength := (p.radioTxBuffer.peek 0).toNat
  let vcDest : VcAddress := (p.radioTxBuffer.peek 1).toBitVec
  if i.receiveInProcess ∨ dataBytes = 0 then (p,false)
  else if dataBytes < msgLength then (p,false)
  else if minRxNotAllowed.toNat ≤ vcDest.toNat ∧ vcDest ≠ vcBroadcast then
    (p.discardMessage msgLength,false)
  else if i.maxDatagramSize.toNat < msgLength then
    if minTxNotAllowed.toNat ≤ vcDest.toNat ∧ vcDest ≠ vcBroadcast then
      (p.discardMessage msgLength,false)
    else (vcBreakLink (p.discardMessage msgLength) (.ofNumber vcDest.number),false)
  else if vcDest ≠ vcBroadcast ∧ i.connected vcDest.number = false then
    (p.discardMessage msgLength,false)
  else
    let ownData := vcDest != vcBroadcast && VcAddress.ofNumber vcDest.number == p.myVc &&
      vcDest.channel == 0
    (readyOutgoingPacket p msgLength i.maxDatagramSize,!ownData)

/-- discardPreviousData, which RADIO_RESET calls. -/
def discardPreviousData (p : Port) : Port := { p with radioTxBuffer := p.radioTxBuffer.flush }

inductive Event where
  | updateSerial (incoming : List UInt8) (turns : List (List VcAddress))
  | vcSerialMessageReceived (i : Inputs)
  | vcBreakLink (vcIndex : VcAddress)
  | discardPreviousData
  | assigned (myVc : VcAddress)

def step (p : Port) : Event → Port
  | .updateSerial incoming turns => VcSerial.updateSerial p incoming turns
  | .vcSerialMessageReceived i => (VcSerial.vcSerialMessageReceived p i).1
  | .vcBreakLink vcIndex => VcSerial.vcBreakLink p vcIndex
  | .discardPreviousData => VcSerial.discardPreviousData p
  | .assigned myVc => { p with myVc }

/-- Both rings empty, wherever their indices are. -/
structure Port.Started (p : Port) : Prop where
  serialReceiveBuffer : p.serialReceiveBuffer.contents = []
  radioTxBuffer : p.radioTxBuffer.contents = []
  payloads : p.payloads = []

end LoRaSerial.VcSerial
