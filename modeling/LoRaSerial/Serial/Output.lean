import LoRaSerial.Lib.Ring
import LoRaSerial.Outgoing.Packet

namespace LoRaSerial.Serial
open Rings
open Outgoing (vcRadioHeaderBytes vcSerialHeaderBytes startOfVcSerial)

abbrev serialTransmitBufferSize : Nat := 1024 * 4
abbrev commandRxBufferSize : Nat := 100

instance : NeZero serialTransmitBufferSize := ⟨by decide⟩
instance : NeZero commandRxBufferSize := ⟨by decide⟩

/-- What a received frame goes to. The last two fields are history: the bytes
written to the host, and the commands that checkCommand got from the radio. -/
structure Output where
  serialTransmitBuffer : Ring UInt8 serialTransmitBufferSize
  commandRXBuffer : Ring UInt8 commandRxBufferSize
  host : List UInt8
  commands : List (List UInt8)

/-- arch.serialWrite(serialTransmitBuffer[txTail++]), n times. -/
def Output.serialWrite (o : Output) : Nat → Output
  | 0 => o
  | n + 1 =>
    Output.serialWrite
      { o with
        host := o.host ++ [o.serialTransmitBuffer.peek 0]
        serialTransmitBuffer := o.serialTransmitBuffer.skip 1 } n

/-- Send serial data to the host, as long as CTS is asserted: it is looked at
before each byte, and the host takes `cts` bytes before it takes CTS away. -/
def outputSerialData (o : Output) (cts : Nat) : Output :=
  o.serialWrite (min o.serialTransmitBuffer.available cts)

/-- Make sure there is enough room in the buffer. -/
def makeRoom (o : Output) (room cts : Nat) : Output :=
  if serialTransmitBufferSize - o.serialTransmitBuffer.available < room then
    outputSerialData o cts
  else o

/-- Add serial data to the output buffer. -/
def serialBufferOutput (o : Output) (data : List UInt8) (cts : Nat) : Output :=
  let o := makeRoom o (data.length + 32) cts
  { o with serialTransmitBuffer := o.serialTransmitBuffer.put data }

/-- Add a single byte to the output buffer. -/
def serialOutputByte (o : Output) (data : UInt8) (cts : Nat) : Output :=
  let o := makeRoom o 32 cts
  { o with serialTransmitBuffer := o.serialTransmitBuffer.push data }

def pcRemoteResponse : UInt8 := 0xC0
def vcCommandCompleteMessageBytes : Nat := 1

/-- How much of a REMOTE_COMMAND_RESPONSE is response: all of it, unless a
START_OF_VC_SERIAL stands where the VC_COMMAND_COMPLETE_MESSAGE would start. The
difference is one of 16 bits. -/
def responseLength (rxData : List UInt8) : Nat :=
  let length := (rxData.length + 2 ^ 16 -
    (vcSerialHeaderBytes + vcCommandCompleteMessageBytes)) % 2 ^ 16
  if rxData.length < length ∨ rxData.getD length 0 ≠ startOfVcSerial then rxData.length
  else length

/-- vcHeader->destVc |= PC_REMOTE_RESPONSE and vcHeader->length = length. -/
def responseHeader (length : Nat) : List UInt8 → List UInt8
  | _ :: destVc :: rest => UInt8.ofNat length :: (destVc ||| pcRemoteResponse) :: rest
  | rxData => rxData

/-- What outputSerialData finds CTS to allow, when the start byte, the data and
the command complete message are stored. -/
structure Cts where
  start : Nat
  data : Nat
  complete : Nat

/-- RADIO_VC_WAIT_RECEIVE, DATAGRAM_REMOTE_COMMAND_RESPONSE. -/
def storeResponse (o : Output) (rxData : List UInt8) (cts : Cts) : Output :=
  let length := responseLength rxData
  let rxData' := if length ≠ 0 then responseHeader length rxData else rxData
  let o :=
    if length ≠ 0 then
      serialBufferOutput (serialOutputByte o startOfVcSerial cts.start) (rxData'.take length)
        cts.data
    else o
  if length < rxData.length then serialBufferOutput o (rxData'.drop length) cts.complete else o

/-- What updateRadioState does with the payload of an accepted frame, in
RADIO_P2P_LINK_UP and in RADIO_VC_WAIT_RECEIVE. -/
def storeFrame (virtualCircuit : Bool) (o : Output) (t : DatagramType) (rxData : List UInt8)
    (cts : Cts) : Output :=
  match virtualCircuit,t with
  | false,.data | false,.remoteCommandResponse => serialBufferOutput o rxData cts.data
  | false,.remoteCommand => { o with commandRXBuffer := o.commandRXBuffer.put rxData }
  | true,.data =>
    serialBufferOutput (serialOutputByte o startOfVcSerial cts.start) rxData cts.data
  | true,.remoteCommand =>
    { o with commands := o.commands ++ [rxData.drop vcRadioHeaderBytes] }
  | true,.remoteCommandResponse => storeResponse o rxData cts
  | _,_ => o

/-- sizeof(buffer) - available, as rcvDatagram passes it. -/
def Output.freeSpace (o : Output) (inCommandMode : Bool) : FreeSpace where
  commandRx := commandRxBufferSize - o.commandRXBuffer.available
  serialTransmit := serialTransmitBufferSize - o.serialTransmitBuffer.available
  inCommandMode

/-- A frame from the number check to the store. The states other than
RADIO_P2P_LINK_UP and RADIO_VC_WAIT_RECEIVE store nothing. -/
def receiveFrame (virtualCircuit linkUp : Bool) (o : Output) (vc : AckNumbers) (c : Control)
    (rxData : List UInt8) (inCommandMode : Bool) (cts : Cts) : AckNumbers × PacketType × Output :=
  let q := rcvNumber virtualCircuit vc c rxData.length (o.freeSpace inCommandMode)
  (q.1,q.2,
    match q.2 with
    | .datagram t => if linkUp then storeFrame virtualCircuit o t rxData cts else o
    | _ => o)

end LoRaSerial.Serial
