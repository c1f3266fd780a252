import LoRaSerial.Bridge.Wire
import LoRaSerial.P2P.Payloads
import LoRaSerial.Serial.Accepted
import LoRaSerial.Serial.CommandBuffer
import LoRaSerial.Serial.Forwarding
import LoRaSerial.VC.Responses

namespace LoRaSerial.Bridge
open Codec Rings Serial
open P2P (Side Frame Reception Damage Inputs Pass)
open VC (commandTxBufferSize)

/-- A piece of what goes to serialTransmitBuffer: the data of a frame, or
anything else. -/
inductive Chunk where
  | data (payload : List UInt8)
  | text (bytes : List UInt8)
  deriving DecidableEq, Repr

def Chunk.bytes : Chunk → List UInt8
  | .data payload => payload
  | .text bytes => bytes

def Chunk.payload : Chunk → List (List UInt8)
  | .data payload => [payload]
  | .text _ => []

/-- A radio with its buffers. `printed` is history: what went to
serialTransmitBuffer since the buffers were last emptied. -/
structure Station where
  radio : P2P.Radio
  port : Port
  output : Output
  commandTXBuffer : Ring UInt8 commandTxBufferSize
  remoteCommandResponse : Bool
  printed : List Chunk

/-- What a call of updateRadioState reads besides the station: the clocks and
the transceiver, whether the partial frame timer has run out, how many bytes CTS
lets the host take when a frame is stored and when the buffers are emptied, the
time stamp for the header, and what the two packet buffers had before. -/
structure Call where
  inputs : Inputs
  serialTimeout : Bool
  cts : Nat
  flushCts : Nat
  msToNextHop : BitVec 16
  outgoingPacket : PacketBuffer
  incomingBuffer : PacketBuffer

variable (ch : Channel)

def Channel.maxDatagramSize : UInt8 := UInt8.ofNat ch.layout.maxDatagramSize

namespace Station

def processWaitingSerial (s : Station) (c : Call) : Port :=
  Serial.processWaitingSerial s.port false c.serialTimeout ch.maxDatagramSize

/-- What processWaitingSerial loads, if it does. -/
def serialPacket (s : Station) (c : Call) : Option (List UInt8) :=
  ({ s with port := { s.port with payloads := [] } }.processWaitingSerial ch c).payloads.head?

/-- readyOutgoingCommandPacket(0), outside of virtual circuit mode. -/
def readyOutgoingCommandPacket (s : Station) : List UInt8 × Ring UInt8 commandTxBufferSize :=
  s.commandTXBuffer.take (min s.commandTXBuffer.available ch.layout.maxDatagramSize)

/-- The inputs of a pass. -/
def inputs (s : Station) (c : Call) : Inputs :=
  { c.inputs with
    maxResends := ch.settings.maxResends
    remoteCommandResponse := s.remoteCommandResponse
    commandPacket :=
      if s.commandTXBuffer.available = 0 then none
      else some (s.readyOutgoingCommandPacket ch).1
    availableRadioTXBytes := s.port.radioTxBuffer.available != 0
    serialPacket := s.serialPacket ch c
    space := s.output.freeSpace s.port.inCommandMode }

/-- The way to readyOutgoingCommandPacket through RADIO_P2P_LINK_UP. -/
def sendsCommand (s : Station) (packet : Option Reception) (i : Inputs) : Bool :=
  s.radio.radioState == .linkUp && packet.isNone && !i.receiveInProcess &&
    !i.heartbeatTimeout && !s.radio.ackTimer

/-- What an accepted datagram adds to serialTransmitBuffer. -/
def chunks (t : DatagramType) (rxData : List UInt8) : List Chunk :=
  match t with
  | .data => [.data rxData]
  | .remoteCommandResponse => [.text rxData]
  | _ => []

/-- RADIO_P2P_LINK_UP, an accepted datagram. -/
def store (s : Station) (t : DatagramType) (rxData : List UInt8) (cts : Nat) : Station :=
  { s with
    output := storeFrame false s.output t rxData ⟨0,cts,0⟩
    port := { s.port with
      waitRemoteCommandResponse :=
        if t = .remoteCommandResponse then false else s.port.waitRemoteCommandResponse }
    printed := s.printed ++ chunks t rxData }

/-- A received datagram. The other states store nothing. -/
def received (s : Station) (packet : Option Reception) (i : Inputs) (cts : Nat) : Station :=
  match s.radio.radioState,packet with
  | .linkUp,some p =>
    match (P2P.rcvDatagram s.radio p i).2 with
    | .datagram t => s.store t p.payload cts
    | _ => s
  | _,_ => s

/-- The histories start again, with what waits to be processed. -/
def restartInput (p : Port) : Port :=
  { p with
    modeAtStart := p.inCommandMode
    received := p.escapes ++ p.serialReceiveBuffer.contents
    taken := p.escapes.map Taken.waiting
    payloads := [] }

def discardPreviousData (s : Station) (cts : Nat) : Station :=
  let o := outputSerialData s.output cts
  { s with
    port := restartInput { s.port with
      radioTxBuffer := s.port.radioTxBuffer.flush
      waitRemoteCommandResponse := false }
    output := { o with
      serialTransmitBuffer := o.serialTransmitBuffer.flush
      commandRXBuffer := o.commandRXBuffer.flush
      host := [] }
    commandTXBuffer := s.commandTXBuffer.flush
    printed := [] }

def resetSerial (s : Station) (cts : Nat) : Station :=
  let o := outputSerialData s.output cts
  { s with
    port := { s.port with
      serialReceiveBuffer := s.port.serialReceiveBuffer.revoke
      commandLength := 0 }
    output := { o with
      serialTransmitBuffer := o.serialTransmitBuffer.revoke
      commandRXBuffer := o.commandRXBuffer.revoke
      host := [] }
    commandTXBuffer := s.commandTXBuffer.revoke
    printed := [] }

/-- breakLink, as far as it touches the buffers. -/
def breakLink (s : Station) (cts : Nat) : Station :=
  let s := if s.port.inCommandMode then s else s.resetSerial cts
  { s with
    port := restartInput { s.port with radioTxBuffer := s.port.radioTxBuffer.revoke } }

/-- The packets that a pass loaded. -/
def loaded (s : Station) (packet : Option Reception) (c : Call) (p : Pass) : Station :=
  { s with
    port := if p.taken = [] then s.port else s.processWaitingSerial ch c
    commandTXBuffer :=
      if s.sendsCommand packet (s.inputs ch c) then (s.readyOutgoingCommandPacket ch).2
      else s.commandTXBuffer }

/-- RADIO_RESET and enterLinkUp call discardPreviousData, and breakLink is the
only way a pass enters RADIO_RESET. -/
def emptied (s : Station) (before : P2P.RadioState) (p : Pass) (cts : Nat) : Station :=
  if before = .reset ∨ p.linkUp then s.discardPreviousData cts
  else if p.radio.radioState = .reset then s.breakLink cts
  else s

/-- The pass of the radio in a call of updateRadioState. -/
def pass (s : Station) (packet : Option Reception) (c : Call) : Pass :=
  P2P.updateRadioState s.radio packet (s.inputs ch c)

def updateRadioState (s : Station) (packet : Option Reception) (c : Call) : Station :=
  let p := s.pass ch packet c
  let q := (s.loaded ch packet c p).received packet (s.inputs ch c) c.cts
  { q.emptied s.radio.radioState p c.flushCts with radio := p.radio }

/-- updateSerial, the serial port. -/
def updateSerial (s : Station) (incoming : List UInt8) (turns : List Turn) (millis : BitVec 32)
    (cts : Nat) : Station :=
  { s with
    output := outputSerialData s.output cts
    port := Serial.updateSerial s.port incoming turns millis }

/-- updateSerial, the remote commands; `response` is what one prints. -/
def remoteCommands (s : Station) (response : List UInt8) : Station :=
  let o := s.output
  let q := Serial.remoteCommands
    ⟨UInt8.ofNat s.port.commandLength,s.port.inCommandMode,o.commandRXBuffer,[]⟩ false
  let t : Station :=
    { s with
      port := { s.port with commandLength := q.commandLength.toNat }
      output := { o with commandRXBuffer := q.commandRXBuffer } }
  if o.commandRXBuffer.available ≠ 0 ∧ s.port.inCommandMode = false ∧
      o.commandRXBuffer.peek 0 = letterR then
    { t with
      commandTXBuffer := s.commandTXBuffer.pushAll response
      remoteCommandResponse := true }
  else t

def sendRemoteCommand (s : Station) (command : List UInt8) : Station :=
  if s.radio.Linked then
    { s with
      port := { s.port with waitRemoteCommandResponse := true }
      commandTXBuffer := s.commandTXBuffer.pushAll command
      remoteCommandResponse := false }
  else s

/-- A byte that systemPrint prints. -/
def print (s : Station) (b : UInt8) (cts : Nat) : Station :=
  { s with
    output := serialOutputByte s.output b cts
    printed := s.printed ++ [.text [b]] }

end Station

/-- What sets transactionComplete before a pass: nothing, the arrival of what is
on the air, or the end of a transmission or of anything else that is received. -/
inductive Transaction where
  | none
  | received
  | finished (bytes : List UInt8)
  deriving DecidableEq, Repr

/-- Two stations and the bytes on the air with their sender. -/
structure Pair where
  station : Side → Station
  air : Option (Side × List UInt8)

inductive Event where
  | updateRadioState (x : Side) (t : Transaction) (c : Call)
  | updateSerial (x : Side) (incoming : List UInt8) (turns : List Turn) (millis : BitVec 32)
      (cts : Nat)
  | remoteCommands (x : Side) (response : List UInt8)
  | sendRemoteCommand (x : Side) (command : List UInt8)
  | print (x : Side) (b : UInt8) (cts : Nat)
  | reset (x : Side)
  | lose

/-- The packet a pass of `x` finds, and what is left on the air. -/
def Pair.receive (b : Pair) (x : Side) (incomingBuffer : PacketBuffer) :
    Transaction → Option Reception × Option (Side × List UInt8)
  | .none => (none,b.air)
  | .finished bytes => (some (ch.decode incomingBuffer bytes),b.air)
  | .received =>
    match b.air with
    | some (s,bytes) =>
      if s = x then (none,b.air) else (some (ch.decode incomingBuffer bytes),none)
    | none => (none,none)

def Pair.set (b : Pair) (x : Side) (s : Station) : Pair :=
  { b with station := Function.update b.station x s }

/-- As in the model of the link, what is sent while something is on the air has
no receiver. -/
def Pair.updateRadioState (b : Pair) (x : Side) (t : Transaction) (c : Call) : Pair where
  station := Function.update b.station x
    ((b.station x).updateRadioState ch (b.receive ch x c.incomingBuffer t).1 c)
  air := (b.receive ch x c.incomingBuffer t).2.or
    (((b.station x).pass ch (b.receive ch x c.incomingBuffer t).1 c).onAir.map
      fun f => (x,ch.encode f c.msToNextHop c.outgoingPacket))

def Pair.step (b : Pair) : Event → Pair
  | .updateRadioState x t c => b.updateRadioState ch x t c
  | .updateSerial x incoming turns millis cts =>
    b.set x ((b.station x).updateSerial incoming turns millis cts)
  | .remoteCommands x response => b.set x ((b.station x).remoteCommands response)
  | .sendRemoteCommand x command => b.set x ((b.station x).sendRemoteCommand command)
  | .print x c cts => b.set x ((b.station x).print c cts)
  | .reset x =>
    b.set x { b.station x with radio := { (b.station x).radio with radioState := .reset } }
  | .lose => { b with air := none }

end LoRaSerial.Bridge
