import LoRaSerial.Lib.Ring
import LoRaSerial.Lib.Runs

namespace LoRaSerial.Serial
open Rings

def escapeCharacter : UInt8 := 0x2B
def maxEscapeCharacters : Nat := 3
def minEscapeTime_ms : BitVec 32 := 2000

abbrev serialReceiveBufferSize : Nat := 1024
abbrev radioTxBufferSize : Nat := 1024 * 3
def commandBufferSize : Nat := 100

instance : NeZero serialReceiveBufferSize := ⟨by decide⟩
instance : NeZero radioTxBufferSize := ⟨by decide⟩

/-- The serial input in point-to-point and multipoint mode. `overwritten` says
whether a byte was ever stored in a ring that was full. -/
structure SerialInput where
  serialReceiveBuffer : Ring UInt8 serialReceiveBufferSize
  radioTxBuffer : Ring UInt8 radioTxBufferSize
  escapeCharsReceived : Nat
  lastByteReceived_ms : BitVec 32
  lastEscapeCharEnteredMillis : BitVec 32
  inCommandMode : Bool
  waitRemoteCommandResponse : Bool
  commandLength : Nat
  overwritten : Bool

/-- A byte the loop of processSerialInput took from serialReceiveBuffer, with
inCommandMode before and after its turn. -/
structure Taken where
  byte : UInt8
  before : Bool
  after : Bool
  deriving DecidableEq, Repr

/-- The serial input and its history, which the functions of a turn do not see:
inCommandMode when it began, the bytes updateSerial read, those the loop took,
and the payloads readyOutgoingPacket loaded. -/
structure Port extends SerialInput where
  modeAtStart : Bool
  received : List UInt8
  taken : List Taken
  payloads : List (List UInt8)

/-- What one turn of the loop in processSerialInput reads: the values millis
returns one after the other, and what checkCommand leaves of two flags. -/
structure Turn where
  millis : Fin 4 → BitVec 32
  inCommandMode : Bool
  waitRemoteCommandResponse : Bool

/-- No item fits: the next one would meet the tail. -/
def full {size : Nat} (r : Ring UInt8 size) : Bool := r.available + 1 == size

/-- radioTxBuffer[radioTxHead++] = data; radioTxHead %= sizeof(radioTxBuffer). -/
def SerialInput.transmit (s : SerialInput) (data : UInt8) : SerialInput :=
  { s with
    radioTxBuffer := s.radioTxBuffer.push data
    overwritten := s.overwritten || full s.radioTxBuffer }

def SerialInput.transmitAll (s : SerialInput) (data : List UInt8) : SerialInput :=
  data.foldl SerialInput.transmit s

/-- The escape characters that are held back. -/
def SerialInput.escapes (s : SerialInput) : List UInt8 :=
  .replicate s.escapeCharsReceived escapeCharacter

/-- Replay the escape characters. -/
def SerialInput.replay (s : SerialInput) : SerialInput :=
  { s.transmitAll s.escapes with escapeCharsReceived := 0 }

/-- checkCommand, as far as it touches the serial input. Not for ATB, which
breaks the link and empties radioTxBuffer. -/
def checkCommand (s : SerialInput) (t : Turn) : SerialInput :=
  { s with
    commandLength := 0
    inCommandMode := t.inCommandMode
    waitRemoteCommandResponse := t.waitRemoteCommandResponse }

def carriageReturn : UInt8 := 0x0D
def lineFeed : UInt8 := 0x0A
def semicolon : UInt8 := 0x3B
def backspace : UInt8 := 0x08

/-- A byte in command mode, and whether the loop is left. -/
def commandByte (s : SerialInput) (incoming : UInt8) (t : Turn) : SerialInput × Bool :=
  if incoming = carriageReturn ∨ incoming = semicolon then
    if 0 < s.commandLength then (checkCommand s t,true) else (s,false)
  else if incoming = lineFeed then (s,false)
  else if incoming = backspace then ({ s with commandLength := s.commandLength - 1 },false)
  else
    let s := { s with commandLength := s.commandLength + 1 }
    if commandBufferSize - 1 ≤ s.commandLength then (checkCommand s t,true) else (s,false)

/-- The byte may belong to an escape sequence: an escape character after two
seconds without traffic, or in the first two seconds. -/
def SerialInput.escaping (s : SerialInput) (incoming : UInt8) (t : Turn) : Bool :=
  incoming == escapeCharacter &&
    (minEscapeTime_ms.ult (t.millis 0 - s.lastByteReceived_ms) ||
      (t.millis 1).ult minEscapeTime_ms)

/-- A byte of the serial stream, and whether processSerialInput returns. -/
def streamByte (s : SerialInput) (incoming : UInt8) (t : Turn) : SerialInput × Bool :=
  if s.escaping incoming t then
    let s := { s with
      escapeCharsReceived := s.escapeCharsReceived + 1
      lastEscapeCharEnteredMillis := t.millis 2 }
    if s.escapeCharsReceived = maxEscapeCharacters then
      ({ s with
        inCommandMode := true
        escapeCharsReceived := 0
        lastByteReceived_ms := t.millis 3 },true)
    else (s,false)
  else
    ({ s with lastByteReceived_ms := t.millis 2 }.replay.transmit incoming,false)

/-- The conditions of the loop but for transactionComplete. -/
def SerialInput.ready (s : SerialInput) : Bool :=
  s.serialReceiveBuffer.available != 0 &&
    s.radioTxBuffer.available < radioTxBufferSize - maxEscapeCharacters &&
    (!s.inCommandMode || !s.waitRemoteCommandResponse)

/-- `byte = serialReceiveBuffer[rxTail++]`, rxTail wrapped. -/
def SerialInput.takeByte (s : SerialInput) : SerialInput :=
  { s with serialReceiveBuffer := s.serialReceiveBuffer.skip 1 }

/-- The turn that took `incoming` left `s`. -/
def Port.record (p : Port) (incoming : UInt8) (s : SerialInput) : Port :=
  { p with
    toSerialInput := s
    taken := p.taken ++ [⟨incoming,p.inCommandMode,s.inCommandMode⟩] }

/-- The loop of processSerialInput, one turn for each byte it may process before
transactionComplete is set; whether processSerialInput returned from it. -/
def processLoop (p : Port) : List Turn → Port × Bool
  | [] => (p,false)
  | t :: turns =>
    if p.ready then
      let incoming := p.serialReceiveBuffer.peek 0
      if p.inCommandMode then
        match commandByte p.takeByte incoming t with
        | (s,true) => (p.record incoming s,false)
        | (s,false) => processLoop (p.record incoming s) turns
      else
        match streamByte p.takeByte incoming t with
        | (s,true) => (p.record incoming s,true)
        | (s,false) => processLoop (p.record incoming s) turns
    else (p,false)

/-- Check for escape timeout. The space that the source tests here is that of
the other ring. -/
def escapeTimeout (s : SerialInput) (millis : BitVec 32) : SerialInput :=
  if 0 < s.escapeCharsReceived ∧
      minEscapeTime_ms.ult (millis - s.lastEscapeCharEnteredMillis) ∧
      s.serialReceiveBuffer.available < radioTxBufferSize - maxEscapeCharacters then s.replay
  else s

/-- Process serial input for point-to-point and multi-point modes. -/
def processSerialInput (p : Port) (turns : List Turn) (millis : BitVec 32) : Port :=
  match processLoop p turns with
  | (p,true) => p
  | (p,false) => { p with toSerialInput := escapeTimeout p.toSerialInput millis }

/-- serialReceiveBuffer[rxHead++] = incoming; rxHead %= sizeof(serialReceiveBuffer). -/
def Port.receive (p : Port) (incoming : UInt8) : Port :=
  { p with
    serialReceiveBuffer := p.serialReceiveBuffer.push incoming
    received := p.received ++ [incoming]
    overwritten := p.overwritten || full p.serialReceiveBuffer }

/-- The serial part of updateSerial; `incoming` are the bytes that arrive before
transactionComplete is set. -/
def updateSerial (p : Port) (incoming : List UInt8) (turns : List Turn) (millis : BitVec 32) :
    Port :=
  let bufferSpace := serialReceiveBufferSize - 1 - p.serialReceiveBuffer.available
  processSerialInput ((incoming.take bufferSpace).foldl Port.receive p) turns millis

/-- Send a portion of the radioTxBuffer to outgoingPacket. -/
def readyOutgoingPacket (p : Port) (bytesToSend : Nat) (maxDatagramSize : UInt8) : Port :=
  let q := p.radioTxBuffer.take (min bytesToSend maxDatagramSize.toNat)
  { p with radioTxBuffer := q.2, payloads := p.payloads ++ [q.1] }

/-- If we have data to send, get the packet ready. -/
def processWaitingSerial (p : Port) (sendNow timeout : Bool) (maxDatagramSize : UInt8) : Port :=
  let dataBytes := p.radioTxBuffer.available
  if maxDatagramSize.toNat ≤ dataBytes then readyOutgoingPacket p dataBytes maxDatagramSize
  else if sendNow ∨ (0 < dataBytes ∧ timeout) then readyOutgoingPacket p dataBytes maxDatagramSize
  else p

/-- Between two calls the rest of the firmware may run a remote command or stop
waiting for a response. -/
inductive Event where
  | updateSerial (incoming : List UInt8) (turns : List Turn) (millis : BitVec 32)
  | processWaitingSerial (sendNow timeout : Bool) (maxDatagramSize : UInt8)
  | other (commandLength : Nat) (waitRemoteCommandResponse : Bool)

def step (p : Port) : Event → Port
  | .updateSerial incoming turns millis => Serial.updateSerial p incoming turns millis
  | .processWaitingSerial sendNow timeout maxDatagramSize =>
    Serial.processWaitingSerial p sendNow timeout maxDatagramSize
  | .other commandLength waitRemoteCommandResponse =>
    { p with commandLength, waitRemoteCommandResponse }

/-- Both rings empty, wherever their indices are. -/
structure Port.Started (p : Port) : Prop where
  serialReceiveBuffer : p.serialReceiveBuffer.contents = []
  radioTxBuffer : p.radioTxBuffer.contents = []
  escapeCharsReceived : p.escapeCharsReceived = 0
  modeAtStart : p.modeAtStart = p.inCommandMode
  received : p.received = []
  taken : p.taken = []
  payloads : p.payloads = []
  overwritten : p.overwritten = false

end LoRaSerial.Serial
