import LoRaSerial.Codec.Crc16
import LoRaSerial.Codec.Whitening
import LoRaSerial.Datagram
import LoRaSerial.Lib.Overlay
import LoRaSerial.Settings

namespace LoRaSerial.Codec
open Overlay

/-- The AES-GCM library, each call with the key and the IV it is given. -/
structure Gcm where
  encrypt : List UInt8 → List UInt8 → List UInt8 → List UInt8
  decrypt : List UInt8 → List UInt8 → List UInt8 → List UInt8

/-- What the firmware relies on: encryption works in place on the bytes it is
given, and decryption undoes it under the same key and IV. -/
structure Gcm.Inverse (g : Gcm) : Prop where
  length_encrypt : ∀ key iv bs, (g.encrypt key iv bs).length = bs.length
  decrypt_encrypt : ∀ key iv bs, g.decrypt key iv (g.encrypt key iv bs) = bs

/-- The bytes memcpy takes from msToNextHop. -/
def channelTimerBytes (ms : BitVec 16) : List UInt8 :=
  [⟨ms.extractLsb' 0 8⟩,⟨ms.extractLsb' 8 8⟩]

/-- The 16 bits memcpy leaves in msToNextHopRemote. -/
def channelTimerOfBytes (lo hi : UInt8) : BitVec 16 := hi.toBitVec ++ lo.toBitVec

/-- The header fields in the order transmitDatagram writes them. -/
def headerOf (s : Settings) (c : Control) (msToNextHop : BitVec 16) (length : UInt8) :
    List UInt8 :=
  (if s.netIdInHeader then [s.netID] else []) ++ [c.byte] ++
    (if s.frequencyHop then channelTimerBytes msToNextHop else []) ++
    (if s.radioSpreadFactor = 6 then [length] else [])

/-- The fixed sizes of spread factor 6, less the trailer. -/
def sf6DatagramSize (l : Layout) : DatagramType → Nat
  | .findPartner | .syncClocks | .zeroAcks => l.headerBytes + 4
  | .dataAck => l.headerBytes
  | _ => maxPacketSize - l.trailerBytes

/-- txDatagramSize before the trailer is counted. -/
def datagramSize (s : Settings) (l : Layout) (t : DatagramType) (endOfTxData : Nat) : Nat :=
  if s.radioSpreadFactor = 6 then sf6DatagramSize l t else endOfTxData

/-- outgoingPacket with the header in front of the payload and the trailer
behind the datagram. -/
def plainBuffer (s : Settings) (l : Layout) (c : Control) (msToNextHop : BitVec 16)
    (outgoingPacket : List UInt8) (endOfTxData : Nat) : List UInt8 :=
  let length := UInt8.ofNat (endOfTxData - l.headerBytes)
  let size := datagramSize s l c.datagramType endOfTxData
  let buf := overlay outgoingPacket 0 (headerOf s c msToNextHop length)
  if s.enableCRC16 then overlay buf size (crc16Bytes (crc16 (buf.take size))) else buf

/-- The bytes transmitDatagram hands to the radio. `outgoingPacket` holds the
payload behind the header, `endOfTxData` is the index behind the payload, and
`c` is txControl once the ACK number and the yield request are selected. -/
def transmitDatagram (s : Settings) (l : Layout) (g : Gcm) (iv : List UInt8) (c : Control)
    (msToNextHop : BitVec 16) (outgoingPacket : List UInt8) (endOfTxData : Nat) : List UInt8 :=
  let txDatagramSize := (datagramSize s l c.datagramType endOfTxData + l.trailerBytes) % 256
  let buf := plainBuffer s l c msToNextHop outgoingPacket endOfTxData
  let buf :=
    if s.encryptData then overlay buf 0 (g.encrypt s.encryptionKey iv (buf.take txDatagramSize))
    else buf
  let buf :=
    if s.dataScrambling then overlay buf 0 (radioComputeWhitening (buf.take txDatagramSize))
    else buf
  buf.take txDatagramSize

/-- An accepted datagram: the control byte, the channel timer value when the
header has one, and rxDataBytes bytes from rxData on. -/
structure Received where
  control : Control
  msToNextHopRemote : Option (BitVec 16)
  data : List UInt8
  deriving DecidableEq, Repr

/-- MAX_VC, VC_BROADCAST and VC_UNASSIGNED as address bytes. -/
def maxVc : Nat := 32
def vcBroadcast : UInt8 := 0xff
def vcUnassigned : UInt8 := 0xfd

/-- The virtual-circuit header: length, destination, source. -/
def checkVcHeader (myVc : UInt8) (d : Received) : Except PacketType Received :=
  match d.data with
  | length :: destVc :: srcVc :: _ =>
    if srcVc ≠ vcUnassigned ∧ maxVc ≤ srcVc.toNat then .error .bad
    else if length.toNat ≠ d.data.length then .error .bad
    else if destVc ≠ vcBroadcast ∧ destVc ≠ myVc then .error .notMine
    else .ok d
  | _ => .error .bad

/-- The CRC test of rcvDatagram: both bytes have to differ to fail it. -/
def crcMismatch (buf : List UInt8) (rxDataBytes : Nat) : Bool :=
  let crc := crc16 (buf.take (rxDataBytes - 2))
  buf.getD (rxDataBytes - 2) 0 != (crc >>> 8).toUInt8 &&
    buf.getD (rxDataBytes - 1) 0 != (crc &&& 0xff).toUInt8

/-- Unscramble and decrypt the received bytes in place. -/
def decodeBuffer (s : Settings) (g : Gcm) (iv : List UInt8) (incomingBuffer : List UInt8)
    (rxDataBytes : Nat) : List UInt8 :=
  let buf :=
    if s.dataScrambling then
      overlay incomingBuffer 0 (radioComputeWhitening (incomingBuffer.take rxDataBytes))
    else incomingBuffer
  if s.encryptData then overlay buf 0 (g.decrypt s.encryptionKey iv (buf.take rxDataBytes))
  else buf

/-- The data behind the header: the length byte gives its size at spread factor
6, the received length otherwise. -/
def receivedData (s : Settings) (l : Layout) (buf : List UInt8) (pos rxDataBytes : Nat) :
    Except PacketType (List UInt8) :=
  if s.radioSpreadFactor = 6 then
    let length := (buf.getD pos 0).toNat
    if length + l.minDatagramSize ≤ rxDataBytes then .ok ((buf.drop (pos + 1)).take length)
    else .error .bad
  else .ok ((buf.drop pos).take (rxDataBytes - l.minDatagramSize))

/-- The part of rcvDatagram before the number switch, on the received bytes at
the front of incomingBuffer. -/
def parseDatagram (s : Settings) (l : Layout) (g : Gcm) (iv : List UInt8) (myVc : UInt8)
    (incomingBuffer : List UInt8) (rxDataBytes : Nat) : Except PacketType Received :=
  let buf := decodeBuffer s g iv incomingBuffer rxDataBytes
  let pos := if s.netIdInHeader then 1 else 0
  let c := Control.ofByte (buf.getD pos 0)
  let timer := if s.frequencyHop then
    some (channelTimerOfBytes (buf.getD (pos + 1) 0) (buf.getD (pos + 2) 0)) else none
  let dataPos := pos + 1 + (if s.frequencyHop then 2 else 0)
  if rxDataBytes < l.minDatagramSize then .error .bad
  else if s.netIdInHeader ∧ buf.getD 0 0 ≠ s.netID then .error .netIdMismatch
  else if s.enableCRC16 ∧ crcMismatch buf rxDataBytes then .error .crcError
  else if c.ignoreFrame then .error .bad
  else
    match receivedData s l buf dataPos rxDataBytes with
    | .error p => .error p
    | .ok data =>
      if s.operatingMode = .virtualCircuit then checkVcHeader myVc ⟨c,timer,data⟩
      else .ok ⟨c,timer,data⟩

/-- The entry of virtualCircuitList whose numbers a datagram is checked with. -/
def numberIndex (s : Settings) (d : Received) : Option (Fin 32) :=
  match s.operatingMode with
  | .multipoint => none
  | .pointToPoint => some 0
  | .virtualCircuit =>
    let srcVc := d.data.getD 2 0
    if h : srcVc.toNat < 32 then some ⟨srcVc.toNat,h⟩ else none

/-- rcvDatagram: parse the received bytes, then check the datagram number. -/
def rcvDatagram (s : Settings) (l : Layout) (g : Gcm) (iv : List UInt8) (myVc : UInt8)
    (virtualCircuitList : Fin 32 → AckNumbers) (space : FreeSpace)
    (incomingBuffer : List UInt8) (rxDataBytes : Nat) :
    (Fin 32 → AckNumbers) × PacketType × Option Received :=
  match parseDatagram s l g iv myVc incomingBuffer rxDataBytes with
  | .error p => (virtualCircuitList,p,none)
  | .ok d =>
    match numberIndex s d with
    | none => (virtualCircuitList,.datagram d.control.datagramType,some d)
    | some i =>
      let checked := rcvNumber (s.operatingMode == .virtualCircuit) (virtualCircuitList i)
        d.control d.data.length space
      (Function.update virtualCircuitList i checked.1,checked.2,some d)

end LoRaSerial.Codec
