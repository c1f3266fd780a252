import Mathlib.Data.BitVec

namespace LoRaSerial

/-- The packet types that fit the four bits of the control byte. -/
inductive DatagramType where
  | findPartner | syncClocks | zeroAcks
  | data | dataAck | heartbeat | remoteCommand | remoteCommandResponse
  | datagram
  | trainingFindPartner | trainingParams | trainingAck
  | vcHeartbeat | vcUnknownAcks | vcSyncAcks | vcZeroAcks
  deriving DecidableEq, Repr

/-- The value of a packet type; all of them are below MAX_DATAGRAM_TYPE. -/
def DatagramType.code : DatagramType → Nat
  | .findPartner => 0
  | .syncClocks => 1
  | .zeroAcks => 2
  | .data => 3
  | .dataAck => 4
  | .heartbeat => 5
  | .remoteCommand => 6
  | .remoteCommandResponse => 7
  | .datagram => 8
  | .trainingFindPartner => 9
  | .trainingParams => 10
  | .trainingAck => 11
  | .vcHeartbeat => 12
  | .vcUnknownAcks => 13
  | .vcSyncAcks => 14
  | .vcZeroAcks => 15

/-- The packet type in the low four bits of a control byte. -/
def DatagramType.ofCode (n : Nat) : DatagramType :=
  match n % 16 with
  | 0 => .findPartner
  | 1 => .syncClocks
  | 2 => .zeroAcks
  | 3 => .data
  | 4 => .dataAck
  | 5 => .heartbeat
  | 6 => .remoteCommand
  | 7 => .remoteCommandResponse
  | 8 => .datagram
  | 9 => .trainingFindPartner
  | 10 => .trainingParams
  | 11 => .trainingAck
  | 12 => .vcHeartbeat
  | 13 => .vcUnknownAcks
  | 14 => .vcSyncAcks
  | _ => .vcZeroAcks

/-- What rcvDatagram hands to the state machine: the received type, or one of
the common types above MAX_DATAGRAM_TYPE. -/
inductive PacketType where
  | datagram (type : DatagramType)
  | bad | crcError | netIdMismatch | duplicate | notMine
  deriving DecidableEq, Repr

/-- The two-bit number field of the control byte; `+ 1` is `(n + 1) & 3`. -/
abbrev AckNumber := BitVec 2

instance : NeZero (1 : AckNumber) := ⟨by decide⟩

/-- MAX_VC, the number of entries that a datagram number is checked against. -/
instance neZero_maxVc : NeZero 32 := ⟨by decide⟩

/-- CONTROL_U8. -/
structure Control where
  datagramType : DatagramType
  ackNumber : AckNumber
  requestYield : Bool
  ignoreFrame : Bool
  deriving DecidableEq, Repr

/-- The control byte, its bit-fields packed from the low end. -/
def Control.byte (c : Control) : UInt8 :=
  UInt8.ofNat (c.datagramType.code + 16 * c.ackNumber.toNat + 64 * c.requestYield.toNat +
    128 * c.ignoreFrame.toNat)

def Control.ofByte (b : UInt8) : Control where
  datagramType := .ofCode b.toNat
  ackNumber := BitVec.ofNat 2 (b.toNat / 16)
  requestYield := b.toNat / 64 % 2 = 1
  ignoreFrame := b.toNat / 128 % 2 = 1

theorem Control.ofByte_byte (c : Control) : Control.ofByte c.byte = c := by
  obtain ⟨t,n,y,i⟩ := c
  revert n
  cases t <;> cases y <;> cases i <;> decide

/-- The numbering fields of a VIRTUAL_CIRCUIT. Point-to-point mode uses those
of entry zero. -/
structure AckNumbers where
  txAckNumber : AckNumber
  rxAckNumber : AckNumber
  rmtTxAckNumber : AckNumber
  deriving DecidableEq, Repr

/-- Both number setters of the handshakes write zero in all three fields. -/
def AckNumbers.zero : AckNumbers := ⟨0,0,0⟩

/-- The types whose number the receiver checks and acknowledges. Virtual
circuits do not number their heartbeats. -/
def DatagramType.sequenced (virtualCircuit : Bool) : DatagramType → Bool
  | .data | .remoteCommand | .remoteCommandResponse => true
  | .heartbeat => !virtualCircuit
  | _ => false

/-- The types whose number rcvDatagram reads. -/
def DatagramType.numbered (virtualCircuit : Bool) (t : DatagramType) : Bool :=
  t.sequenced virtualCircuit || t == .dataAck

/-- Receive this data packet and set the next expected datagram number. -/
def AckNumbers.accept (vc : AckNumbers) : AckNumbers :=
  { vc with rxAckNumber := vc.rmtTxAckNumber, rmtTxAckNumber := vc.rmtTxAckNumber + 1 }

/-- Determine what packet type should be returned to the receiving code, and
account for an accepted number. -/
def validateDatagram (vc : AckNumbers) (datagramType : DatagramType) (ackNumber : AckNumber)
    (freeBytes rxDataBytes : Nat) (inCommandMode : Bool) : AckNumbers × PacketType :=
  if ackNumber ≠ vc.rmtTxAckNumber then
    if ackNumber = vc.rmtTxAckNumber - 1 then (vc,.duplicate) else (vc,.bad)
  else if (inCommandMode && datagramType == .data) || freeBytes < rxDataBytes then
    (vc,.bad)
  else
    (vc.accept,.datagram datagramType)

/-- Room the receiver has for the payload of a checked frame. -/
structure FreeSpace where
  commandRx : Nat
  serialTransmit : Nat
  inCommandMode : Bool
  deriving DecidableEq, Repr

/-- The free byte count rcvDatagram passes for each checked type. -/
def FreeSpace.bytes (space : FreeSpace) (rxDataBytes : Nat) : DatagramType → Nat
  | .heartbeat => rxDataBytes
  | .remoteCommand => space.commandRx
  | _ => space.serialTransmit

/-- Back pressure: the payload does not fit, or user data meets command mode. -/
def FreeSpace.Lacks (space : FreeSpace) (rxDataBytes : Nat) (t : DatagramType) : Prop :=
  (space.inCommandMode = true ∧ t = .data) ∨ space.bytes rxDataBytes t < rxDataBytes

/-- The number switch at the end of rcvDatagram, outside multipoint mode. -/
def rcvNumber (virtualCircuit : Bool) (vc : AckNumbers) (c : Control) (rxDataBytes : Nat)
    (space : FreeSpace) : AckNumbers × PacketType :=
  let validate := validateDatagram vc c.datagramType c.ackNumber
    (space.bytes rxDataBytes c.datagramType) rxDataBytes space.inCommandMode
  match c.datagramType with
  | .dataAck =>
    if c.ackNumber ≠ vc.txAckNumber then (vc,.bad)
    else ({ vc with txAckNumber := vc.txAckNumber + 1 },.datagram .dataAck)
  | .heartbeat => if virtualCircuit then (vc,.datagram .heartbeat) else validate
  | .remoteCommand | .remoteCommandResponse | .data => validate
  | t => (vc,.datagram t)

/-- The number transmitDatagram writes into the control byte. -/
def selectAckNumber (vc : AckNumbers) (datagramType : DatagramType) : AckNumber :=
  if datagramType = .dataAck then vc.rxAckNumber else vc.txAckNumber

/-- Everything the number switch can do with a frame. -/
inductive NumberCheck (virtualCircuit : Bool) (vc : AckNumbers) (c : Control)
    (rxDataBytes : Nat) (space : FreeSpace) : AckNumbers × PacketType → Prop
  | duplicate (hseq : c.datagramType.sequenced virtualCircuit = true)
      (hn : c.ackNumber + 1 = vc.rmtTxAckNumber) :
      NumberCheck virtualCircuit vc c rxDataBytes space (vc,.duplicate)
  | foreign (hseq : c.datagramType.sequenced virtualCircuit = true)
      (hn : c.ackNumber ≠ vc.rmtTxAckNumber) (hd : c.ackNumber + 1 ≠ vc.rmtTxAckNumber) :
      NumberCheck virtualCircuit vc c rxDataBytes space (vc,.bad)
  | noRoom (hseq : c.datagramType.sequenced virtualCircuit = true)
      (hn : c.ackNumber = vc.rmtTxAckNumber) (hs : space.Lacks rxDataBytes c.datagramType) :
      NumberCheck virtualCircuit vc c rxDataBytes space (vc,.bad)
  | accept (hseq : c.datagramType.sequenced virtualCircuit = true)
      (hn : c.ackNumber = vc.rmtTxAckNumber) :
      NumberCheck virtualCircuit vc c rxDataBytes space (vc.accept,.datagram c.datagramType)
  | ackRefused (ht : c.datagramType = .dataAck) (hn : c.ackNumber ≠ vc.txAckNumber) :
      NumberCheck virtualCircuit vc c rxDataBytes space (vc,.bad)
  | acknowledged (ht : c.datagramType = .dataAck) (hn : c.ackNumber = vc.txAckNumber) :
      NumberCheck virtualCircuit vc c rxDataBytes space
        ({ vc with txAckNumber := vc.txAckNumber + 1 },.datagram .dataAck)
  | unnumbered (hseq : c.datagramType.sequenced virtualCircuit = false)
      (ht : c.datagramType ≠ .dataAck) :
      NumberCheck virtualCircuit vc c rxDataBytes space (vc,.datagram c.datagramType)

theorem validateDatagram_check (virtualCircuit : Bool) (vc : AckNumbers) (c : Control)
    (rxDataBytes : Nat) (space : FreeSpace)
    (hseq : c.datagramType.sequenced virtualCircuit = true) :
    NumberCheck virtualCircuit vc c rxDataBytes space
      (validateDatagram vc c.datagramType c.ackNumber (space.bytes rxDataBytes c.datagramType)
        rxDataBytes space.inCommandMode) := by
  unfold validateDatagram
  by_cases hn : c.ackNumber = vc.rmtTxAckNumber
  · rw [if_neg (not_not.mpr hn)]
    by_cases hs : space.Lacks rxDataBytes c.datagramType
    · rw [if_pos (by simpa [FreeSpace.Lacks] using hs)]
      exact .noRoom hseq hn hs
    · rw [if_neg (by simpa [FreeSpace.Lacks] using hs)]
      exact .accept hseq hn
  · rw [if_pos hn]
    by_cases hd : c.ackNumber = vc.rmtTxAckNumber - 1
    · rw [if_pos hd]
      exact .duplicate hseq (by simp [hd])
    · rw [if_neg hd]
      exact .foreign hseq hn fun h => hd (eq_sub_of_add_eq h)

theorem rcvNumber_check (virtualCircuit : Bool) (vc : AckNumbers) (c : Control)
    (rxDataBytes : Nat) (space : FreeSpace) :
    NumberCheck virtualCircuit vc c rxDataBytes space
      (rcvNumber virtualCircuit vc c rxDataBytes space) := by
  have hvalid := validateDatagram_check virtualCircuit vc c rxDataBytes space
  obtain ⟨t,n,requestYield,ignoreFrame⟩ := c
  cases t
  case dataAck =>
    by_cases hn : n = vc.txAckNumber
    · simp only [rcvNumber,hn,ne_eq,not_true_eq_false,if_false]
      exact .acknowledged rfl rfl
    · simp only [rcvNumber,ne_eq,hn,not_false_eq_true,if_true]
      exact .ackRefused rfl hn
  case heartbeat =>
    cases virtualCircuit with
    | true => exact .unnumbered rfl (by simp)
    | false => exact hvalid rfl
  case data | remoteCommand | remoteCommandResponse => exact hvalid rfl
  all_goals exact .unnumbered rfl (by simp)

end LoRaSerial
