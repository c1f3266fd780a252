import LoRaSerial.Datagram
import Mathlib.Data.Fintype.Basic

namespace LoRaSerial.VC

/-- A virtual circuit address byte. The source reads it as int8_t where it
indexes and as uint8_t where it compares with the reserved ranges. -/
abbrev VcAddress := BitVec 8

abbrev maxVc : Nat := 32

def vcServer : VcAddress := 0x00
def vcBroadcast : VcAddress := 0xFF
def vcUnassigned : VcAddress := 0xFD
def vcIgnoreTx : VcAddress := 0xFC

/-- MIN_TX_NOT_ALLOWED and MIN_RX_NOT_ALLOWED, which is also PC_COMMAND. -/
def minTxNotAllowed : VcAddress := 0x60
def minRxNotAllowed : VcAddress := 0xE0

/-- The address of an entry of virtualCircuitList. -/
def VcAddress.ofNumber (v : Fin maxVc) : VcAddress := BitVec.ofNat 8 v

/-- The entry an address byte names as an array index, if there is one. -/
def VcAddress.index (a : VcAddress) : Option (Fin maxVc) :=
  if h : a.toNat < maxVc then some ⟨a.toNat,h⟩ else none

/-- `a & VCAB_NUMBER_MASK`. -/
def VcAddress.number (a : VcAddress) : Fin maxVc := ⟨a.toNat % maxVc,Nat.mod_lt _ (by decide)⟩

/-- `(a >> VCAB_NUMBER_BITS) & VCAB_CHANNEL_MASK`. -/
def VcAddress.channel (a : VcAddress) : Nat := a.toNat / maxVc

@[simp] theorem VcAddress.toNat_ofNumber (v : Fin maxVc) :
    (VcAddress.ofNumber v).toNat = v := by
  have := v.isLt
  simp only [maxVc] at this
  simp only [ofNumber,BitVec.toNat_ofNat]
  omega

@[simp] theorem VcAddress.index_ofNumber (v : Fin maxVc) :
    VcAddress.index (.ofNumber v) = some v := by
  simp [index]

@[simp] theorem VcAddress.number_ofNumber (v : Fin maxVc) :
    VcAddress.number (.ofNumber v) = v := by
  ext
  simp [number,Nat.mod_eq_of_lt v.isLt]

/-- The address of an entry is none of the special ones. -/
theorem VcAddress.ofNumber_not_special (v : Fin maxVc) :
    ¬minRxNotAllowed.toNat ≤ (VcAddress.ofNumber v).toNat := by
  have hv : v.val < 32 := v.isLt
  have hmin : minRxNotAllowed.toNat = 0xE0 := rfl
  rw [toNat_ofNumber,hmin]
  omega

theorem VcAddress.ofNumber_number {a : VcAddress} (h : a.toNat < maxVc) :
    VcAddress.ofNumber a.number = a :=
  BitVec.eq_of_toNat_eq (by simp [number,Nat.mod_eq_of_lt h])

theorem VcAddress.ofNumber_inj {v w : Fin maxVc}
    (h : VcAddress.ofNumber v = .ofNumber w) : v = w := by
  simpa using congrArg VcAddress.index h

/-- VC_STATE_TYPE, in the order the source compares it. -/
inductive VcState where
  | linkDown | linkAlive | sendUnknownAcks | waitSyncAcks | waitZeroAcks | connected
  deriving DecidableEq, Repr

def VcState.code : VcState → Nat
  | .linkDown => 0
  | .linkAlive => 1
  | .sendUnknownAcks => 2
  | .waitSyncAcks => 3
  | .waitZeroAcks => 4
  | .connected => 5

/-- An entry of virtualCircuitList. -/
structure VirtualCircuit where
  uniqueId : List UInt8
  valid : Bool
  wasConnected : Bool
  vcState : VcState
  numbers : AckNumbers
  lastTrafficMillis : BitVec 32
  deriving DecidableEq, Repr

/-- What stands behind an index outside the table, or behind no pointer at all. -/
def VirtualCircuit.garbage : VirtualCircuit where
  uniqueId := []
  valid := false
  wasConnected := false
  vcState := .linkDown
  numbers := .zero
  lastTrafficMillis := 0

/-- VC_RADIO_MESSAGE_HEADER and the bytes that follow it. -/
structure Datagram where
  length : UInt8
  destVc : VcAddress
  srcVc : VcAddress
  data : List UInt8
  deriving DecidableEq, Repr

def Datagram.bytes (d : Datagram) : List UInt8 :=
  d.length :: ⟨d.destVc⟩ :: ⟨d.srcVc⟩ :: d.data

/-- A datagram whose length byte is the number of its bytes. -/
def Datagram.build (destVc srcVc : VcAddress) (data : List UInt8) : Datagram :=
  ⟨UInt8.ofNat (3 + data.length),destVc,srcVc,data⟩

/-- A datagram on the air. `serial` is the sender's datagramsSent when it built
the frame: it is history, no modelled function reads it. -/
structure Frame where
  control : Control
  datagram : Datagram
  serial : Nat
  deriving DecidableEq, Repr

def Frame.rxDataBytes (f : Frame) : Nat := 3 + f.datagram.data.length

/-- A frame whose number is checked: a sequenced one or a DATA_ACK. -/
def Frame.numbered (f : Frame) : Bool := f.control.datagramType.numbered true

end LoRaSerial.VC
