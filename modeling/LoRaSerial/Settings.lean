import Mathlib.Init

namespace LoRaSerial

inductive OperatingMode where
  | multipoint | pointToPoint | virtualCircuit
  deriving DecidableEq, Repr

/-- The significand of a floating point number with this many bits that is
nearest to a rational, ties to even. The range of the exponent is not bounded. -/
def roundTo (bits : Int) (x : Rat) : Rat :=
  if x = 0 then 0
  else
    let estimate : Int := x.num.natAbs.log2 - x.den.log2
    let exponent := if (2 : Rat) ^ estimate ≤ x.abs then estimate else estimate - 1
    let ulp := (2 : Rat) ^ (exponent + 1 - bits)
    let below := (x / ulp).floor
    let rest := x / ulp - below
    (if 1 < 2 * rest ∨ (2 * rest = 1 ∧ below % 2 = 1) then below + 1 else below) * ulp

/-- A conversion or an operation of type float, and of type double. -/
def toFloat : Rat → Rat := roundTo 24
def toDouble : Rat → Rat := roundTo 53

structure SerialParameters where
  copySerial : Bool := false
  invertCts : Bool := false
  invertRts : Bool := false
  serialSpeed : UInt32 := 57600
  serialTimeoutBeforeSendingFrame_ms : UInt16 := 50
  echo : Bool := false
  flowControl : Bool := false
  rtsOffBytes : UInt16 := 32
  rtsOnBytes : UInt16 := 256
  usbSerialWait : Bool := false
  deriving DecidableEq, Repr

structure TriggerParameters where
  copyTriggers : Bool := false
  triggerWidth : UInt8 := 25
  triggerWidthIsMultiplier : Bool := true
  triggerEnable : UInt32 := 0
  triggerEnable2 : UInt32 := 0
  deriving DecidableEq, Repr

structure DebugParameters where
  copyDebug : Bool := false
  debug : Bool := false
  debugDatagrams : Bool := false
  debugHeartbeat : Bool := false
  debugNvm : Bool := false
  debugRadio : Bool := false
  debugReceive : Bool := false
  debugSerial : Bool := false
  debugStates : Bool := false
  debugSync : Bool := false
  debugTraining : Bool := false
  debugTransmit : Bool := false
  displayRealMillis : Bool := false
  printAckNumbers : Bool := false
  printChannel : Bool := false
  printFrequency : Bool := false
  printLinkUpDown : Bool := false
  printPacketQuality : Bool := false
  printPktData : Bool := false
  printRfData : Bool := false
  printTimestamp : Bool := false
  printTxErrors : Bool := false
  deriving DecidableEq, Repr

/-- struct_settings with the values as delivered, in its order, but for the
size and the identifier in front. -/
structure Settings where
  frequencyMin : Rat := 902
  frequencyMax : Rat := 928
  radioBandwidth : Rat := 500
  txToRxUsec : UInt32 := 657
  frequencyHop : Bool := true
  numberOfChannels : UInt8 := 50
  maxDwellTime : UInt16 := 400
  radioBroadcastPower_dbm : UInt8 := 30
  radioCodingRate : UInt8 := 8
  radioSpreadFactor : UInt8 := 9
  radioSyncWord : UInt8 := 18
  radioPreambleLength : UInt16 := 8
  autoTuneFrequency : Bool := false
  operatingMode : OperatingMode := .pointToPoint
  selectLedUse : UInt8 := 4
  server : Bool := false
  netID : UInt8 := 192
  verifyRxNetID : Bool := true
  encryptionKey : List UInt8 := [0x37,0x78,0x21,0x41,0xa6,0x65,0x73,0x4e,0x44,0x75,0x67,0x2a,
    0xe6,0x30,0x83,0x08]
  encryptData : Bool := true
  dataScrambling : Bool := false
  enableCRC16 : Bool := true
  framesToYield : UInt8 := 3
  heartbeatTimeout : UInt16 := 5000
  overheadTime : UInt16 := 10
  maxResends : UInt8 := 0
  serial : SerialParameters := {}
  clientFindPartnerRetryInterval : UInt8 := 3
  trainingKey : List UInt8 := [0x53,0x70,0x61,0x72,0x6b,0x46,0x75,0x6e,0x54,0x72,0x61,0x69,
    0x6e,0x69,0x6e,0x67]
  trainingTimeout : UInt8 := 1
  triggers : TriggerParameters := {}
  debugging : DebugParameters := {}
  deriving DecidableEq, Repr

def defaultSettings : Settings := {}

/-- The four globals that cache the frame layout. -/
structure Layout where
  headerBytes : Nat
  trailerBytes : Nat
  minDatagramSize : Nat
  maxDatagramSize : Nat
  deriving DecidableEq, Repr

/-- MAX_PACKET_SIZE, the size of every packet buffer. -/
def maxPacketSize : Nat := 255

def Settings.netIdInHeader (s : Settings) : Bool :=
  s.operatingMode == .pointToPoint || s.verifyRxNetID

/-- Compute the number of header and trailer bytes. -/
def selectHeaderAndTrailerBytes (s : Settings) : Layout :=
  let headerBytes := (if s.netIdInHeader then 1 else 0) + 1 +
    (if s.frequencyHop then 2 else 0) + (if s.radioSpreadFactor = 6 then 1 else 0)
  let trailerBytes := if s.enableCRC16 then 2 else 0
  { headerBytes
    trailerBytes
    minDatagramSize := headerBytes + trailerBytes
    maxDatagramSize := maxPacketSize - (headerBytes + trailerBytes) }

/-- The header bytes that depend on the settings. -/
def Settings.optionalHeaderBytes (s : Settings) : Nat :=
  (if s.netIdInHeader then 1 else 0) + (if s.frequencyHop then 2 else 0) +
    (if s.radioSpreadFactor = 6 then 1 else 0)

/-- Two settings under which frames have the same header and trailer sizes. -/
def Settings.SameFrame (s s' : Settings) : Prop :=
  s.optionalHeaderBytes = s'.optionalHeaderBytes ∧ s.enableCRC16 = s'.enableCRC16

instance (s s' : Settings) : Decidable (s.SameFrame s') := inferInstanceAs (Decidable (_ ∧ _))

theorem Settings.SameFrame.refl (s : Settings) : s.SameFrame s := ⟨rfl,rfl⟩

theorem selectHeaderAndTrailerBytes_headerBytes (s : Settings) :
    (selectHeaderAndTrailerBytes s).headerBytes = s.optionalHeaderBytes + 1 := by
  simp only [selectHeaderAndTrailerBytes,Settings.optionalHeaderBytes]
  omega

theorem selectHeaderAndTrailerBytes_eq_iff {s s' : Settings} :
    selectHeaderAndTrailerBytes s = selectHeaderAndTrailerBytes s' ↔ s.SameFrame s' := by
  constructor
  · intro h
    have hheader := congrArg Layout.headerBytes h
    rw [selectHeaderAndTrailerBytes_headerBytes,selectHeaderAndTrailerBytes_headerBytes] at hheader
    have htrailer : (if s.enableCRC16 then 2 else 0) = if s'.enableCRC16 then 2 else 0 :=
      congrArg Layout.trailerBytes h
    refine ⟨by omega,?_⟩
    cases hs : s.enableCRC16 <;> cases hs' : s'.enableCRC16 <;> simp [hs,hs'] at htrailer ⊢
  · rintro ⟨hheader,hcrc⟩
    have hbytes : (selectHeaderAndTrailerBytes s).headerBytes =
        (selectHeaderAndTrailerBytes s').headerBytes := by
      rw [selectHeaderAndTrailerBytes_headerBytes,selectHeaderAndTrailerBytes_headerBytes,hheader]
    unfold selectHeaderAndTrailerBytes at hbytes ⊢
    dsimp only at hbytes ⊢
    rw [hbytes,hcrc]

theorem headerBytes_le (s : Settings) : (selectHeaderAndTrailerBytes s).headerBytes ≤ 5 := by
  unfold selectHeaderAndTrailerBytes
  dsimp only
  split <;> split <;> split <;> omega

theorem trailerBytes_le (s : Settings) : (selectHeaderAndTrailerBytes s).trailerBytes ≤ 2 := by
  unfold selectHeaderAndTrailerBytes
  dsimp only
  split <;> omega

/-- A layout that selectHeaderAndTrailerBytes computes. -/
def Layout.Selected (l : Layout) : Prop := ∃ s, l = selectHeaderAndTrailerBytes s

theorem selected (s : Settings) : (selectHeaderAndTrailerBytes s).Selected := ⟨s,rfl⟩

namespace Layout.Selected

variable {l : Layout}

theorem headerBytes_le (h : l.Selected) : l.headerBytes ≤ 5 := by
  obtain ⟨s,rfl⟩ := h
  exact LoRaSerial.headerBytes_le s

theorem trailerBytes_le (h : l.Selected) : l.trailerBytes ≤ 2 := by
  obtain ⟨s,rfl⟩ := h
  exact LoRaSerial.trailerBytes_le s

/-- Header, largest datagram and trailer fill the packet. -/
theorem packet (h : l.Selected) :
    l.headerBytes + l.maxDatagramSize + l.trailerBytes = maxPacketSize := by
  have hheader := h.headerBytes_le
  have htrailer := h.trailerBytes_le
  obtain ⟨s,rfl⟩ := h
  simp only [selectHeaderAndTrailerBytes,maxPacketSize] at hheader htrailer ⊢
  omega

end Layout.Selected

end LoRaSerial
