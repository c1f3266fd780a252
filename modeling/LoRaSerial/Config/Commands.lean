import LoRaSerial.Settings

namespace LoRaSerial.Config

/-- The validation routines of the command table. -/
inductive Validation where
  | valInt | valBandwidth | valFreqMax | valFreqMin | valKey | valServer
  | valSpeedAir | valSpeedSerial
  deriving DecidableEq, Repr

/-- The type of an entry with its setting address. The settings do not hold
airSpeed and cmdVc. -/
inductive Setting where
  | bool (set : Bool → Settings → Settings)
  | u8 (set : UInt8 → Settings → Settings)
  | u16 (set : UInt16 → Settings → Settings)
  | u32 (set : UInt32 → Settings → Settings)
  | float (set : Rat → Settings → Settings)
  | key (set : List UInt8 → Settings → Settings)
  | airSpeed
  | cmdVc

structure CommandEntry where
  forceRadioReset : Bool
  minValue : Nat
  maxValue : Nat
  setting : Setting
  validate : Validation := .valInt

/-- The names of the command table. -/
inductive Parameter where
  | copyDebug | debug | debugDatagrams | debugHeartbeat | debugNvm | debugRadio | debugReceive
  | debugSerial | debugStates | debugSync | debugTraining | debugTransmit | displayRealMillis
  | printAckNumbers | printChannel | printFrequency | printLinkUpDown | printPacketQuality
  | printPktData | printRfData | printTimestamp | printTxErrors
  | airSpeed | autoTune | bandwidth | codingRate | frequencyHop | frequencyMax | frequencyMin
  | maxDwellTime | numberOfChannels | preambleLength | spreadFactor | syncWord | txPower
  | txToRxUsec
  | dataScrambling | enableCRC16 | encryptData | encryptionKey | framesToYield
  | heartBeatTimeout | maxResends | netID | operatingMode | overHeadtime | selectLedUse | server
  | verifyRxNetID
  | copySerial | echo | flowControl | invertCts | invertRts | rtsOffBytes | rtsOnBytes
  | serialDelay | serialSpeed | usbSerialWait
  | clientFindPartnerRetryInterval | trainingKey | trainingTimeout
  | copyTriggers | triggerEnable_31_0 | triggerEnable_63_32 | triggerWidth
  | triggerWidthIsMultiplier
  | cmdVC
  deriving DecidableEq, Repr

def operatingModeOf : UInt8 → OperatingMode
  | 0 => .multipoint
  | 1 => .pointToPoint
  | _ => .virtualCircuit

/-- An entry of TYPE_BOOL. -/
def CommandEntry.flag (forceRadioReset : Bool) (set : Bool → Settings → Settings) : CommandEntry :=
  { forceRadioReset, minValue := 0, maxValue := 1, setting := .bool set }

def CommandEntry.debug (set : Bool → DebugParameters → DebugParameters) : CommandEntry :=
  .flag false fun v s => { s with debugging := set v s.debugging }

/-- The command table. -/
def Parameter.entry : Parameter → CommandEntry
  | .copyDebug => .debug fun v d => { d with copyDebug := v }
  | .debug => .debug fun v d => { d with debug := v }
  | .debugDatagrams => .debug fun v d => { d with debugDatagrams := v }
  | .debugHeartbeat => .debug fun v d => { d with debugHeartbeat := v }
  | .debugNvm => .debug fun v d => { d with debugNvm := v }
  | .debugRadio => .debug fun v d => { d with debugRadio := v }
  | .debugReceive => .debug fun v d => { d with debugReceive := v }
  | .debugSerial => .debug fun v d => { d with debugSerial := v }
  | .debugStates => .debug fun v d => { d with debugStates := v }
  | .debugSync => .debug fun v d => { d with debugSync := v }
  | .debugTraining => .debug fun v d => { d with debugTraining := v }
  | .debugTransmit => .debug fun v d => { d with debugTransmit := v }
  | .displayRealMillis => .debug fun v d => { d with displayRealMillis := v }
  | .printAckNumbers => .debug fun v d => { d with printAckNumbers := v }
  | .printChannel => .debug fun v d => { d with printChannel := v }
  | .printFrequency => .debug fun v d => { d with printFrequency := v }
  | .printLinkUpDown => .debug fun v d => { d with printLinkUpDown := v }
  | .printPacketQuality => .debug fun v d => { d with printPacketQuality := v }
  | .printPktData => .debug fun v d => { d with printPktData := v }
  | .printRfData => .debug fun v d => { d with printRfData := v }
  | .printTimestamp => .debug fun v d => { d with printTimestamp := v }
  | .printTxErrors => .debug fun v d => { d with printTxErrors := v }
  -- Radio parameters
  | .airSpeed => ⟨true,0,0,.airSpeed,.valSpeedAir⟩
  | .autoTune => .flag true fun v s => { s with autoTuneFrequency := v }
  | .bandwidth => ⟨true,0,0,.float fun v s => { s with radioBandwidth := v },.valBandwidth⟩
  | .codingRate => ⟨true,5,8,.u8 fun v s => { s with radioCodingRate := v },.valInt⟩
  | .frequencyHop => .flag true fun v s => { s with frequencyHop := v }
  | .frequencyMax => ⟨true,0,931,.float fun v s => { s with frequencyMax := v },.valFreqMax⟩
  | .frequencyMin => ⟨true,900,0,.float fun v s => { s with frequencyMin := v },.valFreqMin⟩
  | .maxDwellTime => ⟨true,10,65535,.u16 fun v s => { s with maxDwellTime := v },.valInt⟩
  | .numberOfChannels => ⟨true,1,255,.u8 fun v s => { s with numberOfChannels := v },.valInt⟩
  | .preambleLength => ⟨true,6,65535,.u16 fun v s => { s with radioPreambleLength := v },.valInt⟩
  | .spreadFactor => ⟨true,6,12,.u8 fun v s => { s with radioSpreadFactor := v },.valInt⟩
  | .syncWord => ⟨true,0,255,.u8 fun v s => { s with radioSyncWord := v },.valInt⟩
  | .txPower => ⟨true,14,30,.u8 fun v s => { s with radioBroadcastPower_dbm := v },.valInt⟩
  | .txToRxUsec => ⟨true,0,999999,.u32 fun v s => { s with txToRxUsec := v },.valInt⟩
  -- Radio protocol parameters
  | .dataScrambling => .flag true fun v s => { s with dataScrambling := v }
  | .enableCRC16 => .flag true fun v s => { s with enableCRC16 := v }
  | .encryptData => .flag true fun v s => { s with encryptData := v }
  | .encryptionKey => ⟨true,0,0,.key fun v s => { s with encryptionKey := v },.valKey⟩
  | .framesToYield => ⟨false,0,255,.u8 fun v s => { s with framesToYield := v },.valInt⟩
  | .heartBeatTimeout =>
    ⟨false,250,65535,.u16 fun v s => { s with heartbeatTimeout := v },.valInt⟩
  | .maxResends => ⟨false,0,255,.u8 fun v s => { s with maxResends := v },.valInt⟩
  | .netID => ⟨true,0,255,.u8 fun v s => { s with netID := v },.valInt⟩
  | .operatingMode =>
    ⟨true,0,2,.u8 fun v s => { s with operatingMode := operatingModeOf v },.valInt⟩
  | .overHeadtime => ⟨true,0,1000,.u16 fun v s => { s with overheadTime := v },.valInt⟩
  | .selectLedUse => ⟨false,0,255,.u8 fun v s => { s with selectLedUse := v },.valInt⟩
  | .server => ⟨false,0,1,.bool fun v s => { s with server := v },.valServer⟩
  | .verifyRxNetID => .flag true fun v s => { s with verifyRxNetID := v }
  -- Serial parameters
  | .copySerial => .flag false fun v s => { s with serial.copySerial := v }
  | .echo => .flag false fun v s => { s with serial.echo := v }
  | .flowControl => .flag false fun v s => { s with serial.flowControl := v }
  | .invertCts => .flag false fun v s => { s with serial.invertCts := v }
  | .invertRts => .flag false fun v s => { s with serial.invertRts := v }
  | .rtsOffBytes => ⟨false,0,1024,.u16 fun v s => { s with serial.rtsOffBytes := v },.valInt⟩
  | .rtsOnBytes => ⟨false,0,1024,.u16 fun v s => { s with serial.rtsOnBytes := v },.valInt⟩
  | .serialDelay => ⟨false,10,2000,
    .u16 fun v s => { s with serial.serialTimeoutBeforeSendingFrame_ms := v },.valInt⟩
  | .serialSpeed =>
    ⟨false,0,0,.u32 fun v s => { s with serial.serialSpeed := v },.valSpeedSerial⟩
  | .usbSerialWait => .flag false fun v s => { s with serial.usbSerialWait := v }
  -- Training parameters
  | .clientFindPartnerRetryInterval =>
    ⟨true,1,255,.u8 fun v s => { s with clientFindPartnerRetryInterval := v },.valInt⟩
  | .trainingKey => ⟨false,0,0,.key fun v s => { s with trainingKey := v },.valKey⟩
  | .trainingTimeout => ⟨false,1,255,.u8 fun v s => { s with trainingTimeout := v },.valInt⟩
  -- Trigger parameters
  | .copyTriggers => .flag false fun v s => { s with triggers.copyTriggers := v }
  | .triggerEnable_31_0 =>
    ⟨false,0,0xffffffff,.u32 fun v s => { s with triggers.triggerEnable := v },.valInt⟩
  | .triggerEnable_63_32 =>
    ⟨false,0,0xffffffff,.u32 fun v s => { s with triggers.triggerEnable2 := v },.valInt⟩
  | .triggerWidth => ⟨false,1,255,.u8 fun v s => { s with triggers.triggerWidth := v },.valInt⟩
  | .triggerWidthIsMultiplier =>
    .flag false fun v s => { s with triggers.triggerWidthIsMultiplier := v }
  -- Virtual circuit parameters
  | .cmdVC => ⟨false,0,31,.cmdVc,.valInt⟩

def charToHex (c : Char) : Option Nat :=
  if c.isDigit then some (c.toNat - 48)
  else if 'A' ≤ c ∧ c ≤ 'F' then some (c.toNat - 55)
  else if 'a' ≤ c ∧ c ≤ 'f' then some (c.toNat - 87)
  else none

/-- Two hexadecimal digits to a byte. -/
def charHexToDec (a b : Char) : UInt8 :=
  UInt8.ofNat (16 * (charToHex a).getD 0 + (charToHex b).getD 0)

def keyBytes (text : List Char) : List UInt8 :=
  (List.range 16).map fun i => charHexToDec (text.getD (2 * i) '0') (text.getD (2 * i + 1) '0')

def digitsToNat (digits : List Char) : Nat :=
  digits.foldl (fun n c => 10 * n + (c.toNat - 48)) 0

/-- The longest decimal number at the start of the text. -/
def strtod (text : List Char) : Rat :=
  let whole := text.takeWhile Char.isDigit
  let fraction := match text.dropWhile Char.isDigit with
    | '.' :: rest => rest.takeWhile Char.isDigit
    | _ => []
  toDouble (digitsToNat whole + digitsToNat fraction / (10 : Rat) ^ fraction.length)

/-- settingValue; the conversion to 32 bits saturates. -/
def settingValue (text : List Char) : Nat := min (strtod text).floor.toNat 0xffffffff

/-- The characters a value may have. -/
def Setting.allows (c : Char) : Setting → Bool
  | .float _ => c.isDigit || c == '.'
  | .key _ => (charToHex c).isSome
  | _ => c.isDigit

def airSpeeds : List Nat := [40,150,400,1200,2400,4800,9600,19200,28800,38400]

def serialSpeeds : List Nat := [2400,4800,9600,14400,19200,38400,57600,115200]

/-- Validate a value against the table and, for the frequencies, against the
active settings. -/
def CommandEntry.validates (e : CommandEntry) (settings : Settings) (text : List Char) : Bool :=
  let x := strtod text
  let v := settingValue text
  match e.validate with
  | .valInt | .valServer => e.minValue ≤ v && v ≤ e.maxValue
  | .valBandwidth => toDouble (x * 100) = 1040 || x = toDouble 15.6 || toDouble (x * 100) = 2080 ||
      x = 31.25 || x = toDouble 41.7 || x = 62.5 || x = 125 || x = 250 || x = 500
  | .valFreqMax => settings.frequencyMin ≤ x && x ≤ e.maxValue
  | .valFreqMin => (e.minValue : Rat) ≤ x && x ≤ settings.frequencyMax
  | .valKey => text.length = 32 && text.all fun c => (charToHex c).isSome
  | .valSpeedAir => airSpeeds.contains v
  | .valSpeedSerial => serialSpeeds.contains v

/-- The settings of an air speed: spread factor, bandwidth, coding rate,
heartbeat timeout and delay to the receiver. -/
def setAirSpeed (s : Settings) (radioSpreadFactor : UInt8) (radioBandwidth : Rat)
    (radioCodingRate : UInt8) (heartbeatTimeout : UInt16) (txToRxUsec : UInt32) : Settings :=
  { s with radioSpreadFactor, radioBandwidth, radioCodingRate, heartbeatTimeout, txToRxUsec }

def convertAirSpeedToSettings (s : Settings) : Nat → Settings
  | 40 => setAirSpeed s 11 62.5 8
    (if s.operatingMode = .virtualCircuit then 60000 else 25000) 26026
  | 150 => setAirSpeed s 10 62.5 8
    (if s.operatingMode = .virtualCircuit then 15000 else 8000) 12190
  | 400 => setAirSpeed s 10 125 8 (if s.operatingMode = .virtualCircuit then 9000 else 5000) 6070
  | 1200 => setAirSpeed s 9 125 8 5000 2773
  | 2400 => setAirSpeed s 10 500 8 5000 1484
  | 4800 => setAirSpeed s 9 500 8 5000 657
  | 9600 => setAirSpeed s 8 500 7 5000 280
  | 19200 => setAirSpeed s 7 500 7 5000 119
  | 28800 => setAirSpeed s 6 500 6 5000 0
  | 38400 => setAirSpeed s 6 500 5 5000 0
  | _ => s

/-- The syntax and the validation of a value. -/
def Parameter.accepts (p : Parameter) (settings : Settings) (text : List Char) : Bool :=
  text.all (p.entry.setting.allows ·) && p.entry.validates settings text

/-- Set a parameter, and the settings that its validation sets. -/
def Parameter.assign (p : Parameter) (text : List Char) (s : Settings) : Settings :=
  let v := settingValue text
  match p.entry.setting with
  | .bool set => set (v != 0) s
  | .u8 set => set (UInt8.ofNat v) s
  | .u16 set => set (UInt16.ofNat v) s
  | .u32 set => set (UInt32.ofNat v) s
  | .float set => set (toFloat (strtod text)) s
  | .key set => set (keyBytes text) s
  | .airSpeed => convertAirSpeedToSettings s v
  | .cmdVc => s

end LoRaSerial.Config
