import LoRaSerial.Config.Radio
import LoRaSerial.Config.Trim
import LoRaSerial.Lib.Rounding
import LoRaSerial.UniqueIds.Table

namespace LoRaSerial.Config
open UniqueIds (IdBytes)

structure TableRow where
  letter : Char
  requireAll : Bool
  digits : Nat
  name : String

def Parameter.row : Parameter → TableRow
  | .copyDebug => ⟨'D',true,0,"CopyDebug"⟩
  | .debug => ⟨'D',true,0,"Debug"⟩
  | .debugDatagrams => ⟨'D',true,0,"DebugDatagrams"⟩
  | .debugHeartbeat => ⟨'D',true,0,"DebugHeartbeat"⟩
  | .debugNvm => ⟨'D',true,0,"DebugNvm"⟩
  | .debugRadio => ⟨'D',true,0,"DebugRadio"⟩
  | .debugReceive => ⟨'D',true,0,"DebugReceive"⟩
  | .debugSerial => ⟨'D',true,0,"DebugSerial"⟩
  | .debugStates => ⟨'D',true,0,"DebugStates"⟩
  | .debugSync => ⟨'D',true,0,"DebugSync"⟩
  | .debugTraining => ⟨'D',true,0,"DebugTraining"⟩
  | .debugTransmit => ⟨'D',true,0,"DebugTransmit"⟩
  | .displayRealMillis => ⟨'D',true,0,"DisplayRealMillis"⟩
  | .printAckNumbers => ⟨'D',true,0,"PrintAckNumbers"⟩
  | .printChannel => ⟨'D',true,0,"PrintChannel"⟩
  | .printFrequency => ⟨'D',true,0,"PrintFrequency"⟩
  | .printLinkUpDown => ⟨'D',true,0,"PrintLinkUpDown"⟩
  | .printPacketQuality => ⟨'D',true,0,"PrintPacketQuality"⟩
  | .printPktData => ⟨'D',true,0,"PrintPktData"⟩
  | .printRfData => ⟨'D',true,0,"PrintRfData"⟩
  | .printTimestamp => ⟨'D',true,0,"PrintTimestamp"⟩
  | .printTxErrors => ⟨'D',true,0,"PrintTxErrors"⟩
  | .airSpeed => ⟨'R',false,0,"AirSpeed"⟩
  | .autoTune => ⟨'R',false,0,"AutoTune"⟩
  | .bandwidth => ⟨'R',false,2,"Bandwidth"⟩
  | .codingRate => ⟨'R',false,0,"CodingRate"⟩
  | .frequencyHop => ⟨'R',false,0,"FrequencyHop"⟩
  | .frequencyMax => ⟨'R',false,3,"FrequencyMax"⟩
  | .frequencyMin => ⟨'R',false,3,"FrequencyMin"⟩
  | .maxDwellTime => ⟨'R',false,0,"MaxDwellTime"⟩
  | .numberOfChannels => ⟨'R',false,0,"NumberOfChannels"⟩
  | .preambleLength => ⟨'R',false,0,"PreambleLength"⟩
  | .spreadFactor => ⟨'R',false,0,"SpreadFactor"⟩
  | .syncWord => ⟨'R',false,0,"SyncWord"⟩
  | .txPower => ⟨'R',false,0,"TxPower"⟩
  | .txToRxUsec => ⟨'R',false,0,"TxToRxUsec"⟩
  | .dataScrambling => ⟨'R',false,0,"DataScrambling"⟩
  | .enableCRC16 => ⟨'R',false,0,"EnableCRC16"⟩
  | .encryptData => ⟨'R',false,0,"EncryptData"⟩
  | .encryptionKey => ⟨'R',false,0,"EncryptionKey"⟩
  | .framesToYield => ⟨'R',false,0,"FramesToYield"⟩
  | .heartBeatTimeout => ⟨'R',false,0,"HeartBeatTimeout"⟩
  | .maxResends => ⟨'R',false,0,"MaxResends"⟩
  | .netID => ⟨'R',false,0,"NetID"⟩
  | .operatingMode => ⟨'R',false,0,"OperatingMode"⟩
  | .overHeadtime => ⟨'R',false,0,"OverHeadtime"⟩
  | .selectLedUse => ⟨'R',true,0,"SelectLedUse"⟩
  | .server => ⟨'R',false,0,"Server"⟩
  | .verifyRxNetID => ⟨'R',false,0,"VerifyRxNetID"⟩
  | .copySerial => ⟨'S',false,0,"CopySerial"⟩
  | .echo => ⟨'S',false,0,"Echo"⟩
  | .flowControl => ⟨'S',false,0,"FlowControl"⟩
  | .invertCts => ⟨'S',false,0,"InvertCts"⟩
  | .invertRts => ⟨'S',false,0,"InvertRts"⟩
  | .rtsOffBytes => ⟨'S',false,0,"RTSOffBytes"⟩
  | .rtsOnBytes => ⟨'S',false,0,"RTSOnBytes"⟩
  | .serialDelay => ⟨'S',false,0,"SerialDelay"⟩
  | .serialSpeed => ⟨'S',false,0,"SerialSpeed"⟩
  | .usbSerialWait => ⟨'S',false,0,"UsbSerialWait"⟩
  | .clientFindPartnerRetryInterval => ⟨'R',false,0,"ClientFindPartnerRetryInterval"⟩
  | .trainingKey => ⟨'R',false,0,"TrainingKey"⟩
  | .trainingTimeout => ⟨'R',false,0,"TrainingTimeout"⟩
  | .copyTriggers => ⟨'P',true,0,"CopyTriggers"⟩
  | .triggerEnable_31_0 => ⟨'P',true,0,"TriggerEnable_31-0"⟩
  | .triggerEnable_63_32 => ⟨'P',true,0,"TriggerEnable_63-32"⟩
  | .triggerWidth => ⟨'P',true,0,"TriggerWidth"⟩
  | .triggerWidthIsMultiplier => ⟨'P',true,0,"TriggerWidthIsMultiplier"⟩
  | .cmdVC => ⟨'V',false,0,"CmdVC"⟩

def Parameter.name (p : Parameter) : List Char := p.row.name.toList

/-- The order of the command table. -/
def commands : List Parameter :=
  [.copyDebug,.debug,.debugDatagrams,.debugHeartbeat,.debugNvm,.debugRadio,.debugReceive,
   .debugSerial,.debugStates,.debugSync,.debugTraining,.debugTransmit,.displayRealMillis,
   .printAckNumbers,.printChannel,.printFrequency,.printLinkUpDown,.printPacketQuality,
   .printPktData,.printRfData,.printTimestamp,.printTxErrors,.airSpeed,.autoTune,.bandwidth,
   .codingRate,.frequencyHop,.frequencyMax,.frequencyMin,.maxDwellTime,.numberOfChannels,
   .preambleLength,.spreadFactor,.syncWord,.txPower,.txToRxUsec,.dataScrambling,.enableCRC16,
   .encryptData,.encryptionKey,.framesToYield,.heartBeatTimeout,.maxResends,.netID,.operatingMode,
   .overHeadtime,.selectLedUse,.server,.verifyRxNetID,.copySerial,.echo,.flowControl,.invertCts,
   .invertRts,.rtsOffBytes,.rtsOnBytes,.serialDelay,.serialSpeed,.usbSerialWait,
   .clientFindPartnerRetryInterval,.trainingKey,.trainingTimeout,.copyTriggers,
   .triggerEnable_31_0,.triggerEnable_63_32,.triggerWidth,.triggerWidthIsMultiplier,.cmdVC]

def commandCount : Nat := commands.length

/-- A character of a string, which ends in a zero. -/
def charAt (s : List Char) (i : Nat) : Char := s.getD i '\x00'

/-- Case independent string comparison. -/
def stricmp : List Char → List Char → Int
  | [],str2 => 0 - (charAt str2 0).toUpper.toNat
  | c :: str1,str2 =>
    let char1 := c.toUpper
    let char2 := (charAt str2 0).toUpper
    if char1 = char2 then stricmp str1 str2.tail else char1.toNat - char2.toNat

/-- Case independent string comparison with specified maximum length, which is
never zero. -/
def strnicmp : Nat → List Char → List Char → Int
  | 0,_,_ => 0
  | length + 1,str1,str2 =>
    let char1 := (charAt str1 0).toUpper
    let char2 := (charAt str2 0).toUpper
    if char1 ≠ '\x00' ∧ char1 = char2 ∧ length ≠ 0 then strnicmp length str1.tail str2.tail
    else char1.toNat - char2.toNat

/-- A value behind the setting address of an entry. -/
inductive Stored where
  | bool (v : Bool)
  | u8 (v : UInt8)
  | u16 (v : UInt16)
  | u32 (v : UInt32)
  | float (v : Rat)
  | key (v : List UInt8)
  deriving DecidableEq

/-- A value of an integer or a boolean type. -/
def Stored.number : Stored → Nat
  | .bool v => v.toNat
  | .u8 v => v.toNat
  | .u16 v => v.toNat
  | .u32 v => v.toNat
  | .float _ | .key _ => 0

def operatingModeCode : OperatingMode → UInt8
  | .multipoint => 0
  | .pointToPoint => 1
  | .virtualCircuit => 2

/-- What the setting address of an entry points at, in tempSettings or at one of
the two globals. -/
def Parameter.stored (s : Settings) (airSpeed : UInt32) (cmdVc : UInt8) : Parameter → Stored
  | .copyDebug => .bool s.debugging.copyDebug
  | .debug => .bool s.debugging.debug
  | .debugDatagrams => .bool s.debugging.debugDatagrams
  | .debugHeartbeat => .bool s.debugging.debugHeartbeat
  | .debugNvm => .bool s.debugging.debugNvm
  | .debugRadio => .bool s.debugging.debugRadio
  | .debugReceive => .bool s.debugging.debugReceive
  | .debugSerial => .bool s.debugging.debugSerial
  | .debugStates => .bool s.debugging.debugStates
  | .debugSync => .bool s.debugging.debugSync
  | .debugTraining => .bool s.debugging.debugTraining
  | .debugTransmit => .bool s.debugging.debugTransmit
  | .displayRealMillis => .bool s.debugging.displayRealMillis
  | .printAckNumbers => .bool s.debugging.printAckNumbers
  | .printChannel => .bool s.debugging.printChannel
  | .printFrequency => .bool s.debugging.printFrequency
  | .printLinkUpDown => .bool s.debugging.printLinkUpDown
  | .printPacketQuality => .bool s.debugging.printPacketQuality
  | .printPktData => .bool s.debugging.printPktData
  | .printRfData => .bool s.debugging.printRfData
  | .printTimestamp => .bool s.debugging.printTimestamp
  | .printTxErrors => .bool s.debugging.printTxErrors
  | .airSpeed => .u32 airSpeed
  | .autoTune => .bool s.autoTuneFrequency
  | .bandwidth => .float s.radioBandwidth
  | .codingRate => .u8 s.radioCodingRate
  | .frequencyHop => .bool s.frequencyHop
  | .frequencyMax => .float s.frequencyMax
  | .frequencyMin => .float s.frequencyMin
  | .maxDwellTime => .u16 s.maxDwellTime
  | .numberOfChannels => .u8 s.numberOfChannels
  | .preambleLength => .u16 s.radioPreambleLength
  | .spreadFactor => .u8 s.radioSpreadFactor
  | .syncWord => .u8 s.radioSyncWord
  | .txPower => .u8 s.radioBroadcastPower_dbm
  | .txToRxUsec => .u32 s.txToRxUsec
  | .dataScrambling => .bool s.dataScrambling
  | .enableCRC16 => .bool s.enableCRC16
  | .encryptData => .bool s.encryptData
  | .encryptionKey => .key s.encryptionKey
  | .framesToYield => .u8 s.framesToYield
  | .heartBeatTimeout => .u16 s.heartbeatTimeout
  | .maxResends => .u8 s.maxResends
  | .netID => .u8 s.netID
  | .operatingMode => .u8 (operatingModeCode s.operatingMode)
  | .overHeadtime => .u16 s.overheadTime
  | .selectLedUse => .u8 s.selectLedUse
  | .server => .bool s.server
  | .verifyRxNetID => .bool s.verifyRxNetID
  | .copySerial => .bool s.serial.copySerial
  | .echo => .bool s.serial.echo
  | .flowControl => .bool s.serial.flowControl
  | .invertCts => .bool s.serial.invertCts
  | .invertRts => .bool s.serial.invertRts
  | .rtsOffBytes => .u16 s.serial.rtsOffBytes
  | .rtsOnBytes => .u16 s.serial.rtsOnBytes
  | .serialDelay => .u16 s.serial.serialTimeoutBeforeSendingFrame_ms
  | .serialSpeed => .u32 s.serial.serialSpeed
  | .usbSerialWait => .bool s.serial.usbSerialWait
  | .clientFindPartnerRetryInterval => .u8 s.clientFindPartnerRetryInterval
  | .trainingKey => .key s.trainingKey
  | .trainingTimeout => .u8 s.trainingTimeout
  | .copyTriggers => .bool s.triggers.copyTriggers
  | .triggerEnable_31_0 => .u32 s.triggers.triggerEnable
  | .triggerEnable_63_32 => .u32 s.triggers.triggerEnable2
  | .triggerWidth => .u8 s.triggers.triggerWidth
  | .triggerWidthIsMultiplier => .bool s.triggers.triggerWidthIsMultiplier
  | .cmdVC => .u8 cmdVc

/-- The globals that the commands of the table set, and what they print. -/
structure Console where
  radio : Radio
  airSpeed : UInt32
  cmdVc : UInt8
  myUniqueId : IdBytes
  uniqueIds : UniqueIds.Table
  printed : List UInt8

/-- `*command->setting`. -/
def Console.stored (c : Console) (p : Parameter) : Stored :=
  p.stored c.radio.tempSettings c.airSpeed c.cmdVc

def byteOf (c : Char) : UInt8 := UInt8.ofNat c.toNat
def charOf (b : UInt8) : Char := Char.ofNat b.toNat

def Console.systemWrite (c : Console) (data : List UInt8) : Console :=
  { c with printed := c.printed ++ data }

def Console.systemPrint (c : Console) (string : List Char) : Console :=
  c.systemWrite (string.map byteOf)

def newLine : List Char := ['\r','\n']

/-- Conversion d: an int. -/
def decimalText (value : Int) : List Char :=
  if value < 0 then '-' :: Nat.toDigits 10 value.natAbs else Nat.toDigits 10 value.toNat

/-- Conversion 02X: a byte. -/
def hexText (value : UInt8) : List Char :=
  [(value.toNat / 16).digitChar.toUpper,(value.toNat % 16).digitChar.toUpper]

/-- Conversion f with this many decimals. -/
def floatText (value : Rat) (decimals : Nat) : List Char :=
  let scaled := (Rounding.nearest (value.abs * 10 ^ decimals)).toNat
  let fraction := Nat.toDigits 10 (scaled % 10 ^ decimals)
  (if value < 0 then ['-'] else []) ++ Nat.toDigits 10 (scaled / 10 ^ decimals) ++
    if decimals = 0 then []
    else '.' :: (List.replicate (decimals - fraction.length) '0' ++ fraction)

/-- Display the encryption key. -/
def displayEncryptionKey (key : List UInt8) : List Char :=
  (List.range 16).flatMap fun index => hexText (key.getD index 0)

/-- What commandDisplay prints in front of the end of the line. Every integer
is converted to an int, the type of the only systemPrint that takes one number. -/
def Stored.text (digits : Nat) : Stored → List Char
  | .bool v => decimalText v.toNat
  | .u8 v => decimalText v.toNat
  | .u16 v => decimalText v.toNat
  | .u32 v => decimalText v.toBitVec.toInt
  | .float v => floatText v digits
  | .key v => displayEncryptionKey v

/-- Display a command. -/
def Console.commandDisplay (c : Console) (p : Parameter) : Console :=
  c.systemPrint ((c.stored p).text p.row.digits ++ newLine)

def airSpeedWarning : List Char :=
  "Warning: AirSpeed overrides bandwidth, coding rate, spread factor,".toList ++ newLine ++
    "heartbeatTimeout, and txToRxUsec".toList ++ newLine

/-- What a value that is accepted changes beside tempSettings: valSpeedAir warns,
valServer clears the unique IDs of a radio that becomes the server. -/
def Console.validated (c : Console) (p : Parameter) (text : List Char) : Console :=
  match p.entry.validate with
  | .valSpeedAir => c.systemPrint airSpeedWarning
  | .valServer =>
    { c with
      uniqueIds := (UniqueIds.valServer c.uniqueIds c.radio.settings.server c.myUniqueId
        (settingValue text) p.entry.minValue p.entry.maxValue).1 }
  | _ => c

/-- The two settings that are no fields of tempSettings. -/
def Console.setGlobal (c : Console) (p : Parameter) (text : List Char) : Console :=
  match p.entry.setting with
  | .airSpeed => { c with airSpeed := UInt32.ofNat (settingValue text) }
  | .cmdVc => { c with cmdVc := UInt8.ofNat (settingValue text) }
  | _ => c

/-- Set or display the command. The buffer starts behind the name. -/
def Console.commandSetOrDisplayValue (c : Console) (p : Parameter) (buffer : List Char) :
    Console × Bool :=
  if buffer = [] ∨ buffer = ['?'] then (c.commandDisplay p,true)
  else
    match buffer with
    | '=' :: text =>
      if p.accepts c.radio.settings text then
        let c := (c.validated p text).setGlobal p text
        ({ c with radio := commandSetByName c.radio p text },true)
      else (c,false)
    | _ => (c,false)

/-- The characters of a parameter name. -/
def inName (c : Char) : Bool := c != '=' && c != '?'

/-- The first entry of the table with this name. -/
def findCommand (param : List Char) (paramLength : Nat) : Option Parameter :=
  commands.find? fun p =>
    p.name.length == paramLength && strnicmp p.name.length param p.name == 0

/-- Set or display the parameter by name. -/
def Console.commandSetByName (c : Console) (commandString : List Char) : Console × Bool :=
  let param := commandString.drop 3
  match findCommand param (param.takeWhile inName).length with
  | none => (c,false)
  | some p => c.commandSetOrDisplayValue p (param.dropWhile inName)

end LoRaSerial.Config
