import LoRaSerial.Config.Commands
import LoRaSerial.HopTable
import LoRaSerial.Lib.Runs

namespace LoRaSerial.Config

/-- The states of updateRadioState. -/
inductive RadioState where
  | reset
  | p2pLinkDown | p2pWaitTxFindPartnerDone | p2pWaitSyncClocks | p2pWaitTxSyncClocksDone
  | p2pWaitZeroAcks | p2pWaitTxZeroAcksDone
  | p2pLinkUp | p2pLinkUpWaitTxDone
  | discoverBegin | discoverScanning | discoverWaitTxFindPartnerDone | discoverStandby
  | mpStandby | mpWaitTxDone
  | trainWaitTxFindPartnerDone | trainWaitRxRadioParameters | trainWaitTxParamAckDone
  | trainWaitForFindPartner | trainWaitTxRadioParamsDone
  | vcWaitServer | vcWaitTxDone | vcWaitReceive
  deriving DecidableEq, Repr

/-- The settings, their copies, and the globals computed from them. `eeprom` is
what loadSettings reads at the next boot, and `hopTable` is none before the
first generateHopTable. -/
structure Radio where
  radioBand : Nat
  myUniqueId : List UInt8
  settings : Settings
  tempSettings : Settings
  trainingSettings : Settings
  originalSettings : Settings
  eeprom : Settings
  serialOperatingMode : OperatingMode
  inCommandMode : Bool
  forceRadioReset : Bool
  writeOnCommandExit : Bool
  inTraining : Bool
  buttonWasPressed : Bool
  radioState : RadioState
  layout : Layout
  hopTable : Option HopTable
  channelNumber : UInt8
  radioFrequency : Option Rat
  timeToHop : Bool

def clamp (s : Settings) (low high defaultMin defaultMax : Rat) : Settings :=
  { s with
    frequencyMin := if s.frequencyMin < low ∨ high < s.frequencyMin then defaultMin
      else s.frequencyMin
    frequencyMax := if high < s.frequencyMax ∨ s.frequencyMax < low then defaultMax
      else s.frequencyMax }

/-- Modify defaults for each radio type, by the band of the module. -/
def validateSettings (radioBand : Nat) (s : Settings) : Settings :=
  match radioBand with
  | 915 => clamp s 900 931 902 928
  | 868 => clamp s 862 893 862 893
  | 433 => clamp s 410 510 420 450
  | _ => s

/-- setup() with these settings in the EEPROM, which loadSettings validates and
records. All other globals have their initial values, and beginLoRa enters
RADIO_RESET. -/
def boot (radioBand : Nat) (myUniqueId : List UInt8) (eeprom : Settings) : Radio where
  radioBand
  myUniqueId
  settings := validateSettings radioBand eeprom
  tempSettings := defaultSettings
  trainingSettings := defaultSettings
  originalSettings := defaultSettings
  eeprom := validateSettings radioBand eeprom
  serialOperatingMode := eeprom.operatingMode
  inCommandMode := false
  forceRadioReset := false
  writeOnCommandExit := false
  inTraining := false
  buttonWasPressed := false
  radioState := .reset
  layout := ⟨0,0,0,0⟩
  hopTable := none
  channelNumber := 0
  radioFrequency := none
  timeToHop := false

/-- Notify the host, then reboot the system. -/
def commandReset (r : Radio) : Radio := boot r.radioBand r.myUniqueId r.eeprom

/-- Record the current settings struct to EEPROM. -/
def recordSystemSettings (r : Radio) : Radio := { r with eeprom := r.settings }

def Radio.changeState (r : Radio) (s : RadioState) : Radio := { r with radioState := s }

def Radio.setSettings (r : Radio) (s : Settings) : Radio := { r with settings := s }

/-- The channels array that the last generateHopTable allocated. -/
def Radio.channels (r : Radio) : Option (List Rat) := r.hopTable.map HopTable.channels

/-- Set radio frequency: the read of `channels[channelNumber]`. -/
def setRadioFrequency (r : Radio) : Radio :=
  { r with radioFrequency := r.channels.bind fun t => t[r.channelNumber.toNat]? }

/-- Go to a channel, and set its frequency. -/
def Radio.tune (r : Radio) (channelNumber : UInt8) : Radio :=
  setRadioFrequency { r with channelNumber }

/-- Set the next radio frequency given the hop direction and frequency table. -/
def hopChannel (r : Radio) (moveForwardThroughTable : Bool) (channelCount : UInt8) : Radio :=
  { r with timeToHop := false }.tune
    (hopTarget moveForwardThroughTable channelCount r.channelNumber r.settings)

/-- Both start and stop of the channel timer drop a hop that is due. -/
def Radio.dropHop (r : Radio) : Radio := { r with timeToHop := false }

/-- delayedHopCount: a hop that is due, one the remote system has made, and one
it is about to make. -/
def Radio.delayedHopCount (r : Radio) (remoteHopped nearDwell : Bool) : UInt8 :=
  UInt8.ofNat (r.timeToHop.toNat + remoteHopped.toNat + nearDwell.toNat)

/-- Adjust our own channelTimer interrupt to be synchronized with the remote
unit, then do the hops that are missing. -/
def syncChannelTimer (r : Radio) (clockSyncReceiver remoteHopped nearDwell : Bool) : Radio :=
  if clockSyncReceiver = false ∨ r.settings.frequencyHop = false then r
  else
    let delayedHopCount := r.delayedHopCount remoteHopped nearDwell
    if delayedHopCount = 0 then r.dropHop else hopChannel r.dropHop true delayedHopCount

/-- Apply settings to radio. -/
def configureRadio (r : Radio) : Radio := r.tune 0

def Radio.selectLayout (r : Radio) : Radio :=
  { r with layout := selectHeaderAndTrailerBytes r.settings }

def Radio.newTable (r : Radio) : Radio :=
  { r with hopTable := some (generateHopTable r.settings) }

/-- Where RADIO_RESET ends. A multipoint server falls through to discovery. -/
def stateAfterReset : OperatingMode → RadioState
  | .pointToPoint => .p2pLinkDown
  | .virtualCircuit => .vcWaitTxDone
  | .multipoint => .discoverBegin

/-- The pass of updateRadioState in RADIO_RESET. -/
def resetPass (r : Radio) : Radio :=
  (configureRadio r.newTable.selectLayout.dropHop).changeState
    (stateAfterReset r.settings.operatingMode)

/-- The settings both sides of a training use. -/
def trainingRadioSettings (trainingSettings : Settings) : Settings :=
  let debugTraining := trainingSettings.debugging.debugTraining
  { defaultSettings with
    dataScrambling := true
    enableCRC16 := true
    encryptData := true
    encryptionKey := trainingSettings.trainingKey
    frequencyHop := false
    maxResends := 1
    netID := 84
    operatingMode := .multipoint
    radioBroadcastPower_dbm := 14
    selectLedUse := if debugTraining then trainingSettings.selectLedUse else 7
    verifyRxNetID := true
    debugging := if debugTraining then { trainingSettings.debugging with copyDebug := false }
      else {}
    triggers := if debugTraining then { trainingSettings.triggers with copyTriggers := false }
      else {} }

/-- What starting a training reads from elsewhere: whether FIND_PARTNER could be
sent, and the random netID and key. -/
structure TrainingInputs where
  transmitted : Bool
  netID : UInt8
  encryptionKey : List UInt8

/-- Select the training frequency, a multiple of channels (the major version of
the firmware) down from the maximum. -/
def trainFrequency (s : Settings) : Rat :=
  toFloat (s.frequencyMax - toFloat (channelSpacing s * (2 % s.numberOfChannels.toNat : Nat)))

/-- Perform the common training initialization. The training frequency takes
the place of channel 0. -/
def commonTrainingInitialization (r : Radio) : Radio :=
  let r := (r.setSettings (trainingRadioSettings r.trainingSettings)).selectLayout
  let r := r.newTable
  configureRadio { r with
    hopTable := r.hopTable.map fun t =>
      { t with channels := t.channels.set 0 (trainFrequency r.settings) } }

/-- Start the training in client mode. -/
def beginTrainingClient (r : Radio) (i : TrainingInputs) : Radio :=
  (commonTrainingInitialization r).changeState
    (if i.transmitted then .trainWaitTxFindPartnerDone else .trainWaitRxRadioParameters)

/-- Start the training in server mode. -/
def beginTrainingServer (r : Radio) : Radio :=
  let r := commonTrainingInitialization r
  (r.setSettings { r.settings with server := true }).changeState .trainWaitForFindPartner

/-- Select the training protocol. -/
def selectTraining (r : Radio) (i : TrainingInputs) : Radio :=
  if r.settings.server then beginTrainingServer r else beginTrainingClient r i

/-- Generate new netID/AES key to share. -/
def generateRandomKeysID (s : Settings) (i : TrainingInputs) : Settings :=
  { s with netID := i.netID, encryptionKey := i.encryptionKey }

/-- The payload of a TRAINING_PARAMS frame. -/
structure TrainingParams where
  clientID : List UInt8
  serverID : List UInt8
  params : Settings

/-- Build the server parameters packet used for training. -/
def xmitDatagramTrainRadioParameters (trainingSettings : Settings)
    (clientID myUniqueId : List UInt8) : TrainingParams where
  clientID
  serverID := myUniqueId
  params := { trainingSettings with server := false }

/-- Copy the training parameters received from the server into the settings
that will eventually be written into the NVM. -/
def updateRadioParameters (trainingSettings params : Settings) : Settings :=
  { trainingSettings with
    autoTuneFrequency := params.autoTuneFrequency
    frequencyHop := params.frequencyHop
    frequencyMax := params.frequencyMax
    frequencyMin := params.frequencyMin
    maxDwellTime := params.maxDwellTime
    numberOfChannels := params.numberOfChannels
    radioBandwidth := params.radioBandwidth
    radioBroadcastPower_dbm := params.radioBroadcastPower_dbm
    radioCodingRate := params.radioCodingRate
    radioPreambleLength := params.radioPreambleLength
    radioSpreadFactor := params.radioSpreadFactor
    radioSyncWord := params.radioSyncWord
    txToRxUsec := params.txToRxUsec
    dataScrambling := params.dataScrambling
    enableCRC16 := params.enableCRC16
    encryptData := params.encryptData
    encryptionKey := params.encryptionKey
    framesToYield := params.framesToYield
    heartbeatTimeout := params.heartbeatTimeout
    maxResends := params.maxResends
    netID := params.netID
    operatingMode := params.operatingMode
    overheadTime := params.overheadTime
    selectLedUse := params.selectLedUse
    server := params.server
    verifyRxNetID := params.verifyRxNetID
    debugging := if params.debugging.copyDebug then params.debugging
      else trainingSettings.debugging
    -- rtsOffBytes and rtsOnBytes are not copied.
    serial := if params.serial.copySerial then
        { params.serial with
          rtsOffBytes := trainingSettings.serial.rtsOffBytes
          rtsOnBytes := trainingSettings.serial.rtsOnBytes }
      else trainingSettings.serial
    clientFindPartnerRetryInterval := params.clientFindPartnerRetryInterval
    trainingTimeout := params.trainingTimeout
    triggers := if params.triggers.copyTriggers then params.triggers
      else trainingSettings.triggers }

/-- The client gets the radio parameters. `transmitted` tells that it could
send the ACK. -/
def trainingParamsReceived (r : Radio) (frame : TrainingParams) (transmitted : Bool) : Radio :=
  if frame.clientID ≠ r.myUniqueId then r
  else
    let r := { r with
      trainingSettings := updateRadioParameters r.trainingSettings frame.params }
    if transmitted then r.changeState .trainWaitTxParamAckDone else r

/-- Upon successful exchange of parameters, switch to the new radio settings. -/
def endClientServerTraining (r : Radio) : Radio :=
  let r := r.setSettings r.trainingSettings
  commandReset (if r.settings.server then r else recordSystemSettings r)

/-- The server gets the ACK of a client. A training by button in point-to-point
mode is over with the first. -/
def trainingAckReceived (r : Radio) : Radio :=
  if r.inTraining ∧ r.trainingSettings.operatingMode = .pointToPoint ∧
      r.trainingSettings.server = false then
    commandReset (recordSystemSettings (r.setSettings r.trainingSettings))
  else r

/-- AT-Param=value, ATB, ATF, ATG, ATO, ATT, ATW, ATZ, and the commands that
change none of this. -/
inductive Command where
  | setParameter (p : Parameter) (value : List Char)
  | breakLink | restoreFactory | generateKeys | exitCommandMode | train | write | reboot
  | other
  deriving DecidableEq

/-- Set the parameter by name. Some ask for a radio reset. -/
def commandSetByName (r : Radio) (p : Parameter) (value : List Char) : Radio :=
  if p.accepts r.settings value then
    { r with
      tempSettings := p.assign value r.tempSettings
      forceRadioReset := r.forceRadioReset || p.entry.forceRadioReset }
  else r

/-- ATF - Restore default parameters. -/
def restoreFactory (r : Radio) : Radio :=
  let settings := validateSettings r.radioBand defaultSettings
  recordSystemSettings { r with settings, tempSettings := settings, forceRadioReset := true }

/-- ATO - Exit command mode. -/
def exitCommandMode (r : Radio) : Radio :=
  let r := { r with inCommandMode := false, settings := r.tempSettings }
  let r := if r.writeOnCommandExit then
      recordSystemSettings { r with writeOnCommandExit := false }
    else r
  if r.forceRadioReset then { r with forceRadioReset := false }.changeState .reset else r

/-- The settings are written before the system reboots. -/
def writeBeforeReboot (r : Radio) : Radio :=
  if r.writeOnCommandExit then recordSystemSettings (r.setSettings r.tempSettings) else r

/-- ATZ - Reboots the system. -/
def rebootCommand (r : Radio) : Radio := commandReset (writeBeforeReboot r)

/-- Process a command. `printToRf` tells that it came over the radio link. -/
def checkCommand (r : Radio) (c : Command) (printToRf : Bool) (i : TrainingInputs) : Radio :=
  match c with
  | .setParameter p value => commandSetByName r p value
  | .breakLink => r.changeState .reset
  | .restoreFactory => restoreFactory r
  | .generateKeys => { r with tempSettings := generateRandomKeysID r.tempSettings i }
  | .exitCommandMode => if printToRf then r else exitCommandMode r
  | .train => selectTraining { r with trainingSettings := r.tempSettings } i
  | .write => { r with writeOnCommandExit := true }
  | .reboot => rebootCommand r
  | .other => r

/-- The escape sequence of processSerialInput. -/
def enterCommandMode (r : Radio) : Radio :=
  { r with
    inCommandMode := true
    forceRadioReset := false
    writeOnCommandExit := false
    tempSettings := r.settings }

/-- `tempSettings = settings`. -/
def Radio.loadTemp (r : Radio) : Radio := { r with tempSettings := r.settings }

/-- A command of virtual circuit mode: checkCommand between two assignments of
the settings. A reboot never gets to the second. -/
def applyCommand (r : Radio) (c : Command) (printToRf : Bool) (i : TrainingInputs) : Radio :=
  let r := checkCommand r.loadTemp c printToRf i
  if c = .reboot then r else r.setSettings r.tempSettings

def trainButtonClientTime : Nat := 3000
def trainButtonServerTime : Nat := 6000
def trainButtonFactoryResetTime : Nat := 10000

/-- Button just released. -/
def buttonReleased (r : Radio) (deltaTime : Nat) (i : TrainingInputs) : Radio :=
  let r := r.setSettings r.originalSettings
  if r.inCommandMode then r
  else if trainButtonServerTime ≤ deltaTime then
    let trainingSettings := if r.settings.operatingMode = .pointToPoint then
        generateRandomKeysID r.settings i
      else r.settings
    beginTrainingServer { r with trainingSettings, inTraining := true }
  else if trainButtonClientTime ≤ deltaTime then
    beginTrainingClient { r with trainingSettings := r.settings, inTraining := true } i
  else if r.inTraining then { r with inTraining := false }.changeState .reset
  else r

/-- Button just pressed: save the previous LED state, with all settings. -/
def buttonJustPressed (r : Radio) : Radio :=
  if r.inTraining then r
  else { r with originalSettings := r.settings, settings.selectLedUse := 5 }

/-- Check the train button and change state accordingly. -/
def updateButton (r : Radio) (buttonPressed : Bool) (deltaTime : Nat) (i : TrainingInputs) :
    Radio :=
  if r.buttonWasPressed then
    if trainButtonFactoryResetTime ≤ deltaTime then
      commandReset { r with eeprom := defaultSettings }
    else if buttonPressed then r
    else { buttonReleased r deltaTime i with buttonWasPressed := false }
  else if buttonPressed then
    { buttonJustPressed r with buttonWasPressed := true }
  else r

/-- What the radio does with these globals. `radioState` is any other change of
the state, and the timer may fire at any time. -/
inductive Event where
  | escape
  | localCommand (c : Command) (i : TrainingInputs)
  | remoteCommand (c : Command) (i : TrainingInputs)
  | vcCommand (c : Command) (i : TrainingInputs)
  | vcRemoteCommand (c : Command) (i : TrainingInputs)
  | updateButton (buttonPressed : Bool) (deltaTime : Nat) (i : TrainingInputs)
  | powerUp
  | resetPass
  | radioState (s : RadioState)
  | trainingParams (frame : TrainingParams) (transmitted : Bool)
  | trainingAckSent
  | trainingAckReceived
  | channelTimerHandler
  | hopWhenDue
  | dropHop
  | handshakeHop
  | enterLinkUp
  | hopChannelReverse
  | goHome
  | syncClocks (channelNumber : UInt8)
  | heartbeat (channelNumber : UInt8)
  | syncChannelTimer (clockSyncReceiver remoteHopped nearDwell : Bool)

/-- The state in which an event happens, as far as the source checks it. -/
def Event.Enabled (r : Radio) : Event → Prop
  | .escape => r.serialOperatingMode ≠ .virtualCircuit ∧ r.inCommandMode = false
  | .localCommand _ _ => r.serialOperatingMode ≠ .virtualCircuit ∧ r.inCommandMode = true
  | .remoteCommand _ _ => r.inCommandMode = false
  | .vcCommand _ _ => r.serialOperatingMode = .virtualCircuit
  | .vcRemoteCommand _ _ => r.radioState = .vcWaitReceive ∨ r.radioState = .vcWaitTxDone
  | .resetPass => r.radioState = .reset
  | .radioState _ => r.radioState ≠ .reset
  | .trainingParams _ _ => r.radioState = .trainWaitRxRadioParameters
  | .trainingAckSent => r.radioState = .trainWaitTxParamAckDone
  | .trainingAckReceived => r.radioState = .trainWaitForFindPartner
  | .hopWhenDue => r.timeToHop = true
  | .handshakeHop =>
    r.radioState = .p2pWaitSyncClocks ∨ r.radioState = .p2pWaitTxSyncClocksDone
  | .enterLinkUp => r.radioState = .p2pWaitZeroAcks ∨ r.radioState = .p2pWaitTxZeroAcksDone
  | .hopChannelReverse => r.radioState = .discoverScanning
  | .goHome => r.radioState = .p2pLinkDown ∨ r.radioState = .discoverBegin ∨
      r.radioState = .discoverScanning ∨ r.radioState = .vcWaitServer
  | .syncClocks _ => r.radioState = .discoverScanning ∧ r.settings.server = false
  | .heartbeat _ => r.radioState = .discoverStandby ∧ r.settings.server = false
  | _ => True

instance (r : Radio) (e : Event) : Decidable (e.Enabled r) := by
  cases e <;> unfold Event.Enabled <;> infer_instance

/-- The effect of an event that is enabled. -/
def Event.apply (r : Radio) : Event → Radio
  | .escape => enterCommandMode r
  | .localCommand c i => checkCommand r c false i
  | .remoteCommand c i => checkCommand r c true i
  | .vcCommand c i => applyCommand r c false i
  | .vcRemoteCommand c i => applyCommand r c true i
  | .updateButton buttonPressed deltaTime i => Config.updateButton r buttonPressed deltaTime i
  | .powerUp => commandReset r
  | .resetPass => Config.resetPass r
  | .radioState s => r.changeState s
  | .trainingParams frame transmitted => trainingParamsReceived r frame transmitted
  | .trainingAckSent => endClientServerTraining r
  | .trainingAckReceived => Config.trainingAckReceived r
  | .channelTimerHandler =>
    if r.settings.frequencyHop then { r with timeToHop := true } else r
  | .hopWhenDue => hopChannel r true 1
  | .dropHop => r.dropHop
  | .handshakeHop => hopChannel r true 1
  | .enterLinkUp => (hopChannel { r with channelNumber := 0 } true 1).changeState .p2pLinkUp
  | .hopChannelReverse => hopChannel r false 1
  | .goHome => r.tune 0
  | .syncClocks channelNumber | .heartbeat channelNumber =>
    ((r.tune channelNumber).dropHop).changeState .mpStandby
  | .syncChannelTimer clockSyncReceiver remoteHopped nearDwell =>
    Config.syncChannelTimer r clockSyncReceiver remoteHopped nearDwell

def step (r : Radio) (e : Event) : Radio := if e.Enabled r then e.apply r else r

end LoRaSerial.Config
