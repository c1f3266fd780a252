import LoRaSerial.Config.Radio

namespace LoRaSerial.Config

variable {r : Radio} {p : Parameter} {value : List Char}

/-- What the EEPROM holds when the system reboots after these events. -/
def recordedAtReboot (r : Radio) (es : List Event) : Settings :=
  (writeBeforeReboot (Runs.run step r es)).eeprom

theorem step_remoteCommand (h : r.inCommandMode = false) (c : Command) (i : TrainingInputs) :
    step r (.remoteCommand c i) = checkCommand r c true i := if_pos h

theorem step_localCommand (hmode : r.serialOperatingMode ≠ .virtualCircuit)
    (h : r.inCommandMode = true) (c : Command) (i : TrainingInputs) :
    step r (.localCommand c i) = checkCommand r c false i := if_pos ⟨hmode,h⟩

theorem step_escape (hmode : r.serialOperatingMode ≠ .virtualCircuit)
    (h : r.inCommandMode = false) : step r .escape = enterCommandMode r := if_pos ⟨hmode,h⟩

/-- An accepted value is set in tempSettings. -/
def Radio.edit (r : Radio) (p : Parameter) (value : List Char) : Radio :=
  { r with
    tempSettings := p.assign value r.tempSettings
    forceRadioReset := r.forceRadioReset || p.entry.forceRadioReset }

theorem checkCommand_setParameter (h : p.accepts r.settings value = true) (printToRf : Bool)
    (i : TrainingInputs) :
    checkCommand r (.setParameter p value) printToRf i = r.edit p value := if_pos h

/-- RT-Param=value, then RTW. -/
def remoteConfiguration (p : Parameter) (value : List Char) (i j : TrainingInputs) : List Event :=
  [.remoteCommand (.setParameter p value) i,.remoteCommand .write j]

/-- AT-Param=value, then ATW, in the command mode that +++ enters. -/
def localConfiguration (p : Parameter) (value : List Char) (i j : TrainingInputs) : List Event :=
  [.escape,.localCommand (.setParameter p value) i,.localCommand .write j]

/-- The edit, with the write asked for. -/
def Radio.edited (r : Radio) (p : Parameter) (value : List Char) : Radio :=
  { r.edit p value with writeOnCommandExit := true }

theorem run_remoteConfiguration (hidle : r.inCommandMode = false)
    (haccepts : p.accepts r.settings value = true) (i j : TrainingInputs) :
    Runs.run step r (remoteConfiguration p value i j) = r.edited p value := by
  unfold remoteConfiguration
  rw [Runs.run_cons,Runs.run_cons,Runs.run_nil,step_remoteCommand hidle,
    checkCommand_setParameter haccepts]
  exact step_remoteCommand (r := r.edit p value) hidle .write j

theorem run_localConfiguration (hmode : r.serialOperatingMode ≠ .virtualCircuit)
    (hidle : r.inCommandMode = false) (haccepts : p.accepts r.settings value = true)
    (i j : TrainingInputs) :
    Runs.run step r (localConfiguration p value i j) = (enterCommandMode r).edited p value := by
  unfold localConfiguration
  rw [Runs.run_cons,Runs.run_cons,Runs.run_cons,Runs.run_nil,step_escape hmode hidle]
  have hentered : p.accepts (enterCommandMode r).settings value = true := haccepts
  rw [step_localCommand (r := enterCommandMode r) hmode rfl,checkCommand_setParameter hentered]
  exact step_localCommand (r := (enterCommandMode r).edit p value) hmode rfl .write j

/-- What a remote reboot records is what the last edit left in tempSettings. -/
theorem remote_recorded (hidle : r.inCommandMode = false)
    (haccepts : p.accepts r.settings value = true) (i j : TrainingInputs) :
    recordedAtReboot r (remoteConfiguration p value i j) = p.assign value r.tempSettings := by
  rw [recordedAtReboot,run_remoteConfiguration hidle haccepts]
  rfl

/-- Entering command mode loads tempSettings, so a local edit records the
active settings with the parameter replaced. -/
theorem local_recorded (hmode : r.serialOperatingMode ≠ .virtualCircuit)
    (hidle : r.inCommandMode = false) (haccepts : p.accepts r.settings value = true)
    (i j : TrainingInputs) :
    recordedAtReboot r (localConfiguration p value i j) = p.assign value r.settings := by
  rw [recordedAtReboot,run_localConfiguration hmode hidle haccepts]
  rfl

/-- RT-Param=value, RTW, RTZ record the active settings with the parameter
replaced exactly if tempSettings differ from them in that parameter at most. -/
theorem remote_configuration_iff (hidle : r.inCommandMode = false)
    (haccepts : p.accepts r.settings value = true) (i j k : TrainingInputs) :
    Runs.run step r (remoteConfiguration p value i j ++ [.remoteCommand .reboot k]) =
        boot r.radioBand r.myUniqueId (recordedAtReboot r (remoteConfiguration p value i j)) ∧
      (recordedAtReboot r (remoteConfiguration p value i j) = p.assign value r.settings ↔
        p.assign value r.tempSettings = p.assign value r.settings) := by
  rw [remote_recorded hidle haccepts]
  refine ⟨?_,Iff.rfl⟩
  rw [Runs.run_append,run_remoteConfiguration hidle haccepts]
  exact step_remoteCommand (r := r.edited p value) hidle .reboot k

/-- A linked radio with its own network, not configured since it was switched on. -/
def ownNetwork : Radio :=
  (resetPass (boot 915 [] { defaultSettings with netID := 77 })).changeState .p2pLinkUp

def anyInputs : TrainingInputs := ⟨false,0,[]⟩

theorem remote_configuration_iff_txPower :
    recordedAtReboot ownNetwork (remoteConfiguration .txPower ['2','0'] anyInputs anyInputs) =
        Parameter.assign .txPower ['2','0'] ownNetwork.settings ↔
      Parameter.assign .txPower ['2','0'] ownNetwork.tempSettings =
        Parameter.assign .txPower ['2','0'] ownNetwork.settings :=
  (remote_configuration_iff (k := anyInputs) rfl (by decide +kernel) anyInputs anyInputs).2

/-- RT-TxPower=20 gives that radio the network of a new one. -/
theorem remote_txPower_loses_netID :
    ownNetwork.settings.netID = 77 ∧
      recordedAtReboot ownNetwork (remoteConfiguration .txPower ['2','0'] anyInputs anyInputs) ≠
        Parameter.assign .txPower ['2','0'] ownNetwork.settings := by
  decide +kernel

end LoRaSerial.Config
