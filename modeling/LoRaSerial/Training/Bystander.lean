import LoRaSerial.Config.Radio

namespace LoRaSerial.Config

/-- The states of a training. -/
def RadioState.training : RadioState → Bool
  | .trainWaitTxFindPartnerDone | .trainWaitRxRadioParameters | .trainWaitTxParamAckDone
  | .trainWaitForFindPartner | .trainWaitTxRadioParamsDone => true
  | _ => false

/-- What happens to a radio besides the passes in the states of a training. -/
def Event.besideTraining (r : Radio) : Event → Bool
  | .trainingParams _ _ | .trainingAckSent | .trainingAckReceived => false
  | .radioState s => !r.radioState.training && !s.training
  | _ => true

/-- ATT, in command mode or over the radio link. -/
def Event.trains : Event → Option TrainingInputs
  | .localCommand .train i | .remoteCommand .train i
  | .vcCommand .train i | .vcRemoteCommand .train i => some i
  | _ => none

/-- The button is released in the time for a client. -/
def releasedForClient (r : Radio) (buttonPressed : Bool) (deltaTime : Nat) : Bool :=
  r.buttonWasPressed && !buttonPressed && !r.inCommandMode &&
    decide (trainButtonClientTime ≤ deltaTime) && decide (deltaTime < trainButtonServerTime)

/-- The event calls beginTrainingClient, which transmits FIND_PARTNER. -/
def Event.transmitsFindPartner (r : Radio) (e : Event) : Bool :=
  decide (e.Enabled r) &&
    match e with
    | .updateButton buttonPressed deltaTime i =>
      releasedForClient r buttonPressed deltaTime && i.transmitted
    | _ => !r.settings.server && (e.trains.map TrainingInputs.transmitted).getD false

/-- The event ends in commandReset. -/
def Event.reboots (r : Radio) : Event → Bool
  | .powerUp => true
  | .updateButton _ deltaTime _ =>
    r.buttonWasPressed && decide (trainButtonFactoryResetTime ≤ deltaTime)
  | .localCommand .reboot i => decide ((Event.localCommand .reboot i).Enabled r)
  | .remoteCommand .reboot i => decide ((Event.remoteCommand .reboot i).Enabled r)
  | .vcCommand .reboot i => decide ((Event.vcCommand .reboot i).Enabled r)
  | .vcRemoteCommand .reboot i => decide ((Event.vcRemoteCommand .reboot i).Enabled r)
  | _ => false

/-- The unique ID stays, and a client whose ACK is on the air has kept what it
took from the server. -/
structure Undisturbed (r r' : Radio) : Prop where
  myUniqueId : r'.myUniqueId = r.myUniqueId
  ack : r'.radioState = .trainWaitTxParamAckDone → r.radioState = .trainWaitTxParamAckDone ∧
    r'.trainingSettings = r.trainingSettings

namespace Undisturbed

variable {r r' r'' : Radio}

theorem same (hid : r'.myUniqueId = r.myUniqueId) (hstate : r'.radioState = r.radioState)
    (hsettings : r'.trainingSettings = r.trainingSettings) : Undisturbed r r' :=
  ⟨hid,fun h => ⟨hstate ▸ h,hsettings⟩⟩

theorem left (hid : r'.myUniqueId = r.myUniqueId)
    (hstate : r'.radioState ≠ .trainWaitTxParamAckDone) : Undisturbed r r' :=
  ⟨hid,fun h => absurd h hstate⟩

theorem refl (r : Radio) : Undisturbed r r := same rfl rfl rfl

theorem trans (h : Undisturbed r r') (h' : Undisturbed r' r'') : Undisturbed r r'' :=
  ⟨h'.1.trans h.1,fun hack =>
    have hmiddle := h'.2 hack
    have hfirst := h.2 hmiddle.1
    ⟨hfirst.1,hmiddle.2.trans hfirst.2⟩⟩

theorem ite {c : Prop} [Decidable c] (h : Undisturbed r r') (h' : Undisturbed r r'') :
    Undisturbed r (if c then r' else r'') := by
  split
  · exact h
  · exact h'

end Undisturbed

variable (r : Radio)

theorem undisturbed_commandReset : Undisturbed r (commandReset r) := .left rfl nofun

theorem beginTrainingClient_radioState (i : TrainingInputs) :
    (beginTrainingClient r i).radioState =
      if i.transmitted then .trainWaitTxFindPartnerDone else .trainWaitRxRadioParameters := rfl

theorem undisturbed_beginTrainingClient (i : TrainingInputs) :
    Undisturbed r (beginTrainingClient r i) := by
  refine .left rfl ?_
  rw [beginTrainingClient_radioState]
  split <;> exact nofun

theorem undisturbed_beginTrainingServer : Undisturbed r (beginTrainingServer r) :=
  .left rfl nofun

theorem undisturbed_selectTraining (i : TrainingInputs) : Undisturbed r (selectTraining r i) :=
  .ite (undisturbed_beginTrainingServer r) (undisturbed_beginTrainingClient r i)

theorem undisturbed_selectTraining_of {trainingSettings : Settings} (i : TrainingInputs) :
    Undisturbed r (selectTraining { r with trainingSettings } i) := by
  have hselect := undisturbed_selectTraining { r with trainingSettings } i
  refine .left hselect.1 ?_
  rw [selectTraining]
  split
  · exact nofun
  · rw [beginTrainingClient_radioState]
    split <;> exact nofun

theorem undisturbed_commandSetByName (p : Parameter) (value : List Char) :
    Undisturbed r (commandSetByName r p value) := .ite (.same rfl rfl rfl) (.refl r)

theorem undisturbed_exitCommandMode : Undisturbed r (exitCommandMode r) := by
  unfold exitCommandMode
  dsimp only
  split
  · split
    · exact .left rfl nofun
    · exact .same rfl rfl rfl
  · split
    · exact .left rfl nofun
    · exact .same rfl rfl rfl

theorem undisturbed_rebootCommand : Undisturbed r (rebootCommand r) := by
  refine .left ?_ nofun
  change (writeBeforeReboot r).myUniqueId = r.myUniqueId
  unfold writeBeforeReboot
  split <;> rfl

theorem undisturbed_checkCommand (c : Command) (printToRf : Bool) (i : TrainingInputs) :
    Undisturbed r (checkCommand r c printToRf i) := by
  cases c with
  | setParameter p value => exact undisturbed_commandSetByName r p value
  | breakLink => exact .left rfl nofun
  | exitCommandMode => exact .ite (.refl r) (undisturbed_exitCommandMode r)
  | train => exact undisturbed_selectTraining_of r i
  | reboot => exact undisturbed_rebootCommand r
  | restoreFactory | generateKeys | write | other => exact .same rfl rfl rfl

theorem undisturbed_applyCommand (c : Command) (printToRf : Bool) (i : TrainingInputs) :
    Undisturbed r (applyCommand r c printToRf i) := by
  have hload : Undisturbed r r.loadTemp := .same rfl rfl rfl
  have hcheck := hload.trans (undisturbed_checkCommand r.loadTemp c printToRf i)
  exact .ite hcheck (hcheck.trans (.same rfl rfl rfl))

theorem undisturbed_buttonReleased (deltaTime : Nat) (i : TrainingInputs) :
    Undisturbed r (buttonReleased r deltaTime i) := by
  unfold buttonReleased
  refine .ite (.same rfl rfl rfl) (.ite (.left rfl nofun) (.ite (.left rfl ?_)
    (.ite (.left rfl nofun) (.same rfl rfl rfl))))
  rw [beginTrainingClient_radioState]
  split <;> exact nofun

theorem undisturbed_buttonJustPressed : Undisturbed r (buttonJustPressed r) :=
  .ite (.refl r) (.same rfl rfl rfl)

theorem undisturbed_updateButton (buttonPressed : Bool) (deltaTime : Nat) (i : TrainingInputs) :
    Undisturbed r (updateButton r buttonPressed deltaTime i) :=
  .ite
    (.ite (.left rfl nofun)
      (.ite (.refl r) (.trans (undisturbed_buttonReleased r deltaTime i) (.same rfl rfl rfl))))
    (.ite (.trans (undisturbed_buttonJustPressed r) (.same rfl rfl rfl)) (.refl r))

theorem undisturbed_syncChannelTimer (a b c : Bool) :
    Undisturbed r (syncChannelTimer r a b c) := .ite (.refl r) (.ite (.same rfl rfl rfl)
  (.same rfl rfl rfl))

theorem stateAfterReset_ne (m : OperatingMode) : stateAfterReset m ≠ .trainWaitTxParamAckDone := by
  cases m <;> exact nofun

theorem resetPass_radioState :
    (resetPass r).radioState = stateAfterReset r.settings.operatingMode := rfl

theorem resetPass_myUniqueId : (resetPass r).myUniqueId = r.myUniqueId := by
  simp only [resetPass,configureRadio,Radio.tune,setRadioFrequency,Radio.changeState,
    Radio.newTable,Radio.selectLayout,Radio.dropHop]

theorem undisturbed_resetPass : Undisturbed r (resetPass r) :=
  .left (resetPass_myUniqueId r) (resetPass_radioState r ▸ stateAfterReset_ne _)

/-- Nothing beside the training touches a client whose ACK is on the air, unless
it takes it out of the training. -/
theorem undisturbed_step {e : Event} (h : e.besideTraining r = true) :
    Undisturbed r (step r e) := by
  refine .ite ?_ (.refl r)
  cases e with
  | trainingParams | trainingAckSent | trainingAckReceived => cases h
  | radioState s =>
    refine .left rfl fun hs => ?_
    have hs : s = .trainWaitTxParamAckDone := hs
    rw [hs] at h
    exact absurd h (by simp [Event.besideTraining,RadioState.training])
  | localCommand c i => exact undisturbed_checkCommand r c false i
  | remoteCommand c i => exact undisturbed_checkCommand r c true i
  | vcCommand c i => exact undisturbed_applyCommand r c false i
  | vcRemoteCommand c i => exact undisturbed_applyCommand r c true i
  | updateButton buttonPressed deltaTime i =>
    exact undisturbed_updateButton r buttonPressed deltaTime i
  | powerUp => exact undisturbed_commandReset r
  | resetPass => exact undisturbed_resetPass r
  | channelTimerHandler => exact .ite (.same rfl rfl rfl) (.refl r)
  | enterLinkUp | syncClocks | heartbeat => exact .left rfl nofun
  | syncChannelTimer a b c => exact undisturbed_syncChannelTimer r a b c
  | escape | hopWhenDue | dropHop | handshakeHop | hopChannelReverse | goHome =>
    exact .same rfl rfl rfl

theorem step_myUniqueId {e : Event} (h : e.besideTraining r = true) :
    (step r e).myUniqueId = r.myUniqueId := (undisturbed_step r h).1

theorem updateButton_factoryReset (hwas : r.buttonWasPressed = true) {deltaTime : Nat}
    (hfactory : trainButtonFactoryResetTime ≤ deltaTime) (buttonPressed : Bool)
    (i : TrainingInputs) :
    updateButton r buttonPressed deltaTime i = commandReset { r with eeprom := defaultSettings } := by
  rw [updateButton,if_pos hwas,if_pos hfactory]

theorem step_reboots {e : Event} (h : e.reboots r = true) : (step r e).radioState = .reset := by
  cases e with
  | powerUp => rfl
  | updateButton buttonPressed deltaTime i =>
    obtain ⟨hwas,hfactory⟩ := Bool.and_eq_true_iff.mp h
    have hreset := updateButton_factoryReset r hwas (of_decide_eq_true hfactory) buttonPressed i
    exact congrArg Radio.radioState hreset
  | localCommand c i | remoteCommand c i | vcCommand c i | vcRemoteCommand c i =>
    cases c with
    | reboot =>
      rw [step,if_pos (of_decide_eq_true h)]
      rfl
    | setParameter | breakLink | restoreFactory | generateKeys | exitCommandMode | train | write
    | other => cases h
  | escape | resetPass | radioState | trainingParams | trainingAckSent | trainingAckReceived
  | channelTimerHandler | hopWhenDue | dropHop | handshakeHop | enterLinkUp | hopChannelReverse
  | goHome | syncClocks | heartbeat | syncChannelTimer => cases h

end LoRaSerial.Config
