import LoRaSerial.Config.Radio

namespace LoRaSerial.Config

variable {r : Radio} {s : Settings} {e : Event} {c : Command}

/-- The commands that neither start a training nor reboot. -/
def Command.inWindow : Command → Bool
  | .train | .reboot => false
  | _ => true

/-- What may happen while the button is held, outside training. A look at the
button finds it pressed, for less than the time of a training. -/
def Event.inWindow : Event → Bool
  | .updateButton buttonPressed deltaTime _ => buttonPressed && deltaTime < trainButtonClientTime
  | .localCommand c _ | .remoteCommand c _ | .vcCommand c _ | .vcRemoteCommand c _ => c.inWindow
  | .powerUp | .trainingParams _ _ | .trainingAckSent | .trainingAckReceived => false
  | _ => true

def Event.isButton : Event → Bool
  | .updateButton _ _ _ => true
  | _ => false

/-- The button is held, and these are the settings of its press. -/
structure Holding (s : Settings) (r : Radio) : Prop where
  originalSettings : r.originalSettings = s
  buttonWasPressed : r.buttonWasPressed = true
  inTraining : r.inTraining = false

/-- The events from the press of the button to its release. -/
def buttonPress (window : List Event) (i j : TrainingInputs) (deltaTime : Nat) : List Event :=
  .updateButton true 0 i :: window ++ [.updateButton false deltaTime j]

theorem holding_press (hreleased : r.buttonWasPressed = false) (htraining : r.inTraining = false)
    (i : TrainingInputs) : Holding r.settings (step r (.updateButton true 0 i)) := by
  have hstep : step r (.updateButton true 0 i) =
      { buttonJustPressed r with buttonWasPressed := true } := by
    change updateButton r true 0 i = _
    rw [updateButton,if_neg (by simp [hreleased]),if_pos rfl]
  rw [hstep,buttonJustPressed,if_neg (by simp [htraining])]
  exact ⟨rfl,rfl,htraining⟩

theorem holding_exitCommandMode (h : Holding s r) : Holding s (exitCommandMode r) := by
  unfold exitCommandMode
  dsimp only
  split <;> split <;> exact ⟨h.1,h.2,h.3⟩

theorem holding_checkCommand (h : Holding s r) (hc : c.inWindow = true) (printToRf : Bool)
    (i : TrainingInputs) : Holding s (checkCommand r c printToRf i) := by
  cases c with
  | setParameter p value =>
    unfold checkCommand commandSetByName
    dsimp only
    split
    · exact ⟨h.1,h.2,h.3⟩
    · exact h
  | exitCommandMode =>
    unfold checkCommand
    dsimp only
    split
    · exact h
    · exact holding_exitCommandMode h
  | train => cases hc
  | reboot => cases hc
  | breakLink | restoreFactory | generateKeys | write | other => exact ⟨h.1,h.2,h.3⟩

theorem holding_applyCommand (h : Holding s r) (hc : c.inWindow = true) (printToRf : Bool)
    (i : TrainingInputs) : Holding s (applyCommand r c printToRf i) := by
  have hloaded : Holding s r.loadTemp := ⟨h.1,h.2,h.3⟩
  have hchecked := holding_checkCommand hloaded hc printToRf i
  unfold applyCommand
  dsimp only
  split
  · exact hchecked
  · exact ⟨hchecked.1,hchecked.2,hchecked.3⟩

theorem holding_updateButton (h : Holding s r) {deltaTime : Nat}
    (hshort : deltaTime < trainButtonClientTime) (i : TrainingInputs) :
    updateButton r true deltaTime i = r := by
  have hfactory : ¬trainButtonFactoryResetTime ≤ deltaTime := by
    have hle : trainButtonClientTime ≤ trainButtonFactoryResetTime := by decide
    omega
  rw [updateButton,if_pos h.buttonWasPressed,if_neg hfactory,if_pos rfl]

theorem holding_tune (h : Holding s r) (channelNumber : UInt8) :
    Holding s (r.tune channelNumber) := by
  unfold Radio.tune setRadioFrequency
  exact ⟨h.1,h.2,h.3⟩

theorem holding_hopChannel (h : Holding s r) (moveForwardThroughTable : Bool)
    (channelCount : UInt8) : Holding s (hopChannel r moveForwardThroughTable channelCount) := by
  have hdropped : Holding s { r with timeToHop := false } := ⟨h.1,h.2,h.3⟩
  exact holding_tune hdropped _

theorem holding_changeState (h : Holding s r) (state : RadioState) :
    Holding s (r.changeState state) := ⟨h.1,h.2,h.3⟩

theorem holding_dropHop (h : Holding s r) : Holding s r.dropHop := ⟨h.1,h.2,h.3⟩

theorem holding_resetPass (h : Holding s r) : Holding s (resetPass r) := by
  have hprepared : Holding s r.newTable.selectLayout.dropHop := ⟨h.1,h.2,h.3⟩
  exact holding_changeState (holding_tune hprepared 0) _

theorem holding_syncChannelTimer (h : Holding s r) (a b c : Bool) :
    Holding s (syncChannelTimer r a b c) := by
  unfold syncChannelTimer
  split
  · exact h
  · dsimp only
    split
    · exact holding_dropHop h
    · exact holding_hopChannel (holding_dropHop h) true _

theorem holding_apply (h : Holding s r) (he : e.inWindow = true) : Holding s (e.apply r) := by
  cases e with
  | localCommand c i => exact holding_checkCommand h he false i
  | remoteCommand c i => exact holding_checkCommand h he true i
  | vcCommand c i => exact holding_applyCommand h he false i
  | vcRemoteCommand c i => exact holding_applyCommand h he true i
  | updateButton buttonPressed deltaTime i =>
    obtain ⟨rfl,hshort⟩ : buttonPressed = true ∧ deltaTime < trainButtonClientTime := by
      simpa [Event.inWindow] using he
    rw [Event.apply,holding_updateButton h hshort i]
    exact h
  | powerUp | trainingParams | trainingAckSent | trainingAckReceived => cases he
  | escape => exact ⟨h.1,h.2,h.3⟩
  | resetPass => exact holding_resetPass h
  | radioState state => exact holding_changeState h state
  | channelTimerHandler =>
    unfold Event.apply
    dsimp only
    split
    · exact ⟨h.1,h.2,h.3⟩
    · exact h
  | hopWhenDue | handshakeHop => exact holding_hopChannel h true 1
  | hopChannelReverse => exact holding_hopChannel h false 1
  | dropHop => exact holding_dropHop h
  | enterLinkUp =>
    have hzero : Holding s { r with channelNumber := 0 } := ⟨h.1,h.2,h.3⟩
    exact holding_changeState (holding_hopChannel hzero true 1) _
  | goHome => exact holding_tune h 0
  | syncClocks channelNumber | heartbeat channelNumber =>
    exact holding_changeState (holding_dropHop (holding_tune h channelNumber)) _
  | syncChannelTimer a b c => exact holding_syncChannelTimer h a b c

theorem holding_step (h : Holding s r) (he : e.inWindow = true) : Holding s (step r e) := by
  rw [step]
  split
  · exact holding_apply h he
  · exact h

theorem holding_run (h : Holding s r) {window : List Event}
    (hwindow : ∀ e ∈ window, e.inWindow = true) : Holding s (Runs.run step r window) := by
  induction window generalizing r with
  | nil => exact h
  | cons e window ih =>
    obtain ⟨he,hrest⟩ := List.forall_mem_cons.mp hwindow
    exact ih (holding_step h he) hrest

/-- The release writes back the settings of the press. -/
theorem release_settings (h : Holding s r) {deltaTime : Nat}
    (hshort : deltaTime < trainButtonClientTime) (i : TrainingInputs) :
    (step r (.updateButton false deltaTime i)).settings = s := by
  have hserver : ¬trainButtonServerTime ≤ deltaTime := by
    have hle : trainButtonClientTime ≤ trainButtonServerTime := by decide
    omega
  have hfactory : ¬trainButtonFactoryResetTime ≤ deltaTime := by
    have hle : trainButtonServerTime ≤ trainButtonFactoryResetTime := by decide
    omega
  have hstep : step r (.updateButton false deltaTime i) =
      { buttonReleased r deltaTime i with buttonWasPressed := false } := by
    change updateButton r false deltaTime i = _
    rw [updateButton,if_pos h.buttonWasPressed,if_neg hfactory,if_neg Bool.false_ne_true]
  have hreleased : buttonReleased r deltaTime i = r.setSettings r.originalSettings := by
    unfold buttonReleased
    dsimp only
    rw [if_neg hserver,if_neg (Nat.not_le.mpr hshort)]
    split
    · rfl
    · exact if_neg (by simp [Radio.setSettings,h.inTraining])
  rw [hstep,hreleased]
  exact h.originalSettings

/-- A short press of the button leaves the settings that the same events leave
without it exactly if these are the settings of the press. -/
theorem button_press_lossless_iff (hreleased : r.buttonWasPressed = false)
    (htraining : r.inTraining = false) {window : List Event}
    (hwindow : ∀ e ∈ window, e.inWindow = true) {deltaTime : Nat}
    (hshort : deltaTime < trainButtonClientTime) (i j : TrainingInputs) :
    (Runs.run step r (buttonPress window i j deltaTime)).settings =
        (Runs.run step r (window.filter fun e => !e.isButton)).settings ↔
      (Runs.run step r (window.filter fun e => !e.isButton)).settings = r.settings := by
  have hheld := holding_run (holding_press hreleased htraining i) hwindow
  have hback : (Runs.run step r (buttonPress window i j deltaTime)).settings = r.settings := by
    rw [buttonPress,List.cons_append,Runs.run_cons,Runs.run_append]
    exact release_settings hheld hshort j
  rw [hback]
  exact eq_comm

/-- AT-NetID=7 in command mode, and this command. -/
def netIdSession (c : Command) : List Event :=
  [.escape,.localCommand (.setParameter .netID ['7']) ⟨false,0,[]⟩,.localCommand c ⟨false,0,[]⟩]

theorem button_press_lossless_iff_write :
    (Runs.run step (boot 915 [] {}) (buttonPress (netIdSession .write) ⟨false,0,[]⟩ ⟨false,0,[]⟩
        500)).settings =
        (Runs.run step (boot 915 [] {})
          ((netIdSession .write).filter fun e => !e.isButton)).settings ↔
      (Runs.run step (boot 915 [] {})
        ((netIdSession .write).filter fun e => !e.isButton)).settings =
        (boot 915 [] {}).settings :=
  button_press_lossless_iff rfl rfl (by decide) (by decide) _ _

/-- With ATO before the release the new network is lost. -/
theorem button_press_loses_netID :
    (Runs.run step (boot 915 [] {}) (buttonPress (netIdSession .exitCommandMode) ⟨false,0,[]⟩
        ⟨false,0,[]⟩ 500)).settings ≠
      (Runs.run step (boot 915 [] {})
        ((netIdSession .exitCommandMode).filter fun e => !e.isButton)).settings := by
  intro h
  exact absurd (congrArg Settings.netID h) (by decide +kernel)

end LoRaSerial.Config
