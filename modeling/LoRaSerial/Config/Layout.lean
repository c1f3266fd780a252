import LoRaSerial.Config.Radio

namespace LoRaSerial.Config

variable {r r' : Radio} {e : Event} {s : Settings}

/-- Outside RADIO_RESET the cached frame layout is the one of the settings. -/
def LayoutFollows (r : Radio) : Prop :=
  r.radioState ≠ .reset → r.layout = selectHeaderAndTrailerBytes r.settings

instance (r : Radio) : Decidable (LayoutFollows r) := inferInstanceAs (Decidable (_ → _))

/-- Settings that may replace the active ones without a new layout. -/
def Radio.Keeps (r : Radio) (s : Settings) : Prop :=
  r.radioState = .reset ∨ r.settings.SameFrame s

/-- The commands that assign the settings: ATF, and ATO without a reset. -/
def Command.Clear (r : Radio) (printToRf : Bool) : Command → Prop
  | .restoreFactory => r.Keeps (validateSettings r.radioBand defaultSettings)
  | .exitCommandMode => printToRf = true ∨ r.forceRadioReset = true ∨ r.Keeps r.tempSettings
  | _ => True

/-- In virtual circuit mode a parameter is applied at once, and the settings
before ATT come back under the layout of the training. -/
def Command.ClearVc (r : Radio) : Command → Prop
  | .setParameter p value =>
    p.accepts r.settings value = true → r.Keeps (p.assign value r.settings)
  | .restoreFactory => r.Keeps (validateSettings r.radioBand defaultSettings)
  | .train => (trainingRadioSettings r.settings).SameFrame r.settings
  | _ => True

/-- The release of the button brings back the settings of its press. What
follows it are a training and, during a training, a radio reset. -/
def ReleaseClear (r : Radio) (deltaTime : Nat) : Prop :=
  (r.inCommandMode = true ∨ deltaTime < trainButtonClientTime ∧ r.inTraining = false) →
    r.Keeps r.originalSettings

/-- What an event must not do to the settings. -/
def Event.Clear (r : Radio) : Event → Prop
  | .localCommand c _ => c.Clear r false
  | .remoteCommand c _ => c.Clear r true
  | .vcCommand c _ | .vcRemoteCommand c _ => c.ClearVc r
  | .updateButton buttonPressed deltaTime _ =>
    r.buttonWasPressed = true → deltaTime < trainButtonFactoryResetTime →
      buttonPressed = false → ReleaseClear r deltaTime
  | _ => True

/-- The steps that leave the layout right. -/
def ClearStep (r : Radio) (e : Event) : Prop := e.Enabled r → e.Clear r

/-- Only the state, the layout and the settings count. -/
theorem layoutFollows_congr (hstate : r'.radioState = r.radioState) (hlayout : r'.layout = r.layout)
    (hsettings : r'.settings = r.settings) : LayoutFollows r' ↔ LayoutFollows r := by
  rw [LayoutFollows,LayoutFollows,hstate,hlayout,hsettings]

theorem layoutFollows_reset (h : r.radioState = .reset) : LayoutFollows r := absurd h

theorem layoutFollows_selected (h : r.layout = selectHeaderAndTrailerBytes r.settings) :
    LayoutFollows r := fun _ => h

/-- New settings under the old layout. -/
theorem layoutFollows_iff_keeps (h : LayoutFollows r) (hstate : r'.radioState = r.radioState)
    (hlayout : r'.layout = r.layout) (hsettings : r'.settings = s) :
    LayoutFollows r' ↔ r.Keeps s := by
  rw [LayoutFollows,hstate,hlayout,hsettings,Radio.Keeps]
  by_cases hreset : r.radioState = .reset
  · simp [hreset]
  · rw [h hreset,selectHeaderAndTrailerBytes_eq_iff]
    simp [hreset]

theorem layoutFollows_commandReset (r : Radio) : LayoutFollows (commandReset r) :=
  layoutFollows_reset rfl

theorem layoutFollows_resetPass (r : Radio) : LayoutFollows (resetPass r) :=
  layoutFollows_selected rfl

theorem layoutFollows_beginTrainingClient (r : Radio) (i : TrainingInputs) :
    LayoutFollows (beginTrainingClient r i) := layoutFollows_selected rfl

theorem layoutFollows_beginTrainingServer (r : Radio) : LayoutFollows (beginTrainingServer r) :=
  layoutFollows_selected rfl

theorem layoutFollows_selectTraining (r : Radio) (i : TrainingInputs) :
    LayoutFollows (selectTraining r i) := by
  rw [selectTraining]
  split
  · exact layoutFollows_beginTrainingServer _
  · exact layoutFollows_beginTrainingClient _ _

theorem selectTraining_layout (r : Radio) (i : TrainingInputs) :
    (selectTraining r i).layout =
      selectHeaderAndTrailerBytes (trainingRadioSettings r.trainingSettings) := by
  rw [selectTraining]
  split <;> rfl

theorem selectTraining_radioState (r : Radio) (i : TrainingInputs) :
    (selectTraining r i).radioState ≠ .reset := by
  rw [selectTraining]
  split
  · exact nofun
  · change (if i.transmitted then _ else _) ≠ RadioState.reset
    split <;> exact nofun

theorem selectTraining_tempSettings (r : Radio) (i : TrainingInputs) :
    (selectTraining r i).tempSettings = r.tempSettings := by
  rw [selectTraining]
  split <;> rfl

theorem layoutFollows_exitCommandMode (h : LayoutFollows r) :
    LayoutFollows (exitCommandMode r) ↔
      r.forceRadioReset = true ∨ r.Keeps r.tempSettings := by
  cases hforce : r.forceRadioReset with
  | true =>
    have hreset : (exitCommandMode r).radioState = .reset := by
      unfold exitCommandMode
      dsimp only
      split <;> simp [recordSystemSettings,Radio.changeState,hforce]
    simp [layoutFollows_reset hreset]
  | false =>
    have hkept : (exitCommandMode r).radioState = r.radioState ∧
        (exitCommandMode r).layout = r.layout ∧ (exitCommandMode r).settings = r.tempSettings := by
      unfold exitCommandMode
      dsimp only
      split <;> simp [recordSystemSettings,hforce]
    simpa using layoutFollows_iff_keeps h hkept.1 hkept.2.1 hkept.2.2

theorem commandSetByName_kept (r : Radio) (p : Parameter) (value : List Char) :
    (commandSetByName r p value).radioState = r.radioState ∧
      (commandSetByName r p value).layout = r.layout ∧
      (commandSetByName r p value).settings = r.settings := by
  rw [commandSetByName]
  split <;> exact ⟨rfl,rfl,rfl⟩

theorem commandSetByName_tempSettings (r : Radio) (p : Parameter) (value : List Char) :
    (commandSetByName r p value).tempSettings =
      if p.accepts r.settings value then p.assign value r.tempSettings else r.tempSettings := by
  rw [commandSetByName]
  split <;> rfl

/-- checkCommand leaves the layout right exactly for the clear commands. -/
theorem layoutFollows_checkCommand (h : LayoutFollows r) (c : Command) (printToRf : Bool)
    (i : TrainingInputs) :
    LayoutFollows (checkCommand r c printToRf i) ↔ c.Clear r printToRf := by
  cases c with
  | setParameter p value =>
    obtain ⟨hstate,hlayout,hsettings⟩ := commandSetByName_kept r p value
    exact iff_of_true ((layoutFollows_congr hstate hlayout hsettings).mpr h) trivial
  | breakLink => exact iff_of_true (layoutFollows_reset rfl) trivial
  | restoreFactory => exact layoutFollows_iff_keeps h rfl rfl rfl
  | generateKeys => exact iff_of_true h trivial
  | exitCommandMode =>
    cases printToRf with
    | true => simp [checkCommand,Command.Clear,h]
    | false => simpa [checkCommand,Command.Clear] using layoutFollows_exitCommandMode h
  | train => exact iff_of_true (layoutFollows_selectTraining _ _) trivial
  | write => exact iff_of_true h trivial
  | reboot => exact iff_of_true (layoutFollows_commandReset _) trivial
  | other => exact iff_of_true h trivial

theorem exitCommandMode_kept (r : Radio) :
    (exitCommandMode r).layout = r.layout ∧
      (exitCommandMode r).tempSettings = r.tempSettings ∧
      ((exitCommandMode r).radioState = .reset ∨
        (exitCommandMode r).radioState = r.radioState) := by
  unfold exitCommandMode
  dsimp only
  refine ⟨?_,?_,?_⟩
  · split <;> split <;> rfl
  · split <;> split <;> rfl
  · by_cases hforce : r.forceRadioReset = true
    · split <;> exact .inl (by simp [recordSystemSettings,Radio.changeState,hforce])
    · split <;> exact .inr (by simp [recordSystemSettings,hforce])

theorem layoutFollows_applyCommand (h : LayoutFollows r) (c : Command) (printToRf : Bool)
    (i : TrainingInputs) :
    LayoutFollows (applyCommand r c printToRf i) ↔ c.ClearVc r := by
  cases c with
  | setParameter p value =>
    obtain ⟨hstate,hlayout,-⟩ :=
      commandSetByName_kept r.loadTemp p value
    have hsettings : (commandSetByName r.loadTemp p value).tempSettings =
        if p.accepts r.settings value then p.assign value r.settings else r.settings :=
      commandSetByName_tempSettings r.loadTemp p value
    let r' := commandSetByName r.loadTemp p value
    change LayoutFollows (r'.setSettings r'.tempSettings) ↔ _
    refine Iff.trans (layoutFollows_iff_keeps h hstate hlayout hsettings) ?_
    rw [Command.ClearVc]
    by_cases haccepts : p.accepts r.settings value = true
    · rw [if_pos haccepts,imp_iff_right haccepts]
    · rw [if_neg haccepts]
      exact iff_of_true (.inr (Settings.SameFrame.refl _)) (fun hyes => absurd hyes haccepts)
  | breakLink => exact iff_of_true (layoutFollows_reset rfl) trivial
  | restoreFactory => exact layoutFollows_iff_keeps h rfl rfl rfl
  | generateKeys => exact iff_of_true h trivial
  | exitCommandMode =>
    refine iff_of_true ?_ trivial
    cases printToRf with
    | true => exact h
    | false =>
      obtain ⟨hlayout,htemp,hstate⟩ := exitCommandMode_kept r.loadTemp
      let r' := exitCommandMode r.loadTemp
      change LayoutFollows (r'.setSettings r'.tempSettings)
      rcases hstate with hreset | hstate
      · exact layoutFollows_reset hreset
      · exact Iff.mpr (layoutFollows_congr hstate hlayout htemp) h
  | train =>
    let r₀ : Radio := { r.loadTemp with trainingSettings := r.settings }
    let r' := selectTraining r₀ i
    change LayoutFollows (r'.setSettings r'.tempSettings) ↔
      (trainingRadioSettings r₀.trainingSettings).SameFrame r₀.tempSettings
    rw [← selectHeaderAndTrailerBytes_eq_iff,← selectTraining_layout r₀ i,
      ← selectTraining_tempSettings r₀ i]
    exact imp_iff_right (selectTraining_radioState r₀ i)
  | write => exact iff_of_true h trivial
  | reboot => exact iff_of_true (layoutFollows_commandReset _) trivial
  | other => exact iff_of_true h trivial

theorem layoutFollows_buttonReleased (h : LayoutFollows r) (deltaTime : Nat) (i : TrainingInputs) :
    LayoutFollows (buttonReleased r deltaTime i) ↔ ReleaseClear r deltaTime := by
  let r' := r.setSettings r.originalSettings
  have hkeeps : LayoutFollows r' ↔ r.Keeps r.originalSettings :=
    layoutFollows_iff_keeps h rfl rfl rfl
  unfold buttonReleased ReleaseClear
  change LayoutFollows (if r'.inCommandMode then r' else _) ↔
    (r'.inCommandMode = true ∨ _ ∧ r'.inTraining = false → _)
  by_cases hcommand : r'.inCommandMode = true
  · rw [if_pos hcommand,imp_iff_right (.inl hcommand)]
    exact hkeeps
  rw [if_neg hcommand]
  by_cases hserver : trainButtonServerTime ≤ deltaTime
  · rw [if_pos hserver]
    have hlong : ¬deltaTime < trainButtonClientTime :=
      Nat.not_lt.mpr
        (Nat.le_trans (by decide : trainButtonClientTime ≤ trainButtonServerTime) hserver)
    exact iff_of_true (layoutFollows_beginTrainingServer _) (by simp [hcommand,hlong])
  rw [if_neg hserver]
  by_cases hclient : trainButtonClientTime ≤ deltaTime
  · rw [if_pos hclient]
    exact iff_of_true (layoutFollows_beginTrainingClient _ _)
      (by simp [hcommand,Nat.not_lt.mpr hclient])
  rw [if_neg hclient]
  by_cases htraining : r'.inTraining = true
  · change LayoutFollows (if r'.inTraining then _ else r') ↔ _
    rw [if_pos htraining]
    exact iff_of_true (layoutFollows_reset rfl) (by simp [hcommand,htraining])
  · change LayoutFollows (if r'.inTraining then _ else r') ↔ _
    rw [if_neg htraining,imp_iff_right (.inr ⟨Nat.lt_of_not_le hclient,by simpa using htraining⟩)]
    exact hkeeps

theorem layoutFollows_buttonJustPressed (h : LayoutFollows r) :
    LayoutFollows (buttonJustPressed r) := by
  rw [buttonJustPressed]
  split <;> exact h

theorem layoutFollows_updateButton (h : LayoutFollows r) (buttonPressed : Bool) (deltaTime : Nat)
    (i : TrainingInputs) :
    LayoutFollows (updateButton r buttonPressed deltaTime i) ↔
      (Event.updateButton buttonPressed deltaTime i).Clear r := by
  unfold updateButton
  change _ ↔ (r.buttonWasPressed = true → deltaTime < trainButtonFactoryResetTime →
    buttonPressed = false → ReleaseClear r deltaTime)
  by_cases hwas : r.buttonWasPressed = true
  swap
  · rw [if_neg hwas]
    refine iff_of_true ?_ (fun hyes => absurd hyes hwas)
    split
    · exact (layoutFollows_congr rfl rfl rfl).mpr (layoutFollows_buttonJustPressed h)
    · exact h
  rw [if_pos hwas,imp_iff_right hwas]
  by_cases hfactory : trainButtonFactoryResetTime ≤ deltaTime
  · rw [if_pos hfactory]
    exact iff_of_true (layoutFollows_commandReset _)
      (fun hlt => absurd hlt (Nat.not_lt.mpr hfactory))
  rw [if_neg hfactory,imp_iff_right (Nat.lt_of_not_le hfactory)]
  cases buttonPressed with
  | true => simpa using h
  | false =>
    rw [if_neg Bool.false_ne_true,imp_iff_right rfl]
    exact (layoutFollows_congr rfl rfl rfl).trans (layoutFollows_buttonReleased h deltaTime i)

theorem layoutFollows_syncChannelTimer (h : LayoutFollows r) (a b c : Bool) :
    LayoutFollows (syncChannelTimer r a b c) := by
  unfold syncChannelTimer
  split
  · exact h
  · dsimp only
    split <;> exact h

theorem layoutFollows_endClientServerTraining (r : Radio) :
    LayoutFollows (endClientServerTraining r) := layoutFollows_reset rfl

theorem layoutFollows_trainingParamsReceived (h : LayoutFollows r) (frame : TrainingParams)
    (transmitted : Bool) (hstate : r.radioState = .trainWaitRxRadioParameters) :
    LayoutFollows (trainingParamsReceived r frame transmitted) := by
  have hlayout := h (by rw [hstate]; exact nofun)
  unfold trainingParamsReceived
  split
  · exact h
  · dsimp only
    split <;> exact layoutFollows_selected hlayout

theorem layoutFollows_trainingAckReceived (h : LayoutFollows r) :
    LayoutFollows (trainingAckReceived r) := by
  unfold trainingAckReceived
  split
  · exact layoutFollows_commandReset _
  · exact h

/-- One step leaves the layout right exactly if it is clear. -/
theorem layoutFollows_step (h : LayoutFollows r) (e : Event) :
    LayoutFollows (step r e) ↔ ClearStep r e := by
  rw [step,ClearStep]
  split
  swap
  next hdisabled => exact iff_of_true h (fun hyes => absurd hyes hdisabled)
  next henabled =>
  rw [imp_iff_right henabled]
  cases e with
  | localCommand c i => exact layoutFollows_checkCommand h c false i
  | remoteCommand c i => exact layoutFollows_checkCommand h c true i
  | vcCommand c i => exact layoutFollows_applyCommand h c false i
  | vcRemoteCommand c i => exact layoutFollows_applyCommand h c true i
  | updateButton b d i => exact layoutFollows_updateButton h b d i
  | escape => exact iff_of_true h trivial
  | powerUp => exact iff_of_true (layoutFollows_commandReset _) trivial
  | resetPass => exact iff_of_true (layoutFollows_resetPass _) trivial
  | radioState s => exact iff_of_true (layoutFollows_selected (h henabled)) trivial
  | trainingParams frame transmitted =>
    exact iff_of_true (layoutFollows_trainingParamsReceived h frame transmitted henabled) trivial
  | trainingAckSent => exact iff_of_true (layoutFollows_endClientServerTraining _) trivial
  | trainingAckReceived => exact iff_of_true (layoutFollows_trainingAckReceived h) trivial
  | channelTimerHandler =>
    refine iff_of_true ?_ trivial
    rw [Event.apply]
    split <;> exact h
  | hopWhenDue => exact iff_of_true h trivial
  | dropHop => exact iff_of_true h trivial
  | handshakeHop => exact iff_of_true h trivial
  | enterLinkUp =>
    refine iff_of_true (layoutFollows_selected (h ?_)) trivial
    rcases henabled with hstate | hstate <;> rw [hstate] <;> exact nofun
  | hopChannelReverse => exact iff_of_true h trivial
  | goHome => exact iff_of_true h trivial
  | syncClocks c | heartbeat c =>
    refine iff_of_true (layoutFollows_selected (h ?_)) trivial
    rw [henabled.1]
    exact nofun
  | syncChannelTimer a b c =>
    exact iff_of_true (layoutFollows_syncChannelTimer h a b c) trivial

/-- The frame layout follows the settings throughout exactly the runs from
power up whose steps are all clear. -/
theorem run_layout_follows_iff (radioBand : Nat) (myUniqueId : List UInt8) (eeprom : Settings)
    (es : List Event) :
    Runs.Always step LayoutFollows (boot radioBand myUniqueId eeprom) es ↔
      Runs.Along step ClearStep (boot radioBand myUniqueId eeprom) es :=
  Runs.always_iff_along (fun _ e h hclear => (layoutFollows_step h e).mpr hclear) (fun _ h => h)
    (fun _ e h hfollows => (layoutFollows_step h e).mp hfollows) (layoutFollows_reset rfl) es

/-- A radio in virtual circuit mode whose host turns off the software CRC. -/
def disableCrc : List Event :=
  [.resetPass,.vcCommand (.setParameter .enableCRC16 ['0']) ⟨false,0,[]⟩]

theorem crc_disabled_under_old_layout :
    ¬Runs.Always step LayoutFollows
      (boot 915 [] { defaultSettings with operatingMode := .virtualCircuit }) disableCrc := by
  intro h
  exact absurd (h disableCrc (List.prefix_refl _)) (by decide +kernel)

end LoRaSerial.Config
