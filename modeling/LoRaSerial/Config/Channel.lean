import LoRaSerial.Config.Radio

namespace LoRaSerial.Config

variable {r r' : Radio} {e : Event} {k c : UInt8}

/-- The read of `channels[channelNumber]` is in bounds, once there is a table. -/
def InTable (r : Radio) : Prop :=
  ∀ t ∈ r.hopTable, r.channelNumber.toNat < t.channels.length

instance (r : Radio) : Decidable (InTable r) := inferInstanceAs (Decidable (∀ t ∈ r.hopTable, _))

/-- The number of channels may be used as the modulus of k hops forward: it is
not above the size of the table, or the hops end before the end of the table. -/
def HopsFit (r : Radio) (k : UInt8) : Prop :=
  0 < r.settings.numberOfChannels.toNat ∧ ∀ t ∈ r.hopTable,
    r.settings.numberOfChannels.toNat ≤ t.channels.length ∨
      r.channelNumber.toNat + k.toNat < t.channels.length

/-- The same for one hop backwards. -/
def ReverseFits (r : Radio) : Prop :=
  0 < r.settings.numberOfChannels.toNat ∧ ∀ t ∈ r.hopTable,
    r.settings.numberOfChannels.toNat ≤ t.channels.length ∨ 0 < r.channelNumber.toNat

def Event.InBounds (r : Radio) : Event → Prop
  | .resetPass => 0 < r.settings.numberOfChannels.toNat
  | .hopWhenDue | .handshakeHop => HopsFit r 1
  | .enterLinkUp => HopsFit { r with channelNumber := 0 } 1
  | .hopChannelReverse => ReverseFits r
  | .syncClocks c | .heartbeat c => ∀ t ∈ r.hopTable, c.toNat < t.channels.length
  | .syncChannelTimer clockSyncReceiver remoteHopped nearDwell =>
    clockSyncReceiver = true → r.settings.frequencyHop = true →
      HopsFit r (r.delayedHopCount remoteHopped nearDwell)
  | _ => True

/-- The steps that stay in the table: every hop fits it, a frame that names a
channel names one of its entries, and no table is made of no channels. -/
def InBoundsStep (r : Radio) (e : Event) : Prop := e.Enabled r → e.InBounds r

theorem inTable_congr (htable : r'.hopTable = r.hopTable)
    (hchannel : r'.channelNumber = r.channelNumber) (h : InTable r) : InTable r' := by
  rw [InTable,htable,hchannel]
  exact h

theorem inTable_tune (h : ∀ t ∈ r.hopTable, c.toNat < t.channels.length) : InTable (r.tune c) := h

/-- Channel 0 is in every table that has a channel at all. -/
theorem inTable_home (h : InTable r) : InTable (r.tune 0) :=
  inTable_tune fun t ht => Nat.zero_lt_of_lt (h t ht)

theorem inTable_hopChannel (h : HopsFit r k) : InTable (hopChannel r true k) :=
  inTable_tune fun t ht => hopTarget_forward_lt h.1 (h.2 t ht)

theorem inTable_hopChannelReverse (h : InTable r) (hfits : ReverseFits r) :
    InTable (hopChannel r false 1) :=
  inTable_tune fun t ht => hopTarget_reverse_lt hfits.1 (h t ht) (hfits.2 t ht)

theorem inTable_syncChannelTimer (h : InTable r) (a b d : Bool)
    (hfits : a = true → r.settings.frequencyHop = true → HopsFit r (r.delayedHopCount b d)) :
    InTable (syncChannelTimer r a b d) := by
  unfold syncChannelTimer
  split
  · exact h
  next hon =>
    obtain ⟨hreceiver,hhop⟩ := not_or.mp hon
    dsimp only
    split
    · exact inTable_congr (r := r) rfl rfl h
    · have hk := hfits (by simpa using hreceiver) (by simpa using hhop)
      exact inTable_hopChannel (r := r.dropHop) hk

theorem inTable_commandReset (r : Radio) : InTable (commandReset r) := nofun

theorem inTable_of_table {t : HopTable} (htable : r.hopTable = some t)
    (h : r.channelNumber.toNat < t.channels.length) : InTable r := by
  intro t' ht
  obtain rfl := Option.some_inj.mp (htable.symm.trans ht)
  exact h

theorem inTable_resetPass (h : 0 < r.settings.numberOfChannels.toNat) : InTable (resetPass r) :=
  inTable_of_table (t := generateHopTable r.settings) rfl
    (lt_of_lt_of_eq h (length_channels _).symm)

/-- The training uses the number of channels as delivered. -/
theorem inTable_commonTrainingInitialization (r : Radio) :
    InTable (commonTrainingInitialization r) := by
  let s := trainingRadioSettings r.trainingSettings
  have hlength : ((generateHopTable s).channels.set 0 (trainFrequency s)).length = 50 := by
    rw [List.length_set,length_channels]
    rfl
  have htable : (commonTrainingInitialization r).hopTable = some { generateHopTable s with
      channels := (generateHopTable s).channels.set 0 (trainFrequency s) } := rfl
  apply inTable_of_table htable
  rw [hlength]
  exact Nat.succ_pos 49

theorem inTable_beginTrainingClient (r : Radio) (i : TrainingInputs) :
    InTable (beginTrainingClient r i) :=
  inTable_congr (r := commonTrainingInitialization r) rfl rfl
    (inTable_commonTrainingInitialization r)

theorem inTable_beginTrainingServer (r : Radio) : InTable (beginTrainingServer r) :=
  inTable_congr (r := commonTrainingInitialization r) rfl rfl
    (inTable_commonTrainingInitialization r)

theorem inTable_selectTraining (r : Radio) (i : TrainingInputs) : InTable (selectTraining r i) := by
  rw [selectTraining]
  split
  · exact inTable_beginTrainingServer r
  · exact inTable_beginTrainingClient r i

theorem inTable_exitCommandMode (h : InTable r) : InTable (exitCommandMode r) := by
  unfold exitCommandMode
  dsimp only
  split <;> split <;> exact inTable_congr rfl rfl h

theorem inTable_checkCommand (h : InTable r) (c : Command) (printToRf : Bool)
    (i : TrainingInputs) : InTable (checkCommand r c printToRf i) := by
  cases c with
  | setParameter p value =>
    change InTable (commandSetByName r p value)
    rw [commandSetByName]
    split <;> exact inTable_congr rfl rfl h
  | exitCommandMode =>
    cases printToRf with
    | true => exact h
    | false => exact inTable_exitCommandMode h
  | train => exact inTable_selectTraining _ _
  | reboot => exact inTable_commandReset _
  | breakLink | restoreFactory | generateKeys | write | other => exact inTable_congr rfl rfl h

theorem inTable_applyCommand (h : InTable r) (c : Command) (printToRf : Bool)
    (i : TrainingInputs) : InTable (applyCommand r c printToRf i) := by
  have hcheck := inTable_checkCommand (r := r.loadTemp) h c printToRf i
  unfold applyCommand
  dsimp only
  split
  · exact hcheck
  · exact inTable_congr rfl rfl hcheck

theorem inTable_buttonReleased (h : InTable r) (deltaTime : Nat) (i : TrainingInputs) :
    InTable (buttonReleased r deltaTime i) := by
  unfold buttonReleased
  dsimp only
  split
  · exact inTable_congr (r := r) rfl rfl h
  split
  · exact inTable_beginTrainingServer _
  split
  · exact inTable_beginTrainingClient _ i
  split <;> exact inTable_congr (r := r) rfl rfl h

theorem inTable_updateButton (h : InTable r) (buttonPressed : Bool) (deltaTime : Nat)
    (i : TrainingInputs) : InTable (updateButton r buttonPressed deltaTime i) := by
  unfold updateButton
  split
  · split
    · exact inTable_commandReset _
    · split
      · exact h
      · exact inTable_congr rfl rfl (inTable_buttonReleased h deltaTime i)
  · split
    · rw [buttonJustPressed]
      split <;> exact inTable_congr rfl rfl h
    · exact h

theorem inTable_step (h : InTable r) (hbounds : InBoundsStep r e) : InTable (step r e) := by
  rw [step]
  split
  swap
  · exact h
  next henabled =>
  have hin := hbounds henabled
  cases e with
  | localCommand c i => exact inTable_checkCommand h c false i
  | remoteCommand c i => exact inTable_checkCommand h c true i
  | vcCommand c i => exact inTable_applyCommand h c false i
  | vcRemoteCommand c i => exact inTable_applyCommand h c true i
  | updateButton b d i => exact inTable_updateButton h b d i
  | escape | radioState | dropHop => exact inTable_congr rfl rfl h
  | powerUp | trainingAckSent => exact inTable_commandReset _
  | resetPass => exact inTable_resetPass hin
  | trainingParams frame transmitted =>
    change InTable (trainingParamsReceived r frame transmitted)
    unfold trainingParamsReceived
    split
    · exact h
    · dsimp only
      split <;> exact inTable_congr rfl rfl h
  | trainingAckReceived =>
    change InTable (trainingAckReceived r)
    unfold trainingAckReceived
    split
    · exact inTable_commandReset _
    · exact h
  | channelTimerHandler =>
    rw [Event.apply]
    split <;> exact inTable_congr rfl rfl h
  | hopWhenDue => exact inTable_hopChannel hin
  | handshakeHop => exact inTable_hopChannel hin
  | enterLinkUp => exact inTable_hopChannel hin
  | hopChannelReverse => exact inTable_hopChannelReverse h hin
  | goHome => exact inTable_home h
  | syncClocks c => exact inTable_tune hin
  | heartbeat c => exact inTable_tune hin
  | syncChannelTimer a b d => exact inTable_syncChannelTimer h a b d hin

/-- The channel stays inside the table throughout every run from power up whose
steps stay in bounds. -/
theorem run_channel_in_table {radioBand : Nat} {myUniqueId : List UInt8} {eeprom : Settings}
    {es : List Event} (h : Runs.Along step InBoundsStep (boot radioBand myUniqueId eeprom) es) :
    InTable (Runs.run step (boot radioBand myUniqueId eeprom) es) :=
  Runs.invariant (fun _ _ => inTable_step) nofun h

/-- A multipoint client that hears channel 2 from its server and then hops. -/
def clientFollowsServer : List Event :=
  [.resetPass,.radioState .discoverScanning,.syncClocks 2,.channelTimerHandler,.hopWhenDue]

theorem run_channel_in_table_client :
    InTable (Runs.run step (boot 915 [] { defaultSettings with operatingMode := .multipoint })
      clientFollowsServer) := by
  apply run_channel_in_table
  have hlength (s : Settings) : ∀ t ∈ some (generateHopTable s),
      t.channels.length = s.numberOfChannels.toNat := by
    rintro t ⟨⟩
    exact length_channels s
  have htwo (s : Settings) (hs : s.numberOfChannels = 50) :
      ∀ t ∈ some (generateHopTable s), 2 < t.channels.length := by
    intro t ht
    rw [hlength s t ht,hs]
    decide
  refine ⟨fun _ => (by decide : 0 < 50),fun _ => trivial,fun _ t ht => ?_,fun _ => trivial,
    fun _ => ⟨(by decide : 0 < 50),fun t ht => .inl ?_⟩,trivial⟩
  · exact htwo _ rfl t ht
  · exact Nat.le_of_eq (hlength _ t ht).symm

/-- A received frame names channel 200 to a radio with 50 channels. -/
def serverNamesChannel : List Event :=
  [.resetPass,.radioState .discoverScanning,.syncClocks 200]

theorem syncClocks_channel_not_in_table :
    ¬InTable (Runs.run step (boot 915 [] { defaultSettings with operatingMode := .multipoint })
      serverNamesChannel) := by
  decide +kernel

/-- In virtual circuit mode the modulus grows at once, the table does not. -/
def channelsAdded : List Event :=
  [.resetPass,.vcCommand (.setParameter .numberOfChannels ['2']) ⟨false,0,[]⟩,
    .channelTimerHandler,.hopWhenDue]

theorem hop_after_numberOfChannels_not_in_table :
    ¬InTable (Runs.run step (boot 915 [] { defaultSettings with
      operatingMode := .virtualCircuit, numberOfChannels := 1 }) channelsAdded) := by
  decide +kernel

end LoRaSerial.Config
