import LoRaSerial.Config.Radio

namespace LoRaSerial.Config

variable {r : Radio} {s s' T : Settings}

/-- The settings both ends of a link share, beyond the hop table. -/
structure SameLink (s s' : Settings) : Prop where
  netID : s.netID = s'.netID
  encryptionKey : s.encryptionKey = s'.encryptionKey
  encryptData : s.encryptData = s'.encryptData
  dataScrambling : s.dataScrambling = s'.dataScrambling
  enableCRC16 : s.enableCRC16 = s'.enableCRC16
  operatingMode : s.operatingMode = s'.operatingMode
  radioBandwidth : s.radioBandwidth = s'.radioBandwidth
  radioSpreadFactor : s.radioSpreadFactor = s'.radioSpreadFactor
  radioCodingRate : s.radioCodingRate = s'.radioCodingRate
  radioSyncWord : s.radioSyncWord = s'.radioSyncWord
  radioPreambleLength : s.radioPreambleLength = s'.radioPreambleLength
  maxDwellTime : s.maxDwellTime = s'.maxDwellTime

/-- The two frequencies validateSettings chooses. -/
theorem validateSettings_eq (radioBand : Nat) :
    ∃ frequencyMin frequencyMax : Rat → Rat, ∀ s, validateSettings radioBand s =
      { s with
        frequencyMin := frequencyMin s.frequencyMin
        frequencyMax := frequencyMax s.frequencyMax } := by
  unfold validateSettings
  split
  case h_4 => exact ⟨id,id,fun _ => rfl⟩
  all_goals exact ⟨fun x => if x < _ ∨ _ < x then _ else x,fun x => if _ < x ∨ x < _ then _ else x,
    fun _ => rfl⟩

theorem SameLink.validateSettings (radioBand : Nat) (h : SameLink s s') :
    SameLink (validateSettings radioBand s) s' := by
  obtain ⟨_,_,heq⟩ := validateSettings_eq radioBand
  rw [heq]
  exact ⟨h.1,h.2,h.3,h.4,h.5,h.6,h.7,h.8,h.9,h.10,h.11,h.12⟩

theorem sameHops_validateSettings (radioBand : Nat) (h : s.SameHops s') :
    (validateSettings radioBand s).SameHops (validateSettings radioBand s') := by
  obtain ⟨f,g,heq⟩ := validateSettings_eq radioBand
  rw [heq,heq]
  exact ⟨congrArg f h.1,congrArg g h.2,h.3,h.4,h.5,h.6,h.7,h.8,h.9,h.10,h.11,h.12,h.13,h.14,h.15,
    h.16,h.17,h.18⟩

theorem validateSettings_server (radioBand : Nat) (s : Settings) :
    (validateSettings radioBand s).server = s.server := by
  obtain ⟨_,_,heq⟩ := validateSettings_eq radioBand
  rw [heq]

theorem selectHeaderAndTrailerBytes_validateSettings (radioBand : Nat) (s : Settings) :
    selectHeaderAndTrailerBytes (validateSettings radioBand s) = selectHeaderAndTrailerBytes s := by
  obtain ⟨_,_,heq⟩ := validateSettings_eq radioBand
  rw [heq]
  rfl

/-- The settings the client records. -/
def trainedSettings (T : Settings) (client : Radio) : Settings :=
  updateRadioParameters client.trainingSettings { T with server := false }

/-- All settings of the seed are copied. -/
theorem sameHops_trainedSettings (T : Settings) (client : Radio) :
    (trainedSettings T client).SameHops T :=
  ⟨rfl,rfl,rfl,rfl,rfl,rfl,rfl,rfl,rfl,rfl,rfl,rfl,rfl,rfl,rfl,rfl,rfl,rfl⟩

theorem sameLink_trainedSettings (T : Settings) (client : Radio) :
    SameLink (trainedSettings T client) T :=
  ⟨rfl,rfl,rfl,rfl,rfl,rfl,rfl,rfl,rfl,rfl,rfl,rfl⟩

theorem selectHeaderAndTrailerBytes_trainedSettings (T : Settings) (client : Radio) :
    selectHeaderAndTrailerBytes (trainedSettings T client) = selectHeaderAndTrailerBytes T := rfl

/-- The frame for this client, its ACK, the reboot and the first RADIO_RESET. -/
def trainClient (T : Settings) (serverID : List UInt8) (client : Radio) : List Event :=
  [.trainingParams (xmitDatagramTrainRadioParameters T client.myUniqueId serverID) true,
    .trainingAckSent,.resetPass]

theorem run_trainClient (hstate : r.radioState = .trainWaitRxRadioParameters)
    (serverID : List UInt8) :
    Runs.run step r (trainClient T serverID r) =
      resetPass (boot r.radioBand r.myUniqueId (trainedSettings T r)) := by
  have hreceived : step r (.trainingParams
      (xmitDatagramTrainRadioParameters T r.myUniqueId serverID) true) =
      { r with trainingSettings := trainedSettings T r }.changeState .trainWaitTxParamAckDone :=
    (if_pos hstate).trans (if_neg (not_not.mpr rfl))
  rw [trainClient,Runs.run_cons,hreceived]
  rfl

/-- The trained client has the hop table and the AES IV of a radio of its band
that runs the server's settings, the link settings of the server and the frame
layout that goes with them, and it is not a server. -/
theorem training_agreement (hstate : r.radioState = .trainWaitRxRadioParameters) (T : Settings)
    (serverID : List UInt8) :
    let trained := Runs.run step r (trainClient T serverID r)
    trained.hopTable = (resetPass (boot r.radioBand serverID T)).hopTable ∧
      (validateSettings r.radioBand T = T → trained.hopTable = some (generateHopTable T)) ∧
      SameLink trained.settings T ∧ trained.layout = selectHeaderAndTrailerBytes T ∧
      trained.settings.server = false ∧ trained.eeprom = trained.settings := by
  intro trained
  have htrained : trained = resetPass (boot r.radioBand r.myUniqueId (trainedSettings T r)) :=
    run_trainClient hstate serverID
  have hsettings : trained.settings = validateSettings r.radioBand (trainedSettings T r) := by
    rw [htrained]
    rfl
  have hhops := sameHops_trainedSettings T r
  have htable : trained.hopTable = some (generateHopTable (validateSettings r.radioBand T)) := by
    rw [htrained]
    exact congrArg some (generateHopTable_congr (sameHops_validateSettings r.radioBand hhops))
  refine ⟨htable,fun hband => by rw [htable,hband],?_,?_,?_,?_⟩
  · rw [hsettings]
    exact (sameLink_trainedSettings T r).validateSettings r.radioBand
  · have hlayout : trained.layout = selectHeaderAndTrailerBytes trained.settings := by
      rw [htrained]
      rfl
    rw [hlayout,hsettings,selectHeaderAndTrailerBytes_validateSettings,
      selectHeaderAndTrailerBytes_trainedSettings]
  · rw [hsettings,validateSettings_server]
    rfl
  · rw [htrained]
    rfl

/-- A new client, trained by a multipoint server. -/
theorem training_agreement_multipoint :
    let client := beginTrainingClient (resetPass (boot 915 [1] {})) ⟨false,0,[]⟩
    let T : Settings := { netID := 7, operatingMode := .multipoint, server := true }
    SameLink (Runs.run step client (trainClient T [2] client)).settings T := by
  intro client T
  exact (training_agreement (r := client) rfl T [2]).2.2.1

end LoRaSerial.Config
