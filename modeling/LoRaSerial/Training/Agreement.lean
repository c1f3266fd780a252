import LoRaSerial.Training.Station

namespace LoRaSerial.Training
open Config (Radio SameLink TrainingParams Undisturbed updateRadioParameters
  xmitDatagramTrainRadioParameters)
open UniqueIds (IdBytes Table nvmIsVcUniqueIdSet nvmSaveUniqueId trainFindPartner)

variable {ι : Type*} {s s' : Station} {heard : Option Frame} {e : Event} {i : ι}
  {sent sent' : List (ι × Frame)}

/-- The radio is undisturbed, and its training partner too while the ACK of a
client is on the air. -/
structure Keeps (s s' : Station) : Prop where
  radio : Undisturbed s.radio s'.radio
  partner : s'.radio.radioState = .trainWaitTxParamAckDone →
    s'.trainingPartnerID = s.trainingPartnerID

theorem Keeps.refl (s : Station) : Keeps s s := ⟨.refl _,fun _ => rfl⟩

theorem Keeps.left (hid : s'.radio.myUniqueId = s.radio.myUniqueId)
    (hstate : s'.radio.radioState ≠ .trainWaitTxParamAckDone) : Keeps s s' :=
  ⟨.left hid hstate,fun h => absurd h hstate⟩

/-- Nothing is sent, or a client looks for a partner. -/
def Searches (s : Station) (frames : List Frame) : Prop :=
  ∀ f ∈ frames, f = .findPartner s.myUniqueId

theorem searches_nil (s : Station) : Searches s [] :=
  fun _ hf => absurd hf List.not_mem_nil

theorem searches_ite (s : Station) (c : Prop) [Decidable c] :
    Searches s (if c then [.findPartner s.myUniqueId] else []) := by
  split
  · exact fun f hf => List.mem_singleton.mp hf
  · exact searches_nil s

/-- A frame that is not answered takes no radio into sending an ACK. -/
theorem paramsReceived_keeps (hstate : s.radio.radioState = .trainWaitRxRadioParameters)
    (p : TrainingParams) :
    Keeps s (s.paramsReceived p false).1 ∧ Searches s (s.paramsReceived p false).2 := by
  unfold Station.paramsReceived
  split
  · exact ⟨.refl s,searches_nil s⟩
  next hid =>
    refine ⟨.left (trainingParamsReceived_myUniqueId _ _ _) ?_,searches_nil s⟩
    change (Config.trainingParamsReceived s.radio p false).radioState ≠ _
    unfold Config.trainingParamsReceived
    rw [if_neg hid,if_neg Bool.false_ne_true,hstate]
    exact nofun

theorem ackReceived_keeps (hstate : s.radio.radioState = .trainWaitForFindPartner)
    (clientID : List UInt8) : Keeps s (s.ackReceived clientID) := by
  have hleft : (Config.trainingAckReceived s.radio).radioState ≠ .trainWaitTxParamAckDone := by
    unfold Config.trainingAckReceived
    split
    · exact nofun
    · rw [hstate]
      exact nofun
  unfold Station.ackReceived
  split
  · dsimp only
    split <;> exact .left (trainingAckReceived_myUniqueId _) hleft
  · exact .refl s

theorem other_keeps (s : Station) (e : Config.Event) :
    Keeps s (s.other e).1 ∧ Searches s (s.other e).2 := by
  unfold Station.other
  split
  next hbeside =>
    have hradio := Config.undisturbed_step s.radio hbeside
    refine ⟨?_,searches_ite s _⟩
    dsimp only
    split
    next hreboots =>
      have hreset := Config.step_reboots s.radio hreboots
      refine .left hradio.1 ?_
      change (Config.step s.radio e).radioState ≠ _
      rw [hreset]
      exact nofun
    next => exact ⟨hradio,fun _ => rfl⟩
  next => exact ⟨.refl s,searches_nil s⟩

/-- Everything a step of a station can do: a server answers a client, a client
answers a server, or nobody answers. -/
theorem handle_cases (s : Station) (heard : Option Frame) (e : Event) :
    (∃ clientID, heard = some (.findPartner clientID) ∧
      s.radio.radioState = .trainWaitForFindPartner ∧
      handle s heard e = s.findPartnerReceived clientID true) ∨
    (∃ p, heard = some (.params p) ∧ p.clientID = s.radio.myUniqueId ∧
      handle s heard e = s.paramsReceived p true) ∨
    (Keeps s (handle s heard e).1 ∧ Searches s (handle s heard e).2) := by
  cases e with
  | receiveTimeout transmitted => exact .inr (.inr ⟨.refl s,searches_ite s _⟩)
  | other e => exact .inr (.inr (other_keeps s e))
  | uniqueIds t => exact .inr (.inr ⟨⟨.refl _,fun _ => rfl⟩,searches_nil s⟩)
  | transactionComplete transmitted =>
    rw [handle]
    unfold Station.transactionComplete
    split
    next => exact .inr (.inr ⟨.left rfl nofun,searches_nil s⟩)
    next p hstate =>
      by_cases hid : p.clientID = s.radio.myUniqueId
      · cases transmitted with
        | true => exact .inr (.inl ⟨p,rfl,hid,rfl⟩)
        | false => exact .inr (.inr (paramsReceived_keeps hstate p))
      · rw [Station.paramsReceived,if_pos hid]
        exact .inr (.inr ⟨.refl s,searches_nil s⟩)
    next =>
      exact .inr (.inr ⟨.left (endClientServerTraining_myUniqueId _) nofun,searches_nil s⟩)
    next clientID hstate =>
      cases transmitted with
      | true => exact .inl ⟨clientID,rfl,hstate,rfl⟩
      | false =>
        have hstays : (s.findPartnerReceived clientID false).1.radio = s.radio := rfl
        refine .inr (.inr ⟨.left rfl ?_,searches_nil s⟩)
        rw [hstays,hstate]
        exact nofun
    next clientID hstate => exact .inr (.inr ⟨ackReceived_keeps hstate clientID,searches_nil s⟩)
    next => exact .inr (.inr ⟨.left rfl nofun,searches_nil s⟩)
    next => exact .inr (.inr ⟨.refl s,searches_nil s⟩)

/-- The radio parameters that are sent are the server's own, in answer to a
client whose unique ID it saves. -/
theorem handle_params {p : TrainingParams} (h : .params p ∈ (handle s heard e).2) :
    s.radio.radioState = .trainWaitForFindPartner ∧ ∃ clientID : IdBytes,
      p = xmitDatagramTrainRadioParameters s.radio.trainingSettings clientID.toList
        s.radio.myUniqueId ∧
      (handle s heard e).1.uniqueIds = trainFindPartner s.uniqueIds clientID := by
  rcases handle_cases s heard e with ⟨clientID,_,hstate,heq⟩ | ⟨q,_,hid,heq⟩ | ⟨_,hsearches⟩
  · rw [heq] at h ⊢
    exact ⟨hstate,clientID,Frame.params.inj (List.mem_singleton.mp h),rfl⟩
  · rw [heq,Station.paramsReceived,if_neg (not_not.mpr hid)] at h
    exact absurd (List.mem_singleton.mp h) nofun
  · exact absurd (hsearches _ h) nofun

theorem paramsReceived_radio {p : TrainingParams} (hid : p.clientID = s.radio.myUniqueId) :
    (s.paramsReceived p true).1.radio = { s.radio with
      trainingSettings := updateRadioParameters s.radio.trainingSettings p.params
      radioState := .trainWaitTxParamAckDone } := by
  have hreceived : Config.trainingParamsReceived s.radio p true = _ := if_neg (not_not.mpr hid)
  rw [Station.paramsReceived,if_neg (not_not.mpr hid)]
  exact hreceived

/-- A client whose ACK is on the air has its parameters from a frame that its
training partner sent to it. -/
def Trained (i : ι) (s : Station) (sent : List (ι × Frame)) : Prop :=
  s.radio.radioState = .trainWaitTxParamAckDone → ∃ j p base, j ≠ i ∧ (j,.params p) ∈ sent ∧
    p.clientID = s.radio.myUniqueId ∧ p.serverID = s.trainingPartnerID ∧
    s.radio.trainingSettings = updateRadioParameters base p.params

theorem Trained.handle (h : Trained i s sent)
    (hheard : ∀ m, heard = some m → ∃ j, j ≠ i ∧ (j,m) ∈ sent) :
    Trained i (handle s heard e).1 sent := by
  rcases handle_cases s heard e with ⟨clientID,_,_,heq⟩ | ⟨p,hp,hid,heq⟩ | ⟨hkeeps,_⟩
  · rw [heq]
    exact fun hstate => absurd hstate nofun
  · obtain ⟨j,hother,hsent⟩ := hheard _ hp
    have hradio := paramsReceived_radio hid
    have hpartner : (s.paramsReceived p true).1.trainingPartnerID = p.serverID := by
      rw [Station.paramsReceived,if_neg (not_not.mpr hid)]
    intro _
    refine ⟨j,p,s.radio.trainingSettings,hother,hsent,?_,?_,?_⟩
    · rw [heq,hradio,hid]
    · rw [heq,hpartner]
    · rw [heq,hradio]
  · intro hstate
    obtain ⟨hbefore,hsettings⟩ := hkeeps.radio.ack hstate
    obtain ⟨j,p,base,hother,hsent,hclient,hserver,htaken⟩ := h hbefore
    exact ⟨j,p,base,hother,hsent,hclient.trans hkeeps.radio.myUniqueId.symm,
      hserver.trans (hkeeps.partner hstate).symm,hsettings.trans htaken⟩

variable [DecidableEq ι]

/-- Nothing has been sent, and no client has taken parameters yet. -/
structure Untrained (n : Network ι) : Prop where
  sent : n.sent = []
  client : ∀ i, (n.station i).radio.radioState ≠ .trainWaitTxParamAckDone

theorem run_trained {n : Network ι} (hn : Untrained n) (es : List (NetworkEvent ι)) (i : ι) :
    Trained i ((Runs.run step n es).station i) (Runs.run step n es).sent :=
  Broadcast.station_invariant (S := Trained)
    (fun _ _ _ _ hpre h hstate =>
      have ⟨j,p,base,hother,hsent,hp⟩ := h hstate
      ⟨j,p,base,hother,hpre.subset hsent,hp⟩)
    (fun _ _ _ _ _ h hheard => h.handle hheard) (fun i hstate => absurd hstate (hn.client i)) es i

/-- The step of the run in which the training partner of a client sent it the
parameters: its own, and it saved the unique ID of the client. -/
theorem exists_server {n : Network ι} (hn : Untrained n) {es : List (NetworkEvent ι)} {i : ι}
    (hstate : ((Runs.run step n es).station i).radio.radioState = .trainWaitTxParamAckDone) :
    ∃ fs e gs base, ∃ clientID : IdBytes, es = fs ++ e :: gs ∧ e.who ≠ i ∧
      ((Runs.run step n fs).station e.who).radio.radioState = .trainWaitForFindPartner ∧
      ((Runs.run step n fs).station e.who).radio.myUniqueId =
        ((Runs.run step n es).station i).trainingPartnerID ∧
      ((Runs.run step n es).station i).radio.trainingSettings = updateRadioParameters base
        { ((Runs.run step n fs).station e.who).radio.trainingSettings with server := false } ∧
      clientID.toList = ((Runs.run step n es).station i).radio.myUniqueId ∧
      ((Runs.run step n (fs ++ [e])).station e.who).uniqueIds =
        trainFindPartner ((Runs.run step n fs).station e.who).uniqueIds clientID := by
  obtain ⟨j,p,base,hother,hsent,hclient,hserver,htaken⟩ := run_trained hn es i hstate
  rcases Broadcast.emitted_of_sent hsent with hstart | ⟨fs,e,gs,hes,rfl,hframe⟩
  · rw [hn.sent] at hstart
    exact absurd hstart List.not_mem_nil
  obtain ⟨hserves,clientID,rfl,hsaves⟩ := handle_params hframe
  refine ⟨fs,e,gs,base,clientID,hes,hother,hserves,hserver,htaken,hclient,?_⟩
  rw [Runs.run_append,Runs.run_cons,Runs.run_nil,Broadcast.station_step_self,hsaves]

/-- A radio that has just booted shares the link of a server with settings `T`,
and makes the hop table that a radio of its band makes of them. -/
structure Joins (r : Radio) (T : Settings) : Prop where
  link : SameLink r.eeprom T
  client : r.eeprom.server = false
  hopTable : (Config.resetPass r).hopTable =
    some (generateHopTable (Config.validateSettings r.radioBand T))
  layout : (Config.resetPass r).layout = selectHeaderAndTrailerBytes T

theorem resetPass_hopTable (r : Radio) :
    (Config.resetPass r).hopTable = some (generateHopTable r.settings) := rfl

theorem resetPass_layout (r : Radio) :
    (Config.resetPass r).layout = selectHeaderAndTrailerBytes r.settings := rfl

theorem joins_boot (radioBand : Nat) (myUniqueId : List UInt8) (base T : Settings) :
    Joins (Config.boot radioBand myUniqueId
      (updateRadioParameters base { T with server := false })) T := by
  let client : Radio := { Config.boot radioBand myUniqueId base with trainingSettings := base }
  have hlink := Config.sameLink_trainedSettings T client
  have hhops := Config.sameHops_trainedSettings T client
  have hlayout := Config.selectHeaderAndTrailerBytes_trainedSettings T client
  refine ⟨hlink.validateSettings radioBand,?_,?_,?_⟩
  · exact Config.validateSettings_server radioBand _
  · rw [resetPass_hopTable]
    exact congrArg some (generateHopTable_congr
      (Config.sameHops_validateSettings radioBand hhops))
  · rw [resetPass_layout]
    exact (Config.selectHeaderAndTrailerBytes_validateSettings radioBand _).trans hlayout

theorem endClientServerTraining_client {r : Radio} (h : r.trainingSettings.server = false) :
    Config.endClientServerTraining r =
      Config.boot r.radioBand r.myUniqueId r.trainingSettings := by
  unfold Config.endClientServerTraining
  dsimp only
  rw [if_neg (by simpa [Radio.setSettings] using h)]
  rfl

/-- The client takes the settings of its server with it when the training ends. -/
theorem joins_endClientServerTraining {r : Radio} {base T : Settings}
    (h : r.trainingSettings = updateRadioParameters base { T with server := false }) :
    Joins (Config.endClientServerTraining r) T := by
  rw [endClientServerTraining_client (by rw [h]; rfl),h]
  exact joins_boot r.radioBand r.myUniqueId base T

/-- The first free slot takes the client, if there is one. -/
theorem trainFindPartner_saves (t : Table) (clientID : IdBytes) :
    (∀ v, nvmIsVcUniqueIdSet t v = true) ∨ ∃ v, (trainFindPartner t clientID).nvm v = clientID := by
  unfold trainFindPartner
  split
  next v _ => exact .inr ⟨v,by simp [nvmSaveUniqueId]⟩
  next hnone => exact .inl fun v => by simpa using List.find?_eq_none.mp hnone v (List.mem_finRange v)

/-- The ACK of the client is out. -/
theorem handle_ackDone (h : s.radio.radioState = .trainWaitTxParamAckDone) (transmitted : Bool) :
    handle s heard (.transactionComplete transmitted) = (s.endClientServerTraining,[]) := by
  rw [handle]
  unfold Station.transactionComplete
  rw [h]

/-- When a client ends its training, in any run, another radio was waiting for
clients in some earlier step of it: its training partner. The client reboots
with that radio's settings, as a client, and its unique ID was then saved by
the server, unless the server had no free slot. -/
theorem trained_client_joins_server {n : Network ι} (hn : Untrained n)
    (es : List (NetworkEvent ι)) (i : ι) (transmitted : Bool) (heard : Option Nat)
    (hstate : ((Runs.run step n es).station i).radio.radioState = .trainWaitTxParamAckDone) :
    let client := (Runs.run step n es).station i
    let trained := (Runs.run step n (es ++ [⟨i,.transactionComplete transmitted,heard⟩])).station i
    ∃ fs e gs, es = fs ++ e :: gs ∧ e.who ≠ i ∧
      let server := (Runs.run step n fs).station e.who
      let saved := (Runs.run step n (fs ++ [e])).station e.who
      server.radio.radioState = .trainWaitForFindPartner ∧
      server.radio.myUniqueId = client.trainingPartnerID ∧
      Joins trained.radio server.radio.trainingSettings ∧
      ((∀ v, nvmIsVcUniqueIdSet server.uniqueIds v = true) ∨
        ∃ v, (saved.uniqueIds.nvm v).toList = client.radio.myUniqueId) := by
  intro client trained
  obtain ⟨fs,e,gs,base,clientID,hes,hother,hserves,hpartner,htaken,hclient,hsaves⟩ :=
    exists_server hn hstate
  have htrained : trained.radio = Config.endClientServerTraining client.radio := by
    have hself : trained = _ := (congrArg (fun n => Broadcast.Network.station n i)
      (Runs.run_append step n es _)).trans Broadcast.station_step_self
    rw [hself,handle_ackDone hstate]
    rfl
  refine ⟨fs,e,gs,hes,hother,hserves,hpartner,?_,?_⟩
  · rw [htrained]
    exact joins_endClientServerTraining htaken
  · rw [hsaves]
    rcases trainFindPartner_saves ((Runs.run step n fs).station e.who).uniqueIds clientID with
      hfull | ⟨v,hv⟩
    · exact .inl hfull
    · exact .inr ⟨v,by rw [hv,hclient]⟩

def blankTable : Table where
  nvm _ := UniqueIds.erased
  virtualCircuitList _ := ⟨List.Vector.replicate 16 0,false⟩

def offeredSettings : Settings := { netID := 7 }

def pair : Network Bool where
  station
    | false =>
      { radio := Config.beginTrainingClient
          (Config.boot 915 (List.replicate 16 1) defaultSettings) ⟨false,0,[]⟩
        trainingPartnerID := List.replicate 16 0
        uniqueIds := blankTable
        idBytes := rfl }
    | true =>
      { radio := Config.beginTrainingServer
          { Config.boot 915 (List.replicate 16 2) defaultSettings with
            trainingSettings := offeredSettings
            inTraining := true }
        trainingPartnerID := List.replicate 16 0
        uniqueIds := blankTable
        idBytes := rfl }
  sent := []

theorem pair_untrained : Untrained pair := ⟨rfl,fun i => by cases i <;> exact nofun⟩

/-- FIND_PARTNER, the radio parameters, and the ACK. -/
def pairRun : List (NetworkEvent Bool) :=
  [⟨false,.receiveTimeout true,none⟩,⟨true,.transactionComplete true,some 0⟩,
    ⟨true,.transactionComplete true,none⟩,⟨false,.transactionComplete true,some 1⟩]

theorem pair_trained_client : ∃ fs e gs, pairRun = fs ++ e :: gs ∧ e.who ≠ false ∧
    Joins ((Runs.run step pair (pairRun ++ [⟨false,.transactionComplete true,none⟩])).station
      false).radio ((Runs.run step pair fs).station e.who).radio.trainingSettings :=
  have ⟨fs,e,gs,hes,hother,_,_,hjoins,_⟩ :=
    trained_client_joins_server pair_untrained pairRun false true none rfl
  ⟨fs,e,gs,hes,hother,hjoins⟩

/-- All that wait for clients offer these settings: one training at a time. -/
def Serves (T : Settings) (n : Network ι) : Prop :=
  ∀ i, (n.station i).radio.radioState = .trainWaitForFindPartner →
    (n.station i).radio.trainingSettings = T

end LoRaSerial.Training
