import LoRaSerial.Config.Training
import LoRaSerial.Lib.Broadcast
import LoRaSerial.Training.Bystander
import LoRaSerial.UniqueIds.Table

namespace LoRaSerial.Training
open Config (Radio RadioState TrainingParams)
open UniqueIds (IdBytes Table erased trainFindPartner)
open VC (maxVc)

/-- The datagrams of a training. -/
inductive Frame where
  | findPartner (clientID : IdBytes)
  | params (p : TrainingParams)
  | ack (serverID clientID : List UInt8)

/-- A radio that may be trained or train others. -/
structure Station where
  radio : Radio
  trainingPartnerID : List UInt8
  uniqueIds : Table
  idBytes : radio.myUniqueId.length = 16

def Station.myUniqueId (s : Station) : IdBytes := ⟨s.radio.myUniqueId,s.idBytes⟩

/-- A new state of the radio, which keeps its unique ID. -/
def Station.become (s : Station) (r : Radio) (h : r.myUniqueId = s.radio.myUniqueId) : Station :=
  { s with
    radio := r
    idBytes := (congrArg List.length h).trans s.idBytes }

/-- The system has rebooted: globals are zero and setup has run. -/
def Station.restart (s : Station) : Station :=
  { s with
    trainingPartnerID := List.replicate 16 0
    uniqueIds := UniqueIds.setup s.uniqueIds s.radio.settings.server }

def Station.changeState (s : Station) (state : RadioState) : Station :=
  s.become (s.radio.changeState state) rfl

theorem trainingParamsReceived_myUniqueId (r : Radio) (p : TrainingParams) (transmitted : Bool) :
    (Config.trainingParamsReceived r p transmitted).myUniqueId = r.myUniqueId := by
  unfold Config.trainingParamsReceived
  dsimp only
  split
  · rfl
  · split <;> rfl

/-- RADIO_TRAIN_WAIT_RX_RADIO_PARAMETERS, the radio parameters: verify the IDs,
save the training partner ID, and acknowledge the radio parameters. -/
def Station.paramsReceived (s : Station) (p : TrainingParams) (transmitted : Bool) :
    Station × List Frame :=
  if p.clientID ≠ s.radio.myUniqueId then (s,[])
  else
    ({ s.become (Config.trainingParamsReceived s.radio p transmitted)
        (trainingParamsReceived_myUniqueId s.radio p transmitted) with
        trainingPartnerID := p.serverID },
      if transmitted then [.ack p.serverID s.radio.myUniqueId] else [])

theorem endClientServerTraining_myUniqueId (r : Radio) :
    (Config.endClientServerTraining r).myUniqueId = r.myUniqueId := by
  unfold Config.endClientServerTraining
  dsimp only
  split <;> rfl

def Station.endClientServerTraining (s : Station) : Station :=
  (s.become (Config.endClientServerTraining s.radio)
    (endClientServerTraining_myUniqueId s.radio)).restart

/-- RADIO_TRAIN_WAIT_FOR_FIND_PARTNER, a client: save the client ID, find a slot
in the NVM unique ID table, and send the radio parameters. -/
def Station.findPartnerReceived (s : Station) (clientID : IdBytes) (transmitted : Bool) :
    Station × List Frame :=
  let s := { s with
    trainingPartnerID := clientID.toList
    uniqueIds := trainFindPartner s.uniqueIds clientID }
  if transmitted then
    (s.changeState .trainWaitTxRadioParamsDone,
      [.params (Config.xmitDatagramTrainRadioParameters s.radio.trainingSettings
        s.trainingPartnerID s.radio.myUniqueId)])
  else (s,[])

/-- The training is over with the first ACK: by button, in point to point mode,
and the user has not manually set the server. -/
def endsWithAck (r : Radio) : Prop :=
  r.inTraining = true ∧ r.trainingSettings.operatingMode = .pointToPoint ∧
    r.trainingSettings.server = false

instance (r : Radio) : Decidable (endsWithAck r) := inferInstanceAs (Decidable (_ ∧ _))

theorem trainingAckReceived_myUniqueId (r : Radio) :
    (Config.trainingAckReceived r).myUniqueId = r.myUniqueId := by
  unfold Config.trainingAckReceived
  split <;> rfl

/-- RADIO_TRAIN_WAIT_FOR_FIND_PARTNER, an ACK: verify the client ID. -/
def Station.ackReceived (s : Station) (clientID : List UInt8) : Station :=
  if s.trainingPartnerID = clientID then
    let s' := s.become (Config.trainingAckReceived s.radio) (trainingAckReceived_myUniqueId s.radio)
    if endsWithAck s.radio then s'.restart else s'
  else s

/-- A pass of updateRadioState in a training state with transactionComplete, or
with the receive timeout of a client, and all that happens beside: to the radio,
and to the unique IDs. `transmitted` tells that the answer could be sent. -/
inductive Event where
  | transactionComplete (transmitted : Bool)
  | receiveTimeout (transmitted : Bool)
  | other (e : Config.Event)
  | uniqueIds (t : Table)

/-- The pass with transactionComplete, which is the end of a transmission, a
frame, or a packet that is none. -/
def Station.transactionComplete (s : Station) (heard : Option Frame) (transmitted : Bool) :
    Station × List Frame :=
  match s.radio.radioState,heard with
  | .trainWaitTxFindPartnerDone,_ => (s.changeState .trainWaitRxRadioParameters,[])
  | .trainWaitRxRadioParameters,some (.params p) => s.paramsReceived p transmitted
  | .trainWaitTxParamAckDone,_ => (s.endClientServerTraining,[])
  | .trainWaitForFindPartner,some (.findPartner clientID) =>
    s.findPartnerReceived clientID transmitted
  | .trainWaitForFindPartner,some (.ack _ clientID) => (s.ackReceived clientID,[])
  | .trainWaitTxRadioParamsDone,_ => (s.changeState .trainWaitForFindPartner,[])
  | _,_ => (s,[])

/-- What happens beside the training. -/
def Station.other (s : Station) (e : Config.Event) : Station × List Frame :=
  if h : e.besideTraining s.radio = true then
    let s' := s.become (Config.step s.radio e) (Config.step_myUniqueId s.radio h)
    (if e.reboots s.radio then s'.restart else s',
      if e.transmitsFindPartner s.radio then [.findPartner s.myUniqueId] else [])
  else (s,[])

def handle (s : Station) (heard : Option Frame) : Event → Station × List Frame
  | .transactionComplete transmitted => s.transactionComplete heard transmitted
  | .receiveTimeout transmitted =>
    (s,if s.radio.radioState = .trainWaitRxRadioParameters ∧ transmitted = true then
      [.findPartner s.myUniqueId] else [])
  | .other e => s.other e
  | .uniqueIds t => ({ s with uniqueIds := t },[])

variable {ι : Type*}

abbrev Network (ι : Type*) := Broadcast.Network ι Station Frame
abbrev NetworkEvent (ι : Type*) := Broadcast.Event ι Event

/-- A step of one of the radios. It may hear any frame that another one has sent. -/
abbrev step [DecidableEq ι] : Network ι → NetworkEvent ι → Network ι := Broadcast.step handle

end LoRaSerial.Training
