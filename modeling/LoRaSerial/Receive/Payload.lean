import LoRaSerial.Codec.Frame
import LoRaSerial.Config.Radio
import LoRaSerial.Receive.Handlers

namespace LoRaSerial.Receive
open Reading Reading.Prog
open VC (VcAddress vcServer vcUnassigned)
open Outgoing (vcRadioHeaderBytes vcSerialHeaderBytes startOfVcSerial)
open Serial (vcCommandCompleteMessageBytes)
open Codec (Gcm Received checkVcHeader decodeBuffer receivedData parseDatagram)

variable {buf : Nat → UInt8} {n : Nat} {i : Inputs} {t : DatagramType} {state : RadioState}

@[simp] theorem within_millisAt (k : Nat) : Within n buf (millisAt k) ↔ k + 4 ≤ n := by
  unfold millisAt
  rw [within_bind,within_cells]
  simp

@[simp] theorem within_debugLength :
    Within n buf (debugLength i) ↔
      (i.settings.debugging.debugSerial = true → i.length.toNat ≤ n) := by
  unfold debugLength
  rw [within_ite,within_cells]
  split
  next h =>
    simp only [h,forall_const]
    omega
  next h => simp [h]

@[simp] theorem within_ownId : Within n buf (ownId i) ↔ i.vcData + 16 ≤ n := by
  unfold ownId uniqueIdBytes
  rw [within_bind,within_cells]
  simp

@[simp] theorem within_saveId (vcIndex : Nat) :
    Within n buf (saveId i vcIndex) ↔ i.vcData + 16 ≤ n := by
  unfold saveId uniqueIdBytes
  rw [within_bind,within_cells,within_ite]
  simp

@[simp] theorem within_serverMillis :
    Within n buf (serverMillis i) ↔ (i.rxSrcVc = vcServer → i.vcData + 20 ≤ n) := by
  unfold serverMillis uniqueIdBytes
  rw [within_ite]
  split
  next h => simp [h,Nat.add_assoc]
  next h => simp [h]

/-- The ID is compared with the entries of virtualCircuitList. -/
theorem within_idIndex (entries : List (Option (List UInt8))) (h : i.vcData + 16 ≤ n) :
    Within n buf (idIndex i.vcData entries) := by
  induction entries with
  | nil => exact within_pure _
  | cons entry entries ih =>
    cases entry with
    | none => exact (within_bind _ _).mpr ⟨ih,within_pure _⟩
    | some uniqueId =>
      refine (within_bind _ _).mpr ⟨(within_cells _ _).mpr (.inr h),?_⟩
      rw [within_ite]
      split
      · exact within_pure _
      · exact (within_bind _ _).mpr ⟨ih,within_pure _⟩

theorem within_vcIdToAddressByte (h : i.vcData + 16 ≤ n) :
    Within n buf (vcIdToAddressByte i) := by
  refine (within_bind _ _).mpr ⟨within_idIndex _ h,?_⟩
  split
  · exact within_pure _
  · rw [within_ite,within_ite]
    split
    · exact (within_saveId _).mpr h
    · split
      · exact within_pure _
      · rw [within_ite]
        split
        · exact within_pure _
        · exact (within_saveId _).mpr h

theorem within_assignAddress (a : Address) (h : i.vcData + 16 ≤ n) :
    Within n buf (assignAddress i a) := by
  have hid : Within n buf (cells i.vcData uniqueIdBytes : Prog UInt8 (List UInt8)) :=
    (within_cells _ _).mpr (.inr h)
  cases a with
  | refused => exact within_pure _
  | known vcIndex =>
    simp only [assignAddress,within_ite,within_bind,within_pure,hid,and_self,ite_self]
  | saved vcIndex id =>
    simp only [assignAddress,within_ite,within_bind,within_pure,hid,and_self,ite_self]

/-- A heartbeat needs the unique ID, and the server's the time behind it. -/
@[simp] theorem within_vcReceiveHeartbeat :
    Within n buf (vcReceiveHeartbeat i) ↔
      i.vcData + (if i.rxSrcVc = vcServer then 20 else 16) ≤ n := by
  have hrest (h : i.vcData + 16 ≤ n) :
      Within n buf (assigned i) ∧ Within n buf (vcIdToAddressByte i) ∧
        ∀ a, Within n buf (assignAddress i a) := by
    refine ⟨?_,within_vcIdToAddressByte h,fun a => within_assignAddress a h⟩
    unfold assigned
    rw [within_ite]
    simp [h]
  unfold vcReceiveHeartbeat synced
  simp only [within_bind,within_ite,within_ownId,within_serverMillis,within_pure,and_true]
  by_cases hserver : i.rxSrcVc = vcServer
  · simp only [hserver,if_true,forall_const,true_and]
    exact ⟨And.left,fun h => ⟨h,(hrest (by omega)).1,(hrest (by omega)).2.1,
      (hrest (by omega)).2.2 _⟩⟩
  · simp only [hserver,if_false,false_imp_iff,true_and]
    exact ⟨And.left,fun h => ⟨h,(hrest h).1,(hrest h).2.1,(hrest h).2.2 _⟩⟩

theorem completeStart_ne : completeStart n ≠ n := by
  unfold completeStart vcSerialHeaderBytes vcCommandCompleteMessageBytes
  omega

theorem lt_completeStart (h : n < 5) : n < completeStart n := by
  unfold completeStart vcSerialHeaderBytes vcCommandCompleteMessageBytes
  omega

theorem within_responseLength : Within n buf (responseLength n) := by
  have hne := completeStart_ne (n := n)
  unfold responseLength
  generalize completeStart n = length at hne ⊢
  rw [within_ite]
  split
  · exact within_pure _
  next h =>
    refine (within_bind _ _).mpr ⟨(within_cell _).mpr (by omega),?_⟩
    rw [within_ite]
    split <;> exact within_pure _

theorem responseLength_run_le : (responseLength n).run buf ≤ n := by
  unfold responseLength
  generalize completeStart n = length
  rw [run_ite]
  split
  · rw [run_pure]
  next h =>
    rw [run_bind,run_ite]
    split
    · rw [run_pure]
    · rw [run_pure]
      exact Nat.le_of_not_lt h

/-- A short response is all response. -/
theorem responseLength_run_short (h : n < 5) : (responseLength n).run buf = n := by
  unfold responseLength
  rw [run_ite,if_pos (lt_completeStart h),run_pure]

@[simp] theorem within_transferResponse (length : Nat) :
    Within n buf (transferResponse length) ↔ length = 0 ∨ 2 ≤ n ∧ length ≤ n := by
  unfold transferResponse
  rw [within_ite]
  split
  next h => simp [h]
  next h =>
    simp only [within_bind,within_cell,within_cells,within_pure,h,false_or,and_true,Nat.zero_add]
    omega

/-- A response of one byte has no destination to write. -/
@[simp] theorem within_vcResponse : Within n buf (vcResponse n) ↔ n ≠ 1 := by
  have hle : (responseLength n).run buf ≤ n := responseLength_run_le
  simp only [vcResponse,within_bind,within_transferResponse,within_cells,within_pure,and_true]
  constructor
  · rintro ⟨-,hdata,-⟩ rfl
    rw [responseLength_run_short (by omega)] at hdata
    omega
  · intro hne
    exact ⟨within_responseLength,by omega,by omega⟩

theorem within_remoteCommand :
    Within n buf (cells vcRadioHeaderBytes ((n + 2 ^ 8 - vcRadioHeaderBytes) % 2 ^ 8) :
      Prog UInt8 (List UInt8)) ↔ 3 ≤ n := by
  rw [within_cells]
  unfold vcRadioHeaderBytes
  omega

/-- A training ends with settings for the radio whose ID comes first. -/
def Addressed (i : Inputs) (rxData : List UInt8) : Prop :=
  rxData.take uniqueIdBytes = i.myUniqueId

instance (i : Inputs) (rxData : List UInt8) : Decidable (Addressed i rxData) :=
  inferInstanceAs (Decidable (_ = _))

/-- The payload holds what the handler reads. -/
def Enough (state : RadioState) (i : Inputs) (t : DatagramType) (rxData : List UInt8) : Prop :=
  let n := rxData.length
  match state,t with
  | .p2pLinkDown,.findPartner => 4 ≤ n
  | .p2pWaitSyncClocks,.findPartner | .p2pWaitSyncClocks,.syncClocks => 5 ≤ n
  | .p2pLinkUp,.heartbeat | .p2pLinkUp,.dataAck => 4 ≤ n
  | .p2pLinkUp,.data | .p2pLinkUp,.remoteCommand | .p2pLinkUp,.remoteCommandResponse =>
    i.settings.debugging.debugSerial = true → i.length.toNat ≤ n
  | .discoverScanning,.syncClocks => i.settings.server = false → 5 ≤ n
  | .discoverStandby,.heartbeat => i.settings.server = false → 1 ≤ n
  | .trainWaitRxRadioParameters,.trainingParams =>
    uniqueIdBytes ≤ n ∧ (Addressed i rxData → uniqueIdBytes * 2 + sizeofSettings ≤ n)
  | .trainWaitForFindPartner,.trainingFindPartner => uniqueIdBytes ≤ n
  | .trainWaitForFindPartner,.trainingAck => uniqueIdBytes * 2 ≤ n
  | .vcWaitServer,.vcHeartbeat => i.rxSrcVc = vcServer → i.vcData + 20 ≤ n
  | .vcWaitReceive,.vcHeartbeat => i.vcData + (if i.rxSrcVc = vcServer then 20 else 16) ≤ n
  | .vcWaitReceive,.remoteCommand => vcRadioHeaderBytes ≤ n
  | .vcWaitReceive,.remoteCommandResponse => n ≠ 1
  | _,_ => True

variable {rxData : List UInt8}

theorem within_p2pLinkUp : Within rxData.length buf (p2pLinkUp i rxData.length t) ↔
    Enough .p2pLinkUp i t rxData := by
  cases t <;> simp [p2pLinkUp,Enough]

theorem within_trainWaitRxRadioParameters (hbuf : Starts buf rxData) :
    Within rxData.length buf (trainWaitRxRadioParameters i t) ↔
      Enough .trainWaitRxRadioParameters i t rxData := by
  cases t
  case trainingParams =>
    change Within rxData.length buf (trainWaitRxRadioParameters i .trainingParams) ↔
      uniqueIdBytes ≤ rxData.length ∧ _
    simp only [trainWaitRxRadioParameters,within_bind,within_ite,within_cells,within_pure,
      and_true]
    by_cases hn : uniqueIdBytes ≤ rxData.length
    · have hid : (cells 0 uniqueIdBytes).run buf = rxData.take uniqueIdBytes :=
        run_cells_slice hbuf (by omega)
      rw [hid]
      by_cases ha : rxData.take uniqueIdBytes = i.myUniqueId
      · simp only [Addressed,ha,hn,not_true_eq_false,ne_eq,if_false,forall_const,true_and]
        unfold uniqueIdBytes at hn
        unfold uniqueIdBytes sizeofSettings
        omega
      · simp only [Addressed,ha,hn,not_false_eq_true,ne_eq,if_true,false_imp_iff,and_true]
        exact iff_of_true ⟨.inr (by omega),.inr (by omega)⟩ trivial
    · refine iff_of_false (fun h => ?_) fun h => hn h.1
      have hread := h.1
      unfold uniqueIdBytes at hread hn
      omega
  all_goals exact iff_of_true (within_pure _) trivial

theorem within_trainWaitForFindPartner :
    Within rxData.length buf (trainWaitForFindPartner i t) ↔
      Enough .trainWaitForFindPartner i t rxData := by
  cases t <;> simp [trainWaitForFindPartner,Enough,uniqueIdBytes]

theorem within_vcWaitReceive :
    Within rxData.length buf (vcWaitReceive i rxData.length t) ↔
      Enough .vcWaitReceive i t rxData := by
  cases t
  case remoteCommand =>
    simp only [vcWaitReceive,within_bind,within_remoteCommand,within_pure,and_true]
    rfl
  all_goals simp [vcWaitReceive,Enough]

theorem within_discoverScanning :
    Within rxData.length buf (discoverScanning i t) ↔ Enough .discoverScanning i t rxData := by
  cases t
  case syncClocks =>
    have hread : 0 < rxData.length ∧ 5 ≤ rxData.length ↔ 5 ≤ rxData.length := by omega
    simp [discoverScanning,Enough,hread]
  all_goals simp [discoverScanning,Enough]

theorem within_vcWaitServer :
    Within rxData.length buf (vcWaitServer i t) ↔ Enough .vcWaitServer i t rxData := by
  cases t
  case vcHeartbeat =>
    by_cases hserver : i.rxSrcVc = vcServer <;> simp [vcWaitServer,Enough,hserver]
  all_goals simp [vcWaitServer,Enough]

/-- The handler stays inside the payload if and only if it is long enough. -/
theorem within_handle (hbuf : Starts buf rxData) :
    Within rxData.length buf (handle state i t rxData.length) ↔ Enough state i t rxData := by
  cases state
  case p2pLinkUp => exact within_p2pLinkUp
  case trainWaitRxRadioParameters => exact within_trainWaitRxRadioParameters hbuf
  case trainWaitForFindPartner => exact within_trainWaitForFindPartner
  case vcWaitReceive => exact within_vcWaitReceive
  case p2pLinkDown => cases t <;> simp [handle,p2pLinkDown,Enough]
  case p2pWaitSyncClocks => cases t <;> simp [handle,p2pWaitSyncClocks,Enough]
  case p2pWaitZeroAcks => cases t <;> simp [handle,Enough]
  case discoverScanning => exact within_discoverScanning
  case discoverStandby => cases t <;> simp [handle,discoverStandby,Enough,Nat.succ_le_iff]
  case mpStandby => cases t <;> simp [handle,mpStandby,Enough]
  case vcWaitServer => exact within_vcWaitServer

variable {s : Settings} {l : Layout} {g : Gcm} {iv incomingBuffer : List UInt8}
  {myVc : UInt8} {rxDataBytes : Nat} {d : Received}

/-- rxData[k]: the header ends where rxData points to when all its fields are
taken. -/
def rxDataCell (s : Settings) (g : Gcm) (iv incomingBuffer : List UInt8) (rxDataBytes : Nat)
    (k : Nat) : UInt8 :=
  (decodeBuffer s g iv incomingBuffer rxDataBytes).getD
    ((selectHeaderAndTrailerBytes s).headerBytes + k) 0

theorem starts_slice (buf : List UInt8) (pos m : Nat) :
    Starts (fun k => buf.getD (pos + k) 0) ((buf.drop pos).take m) := by
  intro k hk
  have hlt : pos + k < buf.length := by
    simp only [List.length_take,List.length_drop] at hk
    omega
  simp only [List.getElem_take,List.getElem_drop]
  rw [List.getD_eq_getElem?_getD,List.getElem?_eq_getElem hlt]
  rfl

theorem checkVcHeader_ok {e : Received} (h : checkVcHeader myVc e = .ok d) : d = e := by
  unfold checkVcHeader at h
  repeat' split at h
  all_goals cases h
  rfl

/-- An accepted payload is the bytes behind the header. -/
theorem receivedData_ok {buf : List UInt8} {pos : Nat} {data : List UInt8}
    (h : receivedData s l buf pos rxDataBytes = .ok data) :
    ∃ m, data = (buf.drop (pos + if s.radioSpreadFactor = 6 then 1 else 0)).take m := by
  unfold receivedData at h
  split at h
  next hsf =>
    rw [if_pos hsf]
    dsimp only at h
    split at h
    · exact ⟨_,(Except.ok.inj h).symm⟩
    · cases h
  next hsf =>
    rw [if_neg hsf]
    exact ⟨_,(Except.ok.inj h).symm⟩

theorem parseDatagram_ok
    (h : parseDatagram s l g iv myVc incomingBuffer rxDataBytes = .ok d) :
    receivedData s l (decodeBuffer s g iv incomingBuffer rxDataBytes)
      ((if s.netIdInHeader then 1 else 0) + 1 + if s.frequencyHop then 2 else 0) rxDataBytes =
        .ok d.data := by
  unfold parseDatagram at h
  dsimp only at h
  generalize (if s.netIdInHeader = true then 1 else 0) = pos at h ⊢
  generalize (if s.frequencyHop = true then some _ else none) = timer at h
  split at h
  · cases h
  split at h
  · cases h
  split at h
  · cases h
  split at h
  · cases h
  split at h
  · cases h
  next data hdata =>
    rw [hdata]
    split at h
    · rw [checkVcHeader_ok h]
    · rw [← Except.ok.inj h]

theorem starts_rxDataCell
    (h : parseDatagram s l g iv myVc incomingBuffer rxDataBytes = .ok d) :
    Starts (rxDataCell s g iv incomingBuffer rxDataBytes) d.data := by
  obtain ⟨m,hdata⟩ := receivedData_ok (parseDatagram_ok h)
  rw [hdata]
  exact starts_slice _ _ m

theorem parseDatagram_of_accepted {virtualCircuitList : Fin 32 → AckNumbers} {space : FreeSpace}
    {p : PacketType}
    (h : (Codec.rcvDatagram s l g iv myVc virtualCircuitList space incomingBuffer
      rxDataBytes).2 = (p,some d)) :
    parseDatagram s l g iv myVc incomingBuffer rxDataBytes = .ok d := by
  unfold Codec.rcvDatagram at h
  split at h
  · cases h
  next e hparse =>
    rw [hparse]
    split at h <;> cases h <;> rfl

/-- The handler reads inside the payload, and radio parameters that are not
complete are ignored. -/
def ReadsPayload (state : RadioState) (i : Inputs) (t : DatagramType) (rxData : Nat → UInt8)
    (rxDataBytes : Nat) : Prop :=
  Within rxDataBytes rxData (handle state i t rxDataBytes) ∧
    (state = .trainWaitRxRadioParameters → t = .trainingParams →
      rxDataBytes < uniqueIdBytes * 2 + sizeofSettings →
        (handle state i t rxDataBytes).run rxData = .ignored)

theorem short_params_ignored (hbuf : Starts buf rxData)
    (henough : Enough .trainWaitRxRadioParameters i .trainingParams rxData)
    (hshort : rxData.length < uniqueIdBytes * 2 + sizeofSettings) :
    (trainWaitRxRadioParameters i .trainingParams).run buf = .ignored := by
  obtain ⟨hid,hall⟩ := henough
  have hother : rxData.take uniqueIdBytes ≠ i.myUniqueId :=
    fun haddressed => absurd (hall haddressed) (Nat.not_le.mpr hshort)
  have hrun : (cells 0 uniqueIdBytes).run buf = rxData.take uniqueIdBytes :=
    run_cells_slice hbuf (by omega)
  simp only [trainWaitRxRadioParameters,run_bind,hrun,if_pos hother,run_pure]

/-- Every handler of an accepted datagram stays inside its payload, whatever lies
behind, exactly if the payload is as long as the type needs in that state. -/
theorem reads_payload_iff {virtualCircuitList : Fin 32 → AckNumbers} {space : FreeSpace}
    (h : (Codec.rcvDatagram i.settings l g iv myVc virtualCircuitList space incomingBuffer
      rxDataBytes).2 = (.datagram t,some d)) :
    ReadsPayload state i t (rxDataCell i.settings g iv incomingBuffer rxDataBytes)
      d.data.length ↔ Enough state i t d.data := by
  have hbuf := starts_rxDataCell (parseDatagram_of_accepted h)
  unfold ReadsPayload
  rw [within_handle hbuf]
  refine and_iff_left_of_imp fun henough => ?_
  rintro rfl rfl hshort
  exact short_params_ignored hbuf henough hshort

/-- A radio at the settings of a training. -/
def trainingClient : Inputs where
  settings := Config.trainingRadioSettings defaultSettings
  length := 0
  myUniqueId := List.replicate 16 0x37
  trainingPartnerID := []
  myVc := 0
  rxSrcVc := 0
  virtualCircuitList := []

/-- A payload of training parameters on the air. -/
def paramsFrame (payload : List UInt8) : List UInt8 :=
  let datagram := [84,0x0a] ++ payload
  Codec.radioComputeWhitening (datagram ++ Codec.crc16Bytes (Codec.crc16 datagram))

def noGcm : Gcm := ⟨fun _ _ bs => bs,fun _ _ bs => bs⟩

def paramsReceived (payload : List UInt8) : Received where
  control := ⟨.trainingParams,0,false,false⟩
  msToNextHopRemote := none
  data := payload

/-- Parameters for another radio are ignored. -/
theorem reads_payload_iff_other :
    let i := trainingClient
    ReadsPayload .trainWaitRxRadioParameters i .trainingParams
      (rxDataCell i.settings noGcm [] (paramsFrame (List.replicate 16 0x38)) 20) 16 := by
  have haccepted : (Codec.rcvDatagram trainingClient.settings
      (selectHeaderAndTrailerBytes trainingClient.settings) noGcm [] 0 (fun _ => .zero)
      ⟨255,255,false⟩ (paramsFrame (List.replicate 16 0x38)) 20).2 =
      (.datagram .trainingParams,some (paramsReceived (List.replicate 16 0x38))) := by
    decide +kernel
  exact (reads_payload_iff haccepted).mpr ⟨by decide,fun h => absurd h (by decide)⟩

/-- The own ID alone is taken for a full set of parameters. -/
theorem own_id_installs_params :
    let i := trainingClient
    let rxData := rxDataCell i.settings noGcm [] (paramsFrame i.myUniqueId) 20
    (Codec.rcvDatagram i.settings (selectHeaderAndTrailerBytes i.settings) noGcm [] 0
        (fun _ => .zero) ⟨255,255,false⟩ (paramsFrame i.myUniqueId) 20).2 =
      (.datagram .trainingParams,some (paramsReceived i.myUniqueId)) ∧
    (handle .trainWaitRxRadioParameters i .trainingParams 16).run rxData ≠ .ignored ∧
    ¬ReadsPayload .trainWaitRxRadioParameters i .trainingParams rxData 16 := by
  intro i rxData
  have haccepted : (Codec.rcvDatagram i.settings (selectHeaderAndTrailerBytes i.settings) noGcm []
      0 (fun _ => .zero) ⟨255,255,false⟩ (paramsFrame i.myUniqueId) 20).2 =
      (.datagram .trainingParams,some (paramsReceived i.myUniqueId)) := by decide +kernel
  have hrun : (handle .trainWaitRxRadioParameters i .trainingParams 16).run rxData ≠ .ignored := by
    decide +kernel
  exact ⟨haccepted,hrun,fun h => hrun (h.2 rfl rfl (by decide))⟩

/-- What a long enough payload leads to does not depend on the bytes behind it. -/
theorem run_of_enough {buf' : Nat → UInt8} (henough : Enough state i t rxData)
    (h : Starts buf rxData) (h' : Starts buf' rxData) :
    (handle state i t rxData.length).run buf = (handle state i t rxData.length).run buf' :=
  ((within_handle h).mpr henough).run_starts h h'

end LoRaSerial.Receive
