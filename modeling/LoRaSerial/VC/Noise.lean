import LoRaSerial.Codec.CrcAcceptance
import LoRaSerial.Heartbeat.Intervals
import LoRaSerial.Receive.Rejection
import LoRaSerial.VC.Traffic

namespace LoRaSerial.VC
open Runs
open P2P (Damage)
open Codec (Gcm crcMismatch decodeBuffer receivedData)
open Receive (ReadState)
open Heartbeat (linkBreakMultiplier)

/-- What readData leaves behind transactionComplete. -/
structure Arrival where
  state : ReadState
  incomingBuffer : List UInt8
  rxDataBytes : Nat

/-- The settings of a radio, with the AES library and its IV. -/
structure Receiver where
  settings : Settings
  layout : Layout
  gcm : Gcm
  iv : List UInt8

namespace Receiver

/-- rcvDatagram as far as the virtual circuit header. -/
def openDatagram (c : Receiver) (a : Arrival) : Except Damage Frame :=
  match a.state with
  | .crcMismatch _ => .error .crcError
  | .failed _ => .error .bad
  | .none =>
    let s := c.settings
    let buf := decodeBuffer s c.gcm c.iv a.incomingBuffer a.rxDataBytes
    let pos := if s.netIdInHeader then 1 else 0
    let control := Control.ofByte (buf.getD pos 0)
    let dataPos := pos + 1 + (if s.frequencyHop then 2 else 0)
    if a.rxDataBytes < c.layout.minDatagramSize then .error .bad
    else if s.netIdInHeader ∧ buf.getD 0 0 ≠ s.netID then .error .netIdMismatch
    else if s.enableCRC16 ∧ crcMismatch buf a.rxDataBytes then .error .crcError
    else if control.ignoreFrame then .error .bad
    else
      match receivedData s c.layout buf dataPos a.rxDataBytes with
      | .ok (length :: destVc :: srcVc :: data) =>
        .ok ⟨control,⟨length,destVc.toBitVec,srcVc.toBitVec,data⟩,0⟩
      | _ => .error .bad

def reception (c : Receiver) (a : Arrival) : Reception :=
  match c.openDatagram a with
  | .ok f => .frame f
  | .error d => .damaged d

/-- The frame passed the checks as far as its length byte, and comes from a
circuit. -/
def Passed (c : Receiver) (a : Arrival) (v : Fin maxVc) : Prop :=
  ∃ f, c.openDatagram a = .ok f ∧ f.datagram.srcVc = .ofNumber v ∧
    f.datagram.length.toNat = f.rxDataBytes

/-- LINK_BREAK_MULTIPLIER * settings.heartbeatTimeout -/
def linkBreakMillis (c : Receiver) : BitVec 32 :=
  BitVec.ofNat 32 (linkBreakMultiplier * c.settings.heartbeatTimeout.toNat)

end Receiver

/-- A call of updateRadioState, a command or a message from the host. -/
inductive Turn where
  | updateRadioState (arrival : Option Arrival) (i : Inputs)
  | command (m : Command)
  | hostMessage (destVc srcVc : VcAddress) (data : List UInt8)

namespace Receiver

/-- The link check of a call takes the time that the call began with. -/
def step (c : Receiver) (r : Radio) : Turn → Radio
  | .updateRadioState arrival i =>
    VC.step (VC.step r (.pass (arrival.map c.reception) i))
      (.linkCheck i.currentMillis c.linkBreakMillis)
  | .command m => VC.step r (.command m)
  | .hostMessage destVc srcVc data => VC.step r (.hostMessage destVc srcVc data)

/-- A reception in RADIO_VC_WAIT_RECEIVE refreshes a circuit only if this frame
passed the checks and comes from it. -/
def RealTraffic (c : Receiver) (r : Radio) : Turn → Prop
  | .updateRadioState (some a) i => r.atLinkCheck = false → r.radioState = .waitReceive →
      ∀ v, r.refreshed (c.reception a) i = some v → c.Passed a v
  | _ => True

/-- A frame that is rejected before its header finds a special address in
rxSrcVc; a header that is read names a special source, or a circuit with the
right length. -/
def Clean (c : Receiver) (r : Radio) : Turn → Prop
  | .updateRadioState (some a) _ => r.atLinkCheck = false → r.radioState = .waitReceive →
      match c.openDatagram a with
      | .error _ => minRxNotAllowed.toNat ≤ r.rxSrcVc.toNat
      | .ok f => minRxNotAllowed.toNat ≤ f.datagram.srcVc.toNat ∨
          f.datagram.srcVc.toNat < maxVc ∧ f.datagram.length.toNat = f.rxDataBytes
  | _ => True

/-- The call does not receive a frame of the circuit. -/
def Silent (c : Receiver) (v : Fin maxVc) : Turn → Prop
  | .updateRadioState (some a) _ => ¬c.Passed a v
  | _ => True

/-- Whatever else is received, a circuit is broken by the call that finds it
silent for longer than LINK_BREAK_MULTIPLIER heartbeat timeouts. -/
def BreaksSilent (c : Receiver) (r : Radio) (es : List Turn) : Prop :=
  ∀ v before during arrival i after,
    es = before ++ (during ++ .updateRadioState arrival i :: after) →
    (∀ e ∈ during, c.Silent v e) → c.Silent v (.updateRadioState arrival i) →
    Always c.step (fun q => q.myVc ≠ .ofNumber v) (run c.step r before)
      (during ++ [.updateRadioState arrival i]) →
    (run c.step r (before ++ during)).radioState = .waitReceive →
    c.linkBreakMillis < i.currentMillis - (run c.step r before).traffic v →
    ((run c.step r (before ++ (during ++ [.updateRadioState arrival i]))).virtualCircuitList
      v).vcState = .linkDown

theorem openDatagram_ignoreFrame {c : Receiver} {a : Arrival} {f : Frame}
    (h : c.openDatagram a = .ok f) : f.control.ignoreFrame = false := by
  unfold openDatagram at h
  split at h
  · cases h
  · cases h
  · dsimp only at h
    generalize (if c.settings.netIdInHeader = true then 1 else 0) = pos at h
    split at h
    · cases h
    split at h
    · cases h
    split at h
    · cases h
    split at h
    · cases h
    next hignore =>
      split at h
      · cases h
        simpa using hignore
      · cases h

/-- The header check looks at the data alone. -/
theorem parseVcHeader_data (myVc : UInt8) {d d' : Codec.Received} (h : d.data = d'.data) :
    (Receive.parseVcHeader myVc d).map Codec.Received.data =
      (Receive.parseVcHeader myVc d').map Codec.Received.data := by
  unfold Receive.parseVcHeader
  rw [h]
  split
  · split
    · rfl
    · split
      · rfl
      · split
        · rfl
        · exact congrArg Except.ok h
  · rfl

/-- The header as Receive.parseFrame judges it. -/
theorem parseFrame_eq {c : Receiver} (hmode : c.settings.operatingMode = .virtualCircuit)
    {a : Arrival} (hstate : a.state = .none) (myVc : UInt8) :
    (Receive.parseFrame c.settings c.layout c.gcm c.iv myVc a.incomingBuffer
        a.rxDataBytes).map Codec.Received.data =
      match c.openDatagram a with
      | .error d => .error (d.packetType,none)
      | .ok f => (Receive.parseVcHeader myVc ⟨f.control,none,f.datagram.bytes⟩).map
          Codec.Received.data := by
  unfold Receive.parseFrame openDatagram
  rw [hstate]
  dsimp only
  generalize decodeBuffer c.settings c.gcm c.iv a.incomingBuffer a.rxDataBytes = buf
  generalize (if c.settings.netIdInHeader = true then 1 else 0) = pos
  by_cases hsize : a.rxDataBytes < c.layout.minDatagramSize
  · rw [if_pos hsize,if_pos hsize]
    rfl
  rw [if_neg hsize,if_neg hsize]
  by_cases hnet : c.settings.netIdInHeader = true ∧ buf.getD 0 0 ≠ c.settings.netID
  · rw [if_pos hnet,if_pos hnet]
    rfl
  rw [if_neg hnet,if_neg hnet]
  by_cases hcrc : c.settings.enableCRC16 = true ∧ crcMismatch buf a.rxDataBytes = true
  · rw [if_pos hcrc,if_pos hcrc]
    rfl
  rw [if_neg hcrc,if_neg hcrc]
  by_cases hignore : (Control.ofByte (buf.getD pos 0)).ignoreFrame = true
  · rw [if_pos hignore,if_pos hignore]
    rfl
  rw [if_neg hignore,if_neg hignore]
  cases hread : receivedData c.settings c.layout buf
    (pos + 1 + if c.settings.frequencyHop = true then 2 else 0) a.rxDataBytes with
  | error p =>
    obtain rfl := Codec.receivedData_error hread
    rfl
  | ok data =>
    dsimp only
    rw [if_pos hmode]
    match data with
    | length :: destVc :: srcVc :: data => exact parseVcHeader_data myVc rfl
    | [] => rfl
    | [_] => rfl
    | [_,_] => rfl

theorem refreshedBy_none {a : VcAddress} (h : minRxNotAllowed.toNat ≤ a.toNat) :
    refreshedBy a = none :=
  if_neg (Nat.not_lt.mpr h)

theorem refreshed_error {c : Receiver} {a : Arrival} {d : Damage}
    (h : c.openDatagram a = .error d) (r : Radio) (i : Inputs) :
    r.refreshed (c.reception a) i = refreshedBy r.rxSrcVc := by
  rw [Radio.refreshed,rxSrcVc_rcvDatagram,reception,h]
  rfl

theorem refreshed_ok {c : Receiver} {a : Arrival} {f : Frame} (h : c.openDatagram a = .ok f)
    (r : Radio) (i : Inputs) :
    r.refreshed (c.reception a) i = refreshedBy f.datagram.srcVc := by
  rw [Radio.refreshed,rxSrcVc_rcvDatagram,reception,h]
  exact congrArg refreshedBy (if_neg (by simp [openDatagram_ignoreFrame h]))

theorem realTraffic_iff_clean (c : Receiver) (r : Radio) (e : Turn) :
    c.RealTraffic r e ↔ c.Clean r e := by
  cases e with
  | command m => exact Iff.rfl
  | hostMessage destVc srcVc data => exact Iff.rfl
  | updateRadioState arrival i =>
    cases arrival with
    | none => exact Iff.rfl
    | some a =>
      refine forall_congr' fun _ => forall_congr' fun _ => ?_
      cases hopen : c.openDatagram a with
      | error d =>
        rw [refreshed_error hopen]
        constructor
        · intro hreal
          by_contra hnumber
          obtain ⟨f,hf,-⟩ := hreal _ (if_pos (Nat.lt_of_not_le hnumber))
          rw [hopen] at hf
          cases hf
        · intro hspecial v hv
          rw [refreshedBy_none hspecial] at hv
          cases hv
      | ok f =>
        rw [refreshed_ok hopen]
        constructor
        · intro hreal
          by_cases hspecial : minRxNotAllowed.toNat ≤ f.datagram.srcVc.toNat
          · exact .inl hspecial
          · obtain ⟨g,hg,hsource,hlength⟩ := hreal _ (if_pos (Nat.lt_of_not_le hspecial))
            obtain rfl : f = g := Except.ok.inj (hopen.symm.trans hg)
            refine .inr ⟨?_,hlength⟩
            rw [hsource,VcAddress.toNat_ofNumber]
            exact Fin.isLt _
        · rintro (hspecial | ⟨hnumber,hlength⟩) v hv
          · rw [refreshedBy_none hspecial] at hv
            cases hv
          · have hv' : f.datagram.srcVc.number = v := by
              unfold refreshedBy at hv
              split at hv
              · exact Option.some.inj hv
              · cases hv
            exact ⟨f,hopen,by rw [← hv',VcAddress.ofNumber_number hnumber],hlength⟩

theorem passed_of_reception {c : Receiver} {a : Arrival} {v : Fin maxVc}
    (h : (c.reception a).PassedFrom v) : c.Passed a v := by
  obtain ⟨f,hf,-,hsource,hlength⟩ := h
  unfold reception at hf
  cases hopen : c.openDatagram a with
  | error d =>
    rw [hopen] at hf
    cases hf
  | ok g =>
    rw [hopen] at hf
    cases hf
    exact ⟨_,hopen,hsource,hlength⟩

/-- Leaving the link check changes neither of these. -/
theorem checked_frame {q r : Radio} (h : q.traffic = r.traffic ∧ q.myVc = r.myVc) :
    (q.setAtLinkCheck false).traffic = r.traffic ∧ (q.setAtLinkCheck false).myVc = r.myVc :=
  h

theorem checked_down {q : Radio} {v : Fin maxVc}
    (h : (q.virtualCircuitList v).vcState = .linkDown) :
    ((q.setAtLinkCheck false).virtualCircuitList v).vcState = .linkDown :=
  h

theorem linkCheck_step (r : Radio) (now limit : BitVec 32) :
    (VC.step r (.linkCheck now limit)).traffic = r.traffic ∧
      (VC.step r (.linkCheck now limit)).myVc = r.myVc := by
  unfold VC.step
  cases r.atLinkCheck with
  | false => exact ⟨rfl,rfl⟩
  | true => exact checked_frame (linkCheck_frame r now limit)

/-- With real traffic only, a call that receives no frame of a circuit leaves
its lastTrafficMillis alone. -/
theorem traffic_step {c : Receiver} {r : Radio} {e : Turn} {v : Fin maxVc}
    (hreal : c.RealTraffic r e) (hsilent : c.Silent v e) (hv : r.myVc ≠ .ofNumber v) :
    (c.step r e).traffic v = r.traffic v := by
  cases e with
  | command m =>
    change (VC.step r (.command m)).traffic v = _
    unfold VC.step
    cases r.atLinkCheck with
    | false => exact congrFun (traffic_checkCommand r m) v
    | true => rfl
  | hostMessage destVc srcVc data =>
    change (VC.step r (.hostMessage destVc srcVc data)).traffic v = _
    unfold VC.step
    cases r.atLinkCheck with
    | true => rfl
    | false =>
      dsimp only
      unfold hostMessage
      split
      · split
        · rfl
        · split
          · rfl
          · rfl
      · rfl
  | updateRadioState arrival i =>
    change (VC.step (VC.step r (.pass (arrival.map c.reception) i)) _).traffic v = _
    rw [(linkCheck_step _ _ _).1]
    unfold VC.step
    cases hcheck : r.atLinkCheck with
    | true => rfl
    | false =>
      refine traffic_updateRadioState i hv ?_ ?_
      · intro p hp
        obtain ⟨a,rfl,rfl⟩ := Option.map_eq_some_iff.mp hp
        exact fun h => hsilent (passed_of_reception h)
      · intro hstate p hp
        obtain ⟨a,rfl,rfl⟩ := Option.map_eq_some_iff.mp hp
        exact fun h => hsilent (hreal hcheck hstate v h)

theorem traffic_run {c : Receiver} {r : Radio} {v : Fin maxVc} {es : List Turn}
    (hreal : Along c.step c.RealTraffic r es) (hsilent : ∀ e ∈ es, c.Silent v e)
    (hv : Always c.step (fun q => q.myVc ≠ .ofNumber v) r es) :
    (run c.step r es).traffic v = r.traffic v := by
  induction es generalizing r with
  | nil => rfl
  | cons e es ih =>
    obtain ⟨he,hes⟩ := List.forall_mem_cons.mp hsilent
    obtain ⟨hown,hrest⟩ := always_cons.mp hv
    rw [run_cons,ih hreal.2 hes hrest]
    exact traffic_step hreal.1 he hown

/-- In RADIO_VC_WAIT_RECEIVE every call comes to its link check. -/
theorem step_old {c : Receiver} {r : Radio} {arrival : Option Arrival} {i : Inputs}
    {v : Fin maxVc} (hstate : r.radioState = .waitReceive)
    (hv : (c.step r (.updateRadioState arrival i)).myVc ≠ .ofNumber v)
    (hold : c.linkBreakMillis <
      i.currentMillis - (c.step r (.updateRadioState arrival i)).traffic v) :
    ((c.step r (.updateRadioState arrival i)).virtualCircuitList v).vcState = .linkDown := by
  unfold step at hv hold ⊢
  dsimp only at hv hold ⊢
  have hcheck : (VC.step r (.pass (arrival.map c.reception) i)).atLinkCheck = true := by
    unfold VC.step
    cases hat : r.atLinkCheck with
    | true => exact hat
    | false =>
      dsimp only
      unfold updateRadioState
      rw [hstate]
      rfl
  generalize VC.step r (.pass (arrival.map c.reception) i) = q at hv hold hcheck ⊢
  rw [(linkCheck_step q _ _).2] at hv
  rw [(linkCheck_step q _ _).1] at hold
  unfold VC.step
  rw [hcheck]
  exact checked_down (linkCheck_old hv hold)

theorem breaksSilent {c : Receiver} {r : Radio} {es : List Turn}
    (hreal : Along c.step c.RealTraffic r es) : c.BreaksSilent r es := by
  intro v before during arrival i after hes hsilent hlast hv hstate hold
  have hsplit : es = before ++ ((during ++ [.updateRadioState arrival i]) ++ after) := by
    rw [hes,List.append_cons during,List.append_assoc]
  rw [hsplit,Along.append,Along.append] at hreal
  have hquiet : ∀ e ∈ during ++ [.updateRadioState arrival i], c.Silent v e := by
    intro e he
    rcases List.mem_append.mp he with he | he
    · exact hsilent e he
    · rw [List.mem_singleton.mp he]
      exact hlast
  have htraffic := traffic_run hreal.2.1 hquiet hv
  have hown := hv _ List.prefix_rfl
  rw [run_append] at hstate ⊢
  rw [run_append] at htraffic hown ⊢
  rw [← htraffic] at hold
  exact step_old hstate hown hold

theorem real_traffic_iff (c : Receiver) (r : Radio) (es : List Turn) :
    Along c.step c.RealTraffic r es ∧ c.BreaksSilent r es ↔ Along c.step c.Clean r es := by
  have hlaw : Along c.step c.RealTraffic r es ↔ Along c.step c.Clean r es :=
    along_congr c.realTraffic_iff_clean r es
  rw [← hlaw]
  exact and_iff_left_of_imp breaksSilent

/-- A server that sends its frames in the clear, without a CRC and a net ID. -/
def plain : Receiver :=
  let settings := { defaultSettings with
    operatingMode := .virtualCircuit
    server := true
    encryptData := false
    enableCRC16 := false
    frequencyHop := false
    verifyRxNetID := false }
  ⟨settings,selectHeaderAndTrailerBytes settings,⟨fun _ _ bs => bs,fun _ _ bs => bs⟩,[]⟩

/-- Circuit 2 is connected. -/
def server : Radio :=
  { Radio.powerUp with
    radioState := .waitReceive
    virtualCircuitList := fun v =>
      if v = 2 then { VirtualCircuit.garbage with valid := true, vcState := .connected }
      else .garbage }

/-- A broadcast from circuit 2 with no data, at 1 ms. -/
def hearsTwo : Turn :=
  .updateRadioState (some ⟨.none,[(⟨.datagram,0,false,false⟩ : Control).byte,3,0xFF,2],4⟩)
    { Inputs.idle with currentMillis := 1 }

/-- A frame with a CRC error, at 15000 ms. -/
def noise : Turn :=
  .updateRadioState (some ⟨.crcMismatch (-7),[],0⟩) { Inputs.idle with currentMillis := 15000 }

/-- Nothing is received at 16000 ms. -/
def quiet : Turn := .updateRadioState none { Inputs.idle with currentMillis := 16000 }

theorem noise_keeps_circuit_up :
    (server.virtualCircuitList 2).vcState = .connected ∧
      ((run plain.step server [hearsTwo,quiet]).virtualCircuitList 2).vcState = .linkDown ∧
      ((run plain.step server [hearsTwo,noise,quiet]).virtualCircuitList 2).vcState =
        .connected ∧
      ¬Along plain.step plain.RealTraffic server [hearsTwo,noise,quiet] ∧
      ¬plain.BreaksSilent server [hearsTwo,noise,quiet] := by
  have hup : ((run plain.step server [hearsTwo,noise,quiet]).virtualCircuitList 2).vcState =
      .connected := by decide +kernel
  have hnoise : ¬∃ f, plain.openDatagram ⟨.crcMismatch (-7),[],0⟩ = .ok f := by
    rintro ⟨f,hf⟩
    cases hf
  refine ⟨rfl,by decide +kernel,hup,?_,?_⟩
  · rintro ⟨-,hreal,-⟩
    obtain ⟨f,hf,-⟩ := hreal (by decide +kernel) (by decide +kernel) 2 (by decide +kernel)
    exact hnoise ⟨f,hf⟩
  · intro hbreaks
    have hdown := hbreaks 2 [hearsTwo] [noise] none { Inputs.idle with currentMillis := 16000 } []
      rfl ?_ trivial ?_ (by decide +kernel) (by decide +kernel)
    · have hrun : [hearsTwo] ++ ([noise] ++ [Turn.updateRadioState none
          { Inputs.idle with currentMillis := 16000 }]) = [hearsTwo,noise,quiet] := rfl
      rw [hrun,hup] at hdown
      cases hdown
    · intro e he
      rw [List.mem_singleton.mp he]
      rintro ⟨f,hf,-⟩
      exact hnoise ⟨f,hf⟩
    · rw [List.singleton_append,always_cons,always_cons]
      refine ⟨by decide +kernel,by decide +kernel,fun fs hfs => ?_⟩
      rw [List.prefix_nil.mp hfs]
      decide +kernel

end Receiver

end LoRaSerial.VC
