import LoRaSerial.VC.Report
import LoRaSerial.VC.Responses

namespace LoRaSerial.VC
open Rings Runs
open Outgoing (vcRadioHeaderBytes vcSerialHeaderBytes)

/-- The data that belongs to one circuit. -/
def dataOf (v : VcAddress) (l : List (VcAddress × List UInt8)) : List UInt8 :=
  l.flatMap fun x => if x.1 = v then x.2 else []

/-- The part of commandTXBuffer that goes to one circuit. -/
def Responder.pendingFor (s : Responder) (v : VcAddress) : List UInt8 :=
  if s.radio.rmtCmdVc = v then s.commandTXBuffer.contents else []

/-- Every circuit is sent what its own commands put out, all of it but for what
still waits, and nothing else. -/
def Responder.Isolated (s : Responder) : Prop :=
  ∀ v, dataOf v s.responses ++ s.pendingFor v = dataOf v s.executed

/-- Where a step touches commandTXBuffer: a command finds it empty or with output
for the same circuit, and has room for its own; what resets it finds it empty; a
response frame has outgoingPacket for itself and a circuit that is not down. -/
def Responder.Separate (s : Responder) (c : Call) : Prop :=
  match c.event,s.radio.atLinkCheck with
  | .pass packet i,false =>
    match s.radio.radioState,packet with
    | .reset,_ => s.commandTXBuffer.available = 0
    | .waitReceive,some p =>
      (rcvDatagram s.radio p (c.inputs i)).2 = .datagram .remoteCommand →
        (s.commandTXBuffer.available = 0 ∨
          (rcvDatagram s.radio p (c.inputs i)).1.rxSrcVc = s.radio.rmtCmdVc) ∧
        s.commandTXBuffer.available + c.response.length < commandTxBufferSize
    | .waitReceive,none =>
      i.receiveInProcess = true ∨ i.heartbeatTimeout = true ∨ s.commandTXBuffer.available = 0 ∨
        if s.radio.ackTimer then s.radio.breaksOwn (c.inputs i) = false
        else s.radio.unsent = none ∧ s.radio.responseBlocked = false
    | _,_ => True
  | _,_ => True

theorem dataOf_append (v : VcAddress) (l m : List (VcAddress × List UInt8)) :
    dataOf v (l ++ m) = dataOf v l ++ dataOf v m :=
  List.flatMap_append

theorem dataOf_singleton (v w : VcAddress) (data : List UInt8) :
    dataOf v [(w,data)] = if w = v then data else [] := by
  simp [dataOf]

/-- The output that waits belongs to rmtCmdVc, and no other circuit has any. -/
theorem isolated_iff {s : Responder} : s.Isolated ↔
    dataOf s.radio.rmtCmdVc s.responses ++ s.commandTXBuffer.contents =
      dataOf s.radio.rmtCmdVc s.executed ∧
    ∀ v ≠ s.radio.rmtCmdVc, dataOf v s.responses = dataOf v s.executed := by
  unfold Responder.Isolated Responder.pendingFor
  constructor
  · intro h
    refine ⟨by simpa using h s.radio.rmtCmdVc,fun v hv => ?_⟩
    simpa [Ne.symm hv] using h v
  · rintro ⟨hown,hothers⟩ v
    by_cases hv : s.radio.rmtCmdVc = v
    · subst hv
      simpa using hown
    · simpa [hv] using hothers v (Ne.symm hv)

/-- A step that neither runs a remote command nor sends a response keeps the
property exactly if it leaves the waiting output alone. -/
theorem isolated_quiet {s t : Responder} (h : s.Isolated)
    (hrmt : t.radio.rmtCmdVc = s.radio.rmtCmdVc)
    (hexecuted : t.executed = s.executed) (hresponses : t.responses = s.responses) :
    t.Isolated ↔ t.commandTXBuffer.contents = s.commandTXBuffer.contents := by
  obtain ⟨hown,hothers⟩ := isolated_iff.mp h
  rw [isolated_iff,hrmt,hexecuted,hresponses]
  constructor
  · rintro ⟨hown',-⟩
    exact List.append_cancel_left (hown'.trans hown.symm)
  · intro heq
    rw [heq]
    exact ⟨hown,hothers⟩

theorem Responder.Isolated.quiet {s t : Responder} (h : s.Isolated)
    (hrmt : t.radio.rmtCmdVc = s.radio.rmtCmdVc) (hexecuted : t.executed = s.executed)
    (hresponses : t.responses = s.responses)
    (hqueue : t.commandTXBuffer.contents = s.commandTXBuffer.contents) : t.Isolated :=
  (isolated_quiet h hrmt hexecuted hresponses).mpr hqueue

/-- Emptying the queue costs the property what waited in it. -/
theorem isolated_emptied {s t : Responder} (h : s.Isolated)
    (hrmt : t.radio.rmtCmdVc = s.radio.rmtCmdVc) (hexecuted : t.executed = s.executed)
    (hresponses : t.responses = s.responses) (hnil : t.commandTXBuffer.contents = []) :
    t.Isolated ↔ s.commandTXBuffer.available = 0 := by
  rw [isolated_quiet h hrmt hexecuted hresponses,hnil,← Ring.contents_eq_nil,eq_comm]

theorem isolated_executed {s t : Responder} (h : s.Isolated) {v : VcAddress} {response : List UInt8}
    (hrmt : t.radio.rmtCmdVc = v) (hexecuted : t.executed = s.executed ++ [(v,response)])
    (hresponses : t.responses = s.responses)
    (hqueue : t.commandTXBuffer = s.commandTXBuffer.pushAll response) :
    t.Isolated ↔ (s.commandTXBuffer.available = 0 ∨ v = s.radio.rmtCmdVc) ∧
      s.commandTXBuffer.available + response.length < commandTxBufferSize := by
  obtain ⟨hown,hothers⟩ := isolated_iff.mp h
  rw [isolated_iff,hrmt,hexecuted,hresponses,hqueue]
  simp only [dataOf_append,dataOf_singleton,if_true]
  -- what was sent to the circuit before, with the output that waits for it
  have hbefore : s.commandTXBuffer.available = 0 ∨ v = s.radio.rmtCmdVc →
      dataOf v s.responses ++ s.commandTXBuffer.contents = dataOf v s.executed := by
    rintro (hnone | rfl)
    · rw [Ring.contents_eq_nil.mpr hnone,List.append_nil]
      by_cases hv : v = s.radio.rmtCmdVc
      · subst hv
        rw [← hown,Ring.contents_eq_nil.mpr hnone,List.append_nil]
      · exact hothers v hv
    · exact hown
  constructor
  · rintro ⟨hown',hothers'⟩
    have hsame : s.commandTXBuffer.available = 0 ∨ v = s.radio.rmtCmdVc := by
      by_cases hv : v = s.radio.rmtCmdVc
      · exact .inr hv
      · have hlost := hothers' s.radio.rmtCmdVc (Ne.symm hv)
        rw [if_neg hv,List.append_nil,← hown] at hlost
        have hnil := List.append_cancel_left ((List.append_nil _).trans hlost)
        exact .inl (Ring.contents_eq_nil.mp hnil.symm)
    refine ⟨hsame,?_⟩
    rw [← hbefore hsame,List.append_assoc] at hown'
    have hlen := congrArg List.length (List.append_cancel_left hown')
    rw [List.length_append,Ring.length_contents,Ring.length_contents] at hlen
    have hlt := (s.commandTXBuffer.pushAll response).available_lt
    omega
  · rintro ⟨hsame,hfits⟩
    refine ⟨?_,fun w hw => ?_⟩
    · rw [Ring.contents_pushAll hfits,← List.append_assoc,hbefore hsame]
    · rw [if_neg (Ne.symm hw),List.append_nil]
      by_cases hcurrent : w = s.radio.rmtCmdVc
      · subst hcurrent
        rcases hsame with hnone | rfl
        · rw [← hown,Ring.contents_eq_nil.mpr hnone,List.append_nil]
        · exact absurd rfl hw
      · exact hothers w hcurrent

/-- A response frame takes `n` bytes from the queue. It must go out, and with
nothing behind them. -/
theorem isolated_sent {s t : Responder} (h : s.Isolated) {n : Nat} {residue : List UInt8}
    {blocked : Bool} (hn : 0 < n) (hsome : s.commandTXBuffer.available ≠ 0)
    (hrmt : t.radio.rmtCmdVc = s.radio.rmtCmdVc) (hexecuted : t.executed = s.executed)
    (hresponses : t.responses = if blocked then s.responses else
      s.responses ++ [(s.radio.rmtCmdVc,s.commandTXBuffer.contents.take n ++ residue)])
    (hqueue : t.commandTXBuffer.contents = s.commandTXBuffer.contents.drop n) :
    t.Isolated ↔ residue = [] ∧ blocked = false := by
  obtain ⟨hown,hothers⟩ := isolated_iff.mp h
  rw [isolated_iff,hrmt,hexecuted,hresponses,hqueue]
  cases blocked with
  | true =>
    simp only [if_true,Bool.true_eq_false,and_false,iff_false]
    rintro ⟨hown',-⟩
    -- the bytes have left the queue and went nowhere
    have heq := List.append_cancel_left (hown'.trans hown.symm)
    have hlen := congrArg List.length heq
    rw [List.length_drop,Ring.length_contents] at hlen
    omega
  | false =>
    simp only [Bool.false_eq_true,if_false,and_true,dataOf_append,dataOf_singleton]
    constructor
    · rintro ⟨hown',-⟩
      rw [if_true,← hown,List.append_assoc] at hown'
      have heq := List.append_cancel_left hown'
      have hlen := congrArg List.length heq
      simp only [List.length_append,List.length_take,List.length_drop,Ring.length_contents] at hlen
      exact List.length_eq_zero_iff.mp (by omega)
    · rintro rfl
      refine ⟨?_,fun v hv => ?_⟩
      · rw [if_true,List.append_nil,List.append_assoc,List.take_append_drop]
        exact hown
      · rw [if_neg (Ne.symm hv),List.append_nil]
        exact hothers v hv

theorem waitReceivePass_rmtCmdVc (r : Radio) (i : Inputs) :
    (waitReceivePass r none i).rmtCmdVc = r.rmtCmdVc := by
  unfold waitReceivePass
  dsimp only
  change (if _ then r else waitReceiveTransmit r i : Radio).rmtCmdVc = _
  split
  · rfl
  · exact waitReceiveTransmit_rmtCmdVc r i

/-- A pass that is not in RADIO_VC_WAIT_RECEIVE, or receives nothing there. -/
theorem pass_rmtCmdVc {r : Radio} {packet : Option Reception} (hcheck : r.atLinkCheck = false)
    (i : Inputs) (hquiet : r.radioState = .waitReceive → packet = none) :
    (step r (.pass packet i)).rmtCmdVc = r.rmtCmdVc := by
  rw [step_pass,if_pos hcheck]
  unfold updateRadioState
  split
  · exact resetPass_rmtCmdVc r i
  · exact waitServerPass_rmtCmdVc r packet i
  · unfold waitTxDonePass
    split <;> rfl
  next hstate =>
    rw [hquiet hstate]
    exact waitReceivePass_rmtCmdVc r i

theorem transmitDatagram_datagram (r : Radio) (t : DatagramType) (d : Datagram) (i : Inputs) :
    (transmitDatagram r t d i).1.tx.frame.datagram = d := by
  unfold transmitDatagram retransmitDatagram
  dsimp only
  split
  · rfl
  · change (Radio.startTransmit _ i.transmit).tx.frame.datagram = d
    unfold Radio.startTransmit
    dsimp only
    split <;> rfl

/-- The datagram of a response frame, and what lies behind its data. -/
theorem response_datagram {r : Radio} {i : Inputs} (packet : List UInt8)
    (hcheck : r.atLinkCheck = false) (hstate : r.radioState = .waitReceive)
    (hidle : i.receiveInProcess = false) (htimeout : i.heartbeatTimeout = false)
    (hack : r.ackTimer = false) :
    ∃ residue, (residue = [] ↔ r.unsent = none) ∧
      (step r (.pass none { i with commandPacket := some packet })).tx.frame.datagram.destVc =
        r.rmtCmdVc ∧
      (step r (.pass none { i with commandPacket := some packet })).tx.frame.datagram.data =
        packet ++ residue := by
  have hpass : step r (.pass none { i with commandPacket := some packet }) =
      (waitReceiveTransmit r { i with commandPacket := some packet }).setAtLinkCheck true := by
    simp [step_pass,hcheck,updateRadioState,hstate,waitReceivePass,hidle]
  have hstep : (step r (.pass none { i with commandPacket := some packet })).tx.frame.datagram =
      r.atFront (.build r.rmtCmdVc r.myVc packet) { i with commandPacket := some packet } := by
    rw [hpass]
    unfold waitReceiveTransmit
    simp only [htimeout,hack,Bool.false_eq_true,if_false]
    change (enter _ RadioState.waitTxDone).tx.frame.datagram = _
    unfold enter
    split <;> exact transmitDatagram_datagram _ _ _ _
  rw [hstep]
  unfold Radio.atFront
  cases r.unsent with
  | none => exact ⟨[],by simp,rfl,by simp [Datagram.build]⟩
  | some m => exact ⟨_,by simp [Datagram.bytes],rfl,rfl⟩

/-- The other events run no remote command and send no response. -/
theorem other_rmtCmdVc {r : Radio} {e : Event}
    (hother : ∀ packet i, e = .pass packet i → r.atLinkCheck = true) :
    (step r e).rmtCmdVc = r.rmtCmdVc := by
  cases e with
  | pass packet i =>
    rw [step_pass,if_neg (by simp [hother packet i rfl])]
  | linkCheck now limit =>
    unfold step
    cases r.atLinkCheck with
    | true =>
      dsimp only
      rw [setAtLinkCheck_rmtCmdVc,linkCheck_rmtCmdVc]
    | false => rfl
  | command c =>
    unfold step
    cases r.atLinkCheck with
    | true => rfl
    | false =>
      dsimp only
      rw [checkCommand_rmtCmdVc]
  | hostMessage destVc srcVc data =>
    unfold step
    cases r.atLinkCheck with
    | true => rfl
    | false =>
      dsimp only
      split
      · unfold hostMessage
        split
        · rfl
        · split <;> rfl
      · rfl

theorem receive_isolated {s : Responder} (h : s.Isolated) (hcheck : s.radio.atLinkCheck = false)
    (hstate : s.radio.radioState = .waitReceive) (p : Reception) (i : Inputs)
    (response : List UInt8) :
    (s.receive p i response).Isolated ↔
      ((rcvDatagram s.radio p i).2 = .datagram .remoteCommand →
        (s.commandTXBuffer.available = 0 ∨
          (rcvDatagram s.radio p i).1.rxSrcVc = s.radio.rmtCmdVc) ∧
        s.commandTXBuffer.available + response.length < commandTxBufferSize) := by
  have hpass : (step s.radio (.pass (some p) i)).rmtCmdVc =
      (waitReceiveFrame s.radio p i).rmtCmdVc := by
    rw [step_pass,if_pos hcheck]
    unfold updateRadioState
    rw [hstate]
    rfl
  rw [waitReceiveFrame_rmtCmdVc] at hpass
  unfold Responder.receive
  dsimp only
  split
  next hcommand =>
    rw [if_pos hcommand] at hpass
    refine Iff.trans (isolated_executed h hpass rfl rfl rfl) ?_
    exact ⟨fun hok _ => hok,fun hok => hok hcommand⟩
  next hother =>
    rw [if_neg hother] at hpass
    exact iff_of_true (h.quiet hpass rfl rfl rfl) (fun hcommand => absurd hcommand hother)

theorem sendResponse_isolated {s : Responder} (h : s.Isolated)
    (hcheck : s.radio.atLinkCheck = false) (hstate : s.radio.radioState = .waitReceive)
    {i : Inputs} (hidle : i.receiveInProcess = false) (htimeout : i.heartbeatTimeout = false)
    (hack : s.radio.ackTimer = false)
    (hsize : vcRadioHeaderBytes + vcSerialHeaderBytes < i.maxDatagramSize)
    (hsome : s.commandTXBuffer.available ≠ 0) :
    (s.sendResponse i).Isolated ↔ s.radio.unsent = none ∧ s.radio.responseBlocked = false := by
  obtain ⟨htaken,hleft⟩ := s.commandTXBuffer.take_contents
    (commandBytes_le s.commandTXBuffer i.maxDatagramSize)
  obtain ⟨residue,hnone,hdest,hdata⟩ := response_datagram
    (s.commandTXBuffer.take (commandBytes s.commandTXBuffer i.maxDatagramSize)).1
    hcheck hstate hidle htimeout hack
  rw [← hnone]
  refine isolated_sent h (commandBytes_pos hsize hsome) hsome
    (pass_rmtCmdVc hcheck _ fun _ => rfl) rfl ?_ hleft
  rw [← htaken]
  unfold Responder.sendResponse
  dsimp only [Responder.next]
  rw [hdest,hdata]

theorem transmit_isolated {s : Responder} (h : s.Isolated) (hcheck : s.radio.atLinkCheck = false)
    (hstate : s.radio.radioState = .waitReceive) {i : Inputs}
    (hsize : vcRadioHeaderBytes + vcSerialHeaderBytes < i.maxDatagramSize)
    (response : List UInt8) :
    (s.transmit i response).Isolated ↔
      i.receiveInProcess = true ∨ i.heartbeatTimeout = true ∨ s.commandTXBuffer.available = 0 ∨
        if s.radio.ackTimer then s.radio.breaksOwn i = false
        else s.radio.unsent = none ∧ s.radio.responseBlocked = false := by
  have hrmt : (step s.radio (.pass none i)).rmtCmdVc = s.radio.rmtCmdVc :=
    pass_rmtCmdVc hcheck i fun _ => rfl
  unfold Responder.transmit
  split
  next hbusy =>
    refine iff_of_true (h.quiet hrmt rfl rfl rfl) ?_
    rcases hbusy with hbusy | htimeout
    · exact .inl hbusy
    · exact .inr (.inl htimeout)
  next hfree =>
    obtain ⟨hidle,htimeout⟩ := not_or.mp hfree
    split
    next hack =>
      cases hown : s.radio.breaksOwn i with
      | true =>
        refine Iff.trans (isolated_emptied h hrmt rfl rfl (Ring.contents_revoke _)) ?_
        simp [hidle,htimeout]
      | false =>
        refine iff_of_true (h.quiet hrmt rfl rfl rfl) ?_
        exact .inr (.inr (.inr (by simp)))
    next hack =>
      split
      next hnone =>
        refine iff_of_true (h.quiet hrmt rfl rfl ?_) (.inr (.inr (.inl hnone)))
        dsimp only
        split
        · rw [Ring.contents_flush,Ring.contents_eq_nil.mpr hnone]
        · rfl
      next hsome =>
        rw [sendResponse_isolated h hcheck hstate (Bool.eq_false_iff.mpr hidle)
          (Bool.eq_false_iff.mpr htimeout) (Bool.eq_false_iff.mpr hack) hsize hsome]
        simp [hidle,htimeout,hsome]

/-- One step keeps the property exactly if it meets the condition. -/
theorem respond_isolated {s : Responder} (h : s.Isolated) (c : Call) :
    (respond s c).Isolated ↔ s.Separate c := by
  obtain ⟨e,settings,response⟩ := c
  by_cases hpass : ∃ packet i, e = .pass packet i ∧ s.radio.atLinkCheck = false
  · obtain ⟨packet,i,rfl,hcheck⟩ := hpass
    unfold respond Responder.Separate
    simp only [hcheck]
    unfold Responder.pass
    cases hstate : s.radio.radioState with
    | reset =>
      refine isolated_emptied h (pass_rmtCmdVc hcheck _ fun hw => ?_) rfl rfl
        (Ring.contents_flush _)
      cases hstate.symm.trans hw
    | waitServer =>
      refine iff_of_true (h.quiet (pass_rmtCmdVc hcheck _ fun hw => ?_) rfl rfl rfl) trivial
      cases hstate.symm.trans hw
    | waitTxDone =>
      refine iff_of_true (h.quiet (pass_rmtCmdVc hcheck _ fun hw => ?_) rfl rfl rfl) trivial
      cases hstate.symm.trans hw
    | waitReceive =>
      cases packet with
      | some p => exact receive_isolated h hcheck hstate p _ response
      | none => exact transmit_isolated h hcheck hstate (maxDatagramSize_large settings) response
  · have hother : ∀ packet i, e = .pass packet i → s.radio.atLinkCheck = true := by
      intro packet i he
      by_contra hfalse
      exact hpass ⟨packet,i,he,Bool.eq_false_iff.mpr hfalse⟩
    have hnext : respond s ⟨e,settings,response⟩ = s.next e := by
      unfold respond
      split
      next he hcheck => cases (hother _ _ he).symm.trans hcheck
      · rfl
    have hok : s.Separate ⟨e,settings,response⟩ := by
      unfold Responder.Separate
      split
      next he hcheck => cases (hother _ _ he).symm.trans hcheck
      · trivial
    rw [hnext]
    exact iff_of_true (h.quiet (other_rmtCmdVc hother) rfl rfl rfl) hok

/-- A radio that has run no remote command yet. -/
structure Responder.Fresh (s : Responder) : Prop where
  commandTXBuffer : s.commandTXBuffer.contents = []
  executed : s.executed = []
  responses : s.responses = []

theorem Responder.Fresh.isolated {s : Responder} (h : s.Fresh) : s.Isolated := by
  intro v
  unfold Responder.pendingFor
  rw [h.commandTXBuffer,h.executed,h.responses]
  simp [dataOf]

instance (s : Responder) (c : Call) : Decidable (s.Separate c) := by
  unfold Responder.Separate
  exact
    match c.event,s.radio.atLinkCheck with
    | .pass packet i,false =>
      match s.radio.radioState,packet with
      | .reset,_ => inferInstanceAs (Decidable (_ = _))
      | .waitServer,_ => instDecidableTrue
      | .waitTxDone,_ => instDecidableTrue
      | .waitReceive,some p => inferInstanceAs (Decidable (_ → _ ∧ _))
      | .waitReceive,none => inferInstanceAs (Decidable (_ ∨ _ ∨ _ ∨ ite _ _ _))
    | .pass _ _,true => instDecidableTrue
    | .linkCheck _ _,_ => instDecidableTrue
    | .command _,_ => instDecidableTrue
    | .hostMessage _ _ _,_ => instDecidableTrue

/-- Through a whole run every circuit is sent its own responses, whole and
nothing else, exactly if each step of the run meets the condition. -/
theorem responses_isolated_iff {s : Responder} (h : s.Fresh) (cs : List Call) :
    Always respond Responder.Isolated s cs ↔ Along respond Responder.Separate s cs := by
  have hstep : ∀ (s : Responder) c, s.Isolated → s.Separate c → (respond s c).Isolated :=
    fun _ c hs hc => (respond_isolated hs c).mpr hc
  have honly : ∀ (s : Responder) c, s.Isolated → (respond s c).Isolated → s.Separate c :=
    fun _ c hs hp => (respond_isolated hs c).mp hp
  exact always_iff_along hstep (fun _ hs => hs) honly h.isolated cs

def Responder.powerUp : Responder where
  radio := .powerUp
  commandTXBuffer := { cell := fun _ => 0, head := 0, tail := 0 }
  executed := []
  responses := []

theorem Responder.powerUp_fresh : Responder.powerUp.Fresh where
  commandTXBuffer := by decide
  executed := rfl
  responses := rfl

/-- Events whose commands, should there be any, all put out the same bytes. -/
def putOut (response : List UInt8) (es : List Event) : List Call :=
  es.map fun e => ⟨e,defaultSettings,response⟩

/-- The server starts and hears both clients. -/
def hearBoth : List Event :=
  [.pass none .idle] ++ txDone ++
    hears .vcHeartbeat 1 0xFF (List.replicate 16 0xB1 ++ [0,0,0,0]) ++
    hears .vcHeartbeat 2 0xFF (List.replicate 16 0xB2 ++ [0,0,0,0])

/-- A remote command from a client and the end of its ACK. -/
def commandFrom (v : VcAddress) : List Event := hears .remoteCommand v 0 [0x41,0x54] ++ txDone

def sendNext : List Event := [.pass none .idle,.linkCheck 0 3000] ++ txDone

/-- The response to client 1 leaves before the command of client 2 arrives, as
the ACK for it may not. -/
def oneByOne : List Call :=
  putOut [] hearBoth ++ putOut [0x31,0x32] (commandFrom 1) ++ putOut [] sendNext ++
    putOut [0x33] (commandFrom 2)

theorem responses_isolated_one_by_one :
    Always respond Responder.Isolated .powerUp oneByOne ∧
      (run respond .powerUp oneByOne).responses = [(1,[0x31,0x32])] :=
  ⟨(responses_isolated_iff Responder.powerUp_fresh oneByOne).mpr (by decide +kernel),
    by decide +kernel⟩

/-- The command of client 2 comes first. -/
def bothAtOnce : List Call :=
  putOut [] hearBoth ++ putOut [0x31,0x32] (commandFrom 1) ++ putOut [0x33] (commandFrom 2) ++
    putOut [] sendNext

/-- Client 2 is sent the response to client 1 with its own. -/
theorem response_to_other_client :
    (run respond .powerUp bothAtOnce).executed = [(1,[0x31,0x32]),(2,[0x33])] ∧
    (run respond .powerUp bothAtOnce).responses = [(2,[0x31,0x32,0x33])] ∧
    ¬ Always respond Responder.Isolated .powerUp bothAtOnce := by
  have hexecuted : (run respond .powerUp bothAtOnce).executed = [(1,[0x31,0x32]),(2,[0x33])] := by
    decide +kernel
  have hresponses : (run respond .powerUp bothAtOnce).responses = [(2,[0x31,0x32,0x33])] := by
    decide +kernel
  have hrmt : (run respond .powerUp bothAtOnce).radio.rmtCmdVc = 2 := by decide +kernel
  refine ⟨hexecuted,hresponses,fun h => ?_⟩
  have hfirst := h bothAtOnce List.prefix_rfl 1
  rw [Responder.pendingFor,hexecuted,hresponses,hrmt] at hfirst
  simp [dataOf] at hfirst

end LoRaSerial.VC
