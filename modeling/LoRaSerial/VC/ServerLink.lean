import LoRaSerial.VC.Steady

namespace LoRaSerial.VC
open Runs

/-- Every circuit but the radio's own is down. -/
def Radio.CutOff (r : Radio) : Prop :=
  ∀ v, VcAddress.ofNumber v ≠ r.myVc → (r.virtualCircuitList v).vcState = .linkDown

instance (r : Radio) : Decidable r.CutOff := inferInstanceAs (Decidable (∀ _,_ → _))

/-- A radio that waits for the server keeps no link. -/
def Radio.WaitsCutOff (r : Radio) : Prop := r.radioState = .waitServer → r.CutOff

instance (r : Radio) : Decidable r.WaitsCutOff := inferInstanceAs (Decidable (_ → _))

/-- A transmission that completes with the server's circuit down completes with
all the other circuits down as well. -/
def Radio.CompletesCutOff (r : Radio) : Event → Prop
  | .pass packet _ => r.atLinkCheck = false → r.radioState = .waitTxDone → packet.isSome = true →
      (r.circuit vcServer).vcState = .linkDown → r.CutOff
  | _ => True

instance (r : Radio) : (e : Event) → Decidable (r.CompletesCutOff e)
  | .pass _ _ => inferInstanceAs (Decidable (_ → _ → _ → _ → _))
  | .linkCheck _ _ | .command _ | .hostMessage _ _ _ => inferInstanceAs (Decidable True)

/-- The property, and that the link check belongs to RADIO_VC_WAIT_RECEIVE. -/
structure Radio.Served (r : Radio) : Prop where
  cutOff : r.WaitsCutOff
  atLinkCheck : r.atLinkCheck = true → r.radioState ≠ .waitServer

theorem Radio.Served.of_state {r : Radio} (h : r.radioState ≠ .waitServer) : r.Served :=
  ⟨fun hs => absurd hs h,fun _ => h⟩

/-- No circuit changes its state. -/
structure SameLinks (r r' : Radio) : Prop where
  myVc : r'.myVc = r.myVc
  vcState : ∀ v, (r'.virtualCircuitList v).vcState = (r.virtualCircuitList v).vcState
  radioState : r'.radioState = r.radioState
  atLinkCheck : r'.atLinkCheck = r.atLinkCheck

theorem SameLinks.trans {r s t : Radio} (h : SameLinks r s) (k : SameLinks s t) :
    SameLinks r t where
  myVc := k.myVc.trans h.myVc
  vcState v := (k.vcState v).trans (h.vcState v)
  radioState := k.radioState.trans h.radioState
  atLinkCheck := k.atLinkCheck.trans h.atLinkCheck

theorem SameLinks.refl (r : Radio) : SameLinks r r := ⟨rfl,fun _ => rfl,rfl,rfl⟩

theorem SameLinks.cutOff {r r' : Radio} (h : SameLinks r r') (hr : r.CutOff) : r'.CutOff :=
  fun v hv => (h.vcState v).trans (hr v (h.myVc ▸ hv))

theorem SameLinks.served {r r' : Radio} (h : SameLinks r r') (hr : r.Served) : r'.Served where
  cutOff hs := h.cutOff (hr.cutOff (h.radioState ▸ hs))
  atLinkCheck hc := by
    rw [h.radioState]
    exact hr.atLinkCheck (h.atLinkCheck ▸ hc)

theorem setNumbers_links (r : Radio) (a : VcAddress) (numbers : AckNumbers) :
    SameLinks r (r.setNumbers a numbers) := by
  unfold Radio.setNumbers Radio.setCircuit Radio.circuit
  cases a.index with
  | none => exact .refl r
  | some v =>
    refine ⟨rfl,fun w => ?_,rfl,rfl⟩
    by_cases hw : w = v
    · subst hw
      simp
    · simp [Function.update_of_ne hw]

theorem findVc_links (r : Radio) (a : VcAddress) : SameLinks r (r.findVc a) := by
  unfold Radio.findVc
  split
  · exact .refl r
  · exact ⟨rfl,fun _ => rfl,rfl,rfl⟩

theorem accepted_links (r : Radio) (p : PacketType) : SameLinks r (r.accepted p).1 := by
  unfold Radio.accepted
  dsimp only
  split <;> exact ⟨rfl,fun _ => rfl,rfl,rfl⟩

theorem rcvDatagram_links (r : Radio) (p : Reception) (i : Inputs) :
    SameLinks r (rcvDatagram r p i).1 := by
  exact rcvDatagram_preserves p i (.refl r) (fun _ => ⟨rfl,fun _ => rfl,rfl,rfl⟩)
    (fun s a _ hs => hs.trans (findVc_links s a))
    (fun s a numbers hs => hs.trans (setNumbers_links s a numbers))
    (fun s q hs => hs.trans (accepted_links s q))

/-- RADIO_VC_WAIT_SERVER is left with the server's heartbeat and changes no
circuit before. -/
theorem waitServerPass_served {r : Radio} (h : r.Served) (packet : Option Reception)
    (i : Inputs) : (waitServerPass r packet i).Served := by
  unfold waitServerPass
  split
  · exact .of_state (by simp [Radio.changeState])
  cases packet with
  | none => exact h
  | some p =>
    have hrcv := rcvDatagram_links r p i
    dsimp only
    generalize rcvDatagram r p i = q at hrcv
    split
    · split
      · exact .of_state (by simp [Radio.changeState])
      · exact hrcv.served h
    · exact hrcv.served h

theorem vcChangeState_self (r : Radio) (v : Fin maxVc) (state : VcState) :
    ((vcChangeState r (.ofNumber v) state).virtualCircuitList v).vcState = state := by
  unfold vcChangeState
  dsimp only
  split
  · simp [Radio.setVcConnecting,Radio.setCircuit]
  next hsame =>
    rw [circuit_ofNumber,not_not] at hsame
    exact hsame.symm

theorem vcChangeState_atLinkCheck (r : Radio) (a : VcAddress) (state : VcState) :
    (vcChangeState r a state).atLinkCheck = r.atLinkCheck := by
  unfold vcChangeState Radio.setCircuit
  dsimp only
  split
  · split <;> rfl
  · rfl

/-- A broken circuit is down, unless it is the radio's own. -/
theorem vcBreakLink_down (r : Radio) {v : Fin maxVc} (hv : VcAddress.ofNumber v ≠ r.myVc) :
    ((vcBreakLink r (.ofNumber v)).virtualCircuitList v).vcState = .linkDown := by
  have hother : VcAddress.ofNumber v ≠ (answerBreak r v).myVc := by
    rwa [(answerBreak_breakFrame r v).myVc]
  rw [vcBreakLink_eq,if_neg (VcAddress.ofNumber_not_special v),VcAddress.number_ofNumber,
    if_neg hother]
  exact vcChangeState_self _ v _

/-- A break brings no circuit up. -/
theorem vcBreakLink_keeps_down {r : Radio} {v w : Fin maxVc}
    (hw : (r.virtualCircuitList w).vcState = .linkDown) :
    ((vcBreakLink r (.ofNumber v)).virtualCircuitList w).vcState = .linkDown := by
  by_cases hv : w = v
  · subst hv
    by_cases hown : VcAddress.ofNumber w = r.myVc
    · rw [vcBreakLink_eq,VcAddress.number_ofNumber]
      split
      · exact hw
      have hlist : (answerBreak r w).virtualCircuitList = r.virtualCircuitList := by
        unfold answerBreak vcSendPcAckNack
        dsimp only
        split
        · split <;> rfl
        · rfl
      rw [if_pos (by rwa [(answerBreak_breakFrame r w).myVc])]
      change ((answerBreak r w).virtualCircuitList w).vcState = .linkDown
      rw [hlist]
      exact hw
    · exact vcBreakLink_down r hown
  · rw [(vcBreakLink_breakFrame r v).other w hv]
    exact hw

/-- A command brings up no circuit but one that is alive, and in
RADIO_VC_WAIT_SERVER only the radio's own is. -/
theorem checkCommand_served {r : Radio} (h : r.Served) (hstate : r.radioState = .waitServer)
    (c : Command) : (checkCommand r c).Served := by
  cases c with
  | connect =>
    change Radio.Served (if _ then r else _)
    split
    · exact h
    next halive =>
      rw [not_not] at halive
      have hown : VcAddress.ofNumber r.cmdVc = r.myVc := by
        by_contra hne
        have hdown := h.cutOff hstate r.cmdVc hne
        rw [hdown] at halive
        cases halive
      refine ⟨fun _ v hv => ?_,fun hc => ?_⟩
      · rw [(vcChangeState_sameDuty r _ _).myVc] at hv
        have hne : v ≠ r.cmdVc := fun he => hv (he ▸ hown)
        rw [vcChangeState_other r _ _ hne]
        exact h.cutOff hstate v hv
      · rw [vcChangeState_atLinkCheck] at hc
        exact absurd hstate (h.atLinkCheck hc)
  | breakLinks => exact .of_state (by simp [checkCommand,breakLinks,Radio.changeState])
  | reset => exact .of_state (by simp [checkCommand,Radio.changeState])
  | setCmdVc v =>
    have hsame : SameLinks r { r with cmdVc := v } := ⟨rfl,fun _ => rfl,rfl,rfl⟩
    exact hsame.served h
  | other => exact h

/-- The loop behind the server's index: once the server link is broken, it
takes down every circuit it comes to. -/
theorem linkCheckIndex_rest (now limit : BitVec 32) (q : Radio × Bool) {v : Fin maxVc}
    (hv : v.val ≠ 0) :
    (linkCheckIndex now limit q v).2 = q.2 ∧ (linkCheckIndex now limit q v).1.myVc = q.1.myVc ∧
      Stays q.1 (linkCheckIndex now limit q v).1 ∧
      (∀ w, (q.1.virtualCircuitList w).vcState = .linkDown →
        ((linkCheckIndex now limit q v).1.virtualCircuitList w).vcState = .linkDown) ∧
      (q.2 = true → VcAddress.ofNumber v ≠ q.1.myVc →
        ((linkCheckIndex now limit q v).1.virtualCircuitList v).vcState = .linkDown) := by
  unfold linkCheckIndex
  split
  next hown => exact ⟨rfl,rfl,.refl _,fun _ hw => hw,fun _ hne => absurd hown hne⟩
  dsimp only
  have htouch := touch_stays q.1 (.entry v)
  split
  · refine ⟨rfl,(vcBreakLink_breakFrame _ v).myVc,htouch.trans (vcBreakLink_stays _ _),
      fun w hw => vcBreakLink_keeps_down hw,fun _ hne => vcBreakLink_down _ hne⟩
  next hspared =>
    refine ⟨rfl,rfl,htouch,fun _ hw => hw,fun hbroken _ => ?_⟩
    by_contra hup
    exact hspared ⟨hup,.inl hbroken⟩

theorem linkCheck_rest (now limit : BitVec 32) (l : List (Fin maxVc))
    (hl : ∀ v ∈ l, v.val ≠ 0) (q : Radio × Bool) :
    (l.foldl (linkCheckIndex now limit) q).1.myVc = q.1.myVc ∧
      Stays q.1 (l.foldl (linkCheckIndex now limit) q).1 ∧
      (∀ w, (q.1.virtualCircuitList w).vcState = .linkDown →
        ((l.foldl (linkCheckIndex now limit) q).1.virtualCircuitList w).vcState = .linkDown) ∧
      (q.2 = true → ∀ v ∈ l, VcAddress.ofNumber v ≠ q.1.myVc →
        ((l.foldl (linkCheckIndex now limit) q).1.virtualCircuitList v).vcState = .linkDown) := by
  induction l generalizing q with
  | nil => exact ⟨rfl,.refl _,fun _ hw => hw,fun _ v hv => nomatch hv⟩
  | cons v l ih =>
    obtain ⟨hflag,hmy,hstays,hkeep,hdown⟩ := linkCheckIndex_rest now limit q (hl v (by simp))
    obtain ⟨hmy',hstays',hkeep',hdown'⟩ :=
      ih (fun w hw => hl w (List.mem_cons_of_mem v hw)) (linkCheckIndex now limit q v)
    refine ⟨hmy'.trans hmy,hstays.trans hstays',fun w hw => hkeep' w (hkeep w hw),?_⟩
    intro hbroken w hw hne
    rcases List.mem_cons.mp hw with rfl | hw
    · exact hkeep' w (hdown hbroken hne)
    · exact hdown' (hflag.trans hbroken) w hw (hmy ▸ hne)

/-- The server's index is the first. -/
theorem linkCheckIndex_server {r : Radio} (h : r.radioState ≠ .waitServer) {now limit : BitVec 32}
    {v : Fin maxVc} (hv : v.val = 0)
    (hstate : (linkCheckIndex now limit (r,false) v).1.radioState = .waitServer) :
    (linkCheckIndex now limit (r,false) v).2 = true ∧
      ((linkCheckIndex now limit (r,false) v).1.virtualCircuitList v).vcState = .linkDown := by
  revert hstate
  unfold linkCheckIndex
  split
  · exact fun hs => absurd hs h
  next hother =>
    dsimp only
    split
    · exact fun _ => ⟨rfl,vcBreakLink_down _ hother⟩
    · exact fun hs => absurd hs h

/-- The link check goes on to RADIO_VC_WAIT_SERVER only with every link broken. -/
theorem linkCheck_cutOff {r : Radio} (h : r.radioState ≠ .waitServer) (now limit : BitVec 32) :
    (linkCheck r now limit).WaitsCutOff := by
  intro hstate
  obtain ⟨zero,rest,hall,hzero,hrest⟩ : ∃ zero rest, List.finRange maxVc = zero :: rest ∧
      zero.val = 0 ∧ ∀ v ∈ rest, v.val ≠ 0 :=
    ⟨0,(List.finRange 31).map Fin.succ,List.finRange_succ,rfl,by simp⟩
  unfold linkCheck at hstate ⊢
  rw [hall,List.foldl_cons] at hstate ⊢
  obtain ⟨hmy,hstays,hkeep,hdown⟩ := linkCheck_rest now limit rest hrest
    (linkCheckIndex now limit (r,false) zero)
  obtain ⟨hbroken,hserver⟩ := linkCheckIndex_server h hzero (hstays.radioState hstate)
  intro v hv
  have hmem : v ∈ zero :: rest := hall ▸ List.mem_finRange v
  rcases List.mem_cons.mp hmem with rfl | hmem
  · exact hkeep v hserver
  · exact hdown hbroken v hmem (hmy ▸ hv)

theorem retransmitDatagram_radioState (r : Radio) (i : Inputs) :
    (retransmitDatagram r i).1.radioState = r.radioState := by
  unfold retransmitDatagram
  dsimp only
  split <;> rfl

theorem transmitDatagram_radioState (r : Radio) (t : DatagramType) (d : Datagram) (i : Inputs) :
    (transmitDatagram r t d i).1.radioState = r.radioState :=
  retransmitDatagram_radioState _ i

/-- A transmit attempt with its state change does not lead to RADIO_VC_WAIT_SERVER. -/
theorem enter_not_waitServer {x : Radio × Bool} (h : x.1.radioState ≠ .waitServer) :
    (enter x .waitTxDone).radioState ≠ .waitServer := by
  unfold enter
  split
  · simp [Radio.changeState]
  · exact h

theorem xmit_not_waitServer {r : Radio} (h : r.radioState ≠ .waitServer) (t : DatagramType)
    (d : Datagram) (i : Inputs) :
    (enter (transmitDatagram r t d i) .waitTxDone).radioState ≠ .waitServer :=
  enter_not_waitServer (by rwa [transmitDatagram_radioState])

theorem waitReceiveRetransmit_not_waitServer {r : Radio} (h : r.radioState ≠ .waitServer)
    (i : Inputs) : (waitReceiveRetransmit r i).radioState ≠ .waitServer := by
  unfold waitReceiveRetransmit
  dsimp only
  split
  · exact h
  split
  · split
    · refine enter_not_waitServer ?_
      rw [retransmitDatagram_radioState]
      split <;> exact h
    · have hbreak := vcBreakLink_stays (((r.setTxDestVc r.rexmtTxDestVc).touch
        (.entry r.rexmtTxDestVc.number)).touch .uninitialised) r.rexmtTxDestVc
      exact fun hs => h (hbreak.radioState hs)
  · exact h

theorem waitReceiveMessage_not_waitServer {r : Radio} (h : r.radioState ≠ .waitServer)
    (m : Datagram) (i : Inputs) : (waitReceiveMessage r m i).radioState ≠ .waitServer := by
  unfold waitReceiveMessage
  split
  · exact xmit_not_waitServer h _ _ i
  split
  · exact xmit_not_waitServer h _ _ i
  split
  · split
    · exact fun hs => h ((checkRemoteCommand_stays (r.setUnsent none) _).radioState hs)
    · exact xmit_not_waitServer h _ _ i
  · exact h

theorem waitReceiveTransmit_not_waitServer {r : Radio} (h : r.radioState ≠ .waitServer)
    (i : Inputs) : (waitReceiveTransmit r i).radioState ≠ .waitServer := by
  unfold waitReceiveTransmit
  split
  · have hsent : (xmitVcHeartbeat r r.myVc r.myUniqueId i).1.radioState ≠ .waitServer := by
      rwa [xmitVcHeartbeat,transmitDatagram_radioState]
    dsimp only
    split
    · simp [Radio.changeState]
    · exact hsent
  split
  · exact waitReceiveRetransmit_not_waitServer h i
  split
  · exact xmit_not_waitServer h _ _ i
  split
  · exact fun hs => h ((waitReceiveHandshake_stays r i).radioState hs)
  have hmessage := vcSerialMessageReceived_stays r i
  revert hmessage
  generalize vcSerialMessageReceived r i = q
  obtain ⟨s,m⟩ := q
  intro hmessage
  have hs : s.radioState ≠ .waitServer := fun hw => h (hmessage.radioState hw)
  cases m with
  | none => exact hs
  | some m => exact waitReceiveMessage_not_waitServer hs m i

theorem waitReceivePass_not_waitServer {r : Radio} (h : r.radioState ≠ .waitServer)
    (packet : Option Reception) (i : Inputs) :
    (waitReceivePass r packet i).radioState ≠ .waitServer := by
  unfold waitReceivePass
  cases packet with
  | some p => exact fun hs => h ((waitReceiveFrame_stays r p i).radioState hs)
  | none =>
    change (if _ then r else waitReceiveTransmit r i : Radio).radioState ≠ _
    split
    · exact h
    · exact waitReceiveTransmit_not_waitServer h i

theorem updateRadioState_served {r : Radio} (h : r.Served) (hcheck : r.atLinkCheck = false)
    {packet : Option Reception} {i : Inputs} (hok : r.CompletesCutOff (.pass packet i)) :
    (updateRadioState r packet i).Served := by
  unfold updateRadioState
  cases hstate : r.radioState with
  | reset => exact .of_state (by simp [resetPass,Radio.changeState])
  | waitServer => exact waitServerPass_served h packet i
  | waitTxDone =>
    dsimp only
    unfold waitTxDonePass
    split
    next hdone =>
      refine ⟨fun hw => ?_,fun hc => absurd hcheck (ne_of_eq_of_ne hc (by decide))⟩
      have hdown : (r.circuit vcServer).vcState = .linkDown := by
        by_contra hup
        have hreceive : (if (r.circuit vcServer).vcState = .linkDown then RadioState.waitServer
            else .waitReceive) = .waitServer := hw
        rw [if_neg hup] at hreceive
        cases hreceive
      exact hok hcheck hstate hdone hdown
    · exact h
  | waitReceive => exact .of_state (waitReceivePass_not_waitServer (by simp [hstate]) packet i)

theorem Radio.WaitsCutOff.checked {r : Radio} (h : r.WaitsCutOff) :
    (r.setAtLinkCheck false).Served :=
  ⟨h,fun hc => by cases hc⟩

theorem step_served {r : Radio} {e : Event} (h : r.Served) (hok : r.CompletesCutOff e) :
    (step r e).Served := by
  cases e with
  | pass packet i =>
    rw [step_pass]
    split
    next hcheck => exact updateRadioState_served h hcheck hok
    · exact h
  | linkCheck now limit =>
    unfold step
    cases hcheck : r.atLinkCheck with
    | false => exact h
    | true => exact Radio.WaitsCutOff.checked (linkCheck_cutOff (h.atLinkCheck hcheck) now limit)
  | command c =>
    unfold step
    cases hcheck : r.atLinkCheck with
    | true => exact h
    | false =>
      by_cases hstate : r.radioState = .waitServer
      · exact checkCommand_served h hstate c
      · exact .of_state fun hs => hstate ((checkCommand_stays r c).radioState hs)
  | hostMessage destVc srcVc data =>
    have hhost : SameLinks r (hostMessage r destVc srcVc data) := by
      unfold hostMessage
      split
      · exact .refl r
      split
      · exact .refl r
      · exact ⟨rfl,fun _ => rfl,rfl,rfl⟩
    unfold step
    cases r.atLinkCheck with
    | true => exact h
    | false =>
      dsimp only
      split
      · exact hhost.served h
      · exact h

/-- A transmission that misses the condition leaves links up behind it. -/
theorem completesCutOff_of_step {r : Radio} {e : Event} (h : (step r e).WaitsCutOff) :
    r.CompletesCutOff e := by
  cases e with
  | pass packet i =>
    intro hcheck hstate hdone hdown
    have hpass : step r (.pass packet i) = (r.touch (.entry vcServer.toInt)).changeState
        .waitServer := by
      simp [step_pass,hcheck,updateRadioState,hstate,waitTxDonePass,hdone,hdown]
    rw [hpass] at h
    exact h rfl
  | linkCheck now limit => trivial
  | command c => trivial
  | hostMessage destVc srcVc data => trivial

/-- From RADIO_RESET on, a radio waits for the server with a link up exactly if
some transmission completed with the server's circuit down and another up. -/
theorem waits_cut_off_iff {r : Radio} (h : r.radioState = .reset) (es : List Event) :
    Always step Radio.WaitsCutOff r es ↔ Along step Radio.CompletesCutOff r es :=
  always_iff_along (fun _ _ => step_served) (fun _ hs => hs.cutOff)
    (fun _ _ _ => completesCutOff_of_step) (.of_state (by simp [h])) es

/-- A pass of a client for which nothing is due. -/
def Inputs.client : Inputs := { Inputs.idle with server := false }

/-- A client hears a heartbeat and checks its links. -/
def clientHears (srcVc : VcAddress) (id : List UInt8) : List Event :=
  [.pass (some (.frame ⟨⟨.vcHeartbeat,0,false,false⟩,
    .build vcBroadcast srcVc (id ++ [0,0,0,0]),0⟩)) .client,.linkCheck 0 3000]

/-- A client starts, hears the server, is told its address and hears a peer. -/
def joinServer : List Event :=
  [.pass none .client] ++ txDone ++ clientHears vcServer (List.replicate 16 0xB0) ++
    clientHears 5 (List.replicate 16 0xA0) ++ clientHears 1 (List.replicate 16 0xB1)

theorem join_waits_cut_off : Always step Radio.WaitsCutOff .powerUp joinServer :=
  (waits_cut_off_iff rfl joinServer).mpr (by decide +kernel)

/-- The host addresses a message to the server that is too long, then a
heartbeat is sent. -/
def oversizeToServer : List Event :=
  [.hostMessage vcServer 5 (List.replicate 250 0x41),.pass none .client,.linkCheck 0 3000,
    .pass none { Inputs.client with heartbeatTimeout := true },.linkCheck 0 3000] ++ txDone

/-- The break of the server's circuit leaves the peer's alive, and the end of
the heartbeat leads to RADIO_VC_WAIT_SERVER. -/
theorem peer_survives_server :
    (run step .powerUp (joinServer ++ oversizeToServer)).radioState = .waitServer ∧
    (run step .powerUp (joinServer ++ oversizeToServer)).myVc = 5 ∧
    ((run step .powerUp (joinServer ++ oversizeToServer)).virtualCircuitList 0).vcState =
      .linkDown ∧
    ((run step .powerUp (joinServer ++ oversizeToServer)).virtualCircuitList 1).vcState =
      .linkAlive ∧
    ¬ Always step Radio.WaitsCutOff .powerUp (joinServer ++ oversizeToServer) := by
  have hlost : ¬ (run step .powerUp (joinServer ++ oversizeToServer)).WaitsCutOff := by
    decide +kernel
  refine ⟨by decide +kernel,by decide +kernel,by decide +kernel,by decide +kernel,fun h => ?_⟩
  exact hlost (h _ List.prefix_rfl)

end LoRaSerial.VC
