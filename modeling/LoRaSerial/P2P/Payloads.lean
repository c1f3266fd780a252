import LoRaSerial.P2P.Passes

namespace LoRaSerial.P2P

variable {P : List UInt8 → Prop} {r : Radio} {i : Inputs} {x : Xmit} {p : Pass} {f : Frame}

/-- A property of the payloads in both transmit buffers. -/
structure Radio.All (P : List UInt8 → Prop) (r : Radio) : Prop where
  tx : P r.tx.payload
  rexmt : P r.rexmt.payload

/-- A property of the payloads that a pass can find to send. -/
structure Supplies (P : List UInt8 → Prop) (i : Inputs) : Prop where
  millis : P (millisBytes i.millis)
  syncClocks : P (i.channelNumber :: millisBytes i.millis)
  command : ∀ packet, i.commandPacket = some packet → P packet
  serial : ∀ packet, i.serialPacket = some packet → P packet

/-- The payloads that a pass keeps and the one that it sends. -/
structure Pass.All (P : List UInt8 → Prop) (p : Pass) : Prop where
  radio : p.radio.All P
  onAir : ∀ f, p.onAir = some f → P f.payload

theorem Radio.All.quiet (h : r.All P) : Pass.All P { radio := r } := ⟨h,nofun⟩

theorem Xmit.Sends.payload (h : x.Sends r f) (hf : P f.payload) : P x.radio.tx.payload := by
  have hframe : x.radio.tx.payload = f.payload := congrArg Frame.payload h.frame
  rwa [hframe]

theorem Xmit.Sends.onAir_payload (h : x.Sends r f) (hf : P f.payload) :
    ∀ g, x.onAir = some g → P g.payload := by
  intro g hg
  rcases h.onAir with hair | hair
  · rw [hair] at hg
    cases hg
  · rw [hair] at hg
    cases hg
    exact hf

theorem Xmit.Sends.enter_all (h : x.Sends r f) (hr : r.All P) (hf : P f.payload)
    (s : RadioState) : (x.enter s).All P := by
  refine ⟨⟨?_,?_⟩,h.onAir_payload hf⟩
  · rw [Xmit.enter_tx]
    exact h.payload hf
  · rw [Xmit.enter_rexmt,h.rexmt]
    exact hr.rexmt

/-- The frame just sent is kept. -/
theorem Pass.All.awaitAck (h : p.All P) : p.awaitAck.All P :=
  ⟨⟨h.radio.tx,h.radio.tx⟩,h.onAir⟩

theorem Pass.All.breakLink (h : p.All P) : (breakLink p).All P :=
  ⟨⟨h.radio.tx,h.radio.rexmt⟩,h.onAir⟩

theorem rcvDatagram_all (hr : r.All P) (q : Reception) : (rcvDatagram r q i).1.All P := by
  have h := rcvDatagram_received r q i
  revert h
  generalize rcvDatagram r q i = out
  intro h
  cases h with
  | discarded | duplicate | accept | acknowledged | other => exact ⟨hr.tx,hr.rexmt⟩

/-- A frame sent to measure its time on the air. -/
theorem getTxTime_all (xmit : Radio → Inputs → Xmit) {t : DatagramType} {payload : List UInt8}
    (hx : ∀ q, xmit q i = transmitDatagram q t payload i) (hr : r.All P) (hpayload : P payload) :
    (getTxTime xmit r i).radio.All P ∧
      ∀ f, (getTxTime xmit r i).onAir = some f → P f.payload := by
  unfold getTxTime
  rw [hx]
  have h := transmitDatagram_sends
    { r with tx := { r.tx with control := { r.tx.control with ignoreFrame := true } } } t payload i
  refine ⟨⟨h.payload hpayload,?_⟩,h.onAir_payload hpayload⟩
  have hkept : P r.rexmt.payload := hr.rexmt
  rwa [← h.rexmt] at hkept

theorem resetPass_all (hr : r.All P) (hi : Supplies P i) : (resetPass r i).All P := by
  let q : Radio :=
    { r.stopAckTimer with tx := { r.tx with control := ⟨.findPartner,0,false,false⟩ } }
  have hq : q.All P := ⟨hr.tx,hr.rexmt⟩
  have hfind := (getTxTime_all xmitDatagramP2PFindPartner (fun _ => rfl) hq hi.millis).1
  have hsync := (getTxTime_all xmitDatagramP2PSyncClocks (fun _ => rfl) hfind hi.syncClocks).1
  have hheartbeat := (getTxTime_all xmitDatagramP2PHeartbeat (fun _ => rfl) hsync hi.millis).1
  have hack := getTxTime_all xmitDatagramP2PAck (fun _ => rfl) hheartbeat hi.millis
  exact ⟨⟨hack.1.tx,hack.1.rexmt⟩,hack.2⟩

theorem transmit_all (hr : r.All P) (t : DatagramType) {payload : List UInt8} (hp : P payload)
    (s : RadioState) : ((transmitDatagram r t payload i).enter s).All P :=
  (transmitDatagram_sends r t payload i).enter_all hr hp s

theorem linkDownPass_all (hr : r.All P) (hi : Supplies P i) (packet : Option Reception) :
    (linkDownPass r packet i).All P := by
  unfold linkDownPass
  cases packet with
  | none =>
    dsimp only
    split
    · exact transmit_all hr _ hi.millis _
    · exact hr.quiet
  | some q =>
    have hrcv := rcvDatagram_all (i := i) hr q
    dsimp only
    split
    next heq =>
      rw [heq] at hrcv
      exact transmit_all hrcv _ hi.syncClocks _
    next heq =>
      rw [heq] at hrcv
      exact hrcv.quiet

theorem handshakeTimeout_all (hr : r.All P) : Pass.All P (if i.handshakeTimeout then
    { radio := { r with radioState := .linkDown } } else { radio := r }) := by
  split
  · exact ⟨⟨hr.tx,hr.rexmt⟩,nofun⟩
  · exact hr.quiet

theorem enterLinkUp_all (hr : r.All P) : (enterLinkUp r).All P := ⟨⟨hr.tx,hr.rexmt⟩,nofun⟩

theorem waitSyncClocksPass_all (hr : r.All P) (hi : Supplies P i) (packet : Option Reception) :
    (waitSyncClocksPass r packet i).All P := by
  unfold waitSyncClocksPass
  cases packet with
  | none => exact handshakeTimeout_all hr
  | some q =>
    have hrcv := rcvDatagram_all (i := i) hr q
    dsimp only
    split
    next heq =>
      rw [heq] at hrcv
      exact transmit_all hrcv _ hi.syncClocks _
    next heq =>
      rw [heq] at hrcv
      exact transmit_all hrcv _ hi.millis _
    next heq =>
      rw [heq] at hrcv
      exact hrcv.quiet

theorem waitZeroAcksPass_all (hr : r.All P) (packet : Option Reception) :
    (waitZeroAcksPass r packet i).All P := by
  unfold waitZeroAcksPass
  cases packet with
  | none => exact handshakeTimeout_all hr
  | some q =>
    have hrcv := rcvDatagram_all (i := i) hr q
    dsimp only
    split
    next heq =>
      rw [heq] at hrcv
      exact enterLinkUp_all hrcv
    next heq =>
      rw [heq] at hrcv
      exact hrcv.quiet

theorem waitTxDonePass_all (hr : r.All P) (packet : Option Reception) (next : RadioState) :
    (waitTxDonePass r packet next).All P := by
  unfold waitTxDonePass
  cases packet with
  | none => exact hr.quiet
  | some q => exact ⟨⟨hr.tx,hr.rexmt⟩,nofun⟩

theorem p2pSendAck_all (hr : r.All P) (hi : Supplies P i) : (p2pSendAck r i).All P :=
  transmit_all hr .dataAck hi.millis .linkUpWaitTxDone

theorem linkUpReceive_all (hr : r.All P) (hi : Supplies P i) (q : Reception) :
    (linkUpReceive r q i).All P := by
  have hrcv := rcvDatagram_all (i := i) hr q
  unfold linkUpReceive
  revert hrcv
  generalize rcvDatagram r q i = out
  intro hrcv
  have hsent := p2pSendAck_all hrcv hi
  split
  · exact hrcv.quiet.breakLink
  · exact hsent
  · exact ⟨hsent.radio,hsent.onAir⟩
  · exact hsent
  · exact ⟨⟨hrcv.tx,hrcv.rexmt⟩,nofun⟩
  · exact hsent
  · exact hsent
  · exact hrcv.quiet

theorem linkUpRetransmit_all (hr : r.All P) (hi : Supplies P i) :
    (linkUpRetransmit r i).All P := by
  have hrestored : r.restoreTxBuffer.All P := ⟨hr.rexmt,hr.rexmt⟩
  have hresent : ∀ p : Pass, p.All P →
      Pass.All P { p with radio := p.radio.startAckTimer } :=
    fun p hp => ⟨⟨hp.radio.tx,hp.radio.rexmt⟩,hp.onAir⟩
  unfold linkUpRetransmit
  split
  · dsimp only
    refine hresent _ ?_
    split
    · exact transmit_all hrestored _ hi.millis _
    · exact (retransmitDatagram_sends r.restoreTxBuffer i).enter_all hrestored hrestored.tx _
  · exact hr.quiet.breakLink

theorem linkUpTransmit_all (hr : r.All P) (hi : Supplies P i) : (linkUpTransmit r i).All P := by
  unfold linkUpTransmit
  split
  · exact (transmit_all hr _ hi.millis _).awaitAck
  · split
    · split
      · exact linkUpRetransmit_all hr hi
      · exact hr.quiet
    · split
      next packet hpacket =>
        have hcommand := hi.command packet hpacket
        split
        · exact (transmit_all hr _ hcommand _).awaitAck
        · exact (transmit_all hr _ hcommand _).awaitAck
      next =>
        split
        · have hyielded : Radio.All P { r with requestYield := false } := ⟨hr.tx,hr.rexmt⟩
          dsimp only
          split
          next packet hpacket =>
            have hsent := (transmit_all hyielded .data (hi.serial packet hpacket)
              .linkUpWaitTxDone (i := i)).awaitAck
            exact ⟨hsent.radio,hsent.onAir⟩
          next => exact hyielded.quiet
        · exact hr.quiet

theorem linkUpPass_all (hr : r.All P) (hi : Supplies P i) (packet : Option Reception) :
    (linkUpPass r packet i).All P := by
  have hbroken : ∀ p : Pass, p.All P →
      Pass.All P (if i.linkTimeout then breakLink p else p) := by
    intro p hp
    split
    · exact hp.breakLink
    · exact hp
  cases packet with
  | some q => exact hbroken _ (linkUpReceive_all hr hi q)
  | none =>
    refine hbroken _ ?_
    split
    · exact linkUpTransmit_all hr hi
    · exact hr.quiet

/-- Every payload that is kept or sent was kept before, or is one the pass found
to send. -/
theorem updateRadioState_all (hr : r.All P) (hi : Supplies P i) (packet : Option Reception) :
    (updateRadioState r packet i).All P := by
  unfold updateRadioState
  cases r.radioState with
  | reset => exact resetPass_all hr hi
  | linkDown => exact linkDownPass_all hr hi packet
  | waitTxFindPartnerDone => exact waitTxDonePass_all hr packet _
  | waitSyncClocks => exact waitSyncClocksPass_all hr hi packet
  | waitTxSyncClocksDone => exact waitTxDonePass_all hr packet _
  | waitZeroAcks => exact waitZeroAcksPass_all hr packet
  | waitTxZeroAcksDone =>
    dsimp only
    split
    · exact enterLinkUp_all hr
    · exact hr.quiet
  | linkUp => exact linkUpPass_all hr hi packet
  | linkUpWaitTxDone => exact waitTxDonePass_all hr packet _

theorem linkUpReceive_moved (r : Radio) (q : Reception) (i : Inputs) :
    (linkUpReceive r q i).taken = [] ∧ (linkUpReceive r q i).delivered =
      if (rcvDatagram r q i).2 = .datagram .data then [q.payload] else [] := by
  unfold linkUpReceive
  generalize rcvDatagram r q i = out
  obtain ⟨r',t⟩ := out
  cases t with
  | datagram t => cases t <;> exact ⟨rfl,rfl⟩
  | duplicate | notMine | bad | crcError | netIdMismatch => exact ⟨rfl,rfl⟩

theorem linkUpRetransmit_moved (r : Radio) (i : Inputs) :
    (linkUpRetransmit r i).taken = [] ∧ (linkUpRetransmit r i).delivered = [] := by
  unfold linkUpRetransmit
  split
  · dsimp only
    split <;> exact ⟨rfl,rfl⟩
  · exact ⟨rfl,rfl⟩

theorem linkUpTransmit_moved (r : Radio) (i : Inputs) :
    ((linkUpTransmit r i).taken = [] ∨
      ∃ packet, i.serialPacket = some packet ∧ (linkUpTransmit r i).taken = [packet]) ∧
    (linkUpTransmit r i).delivered = [] := by
  unfold linkUpTransmit
  split
  · exact ⟨.inl rfl,rfl⟩
  · split
    · split
      · have h := linkUpRetransmit_moved r i
        exact ⟨.inl h.1,h.2⟩
      · exact ⟨.inl rfl,rfl⟩
    · split
      · split <;> exact ⟨.inl rfl,rfl⟩
      · split
        · dsimp only
          split
          next packet hpacket => exact ⟨.inr ⟨packet,hpacket,rfl⟩,rfl⟩
          next => exact ⟨.inl rfl,rfl⟩
        · exact ⟨.inl rfl,rfl⟩

/-- What a pass delivers is the data it accepted while linked. -/
def accepted (r : Radio) (packet : Option Reception) (i : Inputs) : List (List UInt8) :=
  match r.radioState,packet with
  | .linkUp,some q => if (rcvDatagram r q i).2 = .datagram .data then [q.payload] else []
  | _,_ => []

theorem handshake_moved (r : Radio) (packet : Option Reception) (i : Inputs) :
    ((linkDownPass r packet i).taken = [] ∧ (linkDownPass r packet i).delivered = []) ∧
    ((waitSyncClocksPass r packet i).taken = [] ∧
      (waitSyncClocksPass r packet i).delivered = []) ∧
    ((waitZeroAcksPass r packet i).taken = [] ∧ (waitZeroAcksPass r packet i).delivered = []) := by
  unfold linkDownPass waitSyncClocksPass waitZeroAcksPass
  refine ⟨?_,?_,?_⟩
  all_goals
    cases packet with
    | none =>
      dsimp only
      split <;> exact ⟨rfl,rfl⟩
    | some q =>
      dsimp only
      split <;> exact ⟨rfl,rfl⟩

theorem linkUpPass_moved (r : Radio) (packet : Option Reception) (i : Inputs) :
    ((linkUpPass r packet i).taken = [] ∨
      ∃ p, i.serialPacket = some p ∧ (linkUpPass r packet i).taken = [p]) ∧
    (linkUpPass r packet i).delivered = packet.elim [] fun q =>
      if (rcvDatagram r q i).2 = .datagram .data then [q.payload] else [] := by
  have hbroken : ∀ p : Pass, (if i.linkTimeout then breakLink p else p).taken = p.taken ∧
      (if i.linkTimeout then breakLink p else p).delivered = p.delivered := by
    intro p
    split <;> exact ⟨rfl,rfl⟩
  unfold linkUpPass
  dsimp only
  rw [(hbroken _).1,(hbroken _).2]
  cases packet with
  | some q =>
    obtain ⟨htaken,hdelivered⟩ := linkUpReceive_moved r q i
    exact ⟨.inl htaken,hdelivered⟩
  | none =>
    dsimp only
    split
    · exact linkUpTransmit_moved r i
    · exact ⟨.inl rfl,rfl⟩

theorem updateRadioState_moved (r : Radio) (packet : Option Reception) (i : Inputs) :
    ((updateRadioState r packet i).taken = [] ∨
      ∃ p, i.serialPacket = some p ∧ (updateRadioState r packet i).taken = [p]) ∧
    (updateRadioState r packet i).delivered = accepted r packet i := by
  obtain ⟨hdown,hsync,hzero⟩ := handshake_moved r packet i
  unfold updateRadioState accepted
  cases r.radioState with
  | reset | waitTxFindPartnerDone | waitTxSyncClocksDone | linkUpWaitTxDone =>
    exact ⟨.inl rfl,rfl⟩
  | linkDown => exact ⟨.inl hdown.1,hdown.2⟩
  | waitSyncClocks => exact ⟨.inl hsync.1,hsync.2⟩
  | waitZeroAcks => exact ⟨.inl hzero.1,hzero.2⟩
  | waitTxZeroAcksDone =>
    dsimp only
    split <;> exact ⟨.inl rfl,rfl⟩
  | linkUp =>
    obtain ⟨htaken,hdelivered⟩ := linkUpPass_moved r packet i
    refine ⟨htaken,hdelivered.trans ?_⟩
    cases packet <;> rfl

/-- Only enterLinkUp begins a link, and it moves nothing. -/
theorem Outcome.linked {packet : Option Reception} (h : Outcome r packet i p)
    (hl : p.radio.Linked) : (r.Linked ∧ p.linkUp = false) ∨
      (p.linkUp = true ∧ p.taken = [] ∧ p.delivered = []) := by
  have hapart : p.radio.radioState ≠ .waitTxZeroAcksDone := by
    rcases hl with hl | hl <;> rw [hl] <;> decide
  cases h.effect with
  | apart hno => exact absurd (.inl hl) hno
  | heardZeroAcks _ _ _ _ _ _ hup _ ht hd => exact .inr ⟨hup,ht,hd⟩
  | sentZeroAcks _ _ _ hstate => exact absurd hstate hapart
  | linkedUp _ _ _ _ hup _ ht hd => exact .inr ⟨hup,ht,hd⟩
  | waiting hstate hp =>
    rw [hp] at hapart
    exact absurd hstate hapart
  | exchange hr _ hup => exact .inl ⟨hr,hup⟩

/-- A damaged frame, or one that every receiver discards. -/
def Reception.Unread : Reception → Prop
  | .damaged _ => True
  | .frame f => f.control.ignoreFrame = true

theorem rcvDatagram_unread {q : Reception} (hq : q.Unread) (r : Radio) (i : Inputs) :
    ∃ d : Damage, rcvDatagram r q i = (r,d.packetType) := by
  cases q with
  | damaged d => exact ⟨d,rfl⟩
  | frame f => exact ⟨.bad,if_pos hq⟩

theorem updateRadioState_damaged {q : Reception} (hq : q.Unread) (r : Radio) (i : Inputs) :
    updateRadioState r (some q) i = updateRadioState r (some (.damaged .bad)) i := by
  obtain ⟨d,hd⟩ := rcvDatagram_unread hq r i
  have hbad : rcvDatagram r (.damaged .bad) i = (r,.bad) := rfl
  unfold updateRadioState
  cases r.radioState with
  | reset | waitTxFindPartnerDone | waitTxSyncClocksDone | waitTxZeroAcksDone
    | linkUpWaitTxDone => rfl
  | linkDown =>
    simp only [linkDownPass,hd,hbad]
    cases d <;> rfl
  | waitSyncClocks =>
    simp only [waitSyncClocksPass,hd,hbad]
    cases d <;> rfl
  | waitZeroAcks =>
    simp only [waitZeroAcksPass,hd,hbad]
    cases d <;> rfl
  | linkUp =>
    simp only [linkUpPass,linkUpReceive,hd,hbad]
    cases d <;> rfl

/-- One unread frame is as good as another. -/
theorem updateRadioState_unread {p q : Reception} (hp : p.Unread) (hq : q.Unread) (r : Radio)
    (i : Inputs) : updateRadioState r (some p) i = updateRadioState r (some q) i :=
  (updateRadioState_damaged hp r i).trans (updateRadioState_damaged hq r i).symm

end LoRaSerial.P2P
