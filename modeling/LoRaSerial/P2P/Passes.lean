import LoRaSerial.P2P.Effect

namespace LoRaSerial.P2P

theorem Radio.Linked.numbers {r : Radio} (h : r.Linked) : r.numbers = r.vc := by
  rcases h with h | h <;> simp [Radio.numbers,h]

theorem Radio.Linked.kept_on {r : Radio} (h : r.Linked) (ha : r.ackTimer = true) :
    r.kept = some r.rexmt.frame := by
  rcases h with h | h <;> simp [Radio.kept,h,ha]

theorem Radio.Linked.kept_off {r : Radio} (h : r.Linked) (ha : r.ackTimer = false) :
    r.kept = none := by
  rcases h with h | h <;> simp [Radio.kept,h,ha]

theorem Radio.Linked.kept_eq {r r' : Radio} (h : r.Linked) (h' : r'.Linked)
    (ha : r'.ackTimer = r.ackTimer) (hx : r'.rexmt = r.rexmt) : r'.kept = r.kept := by
  cases hr : r.ackTimer with
  | false => rw [h.kept_off hr,h'.kept_off (ha.trans hr)]
  | true => rw [h.kept_on hr,h'.kept_on (ha.trans hr),hx]

theorem linked_of_state {r : Radio} (h : r.radioState = .linkUp) : r.Linked := .inl h

theorem Radio.Linked.not_reset {r : Radio} (h : r.Linked) : r.radioState ≠ .reset := by
  rcases h with h | h <;> simp [h]

/-- A pass and the soundness of the radio after it. -/
structure Outcome (r : Radio) (packet : Option Reception) (i : Inputs) (p : Pass) : Prop where
  effect : Effect r packet i p
  sound : p.radio.Sound

theorem Xmit.Sends.enter_linked {x : Xmit} {r : Radio} {f : Frame} (h : x.Sends r f)
    (hr : r.Linked) : (x.enter .linkUpWaitTxDone).radio.Linked := by
  rcases h.enter_state .linkUpWaitTxDone with hs | hs
  · exact .inr hs
  · exact hr.imp hs.trans hs.trans

/-- Sending the ACK leaves numbers, timer and kept frame alone. -/
structure AckSent (r : Radio) (p : Pass) : Prop where
  linked : p.radio.Linked
  vc : p.radio.vc = r.vc
  ackTimer : p.radio.ackTimer = r.ackTimer
  rexmt : p.radio.rexmt = r.rexmt
  ignoreFrame : p.radio.tx.control.ignoreFrame = false
  onAir : p.onAir = none ∨ ∃ g : Frame, p.onAir = some g ∧ g.Carries .dataAck ∧
    g.control.ackNumber = r.vc.rxAckNumber
  linkUp : p.linkUp = false
  taken : p.taken = []
  delivered : p.delivered = []

theorem p2pSendAck_sent {r : Radio} {i : Inputs} (hr : r.Linked)
    (hignore : r.tx.control.ignoreFrame = false) : AckSent r (p2pSendAck r i) := by
  have h : (xmitDatagramP2PAck r i).Sends r (r.builtFrame .dataAck (millisBytes i.millis) i) :=
    transmitDatagram_sends r .dataAck _ i
  have hbuilt : (r.builtFrame .dataAck (millisBytes i.millis) i).Carries .dataAck :=
    ⟨rfl,hignore⟩
  constructor
  case linked => exact h.enter_linked hr
  case vc => exact (Xmit.enter_vc _ _).trans h.vc
  case ackTimer => exact (Xmit.enter_ackTimer _ _).trans h.ackTimer
  case rexmt => exact (Xmit.enter_rexmt _ _).trans h.rexmt
  case ignoreFrame =>
    have hframe := congrArg (fun f : Frame => f.control.ignoreFrame) h.frame
    simpa [p2pSendAck,TxBuffer.frame] using hframe.trans hignore
  case onAir => exact h.onAir.imp id fun ho => ⟨_,ho,hbuilt,rfl⟩
  all_goals rfl

/-- Nothing but the transmit buffer and the yield request may change, the
transmit buffer staying unmarked. -/
theorem Radio.Sound.same {r r' : Radio} (h : r.Sound) (hr : r.Linked)
    (hignore : r'.tx.control.ignoreFrame = false) (hvc : r'.vc.txAckNumber = r.vc.txAckNumber)
    (ha : r'.ackTimer = r.ackTimer) (hx : r'.rexmt = r.rexmt) : r'.Sound where
  ignoreFrame _ := hignore
  kept _ hon := by
    obtain ⟨hseq,hnum⟩ := h.kept hr (ha ▸ hon)
    exact ⟨hx ▸ hseq,by rw [hx,hvc,hnum]⟩

theorem breakLink_outcome {r : Radio} {packet : Option Reception} {i : Inputs} {p : Pass}
    (hair : ∀ f, p.onAir = some f → f.Carries .zeroAcks →
      ∃ g : Frame, packet = some (.frame g) ∧ g.Carries .syncClocks) :
    Outcome r packet i (breakLink p) where
  effect := .apart (by simp [Radio.Committed,Radio.Linked,breakLink,Radio.stopAckTimer]) hair
  sound := ⟨fun h => absurd rfl h,fun h => absurd rfl h.not_reset⟩

/-- ZERO_ACKS only ever answers SYNC_CLOCKS. -/
theorem Effect.zeroAcks_answers {r : Radio} {packet : Option Reception} {i : Inputs} {p : Pass}
    (h : Effect r packet i p) {f : Frame} (hf : p.onAir = some f) (hz : f.Carries .zeroAcks) :
    ∃ g : Frame, packet = some (.frame g) ∧ g.Carries .syncClocks := by
  cases h with
  | apart _ hair => exact hair f hf hz
  | heardZeroAcks _ _ _ _ _ _ _ hair => simp [hair] at hf
  | sentZeroAcks g hpacket hg _ _ => exact ⟨g,hpacket,hg⟩
  | linkedUp _ _ _ _ _ hair => simp [hair] at hf
  | waiting _ hp => simp [hp] at hf
  | exchange _ _ _ hx => exact absurd (.inr hz) (hx.not_handshake hf)

/-- A received datagram in RADIO_P2P_LINK_UP. -/
theorem linkUpReceive_outcome {r : Radio} {packet : Reception} {i : Inputs}
    (hstate : r.radioState = .linkUp) (hsound : r.Sound) :
    Outcome r (some packet) i (linkUpReceive r packet i) := by
  have hr := linked_of_state hstate
  have hignore := hsound.ignoreFrame hr.not_reset
  have hquiet : ∀ y, Outcome r (some packet) i { radio := { r with requestYield := y } } := by
    intro y
    refine ⟨.exchange hr hr rfl (.quiet rfl rfl rfl rfl rfl),?_⟩
    exact hsound.same hr hignore rfl rfl rfl
  unfold linkUpReceive
  have hrcv := rcvDatagram_received r packet i
  revert hrcv
  generalize rcvDatagram r packet i = q
  intro hrcv
  cases hrcv with
  | discarded p hp => rcases hp with rfl | rfl | rfl <;> exact hquiet r.requestYield
  | duplicate f hpacket hf hn =>
    have hs := p2pSendAck_sent (i := i) hr hignore
    refine ⟨.exchange hr hs.linked hs.linkUp ?_,
      hsound.same hr hs.ignoreFrame ?_ hs.ackTimer hs.rexmt⟩
    · refine .duplicate f (by rw [hpacket]) hf ?_ ?_ ?_ ?_ hs.taken hs.delivered
      · rw [hr.numbers,hn]
      · rw [hr.numbers,hs.linked.numbers,hs.vc]
      · exact hr.kept_eq hs.linked hs.ackTimer hs.rexmt
      · rw [hr.numbers]
        exact hs.onAir
    · rw [hs.vc]
  | accept f hpacket hf hn =>
    let s : Radio := { r with vc := r.vc.accept, requestYield := f.control.requestYield }
    have hs : AckSent s (p2pSendAck s i) := p2pSendAck_sent hr hignore
    have hout : ∀ p : Pass, p.radio = (p2pSendAck s i).radio → p.onAir = (p2pSendAck s i).onAir →
        p.linkUp = false → p.taken = [] → p.delivered = f.userData →
        Outcome r (some packet) i p := by
      intro p hp hair hup ht hd
      have hlinked : p.radio.Linked := hp ▸ hs.linked
      refine ⟨.exchange hr hlinked hup ?_,?_⟩
      · refine .accept f (by rw [hpacket]) hf ?_ ?_ ?_ ?_ ht hd
        · rw [hr.numbers,hn]
        · rw [hlinked.numbers,hr.numbers,hp,hs.vc]
        · exact hr.kept_eq hlinked (by rw [hp,hs.ackTimer]) (by rw [hp,hs.rexmt])
        · rw [hair,hr.numbers]
          exact hs.onAir
      · rw [hp]
        exact hsound.same hr hs.ignoreFrame (by rw [hs.vc]; rfl) hs.ackTimer hs.rexmt
    obtain ⟨hseq,-⟩ := hf
    cases ht : f.control.datagramType <;> rw [ht] at hseq <;>
      simp only [DatagramType.sequenced,Bool.false_eq_true] at hseq
    case data =>
      exact hout _ rfl rfl rfl rfl (by simp [Frame.userData,ht,hpacket,Reception.payload])
    all_goals exact hout _ rfl rfl rfl rfl (hs.delivered.trans (by simp [Frame.userData,ht]))
  | acknowledged f hpacket hf hn =>
    refine ⟨.exchange hr hr rfl ?_,
      ⟨fun _ => hignore,fun _ h => absurd h (by simp [Radio.stopAckTimer])⟩⟩
    refine .acknowledged f (by rw [hpacket]) hf ?_ ?_ ?_ rfl rfl rfl
    · rw [hr.numbers,hn]
    · rw [hr.numbers]
      exact Radio.Linked.numbers (.inl hstate)
    · exact Radio.Linked.kept_off (.inl hstate) rfl
  | other f t hpacket hf hseq ht =>
    cases t <;> simp [DatagramType.sequenced] at hseq
    case findPartner => exact breakLink_outcome (by simp)
    case dataAck => exact absurd rfl ht
    all_goals exact hquiet _

theorem builtFrame_sequenced {r : Radio} (t : DatagramType) (payload : List UInt8)
    (i : Inputs) (hignore : r.tx.control.ignoreFrame = false) (ht : t.sequenced false = true) :
    (r.builtFrame t payload i).Sequenced ∧
      (r.builtFrame t payload i).control.ackNumber = r.vc.txAckNumber := by
  have hack : t ≠ .dataAck := by rintro rfl; simp [DatagramType.sequenced] at ht
  exact ⟨⟨ht,hignore⟩,if_neg hack⟩

/-- A branch that sends the numbered frame `f` and keeps it. -/
structure FrameSent (r : Radio) (p : Pass) (f : Frame) : Prop where
  linked : p.radio.Linked
  numbers : p.radio.numbers = r.numbers
  kept : p.radio.kept = some f
  onAir : p.onAir = none ∨ p.onAir = some f
  sound : p.radio.Sound

theorem awaitAck_sent {r : Radio} {x : Xmit} {f : Frame} (h : x.Sends r f) (hr : r.Linked)
    (hf : f.Sequenced) (hn : f.control.ackNumber = r.vc.txAckNumber) :
    FrameSent r ((x.enter .linkUpWaitTxDone).awaitAck) f := by
  let p := (x.enter .linkUpWaitTxDone).awaitAck
  have hlinked : p.radio.Linked := h.enter_linked hr
  have hvc : p.radio.vc = r.vc := (Xmit.enter_vc _ _).trans h.vc
  have hrexmt : p.radio.rexmt.frame = f :=
    (congrArg TxBuffer.frame (Xmit.enter_tx x .linkUpWaitTxDone)).trans h.frame
  have hctl : p.radio.rexmt.control = f.control := congrArg Frame.control hrexmt
  constructor
  case linked => exact hlinked
  case numbers => rw [hr.numbers,hlinked.numbers,hvc]
  case kept => rw [hlinked.kept_on rfl,hrexmt]
  case onAir => exact h.onAir
  case sound =>
    refine ⟨fun _ => ?_,fun _ _ => ⟨hrexmt ▸ hf,?_⟩⟩
    · change p.radio.rexmt.control.ignoreFrame = false
      rw [hctl]
      exact hf.2
    · rw [hctl,hn,hvc]

/-- A numbered frame leaves while no ACK is outstanding. -/
theorem start_outcome {r : Radio} {i : Inputs} {p : Pass} {f : Frame} (hr : r.Linked)
    (ha : r.ackTimer = false) (hf : f.Sequenced) (hn : f.control.ackNumber = r.vc.txAckNumber)
    (hs : FrameSent r p f) (hup : p.linkUp = false) (ht : p.taken = f.userData)
    (hd : p.delivered = []) : Outcome r none i p where
  effect := .exchange hr hs.linked hup
    (.start f rfl (hr.kept_off ha) hs.kept hs.numbers hf (by rw [hn,hr.numbers]) hs.onAir ht hd)
  sound := hs.sound

theorem heartbeat_outcome {r : Radio} {i : Inputs} (hstate : r.radioState = .linkUp)
    (hsound : r.Sound) (hrx : i.receiveInProcess = false) (hbeat : i.heartbeatTimeout = true) :
    Outcome r none i (((xmitDatagramP2PHeartbeat r i).enter .linkUpWaitTxDone).awaitAck) := by
  have hr := linked_of_state hstate
  have hignore := hsound.ignoreFrame hr.not_reset
  obtain ⟨hf,hn⟩ := builtFrame_sequenced .heartbeat (millisBytes i.millis) i hignore rfl
  have hs := awaitAck_sent (transmitDatagram_sends r .heartbeat (millisBytes i.millis) i) hr hf hn
  cases ha : r.ackTimer with
  | false => exact start_outcome hr ha hf hn hs rfl rfl rfl
  | true =>
    refine ⟨.exchange hr hs.linked rfl ?_,hs.sound⟩
    exact .overwrite _ _ ⟨hstate,rfl,hrx,hbeat,ha⟩ (hr.kept_on ha) hs.kept hs.numbers hf
      (by rw [hn,hr.numbers]) rfl hs.onAir rfl rfl

/-- Retransmission keeps the saved frame; a heartbeat is built anew. -/
theorem linkUpRetransmit_outcome {r : Radio} {i : Inputs} (hstate : r.radioState = .linkUp)
    (hsound : r.Sound) (ha : r.ackTimer = true) : Outcome r none i (linkUpRetransmit r i) := by
  have hr := linked_of_state hstate
  obtain ⟨hseq,hnum⟩ := hsound.kept hr ha
  have hresend : ∀ (x : Xmit) (g : Frame), x.Sends r.restoreTxBuffer g → g.Sequenced →
      g.control.ackNumber = r.vc.txAckNumber → g.userData = r.rexmt.frame.userData →
      Outcome r none i { x.enter .linkUpWaitTxDone with
        radio := (x.enter .linkUpWaitTxDone).radio.startAckTimer } := by
    intro x g hx hg hgn hdata
    have hlinked : (x.enter .linkUpWaitTxDone).radio.startAckTimer.Linked :=
      hx.enter_linked (r := r.restoreTxBuffer) hr
    have hvc : (x.enter .linkUpWaitTxDone).radio.startAckTimer.vc = r.vc :=
      (Xmit.enter_vc _ _).trans hx.vc
    have hrexmt : (x.enter .linkUpWaitTxDone).radio.startAckTimer.rexmt = r.rexmt :=
      (Xmit.enter_rexmt _ _).trans hx.rexmt
    refine ⟨.exchange hr hlinked rfl ?_,?_⟩
    · refine .resend _ g rfl (hr.kept_on ha) ?_ ?_ hg ?_ hdata hx.onAir rfl rfl
      · rw [hlinked.kept_on rfl,hrexmt]
      · rw [hlinked.numbers,hvc,hr.numbers]
      · rw [hgn,hr.numbers]
    · refine hsound.same hr ?_ (by rw [hvc]) ha.symm hrexmt
      have htx := congrArg (fun f : Frame => f.control.ignoreFrame) hx.frame
      simpa [Radio.startAckTimer,TxBuffer.frame] using htx.trans hg.2
  unfold linkUpRetransmit
  split
  · dsimp only
    split
    next hbeat =>
      have hrestored : r.restoreTxBuffer.tx.control.ignoreFrame = false := hseq.2
      obtain ⟨hf,hn⟩ := builtFrame_sequenced .heartbeat (millisBytes i.millis) i hrestored rfl
      refine hresend _ _ (transmitDatagram_sends _ .heartbeat _ i) hf hn ?_
      have hkept : r.rexmt.control.datagramType = .heartbeat := hbeat
      simp [Frame.userData,Radio.builtFrame,TxBuffer.frame,hkept]
    next => exact hresend _ _ (retransmitDatagram_sends _ i) hseq hnum rfl
  · exact breakLink_outcome (by simp)

/-- Nothing received in RADIO_P2P_LINK_UP: every transmit priority. -/
theorem linkUpTransmit_outcome {r : Radio} {i : Inputs} (hstate : r.radioState = .linkUp)
    (hsound : r.Sound) (hrx : i.receiveInProcess = false) :
    Outcome r none i (linkUpTransmit r i) := by
  have hr := linked_of_state hstate
  have hignore := hsound.ignoreFrame hr.not_reset
  have hidle : ∀ y, Outcome r none i { radio := { r with requestYield := y } } := by
    intro y
    refine ⟨.exchange hr hr rfl (.quiet rfl rfl rfl rfl rfl),?_⟩
    exact hsound.same hr hignore rfl rfl rfl
  unfold linkUpTransmit
  split
  next hbeat => exact heartbeat_outcome hstate hsound hrx hbeat
  split
  next ha =>
    split
    · exact linkUpRetransmit_outcome hstate hsound ha
    · exact hidle r.requestYield
  next hoff =>
  have ha : r.ackTimer = false := by simpa using hoff
  cases i.commandPacket with
  | some packet =>
    dsimp only
    split
    · obtain ⟨hf,hn⟩ := builtFrame_sequenced .remoteCommandResponse packet i hignore rfl
      exact start_outcome hr ha hf hn
        (awaitAck_sent (transmitDatagram_sends r _ packet i) hr hf hn) rfl rfl rfl
    · obtain ⟨hf,hn⟩ := builtFrame_sequenced .remoteCommand packet i hignore rfl
      exact start_outcome hr ha hf hn
        (awaitAck_sent (transmitDatagram_sends r _ packet i) hr hf hn) rfl rfl rfl
  | none =>
    dsimp only
    split
    · cases i.serialPacket with
      | none => exact hidle false
      | some packet =>
        let s : Radio := { r with requestYield := false }
        obtain ⟨hf,hn⟩ := builtFrame_sequenced (r := s) .data packet i hignore rfl
        have hs := awaitAck_sent (transmitDatagram_sends s .data packet i) hr hf hn
        exact start_outcome hr ha hf hn
          ⟨hs.linked,hs.numbers,hs.kept,hs.onAir,hs.sound⟩ rfl rfl rfl
    · exact hidle r.requestYield

/-- RADIO_P2P_LINK_UP, with the link timeout that closes every pass. -/
theorem linkUpPass_outcome {r : Radio} {packet : Option Reception} {i : Inputs}
    (hstate : r.radioState = .linkUp) (hsound : r.Sound) :
    Outcome r packet i (linkUpPass r packet i) := by
  have hr := linked_of_state hstate
  have hquiet : Outcome r packet i { radio := r } :=
    ⟨.exchange hr hr rfl (.quiet rfl rfl rfl rfl rfl),hsound⟩
  have hclose : ∀ p : Pass, Outcome r packet i p →
      Outcome r packet i (if i.linkTimeout then breakLink p else p) := by
    intro p hp
    split
    · exact breakLink_outcome fun f hf hz => hp.effect.zeroAcks_answers hf hz
    · exact hp
  unfold linkUpPass
  cases packet with
  | some p => exact hclose _ (linkUpReceive_outcome hstate hsound)
  | none =>
    refine hclose _ ?_
    dsimp only
    split
    next hrx => exact linkUpTransmit_outcome hstate hsound hrx
    next => exact hquiet

/-- Outside the link-up states the number switch still runs, but nothing of the
radio that the handshake relies on changes. -/
theorem rcvDatagram_same (r : Radio) (p : Reception) (i : Inputs) :
    (rcvDatagram r p i).1.radioState = r.radioState ∧ (rcvDatagram r p i).1.tx = r.tx ∧
      ∀ t, (rcvDatagram r p i).2 = .datagram t → ∃ f, p = .frame f ∧ f.Carries t := by
  have h := rcvDatagram_received r p i
  revert h
  generalize rcvDatagram r p i = q
  intro h
  cases h with
  | discarded p hp =>
    exact ⟨rfl,rfl,fun t ht => by rcases hp with rfl | rfl | rfl <;> simp at ht⟩
  | duplicate f _ _ _ => exact ⟨rfl,rfl,by simp⟩
  | accept f hpacket hf _ =>
    refine ⟨rfl,rfl,fun t ht => ⟨f,hpacket,?_,hf.2⟩⟩
    simpa using ht
  | acknowledged f hpacket hf _ =>
    refine ⟨rfl,rfl,fun t ht => ⟨f,hpacket,?_,hf.2⟩⟩
    exact hf.1.trans (by simpa using ht)
  | other f u hpacket hf _ _ =>
    refine ⟨rfl,rfl,fun t ht => ⟨f,hpacket,?_,hf.2⟩⟩
    exact hf.1.trans (by simpa using ht)

theorem Radio.Sound.unlinked {r : Radio} (h : ¬ r.Committed)
    (hignore : r.tx.control.ignoreFrame = false) : r.Sound where
  ignoreFrame _ := hignore
  kept hr := absurd (.inl hr) h

/-- A pass of the handshake that does not lead to a session. -/
theorem apart_outcome {r : Radio} {packet : Option Reception} {i : Inputs} {p : Pass}
    (h : ¬ p.radio.Committed) (hignore : p.radio.tx.control.ignoreFrame = false)
    (hair : ∀ f, p.onAir = some f → ¬ f.Carries .zeroAcks) : Outcome r packet i p where
  effect := .apart h fun f hf hz => absurd hz (hair f hf)
  sound := .unlinked h hignore

/-- The states in which a radio runs the handshake. -/
def RadioState.Handshaking (s : RadioState) : Prop :=
  s ≠ .linkUp ∧ s ≠ .linkUpWaitTxDone ∧ s ≠ .waitTxZeroAcksDone

theorem RadioState.Handshaking.not_committed {r : Radio} (h : r.radioState.Handshaking) :
    ¬ r.Committed := by
  obtain ⟨hu,hw,hz⟩ := h
  rintro ((h | h) | h)
  · exact hu h
  · exact hw h
  · exact hz h

/-- FIND_PARTNER and SYNC_CLOCKS leave the radio in the handshake. -/
theorem handshake_send {r q : Radio} {packet : Option Reception} {i : Inputs} {x : Xmit}
    {t : DatagramType} {payload : List UInt8} {s : RadioState}
    (hx : x.Sends q (q.builtFrame t payload i)) (ht : t ≠ .zeroAcks)
    (hq : q.radioState.Handshaking) (hs : s.Handshaking)
    (hignore : q.tx.control.ignoreFrame = false) : Outcome r packet i (x.enter s) := by
  refine apart_outcome ?_ ?_ ?_
  · apply RadioState.Handshaking.not_committed
    rcases hx.enter_state s with h | h
    · rw [h]
      exact hs
    · rw [h]
      exact hq
  · have htx := congrArg (fun f : Frame => f.control.ignoreFrame) hx.frame
    simpa [TxBuffer.frame] using htx.trans hignore
  · intro f hf hz
    rcases hx.onAir with h | h
    · simp [h] at hf
    · rw [Xmit.enter_onAir,h] at hf
      obtain rfl : q.builtFrame t payload i = f := by simpa using hf
      exact ht hz.1

theorem linkDownPass_outcome {r : Radio} {packet : Option Reception} {i : Inputs}
    (hstate : r.radioState = .linkDown) (hsound : r.Sound) :
    Outcome r packet i (linkDownPass r packet i) := by
  have hignore := hsound.ignoreFrame (by simp [hstate])
  have hhand : ∀ q : Radio, q.radioState = r.radioState → q.radioState.Handshaking := by
    intro q hq
    rw [hq,hstate]
    simp [RadioState.Handshaking]
  have hstay : ∀ q : Radio, q.radioState = r.radioState → q.tx = r.tx →
      Outcome r packet i { radio := q } := fun q hq htx =>
    apart_outcome (hhand q hq).not_committed (htx ▸ hignore) (by simp)
  unfold linkDownPass
  cases packet with
  | none =>
    dsimp only
    split
    · exact handshake_send (transmitDatagram_sends r .findPartner _ i) (by decide)
        (hhand r rfl) (by simp [RadioState.Handshaking]) hignore
    · exact hstay r rfl rfl
  | some p =>
    obtain ⟨hs,htx,_⟩ := rcvDatagram_same r p i
    dsimp only
    split
    next q heq =>
      rw [heq] at hs htx
      exact handshake_send (transmitDatagram_sends q .syncClocks _ i) (by decide)
        (hhand q hs) (by simp [RadioState.Handshaking]) (htx ▸ hignore)
    next q _ _ heq =>
      rw [heq] at hs htx
      exact hstay q hs htx

/-- A handshake timeout sends the radio back to RADIO_P2P_LINK_DOWN. -/
theorem handshakeTimeout_outcome {r : Radio} {packet : Option Reception} {i : Inputs}
    (hhand : r.radioState.Handshaking) (hignore : r.tx.control.ignoreFrame = false) :
    Outcome r packet i (if i.handshakeTimeout then { radio := { r with radioState := .linkDown } }
      else { radio := r }) := by
  split
  · have hdown : RadioState.Handshaking .linkDown := by simp [RadioState.Handshaking]
    exact apart_outcome (RadioState.Handshaking.not_committed
      (r := { r with radioState := .linkDown }) hdown) hignore (by simp)
  · exact apart_outcome hhand.not_committed hignore (by simp)

theorem sentZeroAcks_outcome {r q : Radio} {i : Inputs} {f : Frame} (hf : f.Carries .syncClocks)
    (hq : q.radioState.Handshaking) (hignore : q.tx.control.ignoreFrame = false) :
    Outcome r (some (.frame f)) i ((xmitDatagramP2PZeroAcks q i).enter .waitTxZeroAcksDone) := by
  have hx := transmitDatagram_sends q .zeroAcks (millisBytes i.millis) i
  have htx : (xmitDatagramP2PZeroAcks q i).radio.tx.control.ignoreFrame = false :=
    (congrArg (fun f : Frame => f.control.ignoreFrame) hx.frame).trans hignore
  by_cases hstate : ((xmitDatagramP2PZeroAcks q i).enter .waitTxZeroAcksDone).radio.radioState =
      .waitTxZeroAcksDone
  · refine ⟨.sentZeroAcks f rfl hf hstate (hx.onAir.imp id fun h => ⟨_,h,rfl,hignore⟩),?_,?_⟩
    · exact fun _ => (congrArg (fun b : TxBuffer => b.control.ignoreFrame)
        (Xmit.enter_tx _ _)).trans htx
    · rintro (hl | hl) <;> simp [hstate] at hl
  · have hstay := (hx.enter_state .waitTxZeroAcksDone).resolve_left hstate
    refine ⟨.apart ?_ fun _ _ _ => ⟨f,rfl,hf⟩,.unlinked ?_ ?_⟩
    · exact RadioState.Handshaking.not_committed (hstay ▸ hq)
    · exact RadioState.Handshaking.not_committed (hstay ▸ hq)
    · exact (congrArg (fun b : TxBuffer => b.control.ignoreFrame) (Xmit.enter_tx _ _)).trans htx

theorem waitSyncClocksPass_outcome {r : Radio} {packet : Option Reception} {i : Inputs}
    (hstate : r.radioState = .waitSyncClocks) (hsound : r.Sound) :
    Outcome r packet i (waitSyncClocksPass r packet i) := by
  have hignore := hsound.ignoreFrame (by simp [hstate])
  have hhand : r.radioState.Handshaking := by simp [hstate,RadioState.Handshaking]
  unfold waitSyncClocksPass
  cases packet with
  | none => exact handshakeTimeout_outcome hhand hignore
  | some p =>
    obtain ⟨hs,htx,hfrom⟩ := rcvDatagram_same r p i
    dsimp only
    split
    next q heq =>
      rw [heq] at hs htx
      exact handshake_send (transmitDatagram_sends q .syncClocks _ i) (by decide)
        (hs ▸ hhand) (by simp [RadioState.Handshaking]) (htx ▸ hignore)
    next q heq =>
      rw [heq] at hs htx hfrom
      obtain ⟨f,rfl,hf⟩ := hfrom _ rfl
      exact sentZeroAcks_outcome hf (hs ▸ hhand) (htx ▸ hignore)
    next q _ _ _ heq =>
      rw [heq] at hs htx
      exact apart_outcome (RadioState.Handshaking.not_committed (hs ▸ hhand)) (htx ▸ hignore)
        (by simp)

theorem enterLinkUp_sound {r : Radio} (hignore : r.tx.control.ignoreFrame = false) :
    (enterLinkUp r).radio.Sound :=
  ⟨fun _ => hignore,fun _ h => absurd h (by simp [enterLinkUp,Radio.stopAckTimer])⟩

theorem waitZeroAcksPass_outcome {r : Radio} {packet : Option Reception} {i : Inputs}
    (hstate : r.radioState = .waitZeroAcks) (hsound : r.Sound) :
    Outcome r packet i (waitZeroAcksPass r packet i) := by
  have hignore := hsound.ignoreFrame (by simp [hstate])
  have hhand : r.radioState.Handshaking := by simp [hstate,RadioState.Handshaking]
  unfold waitZeroAcksPass
  cases packet with
  | none => exact handshakeTimeout_outcome hhand hignore
  | some p =>
    obtain ⟨hs,htx,hfrom⟩ := rcvDatagram_same r p i
    dsimp only
    split
    next q heq =>
      rw [heq] at hs htx hfrom
      obtain ⟨f,rfl,hf⟩ := hfrom _ rfl
      exact ⟨.heardZeroAcks f rfl hf rfl rfl rfl rfl rfl rfl rfl,enterLinkUp_sound (htx ▸ hignore)⟩
    next q _ _ heq =>
      rw [heq] at hs htx
      exact apart_outcome (RadioState.Handshaking.not_committed (hs ▸ hhand)) (htx ▸ hignore)
        (by simp)

/-- The end of a handshake transmission. -/
theorem waitTxDonePass_outcome {r : Radio} {packet : Option Reception} {i : Inputs}
    {next : RadioState} (hhand : r.radioState.Handshaking) (hnext : next.Handshaking)
    (hignore : r.tx.control.ignoreFrame = false) :
    Outcome r packet i (waitTxDonePass r packet next) := by
  unfold waitTxDonePass
  cases packet with
  | none => exact apart_outcome hhand.not_committed hignore (by simp)
  | some p =>
    exact apart_outcome (RadioState.Handshaking.not_committed
      (r := { r with radioState := next }) hnext) hignore (by simp)

theorem getTxTime_ack {r : Radio} {i : Inputs} {f : Frame}
    (hf : (getTxTime xmitDatagramP2PAck r i).onAir = some f) :
    f.control.datagramType = .dataAck := by
  unfold getTxTime xmitDatagramP2PAck at hf
  dsimp only at hf
  rcases (transmitDatagram_sends _ .dataAck (millisBytes i.millis) i).onAir with h | h
  · rw [h] at hf
    exact absurd hf (by simp)
  · rw [h] at hf
    obtain rfl := Option.some.inj hf
    rfl

theorem resetPass_outcome (r : Radio) (packet : Option Reception) (i : Inputs) :
    Outcome r packet i (resetPass r i) := by
  refine apart_outcome ?_ rfl ?_
  · exact RadioState.Handshaking.not_committed (r := (resetPass r i).radio)
      (by simp [resetPass,RadioState.Handshaking])
  · intro f hf hz
    have hack : f.control.datagramType = .dataAck := getTxTime_ack hf
    exact absurd (hack.symm.trans hz.1) (by decide)

theorem waitTxZeroAcksDone_outcome {r : Radio} {packet : Option Reception} {i : Inputs}
    (hstate : r.radioState = .waitTxZeroAcksDone) (hsound : r.Sound) :
    Outcome r packet i (if packet.isSome then enterLinkUp r else { radio := r }) := by
  split
  · exact ⟨.linkedUp hstate rfl rfl rfl rfl rfl rfl rfl,
      enterLinkUp_sound (hsound.ignoreFrame (by simp [hstate]))⟩
  · exact ⟨.waiting hstate rfl,hsound⟩

/-- The end of a transmission of a linked radio. -/
theorem linkUpWaitTxDone_outcome {r : Radio} {packet : Option Reception} {i : Inputs}
    (hstate : r.radioState = .linkUpWaitTxDone) (hsound : r.Sound) :
    Outcome r packet i (waitTxDonePass r packet .linkUp) := by
  have hr : r.Linked := .inr hstate
  have hignore := hsound.ignoreFrame hr.not_reset
  unfold waitTxDonePass
  cases packet with
  | none => exact ⟨.exchange hr hr rfl (.quiet rfl rfl rfl rfl rfl),hsound⟩
  | some p =>
    have hup : Radio.Linked { r with radioState := .linkUp } := .inl rfl
    refine ⟨.exchange hr hup rfl (.quiet ?_ ?_ rfl rfl rfl),hsound.same hr hignore rfl rfl rfl⟩
    · exact hup.numbers.trans hr.numbers.symm
    · exact hr.kept_eq hup rfl rfl

/-- Everything one pass of updateRadioState can do in point-to-point mode. -/
theorem updateRadioState_outcome {r : Radio} (packet : Option Reception) (i : Inputs)
    (hsound : r.Sound) : Outcome r packet i (updateRadioState r packet i) := by
  unfold updateRadioState
  cases hstate : r.radioState with
  | reset => exact resetPass_outcome r packet i
  | linkDown => exact linkDownPass_outcome hstate hsound
  | waitTxFindPartnerDone =>
    exact waitTxDonePass_outcome (by simp [hstate,RadioState.Handshaking])
      (by simp [RadioState.Handshaking]) (hsound.ignoreFrame (by simp [hstate]))
  | waitSyncClocks => exact waitSyncClocksPass_outcome hstate hsound
  | waitTxSyncClocksDone =>
    exact waitTxDonePass_outcome (by simp [hstate,RadioState.Handshaking])
      (by simp [RadioState.Handshaking]) (hsound.ignoreFrame (by simp [hstate]))
  | waitZeroAcks => exact waitZeroAcksPass_outcome hstate hsound
  | waitTxZeroAcksDone => exact waitTxZeroAcksDone_outcome hstate hsound
  | linkUp => exact linkUpPass_outcome hstate hsound
  | linkUpWaitTxDone => exact linkUpWaitTxDone_outcome hstate hsound

end LoRaSerial.P2P
