import LoRaSerial.P2P.Link

namespace LoRaSerial.P2P

/-- The frame transmitDatagram builds. -/
def Radio.builtFrame (r : Radio) (t : DatagramType) (payload : List UInt8) (i : Inputs) :
    Frame :=
  ⟨{ r.tx.control with
      datagramType := t
      ackNumber := selectAckNumber r.vc t
      requestYield := t == .dataAck && i.availableRadioTXBytes },payload⟩

/-- A transmit attempt touches the transmit buffer alone. -/
structure Xmit.Sends (x : Xmit) (r : Radio) (f : Frame) : Prop where
  vc : x.radio.vc = r.vc
  radioState : x.radio.radioState = r.radioState
  ackTimer : x.radio.ackTimer = r.ackTimer
  rexmt : x.radio.rexmt = r.rexmt
  frame : x.radio.tx.frame = f
  onAir : x.onAir = none ∨ x.onAir = some f

theorem retransmitDatagram_sends (r : Radio) (i : Inputs) :
    (retransmitDatagram r i).Sends r r.tx.frame := by
  constructor
  case onAir =>
    unfold retransmitDatagram
    dsimp only
    split <;> simp
  all_goals
    unfold retransmitDatagram
    dsimp only
    split <;> rfl

theorem transmitDatagram_sends (r : Radio) (t : DatagramType) (payload : List UInt8)
    (i : Inputs) : (transmitDatagram r t payload i).Sends r (r.builtFrame t payload i) := by
  have h := retransmitDatagram_sends
    { r with tx := ⟨(r.builtFrame t payload i).control,payload,0⟩ } i
  exact ⟨h.vc,h.radioState,h.ackTimer,h.rexmt,h.frame,h.onAir⟩

/-- A pass that ends in a transmit attempt, entering `s` if it started. -/
theorem Xmit.Sends.enter_state {x : Xmit} {r : Radio} {f : Frame} (h : x.Sends r f)
    (s : RadioState) : (x.enter s).radio.radioState = s ∨
      (x.enter s).radio.radioState = r.radioState := by
  unfold Xmit.enter
  dsimp only
  split
  · exact .inl rfl
  · exact .inr h.radioState

@[simp] theorem Xmit.enter_vc (x : Xmit) (s : RadioState) :
    (x.enter s).radio.vc = x.radio.vc := by
  unfold Xmit.enter
  dsimp only
  split <;> rfl

@[simp] theorem Xmit.enter_ackTimer (x : Xmit) (s : RadioState) :
    (x.enter s).radio.ackTimer = x.radio.ackTimer := by
  unfold Xmit.enter
  dsimp only
  split <;> rfl

@[simp] theorem Xmit.enter_tx (x : Xmit) (s : RadioState) :
    (x.enter s).radio.tx = x.radio.tx := by
  unfold Xmit.enter
  dsimp only
  split <;> rfl

@[simp] theorem Xmit.enter_rexmt (x : Xmit) (s : RadioState) :
    (x.enter s).radio.rexmt = x.radio.rexmt := by
  unfold Xmit.enter
  dsimp only
  split <;> rfl

@[simp] theorem Xmit.enter_onAir (x : Xmit) (s : RadioState) :
    (x.enter s).onAir = x.onAir := rfl

/-- Everything rcvDatagram can do in point-to-point mode. -/
inductive Received (r : Radio) (packet : Reception) : Radio × PacketType → Prop
  | discarded (p) (hp : p = .bad ∨ p = .crcError ∨ p = .netIdMismatch) :
      Received r packet (r,p)
  | duplicate (f : Frame) (hpacket : packet = .frame f) (hf : f.Sequenced)
      (hn : f.control.ackNumber + 1 = r.vc.rmtTxAckNumber) : Received r packet (r,.duplicate)
  | accept (f : Frame) (hpacket : packet = .frame f) (hf : f.Sequenced)
      (hn : f.control.ackNumber = r.vc.rmtTxAckNumber) :
      Received r packet ({ r with vc := r.vc.accept, requestYield := f.control.requestYield },
        .datagram f.control.datagramType)
  | acknowledged (f : Frame) (hpacket : packet = .frame f) (hf : f.Carries .dataAck)
      (hn : f.control.ackNumber = r.vc.txAckNumber) :
      Received r packet ({ r with
        vc := { r.vc with txAckNumber := r.vc.txAckNumber + 1 }
        requestYield := f.control.requestYield },.datagram .dataAck)
  | other (f : Frame) (t) (hpacket : packet = .frame f) (hf : f.Carries t)
      (hseq : t.sequenced false = false) (ht : t ≠ .dataAck) :
      Received r packet ({ r with requestYield := f.control.requestYield },.datagram t)

theorem rcvDatagram_received (r : Radio) (packet : Reception) (i : Inputs) :
    Received r packet (rcvDatagram r packet i) := by
  unfold rcvDatagram
  cases packet with
  | damaged d => exact .discarded _ (by cases d <;> simp [Damage.packetType])
  | frame f =>
    cases hignore : f.control.ignoreFrame with
    | true =>
      simp only [hignore,if_true]
      exact .discarded _ (.inl rfl)
    | false =>
      simp only [hignore,Bool.false_eq_true,if_false]
      have hcheck := rcvNumber_check false r.vc f.control f.payload.length i.space
      revert hcheck
      generalize rcvNumber false r.vc f.control f.payload.length i.space = q
      intro hcheck
      cases hcheck with
      | duplicate hseq hn => exact .duplicate f rfl ⟨hseq,hignore⟩ hn
      | foreign _ _ _ => exact .discarded _ (.inl rfl)
      | noRoom _ _ _ => exact .discarded _ (.inl rfl)
      | accept hseq hn => exact .accept f rfl ⟨hseq,hignore⟩ hn
      | ackRefused _ _ => exact .discarded _ (.inl rfl)
      | acknowledged ht hn => exact .acknowledged f rfl ⟨ht,hignore⟩ hn
      | unnumbered hseq ht => exact .other f _ rfl ⟨rfl,hignore⟩ hseq ht

/-- The heartbeat branch is taken while an ACK is outstanding: SAVE_TX_BUFFER
then replaces the kept frame. -/
def Overwrites (r : Radio) (packet : Option Reception) (i : Inputs) : Prop :=
  r.radioState = .linkUp ∧ packet = none ∧ i.receiveInProcess = false ∧
    i.heartbeatTimeout = true ∧ r.ackTimer = true

instance (r : Radio) (packet : Option Reception) (i : Inputs) :
    Decidable (Overwrites r packet i) :=
  inferInstanceAs (Decidable (_ ∧ _))

/-- What a pass that stays linked can do to the numbers, the kept frame and the
air, with the user data it moves. -/
inductive Exchange (r : Radio) (packet : Option Reception) (i : Inputs) (p : Pass) : Prop
  | quiet (hn : p.radio.numbers = r.numbers) (hk : p.radio.kept = r.kept)
      (hair : p.onAir = none) (ht : p.taken = []) (hd : p.delivered = [])
  | start (f : Frame) (hpacket : packet = none) (hk : r.kept = none)
      (hk' : p.radio.kept = some f) (hn : p.radio.numbers = r.numbers) (hf : f.Sequenced)
      (hnum : f.control.ackNumber = r.numbers.txAckNumber)
      (hair : p.onAir = none ∨ p.onAir = some f)
      (ht : p.taken = f.userData) (hd : p.delivered = [])
  | resend (f g : Frame) (hpacket : packet = none) (hk : r.kept = some f)
      (hk' : p.radio.kept = some f) (hn : p.radio.numbers = r.numbers) (hg : g.Sequenced)
      (hnum : g.control.ackNumber = r.numbers.txAckNumber) (hdata : g.userData = f.userData)
      (hair : p.onAir = none ∨ p.onAir = some g) (ht : p.taken = []) (hd : p.delivered = [])
  | overwrite (f g : Frame) (hover : Overwrites r packet i) (hk : r.kept = some f)
      (hk' : p.radio.kept = some g) (hn : p.radio.numbers = r.numbers) (hg : g.Sequenced)
      (hnum : g.control.ackNumber = r.numbers.txAckNumber) (hdata : g.userData = [])
      (hair : p.onAir = none ∨ p.onAir = some g) (ht : p.taken = []) (hd : p.delivered = [])
  | accept (f : Frame) (hpacket : packet = some (.frame f)) (hf : f.Sequenced)
      (hnum : f.control.ackNumber = r.numbers.rmtTxAckNumber)
      (hn : p.radio.numbers = r.numbers.accept) (hk : p.radio.kept = r.kept)
      (hair : p.onAir = none ∨ ∃ g : Frame, p.onAir = some g ∧ g.Carries .dataAck ∧
        g.control.ackNumber = r.numbers.rmtTxAckNumber)
      (ht : p.taken = []) (hd : p.delivered = f.userData)
  | duplicate (f : Frame) (hpacket : packet = some (.frame f)) (hf : f.Sequenced)
      (hnum : f.control.ackNumber + 1 = r.numbers.rmtTxAckNumber)
      (hn : p.radio.numbers = r.numbers) (hk : p.radio.kept = r.kept)
      (hair : p.onAir = none ∨ ∃ g : Frame, p.onAir = some g ∧ g.Carries .dataAck ∧
        g.control.ackNumber = r.numbers.rxAckNumber)
      (ht : p.taken = []) (hd : p.delivered = [])
  | acknowledged (f : Frame) (hpacket : packet = some (.frame f)) (hf : f.Carries .dataAck)
      (hnum : f.control.ackNumber = r.numbers.txAckNumber)
      (hn : p.radio.numbers = { r.numbers with txAckNumber := r.numbers.txAckNumber + 1 })
      (hk : p.radio.kept = none) (hair : p.onAir = none)
      (ht : p.taken = []) (hd : p.delivered = [])

/-- The two handshake frames that lead into a session. -/
def Frame.Handshake (f : Frame) : Prop :=
  f.Carries .syncClocks ∨ f.Carries .zeroAcks

theorem Frame.Sequenced.not_handshake {f : Frame} (hf : f.Sequenced) : ¬ f.Handshake := by
  rintro (⟨ht,_⟩ | ⟨ht,_⟩)
  all_goals
    have hseq := hf.1
    rw [ht] at hseq
    simp [DatagramType.sequenced] at hseq

theorem Frame.Carries.eq {f : Frame} {t u : DatagramType} (ht : f.Carries t)
    (hu : f.Carries u) : t = u :=
  ht.1.symm.trans hu.1

/-- A linked pass sends no handshake frame. -/
theorem Exchange.not_handshake {r : Radio} {packet : Option Reception} {i : Inputs} {p : Pass}
    (h : Exchange r packet i p) {f : Frame} (hf : p.onAir = some f) : ¬ f.Handshake := by
  have sent : ∀ g : Frame, g.Sequenced → (p.onAir = none ∨ p.onAir = some g) →
      ¬ f.Handshake := by
    intro g hg hair
    rcases hair with hair | hair
    · simp [hair] at hf
    · have he : g = f := by simpa [hair] using hf
      exact he ▸ hg.not_handshake
  have acked : ∀ n, (p.onAir = none ∨ ∃ g : Frame, p.onAir = some g ∧ g.Carries .dataAck ∧
      g.control.ackNumber = n) → ¬ f.Handshake := by
    rintro n (hair | ⟨g,hair,hg,_⟩)
    · simp [hair] at hf
    · have he : g = f := by simpa [hair] using hf
      subst he
      rintro (hs | hz)
      · exact absurd (hg.eq hs) (by decide)
      · exact absurd (hg.eq hz) (by decide)
  cases h with
  | quiet _ _ hair => simp [hair] at hf
  | start g _ _ _ _ hg _ hair => exact sent g hg hair
  | resend _ g _ _ _ _ hg _ _ hair => exact sent g hg hair
  | overwrite _ g _ _ _ _ hg _ _ hair => exact sent g hg hair
  | accept _ _ _ _ _ _ hair => exact acked _ hair
  | duplicate _ _ _ _ _ _ hair => exact acked _ hair
  | acknowledged _ _ _ _ _ _ hair => simp [hair] at hf

/-- What one pass can do, as seen from the link. -/
inductive Effect (r : Radio) (packet : Option Reception) (i : Inputs) (p : Pass) : Prop
  | apart (h : ¬ p.radio.Committed)
      (hair : ∀ f, p.onAir = some f → f.Carries .zeroAcks →
        ∃ g : Frame, packet = some (.frame g) ∧ g.Carries .syncClocks)
  | heardZeroAcks (f : Frame) (hpacket : packet = some (.frame f)) (hf : f.Carries .zeroAcks)
      (hstate : p.radio.radioState = .linkUp) (hn : p.radio.numbers = .zero)
      (hk : p.radio.kept = none) (hup : p.linkUp = true) (hair : p.onAir = none)
      (ht : p.taken = []) (hd : p.delivered = [])
  | sentZeroAcks (f : Frame) (hpacket : packet = some (.frame f)) (hf : f.Carries .syncClocks)
      (hstate : p.radio.radioState = .waitTxZeroAcksDone)
      (hair : p.onAir = none ∨ ∃ g : Frame, p.onAir = some g ∧ g.Carries .zeroAcks)
  | linkedUp (h : r.radioState = .waitTxZeroAcksDone) (hstate : p.radio.radioState = .linkUp)
      (hn : p.radio.numbers = .zero) (hk : p.radio.kept = none) (hup : p.linkUp = true)
      (hair : p.onAir = none) (ht : p.taken = []) (hd : p.delivered = [])
  | waiting (h : r.radioState = .waitTxZeroAcksDone) (hp : p = { radio := r })
  | exchange (hr : r.Linked) (hr' : p.radio.Linked) (hup : p.linkUp = false)
      (hx : Exchange r packet i p)

/-- What the buffers of a radio hold: no frame is marked ignored once it is out
of RADIO_RESET, and a kept frame has the number of the next acknowledgement. -/
structure Radio.Sound (r : Radio) : Prop where
  ignoreFrame : r.radioState ≠ .reset → r.tx.control.ignoreFrame = false
  kept : r.Linked → r.ackTimer = true →
    r.rexmt.frame.Sequenced ∧ r.rexmt.control.ackNumber = r.vc.txAckNumber

end LoRaSerial.P2P
