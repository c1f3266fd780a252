import LoRaSerial.Lib.Resending
import LoRaSerial.P2P.Effect

namespace LoRaSerial.P2P
open Resending Runs

/-- A DATA or command frame: heartbeats are numbered as well, but carry nothing
that has to arrive. -/
def Frame.message (f : Frame) : Bool := f.control.datagramType.sequenced true

/-- A pass of updateRadioState or a change to RADIO_RESET made by a command. -/
inductive Turn where
  | pass (packet : Option Reception) (i : Inputs)
  | command
  deriving DecidableEq, Repr

def Radio.turn (maxResends : UInt8) (r : Radio) : Turn → Radio
  | .pass packet i => (updateRadioState r packet { i with maxResends }).radio
  | .command => { r with radioState := .reset }

/-- The pass comes to an expired ACK timeout, the kept frame being a message. -/
def Radio.ackExpires (r : Radio) : Turn → Bool
  | .pass packet i => decide (r.radioState = .linkUp ∧ packet = none ∧
      i.receiveInProcess = false ∧ i.heartbeatTimeout = false ∧ r.ackTimer = true ∧
      i.retransmitTimeout = true ∧ r.rexmt.frame.message = true)
  | .command => false

/-- The messages that a turn puts on the air. -/
def Radio.messages (maxResends : UInt8) (r : Radio) : Turn → Nat
  | .pass packet i =>
    ((updateRadioState r packet { i with maxResends }).onAir.filter Frame.message).toList.length
  | .command => 0

/-- The radio as a sender that repeats its messages; breakLink gives up. -/
def sender (maxResends : UInt8) : Sender Radio Turn where
  step := Radio.turn maxResends
  awaits r := r.ackTimer
  spent r := decide (maxResends ≤ r.tx.frameSentCount)
  expires := Radio.ackExpires
  transmissions := Radio.messages maxResends
  givesUp r t := decide ((r.turn maxResends t).radioState = .reset)

/-- No message goes on the air. -/
def Pass.Silent (p : Pass) : Prop := ∀ f, p.onAir = some f → f.message = false

theorem silent_of_none {p : Pass} (h : p.onAir = none) : p.Silent := by
  intro f hf
  rw [h] at hf
  cases hf

theorem retransmitDatagram_onAir {r : Radio} {i : Inputs} {f : Frame}
    (h : (retransmitDatagram r i).onAir = some f) : f = r.tx.frame := by
  unfold retransmitDatagram at h
  dsimp only at h
  split at h
  · exact (Option.some.inj h).symm
  · cases h

theorem transmitDatagram_type {r : Radio} {t : DatagramType} {payload : List UInt8} {i : Inputs}
    {f : Frame} (h : (transmitDatagram r t payload i).onAir = some f) :
    f.control.datagramType = t := by
  rw [retransmitDatagram_onAir h]
  rfl

/-- A pass that ends in the transmission of another type. -/
theorem xmit_silent (r : Radio) {t : DatagramType} (payload : List UInt8) (i : Inputs)
    (s : RadioState) (ht : t.sequenced true = false := by rfl) :
    ((transmitDatagram r t payload i).enter s).Silent := by
  intro f hf
  rw [Frame.message,transmitDatagram_type hf]
  exact ht

theorem resetPass_silent (r : Radio) (i : Inputs) : (resetPass r i).Silent := by
  intro f hf
  unfold resetPass at hf
  dsimp only at hf
  generalize (getTxTime xmitDatagramP2PHeartbeat _ i).radio = s at hf
  have htype : f.control.datagramType = .dataAck := transmitDatagram_type hf
  rw [Frame.message,htype]
  rfl

theorem linkDownPass_silent (r : Radio) (packet : Option Reception) (i : Inputs) :
    (linkDownPass r packet i).Silent := by
  unfold linkDownPass
  split
  · split
    · exact xmit_silent _ _ i _
    · exact silent_of_none rfl
  · split
    · exact xmit_silent _ _ i _
    · exact silent_of_none rfl

theorem waitSyncClocksPass_silent (r : Radio) (packet : Option Reception) (i : Inputs) :
    (waitSyncClocksPass r packet i).Silent := by
  unfold waitSyncClocksPass
  split
  · split
    · exact xmit_silent _ _ i _
    · exact xmit_silent _ _ i _
    · exact silent_of_none rfl
  · split <;> exact silent_of_none rfl

theorem waitZeroAcksPass_silent (r : Radio) (packet : Option Reception) (i : Inputs) :
    (waitZeroAcksPass r packet i).Silent := by
  unfold waitZeroAcksPass
  split
  · split <;> exact silent_of_none rfl
  · split <;> exact silent_of_none rfl

theorem linkUpReceive_silent (r : Radio) (p : Reception) (i : Inputs) :
    (linkUpReceive r p i).Silent := by
  have hack : ∀ s : Radio, (p2pSendAck s i).Silent := fun s => xmit_silent s _ i _
  unfold linkUpReceive
  split
  · exact silent_of_none rfl
  · exact hack _
  · exact hack _
  · exact hack _
  · exact silent_of_none rfl
  · exact hack _
  · exact hack _
  · exact silent_of_none rfl

/-- An outstanding frame is repeated only at an expired timeout, and what goes
on the air then is the kept frame. -/
theorem linkUpTransmit_expires {r : Radio} {i : Inputs} (hack : r.ackTimer = true) {f : Frame}
    (hf : (linkUpTransmit r i).onAir = some f) (hm : f.message = true) :
    i.heartbeatTimeout = false ∧ i.retransmitTimeout = true ∧ r.rexmt.frame.message = true := by
  unfold linkUpTransmit at hf
  split at hf
  · have hsilent : ((xmitDatagramP2PHeartbeat r i).enter .linkUpWaitTxDone).Silent :=
      xmit_silent r _ i _
    rw [hsilent f hf] at hm
    cases hm
  next hheartbeat =>
    split at hf
    next hretransmit =>
      refine ⟨by simpa using hheartbeat,hretransmit,?_⟩
      unfold linkUpRetransmit at hf
      split at hf
      · dsimp only at hf
        split at hf
        · have hsilent : ((xmitDatagramP2PHeartbeat r.restoreTxBuffer i).enter
              .linkUpWaitTxDone).Silent := xmit_silent _ _ i _
          rw [hsilent f hf] at hm
          cases hm
        · rw [retransmitDatagram_onAir hf] at hm
          exact hm
      · cases hf
    · cases hf

theorem updateRadioState_expires {r : Radio} {packet : Option Reception} {i : Inputs}
    (hack : r.ackTimer = true) {f : Frame} (hf : (updateRadioState r packet i).onAir = some f)
    (hm : f.message = true) : r.ackExpires (.pass packet i) = true := by
  have silent : ∀ {p : Pass}, p.Silent → p.onAir = some f → False := by
    intro p hp hair
    rw [hp f hair] at hm
    cases hm
  unfold updateRadioState at hf
  cases hstate : r.radioState with
  | linkUp =>
    rw [hstate] at hf
    dsimp only at hf
    unfold linkUpPass at hf
    have honAir : ∀ p : Pass, (if i.linkTimeout then breakLink p else p).onAir = p.onAir := by
      intro p
      split
      · rfl
      · rfl
    rw [honAir] at hf
    cases packet with
    | some p => exact (silent (linkUpReceive_silent r p i) hf).elim
    | none =>
      dsimp only at hf
      split at hf
      next hidle =>
        obtain ⟨hheartbeat,hretransmit,hkept⟩ := linkUpTransmit_expires hack hf hm
        simp [Radio.ackExpires,hstate,hidle,hheartbeat,hack,hretransmit,hkept]
      · cases hf
  | reset => exact (silent (resetPass_silent r i) (by simpa [hstate] using hf)).elim
  | linkDown => exact (silent (linkDownPass_silent r packet i) (by simpa [hstate] using hf)).elim
  | waitSyncClocks =>
    exact (silent (waitSyncClocksPass_silent r packet i) (by simpa [hstate] using hf)).elim
  | waitZeroAcks =>
    exact (silent (waitZeroAcksPass_silent r packet i) (by simpa [hstate] using hf)).elim
  | waitTxZeroAcksDone =>
    simp only [hstate] at hf
    split at hf <;> cases hf
  | waitTxFindPartnerDone => simp [hstate,waitTxDonePass] at hf
  | waitTxSyncClocksDone => simp [hstate,waitTxDonePass] at hf
  | linkUpWaitTxDone => simp [hstate,waitTxDonePass] at hf

theorem sender_lawful (maxResends : UInt8) : (sender maxResends).Lawful where
  once r t := by
    cases t with
    | command => exact Nat.zero_le 1
    | pass packet i => exact Option.length_toList_le
  awaits r t h := by
    cases t with
    | command => cases h
    | pass packet i => exact (of_decide_eq_true h).2.2.2.2.1
  transmits r t h hack := by
    cases t with
    | command => exact absurd rfl h
    | pass packet i =>
      cases hair : (updateRadioState r packet { i with maxResends }).onAir with
      | none => exact absurd (by simp [sender,Radio.messages,hair]) h
      | some f =>
        have hm : f.message = true := by
          by_contra hno
          exact h (by simp [sender,Radio.messages,hair,hno])
        have hexpires : r.ackExpires (.pass packet { i with maxResends }) = true :=
          updateRadioState_expires hack hair hm
        exact hexpires

/-- The timeout behind the last resend finds frameSentCount at the limit, or the
link breaks in the same pass before the message is sent beyond it. -/
def CounterReached (maxResends : UInt8) (w : Watched Radio) : Turn → Prop
  | .pass packet i => (sender maxResends).exhausts maxResends.toNat w (.pass packet i) = true →
      maxResends ≤ w.state.tx.frameSentCount ∨
        i.linkTimeout = true ∧ (w.sent ≤ maxResends.toNat ∨ i.transmit.onAir = false)
  | .command => True

instance (maxResends : UInt8) (w : Watched Radio) :
    (t : Turn) → Decidable (CounterReached maxResends w t)
  | .pass _ _ => inferInstanceAs (Decidable (_ → _))
  | .command => inferInstanceAs (Decidable True)

/-- What a pass comes to at an expired ACK timeout. -/
theorem expired_pass {r : Radio} {packet : Option Reception} {i : Inputs}
    (h : r.ackExpires (.pass packet i) = true) (maxResends : UInt8) :
    updateRadioState r packet { i with maxResends } =
      if i.linkTimeout then breakLink (linkUpRetransmit r { i with maxResends })
      else linkUpRetransmit r { i with maxResends } := by
  obtain ⟨hstate,rfl,hidle,hheartbeat,hack,hretransmit,-⟩ := of_decide_eq_true h
  simp [updateRadioState,hstate,linkUpPass,linkUpTransmit,hidle,hheartbeat,hack,hretransmit]

theorem linkUpRetransmit_gives_up {r : Radio} {i : Inputs} (hlimit : i.maxResends ≠ 0)
    (h : i.maxResends ≤ r.tx.frameSentCount) :
    linkUpRetransmit r i = breakLink { radio := r } := by
  unfold linkUpRetransmit
  rw [if_neg (by simp [hlimit,h])]

/-- RESTORE_TX_BUFFER brings back the kept frame and its old count. -/
theorem linkUpRetransmit_resends {r : Radio} {i : Inputs} (hstate : r.radioState = .linkUp)
    (hm : r.rexmt.frame.message = true) (h : r.tx.frameSentCount < i.maxResends) :
    (linkUpRetransmit r i).radio.radioState ≠ .reset ∧
      (linkUpRetransmit r i).onAir = if i.transmit.onAir then some r.rexmt.frame else none := by
  have hkept : r.rexmt.control.datagramType ≠ .heartbeat := by
    intro ht
    have hno : r.rexmt.frame.message = false := by simp [Frame.message,TxBuffer.frame,ht,
      DatagramType.sequenced]
    rw [hno] at hm
    cases hm
  have hpass : linkUpRetransmit r i =
      { (retransmitDatagram r.restoreTxBuffer i).enter .linkUpWaitTxDone with
        radio := ((retransmitDatagram r.restoreTxBuffer i).enter
          .linkUpWaitTxDone).radio.startAckTimer } := by
    unfold linkUpRetransmit
    rw [if_pos (.inr h)]
    dsimp only
    rw [if_neg (by exact hkept)]
  rw [hpass]
  refine ⟨?_,rfl⟩
  have hsend := (retransmitDatagram_sends r.restoreTxBuffer i).enter_state .linkUpWaitTxDone
  rcases hsend with hs | hs
  · exact fun he => by cases hs.symm.trans he
  · exact fun he => by cases hstate.symm.trans (hs.symm.trans he)

/-- With the resends used up, the counter decides. -/
theorem stops_iff {maxResends : UInt8} (hlimit : maxResends ≠ 0) {w : Watched Radio} (t : Turn)
    (hw : Counted maxResends.toNat w) :
    (sender maxResends).Stops maxResends.toNat w t ↔ CounterReached maxResends w t := by
  cases t with
  | command => exact iff_of_true (fun h => by cases h) trivial
  | pass packet i =>
    refine imp_congr_right fun hx => ?_
    have hexp : w.state.ackExpires (.pass packet i) = true := by
      rw [Sender.exhausts,Bool.and_eq_true] at hx
      exact hx.1
    have hpass := expired_pass hexp maxResends
    obtain ⟨hstate,-,-,-,-,-,hm⟩ := of_decide_eq_true hexp
    have hgive : (sender maxResends).givesUp w.state (.pass packet i) = decide
        ((updateRadioState w.state packet { i with maxResends }).radio.radioState = .reset) := rfl
    have hsent : (sender maxResends).transmissions w.state (.pass packet i) =
        ((updateRadioState w.state packet { i with maxResends }).onAir.filter
          Frame.message).toList.length := rfl
    rw [hgive,hsent,hpass,decide_eq_true_eq]
    by_cases hcount : maxResends ≤ w.state.tx.frameSentCount
    · rw [linkUpRetransmit_gives_up (i := { i with maxResends }) hlimit hcount]
      refine iff_of_true ⟨?_,?_⟩ (.inl hcount)
      · split <;> rfl
      · have hnone : (if i.linkTimeout = true then breakLink (breakLink { radio := w.state })
            else breakLink { radio := w.state }).onAir = none := by
          split <;> rfl
        rw [hnone]
        exact hw.sent
    · obtain ⟨hkeeps,hair⟩ := linkUpRetransmit_resends (i := { i with maxResends }) hstate hm
        (UInt8.not_le.mp hcount)
      generalize linkUpRetransmit w.state { i with maxResends } = p at hkeeps hair
      have hlength : (p.onAir.filter Frame.message).toList.length =
          if i.transmit.onAir then 1 else 0 := by
        rw [hair]
        cases i.transmit.onAir <;> simp [hm]
      have hbound := hw.sent
      cases i.linkTimeout with
      | false => simp [hkeeps,hcount]
      | true =>
        have hbreak : (breakLink p).onAir = p.onAir := rfl
        have hreset : (breakLink p).radio.radioState = .reset := rfl
        simp only [if_true,hreset,hbreak,hlength,hcount,true_and,false_or]
        cases i.transmit.onAir with
        | false => simpa using hbound
        | true => simp

end LoRaSerial.P2P
