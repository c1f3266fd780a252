import LoRaSerial.P2P.Delivery
import LoRaSerial.P2P.Resends
import LoRaSerial.VC.ServerLink

namespace LoRaSerial.VC
open Resending Runs

def Event.setMaxResends (maxResends : UInt8) : Event → Event
  | .pass packet i => .pass packet { i with maxResends }
  | e => e

/-- The pass comes to an expired ACK timeout, the kept frame being sequenced. -/
def Radio.ackExpires (r : Radio) : Event → Bool
  | .pass packet i => decide (r.atLinkCheck = false ∧ r.radioState = .waitReceive ∧
      packet = none ∧ i.receiveInProcess = false ∧ i.heartbeatTimeout = false ∧
      r.ackTimer = true ∧ i.retransmitTimeout = true ∧ r.rexmt.frame.sequenced = true)
  | _ => false

def Radio.sequencedOnAir (r : Radio) : Nat := (r.onAir.filter Frame.sequenced).length

/-- The circuit that the kept frame is for, if it is for one that can break, is
down after the step. -/
def Radio.LinkBroken (r r' : Radio) : Prop :=
  ∀ v, r.rexmtTxDestVc = VcAddress.ofNumber v → r.rexmtTxDestVc ≠ r.myVc →
    (r'.virtualCircuitList v).vcState = .linkDown

instance (r r' : Radio) : Decidable (r.LinkBroken r') :=
  inferInstanceAs (Decidable (∀ _,_ → _ → _))

/-- The radio as a sender that repeats its sequenced frames. -/
def sender (maxResends : UInt8) : Sender Radio Event where
  step r e := step r (e.setMaxResends maxResends)
  awaits r := r.ackTimer
  spent r := decide (maxResends ≤ r.rexmt.frameSentCount)
  expires := Radio.ackExpires
  transmissions r e := (step r (e.setMaxResends maxResends)).sequencedOnAir - r.sequencedOnAir
  givesUp r e := decide (r.LinkBroken (step r (e.setMaxResends maxResends)))

/-- A DATA or command frame that awaits its ACK is for another circuit; only a
response may be for a radio without one. -/
def Radio.ForCircuit (r : Radio) : Prop :=
  r.ackTimer = true → r.rexmt.frame.control.datagramType ≠ .remoteCommandResponse →
    ∃ v, r.rexmtTxDestVc = VcAddress.ofNumber v ∧ r.rexmtTxDestVc ≠ r.myVc

/-- Host messages wait only at a radio that has an address, so that no frame
with one is for a circuit that becomes the own. -/
structure Radio.Addressed (r : Radio) : Prop where
  waiting : r.radioTxBuffer ≠ [] → r.myVc ≠ vcUnassigned
  forCircuit : r.ForCircuit
  kept : r.ackTimer = true → r.rexmt.frame.control.datagramType ≠ .remoteCommandResponse →
    r.myVc ≠ vcUnassigned

theorem Steady.addressed {r r' : Radio} (h : Steady r r') (hr : r.Addressed) : r'.Addressed where
  waiting hbuf := by
    obtain ⟨m,hm⟩ := List.exists_mem_of_ne_nil _ hbuf
    have hmy := hr.waiting (List.ne_nil_of_mem (h.radioTxBuffer m hm))
    rwa [h.myVc hmy]
  forCircuit hack ht := by
    rw [h.rexmt] at ht
    obtain ⟨v,hv,hne⟩ := hr.forCircuit (h.ackTimer hack) ht
    exact ⟨v,h.rexmtTxDestVc.trans hv,by
      rwa [h.rexmtTxDestVc,h.myVc (hr.kept (h.ackTimer hack) ht)]⟩
  kept hack ht := by
    rw [h.rexmt] at ht
    have hmy := hr.kept (h.ackTimer hack) ht
    rwa [h.myVc hmy]

/-- A new frame is kept. -/
structure Starts (r r' : Radio) : Prop where
  idle : r.ackTimer = false
  myVc : r.myVc ≠ vcUnassigned → r'.myVc = r.myVc
  radioTxBuffer : ∀ m ∈ r'.radioTxBuffer, m ∈ r.radioTxBuffer
  sequencedOnAir : r'.sequencedOnAir ≤ r.sequencedOnAir + 1
  forCircuit : r'.rexmt.frame.control.datagramType ≠ .remoteCommandResponse →
    r.radioTxBuffer ≠ [] ∧ ∃ v, r'.rexmtTxDestVc = VcAddress.ofNumber v ∧
      (r.myVc ≠ vcUnassigned → r'.rexmtTxDestVc ≠ r.myVc)

/-- The kept frame is sent again and counted. -/
structure Resends (r r' : Radio) : Prop where
  awaits : r.ackTimer = true
  rexmt : r'.rexmt = { r.rexmt with frameSentCount := r.rexmt.frameSentCount + 1 }
  rexmtTxDestVc : r'.rexmtTxDestVc = r.rexmtTxDestVc
  myVc : r'.myVc = r.myVc
  radioTxBuffer : r'.radioTxBuffer = r.radioTxBuffer
  onAir : r'.onAir = r.onAir ∨ r'.onAir = r.onAir ++ [r.rexmt.frame]

/-- Everything a step with a limit can do. -/
inductive Turned (maxResends : UInt8) (r : Radio) (e : Event) (r' : Radio) : Prop
  | steady (h : Steady r r')
      (hexpired : r.ackExpires e = true → r'.ackTimer = true →
        maxResends ≤ r.rexmt.frameSentCount)
  | reset (hidle : r'.ackTimer = false) (hempty : r'.radioTxBuffer = [])
      (hair : r'.sequencedOnAir = r.sequencedOnAir)
  | start (h : Starts r r')
  | resend (h : Resends r r') (hcount : r.rexmt.frameSentCount < maxResends)
      (hexpired : r.rexmt.frame.sequenced = true → r.ackExpires e = true)
  | host (ms : List Datagram) (h : Steady (r.setRadioTxBuffer ms) r') (hmy : r.myVc ≠ vcUnassigned)
      (hexpired : r.ackExpires e = false)

theorem Starts.addressed {r r' : Radio} (h : Starts r r') (hr : r.Addressed) :
    r'.Addressed where
  waiting hbuf := by
    obtain ⟨m,hm⟩ := List.exists_mem_of_ne_nil _ hbuf
    have hmy := hr.waiting (List.ne_nil_of_mem (h.radioTxBuffer m hm))
    rwa [h.myVc hmy]
  forCircuit _ ht := by
    obtain ⟨hbuf,v,hv,hne⟩ := h.forCircuit ht
    have hmy := hr.waiting hbuf
    exact ⟨v,hv,by rw [h.myVc hmy]; exact hne hmy⟩
  kept _ ht := by
    have hmy := hr.waiting (h.forCircuit ht).1
    rwa [h.myVc hmy]

theorem Resends.addressed {r r' : Radio} (h : Resends r r') (hr : r.Addressed) :
    r'.Addressed where
  waiting hbuf := by
    rw [h.radioTxBuffer] at hbuf
    rw [h.myVc]
    exact hr.waiting hbuf
  forCircuit _ ht := by
    rw [h.rexmt] at ht
    rw [h.rexmtTxDestVc,h.myVc]
    exact hr.forCircuit h.awaits ht
  kept _ ht := by
    rw [h.rexmt] at ht
    rw [h.myVc]
    exact hr.kept h.awaits ht

theorem Turned.addressed {maxResends : UInt8} {r r' : Radio} {e : Event}
    (h : Turned maxResends r e r') (hr : r.Addressed) : r'.Addressed := by
  cases h with
  | steady h _ => exact h.addressed hr
  | reset hidle hempty _ =>
    have hoff : ∀ {p : Prop}, r'.ackTimer = true → p := fun hon => by simp [hidle] at hon
    exact ⟨fun hbuf => absurd hempty hbuf,fun hon => hoff hon,fun hon => hoff hon⟩
  | start h => exact h.addressed hr
  | resend h _ _ => exact h.addressed hr
  | host ms h hmy _ =>
    have hms : (r.setRadioTxBuffer ms).Addressed := ⟨fun _ => hmy,hr.forCircuit,hr.kept⟩
    exact h.addressed hms

theorem Turned.checked {maxResends : UInt8} {r r' : Radio} {e : Event}
    (h : Turned maxResends r e r') : Turned maxResends r e (r'.setAtLinkCheck true) := by
  cases h with
  | steady h hexpired => exact .steady (h.trans (setAtLinkCheck_stays r' true).1) hexpired
  | reset hidle hempty hair => exact .reset hidle hempty hair
  | start h =>
    exact .start ⟨h.idle,h.myVc,h.radioTxBuffer,h.sequencedOnAir,h.forCircuit⟩
  | resend h hcount hexpired =>
    exact .resend ⟨h.awaits,h.rexmt,h.rexmtTxDestVc,h.myVc,h.radioTxBuffer,h.onAir⟩ hcount hexpired
  | host ms h hmy hexpired =>
    exact .host ms (h.trans (setAtLinkCheck_stays r' true).1) hmy hexpired

theorem Steady.sequencedOnAir {r r' : Radio} (h : Steady r r') :
    r'.sequencedOnAir = r.sequencedOnAir :=
  congrArg List.length h.onAir

theorem sequencedOnAir_append {r r' : Radio} {f : Frame}
    (h : r'.onAir = r.onAir ∨ r'.onAir = r.onAir ++ [f]) :
    r'.sequencedOnAir ≤ r.sequencedOnAir + f.sequenced.toNat := by
  unfold Radio.sequencedOnAir
  rcases h with h | h
  · rw [h]
    exact Nat.le_add_right _ _
  · rw [h,List.filter_append,List.length_append]
    cases hf : f.sequenced <;> simp [hf]

/-- What a transmit attempt leaves in outgoingPacket, and what it leaves alone. -/
structure Attempted (r : Radio) (t : DatagramType) (d : Datagram) (q : Radio) : Prop where
  myVc : q.myVc = r.myVc
  radioTxBuffer : q.radioTxBuffer = r.radioTxBuffer
  txDestVc : q.txDestVc = d.destVc
  frame : q.tx.frame = r.builtFrame t d
  onAir : q.onAir = r.onAir ∨ q.onAir = r.onAir ++ [r.builtFrame t d]

theorem xmit_attempted (r : Radio) (t : DatagramType) (d : Datagram) (i : Inputs)
    (s : RadioState) : Attempted r t d (enter (transmitDatagram r t d i) s) := by
  have hsent : Attempted r t d (transmitDatagram r t d i).1 := by
    have hair := transmitDatagram_onAir r t d i
    revert hair
    unfold transmitDatagram retransmitDatagram
    dsimp only
    split
    · exact fun hair => ⟨rfl,rfl,rfl,rfl,hair⟩
    · refine fun hair => ⟨rfl,rfl,rfl,?_,hair⟩
      unfold Radio.startTransmit
      dsimp only
      split <;> rfl
  unfold enter
  split
  · exact ⟨hsent.myVc,hsent.radioTxBuffer,hsent.txDestVc,hsent.frame,hsent.onAir⟩
  · exact hsent

/-- START_ACK_TIMER and SAVE_TX_BUFFER behind a transmit attempt. -/
theorem xmit_starts {r s : Radio} (hidle : r.ackTimer = false) (h : Stays r s)
    (t : DatagramType) (d : Datagram) (i : Inputs)
    (hdest : t ≠ .remoteCommandResponse → r.radioTxBuffer ≠ [] ∧
      ∃ v, d.destVc = VcAddress.ofNumber v ∧ d.destVc ≠ s.myVc) :
    Starts r (enter (transmitDatagram s t d i) .waitTxDone).awaitAck := by
  have hq := xmit_attempted s t d i .waitTxDone
  generalize enter (transmitDatagram s t d i) .waitTxDone = q at hq
  refine ⟨hidle,fun hmy => hq.myVc.trans (h.myVc hmy),fun m hm => ?_,?_,fun ht => ?_⟩
  · exact h.radioTxBuffer m (hq.radioTxBuffer ▸ hm)
  · change q.sequencedOnAir ≤ _
    have hle := sequencedOnAir_append hq.onAir
    have hone := Bool.toNat_le (s.builtFrame t d).sequenced
    have hsame := h.sequencedOnAir
    omega
  · change q.tx.frame.control.datagramType ≠ .remoteCommandResponse at ht
    rw [hq.frame] at ht
    obtain ⟨hbuf,v,hv,hne⟩ := hdest ht
    refine ⟨hbuf,v,hq.txDestVc.trans hv,fun hmy => ?_⟩
    change q.txDestVc ≠ _
    rw [hq.txDestVc,← h.myVc hmy]
    exact hne

/-- With the count at the limit the frame is not sent again, and an expired
timeout breaks the link. -/
theorem waitReceiveRetransmit_gives_up {r : Radio} {i : Inputs} (hlimit : i.maxResends ≠ 0)
    (hcount : i.maxResends ≤ r.rexmt.frameSentCount) :
    Stays r (waitReceiveRetransmit r i) ∧
      (i.retransmitTimeout = true → r.LinkBroken (waitReceiveRetransmit r i)) := by
  have hdest := (setTxDestVc_stays r r.rexmtTxDestVc).trans
    (touch_stays _ (.entry r.rexmtTxDestVc.number))
  unfold waitReceiveRetransmit
  dsimp only
  split
  next hdown =>
    refine ⟨hdest.trans (stopAckTimer_stays _),fun _ v hv hne => ?_⟩
    have hnumber : (r.setTxDestVc r.rexmtTxDestVc).txDestVc.number = v := by
      change r.rexmtTxDestVc.number = v
      rw [hv,VcAddress.number_ofNumber]
    exact hnumber ▸ hdown.2
  split
  · rw [if_neg (by
      change ¬ (i.maxResends = 0 ∨ r.rexmt.frameSentCount < i.maxResends)
      simp [hlimit,hcount])]
    refine ⟨(hdest.trans (touch_stays _ _)).trans (vcBreakLink_stays _ _),fun _ v hv hne => ?_⟩
    change ((vcBreakLink (((r.setTxDestVc r.rexmtTxDestVc).touch
      (.entry r.rexmtTxDestVc.number)).touch .uninitialised) r.rexmtTxDestVc).virtualCircuitList
      v).vcState = .linkDown
    rw [hv]
    exact vcBreakLink_down _ (hv ▸ hne)
  next hwait => exact ⟨hdest,fun h => absurd h hwait⟩

theorem restore_resends {r u : Radio} (hack : r.ackTimer = true) (hu : u.steady = r.steady)
    (i : Inputs) :
    Resends r (enter (retransmitDatagram u.restoreTxBuffer i) .waitTxDone).startAckTimer := by
  simp only [Radio.steady,Prod.mk.injEq] at hu
  obtain ⟨-,hrexmt,hdest,hmy,hbuf,hair⟩ := hu
  have hsent : Resends r (retransmitDatagram u.restoreTxBuffer i).1 := by
    have honAir := retransmitDatagram_onAir u.restoreTxBuffer i
    revert honAir
    change (_ = u.onAir ∨ _ = u.onAir ++ [u.rexmt.frame]) → _
    rw [hair,hrexmt]
    have hcounted : u.restoreTxBuffer.rexmt =
        { r.rexmt with frameSentCount := r.rexmt.frameSentCount + 1 } := by
      rw [← hrexmt]
      rfl
    unfold retransmitDatagram
    dsimp only
    split
    · exact fun honAir => ⟨hack,hcounted,hdest,hmy,hbuf,honAir⟩
    · exact fun honAir => ⟨hack,hcounted,hdest,hmy,hbuf,honAir⟩
  unfold enter
  split
  · exact ⟨hack,hsent.rexmt,hsent.rexmtTxDestVc,hsent.myVc,hsent.radioTxBuffer,hsent.onAir⟩
  · exact ⟨hack,hsent.rexmt,hsent.rexmtTxDestVc,hsent.myVc,hsent.radioTxBuffer,hsent.onAir⟩

/-- With the count below the limit the frame is sent again, unless its circuit
is down already. -/
theorem waitReceiveRetransmit_resends {r : Radio} {i : Inputs} (hack : r.ackTimer = true)
    (hcount : r.rexmt.frameSentCount < i.maxResends) :
    Stays r (waitReceiveRetransmit r i) ∧
        (i.retransmitTimeout = true → (waitReceiveRetransmit r i).ackTimer = false) ∨
      Resends r (waitReceiveRetransmit r i) ∧ i.retransmitTimeout = true := by
  have hdest := (setTxDestVc_stays r r.rexmtTxDestVc).trans
    (touch_stays _ (.entry r.rexmtTxDestVc.number))
  unfold waitReceiveRetransmit
  dsimp only
  split
  · exact .inl ⟨hdest.trans (stopAckTimer_stays _),fun _ => rfl⟩
  split
  next hexpired =>
    rw [if_pos (.inr hcount)]
    refine .inr ⟨?_,hexpired⟩
    apply restore_resends hack
    split <;> rfl
  next hwait => exact .inl ⟨hdest,fun h => absurd h hwait⟩

/-- A message readied for transmission comes from radioTxBuffer, and one for the
data channel is not for the own circuit. -/
theorem vcSerialMessageReceived_some {r s : Radio} {i : Inputs} {m : Datagram}
    (h : vcSerialMessageReceived r i = (s,some m)) : r.radioTxBuffer ≠ [] ∧
      (m.destVc ≠ vcBroadcast → m.destVc.channel = 0 →
        VcAddress.ofNumber m.destVc.number ≠ s.myVc) := by
  unfold vcSerialMessageReceived at h
  split at h
  · cases h
  next n rest hbuf =>
    refine ⟨by simp [hbuf],?_⟩
    dsimp only at h
    split at h
    · cases h
    split at h
    · split at h <;> cases h
    generalize (if n.destVc = vcBroadcast then r.setRadioTxBuffer rest else
      (r.setRadioTxBuffer rest).touch (.entry n.destVc.number)) = t at h
    split at h
    · cases h
    split at h
    · cases h
    next hother =>
      simp only [Prod.mk.injEq,Option.some.injEq] at h
      obtain ⟨rfl,rfl⟩ := h
      exact fun hb hc hown => hother ⟨hb,hown,hc⟩

/-- A data or command message for another circuit starts the ACK timer. -/
theorem waitReceiveMessage_turned {r s : Radio} (hidle : r.ackTimer = false) (h : Stays r s)
    (hbuf : r.radioTxBuffer ≠ []) {m : Datagram}
    (hm : m.destVc ≠ vcBroadcast → m.destVc.channel = 0 →
      VcAddress.ofNumber m.destVc.number ≠ s.myVc) (i : Inputs) :
    Stays r (waitReceiveMessage s m i) ∨ Starts r (waitReceiveMessage s m i) := by
  unfold waitReceiveMessage
  split
  · exact .inl (h.trans (xmit_stays s _ _ i))
  next hb =>
    split
    next hchannel =>
      refine .inr (xmit_starts hidle h _ _ i fun _ => ⟨hbuf,m.destVc.number,?_⟩)
      have hsmall : m.destVc.toNat < maxVc := by
        simp only [VcAddress.channel,maxVc] at hchannel ⊢
        omega
      rw [atFront_destVc,VcAddress.ofNumber_number hsmall]
      exact ⟨rfl,VcAddress.ofNumber_number hsmall ▸ hm hb hchannel⟩
    split
    · split
      · exact .inl (h.trans ((setUnsent_stays s none).trans (checkRemoteCommand_stays _ _)))
      next hother =>
        exact .inr (xmit_starts hidle h _ _ i fun _ => ⟨hbuf,m.destVc.number,rfl,hother⟩)
    · exact .inl (h.trans (setUnsent_stays s _))

theorem waitReceiveTransmit_turned {maxResends : UInt8} (hlimit : maxResends ≠ 0) {r : Radio}
    {e : Event} {i : Inputs}
    (he : r.ackExpires e = true ↔ i.heartbeatTimeout = false ∧ r.ackTimer = true ∧
      i.retransmitTimeout = true ∧ r.rexmt.frame.sequenced = true) :
    Turned maxResends r e (waitReceiveTransmit r { i with maxResends }) := by
  unfold waitReceiveTransmit
  split
  next hheartbeat =>
    have hsent : Stays r (xmitVcHeartbeat r r.myVc r.myUniqueId { i with maxResends }).1 :=
      transmitDatagram_stays r _ _ _
    refine .steady ?_ fun hx => absurd (he.mp hx).1 (by simpa using hheartbeat)
    dsimp only
    split
    · refine hsent.1.trans (Steady.trans ?_ (changeState_steady _ _))
      split
      · exact (refresh_stays _ _ _).1
      · exact .refl _
    · exact hsent.1
  next hheartbeat =>
    split
    next hack =>
      by_cases hcount : maxResends ≤ r.rexmt.frameSentCount
      · have hgive := waitReceiveRetransmit_gives_up (i := { i with maxResends }) hlimit hcount
        exact .steady hgive.1.1 fun _ _ => hcount
      · have hless := UInt8.not_le.mp hcount
        rcases waitReceiveRetransmit_resends (i := { i with maxResends }) hack hless with h | h
        · refine .steady h.1.1 fun hx hon => ?_
          have hoff := h.2 (he.mp hx).2.2.1
          rw [hoff] at hon
          cases hon
        · refine .resend h.1 hless fun hkept => he.mpr ⟨?_,hack,h.2,hkept⟩
          simpa using hheartbeat
    next hidle =>
      have hoff : r.ackExpires e = true → False := fun hx => hidle (he.mp hx).2.1
      have hfalse : r.ackTimer = false := by simpa using hidle
      split
      next packet =>
        exact .start (xmit_starts hfalse (.refl r) _ _ _ fun h => absurd rfl h)
      split
      · exact .steady (waitReceiveHandshake_stays r _).1 fun hx => (hoff hx).elim
      have hmessage := vcSerialMessageReceived_stays r { i with maxResends }
      cases hq : vcSerialMessageReceived r { i with maxResends } with
      | mk s m =>
        rw [hq] at hmessage
        cases m with
        | none => exact .steady hmessage.1 fun hx => (hoff hx).elim
        | some m =>
          obtain ⟨hbuf,hm⟩ := vcSerialMessageReceived_some hq
          rcases waitReceiveMessage_turned hfalse hmessage hbuf hm { i with maxResends } with h | h
          · exact .steady h.1 fun hx => (hoff hx).elim
          · exact .start h

theorem waitReceivePass_turned {maxResends : UInt8} (hlimit : maxResends ≠ 0) {r : Radio}
    (hcheck : r.atLinkCheck = false) (hstate : r.radioState = .waitReceive)
    (packet : Option Reception) (i : Inputs) :
    Turned maxResends r (.pass packet i) (waitReceivePass r packet { i with maxResends }) := by
  unfold waitReceivePass
  refine Turned.checked ?_
  cases packet with
  | some p =>
    refine .steady (waitReceiveFrame_stays r p _).1 fun hx => ?_
    simp [Radio.ackExpires] at hx
  | none =>
    change Turned maxResends r (.pass none i) (if i.receiveInProcess = true then r
      else waitReceiveTransmit r { i with maxResends })
    split
    next hbusy => exact .steady (.refl r) fun hx => by simp [Radio.ackExpires,hbusy] at hx
    next hidle =>
      refine waitReceiveTransmit_turned hlimit ?_
      simp [Radio.ackExpires,hcheck,hstate,hidle]

theorem resetPass_turned (maxResends : UInt8) (r : Radio) (e : Event) (i : Inputs) :
    Turned maxResends r e (resetPass r i) := by
  obtain ⟨s,a,hs,hsel⟩ := selectMyVc_stays (getTxTime r.clear i) i.server
  have hstart := (getTxTime_stays r.clear i).trans hs
  have hsent : Stays (s.setMyVc a) (xmitVcHeartbeat (s.setMyVc a) a s.myUniqueId i).1 :=
    transmitDatagram_stays _ _ _ i
  have hpass : resetPass r i = ((xmitVcHeartbeat (s.setMyVc a) a s.myUniqueId i).1).changeState
      .waitTxDone := by
    unfold resetPass
    rw [hsel]
    rfl
  rw [hpass]
  refine .reset ?_ ?_ ?_
  · refine Bool.eq_false_iff.mpr fun hon => ?_
    have hclear := hstart.ackTimer (hsent.ackTimer hon)
    cases hclear
  · refine List.eq_nil_iff_forall_not_mem.mpr fun m hm => ?_
    exact List.not_mem_nil (hstart.radioTxBuffer m (hsent.radioTxBuffer m hm))
  · exact hsent.sequencedOnAir.trans hstart.sequencedOnAir

theorem step_turned {maxResends : UInt8} (hlimit : maxResends ≠ 0) (r : Radio) (e : Event) :
    Turned maxResends r e (step r (e.setMaxResends maxResends)) := by
  have hquiet : ∀ {s : Radio}, Stays r s → r.ackExpires e = false → Turned maxResends r e s :=
    fun hs hx => .steady hs.1 fun hx' => by simp [hx] at hx'
  cases e with
  | pass packet i =>
    change Turned maxResends r _ (step r (.pass packet { i with maxResends }))
    rw [step_pass]
    split
    next hcheck =>
      unfold updateRadioState
      cases hstate : r.radioState with
      | reset => exact resetPass_turned maxResends r _ _
      | waitServer =>
        exact hquiet (waitServerPass_stays r packet _) (by simp [Radio.ackExpires,hstate])
      | waitTxDone =>
        refine .steady ?_ fun hx => by simp [Radio.ackExpires,hstate] at hx
        dsimp only
        unfold waitTxDonePass
        split
        · exact (touch_stays r _).1.trans (changeState_steady _ _)
        · exact .refl r
      | waitReceive => exact waitReceivePass_turned hlimit hcheck hstate packet i
    next hcheck =>
      exact hquiet (.refl r) (by simp [Radio.ackExpires,hcheck])
  | linkCheck now limit =>
    refine .steady ?_ fun hx => by cases hx
    change Steady r (step r (.linkCheck now limit))
    unfold step
    cases r.atLinkCheck with
    | true => exact (linkCheck_steady r now limit).trans (setAtLinkCheck_stays _ false).1
    | false => exact .refl r
  | command c =>
    refine hquiet ?_ rfl
    change Stays r (step r (.command c))
    unfold step
    cases r.atLinkCheck with
    | true => exact .refl r
    | false => exact checkCommand_stays r c
  | hostMessage destVc srcVc data =>
    change Turned maxResends r _ (step r (.hostMessage destVc srcVc data))
    unfold step
    cases r.atLinkCheck with
    | true => exact hquiet (.refl r) rfl
    | false =>
      dsimp only
      split
      · unfold hostMessage
        split
        · exact hquiet (.refl r) rfl
        next hmine =>
          split
          · exact hquiet (.refl r) rfl
          · exact .host _ (.refl _) (fun hmy => hmine (.inr hmy)) rfl
      · exact hquiet (.refl r) rfl

/-- A step sends at most one sequenced frame, and while an ACK is awaited only
at its expired timeout. -/
theorem Turned.sent {maxResends : UInt8} {r r' : Radio} {e : Event}
    (h : Turned maxResends r e r') : r'.sequencedOnAir ≤ r.sequencedOnAir + 1 ∧
      (r'.sequencedOnAir - r.sequencedOnAir ≠ 0 → r.ackTimer = true →
        r.ackExpires e = true) := by
  have hquiet : r'.sequencedOnAir = r.sequencedOnAir →
      r'.sequencedOnAir ≤ r.sequencedOnAir + 1 ∧
        (r'.sequencedOnAir - r.sequencedOnAir ≠ 0 → r.ackTimer = true →
          r.ackExpires e = true) := by
    intro hsame
    exact ⟨by omega,fun hne => absurd (by omega) hne⟩
  cases h with
  | steady h _ => exact hquiet h.sequencedOnAir
  | reset _ _ hair => exact hquiet hair
  | start h =>
    refine ⟨h.sequencedOnAir,fun _ hack => ?_⟩
    rw [h.idle] at hack
    cases hack
  | resend h _ hexpired =>
    have hle := sequencedOnAir_append h.onAir
    cases hf : r.rexmt.frame.sequenced with
    | true =>
      rw [hf] at hle
      exact ⟨hle,fun _ _ => hexpired hf⟩
    | false =>
      rw [hf] at hle
      exact ⟨Nat.le_succ_of_le hle,fun hne => absurd (Nat.sub_eq_zero_of_le hle) hne⟩
  | host ms h _ _ => exact hquiet h.sequencedOnAir

theorem sender_lawful {maxResends : UInt8} (hlimit : maxResends ≠ 0) :
    (sender maxResends).Lawful where
  once r e := by
    have hle := (step_turned hlimit r e).sent.1
    change Radio.sequencedOnAir _ - r.sequencedOnAir ≤ 1
    omega
  awaits r e h := by
    cases e with
    | pass packet i => exact (of_decide_eq_true h).2.2.2.2.2.1
    | linkCheck now limit => cases h
    | command c => cases h
    | hostMessage destVc srcVc data => cases h
  transmits r e := (step_turned hlimit r e).sent.2

/-- The count of the kept frame follows the resends up to the limit. -/
structure Followed (maxResends : UInt8) (w : Watched Radio) : Prop
    extends Counted maxResends.toNat w where
  addressed : w.state.Addressed
  count : w.state.ackTimer = true → w.resends ≤ w.state.rexmt.frameSentCount.toNat ∨
    maxResends ≤ w.state.rexmt.frameSentCount

/-- At the timeout behind the last resend the count has reached the limit. -/
theorem Followed.stops {maxResends : UInt8} (hlimit : maxResends ≠ 0) {w : Watched Radio}
    (hw : Followed maxResends w) (e : Event) :
    (sender maxResends).Stops maxResends.toNat w e := by
  intro hx
  rw [Sender.exhausts,Bool.and_eq_true,Bool.or_eq_true,decide_eq_true_eq] at hx
  obtain ⟨hexpired,hused⟩ := hx
  cases e with
  | linkCheck now limit => cases hexpired
  | command c => cases hexpired
  | hostMessage destVc srcVc data => cases hexpired
  | pass packet i =>
    obtain ⟨hcheck,hstate,rfl,hidle,hheartbeat,hack,htimeout,-⟩ := of_decide_eq_true hexpired
    have hcount : maxResends ≤ w.state.rexmt.frameSentCount := by
      rcases hused with hused | hspent
      · rcases hw.count hack with h | h
        · exact UInt8.le_iff_toNat_le.mpr (hused.trans h)
        · exact h
      · exact of_decide_eq_true hspent
    have hstep : step w.state (.pass none { i with maxResends }) =
        (waitReceiveRetransmit w.state { i with maxResends }).setAtLinkCheck true := by
      simp [step_pass,hcheck,updateRadioState,hstate,waitReceivePass,hidle,waitReceiveTransmit,
        hheartbeat,hack]
    obtain ⟨hstays,hbroken⟩ := waitReceiveRetransmit_gives_up (i := { i with maxResends })
      hlimit hcount
    have hsame : (step w.state (.pass none { i with maxResends })).sequencedOnAir =
        w.state.sequencedOnAir := by
      rw [hstep]
      exact hstays.sequencedOnAir
    refine ⟨decide_eq_true ?_,?_⟩
    · change w.state.LinkBroken (step w.state (.pass none { i with maxResends }))
      rw [hstep]
      exact hbroken htimeout
    · change w.sent + ((step w.state (.pass none { i with maxResends })).sequencedOnAir -
        w.state.sequencedOnAir) ≤ _
      rw [hsame,Nat.sub_self]
      exact hw.sent

theorem next_followed {maxResends : UInt8} (hlimit : maxResends ≠ 0) {w : Watched Radio}
    (hw : Followed maxResends w) (e : Event) :
    Followed maxResends ((sender maxResends).next maxResends.toNat w e) := by
  have hturned := step_turned hlimit w.state e
  refine ⟨next_counted (sender_lawful hlimit) hw.toCounted (hw.stops hlimit e),
    hturned.addressed hw.addressed,fun hon => ?_⟩
  have hresends : ((sender maxResends).next maxResends.toNat w e).resends =
      (if w.state.ackTimer then w.resends else 0) +
        if w.state.ackExpires e then 1 else 0 := rfl
  change (step w.state (e.setMaxResends maxResends)).ackTimer = true at hon
  change _ ≤ (step w.state (e.setMaxResends maxResends)).rexmt.frameSentCount.toNat ∨
    maxResends ≤ (step w.state (e.setMaxResends maxResends)).rexmt.frameSentCount
  rw [hresends]
  generalize step w.state (e.setMaxResends maxResends) = r' at hturned hon
  -- a frame that was kept before the step
  have hkept : w.state.ackTimer = true → r'.rexmt = w.state.rexmt →
      (w.state.ackExpires e = true → maxResends ≤ w.state.rexmt.frameSentCount) →
      (if w.state.ackTimer then w.resends else 0) + (if w.state.ackExpires e then 1 else 0) ≤
        r'.rexmt.frameSentCount.toNat ∨ maxResends ≤ r'.rexmt.frameSentCount := by
    intro hack hrexmt hexpired
    rw [hrexmt,if_pos hack]
    by_cases hx : w.state.ackExpires e = true
    · exact .inr (hexpired hx)
    · rw [if_neg hx]
      exact hw.count hack
  cases hturned with
  | steady h hexpired => exact hkept (h.ackTimer hon) h.rexmt fun hx => hexpired hx hon
  | reset hidle _ _ =>
    rw [hidle] at hon
    cases hon
  | start h =>
    have hnot : ¬ w.state.ackExpires e = true := by
      intro hx
      have hack := (sender_lawful hlimit).awaits w.state e hx
      change w.state.ackTimer = true at hack
      rw [h.idle] at hack
      cases hack
    simp [h.idle,hnot]
  | resend h hcount _ =>
    rw [h.rexmt,if_pos h.awaits]
    have hlt := UInt8.lt_iff_toNat_lt.mp hcount
    have hmax := maxResends.toNat_lt
    have hadd : (w.state.rexmt.frameSentCount + 1).toNat =
        w.state.rexmt.frameSentCount.toNat + 1 := by
      rw [UInt8.toNat_add]
      exact Nat.mod_eq_of_lt (by simp; omega)
    dsimp only
    rcases hw.count h.awaits with hle | hle
    · rw [hadd]
      left
      split <;> omega
    · exact absurd hcount (UInt8.not_lt.mpr hle)
  | host ms h _ hexpired =>
    exact hkept (h.ackTimer hon) h.rexmt fun hx => by simp [hexpired] at hx

theorem start_followed {maxResends : UInt8} {r : Radio} (hidle : r.ackTimer = false)
    (hbuf : r.radioTxBuffer = []) : Followed maxResends (.start r) where
  toCounted := Watched.start_counted r
  addressed := by
    have hoff : ∀ {p : Prop}, r.ackTimer = true → p := fun hon => by simp [hidle] at hon
    exact ⟨fun hne => absurd hbuf hne,fun hon => hoff hon,fun hon => hoff hon⟩
  count _ := .inl (Nat.zero_le _)

/-- Virtual circuits keep the limit in every run, and what they repeat is for a
circuit that they can break. Point-to-point keeps it exactly as long as
frameSentCount has grown to the limit when it is used up. -/
theorem retransmission_limit_iff {maxResends : UInt8} (hlimit : maxResends ≠ 0) :
    (∀ (r : P2P.Radio) (es : List P2P.Turn),
      Always ((P2P.sender maxResends).next maxResends.toNat) (Limited maxResends.toNat)
          (.start r) es ↔
        Along ((P2P.sender maxResends).next maxResends.toNat) (P2P.CounterReached maxResends)
          (.start r) es) ∧
    ∀ (r : Radio) (es : List Event), r.ackTimer = false → r.radioTxBuffer = [] →
      Always ((sender maxResends).next maxResends.toNat)
        (fun w => Limited maxResends.toNat w ∧ w.state.ForCircuit) (.start r) es := by
  constructor
  · intro r es
    exact always_limited_iff (P2P.sender_lawful maxResends) (fun w t => P2P.stops_iff hlimit t) r es
  · intro r es hidle hbuf fs _
    have hstep : ∀ w e, Followed maxResends w → True →
        Followed maxResends ((sender maxResends).next maxResends.toNat w e) :=
      fun w e hw _ => next_followed hlimit hw e
    have hfollowed := invariant hstep (start_followed hidle hbuf) (along_true _ _ fs)
    exact ⟨hfollowed.toLimited,hfollowed.addressed.forCircuit⟩

/-- A point-to-point radio comes up and sends one byte. -/
def sendByte : List P2P.Turn :=
  [.pass none .idle,.pass (some (.frame ⟨⟨.findPartner,0,false,false⟩,[0,0,0,0]⟩)) .idle,
    .pass (some (.damaged .bad)) .idle,
    .pass (some (.frame ⟨⟨.zeroAcks,0,false,false⟩,[0,0,0,0]⟩)) .idle,
    .pass none { P2P.Inputs.idle with availableRadioTXBytes := true, serialPacket := some [0x41] },
    .pass (some (.damaged .bad)) .idle]

/-- The ACK timeout expires, and what is sent then goes out. -/
def ackTimeout : List P2P.Turn :=
  [.pass none { P2P.Inputs.idle with retransmitTimeout := true },.pass (some (.damaged .bad)) .idle]

theorem retransmission_limit_two :
    Always ((P2P.sender 2).next 2) (Limited 2) (.start .powerUp)
        (sendByte ++ ackTimeout ++ ackTimeout) ∧
      Always ((sender 2).next 2) (fun w => Limited 2 w ∧ w.state.ForCircuit) (.start .powerUp)
        (connectFirst ++ sendFirst) :=
  ⟨((retransmission_limit_iff (by decide : (2 : UInt8) ≠ 0)).1 .powerUp _).mpr (by decide +kernel),
    (retransmission_limit_iff (by decide : (2 : UInt8) ≠ 0)).2 .powerUp _ rfl rfl⟩

/-- RESTORE_TX_BUFFER brings the count back to one, so that the fourth expired
timeout finds it below the limit of three, as will every later one. -/
theorem resends_without_limit :
    (run ((P2P.sender 3).next 3) (.start .powerUp)
      (sendByte ++ ackTimeout ++ ackTimeout ++ ackTimeout ++ ackTimeout)).sent = 5 ∧
    (run ((P2P.sender 3).next 3) (.start .powerUp)
      (sendByte ++ ackTimeout ++ ackTimeout ++ ackTimeout ++ ackTimeout)).state.radioState =
        .linkUp ∧
    ¬ Always ((P2P.sender 3).next 3) (Limited 3) (.start .powerUp)
      (sendByte ++ ackTimeout ++ ackTimeout ++ ackTimeout ++ ackTimeout) := by
  have hlost : ¬ Limited 3 (run ((P2P.sender 3).next 3) (.start .powerUp)
      (sendByte ++ ackTimeout ++ ackTimeout ++ ackTimeout ++ ackTimeout)) := by
    decide +kernel
  exact ⟨by decide +kernel,by decide +kernel,fun h => hlost (h _ List.prefix_rfl)⟩

end LoRaSerial.VC
