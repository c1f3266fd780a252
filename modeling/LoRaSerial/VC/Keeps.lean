import LoRaSerial.VC.Radio

namespace LoRaSerial.VC
open P2P (Damage)

/-- The outstanding frame, its timer and the reports are left alone, and no
circuit goes down. -/
structure Undisturbed (r r' : Radio) : Prop where
  up : ∀ v, (r.virtualCircuitList v).vcState ≠ .linkDown →
    (r'.virtualCircuitList v).vcState ≠ .linkDown
  ackTimer : r'.ackTimer = r.ackTimer
  rexmt : r'.rexmt.frame = r.rexmt.frame
  rexmtTxDestVc : r'.rexmtTxDestVc = r.rexmtTxDestVc
  printToRf : r'.printToRf = r.printToRf
  history : r'.history = r.history

/-- The numbers and the delivered data are left alone as well, and nothing is
added to the messages that wait. -/
structure Retains (r r' : Radio) : Prop extends Undisturbed r r' where
  numbers : ∀ v, (r'.virtualCircuitList v).numbers = (r.virtualCircuitList v).numbers
  delivered : r'.delivered = r.delivered
  datagramsSent : r.datagramsSent ≤ r'.datagramsSent
  radioTxBuffer : ∀ m ∈ r'.radioTxBuffer, m ∈ r.radioTxBuffer
  unsent : ∀ m ∈ r'.unsent, m ∈ r.unsent

/-- What most of a pass does: no numbered frame goes on the air either. -/
structure Keeps (r r' : Radio) : Prop extends Retains r r' where
  onAir : r'.onAir.filter Frame.numbered = r.onAir.filter Frame.numbered

theorem Undisturbed.refl (r : Radio) : Undisturbed r r := by
  constructor <;> intros <;> trivial

theorem Undisturbed.trans {r s t : Radio} (h : Undisturbed r s) (k : Undisturbed s t) :
    Undisturbed r t where
  up v hv := k.up v (h.up v hv)
  ackTimer := k.ackTimer.trans h.ackTimer
  rexmt := k.rexmt.trans h.rexmt
  rexmtTxDestVc := k.rexmtTxDestVc.trans h.rexmtTxDestVc
  printToRf := k.printToRf.trans h.printToRf
  history := k.history.trans h.history

theorem Retains.trans {r s t : Radio} (h : Retains r s) (k : Retains s t) : Retains r t where
  toUndisturbed := h.toUndisturbed.trans k.toUndisturbed
  numbers v := (k.numbers v).trans (h.numbers v)
  delivered := k.delivered.trans h.delivered
  datagramsSent := h.datagramsSent.trans k.datagramsSent
  radioTxBuffer m hm := h.radioTxBuffer m (k.radioTxBuffer m hm)
  unsent m hm := h.unsent m (k.unsent m hm)

theorem Keeps.trans {r s t : Radio} (h : Keeps r s) (k : Keeps s t) : Keeps r t where
  toRetains := h.toRetains.trans k.toRetains
  onAir := k.onAir.trans h.onAir

/-- The fields that the relations above speak of. -/
def Radio.kept (r : Radio) :=
  (r.virtualCircuitList,r.ackTimer,r.rexmt.frame,r.rexmtTxDestVc,r.printToRf,r.history,
    r.delivered,r.datagramsSent,r.radioTxBuffer,r.unsent,r.onAir)

/-- A record update of the other fields. -/
theorem Keeps.of_eq {r r' : Radio} (h : r'.kept = r.kept) : Keeps r r' := by
  simp only [Radio.kept,Prod.mk.injEq] at h
  obtain ⟨hl,ha,hx,hd,hp,hh,hs,hn,hb,hu,ho⟩ := h
  exact ⟨⟨⟨fun v => by rw [hl]; exact id,ha,hx,hd,hp,hh⟩,fun v => by rw [hl],hs,hn.ge,
    fun m hm => hb ▸ hm,fun m hm => hu ▸ hm⟩,by rw [ho]⟩

theorem Keeps.refl (r : Radio) : Keeps r r := .of_eq rfl

theorem touch_keeps (r : Radio) (a : Access) : Keeps r (r.touch a) :=
  .of_eq rfl

theorem touchIf_keeps (r : Radio) (c : Prop) [Decidable c] (a : Access) :
    Keeps r (if c then r.touch a else r) := by
  split
  · exact touch_keeps r a
  · exact .refl r

theorem setVcConnecting_keeps (r : Radio) (mask : BitVec 32) : Keeps r (r.setVcConnecting mask) :=
  .of_eq rfl

@[simp] theorem circuit_ofNumber (r : Radio) (v : Fin maxVc) :
    r.circuit (.ofNumber v) = r.virtualCircuitList v := by
  simp [Radio.circuit]

theorem setCircuit_undisturbed {r : Radio} {a : VcAddress} {vc : VirtualCircuit}
    (hs : (r.circuit a).vcState ≠ .linkDown → vc.vcState ≠ .linkDown) :
    Undisturbed r (r.setCircuit a vc) := by
  unfold Radio.setCircuit
  unfold Radio.circuit at hs
  cases ha : a.index with
  | none => exact .refl r
  | some v =>
    simp only [ha] at hs
    refine ⟨?_,rfl,rfl,rfl,rfl,rfl⟩
    intro w hw
    by_cases hv : w = v
    · subst hv
      simpa using hs hw
    · simpa [Function.update_of_ne hv] using hw

theorem setCircuit_list (r : Radio) (a : VcAddress) (vc : VirtualCircuit) :
    ∃ l, r.setCircuit a vc = { r with virtualCircuitList := l } := by
  unfold Radio.setCircuit
  split
  · exact ⟨_,rfl⟩
  · exact ⟨r.virtualCircuitList,rfl⟩

theorem setCircuit_numbers {r : Radio} {a : VcAddress} {vc : VirtualCircuit}
    (hn : vc.numbers = (r.circuit a).numbers) (w : Fin maxVc) :
    ((r.setCircuit a vc).virtualCircuitList w).numbers = (r.virtualCircuitList w).numbers := by
  unfold Radio.setCircuit
  unfold Radio.circuit at hn
  cases ha : a.index with
  | none => rfl
  | some v =>
    simp only [ha] at hn ⊢
    by_cases hv : w = v
    · subst hv
      simpa using hn
    · simp [Function.update_of_ne hv]

theorem setCircuit_keeps {r : Radio} {a : VcAddress} {vc : VirtualCircuit}
    (hn : vc.numbers = (r.circuit a).numbers)
    (hs : (r.circuit a).vcState ≠ .linkDown → vc.vcState ≠ .linkDown) :
    Keeps r (r.setCircuit a vc) := by
  have hnumbers := setCircuit_numbers hn
  have hquiet := setCircuit_undisturbed hs
  obtain ⟨l,hl⟩ := setCircuit_list r a vc
  rw [hl] at hnumbers hquiet ⊢
  exact ⟨⟨hquiet,hnumbers,rfl,le_rfl,fun _ => id,fun _ => id⟩,rfl⟩

theorem setNumbers_undisturbed (r : Radio) (a : VcAddress) (numbers : AckNumbers) :
    Undisturbed r (r.setNumbers a numbers) :=
  setCircuit_undisturbed id

theorem vcZeroAcks_undisturbed (r : Radio) (a : VcAddress) : Undisturbed r (vcZeroAcks r a) :=
  (touch_keeps r _).toUndisturbed.trans (setNumbers_undisturbed _ a .zero)

theorem vcChangeState_keeps (r : Radio) (a : VcAddress) {state : VcState}
    (hs : state ≠ .linkDown) : Keeps r (vcChangeState r a state) := by
  unfold vcChangeState
  refine (touch_keeps r (.entry a.toInt)).trans ?_
  dsimp only
  split
  · refine Keeps.trans (s := (r.touch (.entry a.toInt)).setCircuit a _) ?_
      (.of_eq rfl)
    exact setCircuit_keeps rfl fun _ => hs
  · exact .refl _

theorem vcLinkAlive_keeps (r : Radio) (v : Fin maxVc) : Keeps r (vcLinkAlive r v) := by
  unfold vcLinkAlive
  split
  · exact vcChangeState_keeps r _ (by decide)
  · exact .refl r

theorem vcIdToAddressByte_keeps (r : Radio) (srcAddr : VcAddress) (id : List UInt8)
    (server : Bool) : Keeps r (vcIdToAddressByte r srcAddr id server).1 := by
  unfold vcIdToAddressByte
  split
  · exact vcLinkAlive_keeps r _
  · split
    · exact .refl r
    · split
      · exact .refl r
      next v _ =>
        dsimp only
        split
        · exact .refl r
        · refine Keeps.trans (setCircuit_keeps ?_ fun h => ?_) (vcLinkAlive_keeps _ v)
          · rw [circuit_ofNumber]
          · rwa [circuit_ofNumber] at h

theorem retransmitDatagram_retains (r : Radio) (i : Inputs) :
    Retains r (retransmitDatagram r i).1 := by
  unfold retransmitDatagram
  refine (touch_keeps r (.entry r.txDestVc.number)).1.trans ?_
  dsimp only
  split
  · exact (Keeps.refl _).1
  · exact ⟨⟨fun _ => id,rfl,rfl,rfl,rfl,rfl⟩,fun _ => rfl,rfl,le_rfl,fun _ => id,fun _ => id⟩

/-- The frame goes on the air, or nothing does. -/
theorem retransmitDatagram_onAir (r : Radio) (i : Inputs) :
    (retransmitDatagram r i).1.onAir = r.onAir ∨
      (retransmitDatagram r i).1.onAir = r.onAir ++ [r.tx.frame] := by
  unfold retransmitDatagram Radio.startTransmit
  dsimp only
  split
  · exact .inl rfl
  · dsimp only
    split
    · exact .inr rfl
    · exact .inl rfl

theorem load_retains (r : Radio) (a : Access) (f : Frame) : Retains r ((r.touch a).load f) :=
  ⟨⟨fun _ => id,rfl,rfl,rfl,rfl,rfl⟩,fun _ => rfl,rfl,Nat.le_succ _,fun _ => id,
    by simp [Radio.load]⟩

theorem transmitDatagram_retains (r : Radio) (t : DatagramType) (d : Datagram) (i : Inputs) :
    Retains r (transmitDatagram r t d i).1 :=
  (load_retains r d.pointer _).trans (retransmitDatagram_retains _ i)

theorem transmitDatagram_onAir (r : Radio) (t : DatagramType) (d : Datagram) (i : Inputs) :
    (transmitDatagram r t d i).1.onAir = r.onAir ∨
      (transmitDatagram r t d i).1.onAir = r.onAir ++ [r.builtFrame t d] :=
  retransmitDatagram_onAir ((r.touch d.pointer).load (r.builtFrame t d)) i

theorem transmitDatagram_keeps (r : Radio) (t : DatagramType) (d : Datagram) (i : Inputs)
    (ht : t.numbered true = false := by rfl) : Keeps r (transmitDatagram r t d i).1 := by
  refine ⟨transmitDatagram_retains r t d i,?_⟩
  have hframe : (r.builtFrame t d).numbered = false := ht
  rcases transmitDatagram_onAir r t d i with ha | ha <;> simp [ha,hframe]

theorem enter_keeps (x : Radio × Bool) (s : RadioState) : Keeps x.1 (enter x s) := by
  unfold enter
  split
  · exact .of_eq rfl
  · exact .refl _

/-- A branch that ends in a transmit attempt. -/
theorem xmit_retains (r : Radio) (t : DatagramType) (d : Datagram) (i : Inputs)
    (s : RadioState) : Retains r (enter (transmitDatagram r t d i) s) :=
  (transmitDatagram_retains r t d i).trans (enter_keeps _ s).1

theorem xmit_keeps (r : Radio) (t : DatagramType) (d : Datagram) (i : Inputs)
    (s : RadioState) (ht : t.numbered true = false := by rfl) :
    Keeps r (enter (transmitDatagram r t d i) s) :=
  (transmitDatagram_keeps r t d i ht).trans (enter_keeps _ s)

theorem refresh_keeps (r : Radio) (a : VcAddress) (i : Inputs) : Keeps r (r.refresh a i) :=
  (touch_keeps r _).trans (setCircuit_keeps rfl id)

theorem hear_keeps (r : Radio) (i : Inputs) : Keeps r (r.hear i) := by
  unfold Radio.hear
  split
  · exact refresh_keeps r _ i
  · exact .refl r

theorem saveMyVc_keeps (r : Radio) (id : List UInt8) : Keeps r (r.saveMyVc id) := by
  unfold Radio.saveMyVc
  split
  · exact .of_eq rfl
  · exact .refl r

theorem vcReceiveHeartbeat_keeps (r : Radio) (data : List UInt8) (i : Inputs) :
    Keeps r (vcReceiveHeartbeat r data i) := by
  unfold vcReceiveHeartbeat
  dsimp only
  refine (saveMyVc_keeps r (heartbeatId data)).trans ?_
  generalize r.saveMyVc (heartbeatId data) = s
  have hid := vcIdToAddressByte_keeps s s.rxSrcVc (heartbeatId data) i.server
  revert hid
  generalize vcIdToAddressByte s s.rxSrcVc (heartbeatId data) i.server = q
  obtain ⟨t,_ | v⟩ := q
  · exact id
  · intro hid
    refine hid.trans ?_
    dsimp only
    split
    · exact xmit_keeps t _ _ i _
    · exact .refl t

theorem getTxTime_keeps (r : Radio) (i : Inputs) : Keeps r (getTxTime r i) := by
  have hignore : ∀ (s : Radio) (b : Bool), Keeps s (s.setIgnoreFrame b) :=
    fun s b => .of_eq rfl
  exact ((hignore r true).trans (transmitDatagram_keeps _ _ _ i)).trans (hignore _ false)

theorem selectMyVc_keeps (r : Radio) (server : Bool) : Keeps r (selectMyVc r server) := by
  unfold selectMyVc
  split
  · refine (vcIdToAddressByte_keeps r vcServer r.myUniqueId server).trans ?_
    exact .of_eq rfl
  · exact .of_eq rfl

theorem resetPass_keeps (r : Radio) (i : Inputs) : Keeps r.stopAckTimer (resetPass r i) := by
  have hclear : Keeps r.stopAckTimer r.clear :=
    ⟨⟨⟨fun _ => id,rfl,rfl,rfl,rfl,rfl⟩,fun _ => rfl,rfl,le_rfl,by simp [Radio.clear],
      by simp [Radio.clear]⟩,rfl⟩
  have hstart := (hclear.trans (getTxTime_keeps _ i)).trans (selectMyVc_keeps _ i.server)
  refine hstart.trans ?_
  unfold resetPass
  generalize selectMyVc (getTxTime r.clear i) i.server = s
  have hsent : Keeps s (xmitVcHeartbeat s s.myVc s.myUniqueId i).1 :=
    transmitDatagram_keeps s _ _ i
  exact hsent.trans (.of_eq rfl)

theorem waitReceiveHandshake_keeps (r : Radio) (i : Inputs) :
    Keeps r (waitReceiveHandshake r i) := by
  unfold waitReceiveHandshake
  split
  · exact .refl r
  next v _ =>
    refine (touch_keeps r (.entry v.val)).trans ?_
    dsimp only
    generalize r.touch (.entry v.val) = s
    split
    · have hsent : Keeps s (xmitVcUnknownAcks s (.ofNumber v) i).1 :=
        transmitDatagram_keeps s _ _ i
      split
      · have hstate : Keeps _ (vcChangeState (xmitVcUnknownAcks s (.ofNumber v) i).1
            (.ofNumber v) .waitSyncAcks) := vcChangeState_keeps _ _ (by decide)
        exact (hsent.trans hstate).trans (.of_eq rfl)
      · exact hsent
    · split
      · exact xmit_keeps s _ _ i _
      · split
        · exact xmit_keeps s _ _ i _
        · exact .refl s

/-- A command that breaks no link. -/
theorem checkCommand_keeps (r : Radio) {c : Command} (hc : c ≠ .breakLinks) :
    Keeps r (checkCommand r c) := by
  cases c with
  | connect =>
    change Keeps r (if _ then r else _)
    split
    · exact .refl r
    · exact vcChangeState_keeps r _ (by split <;> decide)
  | breakLinks => exact absurd rfl hc
  | reset => exact .of_eq rfl
  | setCmdVc v => exact .of_eq rfl
  | other => exact .refl r

theorem changeState_keeps (r : Radio) (s : RadioState) : Keeps r (r.changeState s) :=
  .of_eq rfl

theorem setRadioTxBuffer_undisturbed (r : Radio) (ms : List Datagram) :
    Undisturbed r (r.setRadioTxBuffer ms) :=
  ⟨fun _ => id,rfl,rfl,rfl,rfl,rfl⟩

theorem setRadioTxBuffer_keeps {r : Radio} {ms : List Datagram}
    (hms : ∀ m ∈ ms, m ∈ r.radioTxBuffer) : Keeps r (r.setRadioTxBuffer ms) :=
  ⟨⟨setRadioTxBuffer_undisturbed r ms,fun _ => rfl,rfl,le_rfl,hms,fun _ => id⟩,rfl⟩

theorem setUnsent_undisturbed (r : Radio) (m : Option Datagram) : Undisturbed r (r.setUnsent m) :=
  ⟨fun _ => id,rfl,rfl,rfl,rfl,rfl⟩

theorem setUnsent_none_keeps (r : Radio) : Keeps r (r.setUnsent none) :=
  ⟨⟨setUnsent_undisturbed r none,fun _ => rfl,rfl,le_rfl,fun _ => id,by simp [Radio.setUnsent]⟩,
    rfl⟩

@[simp] theorem atFront_destVc (r : Radio) (d : Datagram) (i : Inputs) :
    (r.atFront d i).destVc = d.destVc := by
  unfold Radio.atFront
  split <;> rfl

theorem deliver_undisturbed (r : Radio) (p : Reception) : Undisturbed r (r.deliver p) :=
  ⟨fun _ => id,rfl,rfl,rfl,rfl,rfl⟩

theorem setRmtCmdVc_keeps (r : Radio) (a : VcAddress) : Keeps r (r.setRmtCmdVc a) :=
  .of_eq rfl

theorem setAtLinkCheck_keeps (r : Radio) (b : Bool) : Keeps r (r.setAtLinkCheck b) :=
  .of_eq rfl

theorem setTxDestVc_keeps (r : Radio) (a : VcAddress) : Keeps r (r.setTxDestVc a) :=
  .of_eq rfl

theorem setRxSrcVc_keeps (r : Radio) (a : VcAddress) : Keeps r (r.setRxSrcVc a) :=
  .of_eq rfl

theorem findVc_keeps (r : Radio) (a : VcAddress) : Keeps r (r.findVc a) := by
  unfold Radio.findVc
  split
  · exact .refl r
  · exact touch_keeps r _

/-- A property that every step of rcvDatagram keeps. The source is checked before
its entry is looked up. -/
theorem rcvDatagram_preserves {P : Radio → Prop} {r : Radio} (p : Reception) (i : Inputs)
    (hr : P r) (hsource : ∀ a, P (r.setRxSrcVc a))
    (hfind : ∀ s a, (a ≠ vcUnassigned → a.toNat < maxVc) → P s → P (s.findVc a))
    (hnumbers : ∀ s a numbers, P s → P (s.setNumbers a numbers))
    (haccepted : ∀ s q, P s → P (s.accepted q).1) : P (rcvDatagram r p i).1 := by
  cases p with
  | damaged d => exact hr
  | frame f =>
    unfold rcvDatagram
    dsimp only
    split
    · exact hr
    split
    · exact hsource _
    next hsrc =>
    have hfound := hfind _ f.datagram.srcVc (fun hne => not_le.mp fun hle => hsrc ⟨hne,hle⟩)
      (hsource f.datagram.srcVc)
    split
    · exact hfound
    split
    · exact hfound
    split
    · exact haccepted _ _ hfound
    · exact haccepted _ _ (hnumbers _ _ _ hfound)

/-- rcvDatagram changes numbers, and notes a DATA_ACK that it accepts. -/
theorem rcvDatagram_undisturbed (r : Radio) (p : Reception) (i : Inputs) :
    (Undisturbed r (rcvDatagram r p i).1 ∧ (rcvDatagram r p i).2 ≠ .datagram .dataAck) ∨
    (∃ s, Undisturbed r s ∧ (rcvDatagram r p i).1 = s.log (.acknowledged s.rxSrcVc) ∧
      (rcvDatagram r p i).2 = .datagram .dataAck) := by
  have haccepted : ∀ (s : Radio) (q : PacketType), Undisturbed r s →
      (Undisturbed r (s.accepted q).1 ∧ (s.accepted q).2 ≠ .datagram .dataAck) ∨
      (∃ t, Undisturbed r t ∧ (s.accepted q).1 = t.log (.acknowledged t.rxSrcVc) ∧
        (s.accepted q).2 = .datagram .dataAck) := by
    intro s q hs
    unfold Radio.accepted
    by_cases hq : q = .datagram .dataAck
    · exact .inr ⟨s,hs,by simp [hq],hq⟩
    · exact .inl ⟨by simpa [hq] using hs,hq⟩
  cases p with
  | damaged d => exact .inl ⟨.refl r,by cases d <;> simp [rcvDatagram,Damage.packetType]⟩
  | frame f =>
    unfold rcvDatagram
    dsimp only
    have hsrc : Undisturbed r (r.setRxSrcVc f.datagram.srcVc) := (setRxSrcVc_keeps r _).1.1
    split
    · exact .inl ⟨.refl r,by simp⟩
    split
    · exact .inl ⟨hsrc,by simp⟩
    have htouch := hsrc.trans (findVc_keeps _ f.datagram.srcVc).1.1
    revert htouch
    generalize (r.setRxSrcVc f.datagram.srcVc).findVc f.datagram.srcVc = s
    intro htouch
    split
    · exact .inl ⟨htouch,by simp⟩
    split
    · exact .inl ⟨htouch,by simp⟩
    split
    · exact haccepted s _ htouch
    · exact haccepted _ _ (htouch.trans (setNumbers_undisturbed s _ _))

theorem step_pass (r : Radio) (packet : Option Reception) (i : Inputs) :
    step r (.pass packet i) =
      if r.atLinkCheck = false then updateRadioState r packet i else r := by
  unfold step
  cases r.atLinkCheck <;> rfl

end LoRaSerial.VC
