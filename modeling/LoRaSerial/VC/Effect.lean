import LoRaSerial.VC.Keeps

namespace LoRaSerial.VC
open P2P (Damage)

def Frame.isData (f : Frame) : Bool := f.control.datagramType == .data

/-- The frame for which the ACK timer was started last. -/
def lastStarted : List Action → Option Frame
  | [] => none
  | .started f :: _ => some f
  | _ :: earlier => lastStarted earlier

/-- A DATA_ACK was accepted since then. -/
def acknowledged : List Action → Bool
  | [] => false
  | .started _ :: _ => false
  | .acknowledged _ :: _ => true
  | _ :: earlier => acknowledged earlier

/-- The data messages that PC_DATA_ACK spoke of. -/
def confirmed : List Action → List Frame
  | [] => []
  | .report _ true :: earlier =>
    ((lastStarted earlier).filter Frame.isData).toList ++ confirmed earlier
  | _ :: earlier => confirmed earlier

def told (h : List Action) : Option Frame × Bool × List Frame :=
  (lastStarted h,acknowledged h,confirmed h)

theorem told_eq {h k : List Action} : told h = told k ↔
    lastStarted h = lastStarted k ∧ acknowledged h = acknowledged k ∧ confirmed h = confirmed k := by
  simp [told]

/-- Nothing numbered is heard or said; the timer may stop, waiting messages may
go, and unnumbered frames may come. -/
structure Calm (r r' : Radio) : Prop where
  numbers : ∀ v, (r'.virtualCircuitList v).numbers = (r.virtualCircuitList v).numbers
  delivered : r'.delivered.filter Frame.isData = r.delivered.filter Frame.isData
  ackTimer : r'.ackTimer = true → r.ackTimer = true
  rexmt : r'.rexmt.frame = r.rexmt.frame
  told : told r'.history = told r.history
  datagramsSent : r.datagramsSent ≤ r'.datagramsSent
  radioTxBuffer : ∀ m ∈ r'.radioTxBuffer, m ∈ r.radioTxBuffer
  unsent : ∀ m ∈ r'.unsent, m ∈ r.unsent
  onAir : r'.onAir.filter Frame.numbered = r.onAir.filter Frame.numbered

theorem Keeps.calm {r r' : Radio} (h : Keeps r r') : Calm r r' where
  numbers := h.numbers
  delivered := by rw [h.delivered]
  ackTimer ha := h.ackTimer ▸ ha
  rexmt := h.rexmt
  told := by rw [h.history]
  datagramsSent := h.datagramsSent
  radioTxBuffer := h.radioTxBuffer
  unsent := h.unsent
  onAir := h.onAir

theorem Calm.refl (r : Radio) : Calm r r := (Keeps.refl r).calm

theorem Calm.trans {r s t : Radio} (h : Calm r s) (k : Calm s t) : Calm r t where
  numbers v := (k.numbers v).trans (h.numbers v)
  delivered := k.delivered.trans h.delivered
  ackTimer ha := h.ackTimer (k.ackTimer ha)
  rexmt := k.rexmt.trans h.rexmt
  told := k.told.trans h.told
  datagramsSent := h.datagramsSent.trans k.datagramsSent
  radioTxBuffer m hm := h.radioTxBuffer m (k.radioTxBuffer m hm)
  unsent m hm := h.unsent m (k.unsent m hm)
  onAir := k.onAir.trans h.onAir

theorem stopAckTimer_calm (r : Radio) : Calm r r.stopAckTimer :=
  ⟨fun _ => rfl,rfl,by simp [Radio.stopAckTimer],rfl,rfl,le_rfl,fun _ => id,fun _ => id,rfl⟩

theorem setPrintToRf_calm (r : Radio) (b : Bool) : Calm r (r.setPrintToRf b) :=
  ⟨fun _ => rfl,rfl,id,rfl,rfl,le_rfl,fun _ => id,fun _ => id,rfl⟩

/-- An action that says nothing of the last frame's fate. -/
theorem log_calm (r : Radio) {a : Action} (ha : told (a :: r.history) = told r.history) :
    Calm r (r.log a) :=
  ⟨fun _ => rfl,rfl,id,rfl,ha,le_rfl,fun _ => id,fun _ => id,rfl⟩

theorem deliver_calm (r : Radio) {f : Frame} (hf : f.isData = false) :
    Calm r (r.deliver (.frame f)) :=
  ⟨fun _ => rfl,by simp [Radio.deliver,Reception.frames,hf],id,rfl,rfl,le_rfl,fun _ => id,
    fun _ => id,rfl⟩

theorem setCircuit_calm {r : Radio} {a : VcAddress} {vc : VirtualCircuit}
    (hn : vc.numbers = (r.circuit a).numbers) : Calm r (r.setCircuit a vc) := by
  have hnumbers := setCircuit_numbers hn
  obtain ⟨l,hl⟩ := setCircuit_list r a vc
  rw [hl] at hnumbers ⊢
  exact ⟨hnumbers,rfl,id,rfl,rfl,le_rfl,fun _ => id,fun _ => id,rfl⟩

theorem vcChangeState_calm (r : Radio) (a : VcAddress) (state : VcState) :
    Calm r (vcChangeState r a state) := by
  unfold vcChangeState
  refine (touch_keeps r (.entry a.toInt)).calm.trans ?_
  dsimp only
  generalize r.touch (.entry a.toInt) = s
  split
  · refine Calm.trans ?_ (setVcConnecting_keeps _ _).calm
    exact setCircuit_calm rfl
  · exact .refl s

theorem vcSendPcAckNack_calm (r : Radio) (a : VcAddress) : Calm r (vcSendPcAckNack r a false) := by
  unfold vcSendPcAckNack
  split
  · exact .refl r
  · exact log_calm r rfl

theorem vcBreakLink_calm (r : Radio) (a : VcAddress) : Calm r (vcBreakLink r a) := by
  unfold vcBreakLink
  split
  · exact .refl r
  refine (log_calm r (a := .broken a.number) rfl).trans ?_
  dsimp only
  generalize r.log (.broken a.number) = s
  have hanswer : Calm s (if s.ackTimer ∧ s.txDestVc = .ofNumber a.number then
      vcSendPcAckNack s.stopAckTimer (.ofNumber a.number) false else s) := by
    split
    · exact (stopAckTimer_calm s).trans (vcSendPcAckNack_calm _ _)
    · exact .refl s
  refine hanswer.trans ?_
  generalize (if s.ackTimer ∧ s.txDestVc = .ofNumber a.number then
      vcSendPcAckNack s.stopAckTimer (.ofNumber a.number) false else s) = t
  split
  · have hempty : Keeps t (t.setRadioTxBuffer []) := setRadioTxBuffer_keeps (by simp)
    exact (hempty.trans (setUnsent_none_keeps _)).calm
  · exact vcChangeState_calm t _ _

theorem foldl_calm {σ : Type} (radio : σ → Radio) (f : σ → Fin maxVc → σ)
    (hf : ∀ q v, Calm (radio q) (radio (f q v))) (l : List (Fin maxVc)) (q : σ) :
    Calm (radio q) (radio (l.foldl f q)) := by
  induction l generalizing q with
  | nil => exact .refl _
  | cons v l ih => exact (hf q v).trans (ih (f q v))

theorem linkCheck_calm (r : Radio) (now limit : BitVec 32) : Calm r (linkCheck r now limit) := by
  refine foldl_calm Prod.fst (linkCheckIndex now limit) ?_ _ (r,false)
  intro q v
  unfold linkCheckIndex
  split
  · exact .refl _
  have htouch := (touch_keeps q.1 (.entry v)).calm
  dsimp only
  split
  · split
    · exact (htouch.trans (changeState_keeps _ _).calm).trans (vcBreakLink_calm _ _)
    · exact htouch.trans (vcBreakLink_calm _ _)
  · exact htouch

theorem breakLinks_calm (r : Radio) : Calm r (breakLinks r) := by
  unfold breakLinks
  refine Calm.trans (foldl_calm id _ ?_ (List.finRange maxVc) r) (changeState_keeps _ _).calm
  intro q v
  dsimp only [id]
  split
  · exact vcBreakLink_calm q _
  · exact .refl q

theorem checkCommand_calm (r : Radio) (c : Command) : Calm r (checkCommand r c) := by
  by_cases hc : c = .breakLinks
  · subst hc
    exact breakLinks_calm r
  · exact (checkCommand_keeps r hc).calm

theorem checkRemoteCommand_calm (r : Radio) (c : Command) : Calm r (checkRemoteCommand r c) :=
  ((setPrintToRf_calm r true).trans (checkCommand_calm _ c)).trans (setPrintToRf_calm _ false)

theorem setNumbers_ofNumber (r : Radio) (v : Fin maxVc) (numbers : AckNumbers) :
    r.setNumbers (.ofNumber v) numbers = { r with
      virtualCircuitList := Function.update r.virtualCircuitList v
        { r.virtualCircuitList v with numbers } } := by
  simp [Radio.setNumbers,Radio.setCircuit]

theorem setNumbers_numbers (r : Radio) (v w : Fin maxVc) (numbers : AckNumbers) :
    ((r.setNumbers (.ofNumber v) numbers).virtualCircuitList w).numbers =
      if w = v then numbers else (r.virtualCircuitList w).numbers := by
  rw [setNumbers_ofNumber]
  by_cases hw : w = v
  · subst hw
    simp
  · simp [hw]

theorem setNumbers_self (r : Radio) (v : Fin maxVc) :
    Keeps r (r.setNumbers (.ofNumber v) (r.virtualCircuitList v).numbers) :=
  setCircuit_keeps (by simp) (by simp)

theorem Keeps.setNumbers {r s : Radio} (h : Keeps r s) (v : Fin maxVc) (numbers : AckNumbers) :
    Keeps (r.setNumbers (.ofNumber v) numbers) (s.setNumbers (.ofNumber v) numbers) := by
  have hnumbers : ∀ w, ((s.setNumbers (.ofNumber v) numbers).virtualCircuitList w).numbers =
      ((r.setNumbers (.ofNumber v) numbers).virtualCircuitList w).numbers := by
    intro w
    rw [setNumbers_numbers,setNumbers_numbers,h.numbers]
  have hup : ∀ w, ((r.setNumbers (.ofNumber v) numbers).virtualCircuitList w).vcState ≠ .linkDown →
      ((s.setNumbers (.ofNumber v) numbers).virtualCircuitList w).vcState ≠ .linkDown := by
    have hsame : ∀ (t : Radio) w,
        ((t.setNumbers (.ofNumber v) numbers).virtualCircuitList w).vcState
        = (t.virtualCircuitList w).vcState := by
      intro t w
      rw [setNumbers_ofNumber]
      by_cases hw : w = v
      · subst hw
        simp
      · simp [Function.update_of_ne hw]
    intro w
    rw [hsame,hsame]
    exact h.up w
  rw [setNumbers_ofNumber,setNumbers_ofNumber] at hnumbers hup ⊢
  exact ⟨⟨⟨hup,h.ackTimer,h.rexmt,h.rexmtTxDestVc,h.printToRf,h.history⟩,hnumbers,h.delivered,
    h.datagramsSent,h.radioTxBuffer,h.unsent⟩,h.onAir⟩

theorem Keeps.log {r s : Radio} (h : Keeps r s) (a : Action) : Keeps (r.log a) (s.log a) :=
  ⟨⟨⟨h.up,h.ackTimer,h.rexmt,h.rexmtTxDestVc,h.printToRf,congrArg (a :: ·) h.history⟩,h.numbers,
    h.delivered,h.datagramsSent,h.radioTxBuffer,h.unsent⟩,h.onAir⟩

/-- An intact frame from circuit `v` for this radio or for all. -/
structure Radio.Hears (r : Radio) (f : Frame) (v : Fin maxVc) : Prop where
  ignoreFrame : f.control.ignoreFrame = false
  srcVc : f.datagram.srcVc = .ofNumber v
  length : f.datagram.length.toNat = f.rxDataBytes
  destVc : f.datagram.destVc = vcBroadcast ∨ f.datagram.destVc = r.myVc

/-- The radio after a look at the header of `f`. -/
structure Met (r : Radio) (f : Frame) (s : Radio) : Prop where
  keeps : Keeps r s
  rxSrcVc : s.rxSrcVc = f.datagram.srcVc
  myVc : s.myVc = r.myVc

/-- Everything rcvDatagram can do with a frame. -/
inductive Received (r : Radio) (f : Frame) : Radio × PacketType → Prop
  | refused (s p) (hs : Keeps r s) (ht : ∀ t, p ≠ .datagram t) (hd : p ≠ .duplicate) :
      Received r f (s,p)
  | stranger (q) (hnumbered : f.numbered = true) (hsrc : f.datagram.srcVc = vcUnassigned)
      (hdest : f.datagram.destVc = vcBroadcast ∨ f.datagram.destVc = r.myVc) : Received r f q
  | plain (s) (hs : Met r f s) (hnumbered : f.numbered = false)
      (hsrc : f.datagram.srcVc = vcUnassigned ∨ ∃ v, r.Hears f v) :
      Received r f (s,.datagram f.control.datagramType)
  | duplicate (s) (v : Fin maxVc) (hs : Met r f s) (hheard : r.Hears f v)
      (hseq : f.control.datagramType.sequenced true = true)
      (hn : f.control.ackNumber + 1 = (r.virtualCircuitList v).numbers.rmtTxAckNumber) :
      Received r f (s,.duplicate)
  | takes (s) (v : Fin maxVc)
      (hs : Met (r.setNumbers (.ofNumber v) (r.virtualCircuitList v).numbers.accept) f s)
      (hheard : r.Hears f v) (hseq : f.control.datagramType.sequenced true = true)
      (hn : f.control.ackNumber = (r.virtualCircuitList v).numbers.rmtTxAckNumber) :
      Received r f (s,.datagram f.control.datagramType)
  | acknowledged (s) (v : Fin maxVc)
      (hs : Met ((r.setNumbers (.ofNumber v) { (r.virtualCircuitList v).numbers with
          txAckNumber := (r.virtualCircuitList v).numbers.txAckNumber + 1 }).log
        (.acknowledged (.ofNumber v))) f s) (hheard : r.Hears f v)
      (ht : f.control.datagramType = .dataAck)
      (hn : f.control.ackNumber = (r.virtualCircuitList v).numbers.txAckNumber) :
      Received r f (s,.datagram .dataAck)

theorem Met.setNumbers {r s : Radio} {f : Frame} (h : Met r f s) (v : Fin maxVc) (n : AckNumbers) :
    Met (r.setNumbers (.ofNumber v) n) f (s.setNumbers (.ofNumber v) n) := by
  refine ⟨h.keeps.setNumbers v n,?_,?_⟩
  · rw [setNumbers_ofNumber]
    exact h.rxSrcVc
  · rw [setNumbers_ofNumber,setNumbers_ofNumber]
    exact h.myVc

theorem Met.sameNumbers {r s : Radio} {f : Frame} (h : Met r f s) (v : Fin maxVc) :
    Met r f (s.setNumbers (.ofNumber v) (r.virtualCircuitList v).numbers) := by
  have hset := h.setNumbers v (r.virtualCircuitList v).numbers
  refine ⟨(setNumbers_self r v).trans hset.keeps,hset.rxSrcVc,hset.myVc.trans ?_⟩
  rw [setNumbers_ofNumber]

theorem rcvDatagram_received (r : Radio) (f : Frame) (i : Inputs) :
    Received r f (rcvDatagram r (.frame f) i) := by
  have hmet : Met r f ((r.setRxSrcVc f.datagram.srcVc).findVc f.datagram.srcVc) := by
    refine ⟨(setRxSrcVc_keeps r _).trans (findVc_keeps _ _),?_,?_⟩ <;>
      (unfold Radio.findVc; split <;> rfl)
  unfold rcvDatagram
  dsimp only
  split
  · exact .refused _ _ (.refl r) (by simp) (by simp)
  next hignore =>
  split
  · exact .refused _ _ (setRxSrcVc_keeps r _) (by simp) (by simp)
  next hsrc =>
  revert hmet
  generalize (r.setRxSrcVc f.datagram.srcVc).findVc f.datagram.srcVc = s
  intro hmet
  split
  · exact .refused _ _ hmet.keeps (by simp) (by simp)
  next hlength =>
  split
  · exact .refused _ _ hmet.keeps (by simp) (by simp)
  next hdest =>
  have hdest : f.datagram.destVc = vcBroadcast ∨ f.datagram.destVc = r.myVc := by
    rw [hmet.myVc] at hdest
    tauto
  by_cases hun : f.datagram.srcVc = vcUnassigned
  · rw [if_pos hun]
    cases hnumbered : f.numbered with
    | true => exact .stranger _ hnumbered hun hdest
    | false =>
      have htype : f.control.datagramType ≠ .dataAck := by
        intro ht
        simp [Frame.numbered,DatagramType.numbered,ht] at hnumbered
      have hsame : s.accepted (.datagram f.control.datagramType) =
          (s,.datagram f.control.datagramType) := by
        simp [Radio.accepted,htype]
      rw [hsame]
      exact .plain s hmet hnumbered (.inl hun)
  · rw [if_neg hun]
    obtain ⟨v,hv⟩ : ∃ v, f.datagram.srcVc = .ofNumber v := by
      have hsmall : f.datagram.srcVc.toNat < maxVc := by
        by_contra hlarge
        exact hsrc ⟨hun,not_lt.mp hlarge⟩
      exact ⟨_,(VcAddress.ofNumber_number hsmall).symm⟩
    have hheard : r.Hears f v := ⟨by simpa using hignore,hv,by simpa using hlength,hdest⟩
    rw [hv,circuit_ofNumber,hmet.keeps.numbers v]
    have hself := hmet.sameNumbers v
    have hcheck := rcvNumber_check true (r.virtualCircuitList v).numbers f.control f.rxDataBytes
      i.space
    revert hcheck
    generalize rcvNumber true (r.virtualCircuitList v).numbers f.control f.rxDataBytes i.space = q
    intro hcheck
    cases hcheck with
    | duplicate hseq hn => exact .duplicate _ v hself hheard hseq hn
    | foreign | noRoom | ackRefused =>
      exact .refused _ _ hself.keeps (by simp) (by simp)
    | accept hseq hn =>
      have htype : f.control.datagramType ≠ .dataAck := by
        intro ht
        simp [ht,DatagramType.sequenced] at hseq
      simp only [Radio.accepted,PacketType.datagram.injEq,htype,if_false]
      exact .takes _ v (hmet.setNumbers v _) hheard hseq hn
    | acknowledged ht hn =>
      simp only [Radio.accepted,if_true]
      have h := hmet.setNumbers v { (r.virtualCircuitList v).numbers with
        txAckNumber := (r.virtualCircuitList v).numbers.txAckNumber + 1 }
      refine .acknowledged _ v ⟨?_,h.rxSrcVc,h.myVc⟩ hheard ht hn
      rw [h.rxSrcVc,hv]
      exact h.keeps.log _
    | unnumbered hseq ht =>
      have hnumbered : f.numbered = false := by
        simp [Frame.numbered,DatagramType.numbered,hseq,ht]
      simp only [Radio.accepted,PacketType.datagram.injEq,ht,if_false]
      exact .plain _ hself hnumbered (.inr ⟨v,hheard⟩)

def Radio.say (r : Radio) (frames : List Frame) : Radio := { r with onAir := r.onAir ++ frames }

/-- A frame that a numbered transmission starts with. -/
def Radio.start (r : Radio) (f : Frame) : Radio :=
  { r with ackTimer := true, rexmt := ⟨f,0⟩, datagramsSent := r.datagramsSent + 1 }.log (.started f)

/-- The type and the datagram of the numbered frame that this pass starts. -/
def Radio.starting (r : Radio) (i : Inputs) : Option (DatagramType × Datagram) :=
  if i.receiveInProcess ∨ i.heartbeatTimeout ∨ r.ackTimer then none
  else
    match i.commandPacket with
    | some packet => some (.remoteCommandResponse,.build r.rmtCmdVc r.myVc packet)
    | none =>
      if r.vcConnecting ≠ 0 then none
      else
        match (vcSerialMessageReceived r i).2 with
        | none => none
        | some m =>
          if m.destVc = vcBroadcast then none
          else if m.destVc.channel = 0 then some (.data,m)
          else if m.destVc.channel = 1 ∧ VcAddress.ofNumber m.destVc.number ≠ r.myVc then
            some (.remoteCommand,{ m with destVc := .ofNumber m.destVc.number })
          else none

/-- A DATA_ACK with number `n` for circuit `a`, or what comes of one when a
message was left in outgoingPacket. -/
def Radio.Answers (r : Radio) (a : VcAddress) (n : AckNumber) (sent : List Frame) : Prop :=
  sent = [] ∨ ∃ g, sent = [g] ∧ g.control.datagramType = .dataAck ∧
    ((g.datagram = .build a r.myVc [] ∧ g.control.ackNumber = n) ∨
      ∃ m ∈ r.unsent, g.datagram.destVc = m.destVc)

/-- An address that no other radio listens to. -/
def VcAddress.Parked (a myVc : VcAddress) : Prop :=
  a ≠ vcBroadcast ∧ a ≠ vcUnassigned ∧ (a = myVc ∨ maxVc ≤ a.toNat)

/-- What a pass does apart from calm. -/
inductive Core (r : Radio) (i : Inputs) : Option Reception → Radio → Prop
  | nothing (p) : Core r i p r
  | leaves (m : Datagram) (hm : VcAddress.Parked m.destVc r.myVc) :
      Core r i none (r.setUnsent (some m))
  | starts (f : Frame) (d : Datagram) (sent : List Frame)
      (hstate : r.radioState = .waitReceive)
      (hstart : r.starting i = some (f.control.datagramType,d))
      (hseq : f.control.datagramType.sequenced true = true)
      (hdest : f.datagram.destVc = d.destVc) (hsrc : f.datagram.srcVc = d.srcVc)
      (hn : f.control.ackNumber = (r.circuit f.datagram.destVc).numbers.txAckNumber)
      (hserial : f.serial = r.datagramsSent) (hsent : sent = [] ∨ sent = [f]) :
      Core r i none ((r.start f).say sent)
  | resends (hon : r.ackTimer = true) : Core r i none (r.say [r.rexmt.frame])
  | takes (f : Frame) (v : Fin maxVc) (sent : List Frame) (hheard : r.Hears f v)
      (hseq : f.control.datagramType.sequenced true = true)
      (hn : f.control.ackNumber = (r.virtualCircuitList v).numbers.rmtTxAckNumber)
      (hsent : r.Answers (.ofNumber v) f.control.ackNumber sent) :
      Core r i (some (.frame f)) (((r.setNumbers (.ofNumber v)
        (r.virtualCircuitList v).numbers.accept).deliver (.frame f)).say sent)
  | drops (f : Frame) (v : Fin maxVc) (hstate : r.radioState = .waitServer)
      (hmy : r.myVc ≠ vcServer) (hheard : r.Hears f v)
      (hseq : f.control.datagramType.sequenced true = true)
      (hn : f.control.ackNumber = (r.virtualCircuitList v).numbers.rmtTxAckNumber) :
      Core r i (some (.frame f))
        (r.setNumbers (.ofNumber v) (r.virtualCircuitList v).numbers.accept)
  | repeats (f : Frame) (v : Fin maxVc) (sent : List Frame) (hheard : r.Hears f v)
      (hseq : f.control.datagramType.sequenced true = true)
      (hn : f.control.ackNumber + 1 = (r.virtualCircuitList v).numbers.rmtTxAckNumber)
      (hsent : r.Answers (.ofNumber v) (r.virtualCircuitList v).numbers.rxAckNumber sent) :
      Core r i (some (.frame f)) (r.say sent)
  | acked (f : Frame) (v : Fin maxVc) (later : List Action)
      (hstate : r.radioState = .waitReceive ∨ (r.radioState = .waitServer ∧ later = []))
      (hheard : r.Hears f v) (ht : f.control.datagramType = .dataAck)
      (hn : f.control.ackNumber = (r.virtualCircuitList v).numbers.txAckNumber)
      (hlater : later = [] ∨ ∃ a, later = [.report a true]) :
      Core r i (some (.frame f)) { r.setNumbers (.ofNumber v)
          { (r.virtualCircuitList v).numbers with
            txAckNumber := (r.virtualCircuitList v).numbers.txAckNumber + 1 } with
        history := later ++ .acknowledged (.ofNumber v) :: r.history }
  | zeros (f : Frame) (v : Fin maxVc) (hstate : r.radioState = .waitReceive)
      (hheard : r.Hears f v)
      (ht : (f.control.datagramType = .vcSyncAcks ∧ i.transmit.result = true) ∨
        f.control.datagramType = .vcZeroAcks) :
      Core r i (some (.frame f)) (r.setNumbers (.ofNumber v) .zero)
  | stranger (f : Frame) (s) (hnumbered : f.numbered = true)
      (hsrc : f.datagram.srcVc = vcUnassigned)
      (hdest : f.datagram.destVc = vcBroadcast ∨ f.datagram.destVc = r.myVc) :
      Core r i (some (.frame f)) s

/-- A pass changes one thing at most and is calm otherwise. -/
def Effect (r : Radio) (i : Inputs) (p : Option Reception) (r' : Radio) : Prop :=
  ∃ s, Core r i p s ∧ Calm s r'

theorem Calm.effect {r r' : Radio} (h : Calm r r') (i : Inputs) (p : Option Reception) :
    Effect r i p r' :=
  ⟨r,.nothing p,h⟩

theorem Keeps.effect {r r' : Radio} (h : Keeps r r') (i : Inputs) (p : Option Reception) :
    Effect r i p r' :=
  h.calm.effect i p

theorem Effect.calm {r s t : Radio} {i : Inputs} {p : Option Reception} (h : Effect r i p s)
    (k : Calm s t) : Effect r i p t := by
  obtain ⟨q,hq,hs⟩ := h
  exact ⟨q,hq,hs.trans k⟩

theorem Calm.say {r s : Radio} (h : Calm r s) (sent : List Frame) :
    Calm (r.say sent) (s.say sent) :=
  ⟨h.numbers,h.delivered,h.ackTimer,h.rexmt,h.told,h.datagramsSent,h.radioTxBuffer,h.unsent,
    by simp [Radio.say,h.onAir]⟩

theorem Calm.deliver {r s : Radio} (h : Calm r s) (p : Reception) :
    Calm (r.deliver p) (s.deliver p) :=
  ⟨h.numbers,by simp [Radio.deliver,h.delivered],h.ackTimer,h.rexmt,h.told,h.datagramsSent,
    h.radioTxBuffer,h.unsent,h.onAir⟩

/-- A transmission that puts `sent` on the air. -/
theorem Retains.say {r s : Radio} (h : Retains r s) {sent : List Frame}
    (ho : s.onAir = r.onAir ++ sent) : Calm (r.say sent) s where
  numbers := h.numbers
  delivered := by rw [h.delivered]; rfl
  ackTimer ha := h.ackTimer ▸ ha
  rexmt := h.rexmt
  told := by rw [h.history]; rfl
  datagramsSent := h.datagramsSent
  radioTxBuffer := h.radioTxBuffer
  unsent := h.unsent
  onAir := by rw [ho]; rfl

theorem enter_onAir (x : Radio × Bool) (s : RadioState) : (enter x s).onAir = x.1.onAir := by
  unfold enter
  split <;> rfl

/-- The answer to a sequenced frame. -/
theorem xmitVcAckFrame_says (r : Radio) (v : Fin maxVc) (i : Inputs) (s : RadioState) :
    ∃ sent, r.Answers (.ofNumber v) (r.virtualCircuitList v).numbers.rxAckNumber sent ∧
      Calm (r.say sent) (enter (xmitVcAckFrame r (.ofNumber v) i) s) := by
  have hretains := xmit_retains r .dataAck (r.atEnd (.build (.ofNumber v) r.myVc [])) i s
  rcases transmitDatagram_onAir r .dataAck (r.atEnd (.build (.ofNumber v) r.myVc [])) i with ho | ho
  · refine ⟨[],.inl rfl,hretains.say ?_⟩
    rw [enter_onAir,ho,List.append_nil]
  · refine ⟨_,.inr ⟨_,rfl,rfl,?_⟩,hretains.say (by rw [enter_onAir,ho])⟩
    cases hu : r.unsent with
    | none =>
      refine .inl ?_
      simp [Radio.builtFrame,Radio.atEnd,hu,Datagram.build,selectAckNumber]
    | some m => exact .inr ⟨m,rfl,by simp [Radio.builtFrame,Radio.atEnd,hu]⟩

theorem hear_list (r : Radio) (i : Inputs) :
    ∃ l a, r.hear i = { r with virtualCircuitList := l, accesses := a } := by
  unfold Radio.hear Radio.refresh
  split
  · obtain ⟨l,hl⟩ := setCircuit_list (r.touch (.entry (VcAddress.ofNumber r.rxSrcVc.number).toInt))
      (.ofNumber r.rxSrcVc.number)
      { r.circuit (.ofNumber r.rxSrcVc.number) with lastTrafficMillis := i.currentMillis }
    exact ⟨l,_,hl⟩
  · exact ⟨_,_,rfl⟩

theorem Met.hear {r s : Radio} {f : Frame} (h : Met r f s) (i : Inputs) : Met r f (s.hear i) := by
  have hkeeps := hear_keeps s i
  obtain ⟨l,a,he⟩ := hear_list s i
  rw [he] at hkeeps ⊢
  exact ⟨h.keeps.trans hkeeps,h.rxSrcVc,h.myVc⟩

/-- Both frames that zero the numbers end the same way. -/
theorem vcZeroAcks_effect {r s : Radio} {f : Frame} (hs : Keeps r s)
    (hstate : r.radioState = .waitReceive)
    (hsrc : f.datagram.srcVc = vcUnassigned ∨ ∃ v, r.Hears f v)
    {i : Inputs} (ht : (f.control.datagramType = .vcSyncAcks ∧ i.transmit.result = true) ∨
      f.control.datagramType = .vcZeroAcks) :
    Effect r i (some (.frame f))
      (vcChangeState (vcZeroAcks s f.datagram.srcVc) f.datagram.srcVc .connected) := by
  refine Effect.calm ?_ (vcChangeState_calm _ _ _)
  unfold vcZeroAcks
  have htouch := hs.trans (touch_keeps s (.entry f.datagram.srcVc.toInt))
  generalize s.touch (.entry f.datagram.srcVc.toInt) = t at htouch
  rcases hsrc with hun | ⟨v,hheard⟩
  · have hsame : t.setNumbers f.datagram.srcVc .zero = t := by
      rw [hun]
      rfl
    rw [hsame]
    exact htouch.effect i _
  · refine ⟨_,.zeros f v hstate hheard ht,?_⟩
    rw [hheard.srcVc]
    exact (htouch.setNumbers v .zero).calm

/-- The DATA_ACK branch: the report is made unless prints go to the RF link. -/
theorem acknowledged_effect {r s : Radio} {f : Frame} {v : Fin maxVc} (i : Inputs)
    (hs : Met ((r.setNumbers (.ofNumber v) { (r.virtualCircuitList v).numbers with
        txAckNumber := (r.virtualCircuitList v).numbers.txAckNumber + 1 }).log
      (.acknowledged (.ofNumber v))) f s)
    (hstate : r.radioState = .waitReceive) (hheard : r.Hears f v)
    (ht : f.control.datagramType = .dataAck)
    (hn : f.control.ackNumber = (r.virtualCircuitList v).numbers.txAckNumber) :
    Effect r i (some (.frame f)) (vcSendPcAckNack s s.rexmtTxDestVc true).stopAckTimer := by
  refine Effect.calm ?_ (stopAckTimer_calm _)
  have hhist : ((r.setNumbers (.ofNumber v) { (r.virtualCircuitList v).numbers with
        txAckNumber := (r.virtualCircuitList v).numbers.txAckNumber + 1 }).log
      (.acknowledged (.ofNumber v))).history = .acknowledged (.ofNumber v) :: r.history := by
    rw [setNumbers_ofNumber]
    rfl
  unfold vcSendPcAckNack
  split
  · refine ⟨_,.acked f v [] (.inl hstate) hheard ht hn (.inl rfl),?_⟩
    have hcalm := hs.keeps.calm
    exact ⟨hcalm.numbers,hcalm.delivered,hcalm.ackTimer,hcalm.rexmt,by
      rw [hcalm.told,hhist]; rfl,hcalm.datagramsSent,hcalm.radioTxBuffer,hcalm.unsent,hcalm.onAir⟩
  · refine ⟨_,.acked f v [.report s.rexmtTxDestVc true] (.inl hstate) hheard ht hn
      (.inr ⟨_,rfl⟩),?_⟩
    have hcalm := (hs.keeps.log (.report s.rexmtTxDestVc true)).calm
    exact ⟨hcalm.numbers,hcalm.delivered,hcalm.ackTimer,hcalm.rexmt,by
      rw [hcalm.told]; simp only [Radio.log] at hhist ⊢; rw [hhist]; rfl,
      hcalm.datagramsSent,hcalm.radioTxBuffer,hcalm.unsent,hcalm.onAir⟩

/-- A frame that the radio already has is answered again. -/
theorem repeats_effect {r s t : Radio} {f : Frame} {v : Fin maxVc} {i : Inputs}
    (hs : Met r f s) (hheard : r.Hears f v)
    (hseq : f.control.datagramType.sequenced true = true)
    (hn : f.control.ackNumber + 1 = (r.virtualCircuitList v).numbers.rmtTxAckNumber)
    (ht : t = enter (xmitVcAckFrame s s.rxSrcVc i) .waitTxDone) :
    Effect r i (some (.frame f)) t := by
  obtain ⟨sent,hsent,hcalm⟩ := xmitVcAckFrame_says s v i .waitTxDone
  rw [ht,hs.rxSrcVc,hheard.srcVc]
  refine ⟨_,.repeats f v sent hheard hseq hn ?_,(hs.keeps.calm.say sent).trans hcalm⟩
  unfold Radio.Answers at hsent ⊢
  rw [hs.myVc,hs.keeps.numbers v] at hsent
  refine hsent.imp_right ?_
  rintro ⟨g,rfl,htype,hg⟩
  refine ⟨g,rfl,htype,hg.imp_right ?_⟩
  rintro ⟨m,hm,hd⟩
  exact ⟨m,hs.keeps.unsent m hm,hd⟩

/-- A frame that the radio takes is answered; what it does with the frame
besides is calm, save the delivery of host data. -/
theorem takes_effect {r s t u : Radio} {f : Frame} {v : Fin maxVc} {i : Inputs}
    (hs : Met (r.setNumbers (.ofNumber v) (r.virtualCircuitList v).numbers.accept) f s)
    (hheard : r.Hears f v) (hseq : f.control.datagramType.sequenced true = true)
    (hn : f.control.ackNumber = (r.virtualCircuitList v).numbers.rmtTxAckNumber)
    (ht : Calm (s.deliver (.frame f)) t) (hmy : t.myVc = s.myVc) (hunsent : t.unsent = s.unsent)
    (hu : u = enter (xmitVcAckFrame t (.ofNumber v) i) .waitTxDone) :
    Effect r i (some (.frame f)) u := by
  obtain ⟨sent,hsent,hcalm⟩ := xmitVcAckFrame_says t v i .waitTxDone
  have hall : Calm _ t := (hs.keeps.calm.deliver (.frame f)).trans ht
  rw [hu]
  refine ⟨_,.takes f v sent hheard hseq hn ?_,(hall.say sent).trans hcalm⟩
  have hnumber : (t.virtualCircuitList v).numbers.rxAckNumber = f.control.ackNumber := by
    rw [hall.numbers v,hn]
    change ((r.setNumbers _ _).virtualCircuitList v).numbers.rxAckNumber = _
    rw [setNumbers_numbers,if_pos rfl]
    rfl
  have hmy' : t.myVc = r.myVc := by
    rw [hmy,hs.myVc,setNumbers_ofNumber]
  unfold Radio.Answers at hsent ⊢
  rw [hmy',hnumber] at hsent
  refine hsent.imp_right ?_
  rintro ⟨g,rfl,htype,hg⟩
  refine ⟨g,rfl,htype,hg.imp_right ?_⟩
  rintro ⟨m,hm,hd⟩
  refine ⟨m,?_,hd⟩
  have hkept := hs.keeps.unsent m (hunsent ▸ hm)
  rwa [setNumbers_ofNumber] at hkept

/-- A frame without a number that the radio acts on. -/
theorem waitReceivePlain_effect {r s : Radio} {f : Frame} (hs : Met r f s)
    (hstate : r.radioState = .waitReceive) (hnumbered : f.numbered = false)
    (hsrc : f.datagram.srcVc = vcUnassigned ∨ ∃ v, r.Hears f v) {i : Inputs}
    (hr : rcvDatagram r (.frame f) i = (s,.datagram f.control.datagramType)) :
    Effect r i (some (.frame f)) (waitReceiveFrame r (.frame f) i) := by
  unfold waitReceiveFrame
  have hmet := hs.hear i
  simp only [hr]
  generalize s.hear i = t at hmet
  have hzero := fun {u : Radio} (hu : Keeps r u) ht =>
    vcZeroAcks_effect (f := f) (i := i) hu hstate hsrc ht
  rw [← hmet.rxSrcVc] at hzero
  cases ht : f.control.datagramType
  case data | dataAck | remoteCommand | remoteCommandResponse =>
    simp [Frame.numbered,DatagramType.numbered,DatagramType.sequenced,ht] at hnumbered
  case vcHeartbeat => exact (hmet.keeps.trans (vcReceiveHeartbeat_keeps t _ i)).effect i _
  case datagram =>
    have hdata : f.isData = false := by simp [Frame.isData,ht]
    exact (hmet.keeps.calm.trans (deliver_calm t hdata)).effect i _
  case vcUnknownAcks =>
    have hsent := xmit_keeps t .vcSyncAcks (t.atEnd (.build t.rxSrcVc t.myVc [])) i .waitTxDone
    exact (((hmet.keeps.trans hsent).calm.trans (vcChangeState_calm _ _ _)).trans
      (touch_keeps _ _).calm).effect i _
  case vcSyncAcks =>
    have hsent := hmet.keeps.trans (transmitDatagram_keeps t .vcZeroAcks
      (t.atEnd (.build t.rxSrcVc t.myVc [])) i)
    dsimp only
    split
    next hstarted =>
      have hresult : i.transmit.result = true := by
        unfold xmitVcZeroAcks transmitDatagram retransmitDatagram at hstarted
        dsimp only at hstarted
        split at hstarted
        · simp at hstarted
        · exact hstarted
      exact hzero (hsent.trans (changeState_keeps _ .waitTxDone)) (.inl ⟨ht,hresult⟩)
    · exact hsent.effect i _
  case vcZeroAcks => exact hzero hmet.keeps (.inr ht)
  all_goals exact hmet.keeps.effect i _

/-- RADIO_VC_WAIT_RECEIVE, a received datagram. -/
theorem waitReceiveFrame_effect (r : Radio) (p : Reception) (i : Inputs)
    (hstate : r.radioState = .waitReceive) :
    Effect r i (some p) (waitReceiveFrame r p i) := by
  cases p with
  | damaged d =>
    unfold waitReceiveFrame rcvDatagram
    cases d <;> exact (hear_keeps r i).effect i _
  | frame f =>
    have hrec := rcvDatagram_received r f i
    generalize hq : rcvDatagram r (.frame f) i = q at hrec
    cases hrec with
    | stranger _ hnumbered hsrc hdest => exact ⟨_,.stranger f _ hnumbered hsrc hdest,.refl _⟩
    | plain s hs hnumbered hsrc => exact waitReceivePlain_effect hs hstate hnumbered hsrc hq
    | refused s p hs ht hd =>
      have hhear := hs.trans (hear_keeps s i)
      unfold waitReceiveFrame
      simp only [hq]
      cases p with
      | datagram t => exact absurd rfl (ht t)
      | duplicate => exact absurd rfl hd
      | bad | crcError | netIdMismatch | notMine => exact hhear.effect i _
    | duplicate s v hs hheard hseq hn =>
      unfold waitReceiveFrame
      simp only [hq]
      exact repeats_effect (hs.hear i) hheard hseq hn rfl
    | takes s v hs hheard hseq hn =>
      have hmet := hs.hear i
      have hsrc : (s.hear i).rxSrcVc = .ofNumber v := hmet.rxSrcVc.trans hheard.srcVc
      unfold waitReceiveFrame
      simp only [hq]
      generalize s.hear i = t at hmet hsrc
      have hquiet : f.isData = false → Calm (t.deliver (.frame f)) t := by
        intro hdata
        have h := deliver_calm t hdata
        exact ⟨fun w => (h.numbers w).symm,h.delivered.symm,id,rfl,rfl,le_rfl,fun _ => id,
          fun _ => id,rfl⟩
      cases ht : f.control.datagramType <;>
        simp only [ht,DatagramType.sequenced,reduceCtorEq] at hseq
      case data =>
        refine takes_effect hmet hheard (by rw [ht]; rfl) hn (.refl _) rfl rfl ?_
        exact congrArg (fun b => enter (xmitVcAckFrame (t.deliver (.frame f)) b i) .waitTxDone) hsrc
      case remoteCommand =>
        refine Effect.calm ?_ (checkRemoteCommand_calm _ i.command)
        refine takes_effect (t := t.setRmtCmdVc t.rxSrcVc) hmet hheard (by rw [ht]; rfl) hn ?_
          rfl rfl ?_
        · exact (hquiet (by simp [Frame.isData,ht])).trans (setRmtCmdVc_keeps t _).calm
        · exact congrArg
            (fun b => enter (xmitVcAckFrame (t.setRmtCmdVc t.rxSrcVc) b i) .waitTxDone) hsrc
      case remoteCommandResponse =>
        refine takes_effect hmet hheard (by rw [ht]; rfl) hn (hquiet (by simp [Frame.isData,ht]))
          rfl rfl ?_
        exact congrArg (fun b => enter (xmitVcAckFrame t b i) .waitTxDone) hsrc
      all_goals simp at hseq
    | acknowledged s v hs hheard ht hn =>
      unfold waitReceiveFrame
      simp only [hq]
      exact acknowledged_effect i (hs.hear i) hstate hheard ht hn

/-- RADIO_VC_WAIT_SERVER. -/
theorem waitServerPass_effect (r : Radio) (packet : Option Reception) (i : Inputs)
    (hstate : r.radioState = .waitServer) :
    Effect r i packet (waitServerPass r packet i) := by
  unfold waitServerPass
  split
  · exact (changeState_keeps r _).effect i _
  next hmy =>
  cases packet with
  | none => exact (Keeps.refl r).effect i _
  | some p =>
  cases p with
  | damaged d =>
    unfold rcvDatagram
    cases d <;> exact (Keeps.refl r).effect i _
  | frame f =>
    have hrec := rcvDatagram_received r f i
    dsimp only
    generalize rcvDatagram r (.frame f) i = q at hrec
    have hseen : ∀ t, f.control.datagramType.sequenced true = true →
        f.control.datagramType = .vcHeartbeat → Effect r i (some (.frame f)) t := by
      intro t hseq ht
      simp [ht,DatagramType.sequenced] at hseq
    cases hrec with
    | stranger _ hnumbered hsrc hdest => exact ⟨_,.stranger f _ hnumbered hsrc hdest,.refl _⟩
    | refused s p hs ht hd =>
      split
      next he => exact absurd (congrArg Prod.snd he) (ht _)
      next s' _ _ he =>
        obtain rfl : s = s' := congrArg Prod.fst he
        exact hs.effect i _
    | plain s hs hnumbered hsrc =>
      split
      next s' he =>
        obtain rfl : s = s' := congrArg Prod.fst he
        split
        · have hheart := (refresh_keeps s vcServer i).trans
            (vcReceiveHeartbeat_keeps _ (Reception.frame f).data i)
          exact ((hs.keeps.trans hheart).trans (changeState_keeps _ _)).effect i _
        · exact hs.keeps.effect i _
      next s' _ _ he =>
        obtain rfl : s = s' := congrArg Prod.fst he
        exact hs.keeps.effect i _
    | duplicate s v hs hheard hseq hn => exact hs.keeps.effect i _
    | takes s v hs hheard hseq hn =>
      split
      next s' he =>
        exact hseen _ hseq (PacketType.datagram.inj (congrArg Prod.snd he))
      next s' _ _ he =>
        obtain rfl : s = s' := congrArg Prod.fst he
        exact ⟨_,.drops f v hstate hmy hheard hseq hn,hs.keeps.calm⟩
    | acknowledged s v hs hheard ht hn =>
      refine ⟨_,.acked f v [] (.inr ⟨hstate,rfl⟩) hheard ht hn (.inl rfl),?_⟩
      have hcalm := hs.keeps.calm
      refine ⟨hcalm.numbers,hcalm.delivered,hcalm.ackTimer,hcalm.rexmt,?_,hcalm.datagramsSent,
        hcalm.radioTxBuffer,hcalm.unsent,hcalm.onAir⟩
      rw [hcalm.told,setNumbers_ofNumber]
      rfl

theorem Keeps.circuit_numbers {r s : Radio} (h : Keeps r s) (a : VcAddress) :
    (s.circuit a).numbers = (r.circuit a).numbers := by
  unfold Radio.circuit
  split
  · exact h.numbers _
  · rfl

/-- What awaitAck starts from after a transmit attempt. -/
structure Attempt (r : Radio) (f : Frame) (sent : List Frame) (s : Radio) : Prop where
  retains : Retains r s
  frame : s.tx.frame = f
  onAir : s.onAir = r.onAir ++ sent
  datagramsSent : s.datagramsSent = r.datagramsSent + 1

theorem xmit_attempt (r : Radio) (t : DatagramType) (d : Datagram) (i : Inputs) (a : RadioState) :
    ∃ sent, (sent = [] ∨ sent = [r.builtFrame t d]) ∧
      Attempt r (r.builtFrame t d) sent (enter (transmitDatagram r t d i) a) := by
  have hretains := xmit_retains r t d i a
  have hkept : ∀ s : Radio, (retransmitDatagram s i).1.tx.frame = s.tx.frame ∧
      (retransmitDatagram s i).1.datagramsSent = s.datagramsSent := by
    intro s
    unfold retransmitDatagram Radio.startTransmit
    dsimp only
    split
    · exact ⟨rfl,rfl⟩
    · refine ⟨?_,rfl⟩
      dsimp only
      split <;> rfl
  have henter : ∀ x : Radio × Bool, (enter x a).tx = x.1.tx ∧
      (enter x a).datagramsSent = x.1.datagramsSent := by
    intro x
    unfold enter
    split <;> exact ⟨rfl,rfl⟩
  obtain ⟨hframe,hcount⟩ := hkept ((r.touch d.pointer).load (r.builtFrame t d))
  obtain ⟨htx,hsame⟩ := henter (transmitDatagram r t d i)
  have htxframe : (enter (transmitDatagram r t d i) a).tx.frame = r.builtFrame t d := by
    rw [htx]
    exact hframe
  have hair := enter_onAir (transmitDatagram r t d i) a
  rcases transmitDatagram_onAir r t d i with ho | ho
  · exact ⟨[],.inl rfl,hretains,htxframe,by rw [hair,ho,List.append_nil],hsame.trans hcount⟩
  · exact ⟨_,.inr rfl,hretains,htxframe,hair.trans ho,hsame.trans hcount⟩

/-- The radio as it goes into a numbered transmission. -/
structure Ready (r s : Radio) : Prop where
  keeps : Keeps r s
  datagramsSent : s.datagramsSent = r.datagramsSent
  myVc : s.myVc = r.myVc

/-- A new numbered frame starts. -/
theorem starts_effect {r s : Radio} {t : DatagramType} {d d' : Datagram} {i : Inputs}
    (hs : Ready r s) (hstate : r.radioState = .waitReceive)
    (hstart : r.starting i = some (t,d)) (hseq : t.sequenced true = true)
    (hdest : d'.destVc = d.destVc) (hsrc : d'.srcVc = d.srcVc) :
    Effect r i none (enter (transmitDatagram s t d' i) .waitTxDone).awaitAck := by
  obtain ⟨sent,hsent,hattempt⟩ := xmit_attempt s t d' i .waitTxDone
  refine ⟨_,.starts (s.builtFrame t d') d sent hstate hstart hseq hdest hsrc ?_
    hs.datagramsSent hsent,?_⟩
  · have ht : t ≠ .dataAck := by
      rintro rfl
      simp [DatagramType.sequenced] at hseq
    simp only [Radio.builtFrame,selectAckNumber,ht,if_false]
    rw [hs.keeps.circuit_numbers]
  · have hall := hs.keeps.1.trans hattempt.retains
    generalize enter (transmitDatagram s t d' i) .waitTxDone = u at hattempt hall
    refine ⟨hall.numbers,?_,fun _ => rfl,hattempt.frame,?_,?_,hall.radioTxBuffer,hall.unsent,?_⟩
    · change u.delivered.filter _ = r.delivered.filter _
      rw [hall.delivered]
    · change told (.started u.tx.frame :: u.history) = told (.started _ :: r.history)
      rw [hattempt.frame,hall.history]
    · change r.datagramsSent + 1 ≤ u.datagramsSent
      rw [hattempt.datagramsSent,hs.datagramsSent]
    · change u.onAir.filter _ = (r.onAir ++ sent).filter _
      rw [hattempt.onAir,List.filter_append,List.filter_append,hs.keeps.onAir]

/-- Priority 2: an outstanding ACK. -/
theorem waitReceiveRetransmit_effect (r : Radio) (i : Inputs) (hon : r.ackTimer = true) :
    Effect r i none (waitReceiveRetransmit r i) := by
  unfold waitReceiveRetransmit
  have hkeeps := (setTxDestVc_keeps r r.rexmtTxDestVc).trans
    (touch_keeps _ (.entry r.rexmtTxDestVc.number))
  dsimp only
  generalize (r.setTxDestVc r.rexmtTxDestVc).touch (.entry r.rexmtTxDestVc.number) = s at hkeeps
  split
  · exact (hkeeps.calm.trans (stopAckTimer_calm s)).effect i _
  split
  · split
    · have hpointer := touchIf_keeps s (s.txDestVc.toNat ≤ maxVc) (.entry s.txDestVc.toInt)
      have hall := hkeeps.trans hpointer
      generalize (if s.txDestVc.toNat ≤ maxVc then
          s.touch (.entry s.txDestVc.toInt) else s) = t at hall
      have hrestore : Keeps t t.restoreTxBuffer := .of_eq rfl
      have hsent := (hrestore.1.trans (retransmitDatagram_retains t.restoreTxBuffer i)).trans
        (enter_keeps (retransmitDatagram t.restoreTxBuffer i) .waitTxDone).1
      have hair := enter_onAir (retransmitDatagram t.restoreTxBuffer i) .waitTxDone
      have htimer : ∀ u : Radio, Retains t u → Calm u u.startAckTimer := by
        intro u hu
        have hup : u.ackTimer = true := (hu.ackTimer.trans hall.ackTimer).trans hon
        exact ⟨fun _ => rfl,rfl,fun _ => hup,rfl,rfl,le_rfl,fun _ => id,fun _ => id,rfl⟩
      refine Effect.calm ?_ (htimer _ hsent)
      rcases retransmitDatagram_onAir t.restoreTxBuffer i with ho | ho
      · have hnone := hsent.say (hair.trans (ho.trans (List.append_nil _).symm))
        have hnil : t.say [] = t := by simp [Radio.say]
        rw [hnil] at hnone
        exact (hall.calm.trans hnone).effect i _
      · refine ⟨_,.resends hon,?_⟩
        have hframe : t.restoreTxBuffer.tx.frame = r.rexmt.frame := hall.rexmt
        rw [hframe] at ho
        exact (hall.calm.say _).trans (hsent.say (hair.trans ho))
    · exact ((hkeeps.trans (touch_keeps s .uninitialised)).calm.trans
        (vcBreakLink_calm _ _)).effect i _
  · exact hkeeps.effect i _

/-- What vcSerialMessageReceived can do: drop a message, leave the bytes of a
message to this radio itself, or ready one for transmission. -/
inductive Readied (r : Radio) : Radio × Option Datagram → Prop
  | nothing (s) (hs : Calm r s) : Readied r (s,none)
  | itself (s) (m : Datagram) (hs : Calm (r.setUnsent (some m)) s)
      (hm : VcAddress.Parked m.destVc r.myVc) : Readied r (s,none)
  | message (s) (m : Datagram) (hs : Ready r s) (hm : m ∈ r.radioTxBuffer)
      (hdest : m.destVc = vcBroadcast ∨ m.destVc.toNat < minRxNotAllowed.toNat) :
      Readied r (s,some m)

theorem vcSerialMessageReceived_readied (r : Radio) (i : Inputs) :
    Readied r (vcSerialMessageReceived r i) := by
  unfold vcSerialMessageReceived
  split
  · exact .nothing r (.refl r)
  next m rest hbuffer =>
  have hrest : Keeps r (r.setRadioTxBuffer rest) :=
    setRadioTxBuffer_keeps (by simp [hbuffer]; tauto)
  have hready : Ready r (r.setRadioTxBuffer rest) := ⟨hrest,rfl,rfl⟩
  dsimp only
  generalize r.setRadioTxBuffer rest = s at hready
  split
  · exact .nothing s hready.keeps.calm
  next hdest =>
  have hdest : m.destVc = vcBroadcast ∨ m.destVc.toNat < minRxNotAllowed.toNat := by
    by_cases hb : m.destVc = vcBroadcast
    · exact .inl hb
    · exact .inr (by by_contra hlarge; exact hdest ⟨not_lt.mp hlarge,hb⟩)
  split
  · split
    · exact .nothing s hready.keeps.calm
    · exact .nothing _ (hready.keeps.calm.trans (vcBreakLink_calm s _))
  have hfind : Ready r
      (if m.destVc = vcBroadcast then s else s.touch (.entry m.destVc.number)) := by
    split
    · exact hready
    · exact ⟨hready.keeps.trans (touch_keeps s _),hready.datagramsSent,hready.myVc⟩
  generalize (if m.destVc = vcBroadcast then s else s.touch (.entry m.destVc.number)) = t at hfind
  split
  · refine .nothing _ (hfind.keeps.calm.trans ?_)
    split
    · exact log_calm t rfl
    · exact .refl t
  split
  next hself =>
    obtain ⟨hb,hmy,hchannel⟩ := hself
    rw [hfind.myVc] at hmy
    have hsmall : m.destVc.toNat < maxVc := by
      have hzero : m.destVc.toNat / 32 = 0 := hchannel
      simp only [maxVc]
      omega
    rw [VcAddress.ofNumber_number hsmall] at hmy
    cases hu : t.unsent with
    | none =>
      refine .nothing _ (hfind.keeps.trans (.of_eq ?_)).calm
      simp [Radio.setUnsent,Radio.kept,hu]
    | some left =>
      refine .itself _ (m.over left) ?_ ⟨hb,?_,.inl hmy⟩
      · have h := hfind.keeps.calm
        refine ⟨h.numbers,h.delivered,h.ackTimer,h.rexmt,h.told,h.datagramsSent,h.radioTxBuffer,
          ?_,h.onAir⟩
        simp [Radio.setUnsent]
      · intro hun
        have hlarge : m.destVc.toNat = 0xFD := by
          rw [show m.destVc = vcUnassigned from hun]
          rfl
        simp only [maxVc] at hsmall
        omega
  · exact .message t m hfind (by simp [hbuffer]) hdest

theorem atFront_srcVc (r : Radio) (d : Datagram) (i : Inputs) :
    (r.atFront d i).srcVc = d.srcVc := by
  unfold Radio.atFront
  split <;> rfl

/-- The lowest priority. -/
theorem waitReceiveMessage_effect {r s : Radio} {m : Datagram} {i : Inputs} (hs : Ready r s)
    (hstate : r.radioState = .waitReceive)
    (hdest : m.destVc = vcBroadcast ∨ m.destVc.toNat < minRxNotAllowed.toNat)
    (hstart : r.starting i =
      if m.destVc = vcBroadcast then none
      else if m.destVc.channel = 0 then some (.data,m)
      else if m.destVc.channel = 1 ∧ VcAddress.ofNumber m.destVc.number ≠ r.myVc then
        some (.remoteCommand,{ m with destVc := .ofNumber m.destVc.number })
      else none) :
    Effect r i none (waitReceiveMessage s m i) := by
  unfold waitReceiveMessage
  split
  · exact (hs.keeps.trans (xmit_keeps s .datagram _ i _)).effect i _
  next hb =>
  rw [if_neg hb] at hstart
  split
  next hchannel =>
    rw [if_pos hchannel] at hstart
    exact starts_effect hs hstate hstart rfl (atFront_destVc s m i) (atFront_srcVc s m i)
  next hzero =>
  rw [if_neg hzero] at hstart
  split
  next hchannel =>
    split
    · exact ((hs.keeps.trans (setUnsent_none_keeps s)).calm.trans
        (checkRemoteCommand_calm _ i.command)).effect i _
    next hmy =>
      rw [hs.myVc] at hmy
      rw [if_pos ⟨hchannel,hmy⟩] at hstart
      exact starts_effect hs hstate hstart rfl rfl (atFront_srcVc s m i)
  next hone =>
    have hsmall : m.destVc.toNat < 0xE0 := hdest.resolve_left hb
    have hlarge : maxVc ≤ m.destVc.toNat := by
      simp only [VcAddress.channel,maxVc] at hzero ⊢
      omega
    refine ⟨_,.leaves (s.atFront m i) ?_,?_⟩
    · rw [atFront_destVc]
      refine ⟨hb,?_,.inr hlarge⟩
      intro hun
      rw [hun] at hsmall
      exact absurd hsmall (by decide)
    · have h := hs.keeps.calm
      exact ⟨h.numbers,h.delivered,h.ackTimer,h.rexmt,h.told,h.datagramsSent,h.radioTxBuffer,
        by simp [Radio.setUnsent],h.onAir⟩

/-- RADIO_VC_WAIT_RECEIVE, nothing received. -/
theorem waitReceiveTransmit_effect (r : Radio) (i : Inputs) (hstate : r.radioState = .waitReceive)
    (hfree : i.receiveInProcess = false) : Effect r i none (waitReceiveTransmit r i) := by
  unfold waitReceiveTransmit
  split
  · have hsent : Keeps r (xmitVcHeartbeat r r.myVc r.myUniqueId i).1 :=
      transmitDatagram_keeps r .vcHeartbeat _ i
    dsimp only
    split
    · refine Effect.calm (Keeps.effect (hsent.trans ?_) i _) (changeState_keeps _ _).calm
      split
      · exact refresh_keeps _ _ i
      · exact .refl _
    · exact hsent.effect i _
  next hheart =>
  split
  next hon => exact waitReceiveRetransmit_effect r i hon
  next hoff =>
  have hnow : ¬ (i.receiveInProcess = true ∨ i.heartbeatTimeout = true ∨ r.ackTimer = true) := by
    simp [hfree,hheart,hoff]
  split
  next packet hpacket =>
    refine starts_effect (d := .build r.rmtCmdVc r.myVc packet) ⟨.refl r,rfl,rfl⟩ hstate ?_ rfl
      (atFront_destVc _ _ i) (atFront_srcVc _ _ i)
    simp only [Radio.starting,if_neg hnow,hpacket]
  next hpacket =>
  split
  · exact (waitReceiveHandshake_keeps r i).effect i _
  next hidle =>
    have hstart : r.starting i = match (vcSerialMessageReceived r i).2 with
        | none => none
        | some m =>
          if m.destVc = vcBroadcast then none
          else if m.destVc.channel = 0 then some (.data,m)
          else if m.destVc.channel = 1 ∧ VcAddress.ofNumber m.destVc.number ≠ r.myVc then
            some (.remoteCommand,{ m with destVc := .ofNumber m.destVc.number })
          else none := by
      simp only [Radio.starting,if_neg hnow,hpacket,if_neg hidle]
    have hread := vcSerialMessageReceived_readied r i
    generalize vcSerialMessageReceived r i = q at hread hstart
    cases hread with
    | nothing s hs => exact hs.effect i _
    | itself s m hs hm => exact ⟨_,.leaves m hm,hs⟩
    | message s m hs hm hdest => exact waitReceiveMessage_effect hs hstate hdest hstart

theorem reset_calm {r : Radio} (hstate : r.radioState = .reset) (packet : Option Reception)
    (i : Inputs) : Calm r (updateRadioState r packet i) := by
  unfold updateRadioState
  rw [hstate]
  exact (stopAckTimer_calm r).trans (resetPass_keeps r i).calm

theorem updateRadioState_effect (r : Radio) (packet : Option Reception) (i : Inputs) :
    Effect r i packet (updateRadioState r packet i) := by
  unfold updateRadioState
  split
  next hstate =>
    have hcalm := reset_calm hstate packet i
    simp only [updateRadioState,hstate] at hcalm
    exact hcalm.effect i _
  next hstate => exact waitServerPass_effect r packet i hstate
  · unfold waitTxDonePass
    split
    · exact ((touch_keeps r _).trans (changeState_keeps _ _)).effect i _
    · exact (Keeps.refl r).effect i _
  next hstate =>
    unfold waitReceivePass
    refine Effect.calm ?_ (setAtLinkCheck_keeps _ true).calm
    cases packet with
    | some p => exact waitReceiveFrame_effect r p i hstate
    | none =>
      dsimp only
      split
      · exact (Keeps.refl r).effect i _
      next hfree => exact waitReceiveTransmit_effect r i hstate (by simpa using hfree)

end LoRaSerial.VC
