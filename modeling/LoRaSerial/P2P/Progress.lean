import LoRaSerial.P2P.Delivery
import LoRaSerial.P2P.Payloads

namespace LoRaSerial.P2P
open StopAndWait Runs

variable {l : Link} {r q : Radio} {x : Side} {i : Inputs} {p : Pass} {f g : Frame} {n : Nat}

/-- Nothing is due, and there is room for `n` bytes. -/
def Inputs.calm (n : Nat) : Inputs := { Inputs.idle with space := ⟨n,n,false⟩ }

theorem calm_not_lacks (n : Nat) (t : DatagramType) : ¬(Inputs.calm n).space.Lacks n t := by
  rintro (⟨h,-⟩ | h)
  · cases h
  · cases t <;> exact absurd h (Nat.lt_irrefl n)

/-- The end of a transmission of a linked radio. -/
theorem updateRadioState_finished (hr : r.Linked) (n : Nat) :
    updateRadioState r (some (.damaged .bad)) (.calm n) =
      { radio := { r with radioState := .linkUp } } := by
  obtain ⟨state,vc,ackTimer,requestYield,tx,rexmt⟩ := r
  rcases hr with hr | hr
  · obtain rfl : state = .linkUp := hr
    rfl
  · obtain rfl : state = .linkUpWaitTxDone := hr
    rfl

theorem Frame.Sequenced.ne_dataAck (hg : g.Sequenced) : g.control.datagramType ≠ .dataAck := by
  intro ht
  have hseq := hg.1
  rw [ht] at hseq
  cases hseq

/-- A numbered frame that fits is accepted or has been accepted before. -/
theorem rcvDatagram_heard (hg : g.Sequenced)
    (hnumber : g.control.ackNumber = r.vc.rmtTxAckNumber ∨
      g.control.ackNumber + 1 = r.vc.rmtTxAckNumber ∧ r.vc.rxAckNumber = g.control.ackNumber) :
    let out := rcvDatagram r (.frame g) (.calm g.payload.length)
    out.1.vc.rxAckNumber = g.control.ackNumber ∧ out.1.tx = r.tx ∧
      out.1.ackTimer = r.ackTimer ∧
      (out.2 = .duplicate ∨ out.2 = .datagram g.control.datagramType) := by
  have hcheck := rcvNumber_check false r.vc g.control g.payload.length
    (Inputs.calm g.payload.length).space
  simp only [rcvDatagram,hg.2,Bool.false_eq_true,if_false]
  revert hcheck
  generalize rcvNumber false r.vc g.control g.payload.length
    (Inputs.calm g.payload.length).space = out
  intro hcheck
  cases hcheck with
  | duplicate _ hn =>
    refine ⟨?_,rfl,rfl,.inl rfl⟩
    rcases hnumber with h | ⟨-,h⟩
    · rw [h] at hn
      exact absurd (add_eq_left.mp hn) one_ne_zero
    · exact h
  | foreign _ hne hnd => exact (hnumber.elim hne fun h => hnd h.1).elim
  | noRoom _ _ hs => exact absurd hs (calm_not_lacks _ _)
  | accept _ hn => exact ⟨hn.symm,rfl,rfl,.inr rfl⟩
  | ackRefused ht => exact absurd ht hg.ne_dataAck
  | acknowledged ht => exact absurd ht hg.ne_dataAck
  | unnumbered hseq =>
    rw [hg.1] at hseq
    cases hseq

/-- A radio that answers with the ACK of number `n`. -/
structure Answered (r : Radio) (p : Pass) (n : AckNumber) : Prop where
  linked : p.radio.Linked
  ackTimer : p.radio.ackTimer = r.ackTimer
  onAir : ∃ f, p.onAir = some f ∧ f.Carries .dataAck ∧ f.control.ackNumber = n

theorem p2pSendAck_answered (hignore : q.tx.control.ignoreFrame = false) (n : Nat) :
    Answered q (p2pSendAck q (.calm n)) q.vc.rxAckNumber :=
  ⟨.inr rfl,rfl,_,rfl,⟨rfl,hignore⟩,rfl⟩

/-- A linked radio acknowledges a frame that it expects or has had. -/
theorem updateRadioState_heard (hr : r.radioState = .linkUp)
    (hignore : r.tx.control.ignoreFrame = false) (hg : g.Sequenced)
    (hnumber : g.control.ackNumber = r.vc.rmtTxAckNumber ∨
      g.control.ackNumber + 1 = r.vc.rmtTxAckNumber ∧ r.vc.rxAckNumber = g.control.ackNumber) :
    Answered r (updateRadioState r (some (.frame g)) (.calm g.payload.length))
      g.control.ackNumber := by
  have hseq := hg.1
  obtain ⟨hrx,htx,htimer,htype⟩ := rcvDatagram_heard hg hnumber
  have hpass : updateRadioState r (some (.frame g)) (.calm g.payload.length) =
      linkUpReceive r (.frame g) (.calm g.payload.length) := by
    unfold updateRadioState linkUpPass
    rw [hr]
    rfl
  rw [hpass]
  unfold linkUpReceive
  revert hrx htx htimer htype
  generalize rcvDatagram r (.frame g) (.calm g.payload.length) = out
  obtain ⟨q,t⟩ := out
  intro hrx htx htimer htype
  have hsent := p2pSendAck_answered (q := q) (htx.symm ▸ hignore) g.payload.length
  rw [hrx] at hsent
  have hanswer : Answered r (p2pSendAck q (.calm g.payload.length)) g.control.ackNumber :=
    ⟨hsent.linked,hsent.ackTimer.trans htimer,hsent.onAir⟩
  rcases htype with ht | ht
  · obtain rfl : t = .duplicate := ht
    exact hanswer
  · obtain rfl : t = .datagram g.control.datagramType := ht
    revert hseq
    cases g.control.datagramType with
    | data => exact fun _ => ⟨hanswer.linked,hanswer.ackTimer,hanswer.onAir⟩
    | heartbeat | remoteCommand | remoteCommandResponse => exact fun _ => hanswer
    | _ => exact fun hseq => nomatch hseq

theorem updateRadioState_acknowledged (hr : r.radioState = .linkUp) (hf : f.Carries .dataAck)
    (hnumber : f.control.ackNumber = r.vc.txAckNumber) (n : Nat) :
    let p := updateRadioState r (some (.frame f)) (.calm n)
    p.radio.radioState = .linkUp ∧ p.radio.ackTimer = false ∧ p.onAir = none ∧
      p.linkUp = false ∧ p.taken = [] := by
  obtain ⟨state,vc,ackTimer,requestYield,tx,rexmt⟩ := r
  obtain ⟨⟨t,number,yield,ignore⟩,payload⟩ := f
  obtain ⟨rfl,rfl⟩ : t = .dataAck ∧ ignore = false := hf
  obtain rfl : state = .linkUp := hr
  obtain rfl : number = vc.txAckNumber := hnumber
  have hrcv : rcvNumber false vc ⟨.dataAck,vc.txAckNumber,yield,false⟩ payload.length
      (Inputs.calm n).space = ({ vc with txAckNumber := vc.txAckNumber + 1 },.datagram .dataAck) :=
    if_neg (not_not.mpr rfl)
  simp only [updateRadioState,linkUpPass,linkUpReceive,rcvDatagram,hrcv]
  simp [Inputs.calm,Inputs.idle,Radio.stopAckTimer]

/-- A pass that puts a numbered frame on the air and waits for its ACK. -/
structure Transmitted (r : Radio) (p : Pass) (g : Frame) : Prop where
  linked : p.radio.Linked
  vc : p.radio.vc = r.vc
  onAir : p.onAir = some g
  sequenced : g.Sequenced
  number : g.control.ackNumber = r.vc.txAckNumber
  linkUp : p.linkUp = false

/-- The next payload is taken from radioTxBuffer. -/
def Inputs.sending (payload : List UInt8) : Inputs :=
  { Inputs.idle with
    availableRadioTXBytes := true, serialPacket := some payload, yieldTimeout := true }

/-- The kept frame is due again. -/
def Inputs.resending : Inputs := { Inputs.idle with retransmitTimeout := true }

theorem updateRadioState_sending (hr : r.radioState = .linkUp) (hsound : r.Sound)
    (htimer : r.ackTimer = false) (payload : List UInt8) :
    (∃ g, Transmitted r (updateRadioState r none (.sending payload)) g) ∧
      (updateRadioState r none (.sending payload)).taken = [payload] := by
  have hignore := hsound.ignoreFrame (by rw [hr]; decide)
  obtain ⟨state,vc,ackTimer,requestYield,tx,rexmt⟩ := r
  obtain rfl : state = .linkUp := hr
  obtain rfl : ackTimer = false := htimer
  cases requestYield with
  | false => exact ⟨⟨_,.inr rfl,rfl,rfl,⟨rfl,hignore⟩,rfl,rfl⟩,rfl⟩
  | true => exact ⟨⟨_,.inr rfl,rfl,rfl,⟨rfl,hignore⟩,rfl,rfl⟩,rfl⟩

theorem updateRadioState_resending (hr : r.radioState = .linkUp) (hsound : r.Sound)
    (htimer : r.ackTimer = true) :
    (∃ g, Transmitted r (updateRadioState r none .resending) g) ∧
      (updateRadioState r none .resending).taken = [] := by
  obtain ⟨hseq,hnumber⟩ := hsound.kept (.inl hr) htimer
  have hpass : updateRadioState r none .resending = linkUpRetransmit r .resending := by
    unfold updateRadioState linkUpPass linkUpTransmit
    rw [hr,htimer]
    rfl
  rw [hpass]
  unfold linkUpRetransmit
  rw [if_pos (.inl rfl)]
  dsimp only
  split
  · exact ⟨⟨_,.inr rfl,rfl,rfl,⟨rfl,hseq.2⟩,rfl,rfl⟩,rfl⟩
  · exact ⟨⟨_,.inr rfl,rfl,rfl,hseq,hnumber,rfl⟩,rfl⟩

/-- Both radios wait for something to do, and nothing is in flight. -/
structure Link.Quiet (l : Link) : Prop where
  linkUp : ∀ y, (l.radio y).radioState = .linkUp
  air : l.air = none

theorem Link.Quiet.linked (h : l.Quiet) (y : Side) : (l.radio y).Linked := .inl (h.linkUp y)

/-- The transmission of `x` ends. -/
def finish (x : Side) : Event := .pass x (.finished .bad) (.calm 0)

theorem step_finish (hl : (l.radio x).Linked) :
    l.step (finish x) =
      { l with radio := Function.update l.radio x { l.radio x with radioState := .linkUp } } := by
  have hpass : l.step (finish x) =
      l.afterPass x l.air { radio := { l.radio x with radioState := .linkUp } } :=
    congrArg (l.afterPass x l.air) (updateRadioState_finished hl 0)
  rw [hpass]
  simp [Link.afterPass]

/-- What is in flight is lost, and the transmissions end. -/
def settle : List Event := [.lose,finish .a,finish .b]

theorem settle_quiet (hlinked : ∀ y, (l.radio y).Linked) :
    (run Link.step l settle).Quiet ∧ (run Link.step l settle).taken = l.taken ∧
      ∀ y, ((run Link.step l settle).radio y).ackTimer = (l.radio y).ackTimer := by
  have ha : ((l.step .lose).radio .a).Linked := hlinked .a
  have hb : (((l.step .lose).step (finish .a)).radio .b).Linked := by
    rw [step_finish ha]
    exact hlinked .b
  have hrun : run Link.step l settle = ((l.step .lose).step (finish .a)).step (finish .b) := rfl
  rw [hrun,step_finish hb,step_finish ha]
  refine ⟨⟨?_,rfl⟩,rfl,?_⟩
  · intro y
    cases y <;> rfl
  · intro y
    cases y <;> rfl

theorem step_pass (l : Link) (x : Side) (t : Transaction) (i : Inputs) :
    l.step (.pass x t i) = l.afterPass x (l.receive x t).2
      (updateRadioState (l.radio x) (l.receive x t).1 i) := rfl

theorem step_received {s : Side} (hair : l.air = some (s,g)) (hs : s ≠ x) (i : Inputs) :
    l.step (.pass x .received i) =
      l.afterPass x none (updateRadioState (l.radio x) (some (.frame g)) i) := by
  have hreceive : l.receive x .received = (some (.frame g),none) := by
    unfold Link.receive
    rw [hair]
    exact if_neg hs
  rw [step_pass,hreceive]

/-- A frame goes out, is answered, and the answer comes back. -/
def round (x : Side) (i : Inputs) (g : Frame) : List Event :=
  [.pass x .none i,finish x,.pass x.other .received (.calm g.payload.length),
    finish x.other,.pass x .received (.calm 0)]

theorem round_quiet (hquiet : l.Quiet) (hinv : Consistent Agrees l)
    (hsent : Transmitted (l.radio x) (updateRadioState (l.radio x) none i) g) :
    (run Link.step l (round x i g)).Quiet ∧
      ((run Link.step l (round x i g)).radio x).ackTimer = false ∧
      (run Link.step l (round x i g)).taken x =
        l.taken x ++ (updateRadioState (l.radio x) none i).taken := by
  have hagrees := hinv.linked x (hquiet.linked x) (hquiet.linked x.other)
  have hignore := (hinv.sound x.other).ignoreFrame (hquiet.linked x.other).not_reset
  have hnumber : g.control.ackNumber = (l.radio x.other).vc.rmtTxAckNumber ∨
      g.control.ackNumber + 1 = (l.radio x.other).vc.rmtTxAckNumber ∧
        (l.radio x.other).vc.rxAckNumber = g.control.ackNumber := by
    rw [hsent.number]
    rcases hagrees.inStep with he | ⟨he,hc,-⟩
    · exact .inl he.symm
    · exact .inr ⟨he.symm,hc⟩
  have hheard := updateRadioState_heard (hquiet.linkUp x.other) hignore hsent.sequenced hnumber
  have hmoved := updateRadioState_moved (l.radio x.other) (some (.frame g))
    (.calm g.payload.length)
  generalize hp : updateRadioState (l.radio x) none i = p at hsent ⊢
  generalize hq : updateRadioState (l.radio x.other) (some (.frame g)) (.calm g.payload.length) = q
    at hheard
  obtain ⟨f,hair,hf,hfn⟩ := hheard.onAir
  let m₁ := l.afterPass x none p
  let m₂ : Link :=
    { m₁ with radio := Function.update m₁.radio x { p.radio with radioState := .linkUp } }
  let m₃ := m₂.afterPass x.other none q
  let m₄ : Link :=
    { m₃ with radio := Function.update m₃.radio x.other { q.radio with radioState := .linkUp } }
  have h₁ : l.step (.pass x .none i) = m₁ := by
    change l.afterPass x l.air (updateRadioState (l.radio x) none i) = m₁
    rw [hp,hquiet.air]
  have h₂ : m₁.step (finish x) = m₂ := by
    have hl : (m₁.radio x).Linked := by
      rw [afterPass_radio_self]
      exact hsent.linked
    rw [step_finish hl,afterPass_radio_self]
  have h₃ : m₂.step (.pass x.other .received (.calm g.payload.length)) = m₃ := by
    have hair₂ : m₂.air = some (x,g) := by simp [m₂,m₁,hsent.onAir]
    have hother : m₂.radio x.other = l.radio x.other := by simp [m₂,m₁]
    rw [step_received hair₂ x.ne_other,hother,hq]
  have h₄ : m₃.step (finish x.other) = m₄ := by
    have hl : (m₃.radio x.other).Linked := by
      rw [afterPass_radio_self]
      exact hheard.linked
    rw [step_finish hl,afterPass_radio_self]
  have hair₄ : m₄.air = some (x.other,f) := by simp [m₄,m₃,hair]
  have hself : m₄.radio x = { p.radio with radioState := .linkUp } := by
    simp [m₄,m₃,m₂,Link.afterPass]
  have hother : m₄.radio x.other = { q.radio with radioState := .linkUp } := by
    simp [m₄]
  have htaken : m₄.taken x = l.taken x ++ p.taken := by
    simp [m₄,m₃,m₂,m₁,Link.afterPass,hsent.linkUp]
  have hrun : run Link.step l (round x i g) = m₄.step (.pass x .received (.calm 0)) := by
    unfold round
    rw [run_cons,run_cons,run_cons,run_cons,run_cons,run_nil,h₁,h₂,h₃,h₄]
  obtain ⟨hstate,htimer,hsilent,hup,hnone⟩ := updateRadioState_acknowledged (r := m₄.radio x)
    (by rw [hself]) hf (by rw [hself,hfn,hsent.number,← hsent.vc]) 0
  rw [hrun,step_received hair₄ x.other_ne]
  refine ⟨⟨fun y => ?_,?_⟩,?_,?_⟩
  · rcases x.eq_or_other y with rfl | rfl
    · rw [afterPass_radio_self]
      exact hstate
    · rw [afterPass_radio_other,hother]
  · rw [afterPass_air,hsilent]
    rfl
  · rw [afterPass_radio_self]
    exact htimer
  · simp only [Link.afterPass,Function.update_self]
    rw [hup,hnone,htaken]
    simp

/-- Nothing times out that the session does not need, and nothing resets it. -/
def Event.Calm : Event → Prop
  | .pass _ _ i => i.heartbeatTimeout = false ∧ i.linkTimeout = false
  | .command _ => False
  | .lose => True

theorem Event.Calm.waits {e : Event} (h : e.Calm) (l : Link) : l.HeartbeatWaits e := by
  cases e with
  | pass x t i =>
    intro hover
    have hdue := hover.2.2.2.1
    rw [h.1] at hdue
    cases hdue
  | command x => exact h.elim
  | lose => trivial

theorem settle_calm : ∀ e ∈ settle, e.Calm := by
  simp [settle,finish,Event.Calm,Inputs.calm,Inputs.idle]

theorem round_calm (hi : (Event.pass x .none i).Calm) : ∀ e ∈ round x i g, e.Calm := by
  have hround : ∀ y t n, (Event.pass y t (.calm n)).Calm := fun _ _ _ => ⟨rfl,rfl⟩
  simp [round,finish,hi,hround]

/-- The ACK that a session waits for can arrive. -/
theorem quiet_acknowledged (hquiet : l.Quiet) (hinv : Consistent Agrees l) (x : Side) :
    ∃ fs, (∀ e ∈ fs, Event.Calm e) ∧ (run Link.step l fs).Quiet ∧
      ((run Link.step l fs).radio x).ackTimer = false ∧
      (run Link.step l fs).taken x = l.taken x := by
  cases htimer : (l.radio x).ackTimer with
  | false => exact ⟨[],List.forall_mem_nil _,hquiet,htimer,rfl⟩
  | true =>
    obtain ⟨⟨g,hsent⟩,hnone⟩ :=
      updateRadioState_resending (hquiet.linkUp x) (hinv.sound x) htimer
    obtain ⟨hquiet',htimer',htaken⟩ := round_quiet hquiet hinv hsent
    refine ⟨round x .resending g,round_calm ⟨rfl,rfl⟩,hquiet',htimer',?_⟩
    rw [htaken,hnone,List.append_nil]

theorem run_inOrder (h : l.Started) {es : List Event}
    (hwaits : Along Link.step Link.HeartbeatWaits l es) :
    Consistent (InOrder Frame.userData) (run Link.step l es) :=
  invariant (fun m e hm hok => consistent_step inOrder_kept m e hm (HeartbeatWaits.spares hok))
    h.consistent hwaits

/-- With no ACK outstanding, all that was taken has been delivered. -/
theorem delivered_of_acknowledged (hinv : Consistent (InOrder Frame.userData) l)
    (hlinked : ∀ y, (l.radio y).Linked) (htimer : (l.radio x).ackTimer = false) :
    l.delivered x.other = l.taken x := by
  have hcomplete := (hinv.linked x (hlinked x) (hlinked x.other)).complete
  simpa [Direction.unaccepted,(hlinked x).kept_off htimer] using hcomplete.symm

/-- No state of a session is a dead end: whatever was lost before, the next
payload can still be sent, and everything taken is then delivered. -/
theorem session_progresses (l : Link) (h : l.Started) (es : List Event)
    (hwaits : Along Link.step Link.HeartbeatWaits l es)
    (hlinked : ∀ y, ((run Link.step l es).radio y).Linked) (x : Side) (payload : List UInt8) :
    ∃ fs, (∀ e ∈ fs, Event.Calm e) ∧
      (∀ y, ((run Link.step l (es ++ fs)).radio y).Linked) ∧
      (run Link.step l (es ++ fs)).taken x = (run Link.step l es).taken x ++ [payload] ∧
      (run Link.step l (es ++ fs)).delivered x.other =
        (run Link.step l es).taken x ++ [payload] := by
  have hinv : ∀ fs, Consistent Agrees (run Link.step (run Link.step l es) fs) := by
    intro fs
    rw [← run_append]
    exact run_consistent h
  obtain ⟨hquiet,htaken,-⟩ := settle_quiet hlinked
  obtain ⟨fs,hcalm,hquiet,htimer,htaken'⟩ := quiet_acknowledged hquiet (hinv settle) x
  rw [← run_append] at hquiet htimer htaken'
  obtain ⟨⟨g,hsent⟩,hone⟩ := updateRadioState_sending (hquiet.linkUp x)
    ((hinv (settle ++ fs)).sound x) htimer payload
  obtain ⟨hquiet,htimer,hlast⟩ := round_quiet hquiet (hinv (settle ++ fs)) hsent
  rw [hone,htaken',htaken,← run_append,← run_append] at hlast
  rw [← run_append,← run_append] at hquiet htimer
  have hall : ∀ e ∈ settle ++ fs ++ round x (.sending payload) g, e.Calm := by
    intro e he
    rcases List.mem_append.mp he with he | he
    · exact (List.mem_append.mp he).elim (settle_calm e) (hcalm e)
    · exact round_calm ⟨rfl,rfl⟩ e he
  have hwaits' : Along Link.step Link.HeartbeatWaits l
      (es ++ (settle ++ fs ++ round x (.sending payload) g)) :=
    Along.append.mpr ⟨hwaits,along_of_forall (fun e he => (hall e he).waits) _⟩
  refine ⟨_,hall,hquiet.linked,hlast,?_⟩
  rw [← hlast]
  exact delivered_of_acknowledged (run_inOrder h hwaits') hquiet.linked htimer

theorem session_progresses_sendData :
    ∃ fs, (∀ e ∈ fs, Event.Calm e) ∧
      (∀ y, ((run Link.step .powerUp (handshake ++ sendData [0x30] ++ fs)).radio y).Linked) ∧
      (run Link.step .powerUp (handshake ++ sendData [0x30] ++ fs)).taken .a =
        (run Link.step .powerUp (handshake ++ sendData [0x30])).taken .a ++ [[0x31]] ∧
      (run Link.step .powerUp (handshake ++ sendData [0x30] ++ fs)).delivered .b =
        (run Link.step .powerUp (handshake ++ sendData [0x30])).taken .a ++ [[0x31]] :=
  session_progresses .powerUp ⟨fun x => by cases x <;> rfl,rfl⟩ _ (by decide)
    (fun x => by cases x <;> decide) .a [0x31]

/-- Every timer of the link has run out, and something is being received. -/
def Inputs.timedOut : Inputs :=
  { Inputs.idle with receiveInProcess := true, handshakeTimeout := true, linkTimeout := true }

/-- Where a radio goes when it waits in vain. -/
def RadioState.givenUp : RadioState → RadioState
  | .reset | .linkDown | .waitSyncClocks | .waitZeroAcks => .linkDown
  | .linkUp => .reset
  | s => s

/-- Where a radio goes at the end of a transmission. -/
def RadioState.finished : RadioState → RadioState
  | .reset | .linkDown => .linkDown
  | .waitTxFindPartnerDone | .waitSyncClocks => .waitSyncClocks
  | .waitTxSyncClocksDone | .waitZeroAcks => .waitZeroAcks
  | .waitTxZeroAcksDone | .linkUpWaitTxDone => .linkUp
  | .linkUp => .reset

theorem updateRadioState_timedOut (r : Radio) :
    (updateRadioState r none .timedOut).radio.radioState = r.radioState.givenUp ∧
      (updateRadioState r (some (.damaged .bad)) .timedOut).radio.radioState =
        r.radioState.finished := by
  obtain ⟨state,vc,ackTimer,requestYield,tx,rexmt⟩ := r
  cases state <;> exact ⟨rfl,rfl⟩

/-- Four passes end whatever `x` was at. -/
def giveUp (x : Side) : List Event :=
  [.pass x .none .timedOut,.pass x (.finished .bad) .timedOut,.pass x .none .timedOut,
    .pass x .none .timedOut]

theorem giveUp_linkDown (l : Link) (x : Side) :
    ((run Link.step l (giveUp x)).radio x).radioState = .linkDown ∧
      (run Link.step l (giveUp x)).radio x.other = l.radio x.other := by
  have hnone : ∀ m : Link, ((m.step (.pass x .none .timedOut)).radio x).radioState =
      (m.radio x).radioState.givenUp ∧
      (m.step (.pass x .none .timedOut)).radio x.other = m.radio x.other := by
    intro m
    rw [step_pass,afterPass_radio_self,afterPass_radio_other]
    exact ⟨(updateRadioState_timedOut _).1,rfl⟩
  have hfinished : ∀ m : Link,
      ((m.step (.pass x (.finished .bad) .timedOut)).radio x).radioState =
        (m.radio x).radioState.finished ∧
      (m.step (.pass x (.finished .bad) .timedOut)).radio x.other = m.radio x.other := by
    intro m
    rw [step_pass,afterPass_radio_self,afterPass_radio_other]
    exact ⟨(updateRadioState_timedOut _).2,rfl⟩
  unfold giveUp
  simp only [run_cons,run_nil,hnone,hfinished,and_true]
  cases (l.radio x).radioState <;> rfl

/-- The three-way handshake, started by `x`. -/
def connect (x : Side) : List Event :=
  [.pass x .none { Inputs.idle with findPartnerTimeout := true },
    .pass x.other .received .idle,
    .pass x (.finished .bad) .idle,.pass x.other (.finished .bad) .idle,
    .pass x .received .idle,
    .pass x (.finished .bad) .idle,.pass x.other .received .idle]

theorem connect_quiet (hdown : ∀ y, (l.radio y).radioState = .linkDown)
    (hsound : ∀ y, (l.radio y).Sound) (hair : l.air = none) (x : Side) :
    (run Link.step l (connect x)).Quiet ∧
      ∀ y, (run Link.step l (connect x)).taken y = [] ∧
        (run Link.step l (connect x)).delivered y = [] := by
  have ha := hdown .a
  have hb := hdown .b
  have hia := (hsound .a).ignoreFrame (by rw [ha]; decide)
  have hib := (hsound .b).ignoreFrame (by rw [hb]; decide)
  obtain ⟨radio,air,taken,delivered⟩ := l
  obtain rfl : air = none := hair
  obtain ⟨a,b,rfl⟩ : ∃ a b : Radio, radio = fun y => Side.casesOn y a b :=
    ⟨radio .a,radio .b,funext fun y => by cases y <;> rfl⟩
  obtain ⟨sa,va,ta,ya,⟨⟨da,na,ra,ia⟩,pa,ca⟩,xa⟩ := a
  obtain ⟨sb,vb,tb,yb,⟨⟨db,nb,rb,ib⟩,pb,cb⟩,xb⟩ := b
  obtain rfl : sa = .linkDown := ha
  obtain rfl : sb = .linkDown := hb
  obtain rfl : ia = false := hia
  obtain rfl : ib = false := hib
  cases x
  · refine ⟨⟨?_,rfl⟩,?_⟩
    · intro y
      cases y <;> rfl
    · intro y
      cases y <;> exact ⟨rfl,rfl⟩
  · refine ⟨⟨?_,rfl⟩,?_⟩
    · intro y
      cases y <;> rfl
    · intro y
      cases y <;> exact ⟨rfl,rfl⟩

/-- Both radios give up, and `x` looks for its partner. -/
def recover (x : Side) : List Event := giveUp .a ++ giveUp .b ++ .lose :: connect x

/-- No state at all is a dead end: the timeouts bring any two radios back to
RADIO_P2P_LINK_DOWN, and the handshake leads from there into a new session. -/
theorem link_recovers (l : Link) (h : l.Started) (es : List Event) (x : Side) :
    (run Link.step l (es ++ recover x)).Quiet ∧
      ∀ y, (run Link.step l (es ++ recover x)).taken y = [] ∧
        (run Link.step l (es ++ recover x)).delivered y = [] := by
  have hsound : ∀ y, ((run Link.step l (es ++ (giveUp .a ++ giveUp .b))).radio y).Sound :=
    (run_consistent h).sound
  have hdown : ∀ y,
      ((run Link.step l (es ++ (giveUp .a ++ giveUp .b))).radio y).radioState = .linkDown := by
    rw [run_append,run_append]
    obtain ⟨hb,hother⟩ := giveUp_linkDown (run Link.step (run Link.step l es) (giveUp .a)) .b
    intro y
    cases y with
    | b => exact hb
    | a =>
      have ha := (giveUp_linkDown (run Link.step l es) .a).1
      exact (congrArg Radio.radioState hother).trans ha
  unfold recover
  rw [← List.append_assoc,run_append,run_cons]
  revert hsound hdown
  generalize run Link.step l (es ++ (giveUp .a ++ giveUp .b)) = m
  intro hsound hdown
  exact connect_quiet (l := m.step .lose) hdown hsound rfl x

theorem link_recovers_displacedData :
    (run Link.step .powerUp (handshake ++ displacedData ++ recover .b)).Quiet ∧
      ∀ y, (run Link.step .powerUp (handshake ++ displacedData ++ recover .b)).taken y = [] ∧
        (run Link.step .powerUp (handshake ++ displacedData ++ recover .b)).delivered y = [] :=
  link_recovers .powerUp ⟨fun x => by cases x <;> rfl,rfl⟩ _ .b

end LoRaSerial.P2P
