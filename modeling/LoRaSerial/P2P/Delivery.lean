import LoRaSerial.P2P.Consistency

namespace LoRaSerial.P2P
open StopAndWait Runs

theorem agrees_kept : Kept (fun _ => True) Agrees where
  step _ _ hs h := hs.agrees _ _ h
  fresh := ⟨.inl rfl,by simp [direction],by simp [direction]⟩

theorem inOrder_kept : Kept (Spare Frame.userData) (InOrder Frame.userData) where
  step _ _ hs h := hs.inOrder _ h
  fresh := ⟨agrees_kept.fresh,rfl,by simp [direction]⟩

theorem run_consistent {l : Link} {es : List Event} (h : l.Started) :
    Consistent Agrees (run Link.step l es) := by
  have hall := along_true Link.step l es
  refine invariant ?_ h.consistent hall
  intro m e hm _
  refine consistent_step agrees_kept m e hm ?_
  cases e <;> simp [Link.Spares]

/-- The two directions of a session in terms of the radios themselves. -/
theorem Consistent.linked {Good : Direction AckNumber Frame (List UInt8) → Prop} {l : Link}
    (h : Consistent Good l) (x : Side) (hx : (l.radio x).Linked)
    (hy : (l.radio x.other).Linked) :
    Good { next := (l.radio x).vc.txAckNumber
           outstanding := (l.radio x).kept
           expected := (l.radio x.other).vc.rmtTxAckNumber
           confirmed := (l.radio x.other).vc.rxAckNumber
           air := airOf x l.air
           taken := l.taken x
           delivered := l.delivered x.other } := by
  have hpair := (h.session x (.inl hx) (.inl (.inl hy))).1
  rw [Link.peer_committed (.inl hy)] at hpair
  simpa [direction,Link.view,hx.numbers,hy.numbers,hx.not_waiting,hy.not_waiting] using hpair

/-- What the two radios of a session agree on, for the direction from `x`. -/
structure Link.InStep (l : Link) (x : Side) : Prop where
  numbers : (l.radio x.other).vc.rmtTxAckNumber = (l.radio x).vc.txAckNumber ∨
    ((l.radio x.other).vc.rmtTxAckNumber = (l.radio x).vc.txAckNumber + 1 ∧
      (l.radio x).ackTimer = true)
  noInvalidNumber : ∀ f i, l.air = some (x,f) → f.Sequenced →
    (rcvDatagram (l.radio x.other) (.frame f) i).2 = .bad →
      f.control.ackNumber = (l.radio x.other).vc.rmtTxAckNumber ∧
        i.space.Lacks f.payload.length f.control.datagramType
  noStrayAck : ∀ f i, l.air = some (x.other,f) →
    (rcvDatagram (l.radio x) (.frame f) i).2 = .datagram .dataAck →
      (l.radio x).ackTimer = true

theorem kept_isSome {r : Radio} (h : r.kept.isSome) : r.ackTimer = true := by
  unfold Radio.kept at h
  split at h
  · simp at h
  next hno => simpa using (not_or.mp hno).2

/-- The reasons for which rcvDatagram discards a numbered frame. -/
theorem rcvDatagram_bad {r : Radio} {f : Frame} {i : Inputs} (hf : f.Sequenced)
    (h : (rcvDatagram r (.frame f) i).2 = .bad) :
    (f.control.ackNumber ≠ r.vc.rmtTxAckNumber ∧
      f.control.ackNumber + 1 ≠ r.vc.rmtTxAckNumber) ∨
    (f.control.ackNumber = r.vc.rmtTxAckNumber ∧
      i.space.Lacks f.payload.length f.control.datagramType) := by
  have hcheck := rcvNumber_check false r.vc f.control f.payload.length i.space
  have hack : f.control.datagramType ≠ .dataAck := by
    intro ht
    have hseq := hf.1
    simp [ht,DatagramType.sequenced] at hseq
  simp only [rcvDatagram,hf.2,Bool.false_eq_true,if_false] at h
  revert hcheck h
  generalize rcvNumber false r.vc f.control f.payload.length i.space = q
  intro hcheck h
  cases hcheck with
  | duplicate => simp at h
  | foreign _ hn hd => exact .inl ⟨hn,hd⟩
  | noRoom _ hn hs => exact .inr ⟨hn,hs⟩
  | accept => simp at h
  | ackRefused ht => exact absurd ht hack
  | acknowledged ht => exact absurd ht hack
  | unnumbered => simp at h

theorem Agrees.inStep_link {l : Link} (h : Consistent Agrees l)
    (hlinked : ∀ x, (l.radio x).Linked) (x : Side) : l.InStep x := by
  have hd := h.linked x (hlinked x) (hlinked x.other)
  refine ⟨?_,?_,?_⟩
  · exact hd.inStep.imp id fun ⟨he,_,ho⟩ => ⟨he,kept_isSome ho⟩
  · intro f i hair hf hbad
    rcases rcvDatagram_bad hf hbad with ⟨hn,hdup⟩ | hroom
    · have hknown := hd.frame_known (n := f.control.ackNumber) (p := f)
        (by simp only [hair,hf.airOf_sender])
      exact absurd hknown (not_or.mpr ⟨hn,hdup⟩)
    · exact hroom
  · intro f i hair hack
    obtain ⟨g,hg,hf⟩ := (rcvDatagram_same (l.radio x) (.frame f) i).2.2 _ hack
    obtain rfl : f = g := by simpa using hg
    exact kept_isSome (hd.ack_awaited (n := f.control.ackNumber)
      (by simp only [hair,airOf_ack_receiver hf]))

/-- Two radios started in RADIO_RESET agree on their numbers whenever both are
linked, whatever handshakes, losses, timeouts and resets came before. -/
theorem linked_inStep (l : Link) (h : l.Started) (es : List Event)
    (hlinked : ∀ x, ((run Link.step l es).radio x).Linked) (x : Side) :
    (run Link.step l es).InStep x :=
  Agrees.inStep_link (run_consistent h) hlinked x

/-- A powered-up radio and a pass for which nothing is due. -/
def Radio.powerUp : Radio where
  radioState := .reset
  vc := .zero
  ackTimer := false
  requestYield := false
  tx := ⟨⟨.findPartner,0,false,false⟩,[],0⟩
  rexmt := ⟨⟨.findPartner,0,false,false⟩,[],0⟩

def Link.powerUp : Link where
  radio _ := .powerUp
  air := none
  taken _ := []
  delivered _ := []

def Inputs.idle : Inputs where
  millis := 0
  channelNumber := 0
  maxResends := 0
  transmit := .sent
  receiveInProcess := false
  findPartnerTimeout := false
  handshakeTimeout := false
  heartbeatTimeout := false
  retransmitTimeout := false
  yieldTimeout := false
  linkTimeout := false
  remoteCommandResponse := false
  commandPacket := none
  availableRadioTXBytes := false
  serialPacket := none
  space := ⟨100,4096,false⟩

/-- Both radios leave RADIO_RESET and complete the three-way handshake. -/
def handshake : List Event :=
  [.pass .a .none .idle,.lose,.pass .b .none .idle,.lose,
    .pass .a .none { Inputs.idle with findPartnerTimeout := true },
    .pass .b .received .idle,
    .pass .a (.finished .bad) .idle,.pass .b (.finished .bad) .idle,
    .pass .a .received .idle,
    .pass .a (.finished .bad) .idle,.pass .b .received .idle]

/-- A takes a payload from radioTxBuffer and transmits it to the end. -/
def sendData (payload : List UInt8) : List Event :=
  [.pass .a .none { Inputs.idle with availableRadioTXBytes := true, serialPacket := some payload },
    .pass .a (.finished .bad) .idle]

theorem linked_inStep_handshake :
    (run Link.step .powerUp (handshake ++ sendData [0x30])).InStep .a :=
  linked_inStep .powerUp ⟨fun x => by cases x <;> rfl,rfl⟩ _
    (fun x => by cases x <;> decide) .a

/-- The state before a step lets no heartbeat displace user data: when one falls
due while the ACK of a DATA frame is outstanding, the peer is linked and has
already accepted that frame. -/
def Link.HeartbeatWaits (l : Link) : Event → Prop
  | .pass x t i => Overwrites (l.radio x) (l.packet x t) i →
      (l.radio x).rexmt.control.datagramType = .data →
        (l.radio x.other).Linked ∧
          (l.radio x.other).vc.rmtTxAckNumber = (l.radio x).vc.txAckNumber + 1
  | _ => True

instance (l : Link) : (e : Event) → Decidable (l.HeartbeatWaits e)
  | .pass x t i => inferInstanceAs (Decidable (Overwrites _ (l.packet x t) i → _ → _ ∧ _))
  | .command _ => inferInstanceAs (Decidable True)
  | .lose => inferInstanceAs (Decidable True)

theorem HeartbeatWaits.spares {l : Link} {e : Event} (h : l.HeartbeatWaits e) :
    l.Spares (Spare Frame.userData) e := by
  cases e with
  | command => trivial
  | lose => trivial
  | pass x t i =>
    intro hover
    have hlinked := linked_of_state hover.1
    have hkept : (l.view x).kept = some (l.radio x).rexmt.frame :=
      hlinked.kept_on hover.2.2.2.2
    by_cases hdata : (l.radio x).rexmt.control.datagramType = .data
    · obtain ⟨hy,hn⟩ := h hover hdata
      apply unaccepted_of_ahead
      rw [Link.peer_committed (.inl hy)]
      simpa [direction,Link.view,hy.numbers,hlinked.numbers] using hn
    · have hnone : (l.radio x).rexmt.frame.userData = [] := if_neg hdata
      simp [Spare,Direction.unaccepted,direction,hkept,hnone]

/-- As long as no heartbeat displaces user data, the payloads delivered in a
session are always a prefix of the payloads taken in it. -/
theorem session_delivers_in_order (l : Link) (h : l.Started) (es : List Event)
    (hwaits : Along Link.step Link.HeartbeatWaits l es)
    (hlinked : ∀ x, ((run Link.step l es).radio x).Linked) (x : Side) :
    (run Link.step l es).delivered x.other <+: (run Link.step l es).taken x := by
  have hinv : Consistent (InOrder Frame.userData) (run Link.step l es) :=
    invariant (fun m e hm hok => consistent_step inOrder_kept m e hm (HeartbeatWaits.spares hok))
      h.consistent hwaits
  exact (hinv.linked x (hlinked x) (hlinked x.other)).delivered_in_order

/-- B hears the frame in flight, answers it, and A hears the answer. -/
def exchange : List Event :=
  [.pass .b .received .idle,.pass .b (.finished .bad) .idle,.pass .a .received .idle]

theorem session_delivers_in_order_exchange :
    (run Link.step .powerUp (handshake ++ sendData [0x30] ++ exchange ++ sendData [0x31])).delivered
      .b <+: (run Link.step .powerUp
        (handshake ++ sendData [0x30] ++ exchange ++ sendData [0x31])).taken .a :=
  session_delivers_in_order .powerUp ⟨fun x => by cases x <;> rfl,rfl⟩ _ (by decide)
    (fun x => by cases x <;> decide) .a

/-- The DATA frame is lost and the heartbeat falls due before its ACK: the
heartbeat is saved in its place, its ACK accounts for both, and the next
payload is delivered instead. -/
def displacedData : List Event :=
  sendData [0x30] ++ [.lose,
    .pass .a .none { Inputs.idle with heartbeatTimeout := true },
    .pass .a (.finished .bad) .idle] ++ exchange ++ sendData [0x31] ++ exchange

theorem heartbeat_displaces_data :
    (∀ x, ((run Link.step .powerUp handshake).radio x).Linked) ∧
    Along Link.step (fun l _ => ∀ x ∈ [Side.a,Side.b],(l.radio x).Linked)
      (run Link.step .powerUp handshake) displacedData ∧
    (∀ x, ((run Link.step .powerUp (handshake ++ displacedData)).radio x).Linked) ∧
    (run Link.step .powerUp (handshake ++ displacedData)).taken .a = [[0x30],[0x31]] ∧
    (run Link.step .powerUp (handshake ++ displacedData)).delivered .b = [[0x31]] ∧
    ¬ (run Link.step .powerUp (handshake ++ displacedData)).delivered .b <+:
      (run Link.step .powerUp (handshake ++ displacedData)).taken .a := by
  refine ⟨?_,by decide,?_,by decide,by decide,by decide⟩
  · intro x
    cases x <;> decide
  · intro x
    cases x <;> decide

end LoRaSerial.P2P
