import LoRaSerial.Lib.StopAndWait
import LoRaSerial.P2P.Passes

namespace LoRaSerial.P2P
open StopAndWait

/-- What a linked radio, or one about to be linked, contributes to a session. -/
structure View where
  numbers : AckNumbers
  kept : Option Frame
  taken : List (List UInt8)
  delivered : List (List UInt8)

/-- The view right after enterLinkUp. -/
def View.fresh : View := ⟨.zero,none,[],[]⟩

def View.after (v : View) (p : Pass) : View where
  numbers := p.radio.numbers
  kept := p.radio.kept
  taken := v.taken ++ p.taken
  delivered := v.delivered ++ p.delivered

/-- A radio that has sent ZERO_ACKS is viewed as it will be once linked. -/
def Link.view (l : Link) (x : Side) : View where
  numbers := (l.radio x).numbers
  kept := (l.radio x).kept
  taken := if (l.radio x).radioState = .waitTxZeroAcksDone then [] else l.taken x
  delivered := if (l.radio x).radioState = .waitTxZeroAcksDone then [] else l.delivered x

/-- The frame in flight as a message of the direction that starts at `x`. -/
def airOf (x : Side) : Option (Side × Frame) → Option (Message AckNumber Frame)
  | none => none
  | some (s,f) =>
    if f.control.ignoreFrame then none
    else if f.control.datagramType.sequenced false ∧ s = x then
      some (.frame f.control.ackNumber f)
    else if f.control.datagramType = .dataAck ∧ s ≠ x then some (.ack f.control.ackNumber)
    else none

/-- One direction of a session, from the sender's and the receiver's view. -/
def direction (s r : View) (air : Option (Message AckNumber Frame)) :
    Direction AckNumber Frame (List UInt8) where
  next := s.numbers.txAckNumber
  outstanding := s.kept
  expected := r.numbers.rmtTxAckNumber
  confirmed := r.numbers.rxAckNumber
  air := air
  taken := s.taken
  delivered := r.delivered

@[simp] theorem airOf_none (x : Side) : airOf x none = none := rfl

theorem Frame.Sequenced.airOf_sender {f : Frame} (hf : f.Sequenced) (x : Side) :
    airOf x (some (x,f)) = some (.frame f.control.ackNumber f) := by
  simp [airOf,hf.1,hf.2]

theorem Frame.Sequenced.airOf_receiver {f : Frame} (hf : f.Sequenced) (x : Side) :
    airOf x (some (x.other,f)) = none := by
  have hack : f.control.datagramType ≠ .dataAck := by
    intro h
    have hseq := hf.1
    simp [h,DatagramType.sequenced] at hseq
  simp [airOf,hack]

theorem airOf_ack_sender {f : Frame} (hf : f.Carries .dataAck) (x : Side) :
    airOf x (some (x,f)) = none := by
  simp [airOf,hf.1,DatagramType.sequenced]

theorem airOf_ack_receiver {f : Frame} (hf : f.Carries .dataAck) (x : Side) :
    airOf x (some (x.other,f)) = some (.ack f.control.ackNumber) := by
  simp [airOf,hf.1,hf.2,DatagramType.sequenced]

theorem Frame.Handshake.airOf_none {f : Frame} (hf : f.Handshake) (x s : Side) :
    airOf x (some (s,f)) = none := by
  rcases hf with ⟨ht,_⟩ | ⟨ht,_⟩ <;> simp [airOf,ht,DatagramType.sequenced]

/-- A numbered frame sent by `x` belongs to the direction that starts there. -/
theorem airOf_send {f : Frame} (hf : f.Sequenced) (x : Side) (slot : Option (Side × Frame))
    {onAir : Option Frame} (h : onAir = none ∨ onAir = some f) :
    Sent (airOf x slot) (airOf x (slot.or (onAir.map (x,·)))) (.frame f.control.ackNumber f) := by
  cases slot with
  | some s => exact .inl rfl
  | none =>
    rcases h with rfl | rfl
    · exact .inl rfl
    · exact .inr (hf.airOf_sender x)

theorem airOf_send_other {f : Frame} (hf : f.Sequenced) (x : Side)
    (slot : Option (Side × Frame)) {onAir : Option Frame}
    (h : onAir = none ∨ onAir = some f) :
    airOf x.other (slot.or (onAir.map (x,·))) = airOf x.other slot := by
  cases slot with
  | some s => rfl
  | none =>
    rcases h with rfl | rfl
    · rfl
    · simpa using hf.airOf_receiver x.other

/-- A pass either leaves the air alone or takes the other side's frame off it. -/
theorem Link.receive_cases (l : Link) (x : Side) (t : Transaction) :
    ((l.receive x t).2 = l.air ∧ ∀ f, l.packet x t ≠ some (.frame f)) ∨
    ∃ f, l.air = some (x.other,f) ∧ l.packet x t = some (.frame f) ∧
      (l.receive x t).2 = none := by
  unfold Link.packet Link.receive
  cases t with
  | none => exact .inl ⟨rfl,by simp⟩
  | finished d => exact .inl ⟨rfl,by simp⟩
  | received =>
    cases hair : l.air with
    | none => exact .inl ⟨rfl,by simp⟩
    | some sf =>
      obtain ⟨s,f⟩ := sf
      dsimp only
      rcases x.eq_or_other s with rfl | rfl
      · simp
      · exact .inr ⟨f,rfl,by simp,by simp⟩

section AfterPass

variable {l : Link} {x : Side} {left : Option (Side × Frame)} {p : Pass}

@[simp] theorem afterPass_radio_self : (l.afterPass x left p).radio x = p.radio := by
  simp [Link.afterPass]

@[simp] theorem afterPass_radio_other :
    (l.afterPass x left p).radio x.other = l.radio x.other := by
  simp [Link.afterPass]

@[simp] theorem afterPass_air :
    (l.afterPass x left p).air = left.or (p.onAir.map (x,·)) := rfl

@[simp] theorem view_afterPass_other :
    (l.afterPass x left p).view x.other = l.view x.other := by
  simp [Link.view,Link.afterPass]

theorem Radio.Linked.not_waiting {r : Radio} (h : r.Linked) :
    r.radioState ≠ .waitTxZeroAcksDone := by
  rcases h with h | h <;> simp [h]

theorem view_afterPass_linked (hr : (l.radio x).Linked) (hp : p.radio.Linked)
    (hup : p.linkUp = false) : (l.afterPass x left p).view x = (l.view x).after p := by
  simp [Link.view,Link.afterPass,View.after,hr.not_waiting,hp.not_waiting,hup]

theorem view_afterPass_up (hstate : p.radio.radioState = .linkUp)
    (hn : p.radio.numbers = .zero) (hk : p.radio.kept = none) (hup : p.linkUp = true)
    (ht : p.taken = []) (hd : p.delivered = []) :
    (l.afterPass x left p).view x = View.fresh := by
  simp [Link.view,Link.afterPass,View.fresh,hstate,hn,hk,hup,ht,hd]

theorem view_waiting (h : (l.radio x).radioState = .waitTxZeroAcksDone) :
    l.view x = View.fresh := by
  simp [Link.view,View.fresh,Radio.numbers,Radio.kept,h]

end AfterPass

section Exchanges

variable {l : Link} {x : Side} {t : Transaction} {i : Inputs} {p : Pass}
  {spare : Direction AckNumber Frame (List UInt8) → Prop}

/-- What is in flight after a pass that answers the packet it found. -/
theorem air_of_answer {f : Frame} (hf : l.packet x t = some (.frame f)) :
    l.air = some (x.other,f) ∧ (l.afterPass x (l.receive x t).2 p).air = p.onAir.map (x,·) := by
  rcases l.receive_cases x t with ⟨_,hno⟩ | ⟨g,hair,hg,hleft⟩
  · exact absurd hf (hno f)
  · have hfg : g = f := by simpa [hf] using hg.symm
    exact ⟨hfg ▸ hair,by simp [hleft]⟩

theorem air_of_no_frame (hno : ∀ f, l.packet x t ≠ some (.frame f)) :
    (l.afterPass x (l.receive x t).2 p).air = l.air.or (p.onAir.map (x,·)) := by
  rcases l.receive_cases x t with ⟨hleft,_⟩ | ⟨f,_,hf,_⟩
  · simp [hleft]
  · exact absurd hf (hno f)

/-- A pass that puts nothing on the air can only take a frame off it. -/
theorem air_of_silent (hair : p.onAir = none) (s : Side) :
    airOf s (l.afterPass x (l.receive x t).2 p).air = airOf s l.air ∨
      airOf s (l.afterPass x (l.receive x t).2 p).air = none := by
  rcases l.receive_cases x t with ⟨hleft,_⟩ | ⟨f,_,_,hleft⟩
  · exact .inl (by simp [hleft,hair])
  · exact .inr (by simp [hleft,hair])

/-- The direction that starts at the acting radio makes one step, whatever the
view of the other end. -/
theorem Exchange.forward (hx : Exchange (l.radio x) (l.packet x t) i p) (v : View)
    (hspare : Overwrites (l.radio x) (l.packet x t) i →
      spare (direction (l.view x) v (airOf x l.air))) :
    Step Frame.userData spare (direction (l.view x) v (airOf x l.air))
      (direction ((l.view x).after p) v
        (airOf x (l.afterPass x (l.receive x t).2 p).air)) := by
  have hsent : ∀ g : Frame, l.packet x t = none → g.Sequenced →
      (p.onAir = none ∨ p.onAir = some g) → Sent (airOf x l.air)
        (airOf x (l.afterPass x (l.receive x t).2 p).air) (.frame g.control.ackNumber g) := by
    intro g hpacket hg hair
    rw [air_of_no_frame (by simp [hpacket])]
    exact airOf_send hg x l.air hair
  have hsilent : ∀ f : Frame, l.packet x t = some (.frame f) → f.Sequenced →
      (p.onAir = none ∨ ∃ g : Frame, p.onAir = some g ∧ g.Carries .dataAck) →
      airOf x (l.afterPass x (l.receive x t).2 p).air = none := by
    intro f hf _ hair
    rw [(air_of_answer hf).2]
    rcases hair with hair | ⟨g,hair,hg⟩
    · simp [hair]
    · simpa [hair] using airOf_ack_sender hg x
  have hkeep : p.radio.numbers.txAckNumber = (l.radio x).numbers.txAckNumber →
      p.radio.kept = (l.radio x).kept → p.taken = [] →
      (airOf x (l.afterPass x (l.receive x t).2 p).air = airOf x l.air ∨
        airOf x (l.afterPass x (l.receive x t).2 p).air = none) →
      Step Frame.userData spare (direction (l.view x) v (airOf x l.air))
        (direction ((l.view x).after p) v
          (airOf x (l.afterPass x (l.receive x t).2 p).air)) := by
    intro hn hk ht hair
    have h : Step Frame.userData spare _ _ := .lose
      (direction (l.view x) v (airOf x l.air)) _ hair
    simpa [direction,View.after,Link.view,hn,hk,ht] using h
  cases hx with
  | quiet hn hk hair ht hd => exact hkeep (by rw [hn]) hk ht (air_of_silent hair x)
  | start f hpacket hk hk' hn hf hnum hair ht hd =>
    have hs := hsent f hpacket hf hair
    rw [hnum] at hs
    have h : Step Frame.userData spare _ _ := .start
      (direction (l.view x) v (airOf x l.air)) f _ hk hs
    simpa [direction,View.after,Link.view,hn,hk',ht] using h
  | resend f g hpacket hk hk' hn hg hnum hdata hair ht hd =>
    have hs := hsent g hpacket hg hair
    rw [hnum] at hs
    have h : Step Frame.userData spare _ _ := .resend
      (direction (l.view x) v (airOf x l.air)) f g _ hk hdata hs
    simpa [direction,View.after,Link.view,hn,hk,hk',ht] using h
  | overwrite f g hover hk hk' hn hg hnum hdata hair ht hd =>
    have hs := hsent g hover.2.1 hg hair
    rw [hnum] at hs
    have h : Step Frame.userData spare _ _ := .overwrite
      (direction (l.view x) v (airOf x l.air)) f g _ hk hdata (hspare hover) hs
    simpa [direction,View.after,Link.view,hn,hk',ht] using h
  | accept f hpacket hf hnum hn hk hair ht hd =>
    refine hkeep (by rw [hn]; rfl) hk ht (.inr (hsilent f hpacket hf ?_))
    exact hair.imp id fun ⟨g,hg,hc,_⟩ => ⟨g,hg,hc⟩
  | duplicate f hpacket hf hnum hn hk hair ht hd =>
    refine hkeep (by rw [hn]) hk ht (.inr (hsilent f hpacket hf ?_))
    exact hair.imp id fun ⟨g,hg,hc,_⟩ => ⟨g,hg,hc⟩
  | acknowledged f hpacket hf hnum hn hk hair ht hd =>
    obtain ⟨hfrom,hafter⟩ := air_of_answer (p := p) hpacket
    have hack : (direction (l.view x) v (airOf x l.air)).air =
        some (.ack (direction (l.view x) v (airOf x l.air)).next) := by
      change airOf x l.air = some (.ack (l.radio x).numbers.txAckNumber)
      rw [hfrom,airOf_ack_receiver hf,hnum]
    have h : Step Frame.userData spare _ _ := .acknowledged _ hack
    rw [hafter,hair]
    simpa [direction,View.after,Link.view,hn,hk,ht] using h

/-- The direction that ends at the acting radio makes one step, whatever the
view of the other end. -/
theorem Exchange.backward (hx : Exchange (l.radio x) (l.packet x t) i p) (v : View) :
    Step Frame.userData spare (direction v (l.view x) (airOf x.other l.air))
      (direction v ((l.view x).after p)
        (airOf x.other (l.afterPass x (l.receive x t).2 p).air)) := by
  have hkeep : p.radio.numbers.rmtTxAckNumber = (l.radio x).numbers.rmtTxAckNumber →
      p.radio.numbers.rxAckNumber = (l.radio x).numbers.rxAckNumber → p.delivered = [] →
      (airOf x.other (l.afterPass x (l.receive x t).2 p).air = airOf x.other l.air ∨
        airOf x.other (l.afterPass x (l.receive x t).2 p).air = none) →
      Step Frame.userData spare (direction v (l.view x) (airOf x.other l.air))
        (direction v ((l.view x).after p)
          (airOf x.other (l.afterPass x (l.receive x t).2 p).air)) := by
    intro hn hc hd hair
    have h : Step Frame.userData spare _ _ := .lose
      (direction v (l.view x) (airOf x.other l.air)) _ hair
    simpa [direction,View.after,Link.view,hn,hc,hd] using h
  have hsent : ∀ g : Frame, l.packet x t = none → g.Sequenced →
      (p.onAir = none ∨ p.onAir = some g) →
      airOf x.other (l.afterPass x (l.receive x t).2 p).air = airOf x.other l.air := by
    intro g hpacket hg hair
    rw [air_of_no_frame (by simp [hpacket])]
    exact airOf_send_other hg x l.air hair
  have hanswer : ∀ f : Frame, l.packet x t = some (.frame f) → f.Sequenced → ∀ n,
      (p.onAir = none ∨ ∃ g : Frame, p.onAir = some g ∧ g.Carries .dataAck ∧
        g.control.ackNumber = n) →
      airOf x.other l.air = some (.frame f.control.ackNumber f) ∧
        (airOf x.other (l.afterPass x (l.receive x t).2 p).air = none ∨
          airOf x.other (l.afterPass x (l.receive x t).2 p).air = some (.ack n)) := by
    intro f hpacket hf n hair
    obtain ⟨hfrom,hafter⟩ := air_of_answer (p := p) hpacket
    refine ⟨by rw [hfrom,hf.airOf_sender],?_⟩
    rw [hafter]
    rcases hair with hair | ⟨g,hair,hg,rfl⟩
    · exact .inl (by simp [hair])
    · exact .inr (by simpa [hair] using airOf_ack_receiver hg x.other)
  cases hx with
  | quiet hn hk hair ht hd =>
    exact hkeep (by rw [hn]) (by rw [hn]) hd (air_of_silent hair x.other)
  | start f hpacket hk hk' hn hf hnum hair ht hd =>
    exact hkeep (by rw [hn]) (by rw [hn]) hd (.inl (hsent f hpacket hf hair))
  | resend f g hpacket hk hk' hn hg hnum hdata hair ht hd =>
    exact hkeep (by rw [hn]) (by rw [hn]) hd (.inl (hsent g hpacket hg hair))
  | overwrite f g hover hk hk' hn hg hnum hdata hair ht hd =>
    exact hkeep (by rw [hn]) (by rw [hn]) hd (.inl (hsent g hover.2.1 hg hair))
  | accept f hpacket hf hnum hn hk hair ht hd =>
    obtain ⟨hfrom,hafter⟩ := hanswer f hpacket hf _ hair
    rw [hnum] at hfrom
    have h : Step Frame.userData spare _ _ := .accept
      (direction v (l.view x) (airOf x.other l.air)) f _ hfrom hafter
    simpa [direction,View.after,Link.view,AckNumbers.accept,hn,hd] using h
  | duplicate f hpacket hf hnum hn hk hair ht hd =>
    obtain ⟨hfrom,hafter⟩ := hanswer f hpacket hf _ hair
    have h : Step Frame.userData spare _ _ := .duplicate
      (direction v (l.view x) (airOf x.other l.air)) _ f _ hfrom hnum hafter
    simpa [direction,View.after,Link.view,hn,hd] using h
  | acknowledged f hpacket hf hnum hn hk hair ht hd =>
    obtain ⟨_,hafter⟩ := air_of_answer (p := p) hpacket
    exact hkeep (by rw [hn]) (by rw [hn]) hd (.inr (by rw [hafter,hair]; rfl))

end Exchanges

end LoRaSerial.P2P
