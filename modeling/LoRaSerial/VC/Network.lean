import LoRaSerial.Lib.Retransmission
import LoRaSerial.VC.Effect

namespace LoRaSerial.VC
open P2P (Damage)
open Retransmission (Line)

/-- The radios of a server's network, radio `x` for circuit `x`, and what is on
the air from each radio for each other one, in the order in which it was sent. -/
structure Network where
  radio : Fin maxVc → Radio
  air : Fin maxVc → Fin maxVc → List Frame

/-- What lies behind transactionComplete: nothing, the end of a transmission or
a reception that is no frame, or the oldest frame on the air from a radio. -/
inductive Heard where
  | nothing
  | finished (d : Damage)
  | received (s : Fin maxVc)

/-- A step of one radio, or the loss of a frame on its way from `s` to `x`. -/
inductive NetworkEvent where
  | pass (x : Fin maxVc) (h : Heard) (i : Inputs)
  | linkCheck (x : Fin maxVc) (currentMillis linkBreakMillis : BitVec 32)
  | command (x : Fin maxVc) (c : Command)
  | hostMessage (x : Fin maxVc) (destVc srcVc : VcAddress) (data : List UInt8)
  | lose (s x : Fin maxVc) (k : Nat)

def Network.setAir (n : Network) (s x : Fin maxVc) (frames : List Frame) : Network :=
  { n with air := Function.update n.air s (Function.update (n.air s) x frames) }

def Radio.hush (r : Radio) : Radio := { r with onAir := [] }

/-- Radio `x` takes a step and every other radio may hear what it transmits. -/
def Network.act (n : Network) (x : Fin maxVc) (e : Event) : Network :=
  let r := step (n.radio x) e
  { radio := Function.update n.radio x r.hush
    air := Function.update n.air x fun y => if y = x then n.air x y else n.air x y ++ r.onAir }

def Network.advance (n : Network) : NetworkEvent → Network
  | .pass x .nothing i => n.act x (.pass none i)
  | .pass x (.finished d) i => n.act x (.pass (some (.damaged d)) i)
  | .pass x (.received s) i =>
    match n.air s x with
    | [] => n
    | f :: rest => (n.setAir s x rest).act x (.pass (some (.frame f)) i)
  | .linkCheck x currentMillis linkBreakMillis => n.act x (.linkCheck currentMillis linkBreakMillis)
  | .command x c => n.act x (.command c)
  | .hostMessage x destVc srcVc data => n.act x (.hostMessage destVc srcVc data)
  | .lose s x k => n.setAir s x ((n.air s x).eraseIdx k)

/-- Every data message for another circuit that a radio answered PC_DATA_ACK for
was handed to that circuit's host exactly once. -/
def Network.Delivered (n : Network) : Prop :=
  ∀ x y f, x ≠ y → f ∈ confirmed (n.radio x).history → f.datagram.destVc = .ofNumber y →
    (n.radio y).delivered.count f = 1

/-- A network that starts: nothing sent, started, reported or delivered yet. -/
structure Network.Start (n : Network) : Prop where
  air : ∀ s x, n.air s x = []
  history : ∀ x, (n.radio x).history = []
  delivered : ∀ x, (n.radio x).delivered = []
  ackTimer : ∀ x, (n.radio x).ackTimer = false
  radioTxBuffer : ∀ x, (n.radio x).radioTxBuffer = []
  unsent : ∀ x, (n.radio x).unsent = none
  onAir : ∀ x, (n.radio x).onAir = []

def Frame.number (f : Frame) : AckNumber := f.control.ackNumber

/-- An intact frame from circuit `x` for circuit `y`. -/
def Frame.between (f : Frame) (x y : Fin maxVc) : Bool :=
  f.datagram.srcVc == .ofNumber x && f.datagram.destVc == .ofNumber y &&
    !f.control.ignoreFrame && f.datagram.length.toNat == f.rxDataBytes

def Frame.crosses (x y : Fin maxVc) (f : Frame) : Bool :=
  f.control.datagramType.sequenced true && f.between x y

def Frame.answers (x y : Fin maxVc) (f : Frame) : Bool :=
  f.control.datagramType == .dataAck && f.between x y

def Frame.dataFor (y : Fin maxVc) (f : Frame) : Bool :=
  f.isData && f.datagram.destVc == .ofNumber y

def Frame.dataFrom (x : Fin maxVc) (f : Frame) : Bool :=
  f.isData && f.datagram.srcVc == .ofNumber x

/-- The sender's side of the direction to circuit `y` is read from `s`, the
receiver's side from `r`; `out` is on the air in this direction, `back` in the
other. -/
def lineOf (x y : Fin maxVc) (s r : Radio) (out back : List Frame) : Line AckNumber Frame where
  next := (s.virtualCircuitList y).numbers.txAckNumber
  kept := if s.ackTimer then (some s.rexmt.frame).filter (Frame.crosses x y) else none
  last := (lastStarted s.history).filter (Frame.dataFor y)
  answered := acknowledged s.history
  reported := (confirmed s.history).filter (Frame.dataFor y)
  clock := s.datagramsSent
  frames := out.filter (Frame.crosses x y)
  acks := (back.filter (Frame.answers y x)).map Frame.number
  expected := (r.virtualCircuitList x).numbers.rmtTxAckNumber
  confirmed := (r.virtualCircuitList x).numbers.rxAckNumber
  delivered := r.delivered.filter (Frame.dataFrom x)

def Network.line (n : Network) (x y : Fin maxVc) : Line AckNumber Frame :=
  lineOf x y (n.radio x) (n.radio y) (n.air x y) (n.air y x)

theorem Radio.hears_iff (r : Radio) (f : Frame) (v : Fin maxVc) :
    r.Hears f v ↔ f.control.ignoreFrame = false ∧ f.datagram.srcVc = .ofNumber v ∧
      f.datagram.length.toNat = f.rxDataBytes ∧
      (f.datagram.destVc = vcBroadcast ∨ f.datagram.destVc = r.myVc) :=
  ⟨fun h => ⟨h.ignoreFrame,h.srcVc,h.length,h.destVc⟩,fun h => ⟨h.1,h.2.1,h.2.2.1,h.2.2.2⟩⟩

instance (r : Radio) (f : Frame) (v : Fin maxVc) : Decidable (r.Hears f v) :=
  decidable_of_iff _ (r.hears_iff f v).symm

/-- A numbered frame starts from a radio that has its address, for a circuit,
and a data message with a number that is not in use. -/
def Network.StartsClear (n : Network) (x : Fin maxVc) (i : Inputs) : Prop :=
  (n.radio x).radioState = .waitReceive → ∀ q ∈ (n.radio x).starting i,
    (n.radio x).myVc = .ofNumber x ∧ ∃ y, q.2.destVc = .ofNumber y ∧
      (q.1 = .data → y ≠ x → (n.line x y).Startable Frame.number)

/-- A data message is not taken in RADIO_VC_WAIT_SERVER, which loses it. -/
def Radio.TakesClear (r : Radio) (f : Frame) : Prop :=
  r.radioState = .waitServer → r.myVc ≠ vcServer → f.control.datagramType = .data →
    ∀ v, r.Hears f v → f.number ≠ (r.virtualCircuitList v).numbers.rmtTxAckNumber

/-- A DATA_ACK that rcvDatagram accepts comes from the circuit to which the last
data message went, unless that has its DATA_ACK already. -/
def Radio.AcksClear (r : Radio) (f : Frame) : Prop :=
  r.radioState = .waitReceive ∨ r.radioState = .waitServer →
    f.control.datagramType = .dataAck → ∀ v, r.Hears f v →
      f.number = (r.virtualCircuitList v).numbers.txAckNumber →
      acknowledged r.history = false →
      ∀ g ∈ (lastStarted r.history).filter Frame.isData, g.datagram.destVc = .ofNumber v

/-- SYNC_ACKS and ZERO_ACKS zero the numbers only where both directions can
start again. -/
def Network.ZeroesClear (n : Network) (x : Fin maxVc) (f : Frame) (i : Inputs) : Prop :=
  (n.radio x).radioState = .waitReceive →
    (f.control.datagramType = .vcSyncAcks ∧ i.transmit.result = true) ∨
      f.control.datagramType = .vcZeroAcks →
    ∀ v, (n.radio x).Hears f v → v ≠ x → (n.line x v).ZeroableTx Frame.number ∧
      (n.line v x).ZeroableRx Frame.number (fun f => f.isData = true)

/-- The pass of radio `x` leaves the numbers of every direction in order. -/
def Network.PassClear (n : Network) (x : Fin maxVc) (i : Inputs) : Heard → Prop
  | .nothing => n.StartsClear x i
  | .finished _ => True
  | .received s => ∀ f ∈ (n.air s x).head?, (n.radio x).TakesClear f ∧
      (n.radio x).AcksClear f ∧ n.ZeroesClear x f i

/-- Radio `x` has its own address or none. -/
def Network.Addressed (n : Network) (x : Fin maxVc) : Prop :=
  (n.radio x).myVc = .ofNumber x ∨ (n.radio x).myVc = vcUnassigned

/-- Addresses and numbers are in order where this step depends on them. -/
def Network.Clear (n : Network) : NetworkEvent → Prop
  | .pass x h i => (n.radio x).atLinkCheck = false → (n.radio x).radioState ≠ .reset →
    n.Addressed x ∧ n.PassClear x i h
  | .hostMessage x _ _ _ => (n.radio x).atLinkCheck = false → n.Addressed x
  | _ => True

instance (n : Network) (x : Fin maxVc) (i : Inputs) : Decidable (n.StartsClear x i) :=
  inferInstanceAs (Decidable (_ → ∀ q ∈ (n.radio x).starting i, _))

instance (r : Radio) (f : Frame) : Decidable (r.TakesClear f) :=
  inferInstanceAs (Decidable (_ → _ → _ → ∀ v, r.Hears f v → _))

instance (r : Radio) (f : Frame) : Decidable (r.AcksClear f) :=
  inferInstanceAs (Decidable (_ → _ → ∀ v, r.Hears f v → _ → _ → ∀ g ∈ Option.filter _ _, _))

instance (n : Network) (x : Fin maxVc) (f : Frame) (i : Inputs) :
    Decidable (n.ZeroesClear x f i) :=
  inferInstanceAs (Decidable (_ → _ → ∀ v, (n.radio x).Hears f v → _))

instance (n : Network) (x : Fin maxVc) (i : Inputs) (h : Heard) :
    Decidable (n.PassClear x i h) := by
  unfold Network.PassClear
  split <;> infer_instance

instance (n : Network) (x : Fin maxVc) : Decidable (n.Addressed x) :=
  inferInstanceAs (Decidable (_ ∨ _))

instance (n : Network) (e : NetworkEvent) : Decidable (n.Clear e) := by
  unfold Network.Clear
  split <;> infer_instance

end LoRaSerial.VC
