import LoRaSerial.Lib.Runs
import LoRaSerial.P2P.Radio

namespace LoRaSerial.P2P

inductive Side where
  | a | b
  deriving DecidableEq, Repr

def Side.other : Side → Side
  | .a => .b
  | .b => .a

@[simp] theorem Side.other_other (x : Side) : x.other.other = x := by cases x <;> rfl

@[simp] theorem Side.other_ne (x : Side) : x.other ≠ x := by cases x <;> decide

@[simp] theorem Side.ne_other (x : Side) : x ≠ x.other := by cases x <;> decide

theorem Side.eq_or_other (x y : Side) : y = x ∨ y = x.other := by
  cases x <;> cases y <;> simp [Side.other]

/-- Two radios and the frame in flight with its sender. With explicit headers a
frame that is not lost arrives as it was sent. The history records, since each
radio last brought its link up, the payloads it took from radioTxBuffer and the
payloads it moved to serialTransmitBuffer. -/
structure Link where
  radio : Side → Radio
  air : Option (Side × Frame)
  taken : Side → List (List UInt8)
  delivered : Side → List (List UInt8)

/-- What sets transactionComplete before a pass: nothing, the frame in flight,
or the end of a transmission or a damaged frame. -/
inductive Transaction where
  | none | received | finished (d : Damage)
  deriving DecidableEq, Repr

/-- A pass of one radio, a change to RADIO_RESET made by a command of one
radio, or the loss of the frame in flight. -/
inductive Event where
  | pass (x : Side) (t : Transaction) (i : Inputs)
  | command (x : Side)
  | lose
  deriving DecidableEq, Repr

/-- The packet a pass of `x` finds, and what is left in flight. -/
def Link.receive (l : Link) (x : Side) : Transaction → Option Reception × Option (Side × Frame)
  | .none => (none,l.air)
  | .finished d => (some (.damaged d),l.air)
  | .received =>
    match l.air with
    | some (s,f) => if s = x then (none,l.air) else (some (.frame f),none)
    | none => (none,none)

def Link.packet (l : Link) (x : Side) (t : Transaction) : Option Reception :=
  (l.receive x t).1

/-- At most one frame is in flight: a frame sent while another is has no
receiver. -/
def Link.afterPass (l : Link) (x : Side) (air : Option (Side × Frame)) (p : Pass) : Link where
  radio := Function.update l.radio x p.radio
  air := air.or (p.onAir.map (x,·))
  taken := Function.update l.taken x ((if p.linkUp then [] else l.taken x) ++ p.taken)
  delivered :=
    Function.update l.delivered x ((if p.linkUp then [] else l.delivered x) ++ p.delivered)

def Link.step (l : Link) : Event → Link
  | .pass x t i =>
    l.afterPass x (l.receive x t).2 (updateRadioState (l.radio x) (l.packet x t) i)
  | .command x =>
    { l with radio := Function.update l.radio x { l.radio x with radioState := .reset } }
  | .lose => { l with air := none }

/-- Both radios in RADIO_RESET and nothing in flight; their numbers, buffers
and timers are whatever the sessions before left there. -/
def Link.Started (l : Link) : Prop :=
  (∀ x, (l.radio x).radioState = .reset) ∧ l.air = none

/-- RADIO_P2P_LINK_UP or RADIO_P2P_LINK_UP_WAIT_TX_DONE. -/
def Radio.Linked (r : Radio) : Prop :=
  r.radioState = .linkUp ∨ r.radioState = .linkUpWaitTxDone

instance (r : Radio) : Decidable r.Linked :=
  inferInstanceAs (Decidable (_ ∨ _))

/-- The radio is linked, or its next state will be: it has sent ZERO_ACKS. -/
def Radio.Committed (r : Radio) : Prop :=
  r.Linked ∨ r.radioState = .waitTxZeroAcksDone

/-- The numbers the link has, or will have once it is up. -/
def Radio.numbers (r : Radio) : AckNumbers :=
  if r.radioState = .waitTxZeroAcksDone then .zero else r.vc

/-- The frame kept for retransmission while its ACK is outstanding. -/
def Radio.kept (r : Radio) : Option Frame :=
  if r.radioState = .waitTxZeroAcksDone ∨ r.ackTimer = false then none
  else some r.rexmt.frame

def Frame.Carries (f : Frame) (t : DatagramType) : Prop :=
  f.control.datagramType = t ∧ f.control.ignoreFrame = false

def Frame.Sequenced (f : Frame) : Prop :=
  f.control.datagramType.sequenced false = true ∧ f.control.ignoreFrame = false

/-- The user data a frame carries. -/
def Frame.userData (f : Frame) : List (List UInt8) :=
  if f.control.datagramType = .data then [f.payload] else []

end LoRaSerial.P2P
