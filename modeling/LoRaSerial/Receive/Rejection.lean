import LoRaSerial.Codec.Frame

namespace LoRaSerial.Receive
open Codec (Gcm Received checkVcHeader crcMismatch decodeBuffer channelTimerOfBytes maxVc
  numberIndex parseDatagram receivedData vcBroadcast vcUnassigned)

/-- What later frames are judged by: the numbers and the frame count of each
virtual circuit, the yield request and the signs that the link is alive. -/
structure LinkState where
  ackNumbers : Fin 32 → AckNumbers
  vcFramesReceived : Fin 32 → UInt32
  requestYield : Bool
  yieldTimerStart : BitVec 32
  linkDownTimer : BitVec 32
  lastRxDatagram : BitVec 32
  datagramsReceived : UInt32
  rssi : Int

/-- With the counters that rcvDatagram keeps of all frames. -/
structure Link extends LinkState where
  messagesReceived : Fin 32 → UInt32
  badLength : Fin 32 → UInt32
  framesReceived : UInt32
  badFrames : UInt32
  badCrc : UInt32
  netIdMismatch : UInt32
  duplicateFrames : UInt32
  insufficientSpace : UInt32
  rcvTimeMillis : BitVec 32
  rxSuccessMillis : BitVec 32
  rxFailureMillis : BitVec 32
  rxFailureState : Int

/-- What readData returns. -/
inductive ReadState where
  | none
  | crcMismatch (code : Int)
  | failed (code : Int)

/-- What rcvDatagram reads from elsewhere, the clock at each of its calls of
millis in particular. -/
structure Air where
  state : ReadState
  rcvTimeMillis : BitVec 32
  duplicateMillis : BitVec 32
  yieldMillis : BitVec 32
  doneMillis : BitVec 32
  packetRSSI : Int
  space : FreeSpace

/-- Add one to the entry of a circuit. -/
def count (f : Fin 32 → UInt32) (v : Fin 32) : Fin 32 → UInt32 :=
  Function.update f v (f v + 1)

def Link.setNumbers (k : Link) (v : Fin 32) (numbers : AckNumbers) : Link :=
  { k with ackNumbers := Function.update k.ackNumbers v numbers }

/-- The early exits: the result, and the circuit whose badLength is counted. -/
abbrev Exit := PacketType × Option (Fin 32)

/-- The counter of an early exit. -/
def Link.exit (k : Link) (e : Exit) : Link :=
  let k := match e.2 with
    | some v => { k with badLength := count k.badLength v }
    | none => k
  match e.1 with
  | .bad => { k with badFrames := k.badFrames + 1 }
  | .crcError => { k with badCrc := k.badCrc + 1 }
  | .netIdMismatch => { k with netIdMismatch := k.netIdMismatch + 1 }
  | _ => k

/-- vc, which is NULL for an unassigned source. -/
def sourceVc (srcVc : UInt8) : Option (Fin 32) :=
  if h : srcVc.toNat < 32 then some ⟨srcVc.toNat,h⟩ else none

/-- The virtual circuit header. -/
def parseVcHeader (myVc : UInt8) (d : Received) : Except Exit Received :=
  match d.data with
  | length :: destVc :: srcVc :: _ =>
    if srcVc ≠ vcUnassigned ∧ maxVc ≤ srcVc.toNat then .error (.bad,none)
    else if length.toNat ≠ d.data.length then .error (.bad,sourceVc srcVc)
    else if destVc ≠ vcBroadcast ∧ destVc ≠ myVc then .error (.notMine,none)
    else .ok d
  | _ => .error (.bad,none)

/-- rcvDatagram as far as the packet number, on the bytes in incomingBuffer. -/
def parseFrame (s : Settings) (l : Layout) (g : Gcm) (iv : List UInt8) (myVc : UInt8)
    (incomingBuffer : List UInt8) (rxDataBytes : Nat) : Except Exit Received :=
  let buf := decodeBuffer s g iv incomingBuffer rxDataBytes
  let pos := if s.netIdInHeader then 1 else 0
  let c := Control.ofByte (buf.getD pos 0)
  let timer := if s.frequencyHop then
    some (channelTimerOfBytes (buf.getD (pos + 1) 0) (buf.getD (pos + 2) 0)) else none
  let dataPos := pos + 1 + (if s.frequencyHop then 2 else 0)
  if rxDataBytes < l.minDatagramSize then .error (.bad,none)
  else if s.netIdInHeader ∧ buf.getD 0 0 ≠ s.netID then .error (.netIdMismatch,none)
  else if s.enableCRC16 ∧ crcMismatch buf rxDataBytes then .error (.crcError,none)
  else if c.ignoreFrame then .error (.bad,none)
  else
    match receivedData s l buf dataPos rxDataBytes with
    | .error p => .error (p,none)
    | .ok data =>
      if s.operatingMode = .virtualCircuit then parseVcHeader myVc ⟨c,timer,data⟩
      else .ok ⟨c,timer,data⟩

/-- Determine what packet type should be returned to the receiving code. -/
def validateDatagram (k : Link) (a : Air) (v : Fin 32) (c : Control) (rxDataBytes : Nat) :
    Link × PacketType :=
  let vc := k.ackNumbers v
  if c.ackNumber ≠ vc.rmtTxAckNumber then
    if c.ackNumber = vc.rmtTxAckNumber - 1 then
      ({ k with linkDownTimer := a.duplicateMillis, duplicateFrames := k.duplicateFrames + 1 },
        .duplicate)
    else ({ k with badFrames := k.badFrames + 1 },.bad)
  else if (a.space.inCommandMode && c.datagramType == .data) ||
      a.space.bytes rxDataBytes c.datagramType < rxDataBytes then
    ({ k with insufficientSpace := k.insufficientSpace + 1, badFrames := k.badFrames + 1 },.bad)
  else
    (k.setNumbers v vc.accept,.datagram c.datagramType)

/-- What the cases of the number switch do after validateDatagram. -/
def remember (r : Link × PacketType) (v : Fin 32) (messages : Bool) : Link × PacketType :=
  match r with
  | (k,.datagram t) =>
    ({ k with
        lastRxDatagram := k.rcvTimeMillis
        messagesReceived := if messages then count k.messagesReceived v else k.messagesReceived },
      .datagram t)
  | r => r

/-- Verify the packet number last. -/
def checkPacketNumber (virtualCircuit : Bool) (k : Link) (a : Air) (v : Fin 32) (c : Control)
    (rxDataBytes : Nat) : Link × PacketType :=
  let vc := k.ackNumbers v
  match c.datagramType with
  | .dataAck =>
    if c.ackNumber ≠ vc.txAckNumber then ({ k with badFrames := k.badFrames + 1 },.bad)
    else
      ({ k.setNumbers v { vc with txAckNumber := vc.txAckNumber + 1 } with
          lastRxDatagram := k.rcvTimeMillis },.datagram .dataAck)
  | .heartbeat =>
    if virtualCircuit then (k,.datagram .heartbeat)
    else remember (validateDatagram k a v c rxDataBytes) v false
  | .remoteCommand | .remoteCommandResponse =>
    remember (validateDatagram k a v c rxDataBytes) v false
  | .data => remember (validateDatagram k a v c rxDataBytes) v true
  | t => (k,.datagram t)

/-- The packet is good. -/
def acceptDatagram (k : Link) (a : Air) (c : Control) : Link :=
  { k with
    requestYield := c.requestYield
    yieldTimerStart := if c.requestYield then a.yieldMillis else k.yieldTimerStart
    datagramsReceived := k.datagramsReceived + 1
    linkDownTimer := a.doneMillis
    rssi := a.packetRSSI }

/-- rcvDatagram with all it does to the link. -/
def rcvDatagramLink (s : Settings) (l : Layout) (g : Gcm) (iv : List UInt8) (myVc : UInt8)
    (k : Link) (a : Air) (incomingBuffer : List UInt8) (rxDataBytes : Nat) : Link × PacketType :=
  let k := { k with framesReceived := k.framesReceived + 1, rcvTimeMillis := a.rcvTimeMillis }
  match a.state with
  | .crcMismatch code =>
    ({ k with
        rxFailureMillis := a.rcvTimeMillis
        rxFailureState := code
        badCrc := k.badCrc + 1 },.crcError)
  | .failed code =>
    ({ k with
        rxFailureMillis := a.rcvTimeMillis
        rxFailureState := code
        badFrames := k.badFrames + 1 },.bad)
  | .none =>
    let k := { k with rxSuccessMillis := a.rcvTimeMillis }
    match parseFrame s l g iv myVc incomingBuffer rxDataBytes with
    | .error e => (k.exit e,e.1)
    | .ok d =>
      match numberIndex s d with
      | none => (acceptDatagram k a d.control,.datagram d.control.datagramType)
      | some v =>
        match checkPacketNumber (s.operatingMode == .virtualCircuit) k a v d.control
            d.data.length with
        | (k,.datagram t) =>
          (acceptDatagram { k with vcFramesReceived := count k.vcFramesReceived v } a d.control,
            .datagram t)
        | r => r

/-- What a frame leaves of the link state, by what rcvDatagram returns for it. -/
def Keeps (p : PacketType) (k k' : LinkState) : Prop :=
  match p with
  | .datagram _ => True
  | .duplicate => k' = { k with linkDownTimer := k'.linkDownTimer }
  | .bad | .crcError | .netIdMismatch | .notMine => k' = k

variable {k : Link} {a : Air} {v : Fin 32} {c : Control} {rxDataBytes : Nat}

theorem keeps_of_eq {p : PacketType} {k k' : LinkState} (h : k' = k) : Keeps p k k' := by
  subst h
  cases p <;> trivial

theorem exit_linkState (k : Link) (e : Exit) : (k.exit e).toLinkState = k.toLinkState := by
  obtain ⟨p,v⟩ := e
  cases v <;> cases p <;> rfl

/-- The numbers are advanced only for a datagram that is accepted. -/
theorem validateDatagram_keeps :
    Keeps (validateDatagram k a v c rxDataBytes).2 k.toLinkState
      (validateDatagram k a v c rxDataBytes).1.toLinkState := by
  unfold validateDatagram
  dsimp only
  split
  · split
    · rfl
    · exact keeps_of_eq rfl
  · split
    · exact keeps_of_eq rfl
    · trivial

theorem remember_keeps {r : Link × PacketType} {messages : Bool} {k : LinkState}
    (h : Keeps r.2 k r.1.toLinkState) :
    Keeps (remember r v messages).2 k (remember r v messages).1.toLinkState := by
  obtain ⟨k',p⟩ := r
  cases p with
  | datagram t => trivial
  | bad | crcError | netIdMismatch | duplicate | notMine => exact h

theorem checkPacketNumber_keeps (virtualCircuit : Bool) (k : Link) (a : Air) (v : Fin 32)
    (c : Control) (rxDataBytes : Nat) :
    Keeps (checkPacketNumber virtualCircuit k a v c rxDataBytes).2 k.toLinkState
      (checkPacketNumber virtualCircuit k a v c rxDataBytes).1.toLinkState := by
  unfold checkPacketNumber
  dsimp only
  split
  · split
    · exact keeps_of_eq rfl
    · trivial
  · split
    · trivial
    · exact remember_keeps validateDatagram_keeps
  · exact remember_keeps validateDatagram_keeps
  · exact remember_keeps validateDatagram_keeps
  · exact remember_keeps validateDatagram_keeps
  · trivial

/-- A frame that rcvDatagram does not accept leaves the link state as it was; a
duplicate restarts the link timer. -/
theorem rejected_frame_keeps_link (s : Settings) (l : Layout) (g : Gcm) (iv : List UInt8)
    (myVc : UInt8) (k : Link) (a : Air) (incomingBuffer : List UInt8) (rxDataBytes : Nat) :
    Keeps (rcvDatagramLink s l g iv myVc k a incomingBuffer rxDataBytes).2 k.toLinkState
      (rcvDatagramLink s l g iv myVc k a incomingBuffer rxDataBytes).1.toLinkState := by
  unfold rcvDatagramLink
  dsimp only
  split
  · exact keeps_of_eq rfl
  · exact keeps_of_eq rfl
  · split
    · exact keeps_of_eq (exit_linkState _ _)
    next d hparse =>
      split
      · trivial
      next v hindex =>
        generalize hchecked : checkPacketNumber _ _ a v d.control d.data.length = r
        have hkeeps := checkPacketNumber_keeps (s.operatingMode == .virtualCircuit)
          { k with
            framesReceived := k.framesReceived + 1
            rcvTimeMillis := a.rcvTimeMillis
            rxSuccessMillis := a.rcvTimeMillis } a v d.control d.data.length
        rw [hchecked] at hkeeps
        obtain ⟨k',p⟩ := r
        cases p with
        | datagram t => trivial
        | bad | crcError | netIdMismatch | duplicate | notMine => exact hkeeps

theorem parseVcHeader_eq (myVc : UInt8) (d : Received) :
    (parseVcHeader myVc d).mapError Prod.fst = checkVcHeader myVc d := by
  obtain ⟨c,timer,data⟩ := d
  unfold checkVcHeader parseVcHeader
  match data with
  | [] | [_] | [_,_] => rfl
  | length :: destVc :: srcVc :: rest =>
    simp only [apply_ite (Except.mapError Prod.fst)]
    rfl

theorem parseFrame_eq (s : Settings) (l : Layout) (g : Gcm) (iv : List UInt8) (myVc : UInt8)
    (incomingBuffer : List UInt8) (rxDataBytes : Nat) :
    (parseFrame s l g iv myVc incomingBuffer rxDataBytes).mapError Prod.fst =
      parseDatagram s l g iv myVc incomingBuffer rxDataBytes := by
  unfold parseDatagram parseFrame
  simp only [apply_ite (Except.mapError Prod.fst)]
  generalize receivedData s l _ _ _ = data
  cases data with
  | error p => rfl
  | ok data =>
    simp only [apply_ite (Except.mapError Prod.fst),parseVcHeader_eq]
    rfl

/-- The numbers of all circuits, and the result. -/
def numbersAndType (r : Link × PacketType) : (Fin 32 → AckNumbers) × PacketType :=
  (r.1.ackNumbers,r.2)

theorem validateDatagram_eq {n : Nat} :
    numbersAndType (validateDatagram k a v c n) =
      let checked := LoRaSerial.validateDatagram (k.ackNumbers v) c.datagramType c.ackNumber
        (a.space.bytes n c.datagramType) n a.space.inCommandMode
      (Function.update k.ackNumbers v checked.1,checked.2) := by
  unfold validateDatagram LoRaSerial.validateDatagram numbersAndType
  dsimp only
  split
  · split
    · rw [Function.update_eq_self]
    · rw [Function.update_eq_self]
  · split
    · rw [Function.update_eq_self]
    · rfl

theorem remember_eq (r : Link × PacketType) (messages : Bool) :
    numbersAndType (remember r v messages) = numbersAndType r := by
  obtain ⟨k,p⟩ := r
  cases p <;> rfl

theorem checkPacketNumber_eq (virtualCircuit : Bool) (k : Link) (a : Air) (v : Fin 32)
    (c : Control) (rxDataBytes : Nat) :
    numbersAndType (checkPacketNumber virtualCircuit k a v c rxDataBytes) =
      let checked := rcvNumber virtualCircuit (k.ackNumbers v) c rxDataBytes a.space
      (Function.update k.ackNumbers v checked.1,checked.2) := by
  have hvalid := validateDatagram_eq (k := k) (a := a) (v := v) (c := c) (n := rxDataBytes)
  have hsame (p : PacketType) : numbersAndType (k,p) =
      (Function.update k.ackNumbers v (k.ackNumbers v),p) := by
    rw [Function.update_eq_self]
    rfl
  unfold checkPacketNumber rcvNumber
  cases ht : c.datagramType with
  | dataAck =>
    dsimp only
    split
    · exact hsame .bad
    · rfl
  | heartbeat =>
    rw [ht] at hvalid
    cases virtualCircuit with
    | true => exact hsame _
    | false => exact (remember_eq _ _).trans hvalid
  | data | remoteCommand | remoteCommandResponse =>
    rw [ht] at hvalid
    exact (remember_eq _ _).trans hvalid
  | _ => exact hsame _

/-- When the radio hands over the bytes, the numbers and the result are those of
the frame codec with its number switch. -/
theorem rcvDatagramLink_eq (s : Settings) (l : Layout) (g : Gcm) (iv : List UInt8) (myVc : UInt8)
    (k : Link) (a : Air) (incomingBuffer : List UInt8) (rxDataBytes : Nat)
    (h : a.state = .none) :
    numbersAndType (rcvDatagramLink s l g iv myVc k a incomingBuffer rxDataBytes) =
      let r := Codec.rcvDatagram s l g iv myVc k.ackNumbers a.space incomingBuffer rxDataBytes
      (r.1,r.2.1) := by
  unfold rcvDatagramLink Codec.rcvDatagram
  rw [h,← parseFrame_eq]
  dsimp only
  cases parseFrame s l g iv myVc incomingBuffer rxDataBytes with
  | error e =>
    have hkeeps := exit_linkState { k with
      framesReceived := k.framesReceived + 1
      rcvTimeMillis := a.rcvTimeMillis
      rxSuccessMillis := a.rcvTimeMillis } e
    exact Prod.ext (congrArg LinkState.ackNumbers hkeeps) rfl
  | ok d =>
    dsimp only [Except.mapError]
    cases numberIndex s d with
    | none => rfl
    | some v =>
      have hchecked := checkPacketNumber_eq (s.operatingMode == .virtualCircuit)
        { k with
          framesReceived := k.framesReceived + 1
          rcvTimeMillis := a.rcvTimeMillis
          rxSuccessMillis := a.rcvTimeMillis } a v d.control d.data.length
      dsimp only at hchecked ⊢
      rw [← hchecked]
      generalize checkPacketNumber _ _ a v d.control d.data.length = r
      obtain ⟨k',p⟩ := r
      cases p <;> rfl

end LoRaSerial.Receive
