import LoRaSerial.Bridge.Refinement

namespace LoRaSerial.Bridge
open Codec Rings Runs Serial
open P2P (Side Frame Reception Damage Inputs Pass Link)

variable {ch : Channel} {b : Pair} {l : Link} {s : Station} {c : Call}

/-- Every byte read is accounted for, and so is every byte for the host. -/
structure Station.Accounts (s : Station) : Prop where
  input : s.port.Forwards
  output : s.output.forHost = s.printed.flatMap Chunk.bytes

theorem outputSerialData_forHost (o : Output) (cts : Nat) :
    (outputSerialData o cts).forHost = o.forHost := by
  have hle : min o.serialTransmitBuffer.available cts ≤ o.serialTransmitBuffer.available :=
    Nat.min_le_left _ _
  unfold outputSerialData
  rw [serialWrite_eq hle]
  simp only [Output.forHost,List.append_assoc,Ring.contents_skip hle,List.take_append_drop]

/-- A byte finds room when CTS lets one go. -/
theorem serialOutputByte_kept {o : Output} (byte : UInt8) {cts : Nat} (hcts : 0 < cts) :
    (serialOutputByte o byte cts).forHost = o.forHost ++ [byte] := by
  have hlt := o.serialTransmitBuffer.available_lt
  have hroom := makeRoom_available o 32 cts
  have hfits : (makeRoom o 32 cts).serialTransmitBuffer.available + 1 <
      serialTransmitBufferSize := by
    rw [hroom]
    unfold taken
    simp only [serialTransmitBufferSize] at hlt ⊢
    split <;> omega
  rw [← makeRoom_forHost o 32 cts]
  unfold serialOutputByte Output.forHost
  dsimp only
  rw [Ring.contents_push byte hfits,List.append_assoc]

/-- A frame that rcvDatagram found room for is kept when CTS lets a byte go. -/
theorem storeFrame_kept {o : Output} {t : DatagramType} {rxData : List UInt8} {cts : Nat}
    (hcts : 0 < cts) (hshort : rxData.length < 256)
    (hfree : Stores t → rxData.length ≤ (o.freeSpace false).bytes rxData.length t) :
    (storeFrame false o t rxData ⟨0,cts,0⟩).forHost =
      o.forHost ++ (Station.chunks t rxData).flatMap Chunk.bytes := by
  have hblock : rxData.length ≤ serialTransmitBufferSize - o.serialTransmitBuffer.available →
      (serialBufferOutput o rxData cts).forHost = o.forHost ++ rxData := by
    intro hroom
    have hlt := o.serialTransmitBuffer.available_lt
    apply (block_fits_iff hshort).mpr
    simp only [serialTransmitBufferSize] at hroom hlt ⊢
    omega
  cases t with
  | data => exact (hblock (hfree (.inl rfl))).trans (by simp [Station.chunks,Chunk.bytes])
  | remoteCommandResponse =>
    exact (hblock (hfree (.inr (.inr rfl)))).trans (by simp [Station.chunks,Chunk.bytes])
  | _ => exact (List.append_nil _).symm

theorem restartInput_forwards {p : Port} (h : p.Forwards)
    {rx : Ring UInt8 serialReceiveBufferSize} {tx : Ring UInt8 radioTxBufferSize}
    (htx : tx.contents = []) (commandLength : Nat) (waitRemoteCommandResponse : Bool) :
    (Station.restartInput { p with
      serialReceiveBuffer := rx
      radioTxBuffer := tx
      commandLength
      waitRemoteCommandResponse }).Forwards := by
  have hnone : tx.available = 0 := Ring.contents_eq_nil.mp htx
  refine ⟨?_,?_,?_,⟨h.sound.overwritten,h.sound.few,h.sound.commandMode,fun _ => ?_⟩⟩
  · have hwaiting : Taken.byte ∘ Taken.waiting = id := rfl
    simp only [Station.restartInput,List.map_map,hwaiting,List.map_id]
  · simp only [Station.restartInput]
    cases hmode : p.inCommandMode with
    | false => exact modeAfter_waiting _
    | true =>
      have hescapes : p.escapes = [] := by simp [SerialInput.escapes,h.sound.commandMode hmode]
      unfold SerialInput.escapes at hescapes ⊢
      rw [hescapes]
      rfl
  · have hnothing : dataBytes [] = some [] := rfl
    refine (dataBytes_waiting hnothing _).trans ?_
    simp only [Station.restartInput,SerialInput.toSend,htx]
    rfl
  · change tx.available < _
    rw [hnone]
    decide

theorem Station.Accounts.discardPreviousData (h : s.Accounts) (cts : Nat) :
    (s.discardPreviousData cts).Accounts where
  input := restartInput_forwards h.input (Ring.contents_flush _) _ _
  output := Ring.contents_flush _

theorem Station.Accounts.breakLink (h : s.Accounts) (cts : Nat) :
    (s.breakLink cts).Accounts := by
  unfold Station.breakLink
  split
  · exact ⟨restartInput_forwards h.input (Ring.contents_revoke _) _ _,h.output⟩
  · exact ⟨restartInput_forwards h.input (Ring.contents_revoke _) _ _,Ring.contents_revoke _⟩

/-- An accepted frame has passed the comparison with the free space. -/
theorem rcvDatagram_room {r : P2P.Radio} {f : Frame} {i : Inputs} {t : DatagramType}
    (h : (P2P.rcvDatagram r (.frame f) i).2 = .datagram t) (ht : Stores t) :
    f.payload.length ≤ i.space.bytes f.payload.length t := by
  obtain ⟨g,hg,htype,hignore⟩ := (P2P.rcvDatagram_same r (.frame f) i).2.2 t h
  obtain rfl : f = g := by simpa using hg
  have hnumber : rcvNumber false r.vc f.control f.payload.length i.space =
      validateDatagram r.vc t f.control.ackNumber (i.space.bytes f.payload.length t)
        f.payload.length i.space.inCommandMode := by
    unfold rcvNumber
    rw [htype]
    rcases ht with rfl | rfl | rfl <;> rfl
  unfold P2P.rcvDatagram at h
  dsimp only at h
  rw [if_neg (by rw [hignore]; exact Bool.false_ne_true),hnumber] at h
  have haccepted : (validateDatagram r.vc t f.control.ackNumber
      (i.space.bytes f.payload.length t) f.payload.length i.space.inCommandMode).2 =
        .datagram t := by
    revert h
    generalize validateDatagram r.vc t f.control.ackNumber _ _ _ = q
    obtain ⟨vc,u⟩ := q
    intro h
    cases u <;> exact h
  exact validateDatagram_accepts haccepted

/-- The payload of a frame that is not discarded is at most a datagram long. -/
def Short (packet : Option Reception) : Prop :=
  ∀ f, packet = some (.frame f) → f.control.ignoreFrame = false → f.payload.length < 256

theorem Station.Accounts.received (h : s.Accounts) {packet : Option Reception} {i : Inputs}
    {cts : Nat} {inCommandMode : Bool} (hcts : 0 < cts)
    (hspace : i.space = s.output.freeSpace inCommandMode) (hshort : Short packet) :
    (s.received packet i cts).Accounts := by
  unfold Station.received
  split
  next p _ =>
    split
    next t ht =>
      obtain ⟨f,rfl,hf⟩ := (P2P.rcvDatagram_same s.radio p i).2.2 t ht
      have hroom := rcvDatagram_room ht
      rw [hspace] at hroom
      refine ⟨?_,?_⟩
      · exact h.input.step (.other s.port.commandLength _)
      · refine (storeFrame_kept hcts (hshort f rfl hf.2) fun hstores => ?_).trans ?_
        · refine Nat.le_trans (hroom hstores) (Nat.le_of_eq ?_)
          cases t <;> rfl
        · rw [h.output,← List.flatMap_append]
          rfl
    next => exact h
  next => exact h

theorem Station.Accounts.loaded (h : s.Accounts) (packet : Option Reception) (p : Pass) :
    (s.loaded ch packet c p).Accounts := by
  refine ⟨?_,h.output⟩
  unfold Station.loaded
  dsimp only
  split
  · exact h.input
  · exact h.input.step (.processWaitingSerial false c.serialTimeout ch.maxDatagramSize)

theorem Station.Accounts.updateRadioState (h : s.Accounts) {packet : Option Reception}
    (hcts : 0 < c.cts) (hshort : Short packet) : (s.updateRadioState ch packet c).Accounts := by
  have hloaded : (s.loaded ch packet c (s.pass ch packet c)).Accounts := h.loaded packet _
  have hspace : (s.inputs ch c).space =
      (s.loaded ch packet c (s.pass ch packet c)).output.freeSpace s.port.inCommandMode := rfl
  have hreceived := hloaded.received hcts hspace hshort
  unfold Station.updateRadioState Station.emptied
  dsimp only
  have hradio : ∀ q : Station, q.Accounts →
      ∀ r, Station.Accounts { q with radio := r } := fun q hq r => ⟨hq.input,hq.output⟩
  split
  · exact hradio _ (hreceived.discardPreviousData _) _
  · split
    · exact hradio _ (hreceived.breakLink _) _
    · exact hradio _ hreceived _

theorem Station.Accounts.print (h : s.Accounts) (byte : UInt8) {cts : Nat} (hcts : 0 < cts) :
    (s.print byte cts).Accounts where
  input := h.input
  output := by
    refine (serialOutputByte_kept byte hcts).trans ?_
    unfold Station.print
    rw [h.output,List.flatMap_append]
    rfl

theorem Station.Accounts.remoteCommands (h : s.Accounts) (response : List UInt8) :
    (s.remoteCommands response).Accounts := by
  have hinput : ∀ n, Port.Forwards { s.port with commandLength := n } := fun n =>
    h.input.step (.other n s.port.waitRemoteCommandResponse)
  unfold Station.remoteCommands
  dsimp only
  split
  · exact ⟨hinput _,h.output⟩
  · exact ⟨hinput _,h.output⟩

theorem Station.Accounts.sendRemoteCommand (h : s.Accounts) (command : List UInt8) :
    (s.sendRemoteCommand command).Accounts := by
  unfold Station.sendRemoteCommand
  split
  · exact ⟨h.input.step (.other s.port.commandLength true),h.output⟩
  · exact h

theorem Station.Accounts.updateSerial (h : s.Accounts) (incoming : List UInt8)
    (turns : List Turn) (millis : BitVec 32) (cts : Nat) :
    (s.updateSerial incoming turns millis cts).Accounts where
  input := h.input.updateSerial incoming turns millis
  output := (outputSerialData_forHost s.output cts).trans h.output

/-- A datagram comes from a frame that holds it. -/
theorem receive_short (hch : ch.Usable) (hair : ch.Carries b.air l.air) {x : Side}
    {t : Transaction} (hdetects : b.Detects ch (.updateRadioState x t c)) :
    Short (b.receive ch x c.incomingBuffer t).1 := by
  intro f hf hignore
  have hbounds := ch.maxDatagramSize_bounds
  cases t with
  | none => cases hf
  | finished bytes =>
    obtain ⟨d,hd⟩ := hdetects
    unfold Pair.receive at hf
    dsimp only at hf
    rw [hd] at hf
    cases hf
  | received =>
    unfold Pair.receive at hf
    dsimp only at hf
    generalize b.air = air at hair hf
    generalize l.air = air' at hair
    cases hair with
    | silent => cases hf
    | frame s g ms stale hg =>
      dsimp only at hf
      split at hf
      · cases hf
      · have halike := hch.decode_alike hg ms stale c.incomingBuffer
        have hdecoded := Option.some.inj hf
        rw [hdecoded] at halike
        cases halike with
        | same =>
          unfold Channel.Holds at hg
          omega
        | unread _ _ hunread =>
          have hdropped : f.control.ignoreFrame = true := hunread
          rw [hignore] at hdropped
          cases hdropped

/-- A heartbeat that falls due while the ACK of a DATA frame is outstanding finds
the frame accepted by a linked peer. -/
def Pair.HeartbeatWaits (ch : Channel) (b : Pair) : Event → Prop
  | .updateRadioState x t c =>
    P2P.Overwrites (b.station x).radio (b.receive ch x c.incomingBuffer t).1
        ((b.station x).inputs ch c) →
      (b.station x).radio.rexmt.control.datagramType = .data →
        (b.station x.other).radio.Linked ∧ (b.station x.other).radio.vc.rmtTxAckNumber =
          (b.station x).radio.vc.txAckNumber + 1
  | _ => True

/-- CTS lets the host take a byte when room is made for output. -/
def HostReads : Event → Prop
  | .updateRadioState _ _ c => 0 < c.cts
  | .print _ _ cts => 0 < cts
  | _ => True

/-- What the steps of an undisturbed run meet. -/
structure Pair.Undisturbed (ch : Channel) (b : Pair) (e : Event) : Prop where
  detects : b.Detects ch e
  heartbeatWaits : b.HeartbeatWaits ch e
  hostReads : HostReads e

instance : (e : Event) → Decidable (b.HeartbeatWaits ch e)
  | .updateRadioState _ _ _ => inferInstanceAs (Decidable (P2P.Overwrites _ _ _ → _ → _ ∧ _))
  | .updateSerial .. | .remoteCommands .. | .sendRemoteCommand .. | .print .. | .reset _ | .lose =>
    isTrue trivial

instance : (e : Event) → Decidable (HostReads e)
  | .updateRadioState _ _ _ | .print _ _ _ => inferInstanceAs (Decidable (0 < _))
  | .updateSerial .. | .remoteCommands .. | .sendRemoteCommand .. | .reset _ | .lose =>
    isTrue trivial

instance (e : Event) : Decidable (b.Undisturbed ch e) :=
  decidable_of_iff (b.Detects ch e ∧ b.HeartbeatWaits ch e ∧ HostReads e)
    ⟨fun h => ⟨h.1,h.2.1,h.2.2⟩,fun h => ⟨h.1,h.2,h.3⟩⟩

theorem Alike.overwrites {p q : Option Reception} (h : Alike p q) {r : P2P.Radio} {i : Inputs}
    (hq : P2P.Overwrites r q i) : P2P.Overwrites r p i := by
  obtain ⟨hstate,hnone,hrest⟩ := hq
  subst hnone
  cases h with
  | same => exact ⟨hstate,rfl,hrest⟩

/-- The condition on the heartbeats is the one of the link. -/
theorem Refines.heartbeatWaits (hch : ch.Usable) (h : Refines ch b l) {x : Side}
    {t : Transaction} (hdetects : b.Detects ch (.updateRadioState x t c))
    (hwaits : b.HeartbeatWaits ch (.updateRadioState x t c)) :
    l.HeartbeatWaits (.pass x (ch.transaction c.incomingBuffer t) ((b.station x).inputs ch c)) := by
  intro hover hdata
  have halike := (receive_alike hch h.air hdetects).1
  rw [← h.radio x] at hover hdata
  have hpeer := hwaits (halike.overwrites hover) hdata
  rwa [h.radio x,h.radio x.other] at hpeer

theorem accounts_set (h : ∀ y, (b.station y).Accounts) (x : Side) (hs : s.Accounts) (y : Side) :
    ((b.set x s).station y).Accounts := by
  unfold Pair.set
  rcases x.eq_or_other y with rfl | rfl
  · dsimp only
    rw [Function.update_self]
    exact hs
  · dsimp only
    rw [Function.update_of_ne x.other_ne]
    exact h _

theorem accounts_step (hch : ch.Usable) (hair : ch.Carries b.air l.air)
    (h : ∀ y, (b.station y).Accounts) {e : Event} (he : b.Undisturbed ch e) (y : Side) :
    ((b.step ch e).station y).Accounts := by
  cases e with
  | updateRadioState x t c =>
    exact accounts_set h x ((h x).updateRadioState he.hostReads
      (receive_short hch hair he.detects)) y
  | updateSerial x incoming turns millis cts =>
    exact accounts_set h x ((h x).updateSerial incoming turns millis cts) y
  | remoteCommands x response => exact accounts_set h x ((h x).remoteCommands response) y
  | sendRemoteCommand x command => exact accounts_set h x ((h x).sendRemoteCommand command) y
  | print x byte cts => exact accounts_set h x ((h x).print byte he.hostReads) y
  | reset x =>
    have hreset : ∀ r, Station.Accounts { b.station x with radio := r } :=
      fun r => ⟨(h x).input,(h x).output⟩
    exact accounts_set h x (hreset _) y
  | lose => exact h y

/-- The link event of an undisturbed step keeps the data in order. -/
theorem inOrder_step (hch : ch.Usable) (h : Refines ch b l)
    (hl : P2P.Consistent (StopAndWait.InOrder Frame.userData) l) {e : Event}
    (he : b.Undisturbed ch e) :
    P2P.Consistent (StopAndWait.InOrder Frame.userData)
      (run Link.step l (b.linkEvents ch e)) := by
  have hevent : ∀ e', P2P.Link.HeartbeatWaits l e' →
      P2P.Consistent (StopAndWait.InOrder Frame.userData) (l.step e') :=
    fun e' hwaits => P2P.consistent_step P2P.inOrder_kept l e' hl (P2P.HeartbeatWaits.spares hwaits)
  cases e with
  | updateRadioState x t c => exact hevent _ (h.heartbeatWaits hch he.detects he.heartbeatWaits)
  | reset x => exact hevent (.command x) trivial
  | lose => exact hevent .lose trivial
  | updateSerial | remoteCommands | sendRemoteCommand | print => exact hl

/-- What holds of every undisturbed run. -/
structure Forwards (ch : Channel) (b : Pair) (l : Link) : Prop where
  refines : Refines ch b l
  inOrder : P2P.Consistent (StopAndWait.InOrder Frame.userData) l
  accounts : ∀ x, (b.station x).Accounts

theorem forwards_run (hch : ch.Usable) (h : Forwards ch b l) {es : List Event}
    (hes : Along (Pair.step ch) (Pair.Undisturbed ch) b es) :
    ∃ l', Forwards ch (run (Pair.step ch) b es) l' := by
  induction es generalizing b l with
  | nil => exact ⟨l,h⟩
  | cons e es ih =>
    obtain ⟨he,hes⟩ := hes
    have hsound := h.inOrder.sound
    exact ih ⟨h.refines.step hch hsound e he.detects,inOrder_step hch h.refines h.inOrder he,
      accounts_step hch h.refines.air h.accounts he⟩ hes

theorem Pair.Started.forwards (h : b.Started ch) : Forwards ch b b.link where
  refines := h.refines
  inOrder := h.link_started.consistent
  accounts x := by
    refine ⟨(h.port x).forwards,?_⟩
    rw [h.output x,h.printed x]
    rfl

/-- The payload that waits for its ACK, if the peer has not got it. -/
def Station.unaccepted (s t : Station) : List UInt8 :=
  if t.radio.vc.rmtTxAckNumber = s.radio.vc.txAckNumber ∧ s.radio.ackTimer = true ∧
      s.radio.rexmt.control.datagramType = .data then s.radio.rexmt.payload
  else []

theorem unaccepted_flatten (h : Refines ch b l) {x : Side} (hx : (l.radio x).Linked)
    {d : StopAndWait.Direction AckNumber Frame (List UInt8)}
    (hnext : d.next = (l.radio x).vc.txAckNumber) (hkept : d.outstanding = (l.radio x).kept)
    (hexpected : d.expected = (l.radio x.other).vc.rmtTxAckNumber) :
    (d.unaccepted Frame.userData).flatten = (b.station x).unaccepted (b.station x.other) := by
  unfold StopAndWait.Direction.unaccepted Station.unaccepted
  rw [hnext,hkept,hexpected,h.radio x,h.radio x.other]
  cases hon : (l.radio x).ackTimer with
  | false =>
    rw [hx.kept_off hon]
    split <;> simp
  | true =>
    rw [hx.kept_on hon]
    by_cases hdata : (l.radio x).rexmt.control.datagramType = .data
    · have huser : (l.radio x).rexmt.frame.userData = [(l.radio x).rexmt.payload] := if_pos hdata
      simp only [Option.map_some,Option.getD_some,huser,hdata,and_true]
      split <;> simp
    · have huser : (l.radio x).rexmt.frame.userData = [] := if_neg hdata
      simp [huser,hdata]

/-- From two radios in RADIO_RESET on, in any undisturbed run with any losses,
resets and handshakes on the way: while both are linked, what one host typed
since its link came up, less commands and escape sequences, is the data the
other radio has stored for its host, the payload in flight, and what still waits
in the buffers, in this order; and the other host gets exactly this data with
what its own radio prints. -/
theorem typed_bytes_arrive (hch : ch.Usable) (h : b.Started ch) (es : List Event)
    (hes : Along (Pair.step ch) (Pair.Undisturbed ch) b es)
    (hlinked : ∀ x, ((run (Pair.step ch) b es).station x).radio.Linked) (x : Side) :
    let s := (run (Pair.step ch) b es).station x
    let t := (run (Pair.step ch) b es).station x.other
    dataBytes s.port.history = some ((t.printed.flatMap Chunk.payload).flatten ++
        s.unaccepted t ++ s.port.radioTxBuffer.contents ++ s.port.escapes ++
        s.port.serialReceiveBuffer.contents) ∧
      modeAfter s.port.modeAtStart s.port.taken = some s.port.inCommandMode ∧
      s.port.history.map Taken.byte = s.port.received ∧
      t.output.host ++ t.output.serialTransmitBuffer.contents =
        t.printed.flatMap Chunk.bytes := by
  obtain ⟨l,hl⟩ := forwards_run hch h.forwards hes
  intro s t
  have hx : (l.radio x).Linked := hl.refines.radio x ▸ hlinked x
  have hy : (l.radio x.other).Linked := hl.refines.radio x.other ▸ hlinked x.other
  obtain ⟨hsent,hmodes,hread,-⟩ := (hl.accounts x).input.account
  have hdirection : l.taken x = l.delivered x.other ++ _ :=
    (hl.inOrder.linked x hx hy).complete
  have hpayloads : s.port.payloads.flatten =
      (t.printed.flatMap Chunk.payload).flatten ++ s.unaccepted t := by
    rw [hl.refines.taken x hx,hl.refines.delivered x.other hy,hdirection,List.flatten_append]
    exact congrArg _ (unaccepted_flatten hl.refines hx rfl rfl rfl)
  refine ⟨?_,hmodes,hread,(hl.accounts x.other).output⟩
  rw [← hpayloads]
  exact hsent

/-- A greeting is typed at A, sent, received at B and written to its host. -/
def greeting : List Event :=
  [.updateSerial .a [0x68,0x69] (List.replicate 2 ⟨fun _ => 5,false,false⟩) 5 0,
    .updateRadioState .a .none .idle,
    .updateRadioState .a (.finished []) .idle,
    .updateRadioState .b .received .idle,
    .updateSerial .b [] [] 5 7]

theorem greeting_arrives :
    let b := run (Pair.step defaultChannel) .powerUp (handshake ++ greeting)
    let s := b.station .a
    let t := b.station .b
    t.output.host = [0x68,0x69] ∧
      dataBytes s.port.history = some ((t.printed.flatMap Chunk.payload).flatten ++
          s.unaccepted t ++ s.port.radioTxBuffer.contents ++ s.port.escapes ++
          s.port.serialReceiveBuffer.contents) ∧
        modeAfter s.port.modeAtStart s.port.taken = some s.port.inCommandMode ∧
        s.port.history.map Taken.byte = s.port.received ∧
        t.output.host ++ t.output.serialTransmitBuffer.contents =
          t.printed.flatMap Chunk.bytes := by
  have hhost : ((run (Pair.step defaultChannel) .powerUp
      (handshake ++ greeting)).station .b).output.host = [0x68,0x69] := by
    decide +kernel
  have hlinked : ∀ x, ((run (Pair.step defaultChannel) .powerUp
      (handshake ++ greeting)).station x).radio.Linked := by
    intro x
    cases x <;> decide +kernel
  have harrived := typed_bytes_arrive defaultChannel_usable Pair.powerUp_started
    (handshake ++ greeting) (by decide +kernel) hlinked .a
  clear hlinked
  generalize run (Pair.step defaultChannel) .powerUp (handshake ++ greeting) = q
    at hhost harrived ⊢
  exact ⟨hhost,harrived⟩

end LoRaSerial.Bridge
