import LoRaSerial.Serial.Port

namespace LoRaSerial.Serial
open Rings Runs

/-- A byte outside command mode is data, unless it enters command mode: then the
escape sequence that it ends is none. A byte in command mode is part of a command. -/
def Taken.addTo (data : List UInt8) (t : Taken) : Option (List UInt8) :=
  match t.before,t.after with
  | false,false => some (data ++ [t.byte])
  | false,true => (data ++ [t.byte]).dropSuffix? (.replicate maxEscapeCharacters escapeCharacter)
  | true,_ => some data

/-- The data among the bytes taken, if command mode was only entered by escape
sequences. -/
def dataBytes (log : List Taken) : Option (List UInt8) := log.foldlM Taken.addTo []

/-- The mode after a log, if each of its bytes was taken in the mode that the one
before it left. -/
def modeAfter (modeAtStart : Bool) (log : List Taken) : Option Bool :=
  log.foldlM (fun mode t => if t.before = mode then some t.after else none) modeAtStart

/-- A byte that waits in serialReceiveBuffer, as data. -/
def Taken.waiting (b : UInt8) : Taken := ⟨b,false,false⟩

theorem dataBytes_snoc {log : List Taken} {data : List UInt8} (h : dataBytes log = some data)
    (t : Taken) : dataBytes (log ++ [t]) = t.addTo data := by
  unfold dataBytes at h ⊢
  simp [List.foldlM_append,h]

theorem dataBytes_waiting {log : List Taken} {data : List UInt8} (h : dataBytes log = some data)
    (bs : List UInt8) : dataBytes (log ++ bs.map Taken.waiting) = some (data ++ bs) := by
  induction bs generalizing log data with
  | nil => simpa using h
  | cons b bs ih =>
    have hone : dataBytes (log ++ [.waiting b]) = some (data ++ [b]) := dataBytes_snoc h _
    have hrest := ih hone
    rwa [List.append_assoc,List.append_assoc] at hrest

theorem modeAfter_snoc {modeAtStart mode : Bool} {log : List Taken}
    (h : modeAfter modeAtStart log = some mode) (b : UInt8) (after : Bool) :
    modeAfter modeAtStart (log ++ [⟨b,mode,after⟩]) = some after := by
  unfold modeAfter at h ⊢
  simp [List.foldlM_append,h]

theorem modeAfter_waiting (bs : List UInt8) :
    modeAfter false (bs.map Taken.waiting) = some false := by
  induction bs with
  | nil => rfl
  | cons b bs ih => exact ih

/-- What is to be sent: the bytes in radioTxBuffer, then the escape characters
that are held back. -/
def SerialInput.toSend (s : SerialInput) : List UInt8 := s.radioTxBuffer.contents ++ s.escapes

/-- No byte was stored on another one, and the replays find room in radioTxBuffer. -/
structure SerialInput.Sound (s : SerialInput) : Prop where
  overwritten : s.overwritten = false
  few : s.escapeCharsReceived < maxEscapeCharacters
  commandMode : s.inCommandMode = true → s.escapeCharsReceived = 0
  room : 0 < s.escapeCharsReceived →
    s.radioTxBuffer.available < radioTxBufferSize - maxEscapeCharacters

/-- A turn on `b` leads from `s` to `s'`: what is to be sent changes as the modes
before and after it say. -/
structure SerialInput.Turned (s : SerialInput) (b : UInt8) (s' : SerialInput) : Prop where
  sound : s'.Sound
  toSend : ∀ loaded, Taken.addTo (loaded ++ s.toSend) ⟨b,s.inCommandMode,s'.inCommandMode⟩ =
    some (loaded ++ s'.toSend)
  serialReceiveBuffer : s'.serialReceiveBuffer = s.serialReceiveBuffer

/-- Every byte read was taken or waits, in order, the mode only changed in turns,
and the data among the bytes taken is in the payloads and still to be sent. -/
structure Port.Forwards (p : Port) : Prop where
  received : p.taken.map Taken.byte ++ p.serialReceiveBuffer.contents = p.received
  modes : modeAfter p.modeAtStart p.taken = some p.inCommandMode
  sent : dataBytes p.taken = some (p.payloads.flatten ++ p.toSend)
  sound : p.toSerialInput.Sound

/-- Bytes that find room in radioTxBuffer are appended to it. -/
theorem transmitAll_eq {s : SerialInput} {bs : List UInt8}
    (hroom : s.radioTxBuffer.available + bs.length < radioTxBufferSize) :
    s.transmitAll bs = { s with radioTxBuffer := s.radioTxBuffer.pushAll bs } := by
  induction bs generalizing s with
  | nil => simp [SerialInput.transmitAll,Ring.pushAll]
  | cons b bs ih =>
    have hone : s.radioTxBuffer.available + 1 < radioTxBufferSize := by
      simp only [List.length_cons] at hroom
      omega
    have hb : s.transmit b = { s with radioTxBuffer := s.radioTxBuffer.push b } := by
      have hfull : full s.radioTxBuffer = false := beq_false_of_ne (Nat.ne_of_lt hone)
      simp [SerialInput.transmit,hfull]
    have hrest : (s.transmit b).radioTxBuffer.available + bs.length < radioTxBufferSize := by
      rw [hb]
      change (s.radioTxBuffer.push b).available + _ < _
      rw [Ring.available_push b hone]
      simp only [List.length_cons] at hroom
      omega
    change (s.transmit b).transmitAll bs = _
    rw [ih hrest,hb]
    simp [Ring.pushAll]

theorem transmitAll_append (s : SerialInput) (as bs : List UInt8) :
    s.transmitAll (as ++ bs) = (s.transmitAll as).transmitAll bs := by
  simp [SerialInput.transmitAll]

/-- The escape characters that are held back and `bs` go to radioTxBuffer in this
order. -/
theorem SerialInput.Sound.transmit {s : SerialInput} (h : s.Sound) {bs : List UInt8}
    (hroom : s.radioTxBuffer.available + (s.escapeCharsReceived + bs.length) <
      radioTxBufferSize) :
    let s' : SerialInput := { s.transmitAll (s.escapes ++ bs) with escapeCharsReceived := 0 }
    s'.Sound ∧ s'.toSend = s.toSend ++ bs ∧ s'.inCommandMode = s.inCommandMode ∧
      s'.serialReceiveBuffer = s.serialReceiveBuffer := by
  have hfits : s.radioTxBuffer.available + (s.escapes ++ bs).length < radioTxBufferSize := by
    simpa [SerialInput.escapes] using hroom
  intro s'
  have hs' : s' = { s with
      radioTxBuffer := s.radioTxBuffer.pushAll (s.escapes ++ bs)
      escapeCharsReceived := 0 } :=
    congrArg (fun q : SerialInput => { q with escapeCharsReceived := 0 }) (transmitAll_eq hfits)
  rw [hs']
  refine ⟨⟨h.overwritten,Nat.zero_lt_succ _,fun _ => rfl,fun hpos => ?_⟩,?_,rfl,rfl⟩
  · exact absurd hpos (Nat.lt_irrefl 0)
  · unfold SerialInput.toSend
    dsimp only
    rw [Ring.contents_pushAll hfits,← List.append_assoc]
    exact List.append_nil _

/-- The escape characters that are held back go to radioTxBuffer. -/
theorem SerialInput.Sound.replay {s : SerialInput} (h : s.Sound) :
    s.replay.Sound ∧ s.replay.toSend = s.toSend ∧ s.replay.inCommandMode = s.inCommandMode ∧
      s.replay.serialReceiveBuffer = s.serialReceiveBuffer := by
  have hlt := s.radioTxBuffer.available_lt
  have hroom : s.radioTxBuffer.available + (s.escapeCharsReceived + ([] : List UInt8).length) <
      radioTxBufferSize := by
    have hfew := h.few
    have hroom := h.room
    simp only [maxEscapeCharacters,List.length_nil] at hfew hroom ⊢
    omega
  have hsent := h.transmit hroom
  rw [List.append_nil,List.append_nil] at hsent
  exact hsent

/-- A turn outside command mode that does not enter it adds its byte. -/
theorem SerialInput.Sound.turned {s s' : SerialInput} {b : UInt8} (h : s'.Sound)
    (hbefore : s.inCommandMode = false) (hafter : s'.inCommandMode = false)
    (hsend : s'.toSend = s.toSend ++ [b])
    (hrx : s'.serialReceiveBuffer = s.serialReceiveBuffer) : s.Turned b s' := by
  refine ⟨h,fun loaded => ?_,hrx⟩
  rw [hbefore,hafter,hsend,← List.append_assoc]
  rfl

/-- A byte of a command changes the command and the modes. -/
theorem commandByte_eq (s : SerialInput) (b : UInt8) (t : Turn) :
    ∃ commandLength inCommandMode waitRemoteCommandResponse, (commandByte s b t).1 =
      { s with commandLength, inCommandMode, waitRemoteCommandResponse } := by
  unfold commandByte
  dsimp only
  split
  · split
    · exact ⟨_,_,_,rfl⟩
    · exact ⟨_,_,_,rfl⟩
  · split
    · exact ⟨_,_,_,rfl⟩
    · split
      · exact ⟨_,_,_,rfl⟩
      · split <;> exact ⟨_,_,_,rfl⟩

theorem SerialInput.Sound.commandByte {s : SerialInput} (h : s.Sound) (b : UInt8) (t : Turn)
    (hmode : s.inCommandMode = true) : s.Turned b (commandByte s b t).1 := by
  obtain ⟨commandLength,inCommandMode,waitRemoteCommandResponse,heq⟩ := commandByte_eq s b t
  rw [heq]
  refine ⟨⟨h.overwritten,h.few,fun _ => h.commandMode hmode,h.room⟩,fun loaded => ?_,rfl⟩
  rw [hmode]
  rfl

theorem SerialInput.Sound.streamByte {s : SerialInput} (h : s.Sound) (b : UInt8) (t : Turn)
    (hmode : s.inCommandMode = false)
    (hroom : s.radioTxBuffer.available < radioTxBufferSize - maxEscapeCharacters) :
    s.Turned b (streamByte s b t).1 := by
  have hfew := h.few
  unfold Serial.streamByte
  dsimp only
  split
  next hescaping =>
    have hb : b = escapeCharacter := by
      simp only [SerialInput.escaping,Bool.and_eq_true,beq_iff_eq] at hescaping
      exact hescaping.1
    have hone : s.escapes ++ [b] = .replicate (s.escapeCharsReceived + 1) escapeCharacter := by
      rw [hb]
      exact List.replicate_succ'.symm
    split
    next hlast =>
      refine ⟨⟨h.overwritten,Nat.zero_lt_succ _,fun _ => rfl,
        fun hpos => absurd hpos (Nat.lt_irrefl 0)⟩,fun loaded => ?_,rfl⟩
      rw [hmode]
      refine List.dropSuffix?_eq_some_iff.mpr
        ⟨.replicate maxEscapeCharacters escapeCharacter,?_,beq_self_eq_true _⟩
      unfold SerialInput.toSend
      rw [List.append_assoc,List.append_assoc,hone,hlast]
      simp [SerialInput.escapes]
    next hmore =>
      refine SerialInput.Sound.turned ⟨h.overwritten,Nat.lt_of_le_of_ne hfew hmore,
        fun hin => ?_,fun _ => hroom⟩ hmode hmode ?_ rfl
      · exact absurd (hmode.symm.trans hin) Bool.false_ne_true
      · unfold SerialInput.toSend
        rw [List.append_assoc,hone]
        rfl
  next =>
    have hfits : s.radioTxBuffer.available + (s.escapeCharsReceived + [b].length) <
        radioTxBufferSize := by
      simp only [maxEscapeCharacters,List.length_singleton] at hfew hroom ⊢
      omega
    have htimed : SerialInput.Sound { s with lastByteReceived_ms := t.millis 2 } :=
      ⟨h.overwritten,h.few,h.commandMode,h.room⟩
    obtain ⟨hsound,hsend,hin,hrx⟩ := htimed.transmit hfits
    rw [transmitAll_append] at hsound hsend hin hrx
    exact hsound.turned hmode (hin.trans hmode) hsend hrx

/-- A turn takes the next byte and accounts for it. -/
theorem Port.Forwards.record {p : Port} (h : p.Forwards)
    (hsome : p.serialReceiveBuffer.available ≠ 0) {s : SerialInput}
    (hturned : p.takeByte.Turned (p.serialReceiveBuffer.peek 0) s) :
    (p.record (p.serialReceiveBuffer.peek 0) s).Forwards where
  received := by
    have hr := h.received
    rw [p.serialReceiveBuffer.contents_split (Nat.one_le_iff_ne_zero.mpr hsome)] at hr
    unfold Port.record
    dsimp only
    rw [hturned.serialReceiveBuffer,List.map_append,List.append_assoc]
    exact hr
  modes := modeAfter_snoc h.modes _ _
  sent := (dataBytes_snoc h.sent _).trans (hturned.toSend _)
  sound := hturned.sound

theorem Port.Forwards.processLoop {p : Port} (h : p.Forwards) (turns : List Turn) :
    (processLoop p turns).1.Forwards := by
  induction turns generalizing p with
  | nil => exact h
  | cons t turns ih =>
    unfold Serial.processLoop
    split
    next hready =>
      simp only [SerialInput.ready,Bool.and_eq_true,bne_iff_ne,decide_eq_true_eq] at hready
      obtain ⟨⟨hsome,hroom⟩,-⟩ := hready
      have htaken : p.takeByte.Sound :=
        ⟨h.sound.overwritten,h.sound.few,h.sound.commandMode,h.sound.room⟩
      dsimp only
      split
      next hmode =>
        have hnext := h.record hsome (htaken.commandByte (p.serialReceiveBuffer.peek 0) t hmode)
        split
        next hleft =>
          rw [hleft] at hnext
          exact hnext
        next hgoes =>
          rw [hgoes] at hnext
          exact ih hnext
      next hmode =>
        have hnext := h.record hsome (htaken.streamByte (p.serialReceiveBuffer.peek 0) t
          (Bool.eq_false_iff.mpr hmode) hroom)
        split
        next hleft =>
          rw [hleft] at hnext
          exact hnext
        next hgoes =>
          rw [hgoes] at hnext
          exact ih hnext
    next => exact h

theorem Port.Forwards.escapeTimeout {p : Port} (h : p.Forwards) (millis : BitVec 32) :
    Port.Forwards { p with toSerialInput := escapeTimeout p.toSerialInput millis } := by
  obtain ⟨hsound,hsend,hmode,hrx⟩ := h.sound.replay
  unfold Serial.escapeTimeout
  split
  · refine ⟨?_,h.modes.trans (congrArg some hmode.symm),?_,hsound⟩
    · dsimp only
      rw [hrx]
      exact h.received
    · dsimp only
      rw [hsend]
      exact h.sent
  · exact h

theorem Port.Forwards.processSerialInput {p : Port} (h : p.Forwards) (turns : List Turn)
    (millis : BitVec 32) : (processSerialInput p turns millis).Forwards := by
  have hloop := h.processLoop turns
  unfold Serial.processSerialInput
  split
  next heq =>
    rw [heq] at hloop
    exact hloop
  next heq =>
    rw [heq] at hloop
    exact hloop.escapeTimeout millis

/-- Bytes that find room in serialReceiveBuffer are appended to it. -/
theorem receive_eq {p : Port} {bs : List UInt8}
    (hroom : p.serialReceiveBuffer.available + bs.length < serialReceiveBufferSize) :
    bs.foldl Port.receive p = { p with
      serialReceiveBuffer := p.serialReceiveBuffer.pushAll bs
      received := p.received ++ bs } := by
  induction bs generalizing p with
  | nil => simp [Ring.pushAll]
  | cons b bs ih =>
    have hone : p.serialReceiveBuffer.available + 1 < serialReceiveBufferSize := by
      simp only [List.length_cons] at hroom
      omega
    have hb : p.receive b = { p with
        serialReceiveBuffer := p.serialReceiveBuffer.push b
        received := p.received ++ [b] } := by
      have hfull : full p.serialReceiveBuffer = false := beq_false_of_ne (Nat.ne_of_lt hone)
      simp [Port.receive,hfull]
    have hrest : (p.receive b).serialReceiveBuffer.available + bs.length <
        serialReceiveBufferSize := by
      rw [hb]
      change (p.serialReceiveBuffer.push b).available + _ < _
      rw [Ring.available_push b hone]
      simp only [List.length_cons] at hroom
      omega
    change bs.foldl Port.receive (p.receive b) = _
    rw [ih hrest,hb]
    simp [Ring.pushAll]

theorem Port.Forwards.updateSerial {p : Port} (h : p.Forwards) (incoming : List UInt8)
    (turns : List Turn) (millis : BitVec 32) :
    (updateSerial p incoming turns millis).Forwards := by
  have hlt := p.serialReceiveBuffer.available_lt
  apply Port.Forwards.processSerialInput
  have hroom : p.serialReceiveBuffer.available +
      (incoming.take (serialReceiveBufferSize - 1 - p.serialReceiveBuffer.available)).length <
      serialReceiveBufferSize := by
    rw [List.length_take]
    omega
  rw [receive_eq hroom]
  refine ⟨?_,h.modes,h.sent,
    ⟨h.sound.overwritten,h.sound.few,h.sound.commandMode,h.sound.room⟩⟩
  have hr := h.received
  dsimp only
  rw [Ring.contents_pushAll hroom,← List.append_assoc]
  exact congrArg (· ++ _) hr

theorem Port.Forwards.readyOutgoingPacket {p : Port} (h : p.Forwards) {bytesToSend : Nat}
    (hbytes : bytesToSend ≤ p.radioTxBuffer.available) (maxDatagramSize : UInt8) :
    (readyOutgoingPacket p bytesToSend maxDatagramSize).Forwards := by
  have hle : min bytesToSend maxDatagramSize.toNat ≤ p.radioTxBuffer.available :=
    Nat.le_trans (Nat.min_le_left _ _) hbytes
  obtain ⟨hloaded,hleft⟩ := p.radioTxBuffer.take_contents hle
  refine ⟨h.received,h.modes,?_,
    ⟨h.sound.overwritten,h.sound.few,h.sound.commandMode,fun hpos => ?_⟩⟩
  · have hs := h.sent
    unfold Serial.readyOutgoingPacket SerialInput.toSend at *
    simp only [List.flatten_append,List.flatten_singleton]
    rw [hloaded,hleft,List.append_assoc,← List.append_assoc (List.take _ _),
      List.take_append_drop]
    exact hs
  · have hfewer : (p.radioTxBuffer.take (min bytesToSend maxDatagramSize.toNat)).2.available ≤
        p.radioTxBuffer.available := by
      rw [← Ring.length_contents,← Ring.length_contents,hleft,List.length_drop]
      exact Nat.sub_le _ _
    exact Nat.lt_of_le_of_lt hfewer (h.sound.room hpos)

theorem Port.Forwards.step {p : Port} (h : p.Forwards) (e : Event) :
    (step p e).Forwards := by
  cases e with
  | updateSerial incoming turns millis => exact h.updateSerial incoming turns millis
  | processWaitingSerial sendNow timeout maxDatagramSize =>
    unfold Serial.step processWaitingSerial
    dsimp only
    split
    · exact h.readyOutgoingPacket (Nat.le_refl _) maxDatagramSize
    · split
      · exact h.readyOutgoingPacket (Nat.le_refl _) maxDatagramSize
      · exact h
  | other commandLength waitRemoteCommandResponse =>
    exact ⟨h.received,h.modes,h.sent,
      ⟨h.sound.overwritten,h.sound.few,h.sound.commandMode,h.sound.room⟩⟩

theorem Port.Started.forwards {p : Port} (h : p.Started) : p.Forwards := by
  have hescapes : p.escapes = [] := by simp [SerialInput.escapes,h.escapeCharsReceived]
  refine ⟨?_,?_,?_,⟨h.overwritten,h.escapeCharsReceived ▸ Nat.zero_lt_succ _,
    fun _ => h.escapeCharsReceived,
    fun hpos => absurd hpos (h.escapeCharsReceived ▸ Nat.lt_irrefl 0)⟩⟩
  · rw [h.taken,h.serialReceiveBuffer,h.received]
    rfl
  · rw [h.taken,h.modeAtStart]
    rfl
  · unfold SerialInput.toSend
    rw [h.taken,hescapes,h.radioTxBuffer,h.payloads]
    rfl

/-- The bytes read: those taken, and the others as data. -/
def Port.history (p : Port) : List Taken :=
  p.taken ++ p.serialReceiveBuffer.contents.map Taken.waiting

theorem Port.history_byte (p : Port) :
    p.history.map Taken.byte = p.taken.map Taken.byte ++ p.serialReceiveBuffer.contents := by
  have hwaiting : Taken.byte ∘ Taken.waiting = id := rfl
  rw [Port.history,List.map_append,List.map_map,hwaiting,List.map_id]

/-- What the accounting says of a port between two calls. -/
theorem Port.Forwards.account {p : Port} (h : p.Forwards) :
    dataBytes p.history = some (p.payloads.flatten ++ p.radioTxBuffer.contents ++ p.escapes ++
        p.serialReceiveBuffer.contents) ∧
      modeAfter p.modeAtStart p.taken = some p.inCommandMode ∧
      p.history.map Taken.byte = p.received ∧ p.overwritten = false := by
  refine ⟨?_,h.modes,p.history_byte.trans h.received,h.sound.overwritten⟩
  have hwaiting := dataBytes_waiting h.sent p.serialReceiveBuffer.contents
  rwa [SerialInput.toSend,← List.append_assoc] at hwaiting

theorem processLoop_payloads (p : Port) (turns : List Turn) :
    (processLoop p turns).1.payloads = p.payloads := by
  induction turns generalizing p with
  | nil => rfl
  | cons t turns ih =>
    unfold processLoop
    split
    · dsimp only
      split
      · split
        · rfl
        · exact ih _
      · split
        · rfl
        · exact ih _
    · rfl

theorem processSerialInput_payloads (p : Port) (turns : List Turn) (millis : BitVec 32) :
    (processSerialInput p turns millis).payloads = p.payloads := by
  have hloop := processLoop_payloads p turns
  unfold processSerialInput
  split
  next heq => rwa [heq] at hloop
  next heq => rwa [heq] at hloop

theorem receive_payloads (p : Port) (incoming : List UInt8) :
    (incoming.foldl Port.receive p).payloads = p.payloads := by
  induction incoming generalizing p with
  | nil => rfl
  | cons b incoming ih => exact ih (p.receive b)

/-- Only readyOutgoingPacket loads a payload. -/
theorem updateSerial_payloads (p : Port) (incoming : List UInt8) (turns : List Turn)
    (millis : BitVec 32) : (updateSerial p incoming turns millis).payloads = p.payloads :=
  (processSerialInput_payloads _ turns millis).trans (receive_payloads p _)

/-- The payloads, radioTxBuffer, the escape characters that are held back and
serialReceiveBuffer hold, in this order, the bytes read but for the escape
sequences that entered command mode and the bytes taken in command mode, which is
entered in no other way, and no byte is ever stored on another one. -/
theorem serial_input_forwarded {p : Port} (h : p.Started) (es : List Event) :
    let q := run step p es
    dataBytes q.history = some (q.payloads.flatten ++ q.radioTxBuffer.contents ++ q.escapes ++
        q.serialReceiveBuffer.contents) ∧
      modeAfter q.modeAtStart q.taken = some q.inCommandMode ∧
      q.history.map Taken.byte = q.received ∧ q.overwritten = false := by
  have hstep : ∀ s e, Port.Forwards s → True → (step s e).Forwards :=
    fun _ e hs _ => hs.step e
  have hq : (run step p es).Forwards := invariant hstep h.forwards (along_true step p es)
  exact hq.account

/-- After power on, both rings at their last cell. -/
def poweredOn : Port where
  serialReceiveBuffer := { cell := fun _ => 0, head := 1023, tail := 1023 }
  radioTxBuffer := { cell := fun _ => 0, head := 3071, tail := 3071 }
  escapeCharsReceived := 0
  lastByteReceived_ms := 0
  lastEscapeCharEnteredMillis := 0
  inCommandMode := false
  waitRemoteCommandResponse := false
  commandLength := 0
  modeAtStart := false
  received := []
  taken := []
  payloads := []
  overwritten := false

theorem poweredOn_started : poweredOn.Started where
  serialReceiveBuffer := by decide
  radioTxBuffer := by decide
  escapeCharsReceived := rfl
  modeAtStart := rfl
  received := rfl
  taken := rfl
  payloads := rfl
  overwritten := rfl

/-- An escape character that a letter follows is replayed before it, across the
end of the ring, and three that enter command mode are not sent. -/
theorem escape_replayed :
    let turn : Turn := ⟨fun _ => 5,false,false⟩
    let q := run step poweredOn
      [.updateSerial [escapeCharacter,0x61] [turn,turn] 5,.processWaitingSerial true false 255,
        .updateSerial (.replicate maxEscapeCharacters escapeCharacter) [turn,turn,turn] 5]
    q.payloads = [[escapeCharacter,0x61]] ∧ q.inCommandMode = true ∧
      dataBytes q.history = some (q.payloads.flatten ++ q.radioTxBuffer.contents ++ q.escapes ++
          q.serialReceiveBuffer.contents) ∧
        modeAfter q.modeAtStart q.taken = some q.inCommandMode ∧
        q.history.map Taken.byte = q.received ∧ q.overwritten = false :=
  ⟨by decide +kernel,by decide +kernel,serial_input_forwarded poweredOn_started _⟩

end LoRaSerial.Serial
