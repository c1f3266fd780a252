import LoRaSerial.Serial.Output
import LoRaSerial.Serial.Port

namespace LoRaSerial.Serial
open Rings Runs
open Outgoing (vcRadioHeaderBytes vcSerialHeaderBytes)

/-- What the five ways into commandBuffer share. The last field is history:
commandLength at every copy and at every call of checkCommand. -/
structure CommandInput where
  commandLength : UInt8
  inCommandMode : Bool
  commandRXBuffer : Ring UInt8 commandRxBufferSize
  lengths : List UInt8

/-- Bytes are copied, commandLength counts them. -/
def CommandInput.copied (s : CommandInput) (commandLength : UInt8) : CommandInput :=
  { s with commandLength, lengths := s.lengths ++ [commandLength] }

/-- checkCommand, which may enter or leave command mode. -/
def CommandInput.checkCommand (s : CommandInput) (inCommandMode : Bool) : CommandInput :=
  { s with commandLength := 0, inCommandMode, lengths := s.lengths ++ [s.commandLength] }

/-- A byte that is no end of a command, no line feed and no backspace. -/
def ordinary (incoming : UInt8) : Bool :=
  incoming != carriageReturn && incoming != semicolon && incoming != lineFeed &&
    incoming != backspace

/-- processSerialInput, a byte in command mode. -/
def typeByte (s : CommandInput) (incoming : UInt8) (inCommandMode : Bool) : CommandInput :=
  if incoming = carriageReturn ∨ incoming = semicolon then
    if 0 < s.commandLength.toNat then s.checkCommand inCommandMode else s
  else if incoming = lineFeed then s
  else if incoming = backspace then
    if 0 < s.commandLength.toNat then { s with commandLength := s.commandLength - 1 } else s
  else
    let s := s.copied (s.commandLength + 1)
    if commandBufferSize - 1 ≤ s.commandLength.toNat then s.checkCommand inCommandMode else s

/-- vcProcessSerialInput, a VC_COMMAND message that is there whole. -/
def vcCommandMessage (s : CommandInput) (length : UInt8) (inCommandMode : Bool) : CommandInput :=
  if length.toNat < vcSerialHeaderBytes ∨ commandBufferSize - 1 < length.toNat then s
  else (s.copied (length - UInt8.ofNat vcRadioHeaderBytes)).checkCommand inCommandMode

def letterR : UInt8 := 0x52

/-- updateSerial, the remote commands. One that does not begin with R is left
where it is. -/
def remoteCommands (s : CommandInput) (inCommandMode : Bool) : CommandInput :=
  if s.commandRXBuffer.available ≠ 0 ∧ s.inCommandMode = false then
    let commandLength :=
      if commandBufferSize ≤ s.commandRXBuffer.available then commandBufferSize - 1
      else s.commandRXBuffer.available
    let first := s.commandRXBuffer.peek 0
    let s := { s with commandRXBuffer := s.commandRXBuffer.skip commandLength }.copied
      (UInt8.ofNat commandLength)
    if first = letterR then s.checkCommand inCommandMode else s
  else s

/-- RADIO_P2P_LINK_UP, DATAGRAM_REMOTE_COMMAND. -/
def commandReceived (s : CommandInput) (rxData : List UInt8) : CommandInput :=
  if commandRxBufferSize - s.commandRXBuffer.available < rxData.length then s
  else { s with commandRXBuffer := s.commandRXBuffer.put rxData }

/-- RADIO_VC_WAIT_RECEIVE, DATAGRAM_REMOTE_COMMAND: rcvDatagram compares the
size of the frame with the free bytes of commandRXBuffer, but only where the
source has an address. -/
def vcCommandReceived (s : CommandInput) (srcUnassigned : Bool) (rxDataBytes : UInt8)
    (inCommandMode : Bool) : CommandInput :=
  if srcUnassigned = false ∧
      commandRxBufferSize - s.commandRXBuffer.available < rxDataBytes.toNat then s
  else if rxDataBytes.toNat < vcRadioHeaderBytes then s
  else
    (s.copied (rxDataBytes - UInt8.ofNat vcRadioHeaderBytes)).checkCommand inCommandMode

/-- RADIO_VC_WAIT_RECEIVE, a host message for the own remote-command channel;
`dataBytes` are in outgoingPacket from the header on. -/
def localCommandMessage (s : CommandInput) (dataBytes : Nat) (inCommandMode : Bool) :
    CommandInput :=
  (s.copied (UInt8.ofNat (dataBytes - vcRadioHeaderBytes))).checkCommand inCommandMode

inductive CommandEvent where
  | escape
  | typeByte (incoming : UInt8) (inCommandMode : Bool)
  | vcCommandMessage (length : UInt8) (inCommandMode : Bool)
  | remoteCommands (inCommandMode : Bool)
  | commandReceived (rxData : List UInt8)
  | vcCommandReceived (srcUnassigned : Bool) (rxDataBytes : UInt8) (inCommandMode : Bool)
  | localCommandMessage (dataBytes : Nat) (inCommandMode : Bool)
  | resetSerial
  | discardPreviousData

def commandStep (s : CommandInput) : CommandEvent → CommandInput
  | .escape => { s with inCommandMode := true }
  | .typeByte incoming inCommandMode =>
    if s.inCommandMode then Serial.typeByte s incoming inCommandMode else s
  | .vcCommandMessage length inCommandMode => Serial.vcCommandMessage s length inCommandMode
  | .remoteCommands inCommandMode => Serial.remoteCommands s inCommandMode
  | .commandReceived rxData => Serial.commandReceived s rxData
  | .vcCommandReceived srcUnassigned rxDataBytes inCommandMode =>
    Serial.vcCommandReceived s srcUnassigned rxDataBytes inCommandMode
  | .localCommandMessage dataBytes inCommandMode =>
    Serial.localCommandMessage s dataBytes inCommandMode
  | .resetSerial =>
    { s with commandLength := 0, commandRXBuffer := s.commandRXBuffer.revoke }
  -- what was typed of a command stays
  | .discardPreviousData => { s with commandRXBuffer := s.commandRXBuffer.flush }

/-- After power on, wherever the indices of the ring are. -/
def CommandInput.poweredOn (commandRXBuffer : Ring UInt8 commandRxBufferSize) : CommandInput where
  commandLength := 0
  inCommandMode := false
  commandRXBuffer
  lengths := []

/-- The command with its terminating zero has always fitted commandBuffer. -/
def CommandInput.Bounded (s : CommandInput) : Prop :=
  ∀ n ∈ s.lengths, n.toNat ≤ commandBufferSize - 1

/-- A byte is typed behind at most 98 others, a VC header and at most 99 bytes
come from a radio without address, and so does a message to the own radio. -/
def CommandFits (s : CommandInput) : CommandEvent → Prop
  | .typeByte incoming _ => s.inCommandMode = true → ordinary incoming = true →
      s.commandLength.toNat < commandBufferSize - 1
  | .vcCommandReceived srcUnassigned rxDataBytes _ => srcUnassigned = true →
      rxDataBytes.toNat ≤ vcRadioHeaderBytes + (commandBufferSize - 1)
  | .localCommandMessage dataBytes _ =>
      (dataBytes - vcRadioHeaderBytes) % 256 ≤ commandBufferSize - 1
  | _ => True

theorem CommandInput.copied_bounded_iff {s : CommandInput} {n : UInt8} :
    (s.copied n).Bounded ↔ s.Bounded ∧ n.toNat ≤ commandBufferSize - 1 := by
  unfold CommandInput.Bounded CommandInput.copied
  simp [or_imp,forall_and]

theorem CommandInput.checkCommand_bounded_iff {s : CommandInput} {inCommandMode : Bool} :
    (s.checkCommand inCommandMode).Bounded ↔
      s.Bounded ∧ s.commandLength.toNat ≤ commandBufferSize - 1 := by
  unfold CommandInput.Bounded CommandInput.checkCommand
  simp [or_imp,forall_and]

/-- A copy and a call of checkCommand behind it record one length. -/
theorem CommandInput.command_bounded_iff {s : CommandInput} {n : UInt8} {inCommandMode : Bool} :
    ((s.copied n).checkCommand inCommandMode).Bounded ↔
      s.Bounded ∧ n.toNat ≤ commandBufferSize - 1 := by
  rw [checkCommand_bounded_iff,copied_bounded_iff]
  exact and_iff_left_of_imp fun h => h.2

/-- Between two steps a command that is not complete leaves room for its zero. -/
structure CommandInput.Kept (s : CommandInput) : Prop where
  lengths : s.Bounded
  commandLength : s.commandLength.toNat ≤ commandBufferSize - 1

theorem CommandInput.Kept.checkCommand {s : CommandInput} (h : s.Kept) (inCommandMode : Bool) :
    (s.checkCommand inCommandMode).Kept :=
  ⟨checkCommand_bounded_iff.mpr ⟨h.lengths,h.commandLength⟩,Nat.zero_le _⟩

theorem CommandInput.Kept.copied {s : CommandInput} (h : s.Kept) {n : UInt8}
    (hn : n.toNat ≤ commandBufferSize - 1) : (s.copied n).Kept :=
  ⟨copied_bounded_iff.mpr ⟨h.lengths,hn⟩,hn⟩

theorem CommandInput.Kept.command {s : CommandInput} (h : s.Kept) {n : UInt8}
    (hn : n.toNat ≤ commandBufferSize - 1) (inCommandMode : Bool) :
    ((s.copied n).checkCommand inCommandMode).Kept :=
  (h.copied hn).checkCommand inCommandMode

theorem toNat_add_one {n : UInt8} (h : n.toNat ≤ commandBufferSize - 1) :
    (n + 1).toNat = n.toNat + 1 := by
  simp only [commandBufferSize] at h
  rw [UInt8.toNat_add]
  change (n.toNat + 1) % 256 = _
  omega

theorem toNat_sub_header {n : UInt8} (h : vcRadioHeaderBytes ≤ n.toNat) :
    (n - UInt8.ofNat vcRadioHeaderBytes).toNat = n.toNat - vcRadioHeaderBytes :=
  UInt8.toNat_sub_of_le _ _ (UInt8.le_iff_toNat_le.mpr h)

theorem typeByte_ordinary {s : CommandInput} {incoming : UInt8} {inCommandMode : Bool}
    (h : ordinary incoming = true) :
    typeByte s incoming inCommandMode =
      if commandBufferSize - 1 ≤ (s.commandLength + 1).toNat then
        (s.copied (s.commandLength + 1)).checkCommand inCommandMode
      else s.copied (s.commandLength + 1) := by
  simp only [ordinary,Bool.and_eq_true,bne_iff_ne,ne_eq] at h
  obtain ⟨⟨⟨hcr,hsemi⟩,hlf⟩,hbs⟩ := h
  unfold typeByte
  rw [if_neg (not_or.mpr ⟨hcr,hsemi⟩),if_neg hlf,if_neg hbs]
  rfl

theorem CommandInput.Kept.typeByte {s : CommandInput} (h : s.Kept) {incoming : UInt8}
    {inCommandMode : Bool}
    (hroom : ordinary incoming = true → s.commandLength.toNat < commandBufferSize - 1) :
    (typeByte s incoming inCommandMode).Kept := by
  by_cases hordinary : ordinary incoming = true
  · have hlt := hroom hordinary
    have hcopied := h.copied (n := s.commandLength + 1)
      (by rw [toNat_add_one h.commandLength]; omega)
    rw [typeByte_ordinary hordinary]
    split
    · exact hcopied.checkCommand inCommandMode
    · exact hcopied
  · unfold Serial.typeByte
    split
    · split
      · exact h.checkCommand inCommandMode
      · exact h
    next hend =>
      split
      · exact h
      next hlf =>
        split
        · split
          next hsome =>
            refine ⟨h.lengths,?_⟩
            have hone : (1 : UInt8) ≤ s.commandLength := UInt8.le_iff_toNat_le.mpr hsome
            change (s.commandLength - 1).toNat ≤ _
            rw [UInt8.toNat_sub_of_le _ _ hone]
            exact Nat.le_trans (Nat.sub_le _ _) h.commandLength
          next => exact h
        next hbs =>
          refine absurd ?_ hordinary
          simpa [ordinary,not_or,hlf,hbs] using hend

theorem typeByte_bounded {s : CommandInput} (h : s.Kept) {incoming : UInt8}
    {inCommandMode : Bool} (hbounded : (typeByte s incoming inCommandMode).Bounded)
    (hordinary : ordinary incoming = true) : s.commandLength.toNat < commandBufferSize - 1 := by
  rw [typeByte_ordinary hordinary] at hbounded
  have hcopied : (s.copied (s.commandLength + 1)).Bounded := by
    split at hbounded
    · exact (CommandInput.checkCommand_bounded_iff.mp hbounded).1
    · exact hbounded
  have hle := (CommandInput.copied_bounded_iff.mp hcopied).2
  rw [toNat_add_one h.commandLength] at hle
  omega

theorem CommandInput.Kept.vcCommandMessage {s : CommandInput} (h : s.Kept) (length : UInt8)
    (inCommandMode : Bool) : (vcCommandMessage s length inCommandMode).Kept := by
  unfold Serial.vcCommandMessage
  split
  · exact h
  next hlength =>
    obtain ⟨hleast,hmost⟩ := not_or.mp hlength
    simp only [vcSerialHeaderBytes] at hleast
    refine h.command ?_ inCommandMode
    rw [toNat_sub_header (by simp only [vcRadioHeaderBytes]; omega)]
    omega

theorem CommandInput.Kept.remoteCommands {s : CommandInput} (h : s.Kept) (inCommandMode : Bool) :
    (remoteCommands s inCommandMode).Kept := by
  unfold Serial.remoteCommands
  split
  · have hlength : (if commandBufferSize ≤ s.commandRXBuffer.available then commandBufferSize - 1
        else s.commandRXBuffer.available) ≤ commandBufferSize - 1 := by
      split <;> omega
    generalize (if commandBufferSize ≤ s.commandRXBuffer.available then commandBufferSize - 1
      else s.commandRXBuffer.available) = n at hlength ⊢
    have hskipped : CommandInput.Kept
        { s with commandRXBuffer := s.commandRXBuffer.skip n } := ⟨h.lengths,h.commandLength⟩
    have hcopied := hskipped.copied (n := UInt8.ofNat n) (Nat.le_trans (Nat.mod_le _ _) hlength)
    dsimp only
    split
    · exact hcopied.checkCommand inCommandMode
    · exact hcopied
  · exact h

theorem CommandInput.Kept.commandReceived {s : CommandInput} (h : s.Kept)
    (rxData : List UInt8) : (commandReceived s rxData).Kept := by
  unfold Serial.commandReceived
  split
  · exact h
  · exact ⟨h.lengths,h.commandLength⟩

/-- Where the source has an address the frame has come through a check that was
made for another buffer of the same size. -/
theorem CommandInput.Kept.vcCommandReceived {s : CommandInput} (h : s.Kept)
    {srcUnassigned : Bool} {rxDataBytes : UInt8} {inCommandMode : Bool}
    (hfits : srcUnassigned = true →
      rxDataBytes.toNat ≤ vcRadioHeaderBytes + (commandBufferSize - 1)) :
    (vcCommandReceived s srcUnassigned rxDataBytes inCommandMode).Kept := by
  unfold Serial.vcCommandReceived
  split
  · exact h
  next haccepted =>
    split
    · exact h
    next hheader =>
      refine h.command ?_ inCommandMode
      rw [toNat_sub_header (Nat.le_of_not_lt hheader)]
      cases hsrc : srcUnassigned with
      | true =>
        have := hfits hsrc
        omega
      | false =>
        have hroom := Nat.le_of_not_lt fun hlt => haccepted ⟨hsrc,hlt⟩
        simp only [commandRxBufferSize,vcRadioHeaderBytes,commandBufferSize] at hroom ⊢
        omega

theorem vcCommandReceived_bounded {s : CommandInput} {rxDataBytes : UInt8}
    {inCommandMode : Bool}
    (hbounded : (vcCommandReceived s true rxDataBytes inCommandMode).Bounded) :
    rxDataBytes.toNat ≤ vcRadioHeaderBytes + (commandBufferSize - 1) := by
  unfold vcCommandReceived at hbounded
  rw [if_neg (by simp)] at hbounded
  split at hbounded
  next hheader => omega
  next hheader =>
    have hle := (CommandInput.command_bounded_iff.mp hbounded).2
    rw [toNat_sub_header (Nat.le_of_not_lt hheader)] at hle
    omega

/-- It is the byte that the model of the whole serial input counts. -/
theorem typeByte_refines {p : SerialInput} {s : CommandInput} (h : s.Kept)
    (hlength : s.commandLength.toNat = p.commandLength) (incoming : UInt8) (t : Turn) :
    (typeByte s incoming t.inCommandMode).commandLength.toNat =
      (commandByte p incoming t).1.commandLength := by
  have hnext : (s.commandLength + 1).toNat = p.commandLength + 1 := by
    rw [toNat_add_one h.commandLength,hlength]
  unfold typeByte commandByte
  dsimp only [CommandInput.copied]
  rw [hnext,hlength]
  split_ifs with hend hsome hlf hbs hone hlong
  · rfl
  · exact hlength
  · exact hlength
  · have hle : (1 : UInt8) ≤ s.commandLength :=
      UInt8.le_iff_toNat_le.mpr (hlength ▸ hone)
    change (s.commandLength - 1).toNat = p.commandLength - 1
    rw [UInt8.toNat_sub_of_le _ _ hle,hlength]
    rfl
  · change s.commandLength.toNat = p.commandLength - 1
    omega
  · rfl
  · exact hnext

/-- A step keeps the bound if what it copies fits. -/
theorem CommandInput.Kept.step {s : CommandInput} (h : s.Kept) {e : CommandEvent}
    (hfits : CommandFits s e) : (commandStep s e).Kept := by
  cases e with
  | escape => exact ⟨h.lengths,h.commandLength⟩
  | typeByte incoming inCommandMode =>
    change (if s.inCommandMode then Serial.typeByte s incoming inCommandMode else s).Kept
    split
    next hmode => exact h.typeByte (hfits hmode)
    next => exact h
  | vcCommandMessage length inCommandMode => exact h.vcCommandMessage length inCommandMode
  | remoteCommands inCommandMode => exact h.remoteCommands inCommandMode
  | commandReceived rxData => exact h.commandReceived rxData
  | vcCommandReceived srcUnassigned rxDataBytes inCommandMode => exact h.vcCommandReceived hfits
  | localCommandMessage dataBytes inCommandMode =>
    exact h.command (n := UInt8.ofNat (dataBytes - vcRadioHeaderBytes)) hfits inCommandMode
  | resetSerial => exact ⟨h.lengths,Nat.zero_le _⟩
  | discardPreviousData => exact ⟨h.lengths,h.commandLength⟩

theorem commandFits_of_bounded {s : CommandInput} (h : s.Kept) {e : CommandEvent}
    (hbounded : (commandStep s e).Bounded) : CommandFits s e := by
  cases e with
  | typeByte incoming inCommandMode =>
    intro hmode hordinary
    change (if s.inCommandMode then Serial.typeByte s incoming inCommandMode else s).Bounded
      at hbounded
    rw [if_pos hmode] at hbounded
    exact typeByte_bounded h hbounded hordinary
  | vcCommandReceived srcUnassigned rxDataBytes inCommandMode =>
    rintro rfl
    exact vcCommandReceived_bounded hbounded
  | localCommandMessage dataBytes inCommandMode =>
    exact (CommandInput.command_bounded_iff.mp hbounded).2
  | escape | vcCommandMessage | remoteCommands | commandReceived | resetSerial
  | discardPreviousData => trivial

theorem poweredOn_kept (commandRXBuffer : Ring UInt8 commandRxBufferSize) :
    (CommandInput.poweredOn commandRXBuffer).Kept :=
  ⟨by simp [CommandInput.Bounded,CommandInput.poweredOn],Nat.zero_le _⟩

/-- In every run each command that was copied or checked fits commandBuffer
with its terminating zero exactly if no step copies more than that. -/
theorem run_command_bounded_iff (commandRXBuffer : Ring UInt8 commandRxBufferSize)
    (es : List CommandEvent) :
    Always commandStep CommandInput.Bounded (.poweredOn commandRXBuffer) es ↔
      Along commandStep CommandFits (.poweredOn commandRXBuffer) es := by
  have hstep : ∀ s e, CommandInput.Kept s → CommandFits s e → (commandStep s e).Kept :=
    fun _ _ h hfits => h.step hfits
  have honly : ∀ s e, CommandInput.Kept s → (commandStep s e).Bounded → CommandFits s e :=
    fun _ _ h hbounded => commandFits_of_bounded h hbounded
  exact always_iff_along hstep (fun _ h => h.lengths) honly (poweredOn_kept commandRXBuffer) es

/-- A host message to the own remote-command channel with 150 bytes behind its
header, and one from a radio without an address. -/
theorem long_commands_overflow :
    let ring : Ring UInt8 commandRxBufferSize := { cell := fun _ => 0, head := 0, tail := 0 }
    (run commandStep (.poweredOn ring) [.localCommandMessage 153 false]).lengths = [150,150] ∧
      (run commandStep (.poweredOn ring) [.vcCommandReceived true 203 false]).lengths =
        [200,200] := by
  decide +kernel

end LoRaSerial.Serial
