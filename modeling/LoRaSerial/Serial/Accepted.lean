import LoRaSerial.Serial.Output

namespace LoRaSerial.Serial
open Rings
open Outgoing (vcRadioHeaderBytes vcSerialHeaderBytes startOfVcSerial)

/-- All bytes for the host: those it has and those that wait for it. -/
def Output.forHost (o : Output) : List UInt8 := o.host ++ o.serialTransmitBuffer.contents

theorem serialWrite_eq {o : Output} {n : Nat} (h : n ≤ o.serialTransmitBuffer.available) :
    o.serialWrite n = { o with
      host := o.host ++ o.serialTransmitBuffer.contents.take n
      serialTransmitBuffer := o.serialTransmitBuffer.skip n } := by
  induction n generalizing o with
  | zero => simp [Output.serialWrite,Ring.skip]
  | succ n ih =>
    have hone : 1 ≤ o.serialTransmitBuffer.available := by omega
    have hrest : n ≤ (o.serialTransmitBuffer.skip 1).available := by
      rw [Ring.available_skip hone]
      omega
    have hcontents := o.serialTransmitBuffer.contents_split hone
    unfold Output.serialWrite
    rw [ih hrest,hcontents]
    dsimp only
    rw [Ring.skip_skip,Nat.add_comm 1 n]
    simp [slice,Ring.peek]

/-- The bytes that the host takes when `room` is to be made. -/
def taken (available room cts : Nat) : Nat :=
  if serialTransmitBufferSize - available < room then min available cts else 0

theorem taken_le (available room cts : Nat) : taken available room cts ≤ available := by
  unfold taken
  split
  · exact Nat.min_le_left _ _
  · exact Nat.zero_le _

theorem makeRoom_eq (o : Output) (room cts : Nat) :
    makeRoom o room cts = { o with
      host := o.host ++
        o.serialTransmitBuffer.contents.take (taken o.serialTransmitBuffer.available room cts)
      serialTransmitBuffer :=
        o.serialTransmitBuffer.skip (taken o.serialTransmitBuffer.available room cts) } := by
  unfold makeRoom taken
  split
  · exact serialWrite_eq (Nat.min_le_left _ _)
  · simp [Ring.skip]

theorem makeRoom_forHost (o : Output) (room cts : Nat) :
    (makeRoom o room cts).forHost = o.forHost := by
  have hle := taken_le o.serialTransmitBuffer.available room cts
  rw [makeRoom_eq]
  simp only [Output.forHost,List.append_assoc,Ring.contents_skip hle,List.take_append_drop]

theorem makeRoom_available (o : Output) (room cts : Nat) :
    (makeRoom o room cts).serialTransmitBuffer.available =
      o.serialTransmitBuffer.available - taken o.serialTransmitBuffer.available room cts := by
  rw [makeRoom_eq]
  exact Ring.available_skip (taken_le _ _ _)

/-- What a store in serialTransmitBuffer leaves alone. -/
theorem makeRoom_frame (o : Output) (room cts : Nat) :
    (makeRoom o room cts).commandRXBuffer = o.commandRXBuffer ∧
      (makeRoom o room cts).commands = o.commands := by
  rw [makeRoom_eq]
  exact ⟨rfl,rfl⟩

/-- The bytes go behind those that wait exactly if one cell stays free. -/
theorem serialBufferOutput_forHost {o : Output} {data : List UInt8} {cts : Nat}
    (hdata : data.length ≤ serialTransmitBufferSize) :
    (serialBufferOutput o data cts).forHost = o.forHost ++ data ↔
      o.serialTransmitBuffer.available -
        taken o.serialTransmitBuffer.available (data.length + 32) cts + data.length <
          serialTransmitBufferSize := by
  have hroom := makeRoom_forHost o (data.length + 32) cts
  rw [← makeRoom_available,← hroom]
  unfold serialBufferOutput Output.forHost
  dsimp only
  rw [Ring.put_eq_pushAll hdata,List.append_assoc,List.append_cancel_left_eq]
  exact Ring.contents_pushAll_iff

theorem serialBufferOutput_available (o : Output) {data : List UInt8} (cts : Nat)
    (hdata : data.length ≤ serialTransmitBufferSize) :
    (serialBufferOutput o data cts).serialTransmitBuffer.available =
      (o.serialTransmitBuffer.available -
        taken o.serialTransmitBuffer.available (data.length + 32) cts + data.length) %
          serialTransmitBufferSize := by
  rw [← makeRoom_available]
  unfold serialBufferOutput
  dsimp only
  rw [Ring.put_eq_pushAll hdata,Ring.available_pushAll]

theorem serialOutputByte_forHost {o : Output} (b : UInt8) (cts : Nat)
    (h : o.serialTransmitBuffer.available + 1 < serialTransmitBufferSize) :
    (serialOutputByte o b cts).forHost = o.forHost ++ [b] ∧
      (serialOutputByte o b cts).serialTransmitBuffer.available =
        o.serialTransmitBuffer.available - taken o.serialTransmitBuffer.available 32 cts + 1 := by
  have hroom := makeRoom_forHost o 32 cts
  have havail := makeRoom_available o 32 cts
  have hfits : (makeRoom o 32 cts).serialTransmitBuffer.available + 1 <
      serialTransmitBufferSize := by omega
  unfold serialOutputByte
  dsimp only
  rw [← havail,← hroom]
  refine ⟨?_,Ring.available_push b hfits⟩
  unfold Output.forHost
  dsimp only
  rw [Ring.contents_push b hfits,List.append_assoc]

/-- The last five bytes of a response look like a VC_COMMAND_COMPLETE_MESSAGE. -/
def EndsComplete (rxData : List UInt8) : Prop :=
  5 ≤ rxData.length ∧ rxData.getD (rxData.length - 5) 0 = startOfVcSerial

instance (rxData : List UInt8) : Decidable (EndsComplete rxData) :=
  inferInstanceAs (Decidable (_ ∧ _))

theorem responseLength_eq {rxData : List UInt8} (h : rxData.length < 256) :
    responseLength rxData =
      if EndsComplete rxData then rxData.length - 5 else rxData.length := by
  unfold responseLength
  dsimp only [vcSerialHeaderBytes,vcCommandCompleteMessageBytes]
  by_cases hfive : 5 ≤ rxData.length
  · have hdiff : (rxData.length + 2 ^ 16 - (4 + 1)) % 2 ^ 16 = rxData.length - 5 := by omega
    rw [hdiff]
    by_cases hstart : rxData.getD (rxData.length - 5) 0 = startOfVcSerial
    · have hnot : ¬(rxData.length < rxData.length - 5 ∨
          rxData.getD (rxData.length - 5) 0 ≠ startOfVcSerial) := by
        rintro (hlt | hne)
        · omega
        · exact hne hstart
      rw [if_neg hnot,if_pos ⟨hfive,hstart⟩]
    · rw [if_pos (.inr hstart),if_neg fun h => hstart h.2]
  · rw [if_pos (.inl (by omega)),if_neg fun h => hfive h.1]

@[simp] theorem length_responseHeader (length : Nat) (rxData : List UInt8) :
    (responseHeader length rxData).length = rxData.length := by
  unfold responseHeader
  split <;> rfl

/-- What rcvDatagram has checked of a frame of a virtual circuit: its first byte
is its length, and it has a header. -/
structure VcFrame (rxData : List UInt8) : Prop where
  length : rxData.head?.map UInt8.toNat = some rxData.length
  header : vcRadioHeaderBytes ≤ rxData.length

/-- The bytes of a frame that are for the host. -/
def hostBytes (virtualCircuit : Bool) (t : DatagramType) (rxData : List UInt8) : List UInt8 :=
  match virtualCircuit,t with
  | false,.data | false,.remoteCommandResponse => rxData
  | true,.data => startOfVcSerial :: rxData
  | true,.remoteCommandResponse =>
    startOfVcSerial :: responseHeader (responseLength rxData) rxData
  | _,_ => []

/-- Everything that waited is kept, and the frame stands behind it. A command
from a virtual circuit does not wait, it runs. -/
structure Stored (virtualCircuit : Bool) (o : Output) (t : DatagramType) (rxData : List UInt8)
    (o' : Output) : Prop where
  host : o'.forHost = o.forHost ++ hostBytes virtualCircuit t rxData
  commandRXBuffer : o'.commandRXBuffer.contents = o.commandRXBuffer.contents ++
    (if virtualCircuit = false ∧ t = .remoteCommand then rxData else [])
  commands : o'.commands = o.commands ++
    (if virtualCircuit = true ∧ t = .remoteCommand then [rxData.drop vcRadioHeaderBytes] else [])

/-- The radio is where frames are stored, and one cell of the buffer is left
when the frame, with its start byte, is behind the bytes that wait and those
are gone which CTS lets the host take. -/
def Fits (virtualCircuit linkUp : Bool) (o : Output) (t : DatagramType) (rxData : List UInt8)
    (cts : Cts) : Prop :=
  if linkUp then
    match virtualCircuit,t with
    | false,.remoteCommand =>
      o.commandRXBuffer.available + rxData.length < commandRxBufferSize
    | true,.remoteCommand => True
    | false,_ =>
      o.serialTransmitBuffer.available + rxData.length < serialTransmitBufferSize + cts.data
    | true,_ =>
      o.serialTransmitBuffer.available + rxData.length + 1 < serialTransmitBufferSize +
        ((if serialTransmitBufferSize - o.serialTransmitBuffer.available < 32 then cts.start
          else 0) + cts.data +
          (if t = .remoteCommandResponse ∧ EndsComplete rxData then cts.complete else 0))
  else virtualCircuit = false ∧ rxData = []

/-- In point-to-point mode the frame is one block. -/
theorem block_fits_iff {o : Output} {rxData : List UInt8} {cts : Nat}
    (hshort : rxData.length < 256) :
    (serialBufferOutput o rxData cts).forHost = o.forHost ++ rxData ↔
      o.serialTransmitBuffer.available + rxData.length < serialTransmitBufferSize + cts := by
  rw [serialBufferOutput_forHost (by simp only [serialTransmitBufferSize]; omega)]
  unfold taken
  simp only [serialTransmitBufferSize]
  split <;> omega

/-- A start byte and a block. -/
theorem message_fits_iff {o : Output} {bytes : List UInt8} {start cts : Nat}
    (hshort : bytes.length < 256) (hleast : 2 ≤ bytes.length)
    (hfree : bytes.length ≤ serialTransmitBufferSize - o.serialTransmitBuffer.available) :
    (serialBufferOutput (serialOutputByte o startOfVcSerial start) bytes cts).forHost =
        o.forHost ++ startOfVcSerial :: bytes ↔
      o.serialTransmitBuffer.available + bytes.length + 1 < serialTransmitBufferSize +
        ((if serialTransmitBufferSize - o.serialTransmitBuffer.available < 32 then start
          else 0) + cts) := by
  obtain ⟨hbyte,havail⟩ := serialOutputByte_forHost (o := o) startOfVcSerial start
    (by simp only [serialTransmitBufferSize] at hfree ⊢; omega)
  have happend : o.forHost ++ startOfVcSerial :: bytes =
      (serialOutputByte o startOfVcSerial start).forHost ++ bytes := by
    rw [hbyte,List.append_assoc]
    rfl
  rw [happend,serialBufferOutput_forHost (by simp only [serialTransmitBufferSize]; omega),havail]
  unfold taken
  simp only [serialTransmitBufferSize] at hfree ⊢
  split_ifs <;> omega

/-- A start byte and two blocks, the second one of five bytes. -/
theorem response_fits_iff {o : Output} {bytes complete : List UInt8} {cts : Cts}
    (hshort : bytes.length < 256) (hleast : 1 ≤ bytes.length) (hfive : complete.length = 5)
    (hfree : bytes.length + 5 ≤ serialTransmitBufferSize - o.serialTransmitBuffer.available) :
    (serialBufferOutput
        (serialBufferOutput (serialOutputByte o startOfVcSerial cts.start) bytes cts.data)
        complete cts.complete).forHost = o.forHost ++ startOfVcSerial :: (bytes ++ complete) ↔
      o.serialTransmitBuffer.available + (bytes.length + 5) + 1 < serialTransmitBufferSize +
        ((if serialTransmitBufferSize - o.serialTransmitBuffer.available < 32 then cts.start
          else 0) + cts.data + cts.complete) := by
  obtain ⟨hbyte,havail⟩ := serialOutputByte_forHost (o := o) startOfVcSerial cts.start
    (by simp only [serialTransmitBufferSize] at hfree ⊢; omega)
  have hbytes : bytes.length ≤ serialTransmitBufferSize := by
    simp only [serialTransmitBufferSize]
    omega
  have htaken := taken_le o.serialTransmitBuffer.available 32 cts.start
  have hdata : (serialBufferOutput (serialOutputByte o startOfVcSerial cts.start) bytes
      cts.data).forHost = (serialOutputByte o startOfVcSerial cts.start).forHost ++ bytes := by
    rw [serialBufferOutput_forHost hbytes,havail]
    simp only [serialTransmitBufferSize] at hfree ⊢
    omega
  have havail' := serialBufferOutput_available (serialOutputByte o startOfVcSerial cts.start)
    cts.data hbytes
  have happend : o.forHost ++ startOfVcSerial :: (bytes ++ complete) =
      (serialBufferOutput (serialOutputByte o startOfVcSerial cts.start) bytes
        cts.data).forHost ++ complete := by
    rw [hdata,hbyte,List.append_assoc,List.append_assoc]
    rfl
  rw [Nat.mod_eq_of_lt (by rw [havail]; simp only [serialTransmitBufferSize] at hfree ⊢; omega),
    havail] at havail'
  rw [happend,serialBufferOutput_forHost (by rw [hfive]; decide),havail',hfive]
  unfold taken
  simp only [serialTransmitBufferSize] at hfree ⊢
  split_ifs <;> omega

theorem VcFrame.responseLength_pos {rxData : List UInt8} (h : VcFrame rxData)
    (hshort : rxData.length < 256) : 0 < responseLength rxData := by
  have hheader := h.header
  rw [responseLength_eq hshort]
  simp only [vcRadioHeaderBytes] at hheader
  split
  next hends =>
    obtain ⟨hfive,hstart⟩ := hends
    refine Nat.pos_of_ne_zero fun hzero => ?_
    obtain ⟨first,rest,rfl⟩ : ∃ first rest, rxData = first :: rest := by
      cases rxData with
      | nil => simp at hfive
      | cons first rest => exact ⟨first,rest,rfl⟩
    have hlength : first.toNat = (first :: rest).length := Option.some.inj h.length
    rw [hzero] at hstart
    have hfirst : first = startOfVcSerial := hstart
    have htwo : first.toNat = 2 := congrArg UInt8.toNat hfirst
    omega
  next => simpa using Nat.lt_of_lt_of_le (by decide : 0 < 3) hheader

theorem storeResponse_fits_iff {o : Output} {rxData : List UInt8} {cts : Cts}
    (hframe : VcFrame rxData) (hshort : rxData.length < 256)
    (hfree : rxData.length ≤ serialTransmitBufferSize - o.serialTransmitBuffer.available) :
    (storeResponse o rxData cts).forHost =
        o.forHost ++ startOfVcSerial :: responseHeader (responseLength rxData) rxData ↔
      o.serialTransmitBuffer.available + rxData.length + 1 < serialTransmitBufferSize +
        ((if serialTransmitBufferSize - o.serialTransmitBuffer.available < 32 then cts.start
          else 0) + cts.data + (if EndsComplete rxData then cts.complete else 0)) := by
  have hpos := hframe.responseLength_pos hshort
  have heq := responseLength_eq hshort
  have hheader := hframe.header
  simp only [vcRadioHeaderBytes] at hheader
  have hlen := length_responseHeader (responseLength rxData) rxData
  unfold storeResponse
  dsimp only
  rw [if_pos (Nat.pos_iff_ne_zero.mp hpos),if_pos (Nat.pos_iff_ne_zero.mp hpos)]
  by_cases hends : EndsComplete rxData
  · rw [if_pos hends] at heq ⊢
    have hfive := hends.1
    have htake : ((responseHeader (responseLength rxData) rxData).take
        (responseLength rxData)).length + 5 = rxData.length := by
      rw [List.length_take,hlen,heq]
      omega
    have hdrop : ((responseHeader (responseLength rxData) rxData).drop
        (responseLength rxData)).length = 5 := by
      rw [List.length_drop,hlen,heq]
      omega
    have hparts : (serialBufferOutput (serialBufferOutput
        (serialOutputByte o startOfVcSerial cts.start)
        ((responseHeader (responseLength rxData) rxData).take (responseLength rxData)) cts.data)
        ((responseHeader (responseLength rxData) rxData).drop (responseLength rxData))
        cts.complete).forHost = _ ↔ _ :=
      response_fits_iff (by omega) (by omega) hdrop (by omega)
    rw [List.take_append_drop,htake] at hparts
    rw [if_pos (show responseLength rxData < rxData.length by omega)]
    exact hparts
  · rw [if_neg hends] at heq ⊢
    have htake : (responseHeader (responseLength rxData) rxData).take (responseLength rxData) =
        responseHeader (responseLength rxData) rxData :=
      List.take_of_length_le (by omega)
    have hmessage : (serialBufferOutput (serialOutputByte o startOfVcSerial cts.start)
        (responseHeader (responseLength rxData) rxData) cts.data).forHost = _ ↔ _ :=
      message_fits_iff (by omega) (by omega) (by omega)
    rw [hlen] at hmessage
    rw [if_neg (show ¬responseLength rxData < rxData.length by omega),htake]
    exact hmessage

theorem serialBufferOutput_frame (o : Output) (data : List UInt8) (cts : Nat) :
    (serialBufferOutput o data cts).commandRXBuffer = o.commandRXBuffer ∧
      (serialBufferOutput o data cts).commands = o.commands :=
  makeRoom_frame o (data.length + 32) cts

theorem serialOutputByte_frame (o : Output) (b : UInt8) (cts : Nat) :
    (serialOutputByte o b cts).commandRXBuffer = o.commandRXBuffer ∧
      (serialOutputByte o b cts).commands = o.commands :=
  makeRoom_frame o 32 cts

theorem storeResponse_frame (o : Output) (rxData : List UInt8) (cts : Cts) :
    (storeResponse o rxData cts).commandRXBuffer = o.commandRXBuffer ∧
      (storeResponse o rxData cts).commands = o.commands := by
  simp only [storeResponse]
  split <;> split
  all_goals constructor
  all_goals simp only [serialBufferOutput_frame,serialOutputByte_frame]

/-- Where serialTransmitBuffer is all that a store changes, the frame is stored
exactly if the host gets its bytes. -/
theorem stored_iff_host {virtualCircuit : Bool} {o o' : Output} {t : DatagramType}
    {rxData : List UInt8} (ht : t ≠ .remoteCommand)
    (hframe : o'.commandRXBuffer = o.commandRXBuffer ∧ o'.commands = o.commands) :
    Stored virtualCircuit o t rxData o' ↔
      o'.forHost = o.forHost ++ hostBytes virtualCircuit t rxData := by
  refine ⟨fun h => h.host,fun h => ⟨h,?_,?_⟩⟩
  · rw [hframe.1,if_neg fun hc => ht hc.2,List.append_nil]
  · rw [hframe.2,if_neg fun hc => ht hc.2,List.append_nil]

/-- The types that go to commandRXBuffer or serialTransmitBuffer. -/
def Stores (t : DatagramType) : Prop :=
  t = .data ∨ t = .remoteCommand ∨ t = .remoteCommandResponse

theorem storeFrame_stored_iff {virtualCircuit : Bool} {o : Output} {t : DatagramType}
    {rxData : List UInt8} {cts : Cts} (ht : Stores t)
    (hframe : virtualCircuit = true → VcFrame rxData) (hshort : rxData.length < 256)
    (hfree : rxData.length ≤ (o.freeSpace false).bytes rxData.length t) :
    Stored virtualCircuit o t rxData (storeFrame virtualCircuit o t rxData cts) ↔
      Fits virtualCircuit true o t rxData cts := by
  cases virtualCircuit with
  | false =>
    rcases ht with rfl | rfl | rfl
    · exact (stored_iff_host (by decide) (serialBufferOutput_frame _ _ _)).trans
        (block_fits_iff hshort)
    · have hput : (o.commandRXBuffer.put rxData).contents = o.commandRXBuffer.contents ++ rxData ↔
          o.commandRXBuffer.available + rxData.length < commandRxBufferSize := by
        rw [Ring.put_eq_pushAll (Nat.le_trans hfree (Nat.sub_le _ _))]
        exact Ring.contents_pushAll_iff
      refine Iff.trans ⟨fun h => ?_,fun h => ⟨?_,h,?_⟩⟩ hput
      · exact h.commandRXBuffer
      · exact (List.append_nil _).symm
      · exact (List.append_nil _).symm
    · exact (stored_iff_host (by decide) (serialBufferOutput_frame _ _ _)).trans
        (block_fits_iff hshort)
  | true =>
    have hvc := hframe rfl
    have hheader := hvc.header
    simp only [vcRadioHeaderBytes] at hheader
    rcases ht with rfl | rfl | rfl
    · have hkept := serialBufferOutput_frame (serialOutputByte o startOfVcSerial cts.start) rxData
        cts.data
      rw [(serialOutputByte_frame _ _ _).1,(serialOutputByte_frame _ _ _).2] at hkept
      refine (stored_iff_host (by decide) hkept).trans ?_
      exact message_fits_iff hshort (by omega) hfree
    · refine iff_of_true ⟨?_,?_,rfl⟩ trivial
      · exact (List.append_nil _).symm
      · exact (List.append_nil _).symm
    · refine (stored_iff_host (by decide) (storeResponse_frame _ _ _)).trans ?_
      refine (storeResponse_fits_iff hvc hshort hfree).trans ?_
      simp only [Fits,true_and,if_true]

theorem validateDatagram_accepts {vc : AckNumbers} {t : DatagramType} {ackNumber : AckNumber}
    {freeBytes rxDataBytes : Nat} {inCommandMode : Bool}
    (h : (validateDatagram vc t ackNumber freeBytes rxDataBytes inCommandMode).2 = .datagram t) :
    rxDataBytes ≤ freeBytes := by
  unfold validateDatagram at h
  split at h
  · split at h <;> cases h
  · split at h
    · cases h
    next hroom =>
      simp only [Bool.or_eq_true,decide_eq_true_eq,not_or,Nat.not_lt] at hroom
      exact hroom.2

/-- An accepted frame is kept with everything that waited before it exactly if
it fits: the free space that rcvDatagram compares is one byte, or two with the
start byte, more than the buffer can take. -/
theorem accepted_frame_stored_iff {virtualCircuit linkUp inCommandMode : Bool} {o : Output}
    {vc : AckNumbers} {c : Control} {rxData : List UInt8} {cts : Cts}
    (ht : Stores c.datagramType) (hframe : virtualCircuit = true → VcFrame rxData)
    (hshort : rxData.length < 256)
    (haccepted : (receiveFrame virtualCircuit linkUp o vc c rxData inCommandMode cts).2.1 =
      .datagram c.datagramType) :
    Stored virtualCircuit o c.datagramType rxData
        (receiveFrame virtualCircuit linkUp o vc c rxData inCommandMode cts).2.2 ↔
      Fits virtualCircuit linkUp o c.datagramType rxData cts := by
  unfold receiveFrame at haccepted ⊢
  dsimp only at haccepted ⊢
  rw [haccepted]
  have hnumber : rcvNumber virtualCircuit vc c rxData.length (o.freeSpace inCommandMode) =
      validateDatagram vc c.datagramType c.ackNumber
        ((o.freeSpace inCommandMode).bytes rxData.length c.datagramType) rxData.length
        inCommandMode := by
    obtain ⟨t,n,requestYield,ignoreFrame⟩ := c
    rcases ht with ht | ht | ht <;> cases ht <;> rfl
  rw [hnumber] at haccepted
  have hfree := validateDatagram_accepts haccepted
  cases linkUp with
  | true =>
    refine storeFrame_stored_iff ht hframe hshort (Nat.le_trans hfree (Nat.le_of_eq ?_))
    cases c.datagramType <;> rfl
  | false =>
    change Stored virtualCircuit o c.datagramType rxData o ↔ virtualCircuit = false ∧ rxData = []
    refine ⟨fun h => ?_,?_⟩
    · have hhost := List.append_right_eq_self.mp h.host.symm
      have hcommandRX := List.append_right_eq_self.mp h.commandRXBuffer.symm
      have hcommands := List.append_right_eq_self.mp h.commands.symm
      cases virtualCircuit with
      | false =>
        refine ⟨rfl,?_⟩
        rcases ht with ht | ht | ht
        · rw [ht] at hhost
          exact hhost
        · rw [if_pos ⟨rfl,ht⟩] at hcommandRX
          exact hcommandRX
        · rw [ht] at hhost
          exact hhost
      | true =>
        rcases ht with ht | ht | ht
        · rw [ht] at hhost
          cases hhost
        · rw [if_pos ⟨rfl,ht⟩] at hcommands
          cases hcommands
        · rw [ht] at hhost
          cases hhost
    · rintro ⟨rfl,rfl⟩
      refine ⟨?_,?_,?_⟩
      · rcases ht with ht | ht | ht <;> rw [ht] <;> exact (List.append_nil _).symm
      · split <;> exact (List.append_nil _).symm
      · exact (List.append_nil _).symm

/-- Nothing waits, and the radio is not in command mode. -/
def Output.empty : Output where
  serialTransmitBuffer := { cell := fun _ => 0, head := 4000, tail := 4000 }
  commandRXBuffer := { cell := fun _ => 0, head := 60, tail := 60 }
  host := []
  commands := []

/-- A remote command of 100 bytes is accepted, counted, and lost. -/
theorem long_command_lost :
    let c : Control := ⟨.remoteCommand,0,false,false⟩
    let r := receiveFrame false true .empty .zero c (List.replicate 100 0x41) false ⟨0,0,0⟩
    r.2.1 = .datagram .remoteCommand ∧ r.1.rmtTxAckNumber = 1 ∧
      r.2.2.commandRXBuffer.contents = [] := by
  decide +kernel

theorem accepted_frame_stored_iff_message :
    let c : Control := ⟨.data,0,false,false⟩
    let rxData : List UInt8 := [5,1,0,0x68,0x69]
    Stored true .empty .data rxData
        (receiveFrame true true .empty .zero c rxData false ⟨0,0,0⟩).2.2 ↔
      Fits true true .empty .data rxData ⟨0,0,0⟩ := by
  intro c rxData
  have hframe : VcFrame rxData := ⟨rfl,by decide⟩
  have haccepted : (receiveFrame true true .empty .zero c rxData false ⟨0,0,0⟩).2.1 =
      .datagram c.datagramType := by decide
  exact accepted_frame_stored_iff (.inl rfl) (fun _ => hframe) (by decide) haccepted

end LoRaSerial.Serial
