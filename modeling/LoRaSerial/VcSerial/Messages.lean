import LoRaSerial.Lib.Framing
import LoRaSerial.VcSerial.Port

namespace LoRaSerial.VcSerial
open Rings Runs VC Framing
open Serial (serialReceiveBufferSize radioTxBufferSize commandBufferSize)
open Outgoing (vcRadioHeaderBytes vcSerialHeaderBytes startOfVcSerial)

/-- A message whose length byte is the number of its bytes. -/
abbrev WholeMessage : List UInt8 → Prop := Whole UInt8.toNat vcSerialHeaderBytes

/-- radioTxBuffer holds whole messages, and only such were loaded. -/
structure Port.Bounded (p : Port) : Prop where
  messages : Framed UInt8.toNat vcSerialHeaderBytes p.radioTxBuffer.contents
  payloads : ∀ m ∈ p.payloads, WholeMessage m

/-- A step that leaves radioTxBuffer alone or empties it. -/
theorem Port.Bounded.of_eq_or_nil {p q : Port} (h : p.Bounded) (hpayloads : q.payloads = p.payloads)
    (hring : q.radioTxBuffer = p.radioTxBuffer ∨ q.radioTxBuffer.contents = []) : q.Bounded := by
  refine ⟨?_,hpayloads ▸ h.payloads⟩
  rcases hring with heq | hnil
  · rw [heq]
    exact h.messages
  · rw [hnil]
    exact .nil

theorem moveMessage_eq {p : Port} {length : Nat}
    (hlength : length ≤ p.serialReceiveBuffer.available) :
    p.moveMessage length = { p with
      radioTxBuffer := p.radioTxBuffer.pushAll (p.serialReceiveBuffer.contents.take length)
      serialReceiveBuffer := p.serialReceiveBuffer.skip length } := by
  induction length generalizing p with
  | zero => simp [Port.moveMessage,Ring.pushAll,Ring.skip]
  | succ length ih =>
    have hone : 1 ≤ p.serialReceiveBuffer.available := by omega
    have hrest : length ≤ (p.serialReceiveBuffer.skip 1).available := by
      rw [Ring.available_skip hone]
      omega
    have hcontents := p.serialReceiveBuffer.contents_split hone
    unfold Port.moveMessage
    rw [ih hrest,hcontents]
    dsimp only
    rw [Ring.skip_skip,Nat.add_comm 1 length]
    simp [slice,Ring.peek,Ring.pushAll]

theorem Port.Bounded.moveMessage {p : Port} (h : p.Bounded) {length : Nat}
    (hfirst : (p.serialReceiveBuffer.peek 0).toNat = length)
    (hleast : vcSerialHeaderBytes ≤ length)
    (hlength : length ≤ p.serialReceiveBuffer.available)
    (hroom : p.radioTxBuffer.available < radioTxBufferSize - 256) :
    (p.moveMessage length).Bounded := by
  have hbyte := (p.serialReceiveBuffer.peek 0).toNat_lt
  have hlen : (p.serialReceiveBuffer.contents.take length).length = length := by
    rw [List.length_take,Ring.length_contents]
    omega
  have hwhole : WholeMessage (p.serialReceiveBuffer.contents.take length) := by
    have hhead : p.serialReceiveBuffer.contents[0]? = some (p.serialReceiveBuffer.peek 0) :=
      Ring.getElem?_contents (by simp only [vcSerialHeaderBytes] at hleast; omega)
    refine ⟨?_,hlen.symm ▸ hleast⟩
    rw [hlen,List.head?_take,if_neg (by simp only [vcSerialHeaderBytes] at hleast; omega),
      List.head?_eq_getElem?,hhead]
    exact congrArg some hfirst
  have hfits : p.radioTxBuffer.available + (p.serialReceiveBuffer.contents.take length).length <
      radioTxBufferSize := by
    rw [hlen]
    simp only [radioTxBufferSize] at hroom ⊢
    omega
  rw [moveMessage_eq hlength]
  refine ⟨?_,h.payloads⟩
  dsimp only
  rw [Ring.contents_pushAll hfits]
  exact h.messages.append hwhole

theorem Port.Bounded.vcBreakLink {p : Port} (h : p.Bounded) (vcIndex : VcAddress) :
    (vcBreakLink p vcIndex).Bounded := by
  unfold VcSerial.vcBreakLink
  split
  · exact h
  · split
    · exact h.of_eq_or_nil rfl (.inr (Ring.contents_revoke _))
    · exact h

theorem Port.Bounded.checkCommand {p : Port} (h : p.Bounded) (breaks : List VcAddress) :
    (checkCommand p breaks).Bounded := by
  have hall : (breaks.foldl VcSerial.vcBreakLink p).Bounded := by
    induction breaks generalizing p with
    | nil => exact h
    | cons vcIndex breaks ih => exact ih (h.vcBreakLink vcIndex)
  exact hall.of_eq_or_nil rfl (.inl rfl)

theorem moveCommand_frame (p : Port) (length : Nat) :
    (p.moveCommand length).radioTxBuffer = p.radioTxBuffer ∧
      (p.moveCommand length).payloads = p.payloads := by
  induction length generalizing p with
  | zero => exact ⟨rfl,rfl⟩
  | succ length ih => exact ih _

theorem Port.Bounded.processMessage {p : Port} (h : p.Bounded) {length : Nat}
    (hfirst : (p.serialReceiveBuffer.peek 0).toNat = length)
    (hleast : vcSerialHeaderBytes ≤ length)
    (hlength : length ≤ p.serialReceiveBuffer.available)
    (hroom : p.radioTxBuffer.available < radioTxBufferSize - 256) (breaks : List VcAddress) :
    (processMessage p length breaks).Bounded := by
  have hskipped : ∀ n, (p.skipRx n).Bounded := fun n => h.of_eq_or_nil rfl (.inl rfl)
  unfold VcSerial.processMessage
  dsimp only
  split
  · split
    · exact hskipped length
    · apply Port.Bounded.checkCommand
      obtain ⟨hring,hpayloads⟩ := moveCommand_frame
        { p.skipRx vcRadioHeaderBytes with commandBuffer := [] } (length - vcRadioHeaderBytes)
      exact h.of_eq_or_nil hpayloads (.inl hring)
  · split
    · exact hskipped length
    · split
      · exact hskipped length
      · exact h.moveMessage hfirst hleast hlength hroom

theorem Port.Bounded.processTurn {p : Port} (h : p.Bounded)
    (hsome : p.serialReceiveBuffer.available ≠ 0)
    (hroom : p.radioTxBuffer.available < radioTxBufferSize - 256) (breaks : List VcAddress) :
    (processTurn p breaks).1.Bounded := by
  have hskipped : (p.skipRx 1).Bounded := h.of_eq_or_nil rfl (.inl rfl)
  unfold VcSerial.processTurn
  dsimp only
  split
  · exact hskipped
  · split
    · exact h
    next hleast =>
      split
      · exact h
      next hcomplete =>
        have hone : 1 ≤ p.serialReceiveBuffer.available := Nat.one_le_iff_ne_zero.mpr hsome
        have hpeek : (p.serialReceiveBuffer.skip 1).peek 0 = p.serialReceiveBuffer.peek 1 := by
          simp [Ring.skip,Ring.peek]
        refine hskipped.processMessage (congrArg UInt8.toNat hpeek) (Nat.le_of_not_lt hleast) ?_
          hroom breaks
        have hav := Ring.available_skip hone
        change _ ≤ (p.serialReceiveBuffer.skip 1).available
        omega

theorem Port.Bounded.vcProcessSerialInput {p : Port} (h : p.Bounded)
    (turns : List (List VcAddress)) : (vcProcessSerialInput p turns).Bounded := by
  induction turns generalizing p with
  | nil => exact h
  | cons breaks turns ih =>
    unfold VcSerial.vcProcessSerialInput
    split
    next hready =>
      have hturn := h.processTurn hready.1 hready.2 breaks
      split
      next hleft =>
        rw [hleft] at hturn
        exact hturn
      next hgoes =>
        rw [hgoes] at hturn
        exact ih hturn
    next => exact h

/-- Where a byte waits, the length it tells is that of a message that is there
whole. -/
theorem Port.Bounded.first {p : Port} (h : p.Bounded) (hsome : p.radioTxBuffer.available ≠ 0) :
    (p.radioTxBuffer.peek 0).toNat ≤ p.radioTxBuffer.available ∧
      WholeMessage (p.radioTxBuffer.contents.take (p.radioTxBuffer.peek 0).toNat) ∧
      Framed UInt8.toNat vcSerialHeaderBytes
        (p.radioTxBuffer.contents.drop (p.radioTxBuffer.peek 0).toNat) := by
  have hhead : p.radioTxBuffer.contents.head? = some (p.radioTxBuffer.peek 0) := by
    rw [List.head?_eq_getElem?]
    exact Ring.getElem?_contents (Nat.pos_of_ne_zero hsome)
  have hfirst := h.messages.first hhead
  rwa [Ring.length_contents] at hfirst

theorem Port.Bounded.discardMessage {p : Port} (h : p.Bounded)
    (hsome : p.radioTxBuffer.available ≠ 0) :
    (p.discardMessage (p.radioTxBuffer.peek 0).toNat).Bounded := by
  obtain ⟨hle,-,hrest⟩ := h.first hsome
  refine ⟨?_,h.payloads⟩
  change Framed _ _ (p.radioTxBuffer.skip _).contents
  rwa [Ring.contents_skip hle]

theorem Port.Bounded.readyOutgoingPacket {p : Port} (h : p.Bounded)
    (hsome : p.radioTxBuffer.available ≠ 0) {maxDatagramSize : UInt8}
    (hmax : (p.radioTxBuffer.peek 0).toNat ≤ maxDatagramSize.toNat) :
    (readyOutgoingPacket p (p.radioTxBuffer.peek 0).toNat maxDatagramSize).Bounded := by
  obtain ⟨hle,hwhole,hrest⟩ := h.first hsome
  obtain ⟨hloaded,hleft⟩ := p.radioTxBuffer.take_contents hle
  unfold VcSerial.readyOutgoingPacket
  rw [Nat.min_eq_left hmax]
  refine ⟨?_,?_⟩
  · dsimp only
    rwa [hleft]
  · intro m hm
    rcases List.mem_append.mp hm with hm | hm
    · exact h.payloads m hm
    · obtain rfl := List.mem_singleton.mp hm
      rwa [hloaded]

theorem Port.Bounded.vcSerialMessageReceived {p : Port} (h : p.Bounded) (i : Inputs) :
    (vcSerialMessageReceived p i).1.Bounded := by
  unfold VcSerial.vcSerialMessageReceived
  dsimp only
  split
  · exact h
  next hidle =>
    have hsome : p.radioTxBuffer.available ≠ 0 := fun hnone => hidle (.inr hnone)
    have hdiscarded := h.discardMessage hsome
    split
    · exact h
    · split
      · exact hdiscarded
      · split
        · split
          · exact hdiscarded
          · exact hdiscarded.vcBreakLink _
        next hmax =>
          split
          · exact hdiscarded
          · exact h.readyOutgoingPacket hsome (Nat.le_of_not_lt hmax)

theorem Port.Bounded.step {p : Port} (h : p.Bounded) (e : Event) : (step p e).Bounded := by
  cases e with
  | updateSerial incoming turns =>
    apply Port.Bounded.vcProcessSerialInput
    exact h.of_eq_or_nil rfl (.inl rfl)
  | vcSerialMessageReceived i => exact h.vcSerialMessageReceived i
  | vcBreakLink vcIndex => exact h.vcBreakLink vcIndex
  | discardPreviousData => exact h.of_eq_or_nil rfl (.inr (Ring.contents_flush _))
  | assigned myVc => exact h.of_eq_or_nil rfl (.inl rfl)

theorem Port.Started.bounded {p : Port} (h : p.Started) : p.Bounded := by
  refine ⟨?_,?_⟩
  · rw [h.radioTxBuffer]
    exact .nil
  · simp [h.payloads]

theorem vcBreakLink_refines {p : Port} {r : Outgoing.Radio}
    (hring : r.radioTxBuffer = p.radioTxBuffer.contents) (v : VcAddress) :
    (Outgoing.vcBreakLink r v p.myVc).radioTxBuffer =
      (VcSerial.vcBreakLink p v).radioTxBuffer.contents := by
  unfold Outgoing.vcBreakLink VcSerial.vcBreakLink
  split
  · exact hring
  · split
    · exact (Ring.contents_revoke _).symm
    · exact hring

theorem readyOutgoingPacket_refines {p : Port} {r : Outgoing.Radio} {maxDatagramSize : UInt8}
    (hring : r.radioTxBuffer = p.radioTxBuffer.contents)
    (hmax : r.layout.maxDatagramSize = maxDatagramSize.toNat) {n : Nat}
    (hn : n ≤ p.radioTxBuffer.available) :
    (Outgoing.readyOutgoingPacket r n).radioTxBuffer =
      (VcSerial.readyOutgoingPacket p n maxDatagramSize).radioTxBuffer.contents := by
  have hle : min n maxDatagramSize.toNat ≤ p.radioTxBuffer.available :=
    Nat.le_trans (Nat.min_le_left _ _) hn
  unfold Outgoing.readyOutgoingPacket VcSerial.readyOutgoingPacket
  dsimp only
  rw [hmax,hring,(p.radioTxBuffer.take_contents hle).2]

/-- It takes the same message and leaves the same ones. -/
theorem vcSerialMessageReceived_refines {p : Port} (h : p.Bounded) (i : Inputs)
    {r : Outgoing.Radio} (hring : r.radioTxBuffer = p.radioTxBuffer.contents)
    (hmax : r.layout.maxDatagramSize = i.maxDatagramSize.toNat) :
    let s := Outgoing.vcSerialMessageReceived r ⟨i.receiveInProcess,p.myVc,i.connected⟩
    s.1.radioTxBuffer = (vcSerialMessageReceived p i).1.radioTxBuffer.contents ∧
      s.2 = (vcSerialMessageReceived p i).2 := by
  by_cases hsome : p.radioTxBuffer.available = 0
  · have hnil : r.radioTxBuffer = [] := hring.trans (Ring.contents_eq_nil.mpr hsome)
    unfold Outgoing.vcSerialMessageReceived VcSerial.vcSerialMessageReceived
    dsimp only
    rw [if_pos (.inr hnil),if_pos (.inr hsome)]
    exact ⟨hring,rfl⟩
  have hbyte : ∀ k < p.radioTxBuffer.available,
      r.radioTxBuffer.getD k 0 = p.radioTxBuffer.peek k :=
    fun k hk => hring ▸ Ring.getD_contents hk 0
  obtain ⟨hle,hwhole,-⟩ := h.first hsome
  have hfour : vcSerialHeaderBytes ≤ p.radioTxBuffer.available := by
    have hlen := List.length_take_le' (p.radioTxBuffer.peek 0).toNat p.radioTxBuffer.contents
    rw [Ring.length_contents] at hlen
    exact Nat.le_trans hwhole.least hlen
  have hlength : r.messageLength = (p.radioTxBuffer.peek 0).toNat :=
    congrArg UInt8.toNat (hbyte 0 (Nat.pos_of_ne_zero hsome))
  have hdest : r.messageDest = (p.radioTxBuffer.peek 1).toBitVec :=
    congrArg UInt8.toBitVec (hbyte 1 (Nat.lt_of_lt_of_le (by decide) hfour))
  have hdropped : r.discardMessage.radioTxBuffer =
      (p.discardMessage (p.radioTxBuffer.peek 0).toNat).radioTxBuffer.contents := by
    change r.radioTxBuffer.drop r.messageLength = (p.radioTxBuffer.skip _).contents
    rw [hring,hlength,Ring.contents_skip hle]
  have hloaded := readyOutgoingPacket_refines hring hmax hle
  unfold Outgoing.vcSerialMessageReceived VcSerial.vcSerialMessageReceived
  simp only [hlength,hdest,hmax,hring,Ring.length_contents,Ring.contents_eq_nil,
    Outgoing.VcInputs.ownData]
  split_ifs with hidle hpart hinvalid hlong hreserved hdown hown
  · exact ⟨hring,rfl⟩
  · exact ⟨hring,rfl⟩
  · exact ⟨hdropped,rfl⟩
  · exact ⟨hdropped,rfl⟩
  · exact ⟨vcBreakLink_refines hdropped _,rfl⟩
  · exact ⟨hdropped,rfl⟩
  · exact ⟨hloaded,by rw [hown]; rfl⟩
  · exact ⟨hloaded,by rw [Bool.eq_false_iff.mpr hown]; rfl⟩

/-- After every run radioTxBuffer holds whole messages and nothing else, and so
does every payload. -/
theorem message_boundaries_kept {p : Port} (h : p.Started) (es : List Event) :
    (∃ ms : List (List UInt8), ms.flatten = (run step p es).radioTxBuffer.contents ∧
      ∀ m ∈ ms, m.head?.map UInt8.toNat = some m.length ∧ vcSerialHeaderBytes ≤ m.length) ∧
    ∀ m ∈ (run step p es).payloads,
      m.head?.map UInt8.toNat = some m.length ∧ vcSerialHeaderBytes ≤ m.length := by
  have hstep : ∀ s e, Port.Bounded s → True → (step s e).Bounded := fun _ e hs _ => hs.step e
  have hrun := invariant hstep h.bounded (along_true step p es)
  obtain ⟨ms,hms,hwhole⟩ := framed_iff.mp hrun.messages
  exact ⟨⟨ms,hms,fun m hm => ⟨(hwhole m hm).length,(hwhole m hm).least⟩⟩,
    fun m hm => ⟨(hrun.payloads m hm).length,(hrun.payloads m hm).least⟩⟩

/-- After power on, both rings at their last cell. -/
def poweredOn : Port where
  serialReceiveBuffer := { cell := fun _ => 0, head := 1023, tail := 1023 }
  radioTxBuffer := { cell := fun _ => 0, head := 3071, tail := 3071 }
  commandBuffer := []
  myVc := 1
  payloads := []

theorem poweredOn_started : poweredOn.Started where
  serialReceiveBuffer := by decide
  radioTxBuffer := by decide
  payloads := rfl

/-- Of two messages across the end of the ring the one that is too long is
discarded. -/
theorem long_message_discarded :
    let es : List Event :=
      [.updateSerial [2,5,0,1,7,8,2,4,0,1,9] [[],[]],
        .vcSerialMessageReceived ⟨false,4,fun _ => true⟩]
    (run step poweredOn es).radioTxBuffer.contents = [4,0,1,9] ∧
      (∃ ms : List (List UInt8),
        ms.flatten = (run step poweredOn es).radioTxBuffer.contents ∧
        ∀ m ∈ ms, m.head?.map UInt8.toNat = some m.length ∧ vcSerialHeaderBytes ≤ m.length) ∧
      ∀ m ∈ (run step poweredOn es).payloads,
        m.head?.map UInt8.toNat = some m.length ∧ vcSerialHeaderBytes ≤ m.length :=
  ⟨by decide +kernel,message_boundaries_kept poweredOn_started _⟩

end LoRaSerial.VcSerial
