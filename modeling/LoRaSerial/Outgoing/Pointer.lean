import LoRaSerial.Outgoing.Packet

namespace LoRaSerial.Outgoing
open Codec (datagramSize sf6DatagramSize)
open Runs
open VC (VcAddress vcBroadcast minRxNotAllowed)

/-- The frame carries the payload built for it and fits the packet, with the
trailer behind endOfTxData as it was and as spread factor 6 moves it. -/
structure Transmission.Sound (t : Transmission) : Prop where
  data : t.data = t.payload
  packet : t.endOfTxData + t.trailerBytes ≤ maxPacketSize
  size : t.txDatagramSize ≤ maxPacketSize

/-- Every frame so far carries one datagram. -/
structure Radio.Framed (r : Radio) : Prop where
  layout : r.layout.Selected
  sound : ∀ t ∈ r.transmissions, t.Sound

def Radio.AtHeader (r : Radio) : Prop := r.endOfTxData = r.layout.headerBytes

/-- No frame is being built. -/
structure Radio.Ready (r : Radio) : Prop extends r.Framed where
  pointer : r.AtHeader

/-- outgoingPacket holds the datagram `payload` and nothing behind it. -/
structure Radio.Built (r : Radio) (payload : List UInt8) : Prop extends r.Framed where
  pointer : r.endOfTxData = r.layout.headerBytes + payload.length
  data : r.data = payload
  room : payload.length ≤ r.layout.maxDatagramSize

namespace Radio

variable {r s : Radio}

theorem Framed.of_eq (h : r.Framed)
    (hs : (s.layout,s.transmissions) = (r.layout,r.transmissions)) : s.Framed := by
  obtain ⟨hl,ht⟩ := Prod.mk.inj hs
  exact ⟨hl ▸ h.layout,ht ▸ h.sound⟩

theorem Ready.of_eq (h : r.Ready) (hs : (s.layout,s.transmissions,s.endOfTxData) =
    (r.layout,r.transmissions,r.endOfTxData)) : s.Ready := by
  obtain ⟨hl,hrest⟩ := Prod.mk.inj hs
  obtain ⟨ht,hp⟩ := Prod.mk.inj hrest
  exact ⟨h.toFramed.of_eq (by rw [hl,ht]),by rw [AtHeader,hp,hl]; exact h.pointer⟩

theorem Framed.reset (h : r.Framed) : r.resetPointer.Ready := ⟨h.of_eq rfl,rfl⟩

theorem Framed.selectLayout (h : r.Framed) : r.selectLayout.Ready :=
  ⟨⟨selected _,h.sound⟩,rfl⟩

/-- Transmitting a built datagram. -/
theorem Built.transmit {payload : List UInt8} (h : r.Built payload) (t : DatagramType) (a : Air) :
    (transmitDatagram r t payload a).Ready := by
  have hpacket := h.layout.packet
  have hpointer := h.pointer
  have hroom := h.room
  have hsize : datagramSize r.settings r.layout t r.endOfTxData + r.layout.trailerBytes ≤
      maxPacketSize := by
    have hheader := h.layout.headerBytes_le
    have htrailer := h.layout.trailerBytes_le
    simp only [maxPacketSize] at hpacket ⊢
    unfold datagramSize
    split
    · cases t <;> simp only [sf6DatagramSize,maxPacketSize] <;> omega
    · omega
  refine ⟨⟨h.layout,fun x hx => ?_⟩,rfl⟩
  rcases List.mem_cons.mp hx with rfl | hx
  · exact ⟨h.data,by simp only; omega,hsize⟩
  · exact h.sound x hx

/-- A payload written where the datagram is to stand. -/
theorem Framed.built (h : r.Framed) {payload : List UInt8}
    (hp : r.endOfTxData = r.layout.headerBytes + payload.length)
    (hw : r.outgoingPacket.slice r.layout.headerBytes payload.length = payload)
    (hroom : payload.length ≤ r.layout.maxDatagramSize) : r.Built payload := by
  refine ⟨h,hp,?_,hroom⟩
  rw [data,hp,Nat.add_sub_cancel_left]
  exact hw

theorem Ready.append (h : r.Ready) {payload : List UInt8}
    (hroom : payload.length ≤ r.layout.maxDatagramSize) : (r.append payload).Built payload := by
  have hpacket := h.layout.packet
  have hpointer : r.endOfTxData = r.layout.headerBytes := h.pointer
  have hframed : (r.append payload).Framed := h.toFramed.of_eq rfl
  apply hframed.built
  · simp only [Radio.append,hpointer]
  · simp only [Radio.append,hpointer]
    exact PacketBuffer.slice_write _ _ _ (by omega)
  · exact hroom

theorem Ready.xmit (h : r.Ready) {payload : List UInt8} (hlen : payload.length ≤ 164)
    (t : DatagramType) (a : Air) : (r.xmit t payload a).Ready := by
  have hheader := h.layout.headerBytes_le
  have htrailer := h.layout.trailerBytes_le
  have hpacket := h.layout.packet
  simp only [maxPacketSize] at hpacket
  exact (h.append (by omega)).transmit t a

theorem Ready.readyOutgoingPacket (h : r.Ready) {n : Nat}
    (hn : n ≤ r.radioTxBuffer.length) : (readyOutgoingPacket r n).Built
      (r.radioTxBuffer.take (min n r.layout.maxDatagramSize)) := by
  have hpacket := h.layout.packet
  have hpointer : r.endOfTxData = r.layout.headerBytes := h.pointer
  have hlen : (r.radioTxBuffer.take (min n r.layout.maxDatagramSize)).length ≤
      r.layout.maxDatagramSize := by
    rw [List.length_take]
    omega
  have hframed : (Outgoing.readyOutgoingPacket r n).Framed := h.toFramed.of_eq rfl
  apply hframed.built
  · simp only [Outgoing.readyOutgoingPacket,place,hpointer]
  · simp only [Outgoing.readyOutgoingPacket,place,Nat.add_zero]
    exact PacketBuffer.slice_write _ _ _ (by omega)
  · exact hlen

theorem processWaitingSerial_cases (r : Radio) (sendNow timeout : Bool) :
    processWaitingSerial r sendNow timeout =
      (Outgoing.readyOutgoingPacket r r.radioTxBuffer.length,true) ∨
    processWaitingSerial r sendNow timeout = (r,false) := by
  unfold processWaitingSerial
  dsimp only
  split
  · exact .inl rfl
  split
  · exact .inl rfl
  · exact .inr rfl

theorem Ready.sendSerialData (h : r.Ready) (sendNow timeout : Bool) (a : Air) :
    (sendSerialData r sendNow timeout a).Ready := by
  have hbuilt := h.readyOutgoingPacket (Nat.le_refl r.radioTxBuffer.length)
  have htake : r.radioTxBuffer.take (min r.radioTxBuffer.length r.layout.maxDatagramSize) =
      r.radioTxBuffer.take r.layout.maxDatagramSize := by
    rw [Nat.min_comm]
    exact List.take_eq_take_min.symm
  rw [htake] at hbuilt
  unfold Outgoing.sendSerialData
  split
  · exact h
  rcases r.processWaitingSerial_cases sendNow timeout with hp | hp
  · rw [hp]
    exact hbuilt.transmit .data a
  · rw [hp]
    exact h

theorem commandBytes_le (r : Radio) (offset : Nat) :
    r.commandBytes offset ≤ r.layout.maxDatagramSize - offset := by
  unfold commandBytes
  dsimp only
  split
  · assumption
  split
  · split
    · omega
    · unfold beforeSplitMessage
      dsimp only
      cases hf : (List.range' _ _).find? _ with
      | none => simp only [Option.getD_none]; omega
      | some k =>
        have hk := List.mem_of_find?_eq_some hf
        rw [List.mem_range'_1] at hk
        simp only [Option.getD_some]
        omega
  · exact Nat.le_refl _

theorem length_commandBytes_le (r : Radio) (offset : Nat) :
    (r.commandTXBuffer.take (r.commandBytes offset)).length ≤
      r.layout.maxDatagramSize - offset :=
  (List.length_take_le _ _).trans (r.commandBytes_le offset)

theorem Ready.sendCommand (h : r.Ready) (remoteCommandResponse : Bool) (a : Air) :
    (sendCommand r remoteCommandResponse a).Ready := by
  unfold Outgoing.sendCommand
  split
  · exact h
  have hpacket := h.layout.packet
  have hpointer : r.endOfTxData = r.layout.headerBytes := h.pointer
  have hlen := r.length_commandBytes_le 0
  have hframed : (readyOutgoingCommandPacket r 0).Framed := h.toFramed.of_eq rfl
  apply Built.transmit
  apply hframed.built
  · simp only [readyOutgoingCommandPacket,place,hpointer]
  · simp only [readyOutgoingCommandPacket,place,Nat.add_zero]
    exact PacketBuffer.slice_write _ _ _ (by omega)
  · exact hlen

theorem Ready.sendVcCommandResponse (h : r.Ready) (rmtCmdVc myVc : VcAddress) (a : Air) :
    (sendVcCommandResponse r rmtCmdVc myVc a).Ready := by
  unfold Outgoing.sendVcCommandResponse
  split
  · exact h
  have hheader := h.layout.headerBytes_le
  have htrailer := h.layout.trailerBytes_le
  have hpacket := h.layout.packet
  have hpointer : r.endOfTxData = r.layout.headerBytes := h.pointer
  have hlen := r.length_commandBytes_le vcRadioHeaderBytes
  simp only [maxPacketSize,vcRadioHeaderBytes] at hpacket hlen
  have hframed : ∀ header, (readyOutgoingCommandPacket (r.place 0 header)
      vcRadioHeaderBytes).Framed := fun header => h.toFramed.of_eq rfl
  apply Built.transmit
  apply (hframed _).built
  · rw [List.length_append,← Nat.add_assoc]
    change r.endOfTxData + _ + _ = r.layout.headerBytes + _ + _
    rw [hpointer]
    rfl
  · rw [List.length_append]
    exact PacketBuffer.slice_write_write _ _ _ _ (by
      simp only [vcHeader,List.length_cons,List.length_nil,maxPacketSize]
      show _ + _ + (r.commandTXBuffer.take (r.commandBytes 3)).length ≤ _
      omega)
  · simp only [vcHeader,List.length_append,List.length_cons,List.length_nil]
    show 0 + 1 + 1 + 1 + (r.commandTXBuffer.take (r.commandBytes 3)).length ≤
      r.layout.maxDatagramSize
    omega

theorem Ready.vcBreakLink (h : r.Ready) (vcIndex myVc : VcAddress) :
    (vcBreakLink r vcIndex myVc).Ready := by
  have hflushed : Framed { resetSerial r with radioTxBuffer := [] } := h.toFramed.of_eq rfl
  unfold Outgoing.vcBreakLink
  split
  · exact h
  split
  · exact hflushed.reset
  · exact h

theorem Ready.discardMessage (h : r.Ready) : r.discardMessage.Ready := h.of_eq rfl

/-- The message at the head of radioTxBuffer goes to outgoingPacket and on to
the switch: the radio is idle, the message is complete, its address is valid,
it fits a datagram, its circuit is connected, and it is not looped back. -/
structure Sends (r : Radio) (i : VcInputs) : Prop where
  idle : i.receiveInProcess = false
  waiting : r.radioTxBuffer ≠ []
  complete : r.messageLength ≤ r.radioTxBuffer.length
  valid : r.messageDest.toNat < minRxNotAllowed.toNat ∨ r.messageDest = vcBroadcast
  fits : r.messageLength ≤ r.layout.maxDatagramSize
  connected : r.messageDest = vcBroadcast ∨ i.connected r.messageDest.number = true
  remote : i.ownData r.messageDest = false

/-- A message is either loaded for the switch, or it is not and leaves nothing
behind. -/
theorem Ready.vcSerialMessageReceived (h : r.Ready) (i : VcInputs) :
    (r.Sends i ∧ vcSerialMessageReceived r i =
      (Outgoing.readyOutgoingPacket r r.messageLength,true)) ∨
    (¬ r.Sends i ∧ ∃ s, vcSerialMessageReceived r i = (s,false) ∧ s.Ready) := by
  unfold Outgoing.vcSerialMessageReceived
  dsimp only
  split
  next hbusy =>
    refine .inr ⟨fun hs => ?_,r,rfl,h⟩
    rcases hbusy with hbusy | hempty
    · simp [hs.idle] at hbusy
    · exact hs.waiting hempty
  next hidle =>
  split
  next hshort => exact .inr ⟨fun hs => by have := hs.complete; omega,r,rfl,h⟩
  next hcomplete =>
  split
  next hinvalid =>
    refine .inr ⟨fun hs => ?_,_,rfl,h.discardMessage⟩
    rcases hs.valid with hv | hv
    · omega
    · exact hinvalid.2 hv
  next hvalid =>
  split
  next hlong =>
    refine .inr ⟨fun hs => by have := hs.fits; omega,?_⟩
    split
    · exact ⟨_,rfl,h.discardMessage⟩
    · exact ⟨_,rfl,h.discardMessage.vcBreakLink _ _⟩
  next hfits =>
  split
  next hdown =>
    refine .inr ⟨fun hs => ?_,_,rfl,h.discardMessage⟩
    rcases hs.connected with hc | hc
    · exact hdown.1 hc
    · simp [hc] at hdown
  next hconnected =>
  split
  next hown =>
    refine .inr ⟨fun hs => by simp [hs.remote] at hown,_,rfl,⟨h.layout,h.sound⟩,?_⟩
    have hpointer : r.endOfTxData = r.layout.headerBytes := h.pointer
    simp only [AtHeader,Outgoing.readyOutgoingPacket,place,List.length_take,hpointer]
    omega
  next hremote =>
    refine .inl ⟨⟨by simpa using fun hb => hidle (.inl hb),fun he => hidle (.inr he),by omega,?_,
      by omega,?_,by simpa using hremote⟩,rfl⟩
    · by_cases hb : r.messageDest = vcBroadcast
      · exact .inr hb
      · exact .inl (Nat.lt_of_not_le fun hle => hvalid ⟨hle,hb⟩)
    · by_cases hb : r.messageDest = vcBroadcast
      · exact .inl hb
      · exact .inr (by simpa using fun hc => hconnected ⟨hb,hc⟩)

/-- The destination behind the header once the message is loaded: its own
address byte, if the message has one. -/
def loadedDest (r : Radio) : VcAddress :=
  if 2 ≤ r.messageLength then r.messageDest else r.headerDest

theorem Sends.length_take {i : VcInputs} (h : r.Sends i) :
    (r.radioTxBuffer.take r.messageLength).length = r.messageLength :=
  List.length_take_of_le h.complete

theorem Sends.built {i : VcInputs} (hs : r.Sends i) (h : r.Ready) :
    (Outgoing.readyOutgoingPacket r r.messageLength).Built
      (r.radioTxBuffer.take r.messageLength) := by
  have hbuilt := h.readyOutgoingPacket hs.complete
  rwa [Nat.min_eq_left hs.fits] at hbuilt

theorem Sends.headerDest {i : VcInputs} (hs : r.Sends i) (h : r.Ready) :
    (Outgoing.readyOutgoingPacket r r.messageLength).headerDest = r.loadedDest := by
  have hpacket := h.layout.packet
  have hfits := hs.fits
  have hlen := hs.length_take
  have hwrite : (Outgoing.readyOutgoingPacket r r.messageLength).outgoingPacket =
      r.outgoingPacket.write r.layout.headerBytes (r.radioTxBuffer.take r.messageLength) := by
    simp only [Outgoing.readyOutgoingPacket,place,Nat.min_eq_left hfits,Nat.add_zero]
  have hbyte := r.outgoingPacket.byte_write r.layout.headerBytes 1
    (r.radioTxBuffer.take r.messageLength) (by omega)
  unfold loadedDest Radio.headerDest
  rw [hwrite]
  change (PacketBuffer.byte _ (r.layout.headerBytes + 1)).toBitVec = _
  rw [hbyte,hlen]
  by_cases htwo : 2 ≤ r.messageLength
  · have hget : (r.radioTxBuffer.take r.messageLength).getD 1 0 = r.radioTxBuffer.getD 1 0 := by
      simp only [List.getD_eq_getElem?_getD,List.getElem?_take_of_lt htwo]
    rw [if_pos htwo,if_pos (by omega),hget]
    rfl
  · rw [if_neg htwo,if_neg (by omega)]

/-- The switch has a case for the destination: it has none for channels 2 to 7. -/
def Routed (dest : VcAddress) : Prop := dest = vcBroadcast ∨ dest.channel ≤ 1

/-- A message the switch has no case for stays where the next datagram is
built. -/
def Clear (r : Radio) : Event → Prop
  | .sendVcData i _ => r.Sends i → r.messageLength = 0 ∨ Routed r.loadedDest
  | _ => True

/-- endOfTxData is back behind the header, and every frame sent so far carries
the payload built for it and fits the packet. -/
def OneDatagram (r : Radio) : Prop := r.AtHeader ∧ ∀ t ∈ r.transmissions, t.Sound

theorem Ready.oneDatagram (h : r.Ready) : r.OneDatagram := ⟨h.pointer,h.sound⟩

theorem Built.maskDest {payload : List UInt8} (h : r.Built payload) (b : UInt8) :
    Built { r with outgoingPacket := r.outgoingPacket.write (r.layout.headerBytes + 1) [b] }
      (payload.set 1 b) := by
  have hheader := h.layout.headerBytes_le
  have hdata := h.data
  rw [Radio.data,h.pointer,Nat.add_sub_cancel_left] at hdata
  have hframed : Framed { r with
      outgoingPacket := r.outgoingPacket.write (r.layout.headerBytes + 1) [b] } :=
    h.toFramed.of_eq rfl
  apply hframed.built
  · rw [List.length_set]
    exact h.pointer
  · rw [List.length_set]
    exact (PacketBuffer.slice_write_byte _ _ _ _ _ (by simp only [maxPacketSize]; omega)).trans
      (by rw [hdata])
  · rw [List.length_set]
    exact h.room

/-- A case of the switch transmits the message or drops it. -/
theorem Built.sendVcMessage {message : List UInt8} (h : r.Built message)
    (hdest : Routed r.headerDest) (i : VcInputs) (a : Air) :
    (sendVcMessage r message i a).Ready := by
  unfold Outgoing.sendVcMessage
  dsimp only
  split
  · exact h.transmit _ a
  · split
    · exact Framed.reset (h.toFramed.of_eq rfl)
    · exact (h.maskDest _).transmit _ a
  next hzero hone =>
    split at hzero
    · exact absurd rfl hzero
    next hb =>
      rw [if_neg hb] at hone
      rcases hdest with hd | hd
      · exact absurd hd hb
      · exact absurd (Nat.le_one_iff_eq_zero_or_eq_one.mp hd) (by
          rintro (h0 | h1)
          · exact hzero h0
          · exact hone h1)

theorem sendVcMessage_eq_self (hdest : ¬ Routed r.headerDest) (message : List UInt8) (i : VcInputs)
    (a : Air) : sendVcMessage r message i a = r := by
  unfold Routed at hdest
  unfold Outgoing.sendVcMessage
  dsimp only
  rw [if_neg fun hb => hdest (.inl hb)]
  split
  next h0 => exact absurd (.inr (by omega)) hdest
  next h1 => exact absurd (.inr (by omega)) hdest
  next => rfl

theorem Ready.sendVcData (h : r.Ready) (i : VcInputs) (a : Air) :
    (r.Clear (.sendVcData i a) → (sendVcData r i a).Ready) ∧
    ((sendVcData r i a).AtHeader → r.Clear (.sendVcData i a)) := by
  unfold Outgoing.sendVcData
  rcases h.vcSerialMessageReceived i with ⟨hs,hv⟩ | ⟨hs,s,hv,hr⟩
  · rw [hv]
    dsimp only
    have hbuilt := hs.built h
    have hdest := hs.headerDest h
    by_cases hrouted : Routed r.loadedDest
    · exact ⟨fun _ => hbuilt.sendVcMessage (hdest ▸ hrouted) i a,fun _ _ => .inr hrouted⟩
    rw [sendVcMessage_eq_self (hdest ▸ hrouted)]
    have hpointer := hbuilt.pointer
    rw [hs.length_take] at hpointer
    constructor
    · intro hclear
      refine ⟨hbuilt.toFramed,?_⟩
      rcases hclear hs with hz | hr
      · exact hpointer.trans (by rw [hz,Nat.add_zero])
      · exact absurd hr hrouted
    · intro hat _
      exact .inl (by rw [AtHeader,hpointer] at hat; omega)
  · rw [hv]
    exact ⟨fun _ => hr,fun _ hs' => absurd hs' hs⟩

/-- One step keeps the radio ready exactly if it meets the condition. -/
theorem Ready.step (h : r.Ready) (e : Event) :
    (r.Clear e → (step r e).Ready) ∧ ((step r e).AtHeader → r.Clear e) := by
  cases e
  case sendVcData i a => exact h.sendVcData i a
  all_goals
    refine ⟨fun hclear => ?_,fun hat => trivial⟩
    clear hclear
  case serialData | commandOutput | settings | saveTxBuffer | restoreTxBuffer => exact h.of_eq rfl
  case radioReset =>
    exact Framed.selectLayout (r := { r with radioTxBuffer := [], commandTXBuffer := [] })
      (h.toFramed.of_eq rfl)
  case commonTrainingInitialization s =>
    exact Framed.selectLayout (r := { r with settings := s }) (h.toFramed.of_eq rfl)
  case breakLink inCommandMode =>
    cases inCommandMode with
    | true => exact Framed.reset (h.toFramed.of_eq rfl)
    | false => exact Framed.reset (h.toFramed.of_eq rfl)
  case vcBreakLink vcIndex myVc => exact h.vcBreakLink vcIndex myVc
  case p2pFindPartner | p2pSyncClocks | p2pZeroAcks | p2pHeartbeat | p2pAck | mpHeartbeat |
      vcAckFrame | vcUnknownAcks | vcSyncAcks | vcZeroAcks =>
    exact h.xmit (by simp [P2P.millisBytes,vcHeader]) _ _
  case trainingFindPartner id a => exact h.xmit (by rw [id.2]; decide) _ _
  case trainingAck serverID id a =>
    exact h.xmit (by rw [List.length_append,serverID.2,id.2]; decide) _ _
  case trainRadioParameters clientID id params a =>
    exact h.xmit (by simp only [List.length_append,clientID.2,id.2,params.2]; decide) _ _
  case vcHeartbeat addr id ms a =>
    exact h.xmit (by simp [P2P.millisBytes,vcHeader,id.2]) _ _
  case sendSerialData sendNow timeout a => exact h.sendSerialData sendNow timeout a
  case sendCommand remoteCommandResponse a => exact h.sendCommand remoteCommandResponse a
  case sendVcCommandResponse rmtCmdVc myVc a => exact h.sendVcCommandResponse rmtCmdVc myVc a

/-- The radio behind RADIO_RESET, from whatever state it was in. -/
def afterReset (r : Radio) : Radio := { radioReset r with transmissions := [] }

theorem afterReset_ready (r : Radio) : r.afterReset.Ready :=
  ⟨⟨selected _,fun _ hx => absurd hx List.not_mem_nil⟩,rfl⟩

end Radio

/-- Every frame carries exactly one datagram throughout a run exactly if no
message for a channel without a case reaches the switch. -/
theorem run_one_datagram_iff (r : Radio) (es : List Event) :
    Always step Radio.OneDatagram r.afterReset es ↔ Along step Radio.Clear r.afterReset es :=
  always_iff_along (fun _ e h hclear => (h.step e).1 hclear) (fun _ h => h.oneDatagram)
    (fun _ e h hone => (h.step e).2 hone.1) r.afterReset_ready es

def Radio.powerUp (settings : Settings) : Radio where
  settings
  layout := ⟨0,0,0,0⟩
  outgoingPacket := ⟨List.replicate maxPacketSize 0,PacketBuffer.size_zeros⟩
  rexmtBuffer := ⟨List.replicate maxPacketSize 0,PacketBuffer.size_zeros⟩
  endOfTxData := 0
  radioTxBuffer := []
  commandTXBuffer := []
  transmissions := []

def clearSettings : Settings :=
  { operatingMode := .virtualCircuit, encryptData := false }

def quietAir : Air where
  gcm := ⟨fun _ _ bs => bs,fun _ _ bs => bs⟩
  iv := []
  control := ⟨.data,0,false,false⟩
  msToNextHop := 400

/-- The radio's own address is 0 and all circuits are connected. -/
def hostMessage (bytes : List UInt8) : List Event :=
  [.serialData bytes,.sendVcData ⟨false,0,fun _ => true⟩ quietAir]

/-- A message for channel 2 of circuit 1 is left in outgoingPacket. The next
message goes out with four bytes too many, and a long one behind a long one
ends behind the packet. -/
theorem message_concatenated :
    ¬ Always step Radio.OneDatagram (Radio.powerUp clearSettings).afterReset
      (hostMessage [4,0x41,0,0x61]) ∧
    (run step (Radio.powerUp clearSettings).afterReset
      (hostMessage [4,0x41,0,0x61] ++ hostMessage [4,0x01,0,0x62])).transmissions.map
        (fun t => (t.payload,t.data)) =
      [([4,0x01,0,0x62],[4,0x01,0,0x62,0,0,0,0])] ∧
    (run step (Radio.powerUp clearSettings).afterReset
      (hostMessage (200 :: 0x41 :: List.replicate 198 0) ++
        hostMessage (200 :: 0x01 :: List.replicate 198 0))).transmissions.map
        (fun t => t.endOfTxData + t.trailerBytes) = [406] := by
  refine ⟨fun h => ?_,?_,?_⟩
  · have hat : ¬ (run step (Radio.powerUp clearSettings).afterReset
        (hostMessage [4,0x41,0,0x61])).AtHeader := by
      unfold Radio.AtHeader
      decide +kernel
    exact hat (h _ List.prefix_rfl).1
  · decide +kernel
  · decide +kernel

end LoRaSerial.Outgoing
