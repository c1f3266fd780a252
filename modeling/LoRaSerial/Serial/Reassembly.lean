import LoRaSerial.Serial.Accepted
import LoRaSerial.VC.Responses

namespace LoRaSerial.Serial
open Rings
open Outgoing (vcHeader vcRadioHeaderBytes vcSerialHeaderBytes startOfVcSerial)
open VC (VcAddress VcState VirtualCircuit commandBytes commandTxBufferSize maxVc)

def pcLinkStatus : VcAddress := 0xE1
def pcCommandComplete : VcAddress := 0xE5
def vcCmdSuccess : UInt8 := 0
def vcCmdError : UInt8 := 1
def uniqueIdEraseValue : UInt8 := 0xFF

/-- Notify the host that the command is complete. -/
def commandComplete (myVc : VcAddress) (success : Bool) : List UInt8 :=
  startOfVcSerial ::
    vcHeader (vcRadioHeaderBytes + vcCommandCompleteMessageBytes) pcCommandComplete myVc ++
      [if success then vcCmdSuccess else vcCmdError]

/-- Send the PC the state message. -/
def vcSendPcStateMessage (virtualCircuitList : Fin maxVc → VirtualCircuit) (vcIndex : Fin maxVc)
    (state : VcState) : List UInt8 :=
  let vc := virtualCircuitList vcIndex
  let message := UInt8.ofNat state.code ::
    if vc.valid then vc.uniqueId else List.replicate 16 uniqueIdEraseValue
  startOfVcSerial ::
    vcHeader (vcRadioHeaderBytes + message.length) pcLinkStatus (.ofNumber vcIndex) ++ message

/-- checkCommand("ATA"): the echo, the state of each virtual circuit, and OK. -/
def ataResponse (virtualCircuitList : Fin maxVc → VirtualCircuit) : List UInt8 :=
  [0x41,0x54,0x41,0x0D,0x0A] ++
    (List.finRange maxVc).flatMap (fun index =>
      vcSendPcStateMessage virtualCircuitList index (virtualCircuitList index).vcState) ++
    [0x4F,0x4B,0x0D,0x0A]

/-- What readyOutgoingCommandPacket(VC_RADIO_HEADER_BYTES) puts in one frame
after the other, as long as availableTXCommandBytes() is not zero. Each frame
takes at least one byte, so `fuel` is what the buffer holds. -/
def commandPackets (maxDatagramSize : Nat) :
    Nat → Ring UInt8 commandTxBufferSize → List (List UInt8)
  | 0,_ => []
  | fuel + 1,q =>
    if q.available = 0 then []
    else
      let packet := q.take (commandBytes q maxDatagramSize)
      packet.1 :: commandPackets maxDatagramSize fuel packet.2

/-- Priority 3 of RADIO_VC_WAIT_RECEIVE: a REMOTE_COMMAND_RESPONSE. -/
def responseFrame (rmtCmdVc myVc : VcAddress) (packet : List UInt8) : List UInt8 :=
  vcHeader (packet.length + vcRadioHeaderBytes) rmtCmdVc myVc ++ packet

def responseFrames (maxDatagramSize : Nat) (rmtCmdVc myVc : VcAddress)
    (q : Ring UInt8 commandTxBufferSize) : List (List UInt8) :=
  (commandPackets maxDatagramSize q.available q).map (responseFrame rmtCmdVc myVc)

/-- The radio of the host gets the frames in this order and has room for each.
The host takes some of its bytes at any time. -/
inductive Receives : Output → List (List UInt8) → Output → Prop
  | done {o} : Receives o [] o
  | serial {o frames o'} (cts : Nat) (hrest : Receives (outputSerialData o cts) frames o') :
      Receives o frames o'
  | frame {o rxData frames o'} (cts : Cts)
      (hfree : rxData.length ≤ serialTransmitBufferSize - o.serialTransmitBuffer.available)
      (hfits : Fits true true o .remoteCommandResponse rxData cts)
      (hrest : Receives (storeFrame true o .remoteCommandResponse rxData cts) frames o') :
      Receives o (rxData :: frames) o'

/-- A message for the host with a part of a response. -/
def remoteResponse (destVc srcVc : VcAddress) (part : List UInt8) : List UInt8 :=
  startOfVcSerial :: UInt8.ofNat (vcRadioHeaderBytes + part.length) ::
    (⟨destVc⟩ ||| pcRemoteResponse) :: ⟨srcVc⟩ :: part

/-- The host gets exactly the response in PC_REMOTE_RESPONSE messages, and
behind them the command complete message. -/
def Delivers (o o' : Output) (destVc srcVc : VcAddress) (response complete : List UInt8) : Prop :=
  ∃ parts : List (List UInt8), parts.flatten = response ∧
    (∀ part ∈ parts, vcRadioHeaderBytes + part.length < 256) ∧
    o'.forHost = o.forHost ++ (parts.flatMap (remoteResponse destVc srcVc) ++ complete)

/-- The length of a frame when more bytes wait than it can take: four bytes stay
free, and it ends before a START_OF_VC_SERIAL among its last four bytes, unless
it starts with one. -/
def frameEnd (maxLength : Nat) (bs : List UInt8) : Nat :=
  let last := maxLength - vcSerialHeaderBytes
  if bs.getD 0 0 = startOfVcSerial then last
  else
    ((List.range' (last - vcSerialHeaderBytes) vcSerialHeaderBytes).find? fun k =>
      bs.getD k 0 == startOfVcSerial).getD last

/-- The byte five places before the end of the bytes is a START_OF_VC_SERIAL. -/
def Marked (bs : List UInt8) : Prop := bs.getD (bs.length - 5) 0 = startOfVcSerial

instance (bs : List UInt8) : Decidable (Marked bs) := inferInstanceAs (Decidable (_ = _))

/-- In frames of at most `maxLength` bytes, none but the last one is marked. -/
inductive Unmarked (maxLength : Nat) : List UInt8 → Prop
  | last {bs} (hlast : bs.length ≤ maxLength) : Unmarked maxLength bs
  | full {bs} (hfull : maxLength < bs.length)
      (hmark : ¬Marked (bs.take (frameEnd maxLength bs)))
      (hrest : Unmarked maxLength (bs.drop (frameEnd maxLength bs))) : Unmarked maxLength bs

/-- How bytes are split in frames. -/
inductive Split (maxLength : Nat) : List UInt8 → List (List UInt8) → Prop
  | last {bs} (hlast : bs.length ≤ maxLength) : Split maxLength bs [bs]
  | full {bs packets} (hfull : maxLength < bs.length)
      (hrest : Split maxLength (bs.drop (frameEnd maxLength bs)) packets) :
      Split maxLength bs (bs.take (frameEnd maxLength bs) :: packets)

theorem frameEnd_bounds {maxLength : Nat} (bs : List UInt8) (h : 61 ≤ maxLength) :
    maxLength - 8 ≤ frameEnd maxLength bs ∧ frameEnd maxLength bs ≤ maxLength - 4 := by
  unfold frameEnd
  dsimp only [vcSerialHeaderBytes]
  split
  · omega
  · cases hfind : (List.range' (maxLength - 4 - 4) 4).find? fun k =>
        bs.getD k 0 == startOfVcSerial with
    | none =>
      simp only [Option.getD_none]
      omega
    | some k =>
      have hmem := List.mem_of_find?_eq_some hfind
      rw [List.mem_range'_1] at hmem
      simp only [Option.getD_some]
      omega

/-- Without a START_OF_VC_SERIAL in the response no frame is marked. -/
theorem text_unmarked {maxLength : Nat} {response complete : List UInt8} (h : 61 ≤ maxLength)
    (hfive : complete.length = 5) (htext : ∀ b ∈ response, b ≠ startOfVcSerial) :
    Unmarked maxLength (response ++ complete) := by
  induction hlen : response.length using Nat.strong_induction_on generalizing response with
  | _ m ih =>
    subst hlen
    have hlength : (response ++ complete).length = response.length + 5 := by
      rw [List.length_append,hfive]
    rcases Nat.lt_or_ge maxLength (response ++ complete).length with hfull | hlast
    · obtain ⟨hlow,hhigh⟩ := frameEnd_bounds (response ++ complete) h
      have hk : frameEnd maxLength (response ++ complete) ≤ response.length := by omega
      refine .full hfull ?_ ?_
      · rw [List.take_append_of_le_length hk]
        generalize frameEnd maxLength (response ++ complete) = k at hlow hhigh hk
        intro hmark
        have hindex : k - 5 < response.length := by omega
        have hbyte : (response.take k).getD (k - 5) 0 = response[k - 5] := by
          rw [List.getD_eq_getElem?_getD,List.getElem?_take_of_lt (by omega),
            List.getElem?_eq_getElem hindex]
          rfl
        unfold Marked at hmark
        rw [List.length_take_of_le hk,hbyte] at hmark
        exact htext _ (List.getElem_mem hindex) hmark
      · rw [List.drop_append_of_le_length hk]
        refine ih _ ?_ (fun b hb => htext b (List.mem_of_mem_drop hb)) rfl
        rw [List.length_drop]
        omega
    · exact .last hlast

/-- The code finds these ends, wherever the bytes stand in the ring. -/
theorem commandBytes_eq {q : Ring UInt8 commandTxBufferSize} {n : Nat} (hn : 64 ≤ n) :
    commandBytes q n =
      if q.available ≤ n - vcRadioHeaderBytes then q.available
      else frameEnd (n - vcRadioHeaderBytes) q.contents := by
  unfold commandBytes
  dsimp only
  split
  · rfl
  next hlong =>
    unfold frameEnd
    dsimp only [vcRadioHeaderBytes,vcSerialHeaderBytes] at hlong ⊢
    rw [Ring.getD_contents (by omega)]
    split
    · rfl
    · unfold VC.beforeSplitMessage
      dsimp only [vcSerialHeaderBytes]
      have hfirst : n - 3 - 4 - 4 - 1 + 1 = n - 3 - 4 - 4 := by omega
      have hcount : n - 3 - 4 - (n - 3 - 4 - 4) = 4 := by omega
      rw [hfirst,hcount]
      congr 1
      apply List.find?_congr
      intro k hk
      rw [List.mem_range'_1] at hk
      rw [Ring.getD_contents (by omega)]

/-- The frames hold the bytes of the buffer, split as `Split` says. -/
theorem commandPackets_split {n fuel : Nat} {q : Ring UInt8 commandTxBufferSize} (hn : 64 ≤ n)
    (hfuel : q.available ≤ fuel) (hsome : q.available ≠ 0) :
    Split (n - vcRadioHeaderBytes) q.contents (commandPackets n fuel q) := by
  induction fuel generalizing q with
  | zero => omega
  | succ fuel ih =>
    have hle := VC.commandBytes_le q n
    have hpos := VC.commandBytes_pos (q := q) (n := n)
      (by simp only [vcRadioHeaderBytes,vcSerialHeaderBytes]; omega) hsome
    obtain ⟨hpacket,hcontents⟩ := Ring.take_contents q hle
    have havail : (q.take (commandBytes q n)).2.available = q.available - commandBytes q n := by
      rw [← Ring.length_contents,hcontents,List.length_drop,Ring.length_contents]
    have hbytes := commandBytes_eq (q := q) hn
    unfold commandPackets
    rw [if_neg hsome]
    dsimp only
    rw [hpacket]
    split at hbytes
    next hlast =>
      have hnone : commandPackets n fuel (q.take (commandBytes q n)).2 = [] := by
        cases fuel with
        | zero => rfl
        | succ fuel =>
          unfold commandPackets
          rw [if_pos (by rw [havail,hbytes]; exact Nat.sub_self _)]
      rw [hnone,List.take_of_length_le (by rw [Ring.length_contents,hbytes])]
      exact .last (by rw [Ring.length_contents]; exact hlast)
    next hfull =>
      have hends := frameEnd_bounds q.contents
        (show 61 ≤ n - vcRadioHeaderBytes by simp only [vcRadioHeaderBytes]; omega)
      have hrest := ih (q := (q.take (commandBytes q n)).2) (by omega) (by omega)
      rw [hcontents,hbytes] at hrest
      rw [hbytes]
      exact .full (by rw [Ring.length_contents]; omega) hrest

/-- No byte is lost or sent twice. -/
theorem Split.flatten {maxLength : Nat} {bs : List UInt8} {packets : List (List UInt8)}
    (h : Split maxLength bs packets) : packets.flatten = bs := by
  induction h with
  | last hlast => exact List.flatten_singleton
  | full hfull hrest ih => rw [List.flatten_cons,ih,List.take_append_drop]

theorem commandPackets_flatten {n : Nat} {q : Ring UInt8 commandTxBufferSize} (hn : 64 ≤ n) :
    (commandPackets n q.available q).flatten = q.contents := by
  by_cases hsome : q.available = 0
  · rw [Ring.contents_eq_nil.mpr hsome,hsome]
    rfl
  · exact (commandPackets_split hn (Nat.le_refl _) hsome).flatten

theorem Marked.append (bs : List UInt8) {complete : List UInt8} (hfive : complete.length = 5) :
    Marked (bs ++ complete) ↔ complete.getD 0 0 = startOfVcSerial := by
  unfold Marked
  rw [List.length_append,hfive,Nat.add_sub_cancel,List.getD_eq_getElem?_getD,
    List.getElem?_append_right (Nat.le_refl _),Nat.sub_self,← List.getD_eq_getElem?_getD]

/-- A frame leaves at least five bytes, so the five last bytes stay together. -/
theorem Marked.drop {bs : List UInt8} {k : Nat} (h : Marked bs) (hk : k + 5 ≤ bs.length) :
    Marked (bs.drop k) := by
  unfold Marked at h ⊢
  rw [List.length_drop,List.getD_eq_getElem?_getD,List.getElem?_drop,← List.getD_eq_getElem?_getD]
  have hindex : k + (bs.length - k - 5) = bs.length - 5 := by omega
  rw [hindex]
  exact h

theorem outputSerialData_forHost (o : Output) (cts : Nat) :
    (outputSerialData o cts).forHost = o.forHost := by
  have hle := Nat.min_le_left o.serialTransmitBuffer.available cts
  unfold outputSerialData
  rw [serialWrite_eq hle]
  simp only [Output.forHost,List.append_assoc,Ring.contents_skip hle,List.take_append_drop]

/-- The host takes everything. -/
theorem outputSerialData_available (o : Output) :
    (outputSerialData o o.serialTransmitBuffer.available).serialTransmitBuffer.available = 0 := by
  unfold outputSerialData
  rw [Nat.min_self,serialWrite_eq (Nat.le_refl _)]
  exact (Ring.available_skip (Nat.le_refl _)).trans (Nat.sub_self _)

theorem Receives.forHost {o o' : Output} {frames : List (List UInt8)} (h : Receives o frames o')
    (hframes : ∀ rxData ∈ frames, VcFrame rxData ∧ rxData.length < 256) :
    o'.forHost = o.forHost ++ frames.flatMap (hostBytes true .remoteCommandResponse) := by
  induction h with
  | done => simp
  | serial cts hrest ih => rw [ih hframes,outputSerialData_forHost]
  | @frame o rxData frames o' cts hfree hfits hrest ih =>
    obtain ⟨hframe,hshort⟩ := hframes rxData List.mem_cons_self
    have hstored :=
      (storeFrame_stored_iff (.inr (.inr rfl)) (fun _ => hframe) hshort hfree).mpr hfits
    rw [ih fun rx hrx => hframes rx (List.mem_cons_of_mem _ hrx),hstored.host,List.flatMap_cons,
      List.append_assoc]

/-- What the handler makes of frames with these packets. -/
def responseBytes (d s : VcAddress) (packets : List (List UInt8)) : List UInt8 :=
  packets.flatMap fun packet =>
    hostBytes true .remoteCommandResponse (responseFrame d s packet)

theorem responseBytes_cons (d s : VcAddress) (packet : List UInt8)
    (packets : List (List UInt8)) :
    responseBytes d s (packet :: packets) =
      hostBytes true .remoteCommandResponse (responseFrame d s packet) ++
        responseBytes d s packets :=
  List.flatMap_cons

theorem length_responseFrame (d s : VcAddress) (packet : List UInt8) :
    (responseFrame d s packet).length = packet.length + 3 := by
  simp [responseFrame,vcHeader]

theorem vcFrame_responseFrame {d s : VcAddress} {packet : List UInt8} (h : packet.length ≤ 252) :
    VcFrame (responseFrame d s packet) ∧ (responseFrame d s packet).length < 256 := by
  have hlen := length_responseFrame d s packet
  refine ⟨⟨?_,?_⟩,by omega⟩
  · have hbyte : (UInt8.ofNat (packet.length + 3)).toNat = packet.length + 3 :=
      UInt8.toNat_ofNat_of_lt (by simp only [UInt8.size]; omega)
    rw [hlen]
    exact congrArg some hbyte
  · rw [hlen]
    exact Nat.le_add_left _ _

/-- The host gets the packet behind a header, whose length leaves out the last
five bytes of a marked packet. -/
theorem hostBytes_responseFrame (d s : VcAddress) {packet : List UInt8}
    (hfive : 5 ≤ packet.length) (hshort : packet.length ≤ 252) :
    hostBytes true .remoteCommandResponse (responseFrame d s packet) =
      startOfVcSerial ::
        UInt8.ofNat (if Marked packet then packet.length - 2 else packet.length + 3) ::
        (⟨d⟩ ||| pcRemoteResponse) :: ⟨s⟩ :: packet := by
  have hlen := length_responseFrame d s packet
  have hends : EndsComplete (responseFrame d s packet) ↔ Marked packet := by
    unfold EndsComplete Marked
    have hindex : packet.length + 3 - 5 = packet.length - 5 + 3 := by omega
    rw [hlen,hindex]
    exact and_iff_right (by omega)
  have hlength : responseLength (responseFrame d s packet) =
      if Marked packet then packet.length - 2 else packet.length + 3 := by
    rw [responseLength_eq (vcFrame_responseFrame hshort).2,hlen]
    simp only [hends]
    split <;> omega
  change startOfVcSerial :: responseHeader _ _ = _
  rw [hlength]
  rfl

/-- Where the host keeps up, every frame finds room. -/
theorem exists_receives {o : Output} {frames : List (List UInt8)}
    (hempty : o.serialTransmitBuffer.available = 0)
    (hframes : ∀ rxData ∈ frames, VcFrame rxData ∧ rxData.length < 256) :
    ∃ o', Receives o frames o' := by
  induction frames generalizing o with
  | nil => exact ⟨o,.done⟩
  | cons rxData frames ih =>
    obtain ⟨_,hshort⟩ := hframes rxData List.mem_cons_self
    have hfree : rxData.length ≤
        serialTransmitBufferSize - o.serialTransmitBuffer.available := by
      rw [hempty]
      simp only [serialTransmitBufferSize]
      omega
    have hfits : Fits true true o .remoteCommandResponse rxData ⟨0,0,0⟩ := by
      change o.serialTransmitBuffer.available + rxData.length + 1 < _
      rw [hempty]
      simp only [serialTransmitBufferSize]
      omega
    generalize hstored : storeFrame true o .remoteCommandResponse rxData ⟨0,0,0⟩ = stored
    obtain ⟨o',hrest⟩ := ih (outputSerialData_available stored) fun rx hrx =>
      hframes rx (List.mem_cons_of_mem _ hrx)
    refine ⟨o',.frame ⟨0,0,0⟩ hfree hfits ?_⟩
    rw [hstored]
    exact .serial _ hrest

/-- The sum of some bytes. -/
def total (bs : List UInt8) : Nat := (bs.map UInt8.toNat).sum

@[simp] theorem total_nil : total [] = 0 := rfl

@[simp] theorem total_cons (b : UInt8) (bs : List UInt8) : total (b :: bs) = b.toNat + total bs :=
  List.sum_cons

@[simp] theorem total_append (as bs : List UInt8) : total (as ++ bs) = total as + total bs := by
  simp [total]

/-- The sum of a header of length 3, which has no data. -/
def headerTotal (d s : VcAddress) : Nat := total (remoteResponse d s [])

theorem total_message (d s : VcAddress) {length : Nat} (h : length < 256) (data : List UInt8) :
    total (startOfVcSerial :: UInt8.ofNat length :: (⟨d⟩ ||| pcRemoteResponse) :: ⟨s⟩ :: data) + 3 =
      headerTotal d s + length + total data := by
  have hbyte : (UInt8.ofNat length).toNat = length :=
    UInt8.toNat_ofNat_of_lt (by simp only [UInt8.size]; omega)
  have hthree : (UInt8.ofNat (vcRadioHeaderBytes + ([] : List UInt8).length)).toNat = 3 := rfl
  simp only [headerTotal,remoteResponse,total_cons,hbyte,hthree,total_nil]
  omega

/-- Messages with the parts of a response have a header for each part. -/
theorem total_remoteResponses {d s : VcAddress} {parts : List (List UInt8)}
    (hshort : ∀ part ∈ parts, vcRadioHeaderBytes + part.length < 256) :
    (parts.flatMap (remoteResponse d s)).length = 4 * parts.length + parts.flatten.length ∧
      total (parts.flatMap (remoteResponse d s)) =
        parts.length * headerTotal d s + parts.flatten.length + total parts.flatten := by
  induction parts with
  | nil => simp
  | cons part parts ih =>
    obtain ⟨hlength,htotal⟩ := ih fun p hp => hshort p (List.mem_cons_of_mem _ hp)
    have hpart := hshort part List.mem_cons_self
    have hmessage := total_message d s hpart part
    simp only [List.flatMap_cons,List.flatten_cons,List.length_append,List.length_cons,
      total_append,Nat.add_one_mul]
    rw [hlength,htotal]
    simp only [vcRadioHeaderBytes,remoteResponse] at hmessage ⊢
    refine ⟨?_,by omega⟩
    simp only [List.length_cons]
    omega

/-- What the host gets for a response has one header for each frame as well, but
the lengths in them are five too small for each marked frame, and the last frame
is marked. -/
theorem Split.counts {maxLength : Nat} {bs : List UInt8} {packets : List (List UInt8)}
    {d s : VcAddress} (hsplit : Split maxLength bs packets) (hleast : 61 ≤ maxLength)
    (hmost : maxLength ≤ 252) (hfive : 5 ≤ bs.length) (hmarked : Marked bs) :
    ∃ frames marks : Nat,
      (responseBytes d s packets).length = 4 * frames + bs.length ∧
      total (responseBytes d s packets) + 5 * (marks + 1) =
        frames * headerTotal d s + bs.length + total bs ∧
      (marks = 0 → Unmarked maxLength bs) := by
  induction hsplit with
  | @last bs hlast =>
    refine ⟨1,0,?_,?_,fun _ => .last hlast⟩
    · rw [responseBytes,List.flatMap_singleton,hostBytes_responseFrame d s hfive (by omega)]
      simp only [List.length_cons]
      omega
    · rw [responseBytes,List.flatMap_singleton,hostBytes_responseFrame d s hfive (by omega),
        if_pos hmarked]
      have hmessage := total_message d s (show bs.length - 2 < 256 by omega) bs
      omega
  | @full bs packets hfull hrest ih =>
    obtain ⟨hlow,hhigh⟩ := frameEnd_bounds bs hleast
    generalize hk : frameEnd maxLength bs = k at hlow hhigh hrest ih
    have hdrop : (bs.drop k).length = bs.length - k := List.length_drop
    have htake : (bs.take k).length = k := List.length_take_of_le (by omega)
    have hsum : total (bs.take k) + total (bs.drop k) = total bs := by
      rw [← total_append,List.take_append_drop]
    obtain ⟨frames,marks,hlength,htotal,hunmarked⟩ := ih (by omega) (hmarked.drop (by omega))
    have hbytes := hostBytes_responseFrame d s (show 5 ≤ (bs.take k).length by omega) (by omega)
    have hmul := Nat.add_one_mul frames (headerTotal d s)
    refine ⟨frames + 1,if Marked (bs.take k) then marks + 1 else marks,?_,?_,?_⟩
    · rw [responseBytes_cons,List.length_append,hlength,hbytes]
      simp only [List.length_cons]
      omega
    · rw [responseBytes_cons,total_append,hbytes,htake]
      by_cases hm : Marked (bs.take k)
      · rw [if_pos hm,if_pos hm]
        have hmessage := total_message d s (show k - 2 < 256 by omega) (bs.take k)
        omega
      · rw [if_neg hm,if_neg hm]
        have hmessage := total_message d s (show k + 3 < 256 by omega) (bs.take k)
        omega
    · intro hzero
      by_cases hm : Marked (bs.take k)
      · rw [if_pos hm] at hzero
        cases hzero
      · rw [if_neg hm] at hzero
        exact .full hfull (by rw [hk]; exact hm) (by rw [hk]; exact hunmarked hzero)

/-- Where the response ends is where the last frame is cut. -/
theorem Split.parts {maxLength : Nat} {response complete : List UInt8}
    {packets : List (List UInt8)} {d s : VcAddress}
    (hsplit : Split maxLength (response ++ complete) packets) (hleast : 61 ≤ maxLength)
    (hmost : maxLength ≤ 252) (hfive : complete.length = 5)
    (hstart : complete.getD 0 0 = startOfVcSerial)
    (hunmarked : Unmarked maxLength (response ++ complete)) :
    ∃ parts : List (List UInt8), parts.flatten = response ∧
      (∀ part ∈ parts, vcRadioHeaderBytes + part.length < 256) ∧
      responseBytes d s packets = parts.flatMap (remoteResponse d s) ++ complete := by
  generalize hbs : response ++ complete = bs at hsplit hunmarked
  induction hsplit generalizing response with
  | @last bs hlast =>
    subst hbs
    have hmarked := (Marked.append response hfive).mpr hstart
    have hlen : (response ++ complete).length = response.length + 5 := by
      rw [List.length_append,hfive]
    have hlength : response.length + 5 - 2 = vcRadioHeaderBytes + response.length := by
      simp only [vcRadioHeaderBytes]
      omega
    refine ⟨[response],List.flatten_singleton,?_,?_⟩
    · intro part hpart
      rw [List.mem_singleton.mp hpart]
      omega
    · rw [responseBytes,List.flatMap_singleton,hostBytes_responseFrame d s (by omega) (by omega),
        if_pos hmarked,hlen,hlength,List.flatMap_singleton]
      rfl
  | @full bs packets hfull hrest ih =>
    subst hbs
    obtain ⟨hlow,hhigh⟩ := frameEnd_bounds (response ++ complete) hleast
    cases hunmarked with
    | last hlast => omega
    | full _ hmark hrest' =>
      generalize frameEnd maxLength (response ++ complete) = k at *
      have hlen : (response ++ complete).length = response.length + 5 := by
        rw [List.length_append,hfive]
      have hk : k ≤ response.length := by omega
      rw [List.take_append_of_le_length hk] at hmark ⊢
      obtain ⟨parts,hflatten,hshort,hbytes⟩ :=
        ih (List.drop_append_of_le_length hk).symm hrest'
      have htake : (response.take k).length = k := List.length_take_of_le hk
      have hlength : k + 3 = vcRadioHeaderBytes + k := Nat.add_comm _ _
      refine ⟨response.take k :: parts,?_,?_,?_⟩
      · rw [List.flatten_cons,hflatten,List.take_append_drop]
      · intro part hpart
        rcases List.mem_cons.mp hpart with rfl | hpart
        · simp only [vcRadioHeaderBytes]
          omega
        · exact hshort part hpart
      · rw [responseBytes_cons,List.flatMap_cons,hbytes,List.append_assoc,
          hostBytes_responseFrame d s (by omega) (by omega),if_neg hmark,remoteResponse,htake,
          hlength]

theorem Split.short {maxLength : Nat} {bs : List UInt8} {packets : List (List UInt8)}
    (h : Split maxLength bs packets) (hleast : 61 ≤ maxLength) :
    ∀ packet ∈ packets, packet.length ≤ maxLength := by
  induction h with
  | last hlast =>
    intro packet hpacket
    rw [List.mem_singleton.mp hpacket]
    exact hlast
  | @full bs packets hfull hrest ih =>
    intro packet hpacket
    rcases List.mem_cons.mp hpacket with rfl | hpacket
    · obtain ⟨_,hhigh⟩ := frameEnd_bounds bs hleast
      rw [List.length_take]
      omega
    · exact ih packet hpacket

theorem vcFrame_of_mem {n : Nat} {destVc myVc : VcAddress} {q : Ring UInt8 commandTxBufferSize}
    {bs : List UInt8} (hleast : 64 ≤ n) (hmost : n ≤ 255)
    (hsplit : Split (n - vcRadioHeaderBytes) bs (commandPackets n q.available q)) :
    ∀ rxData ∈ responseFrames n destVc myVc q, VcFrame rxData ∧ rxData.length < 256 := by
  intro rxData hrx
  obtain ⟨packet,hpacket,rfl⟩ := List.mem_map.mp hrx
  have hshort := hsplit.short (by simp only [vcRadioHeaderBytes]; omega) packet hpacket
  apply vcFrame_responseFrame
  simp only [vcRadioHeaderBytes] at hshort
  omega

theorem Receives.packets {n : Nat} {destVc myVc : VcAddress} {o o' : Output}
    {q : Ring UInt8 commandTxBufferSize} {bs : List UInt8}
    (h : Receives o (responseFrames n destVc myVc q) o') (hleast : 64 ≤ n) (hmost : n ≤ 255)
    (hsplit : Split (n - vcRadioHeaderBytes) bs (commandPackets n q.available q)) :
    o'.forHost = o.forHost ++ responseBytes destVc myVc (commandPackets n q.available q) := by
  rw [h.forHost (vcFrame_of_mem hleast hmost hsplit),responseFrames,List.flatMap_map,responseBytes]

theorem length_commandComplete (myVc : VcAddress) (success : Bool) :
    (commandComplete myVc success).length = 5 := rfl

section Response

variable {n : Nat} {destVc myVc : VcAddress} {success : Bool} {response : List UInt8}
  {q : Ring UInt8 commandTxBufferSize} {o o' : Output}

theorem response_split (hleast : 64 ≤ n)
    (hq : q.contents = response ++ commandComplete myVc success) :
    Split (n - vcRadioHeaderBytes) (response ++ commandComplete myVc success)
      (commandPackets n q.available q) := by
  have hsome : q.available ≠ 0 := by
    rw [← Ring.length_contents,hq,List.length_append,length_commandComplete]
    omega
  rw [← hq]
  exact commandPackets_split hleast (Nat.le_refl _) hsome

/-- A marked frame that is not the last one leaves the lengths in the headers
smaller than what the host got. -/
theorem unmarked_of_delivers (hleast : 64 ≤ n) (hmost : n ≤ 255)
    (hq : q.contents = response ++ commandComplete myVc success)
    (h : Receives o (responseFrames n destVc myVc q) o')
    (hdelivers : Delivers o o' destVc myVc response (commandComplete myVc success)) :
    Unmarked (n - vcRadioHeaderBytes) (response ++ commandComplete myVc success) := by
  have hsplit := response_split hleast hq
  have hfive := length_commandComplete myVc success
  have hmarked := (Marked.append response hfive).mpr rfl
  obtain ⟨parts,rfl,hshort,hhost⟩ := hdelivers
  rw [h.packets hleast hmost hsplit,List.append_cancel_left_eq] at hhost
  obtain ⟨frames,marks,hlength,htotal,hunmarked⟩ := hsplit.counts (d := destVc) (s := myVc)
    (by simp only [vcRadioHeaderBytes]; omega) (by simp only [vcRadioHeaderBytes]; omega)
    (by rw [List.length_append]; omega) hmarked
  obtain ⟨hlength',htotal'⟩ := total_remoteResponses (d := destVc) (s := myVc) hshort
  rw [hhost,List.length_append,List.length_append,hlength'] at hlength
  rw [hhost,total_append,total_append,List.length_append,htotal'] at htotal
  have hframes : frames = parts.length := by omega
  subst hframes
  exact hunmarked (by omega)

theorem delivers_of_unmarked (hleast : 64 ≤ n) (hmost : n ≤ 255)
    (hq : q.contents = response ++ commandComplete myVc success)
    (h : Receives o (responseFrames n destVc myVc q) o')
    (hunmarked : Unmarked (n - vcRadioHeaderBytes) (response ++ commandComplete myVc success)) :
    Delivers o o' destVc myVc response (commandComplete myVc success) := by
  have hsplit := response_split hleast hq
  obtain ⟨parts,hflatten,hshort,hbytes⟩ := hsplit.parts (d := destVc) (s := myVc)
    (by simp only [vcRadioHeaderBytes]; omega) (by simp only [vcRadioHeaderBytes]; omega)
    (length_commandComplete myVc success) rfl hunmarked
  refine ⟨parts,hflatten,hshort,?_⟩
  rw [h.packets hleast hmost hsplit,hbytes]

/-- The response goes through exactly if no frame but the last one is marked. -/
theorem response_delivered_iff (hleast : 64 ≤ n) (hmost : n ≤ 255)
    (hq : q.contents = response ++ commandComplete myVc success)
    (h : Receives o (responseFrames n destVc myVc q) o') :
    Delivers o o' destVc myVc response (commandComplete myVc success) ↔
      Unmarked (n - vcRadioHeaderBytes) (response ++ commandComplete myVc success) :=
  ⟨unmarked_of_delivers hleast hmost hq h,delivers_of_unmarked hleast hmost hq h⟩

/-- Text goes through. -/
theorem text_delivered (hleast : 64 ≤ n) (hmost : n ≤ 255)
    (hq : q.contents = response ++ commandComplete myVc success)
    (h : Receives o (responseFrames n destVc myVc q) o')
    (htext : ∀ b ∈ response, b ≠ startOfVcSerial) :
    Delivers o o' destVc myVc response (commandComplete myVc success) := by
  refine delivers_of_unmarked hleast hmost hq h ?_
  exact text_unmarked (by simp only [vcRadioHeaderBytes]; omega)
    (length_commandComplete myVc success) htext

/-- A host that keeps up gets all the frames. -/
theorem exists_receives_response (destVc : VcAddress) (hleast : 64 ≤ n) (hmost : n ≤ 255)
    (hq : q.contents = response ++ commandComplete myVc success)
    (hempty : o.serialTransmitBuffer.available = 0) :
    ∃ o', Receives o (responseFrames n destVc myVc q) o' :=
  exists_receives hempty (vcFrame_of_mem hleast hmost (response_split hleast hq))

end Response

/-- A radio that knows one other, whose unique ID has a START_OF_VC_SERIAL in it. -/
def oneKnown (index : Fin maxVc) : VirtualCircuit :=
  if index = 22 then
    { VirtualCircuit.garbage with
      uniqueId := List.replicate 7 0x31 ++ startOfVcSerial :: List.replicate 8 0x31
      valid := true
      vcState := .linkAlive }
  else .garbage

def ataBuffer : Ring UInt8 commandTxBufferSize :=
  Ring.pushAll { cell := fun _ => 0, head := 4000, tail := 4000 }
    (ataResponse oneKnown ++ commandComplete 3 true)

/-- ATA on a remote radio, with frames of the default size: the second frame
ends five bytes behind the START_OF_VC_SERIAL in the unique ID. -/
theorem ata_response_misread :
    ataBuffer.contents = ataResponse oneKnown ++ commandComplete 3 true ∧
      ∃ o', Receives .empty (responseFrames 249 0 3 ataBuffer) o' ∧
        ¬Delivers .empty o' 0 3 (ataResponse oneKnown) (commandComplete 3 true) := by
  have hq : ataBuffer.contents = ataResponse oneKnown ++ commandComplete 3 true :=
    Ring.contents_pushAll (by decide +kernel)
  obtain ⟨o',h⟩ := exists_receives_response 0 (by decide : 64 ≤ 249) (by decide) hq
    (show Output.empty.serialTransmitBuffer.available = 0 by decide)
  refine ⟨hq,o',h,fun hdelivers => ?_⟩
  cases unmarked_of_delivers (by decide) (by decide) hq h hdelivers with
  | last hlast => exact absurd hlast (by decide +kernel)
  | full _ _ hrest =>
    cases hrest with
    | last hlast => exact absurd hlast (by decide +kernel)
    | full _ hmark _ => exact hmark (by decide +kernel)

theorem response_delivered_iff_ata :
    ∃ o', Receives .empty (responseFrames 249 0 3 ataBuffer) o' ∧
      (Delivers .empty o' 0 3 (ataResponse oneKnown) (commandComplete 3 true) ↔
        Unmarked (249 - vcRadioHeaderBytes)
          (ataResponse oneKnown ++ commandComplete 3 true)) := by
  have hq : ataBuffer.contents = ataResponse oneKnown ++ commandComplete 3 true :=
    Ring.contents_pushAll (by decide +kernel)
  obtain ⟨o',h⟩ := exists_receives_response 0 (by decide : 64 ≤ 249) (by decide) hq
    (show Output.empty.serialTransmitBuffer.available = 0 by decide)
  exact ⟨o',h,response_delivered_iff (by decide) (by decide) hq h⟩

end LoRaSerial.Serial
