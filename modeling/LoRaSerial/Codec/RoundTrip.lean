import LoRaSerial.Codec.Frame
import LoRaSerial.PacketBuffer

namespace LoRaSerial.Codec
open Overlay

/-- The builders copy the payload behind the space of the header. -/
def buildPayload (l : Layout) (outgoingPacket : PacketBuffer) (payload : List UInt8) :
    PacketBuffer where
  bytes := overlay outgoingPacket.bytes l.headerBytes payload
  size := by rw [length_overlay,outgoingPacket.size]

/-- readData puts the received bytes at the front of incomingBuffer. -/
def readData (incomingBuffer : PacketBuffer) (frame : List UInt8) : List UInt8 :=
  overlay incomingBuffer.bytes 0 frame

theorem length_headerOf (s : Settings) (c : Control) (ms : BitVec 16) (length : UInt8) :
    (headerOf s c ms length).length = (selectHeaderAndTrailerBytes s).headerBytes := by
  simp only [headerOf,selectHeaderAndTrailerBytes,List.length_append]
  split <;> split <;> split <;> rfl

/-- The trailer behind `data`. -/
def trailerOf (s : Settings) (data : List UInt8) : List UInt8 :=
  if s.enableCRC16 then crc16Bytes (crc16 data) else []

theorem length_trailerOf (s : Settings) (data : List UInt8) :
    (trailerOf s data).length = (selectHeaderAndTrailerBytes s).trailerBytes := by
  simp only [trailerOf,selectHeaderAndTrailerBytes]
  split <;> rfl

/-- One coding pass over the first `n` bytes of a buffer. -/
theorem take_stage (b : Bool) (f : List UInt8 → List UInt8) (buf : List UInt8) (n : Nat)
    (hn : n ≤ buf.length) (hf : (f (buf.take n)).length = n) :
    (if b then overlay buf 0 (f (buf.take n)) else buf).take n =
      if b then f (buf.take n) else buf.take n := by
  cases b with
  | false => rfl
  | true =>
    have h := take_overlay_zero buf (f (buf.take n)) (by omega)
    rw [hf] at h
    exact h

/-- Encryption, then whitening. -/
def encode (s : Settings) (g : Gcm) (iv plain : List UInt8) : List UInt8 :=
  let bs := if s.encryptData then g.encrypt s.encryptionKey iv plain else plain
  if s.dataScrambling then radioComputeWhitening bs else bs

theorem length_encode {g : Gcm} (hg : g.Inverse) (s : Settings) (iv plain : List UInt8) :
    (encode s g iv plain).length = plain.length := by
  simp only [encode]
  split <;> split <;> simp [hg.length_encrypt]

theorem length_stage (b : Bool) (bs buf : List UInt8) :
    (if b then overlay buf 0 bs else buf).length = buf.length := by
  cases b <;> simp

theorem length_plainBuffer (s : Settings) (l : Layout) (c : Control) (ms : BitVec 16)
    (outgoingPacket : List UInt8) (endOfTxData : Nat) :
    (plainBuffer s l c ms outgoingPacket endOfTxData).length = outgoingPacket.length := by
  unfold plainBuffer
  dsimp only
  split <;> simp

/-- The frame is the coded form of what stands in the buffer before coding. -/
theorem transmitDatagram_encode {s : Settings} {l : Layout} {g : Gcm} (hg : g.Inverse)
    {iv : List UInt8} {c : Control} {ms : BitVec 16} {outgoingPacket plain : List UInt8}
    {endOfTxData n : Nat} (hout : outgoingPacket.length = maxPacketSize)
    (hn : datagramSize s l c.datagramType endOfTxData + l.trailerBytes = n)
    (hplain : (plainBuffer s l c ms outgoingPacket endOfTxData).take n = plain)
    (hfit : n ≤ maxPacketSize) :
    transmitDatagram s l g iv c ms outgoingPacket endOfTxData = encode s g iv plain := by
  have hmod : n % 256 = n := by
    apply Nat.mod_eq_of_lt
    unfold maxPacketSize at hfit
    omega
  have hlen := length_plainBuffer s l c ms outgoingPacket endOfTxData
  unfold transmitDatagram
  rw [hn,hmod]
  revert hplain hlen
  generalize plainBuffer s l c ms outgoingPacket endOfTxData = buf
  intro hplain hlen
  have hplainLen : plain.length = n := by
    rw [← hplain,List.length_take]
    omega
  have henc := take_stage s.encryptData (g.encrypt s.encryptionKey iv) buf n
    (by omega) (by rw [hg.length_encrypt,hplain,hplainLen])
  dsimp only
  rw [take_stage s.dataScrambling radioComputeWhitening _ _ (by rw [length_stage]; omega)
    (by rw [length_radioComputeWhitening,List.length_take,length_stage]; omega),henc,hplain]
  rfl

/-- Decoding in place gives back what was coded. -/
theorem take_decodeBuffer {s : Settings} {g : Gcm} (hg : g.Inverse) {iv : List UInt8}
    {incomingBuffer plain : List UInt8} {n : Nat} (hn : n ≤ incomingBuffer.length)
    (hplain : plain.length = n) (hframe : incomingBuffer.take n = encode s g iv plain) :
    (decodeBuffer s g iv incomingBuffer n).take n = plain := by
  have hwhite := take_stage s.dataScrambling radioComputeWhitening _ _ hn
    (by rw [length_radioComputeWhitening,hframe,length_encode hg,hplain])
  have hunscrambled : (if s.dataScrambling then radioComputeWhitening (incomingBuffer.take n)
      else incomingBuffer.take n) =
      if s.encryptData then g.encrypt s.encryptionKey iv plain else plain := by
    rw [hframe]
    unfold encode
    dsimp only
    cases s.dataScrambling <;> simp
  rw [hunscrambled] at hwhite
  unfold decodeBuffer
  dsimp only
  cases henc : s.encryptData with
  | false =>
    rw [henc] at hwhite
    simpa using hwhite
  | true =>
    rw [henc] at hwhite
    simp only [if_true] at hwhite ⊢
    rw [hwhite,hg.decrypt_encrypt]
    have h := take_overlay_zero (if s.dataScrambling = true then
      overlay incomingBuffer 0 (radioComputeWhitening (incomingBuffer.take n))
      else incomingBuffer) plain (by rw [length_stage]; omega)
    rwa [hplain] at h

theorem crcMismatch_trailer (front rest : List UInt8) :
    crcMismatch (front ++ crc16Bytes (crc16 front) ++ rest) (front.length + 2) = false := by
  simp [crcMismatch,crc16Bytes]

theorem channelTimerOfBytes_bytes (ms : BitVec 16) :
    channelTimerOfBytes ⟨ms.extractLsb' 0 8⟩ ⟨ms.extractLsb' 8 8⟩ = ms := by
  simp only [channelTimerOfBytes]
  apply BitVec.eq_of_getLsbD_eq
  intro i hi
  simp only [BitVec.getLsbD_append,BitVec.getLsbD_extractLsb']
  by_cases hlow : i < 8
  · simp [hlow]
  · have hhigh : 8 + (i - 8) = i := by omega
    have hbyte : i - 8 < 8 := by omega
    simp [hlow,hhigh,hbyte]

/-- The channel timer value a receiver should find. -/
def timerOf (s : Settings) (ms : BitVec 16) : Option (BitVec 16) :=
  if s.frequencyHop then some ms else none

/-- What rcvDatagram takes for the data of a frame with the given body. -/
def dataOf (s : Settings) (length : UInt8) (body : List UInt8) (n : Nat) :
    Except PacketType (List UInt8) :=
  if s.radioSpreadFactor = 6 then
    if length.toNat + (selectHeaderAndTrailerBytes s).minDatagramSize ≤ n then
      .ok (body.take length.toNat)
    else .error .bad
  else .ok body

theorem receivedData_body (s : Settings) (c : Control) (ms : BitVec 16) (length : UInt8)
    (body rest : List UInt8) {n : Nat}
    (hn : n = (selectHeaderAndTrailerBytes s).minDatagramSize + body.length) :
    receivedData s (selectHeaderAndTrailerBytes s)
      (headerOf s c ms length ++ body ++ rest)
      ((if s.netIdInHeader then 1 else 0) + 1 + (if s.frequencyHop then 2 else 0)) n =
      dataOf s length body n := by
  have hheader := length_headerOf s c ms length
  have hrest : n - (selectHeaderAndTrailerBytes s).minDatagramSize = body.length := by omega
  unfold receivedData dataOf
  by_cases hsf : s.radioSpreadFactor = 6
  · have hpos : (if s.netIdInHeader then 1 else 0) + 1 + (if s.frequencyHop then 2 else 0) + 1 =
        (headerOf s c ms length).length := by
      rw [hheader]
      simp [selectHeaderAndTrailerBytes,hsf]
    have hbyte : (headerOf s c ms length ++ body ++ rest).getD
        ((if s.netIdInHeader then 1 else 0) + 1 + (if s.frequencyHop then 2 else 0)) 0 =
        length := by
      cases hid : s.netIdInHeader <;> cases hhop : s.frequencyHop <;>
        simp [headerOf,channelTimerBytes,hid,hhop,hsf]
    simp only [hsf,if_true]
    rw [hbyte,hpos,List.append_assoc,List.drop_left]
    split
    next hle =>
      have hlen : length.toNat ≤ body.length := by omega
      rw [List.take_append_of_le_length hlen]
    next => rfl
  · have hpos : (if s.netIdInHeader then 1 else 0) + 1 + (if s.frequencyHop then 2 else 0) =
        (headerOf s c ms length).length := by
      rw [hheader]
      simp [selectHeaderAndTrailerBytes,hsf]
    simp only [hsf,if_false]
    rw [hpos,List.append_assoc,List.drop_left,hrest,List.take_left]

/-- A well-formed frame passes every check of rcvDatagram up to its data. -/
theorem parseDatagram_frame {s : Settings} {g : Gcm} {iv : List UInt8} {myVc : UInt8}
    {c : Control} {ms : BitVec 16} {length : UInt8} {incomingBuffer body : List UInt8} {n : Nat}
    (hignore : c.ignoreFrame = false)
    (hn : n = (selectHeaderAndTrailerBytes s).minDatagramSize + body.length)
    (hdecoded : (decodeBuffer s g iv incomingBuffer n).take n =
      headerOf s c ms length ++ body ++ trailerOf s (headerOf s c ms length ++ body)) :
    parseDatagram s (selectHeaderAndTrailerBytes s) g iv myVc incomingBuffer n =
      match dataOf s length body n with
      | .error p => .error p
      | .ok data =>
        if s.operatingMode = .virtualCircuit then
          checkVcHeader myVc ⟨c,timerOf s ms,data⟩
        else .ok ⟨c,timerOf s ms,data⟩ := by
  obtain ⟨rest,hbuf⟩ : ∃ rest, decodeBuffer s g iv incomingBuffer n =
      headerOf s c ms length ++ body ++ trailerOf s (headerOf s c ms length ++ body) ++ rest :=
    ⟨_,by rw [← hdecoded,List.take_append_drop]⟩
  have hheader := length_headerOf s c ms length
  have hmin : ¬ n < (selectHeaderAndTrailerBytes s).minDatagramSize := by omega
  have hid : ¬ (s.netIdInHeader = true ∧
      (decodeBuffer s g iv incomingBuffer n).getD 0 0 ≠ s.netID) := by
    rintro ⟨hid,hne⟩
    exact hne (by simp [hbuf,headerOf,hid])
  have hcrc : ¬ (s.enableCRC16 = true ∧
      crcMismatch (decodeBuffer s g iv incomingBuffer n) n = true) := by
    rintro ⟨hon,hbad⟩
    have hlen : n = (headerOf s c ms length ++ body).length + 2 := by
      rw [List.length_append,hheader,hn]
      simp only [selectHeaderAndTrailerBytes,hon,if_true]
      omega
    rw [hbuf,trailerOf,if_pos hon,hlen,crcMismatch_trailer] at hbad
    exact absurd hbad (by decide)
  have hcontrol : Control.ofByte ((decodeBuffer s g iv incomingBuffer n).getD
      (if s.netIdInHeader then 1 else 0) 0) = c := by
    have hbyte : (decodeBuffer s g iv incomingBuffer n).getD
        (if s.netIdInHeader then 1 else 0) 0 = c.byte := by
      cases hid : s.netIdInHeader <;> simp [hbuf,headerOf,hid]
    rw [hbyte,Control.ofByte_byte]
  have htimer : (if s.frequencyHop then some (channelTimerOfBytes
      ((decodeBuffer s g iv incomingBuffer n).getD ((if s.netIdInHeader then 1 else 0) + 1) 0)
      ((decodeBuffer s g iv incomingBuffer n).getD ((if s.netIdInHeader then 1 else 0) + 2) 0))
      else none) = timerOf s ms := by
    unfold timerOf
    cases hhop : s.frequencyHop with
    | false => rfl
    | true =>
      cases hid : s.netIdInHeader <;>
        simp [hbuf,headerOf,hid,hhop,channelTimerBytes,channelTimerOfBytes_bytes]
  have hdata := receivedData_body s c ms length body
    (trailerOf s (headerOf s c ms length ++ body) ++ rest) hn
  rw [← List.append_assoc,← hbuf] at hdata
  unfold parseDatagram
  dsimp only
  rewrite [if_neg hmin,if_neg hid,if_neg hcrc,hcontrol,htimer,hdata,
    if_neg (by simp [hignore])]
  cases dataOf s length body n <;> rfl

/-- What transmitDatagram sends behind the header, before the trailer. -/
def bodyOf (s : Settings) (l : Layout) (t : DatagramType) (outgoingPacket : List UInt8)
    (endOfTxData : Nat) : List UInt8 :=
  (outgoingPacket.drop l.headerBytes).take (datagramSize s l t endOfTxData - l.headerBytes)

/-- The sizes of a frame keep to the buffer. -/
structure Fits (s : Settings) (l : Layout) (t : DatagramType) (endOfTxData : Nat) : Prop where
  layout : l = selectHeaderAndTrailerBytes s
  header : l.headerBytes ≤ datagramSize s l t endOfTxData
  packet : datagramSize s l t endOfTxData + l.trailerBytes ≤ maxPacketSize

theorem length_bodyOf {s : Settings} {l : Layout} {t : DatagramType} {endOfTxData : Nat}
    (h : Fits s l t endOfTxData) (outgoingPacket : PacketBuffer) :
    (bodyOf s l t outgoingPacket.bytes endOfTxData).length =
      datagramSize s l t endOfTxData - l.headerBytes := by
  have hout := outgoingPacket.size
  have hpacket := h.packet
  simp only [bodyOf,List.length_take,List.length_drop]
  omega

theorem plainBuffer_take {s : Settings} {l : Layout} {c : Control} {endOfTxData : Nat}
    (h : Fits s l c.datagramType endOfTxData) (ms : BitVec 16) (outgoingPacket : PacketBuffer)
    {front : List UInt8}
    (hfront : front = headerOf s c ms (UInt8.ofNat (endOfTxData - l.headerBytes)) ++
      bodyOf s l c.datagramType outgoingPacket.bytes endOfTxData) :
    (plainBuffer s l c ms outgoingPacket.bytes endOfTxData).take
      (datagramSize s l c.datagramType endOfTxData + l.trailerBytes) =
        front ++ trailerOf s front := by
  obtain ⟨hl,hheader,hpacket⟩ := h
  have hout := outgoingPacket.size
  have hlen : (headerOf s c ms (UInt8.ofNat (endOfTxData - l.headerBytes))).length =
      l.headerBytes := by rw [length_headerOf,hl]
  have hplain : (overlay outgoingPacket.bytes 0
      (headerOf s c ms (UInt8.ofNat (endOfTxData - l.headerBytes)))).take
      (datagramSize s l c.datagramType endOfTxData) = front := by
    rw [overlay_eq (by omega),List.take_zero,List.nil_append,Nat.zero_add,List.take_append,
      hlen,List.take_of_length_le (by omega),hfront]
    rfl
  unfold plainBuffer trailerOf
  dsimp only
  rw [hplain]
  cases hcrc : s.enableCRC16 with
  | false =>
    have htrailer : l.trailerBytes = 0 := by simp [hl,selectHeaderAndTrailerBytes,hcrc]
    rw [htrailer]
    simpa using hplain
  | true =>
    have htrailer : l.trailerBytes = (crc16Bytes (crc16 front)).length := by
      simp [hl,selectHeaderAndTrailerBytes,hcrc,crc16Bytes]
    simp only [if_true]
    rw [htrailer,take_overlay _ _ _ (by rw [length_overlay]; omega),hplain]

/-- The length of a frame, and what rcvDatagram makes of it as far as its
data. -/
theorem parse_transmit {s : Settings} {l : Layout} {g : Gcm} (hg : g.Inverse) (iv : List UInt8)
    (myVc : UInt8) {c : Control} (ms : BitVec 16) (outgoingPacket incomingBuffer : PacketBuffer)
    {endOfTxData : Nat} {frame : List UInt8} (hignore : c.ignoreFrame = false)
    (h : Fits s l c.datagramType endOfTxData)
    (hframe : frame = transmitDatagram s l g iv c ms outgoingPacket.bytes endOfTxData) :
    frame.length = datagramSize s l c.datagramType endOfTxData + l.trailerBytes ∧
    parseDatagram s l g iv myVc (readData incomingBuffer frame) frame.length =
      match dataOf s (UInt8.ofNat (endOfTxData - l.headerBytes))
          (bodyOf s l c.datagramType outgoingPacket.bytes endOfTxData) frame.length with
      | .error p => .error p
      | .ok data =>
        if s.operatingMode = .virtualCircuit then checkVcHeader myVc ⟨c,timerOf s ms,data⟩
        else .ok ⟨c,timerOf s ms,data⟩ := by
  have hplain := plainBuffer_take h ms outgoingPacket rfl
  rw [transmitDatagram_encode hg outgoingPacket.size rfl hplain h.packet] at hframe
  have hbody := length_bodyOf h outgoingPacket
  obtain ⟨hl,hheader,hpacket⟩ := h
  have hlen : frame.length = datagramSize s l c.datagramType endOfTxData + l.trailerBytes := by
    rw [hframe,length_encode hg,List.length_append,List.length_append,length_headerOf,
      length_trailerOf,hbody,← hl]
    omega
  have hin : frame.length ≤ incomingBuffer.bytes.length := by
    rw [incomingBuffer.size,hlen]
    exact hpacket
  subst hl
  refine ⟨hlen,parseDatagram_frame hignore ?_ ?_⟩
  · rw [hlen,hbody]
    simp only [selectHeaderAndTrailerBytes] at hheader ⊢
    omega
  · refine take_decodeBuffer hg (by rwa [readData,length_overlay]) ?_ ?_
    · rw [hframe,length_encode hg]
    · rw [readData,take_overlay_zero _ _ hin]
      exact hframe

/-- A payload the virtual-circuit header check accepts: its length byte is its
length, it is for everyone or for the receiver, and it comes from a circuit. -/
def VcPayload (myVc : UInt8) (payload : List UInt8) : Prop :=
  ∃ destVc srcVc rest, payload = UInt8.ofNat payload.length :: destVc :: srcVc :: rest ∧
    (destVc = vcBroadcast ∨ destVc = myVc) ∧ srcVc.toNat < maxVc

theorem checkVcHeader_payload {myVc : UInt8} {d : Received} (h : VcPayload myVc d.data)
    (hlen : d.data.length ≤ maxPacketSize) : checkVcHeader myVc d = .ok d := by
  obtain ⟨destVc,srcVc,rest,hdata,hdest,hsrc⟩ := h
  have hbyte : (UInt8.ofNat d.data.length).toNat = d.data.length := by
    rw [UInt8.toNat_ofNat']
    apply Nat.mod_eq_of_lt
    unfold maxPacketSize at hlen
    omega
  unfold checkVcHeader
  rw [hdata]
  dsimp only
  rw [← hdata,hbyte,if_neg (fun hs => absurd hs.2 (by omega)),if_neg (not_not.mpr rfl),
    if_neg (fun hd => hdest.elim hd.1 hd.2)]

/-- The receiver's number and free-space checks let the datagram pass. -/
def NumberPasses (s : Settings) (virtualCircuitList : Fin 32 → AckNumbers) (space : FreeSpace)
    (d : Received) : Prop :=
  ∀ i, numberIndex s d = some i →
    (rcvNumber (s.operatingMode == .virtualCircuit) (virtualCircuitList i) d.control
      d.data.length space).2 = .datagram d.control.datagramType

theorem rcvDatagram_accepted {s : Settings} {l : Layout} {g : Gcm} {iv : List UInt8}
    {myVc : UInt8} {virtualCircuitList : Fin 32 → AckNumbers} {space : FreeSpace}
    {incomingBuffer : List UInt8} {n : Nat} {d : Received}
    (hparse : parseDatagram s l g iv myVc incomingBuffer n = .ok d)
    (hnumber : NumberPasses s virtualCircuitList space d) :
    (rcvDatagram s l g iv myVc virtualCircuitList space incomingBuffer n).2 =
      (.datagram d.control.datagramType,some d) := by
  unfold rcvDatagram
  rw [hparse]
  dsimp only
  cases hi : numberIndex s d with
  | none => rfl
  | some i =>
    have hok := hnumber i hi
    dsimp only
    rw [hok]

/-- The payload stands at the front of the body when the datagram has room for
it. -/
theorem bodyOf_payload {s : Settings} {l : Layout} {t : DatagramType} {endOfTxData : Nat}
    (outgoingPacket : PacketBuffer) (payload : List UInt8)
    (hroom : l.headerBytes + payload.length ≤ datagramSize s l t endOfTxData)
    (hpacket : datagramSize s l t endOfTxData ≤ maxPacketSize) :
    (bodyOf s l t (buildPayload l outgoingPacket payload).bytes endOfTxData).take
      payload.length = payload := by
  have hout := outgoingPacket.size
  have htake := take_overlay outgoingPacket.bytes payload l.headerBytes (by omega)
  have hfirst : (outgoingPacket.bytes.take l.headerBytes).length = l.headerBytes := by
    rw [List.length_take]
    omega
  have hdrop : (outgoingPacket.bytes.take l.headerBytes ++ payload).drop
      (outgoingPacket.bytes.take l.headerBytes).length = payload := List.drop_left
  unfold bodyOf buildPayload
  rw [List.take_take,Nat.min_eq_left (by omega)]
  rwa [hfirst,← htake,List.drop_take,Nat.add_sub_cancel_left] at hdrop

/-- With explicit headers a frame of at most 255 bytes goes out, and the
receiver recovers the control byte, the channel timer and the payload from it. -/
theorem frame_round_trip (s : Settings) (g : Gcm) (hg : g.Inverse) (iv : List UInt8)
    (c : Control) (ms : BitVec 16) (payload : List UInt8) (myVc : UInt8)
    (outgoingPacket incomingBuffer : PacketBuffer) (hsf : 7 ≤ s.radioSpreadFactor)
    (hignore : c.ignoreFrame = false)
    (hpayload : payload.length ≤ (selectHeaderAndTrailerBytes s).maxDatagramSize)
    (hvc : s.operatingMode = .virtualCircuit → VcPayload myVc payload) :
    let l := selectHeaderAndTrailerBytes s
    let frame := transmitDatagram s l g iv c ms (buildPayload l outgoingPacket payload).bytes
      (l.headerBytes + payload.length)
    frame.length ≤ 255 ∧ ∀ virtualCircuitList space,
      NumberPasses s virtualCircuitList space ⟨c,timerOf s ms,payload⟩ →
      (rcvDatagram s l g iv myVc virtualCircuitList space (readData incomingBuffer frame)
        frame.length).2 = (.datagram c.datagramType,some ⟨c,timerOf s ms,payload⟩) := by
  intro l frame
  have hne : s.radioSpreadFactor ≠ 6 := by
    intro h
    rw [h] at hsf
    exact absurd hsf (by decide)
  have hsize : datagramSize s l c.datagramType (l.headerBytes + payload.length) =
      l.headerBytes + payload.length := if_neg hne
  have hheader : l.headerBytes ≤ 5 := headerBytes_le s
  have htrailer : l.trailerBytes ≤ 2 := trailerBytes_le s
  have hmax : l.maxDatagramSize = 255 - (l.headerBytes + l.trailerBytes) := rfl
  have hpay : payload.length ≤ l.maxDatagramSize := hpayload
  have hpacket : l.headerBytes + payload.length + l.trailerBytes ≤ maxPacketSize := by
    unfold maxPacketSize
    omega
  have hfits : Fits s l c.datagramType (l.headerBytes + payload.length) :=
    ⟨rfl,by omega,by rwa [hsize]⟩
  obtain ⟨hlen,hparse⟩ := parse_transmit hg iv myVc ms (buildPayload l outgoingPacket payload)
    incomingBuffer hignore hfits rfl
  have hbody : bodyOf s l c.datagramType (buildPayload l outgoingPacket payload).bytes
      (l.headerBytes + payload.length) = payload := by
    have hlong := length_bodyOf hfits (buildPayload l outgoingPacket payload)
    rw [hsize,Nat.add_sub_cancel_left] at hlong
    rw [← List.take_of_length_le (Nat.le_of_eq hlong)]
    exact bodyOf_payload outgoingPacket payload (by omega) (by omega)
  rw [hbody,dataOf,if_neg hne] at hparse
  refine ⟨?_,fun virtualCircuitList space hnumber => ?_⟩
  · change frame.length ≤ maxPacketSize
    rw [hlen,hsize]
    exact hpacket
  · refine rcvDatagram_accepted (d := ⟨c,timerOf s ms,payload⟩) ?_ hnumber
    rw [hparse]
    dsimp only
    split
    next hmode =>
      have hlong : payload.length ≤ maxPacketSize := by
        unfold maxPacketSize
        omega
      exact checkVcHeader_payload (hvc hmode) hlong
    next => rfl

/-- AES-GCM under the default key and an IV of zeros, on frames of one cipher
block. -/
def defaultGcm : Gcm where
  encrypt _ _ bs := bs.mapIdx fun i b => b ^^^ keyStream.getD i 0
  decrypt _ _ bs := bs.mapIdx fun i b => b ^^^ keyStream.getD i 0
where
  keyStream : List UInt8 := [0x49,0x45,0xb8,0x02,0x9d,0x69,0xff,0x6b,0x9c,0xff,0xaa,0x5f,0x5e,
    0xb8,0x23,0xf5]

theorem defaultGcm_inverse : defaultGcm.Inverse where
  length_encrypt _ _ bs := by simp [defaultGcm]
  decrypt_encrypt _ _ bs := by
    apply List.ext_getElem
    · simp [defaultGcm]
    · intro i hi hlt
      simp only [defaultGcm,List.getElem_mapIdx]
      rw [UInt8.xor_assoc,UInt8.xor_self,UInt8.xor_zero]

def zeroPacket : PacketBuffer := ⟨List.replicate maxPacketSize 0,PacketBuffer.size_zeros⟩

theorem frame_round_trip_data :
    let l := selectHeaderAndTrailerBytes defaultSettings
    let c : Control := ⟨.data,2,false,false⟩
    let frame := transmitDatagram defaultSettings l defaultGcm (List.replicate 12 0) c 400
      (buildPayload l zeroPacket [0x48,0x69]).bytes (l.headerBytes + 2)
    frame.length ≤ 255 ∧ ∀ virtualCircuitList space,
      NumberPasses defaultSettings virtualCircuitList space
        ⟨c,timerOf defaultSettings 400,[0x48,0x69]⟩ →
      (rcvDatagram defaultSettings l defaultGcm (List.replicate 12 0) 0 virtualCircuitList space
        (readData zeroPacket frame) frame.length).2 =
          (.datagram .data,some ⟨c,timerOf defaultSettings 400,[0x48,0x69]⟩) :=
  frame_round_trip defaultSettings defaultGcm defaultGcm_inverse _ ⟨.data,2,false,false⟩ 400
    [0x48,0x69] 0 zeroPacket zeroPacket (by decide) rfl (by decide) (fun h => absurd h (by decide))

end LoRaSerial.Codec
