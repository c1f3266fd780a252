import LoRaSerial.Codec.RoundTrip
import LoRaSerial.P2P.Link

namespace LoRaSerial.Bridge
open Codec Overlay
open P2P (Frame Reception)

/-- What two radios share: the settings, the cipher and the IV that
generateHopTable sets. -/
structure Channel where
  settings : Settings
  gcm : Gcm
  iv : List UInt8

/-- Point-to-point mode with explicit headers, and a cipher that can be undone. -/
structure Channel.Usable (ch : Channel) : Prop where
  mode : ch.settings.operatingMode = .pointToPoint
  spreadFactor : ch.settings.radioSpreadFactor ≠ 6
  gcm : ch.gcm.Inverse

variable {ch : Channel} {f : Frame} {ms : BitVec 16} {stale incomingBuffer : PacketBuffer}

def Channel.layout (ch : Channel) : Layout := selectHeaderAndTrailerBytes ch.settings

/-- The bytes of a frame on the air. `stale` is what outgoingPacket had before
the payload. -/
def Channel.encode (ch : Channel) (f : Frame) (ms : BitVec 16) (stale : PacketBuffer) :
    List UInt8 :=
  transmitDatagram ch.settings ch.layout ch.gcm ch.iv f.control ms
    (buildPayload ch.layout stale f.payload).bytes (ch.layout.headerBytes + f.payload.length)

/-- What rcvDatagram recovers from received bytes, before the number switch. -/
def Channel.decode (ch : Channel) (incomingBuffer : PacketBuffer) (bytes : List UInt8) :
    Reception :=
  match parseDatagram ch.settings ch.layout ch.gcm ch.iv 0 (readData incomingBuffer bytes)
      bytes.length with
  | .ok d => .frame ⟨d.control,d.data⟩
  | .error .crcError => .damaged .crcError
  | .error .netIdMismatch => .damaged .netIdMismatch
  | .error _ => .damaged .bad

/-- The payload fits into a frame. -/
def Channel.Holds (ch : Channel) (payload : List UInt8) : Prop :=
  payload.length ≤ ch.layout.maxDatagramSize

theorem Channel.layout_packet (ch : Channel) :
    ch.layout.headerBytes + ch.layout.maxDatagramSize + ch.layout.trailerBytes = maxPacketSize :=
  (selected ch.settings).packet

theorem Channel.maxDatagramSize_bounds (ch : Channel) :
    248 ≤ ch.layout.maxDatagramSize ∧ ch.layout.maxDatagramSize ≤ 255 := by
  have hheader := headerBytes_le ch.settings
  have htrailer := trailerBytes_le ch.settings
  have hpacket := ch.layout_packet
  simp only [Channel.layout,maxPacketSize] at hheader htrailer hpacket ⊢
  omega

namespace Channel.Usable

variable (h : ch.Usable)
include h

theorem datagramSize_eq (t : DatagramType) (n : Nat) :
    datagramSize ch.settings ch.layout t n = n := if_neg h.spreadFactor

theorem fits (hf : ch.Holds f.payload) (t : DatagramType) :
    Fits ch.settings ch.layout t (ch.layout.headerBytes + f.payload.length) := by
  have hpacket := ch.layout_packet
  unfold Channel.Holds at hf
  refine ⟨rfl,?_,?_⟩
  · rw [h.datagramSize_eq]
    exact Nat.le_add_right _ _
  · rw [h.datagramSize_eq]
    omega

theorem body_eq (hf : ch.Holds f.payload) (t : DatagramType) :
    bodyOf ch.settings ch.layout t (buildPayload ch.layout stale f.payload).bytes
      (ch.layout.headerBytes + f.payload.length) = f.payload := by
  have hpacket := ch.layout_packet
  unfold Channel.Holds at hf
  have hlong := length_bodyOf (h.fits hf t) (buildPayload ch.layout stale f.payload)
  rw [h.datagramSize_eq,Nat.add_sub_cancel_left] at hlong
  rw [← List.take_of_length_le (Nat.le_of_eq hlong)]
  refine bodyOf_payload stale f.payload ?_ ?_
  · rw [h.datagramSize_eq]
  · rw [h.datagramSize_eq]
    omega

/-- A frame comes out of the air as it went in. -/
theorem decode_encode (hf : ch.Holds f.payload) (hignore : f.control.ignoreFrame = false) :
    ch.decode incomingBuffer (ch.encode f ms stale) = .frame f := by
  have hparse := (parse_transmit h.gcm ch.iv 0 ms (buildPayload ch.layout stale f.payload)
    incomingBuffer hignore (h.fits hf f.control.datagramType) rfl).2
  have hmode : ¬ch.settings.operatingMode = .virtualCircuit := by
    rw [h.mode]
    decide
  rw [h.body_eq hf,dataOf,if_neg h.spreadFactor] at hparse
  dsimp only at hparse
  rw [if_neg hmode] at hparse
  unfold Channel.decode Channel.encode
  rw [hparse]

end Channel.Usable

/-- A parsed datagram is not one to be ignored. -/
theorem ignoreFrame_of_parse {s : Settings} {l : Layout} {g : Gcm} {iv : List UInt8} {myVc : UInt8}
    {buf : List UInt8} {n : Nat} {d : Received} (h : parseDatagram s l g iv myVc buf n = .ok d) :
    (Control.ofByte ((decodeBuffer s g iv buf n).getD (if s.netIdInHeader then 1 else 0) 0)
      ).ignoreFrame = false := by
  by_contra hne
  have hignore := (Bool.not_eq_false _).mp hne
  unfold parseDatagram at h
  dsimp only at h
  rw [if_pos hignore] at h
  split at h
  · cases h
  · split at h
    · cases h
    · split at h <;> cases h

/-- A frame that is to be ignored is not recovered. -/
theorem Channel.Usable.decode_ignored (h : ch.Usable) (hf : ch.Holds f.payload)
    (hignore : f.control.ignoreFrame = true) :
    ∃ d, ch.decode incomingBuffer (ch.encode f ms stale) = .damaged d := by
  let l := ch.layout
  let out := buildPayload l stale f.payload
  let endOfTxData := l.headerBytes + f.payload.length
  have hfits := h.fits hf f.control.datagramType
  have hsize := h.datagramSize_eq f.control.datagramType endOfTxData
  have hplain := plainBuffer_take hfits ms out rfl
  have hbytes : transmitDatagram ch.settings l ch.gcm ch.iv f.control ms out.bytes
      endOfTxData = _ := transmitDatagram_encode h.gcm out.size rfl hplain hfits.packet
  let front := headerOf ch.settings f.control ms (UInt8.ofNat (endOfTxData - l.headerBytes)) ++
    bodyOf ch.settings l f.control.datagramType out.bytes endOfTxData
  let plain := front ++ trailerOf ch.settings front
  have hlen : plain.length = endOfTxData + l.trailerBytes := by
    have hbody : (bodyOf ch.settings l f.control.datagramType out.bytes endOfTxData).length =
        endOfTxData - l.headerBytes :=
      (length_bodyOf hfits out).trans (congrArg (· - l.headerBytes) hsize)
    simp only [plain,front,List.length_append,length_headerOf,length_trailerOf,hbody]
    change l.headerBytes + (endOfTxData - l.headerBytes) + l.trailerBytes = _
    omega
  have hframe : ch.encode f ms stale = Codec.encode ch.settings ch.gcm ch.iv plain := hbytes
  have hcoded : (ch.encode f ms stale).length = plain.length := by
    rw [hframe,length_encode h.gcm]
  have hin : (ch.encode f ms stale).length ≤ incomingBuffer.bytes.length := by
    have hpacket := hfits.packet
    rw [hsize] at hpacket
    rw [incomingBuffer.size,hcoded,hlen]
    exact hpacket
  have hdecoded : (decodeBuffer ch.settings ch.gcm ch.iv
      (readData incomingBuffer (ch.encode f ms stale)) (ch.encode f ms stale).length).take
      (ch.encode f ms stale).length = plain := by
    refine take_decodeBuffer h.gcm (by rwa [readData,length_overlay]) hcoded.symm ?_
    rw [readData,take_overlay_zero _ _ hin]
    exact hframe
  have hcontrol : (decodeBuffer ch.settings ch.gcm ch.iv
      (readData incomingBuffer (ch.encode f ms stale)) (ch.encode f ms stale).length).getD
      (if ch.settings.netIdInHeader then 1 else 0) 0 = f.control.byte := by
    rw [← List.take_append_drop (ch.encode f ms stale).length (decodeBuffer _ _ _ _ _),hdecoded]
    cases hid : ch.settings.netIdInHeader <;> simp [plain,front,headerOf,hid]
  unfold Channel.decode
  split
  next d hparse =>
    have hclear := ignoreFrame_of_parse hparse
    rw [hcontrol,Control.ofByte_byte,hignore] at hclear
    cases hclear
  next => exact ⟨_,rfl⟩
  next => exact ⟨_,rfl⟩
  next => exact ⟨_,rfl⟩

end LoRaSerial.Bridge
