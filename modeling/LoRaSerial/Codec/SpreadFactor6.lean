import LoRaSerial.Codec.RoundTrip
import LoRaSerial.P2P.Radio

namespace LoRaSerial.Codec
open P2P

/-- The datagrams the point-to-point code builds, with their payloads. -/
inductive P2PBuilds (l : Layout) : DatagramType → List UInt8 → Prop
  | findPartner (millis : BitVec 32) : P2PBuilds l .findPartner (millisBytes millis)
  | syncClocks (channelNumber : UInt8) (millis : BitVec 32) :
      P2PBuilds l .syncClocks (channelNumber :: millisBytes millis)
  | zeroAcks (millis : BitVec 32) : P2PBuilds l .zeroAcks (millisBytes millis)
  | heartbeat (millis : BitVec 32) : P2PBuilds l .heartbeat (millisBytes millis)
  | dataAck (millis : BitVec 32) : P2PBuilds l .dataAck (millisBytes millis)
  | data (packet : List UInt8) (h : packet.length ≤ l.maxDatagramSize) :
      P2PBuilds l .data packet
  | remoteCommand (packet : List UInt8) (h : packet.length ≤ l.maxDatagramSize) :
      P2PBuilds l .remoteCommand packet
  | remoteCommandResponse (packet : List UInt8) (h : packet.length ≤ l.maxDatagramSize) :
      P2PBuilds l .remoteCommandResponse packet

/-- The frame contains the payload, and the peer recovers the datagram from
it. -/
def Crosses (s : Settings) (g : Gcm) (iv : List UInt8) (c : Control) (ms : BitVec 16)
    (payload : List UInt8) (outgoingPacket incomingBuffer : PacketBuffer) : Prop :=
  let l := selectHeaderAndTrailerBytes s
  let out := (buildPayload l outgoingPacket payload).bytes
  let frame := transmitDatagram s l g iv c ms out (l.headerBytes + payload.length)
  payload <+: bodyOf s l c.datagramType out (l.headerBytes + payload.length) ∧
    parseDatagram s l g iv 0 (readData incomingBuffer frame) frame.length =
      .ok ⟨c,timerOf s ms,payload⟩

/-- The room the fixed size of a datagram type leaves behind the header. -/
def sf6Room (l : Layout) : DatagramType → Nat
  | .findPartner | .syncClocks | .zeroAcks => 4
  | .dataAck => 0
  | _ => l.maxDatagramSize

theorem sf6DatagramSize_room {s : Settings} {l : Layout} (hl : l = selectHeaderAndTrailerBytes s)
    (t : DatagramType) : sf6DatagramSize l t = l.headerBytes + sf6Room l t ∧
      sf6DatagramSize l t + l.trailerBytes ≤ maxPacketSize := by
  have hheader := headerBytes_le s
  have htrailer := trailerBytes_le s
  have hmax : l.maxDatagramSize = maxPacketSize - (l.headerBytes + l.trailerBytes) := by
    rw [hl]
    rfl
  rw [← hl] at hheader htrailer
  unfold maxPacketSize at *
  cases t <;> simp only [sf6DatagramSize,sf6Room,maxPacketSize,true_and] <;> omega

/-- A payload crosses exactly when it fits the room of its datagram type. -/
theorem crosses_iff_room (s : Settings) (g : Gcm) (hg : g.Inverse) (iv : List UInt8)
    (c : Control) (ms : BitVec 16) (payload : List UInt8)
    (outgoingPacket incomingBuffer : PacketBuffer) (hsf : s.radioSpreadFactor = 6)
    (hmode : s.operatingMode = .pointToPoint) (hignore : c.ignoreFrame = false)
    (hpayload : payload.length ≤ maxPacketSize) :
    Crosses s g iv c ms payload outgoingPacket incomingBuffer ↔
      payload.length ≤ sf6Room (selectHeaderAndTrailerBytes s) c.datagramType := by
  obtain ⟨l,hl⟩ : ∃ l, l = selectHeaderAndTrailerBytes s := ⟨_,rfl⟩
  obtain ⟨hroom,hpacket⟩ := sf6DatagramSize_room hl c.datagramType
  have hsize : datagramSize s l c.datagramType (l.headerBytes + payload.length) =
      sf6DatagramSize l c.datagramType := if_pos hsf
  have hfits : Fits s l c.datagramType (l.headerBytes + payload.length) :=
    ⟨hl,by omega,by rwa [hsize]⟩
  have hmin : l.minDatagramSize = l.headerBytes + l.trailerBytes := by
    rw [hl]
    rfl
  have hbyte : (UInt8.ofNat (l.headerBytes + payload.length - l.headerBytes)).toNat =
      payload.length := by
    rw [UInt8.toNat_ofNat',Nat.add_sub_cancel_left]
    apply Nat.mod_eq_of_lt
    unfold maxPacketSize at hpayload
    omega
  obtain ⟨hlen,hparse⟩ := parse_transmit hg iv 0 ms (buildPayload l outgoingPacket payload)
    incomingBuffer hignore hfits rfl
  rw [dataOf,if_pos hsf,hbyte,← hl,hlen,hsize] at hparse
  unfold Crosses
  dsimp only
  rw [← hl,hlen,hsize,hparse]
  by_cases hle : payload.length ≤ sf6Room l c.datagramType
  · have hbody : (bodyOf s l c.datagramType (buildPayload l outgoingPacket payload).bytes
        (l.headerBytes + payload.length)).take payload.length = payload :=
      bodyOf_payload outgoingPacket payload (by omega) (by omega)
    have hfit : payload.length + l.minDatagramSize ≤
        sf6DatagramSize l c.datagramType + l.trailerBytes := by omega
    simp only [hle,iff_true,hfit,if_true,hbody,hmode,reduceCtorEq,if_false,and_true]
    exact ⟨_,by nth_rewrite 1 [← hbody]; exact List.take_append_drop ..⟩
  · have hshort : ¬ payload.length + l.minDatagramSize ≤
        sf6DatagramSize l c.datagramType + l.trailerBytes := by omega
    simp only [hle,hshort,if_false,reduceCtorEq,and_false]

theorem P2PBuilds.length_le {s : Settings} {t : DatagramType} {payload : List UInt8}
    (h : P2PBuilds (selectHeaderAndTrailerBytes s) t payload) :
    payload.length ≤ maxPacketSize := by
  have hmax : (selectHeaderAndTrailerBytes s).maxDatagramSize ≤ maxPacketSize := Nat.sub_le _ _
  cases h with
  | data _ h => exact h.trans hmax
  | remoteCommand _ h => exact h.trans hmax
  | remoteCommandResponse _ h => exact h.trans hmax
  | _ => simp [millisBytes,maxPacketSize]

/-- At spread factor 6 a point-to-point datagram crosses exactly when it is
neither SYNC_CLOCKS nor DATA_ACK: their payloads of 5 and 4 bytes do not fit the
4 and 0 bytes their frames have room for. -/
theorem crosses_iff_type (s : Settings) (g : Gcm) (hg : g.Inverse) (iv : List UInt8)
    (c : Control) (ms : BitVec 16) (payload : List UInt8)
    (outgoingPacket incomingBuffer : PacketBuffer) (hsf : s.radioSpreadFactor = 6)
    (hmode : s.operatingMode = .pointToPoint) (hignore : c.ignoreFrame = false)
    (hbuild : P2PBuilds (selectHeaderAndTrailerBytes s) c.datagramType payload) :
    Crosses s g iv c ms payload outgoingPacket incomingBuffer ↔
      c.datagramType ≠ .syncClocks ∧ c.datagramType ≠ .dataAck := by
  have hheader := headerBytes_le s
  have htrailer := trailerBytes_le s
  have hmax : (selectHeaderAndTrailerBytes s).maxDatagramSize = maxPacketSize -
    ((selectHeaderAndTrailerBytes s).headerBytes +
      (selectHeaderAndTrailerBytes s).trailerBytes) := rfl
  have hfour : 4 ≤ (selectHeaderAndTrailerBytes s).maxDatagramSize := by
    unfold maxPacketSize at hmax
    omega
  rw [crosses_iff_room s g hg iv c ms payload outgoingPacket incomingBuffer hsf hmode hignore
    (hbuild.length_le)]
  generalize c.datagramType = t at hbuild ⊢
  cases hbuild with
  | syncClocks channelNumber millis => simp [sf6Room,millisBytes]
  | dataAck millis => simp [sf6Room,millisBytes]
  | findPartner millis => simp [sf6Room,millisBytes]
  | zeroAcks millis => simp [sf6Room,millisBytes]
  | heartbeat millis => simpa [sf6Room,millisBytes] using hfour
  | data packet h => simpa [sf6Room] using h
  | remoteCommand packet h => simpa [sf6Room] using h
  | remoteCommandResponse packet h => simpa [sf6Room] using h

/-- The default settings at spread factor 6. -/
def sf6Settings : Settings := { defaultSettings with radioSpreadFactor := 6 }

theorem crosses_iff_type_findPartner :
    Crosses sf6Settings defaultGcm (List.replicate 12 0) ⟨.findPartner,0,false,false⟩ 400
      (millisBytes 1000) zeroPacket zeroPacket ↔
        DatagramType.findPartner ≠ .syncClocks ∧ DatagramType.findPartner ≠ .dataAck :=
  crosses_iff_type sf6Settings defaultGcm defaultGcm_inverse _ ⟨.findPartner,0,false,false⟩ 400
    (millisBytes 1000) zeroPacket zeroPacket rfl rfl rfl (.findPartner 1000)

/-- Both frames reach the peer whole and are discarded for their length byte. -/
theorem sf6_discards_syncClocks_dataAck :
    (P2PBuilds (selectHeaderAndTrailerBytes sf6Settings) .syncClocks (0 :: millisBytes 1000) ∧
      ¬ Crosses sf6Settings defaultGcm (List.replicate 12 0) ⟨.syncClocks,0,false,false⟩ 400
        (0 :: millisBytes 1000) zeroPacket zeroPacket) ∧
    P2PBuilds (selectHeaderAndTrailerBytes sf6Settings) .dataAck (millisBytes 1000) ∧
      ¬ Crosses sf6Settings defaultGcm (List.replicate 12 0) ⟨.dataAck,0,false,false⟩ 400
        (millisBytes 1000) zeroPacket zeroPacket := by
  refine ⟨⟨.syncClocks 0 1000,?_⟩,.dataAck 1000,?_⟩
  · rw [crosses_iff_room _ _ defaultGcm_inverse _ _ _ _ _ _ rfl rfl rfl (by decide)]
    decide
  · rw [crosses_iff_room _ _ defaultGcm_inverse _ _ _ _ _ _ rfl rfl rfl (by decide)]
    decide

end LoRaSerial.Codec
