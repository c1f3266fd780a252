import LoRaSerial.Codec.Frame

namespace LoRaSerial.Codec

variable {s : Settings} {l : Layout} {g : Gcm} {iv : List UInt8} {myVc : UInt8}
variable {incomingBuffer buf : List UInt8} {n : Nat}

/-- The checks in front of the trailer: the length and the netID. -/
def RejectedBefore (s : Settings) (l : Layout) (buf : List UInt8) (n : Nat) : Prop :=
  n < l.minDatagramSize ∨ (s.netIdInHeader = true ∧ buf.getD 0 0 ≠ s.netID)

/-- The CRC of the decoded bytes in front of the trailer. -/
def frameCrc (buf : List UInt8) (n : Nat) : UInt16 := crc16 (buf.take (n - 2))

def HighByteMatches (buf : List UInt8) (n : Nat) : Prop :=
  buf.getD (n - 2) 0 = (frameCrc buf n >>> 8).toUInt8

def LowByteMatches (buf : List UInt8) (n : Nat) : Prop :=
  buf.getD (n - 1) 0 = (frameCrc buf n &&& 0xff).toUInt8

/-- The trailer is the CRC, high byte first. -/
def TrailerMatches (buf : List UInt8) (n : Nat) : Prop :=
  HighByteMatches buf n ∧ LowByteMatches buf n

theorem crcMismatch_iff :
    crcMismatch buf n = true ↔ ¬HighByteMatches buf n ∧ ¬LowByteMatches buf n := by
  simp [crcMismatch,HighByteMatches,LowByteMatches,frameCrc]

theorem receivedData_error {pos : Nat} {p : PacketType}
    (h : receivedData s l buf pos n = .error p) : p = .bad := by
  unfold receivedData at h
  split at h
  · dsimp only at h
    split at h
    · cases h
    · exact (Except.error.inj h).symm
  · cases h

theorem checkVcHeader_error {d : Received} {p : PacketType}
    (h : checkVcHeader myVc d = .error p) : p = .bad ∨ p = .notMine := by
  unfold checkVcHeader at h
  repeat' split at h
  all_goals cases h
  · exact .inl rfl
  · exact .inl rfl
  · exact .inr rfl
  · exact .inl rfl

theorem rcvNumber_ne_crcError (virtualCircuit : Bool) (vc : AckNumbers) (c : Control)
    (rxDataBytes : Nat) (space : FreeSpace) :
    (rcvNumber virtualCircuit vc c rxDataBytes space).2 ≠ .crcError := by
  have h := rcvNumber_check virtualCircuit vc c rxDataBytes space
  generalize rcvNumber virtualCircuit vc c rxDataBytes space = checked at h ⊢
  cases h <;> exact nofun

/-- A frame that gets as far as the trailer is a CRC error exactly if both of
its bytes are wrong. -/
theorem parseDatagram_crcError_iff (hcrc : s.enableCRC16 = true)
    (hearly : ¬RejectedBefore s l (decodeBuffer s g iv incomingBuffer n) n) :
    parseDatagram s l g iv myVc incomingBuffer n = .error .crcError ↔
      crcMismatch (decodeBuffer s g iv incomingBuffer n) n = true := by
  obtain ⟨hlong,hnet⟩ := not_or.mp hearly
  unfold parseDatagram
  dsimp only
  rw [if_neg hlong,if_neg hnet]
  by_cases hmismatch : crcMismatch (decodeBuffer s g iv incomingBuffer n) n = true
  · rw [if_pos ⟨hcrc,hmismatch⟩]
    exact iff_of_true rfl hmismatch
  rw [if_neg (fun h => hmismatch h.2)]
  refine iff_of_false ?_ hmismatch
  generalize Control.ofByte _ = c
  generalize hdata : receivedData s l _ _ n = data
  split
  · exact nofun
  cases data with
  | error p =>
    rw [receivedData_error hdata]
    exact nofun
  | ok data =>
    dsimp only
    split
    · intro h
      rcases checkVcHeader_error h with h' | h' <;> cases h'
    · exact nofun

theorem rcvDatagram_crcError_iff (virtualCircuitList : Fin 32 → AckNumbers) (space : FreeSpace) :
    (rcvDatagram s l g iv myVc virtualCircuitList space incomingBuffer n).2.1 = .crcError ↔
      parseDatagram s l g iv myVc incomingBuffer n = .error .crcError := by
  unfold rcvDatagram
  split
  next p hparse =>
    dsimp only
    rw [hparse]
    exact ⟨congrArg Except.error,Except.error.inj⟩
  next d hparse =>
    rw [hparse]
    refine iff_of_false ?_ nofun
    split
    · exact nofun
    · exact rcvNumber_ne_crcError _ _ _ _ _

/-- Past the CRC check: not rejected before it, and not by it. -/
def PastCrcCheck (s : Settings) (l : Layout) (g : Gcm) (iv : List UInt8) (myVc : UInt8)
    (virtualCircuitList : Fin 32 → AckNumbers) (space : FreeSpace)
    (incomingBuffer : List UInt8) (n : Nat) : Prop :=
  ¬RejectedBefore s l (decodeBuffer s g iv incomingBuffer n) n ∧
    (rcvDatagram s l g iv myVc virtualCircuitList space incomingBuffer n).2.1 ≠ .crcError

/-- Going past the CRC check means a right trailer exactly for the frames that
are rejected before, or whose two trailer bytes are both right or both wrong. -/
theorem crc_acceptance_iff (hcrc : s.enableCRC16 = true)
    (virtualCircuitList : Fin 32 → AckNumbers) (space : FreeSpace) :
    (PastCrcCheck s l g iv myVc virtualCircuitList space incomingBuffer n →
        TrailerMatches (decodeBuffer s g iv incomingBuffer n) n) ↔
      RejectedBefore s l (decodeBuffer s g iv incomingBuffer n) n ∨
        (HighByteMatches (decodeBuffer s g iv incomingBuffer n) n ↔
          LowByteMatches (decodeBuffer s g iv incomingBuffer n) n) := by
  by_cases hearly : RejectedBefore s l (decodeBuffer s g iv incomingBuffer n) n
  · exact iff_of_true (fun hpast => absurd hearly hpast.1) (.inl hearly)
  have hpast : PastCrcCheck s l g iv myVc virtualCircuitList space incomingBuffer n ↔
      ¬(¬HighByteMatches (decodeBuffer s g iv incomingBuffer n) n ∧
        ¬LowByteMatches (decodeBuffer s g iv incomingBuffer n) n) := by
    rw [PastCrcCheck,and_iff_right hearly,ne_eq,rcvDatagram_crcError_iff,
      parseDatagram_crcError_iff hcrc hearly,crcMismatch_iff]
  rw [hpast,TrailerMatches,or_iff_right hearly]
  tauto

/-- A DATA frame of one byte with its trailer, in the clear. -/
def plainFrame : List UInt8 := [192,3,0x90,0x01,0x41,0xaa,0x85]

/-- The same frame with a wrong last byte. -/
def damagedFrame : List UInt8 := [192,3,0x90,0x01,0x41,0xaa,0x84]

def noGcm : Gcm := ⟨fun _ _ bs => bs,fun _ _ bs => bs⟩

def anySpace : FreeSpace := ⟨255,255,false⟩

theorem crc_acceptance_iff_plainFrame :
    let s : Settings := { encryptData := false }
    PastCrcCheck s (selectHeaderAndTrailerBytes s) noGcm [] 0 (fun _ => .zero) anySpace
        plainFrame 7 →
      TrailerMatches (decodeBuffer s noGcm [] plainFrame 7) 7 := by
  intro s
  refine (crc_acceptance_iff rfl _ _).mpr (.inr (iff_of_true ?_ ?_))
  · exact (by decide +kernel : plainFrame.getD 5 0 = (frameCrc plainFrame 7 >>> 8).toUInt8)
  · exact (by decide +kernel : plainFrame.getD 6 0 = (frameCrc plainFrame 7 &&& 0xff).toUInt8)

/-- The frame with the wrong byte is taken as data. -/
theorem damagedFrame_accepted :
    let s : Settings := { encryptData := false }
    PastCrcCheck s (selectHeaderAndTrailerBytes s) noGcm [] 0 (fun _ => .zero) anySpace
        damagedFrame 7 ∧
      ¬TrailerMatches (decodeBuffer s noGcm [] damagedFrame 7) 7 ∧
      (rcvDatagram s (selectHeaderAndTrailerBytes s) noGcm [] 0 (fun _ => .zero) anySpace
        damagedFrame 7).2.1 = .datagram .data := by
  intro s
  have haccepted : (rcvDatagram s (selectHeaderAndTrailerBytes s) noGcm [] 0 (fun _ => .zero)
      anySpace damagedFrame 7).2.1 = .datagram .data := by decide +kernel
  refine ⟨⟨?_,by rw [haccepted]; exact nofun⟩,?_,haccepted⟩
  · exact not_or.mpr ⟨by decide +kernel,fun h => h.2 (by decide +kernel)⟩
  · exact fun h => absurd h.2
      (by decide +kernel : damagedFrame.getD 6 0 ≠ (frameCrc damagedFrame 7 &&& 0xff).toUInt8)

end LoRaSerial.Codec
