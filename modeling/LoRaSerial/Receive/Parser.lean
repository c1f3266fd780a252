import LoRaSerial.Codec.Frame
import LoRaSerial.Lib.Reading
import LoRaSerial.PacketBuffer

namespace LoRaSerial.Receive
open Reading Reading.Prog
open Codec (Gcm Received channelTimerOfBytes checkVcHeader crcMismatch decodeBuffer maxVc
  numberIndex parseDatagram receivedData vcBroadcast vcUnassigned)

/-- rxData, rxVcData (as indexes into incomingBuffer) and rxDataBytes, with what
the header fields hold. -/
structure Frame where
  control : Control
  msToNextHopRemote : Option (BitVec 16)
  rxData : Nat
  rxDataBytes : UInt8
  rxVcData : Nat
  rxSrcVc : UInt8
  deriving DecidableEq, Repr

/-- incomingBuffer[k]. -/
def contents (bytes : List UInt8) (k : Nat) : UInt8 := bytes.getD k 0

/-- dumpBuffer of `length` bytes, when the settings ask for it. -/
def dumpBuffer (display : Bool) (data length : Nat) : Prog UInt8 Unit :=
  if display then do
    let _ ← cells data length
    pure ()
  else pure ()

/-- The settings that have received bytes displayed. -/
def displays (s : Settings) : Bool :=
  s.debugging.printPktData || s.debugging.debugReceive || s.debugging.debugDatagrams

/-- The received bytes are displayed, then unscrambled and decrypted in place. -/
def beforeDecode (s : Settings) (rxDataBytes : UInt8) : Prog UInt8 Unit := do
  dumpBuffer s.debugging.printRfData 0 rxDataBytes.toNat
  dumpBuffer s.dataScrambling 0 rxDataBytes.toNat
  dumpBuffer s.encryptData 0 rxDataBytes.toNat

/-- The first few bytes, then the whole of the decoded frame. -/
def displayDecoded (s : Settings) (rxDataBytes : UInt8) : Prog UInt8 Unit := do
  dumpBuffer s.debugging.debugReceive 0 14
  dumpBuffer ((s.dataScrambling || s.encryptData) && s.debugging.printRfData) 0 rxDataBytes.toNat

/-- All packets must include the control header. -/
def checkSize (s : Settings) (l : Layout) (rxDataBytes : UInt8) :
    Prog UInt8 (Except PacketType Unit) :=
  if rxDataBytes.toNat < l.minDatagramSize then do
    dumpBuffer (displays s && s.debugging.printRfData) 0 rxDataBytes.toNat
    pure (.error .bad)
  else pure (.ok ())

/-- Verify the netID if necessary. The result is rxData. -/
def checkNetId (s : Settings) (rxDataBytes : UInt8) : Prog UInt8 (Except PacketType Nat) :=
  if s.netIdInHeader then do
    let receivedNetID ← cell 0
    if receivedNetID ≠ s.netID then do
      dumpBuffer (s.debugging.debugReceive && s.debugging.printPktData) 0 rxDataBytes.toNat
      pure (.error .netIdMismatch)
    else pure (.ok 1)
  else pure (.ok 0)

/-- Process the trailer. The low byte is looked at only if the high byte is
wrong. -/
def checkCrc (s : Settings) (rxDataBytes : UInt8) : Prog UInt8 (Except PacketType Unit) :=
  if s.enableCRC16 then do
    let data ← cells 0 (rxDataBytes.toNat - 2)
    let crc := Codec.crc16 data
    let high ← cell (rxDataBytes.toNat - 2)
    if high ≠ (crc >>> 8).toUInt8 then do
      let low ← cell (rxDataBytes.toNat - 1)
      if low ≠ (crc &&& 0xff).toUInt8 then do
        dumpBuffer (displays s) (rxDataBytes.toNat - 2) 2
        dumpBuffer (displays s && s.debugging.printRfData) 0 rxDataBytes.toNat
        pure (.error .crcError)
      else pure (.ok ())
    else pure (.ok ())
  else pure (.ok ())

/-- Get the control byte, and display the CRC behind it. -/
def getControl (s : Settings) (rxDataBytes : UInt8) (rxData : Nat) :
    Prog UInt8 (Except PacketType Control) := do
  let b ← cell rxData
  if (Control.ofByte b).ignoreFrame then pure (.error .bad)
  else do
    dumpBuffer (s.enableCRC16 && s.debugging.debugReceive) (rxDataBytes.toNat - 2) 2
    pure (.ok (Control.ofByte b))

/-- msToNextHopRemote, if hopping is enabled, and rxData behind it. -/
def getChannelTimer (s : Settings) (rxData : Nat) :
    Prog UInt8 (Except PacketType (Option (BitVec 16) × Nat)) :=
  if s.frequencyHop then do
    let low ← cell rxData
    let high ← cell (rxData + 1)
    pure (.ok (some (channelTimerOfBytes low high),rxData + 2))
  else pure (.ok (none,rxData))

/-- Get the spread factor 6 length, or reduce the received length. The results
are rxData and rxDataBytes. -/
def getLength (s : Settings) (l : Layout) (rxDataBytes : UInt8) (rxData : Nat) :
    Prog UInt8 (Except PacketType (Nat × UInt8)) :=
  if s.radioSpreadFactor = 6 then do
    let length ← cell rxData
    if length.toNat + l.minDatagramSize ≤ rxDataBytes.toNat then pure (.ok (rxData + 1,length))
    else pure (.error .bad)
  else pure (.ok (rxData,rxDataBytes - UInt8.ofNat l.minDatagramSize))

/-- Parse the virtual circuit header. The results are rxVcData and rxSrcVc. -/
def getVcHeader (s : Settings) (myVc : UInt8) (rxData : Nat) (rxDataBytes : UInt8) :
    Prog UInt8 (Except PacketType (Nat × UInt8)) :=
  if s.operatingMode = .virtualCircuit then
    if rxDataBytes.toNat < 3 then pure (.error .bad)
    else do
      let rxDestVc ← cell (rxData + 1)
      let rxSrcVc ← cell (rxData + 2)
      let length ← cell rxData
      if rxSrcVc ≠ vcUnassigned ∧ maxVc ≤ rxSrcVc.toNat then do
        dumpBuffer ((s.debugging.debugReceive || s.debugging.debugDatagrams) &&
          s.debugging.printRfData) 0 rxDataBytes.toNat
        pure (.error .bad)
      else if length ≠ rxDataBytes then pure (.error .bad)
      else if rxDestVc ≠ vcBroadcast ∧ rxDestVc ≠ myVc then do
        dumpBuffer ((s.debugging.debugReceive || s.debugging.debugDatagrams) &&
          s.debugging.printPktData) 0 rxDataBytes.toNat
        pure (.error .notMine)
      else pure (.ok (rxData + 3,rxSrcVc))
  else pure (.ok (rxData,0))

/-- The parser, on the decoded bytes. -/
def parse (s : Settings) (l : Layout) (myVc rxDataBytes : UInt8) :
    Prog UInt8 (Except PacketType Frame) :=
  displayDecoded s rxDataBytes >>= fun _ =>
  (checkSize s l rxDataBytes).attempt fun _ =>
  (checkNetId s rxDataBytes).attempt fun rxData =>
  (checkCrc s rxDataBytes).attempt fun _ =>
  (getControl s rxDataBytes rxData).attempt fun control =>
  (getChannelTimer s (rxData + 1)).attempt fun (msToNextHopRemote,rxData) =>
  (getLength s l rxDataBytes rxData).attempt fun (rxData,rxDataBytes) =>
  (getVcHeader s myVc rxData rxDataBytes).attempt fun (rxVcData,rxSrcVc) =>
  pure (.ok ⟨control,msToNextHopRemote,rxData,rxDataBytes,rxVcData,rxSrcVc⟩)

/-- The entry of virtualCircuitList that vc points to, outside multipoint mode. -/
def Frame.numberIndex (s : Settings) (f : Frame) : Option (Fin 32) :=
  match s.operatingMode with
  | .multipoint => none
  | .pointToPoint => some 0
  | .virtualCircuit => if h : f.rxSrcVc.toNat < 32 then some ⟨f.rxSrcVc.toNat,h⟩ else none

/-- Verify the packet number last. -/
def checkNumber (s : Settings) (virtualCircuitList : Fin 32 → AckNumbers) (space : FreeSpace)
    (f : Frame) : PacketType :=
  match f.numberIndex s with
  | none => .datagram f.control.datagramType
  | some i => (rcvNumber (s.operatingMode == .virtualCircuit) (virtualCircuitList i) f.control
      f.rxDataBytes.toNat space).2

/-- All of rcvDatagram on the decoded bytes; an accepted datagram is displayed. -/
def rcvDatagram (s : Settings) (l : Layout) (myVc : UInt8)
    (virtualCircuitList : Fin 32 → AckNumbers) (space : FreeSpace) (rxDataBytes : UInt8) :
    Prog UInt8 (Except PacketType (Frame × PacketType)) :=
  (parse s l myVc rxDataBytes).attempt fun f => do
    let packetType := checkNumber s virtualCircuitList space f
    dumpBuffer (packetType == .datagram f.control.datagramType && s.debugging.printPktData)
      f.rxData f.rxDataBytes.toNat
    pure (.ok (f,packetType))

variable {s : Settings} {l : Layout} {buf : Nat → UInt8} {rxDataBytes : UInt8}

@[simp] theorem within_dumpBuffer {n : Nat} (display : Bool) (data length : Nat) :
    Within n buf (dumpBuffer display data length) ↔
      (display = true → length = 0 ∨ data + length ≤ n) := by
  unfold dumpBuffer
  rw [within_ite]
  split
  next h => simp [h]
  next h => simp [h]

@[simp] theorem within_dumpFrame (display : Bool) :
    Within rxDataBytes.toNat buf (dumpBuffer display 0 rxDataBytes.toNat) := by
  rw [within_dumpBuffer]
  omega

theorem within_checkSize : Within rxDataBytes.toNat buf (checkSize s l rxDataBytes) := by
  unfold checkSize
  rw [within_ite]
  split
  · exact (within_bind _ _).mpr ⟨within_dumpFrame _,within_pure _⟩
  · exact within_pure _

theorem run_checkSize (u : Unit) :
    (checkSize s l rxDataBytes).run buf = .ok u ↔ l.minDatagramSize ≤ rxDataBytes.toNat := by
  unfold checkSize
  rw [run_ite]
  split
  next h =>
    rw [run_bind,run_pure]
    exact iff_of_false nofun (Nat.not_le.mpr h)
  next h => exact iff_of_true rfl (Nat.le_of_not_lt h)

theorem within_checkNetId (h : 0 < rxDataBytes.toNat) :
    Within rxDataBytes.toNat buf (checkNetId s rxDataBytes) := by
  unfold checkNetId
  rw [within_ite]
  split
  · refine (within_bind _ _).mpr ⟨(within_cell _).mpr h,?_⟩
    rw [within_ite]
    split
    · exact (within_bind _ _).mpr ⟨within_dumpFrame _,within_pure _⟩
    · exact within_pure _
  · exact within_pure _

theorem run_checkNetId :
    (checkNetId s rxDataBytes).run buf =
      if s.netIdInHeader ∧ buf 0 ≠ s.netID then .error .netIdMismatch
      else .ok (if s.netIdInHeader then 1 else 0) := by
  unfold checkNetId
  cases s.netIdInHeader with
  | false => rfl
  | true =>
    by_cases h : buf 0 = s.netID
    · simp [h]
    · simp [h]

theorem within_checkCrc (h : s.enableCRC16 = true → 2 ≤ rxDataBytes.toNat) :
    Within rxDataBytes.toNat buf (checkCrc s rxDataBytes) := by
  unfold checkCrc
  rw [within_ite]
  split
  next hcrc =>
    have htrailer := h hcrc
    simp only [within_bind,within_ite,within_cells,within_cell,within_dumpBuffer,within_pure,
      and_true]
    refine ⟨by omega,by omega,?_⟩
    split
    · refine ⟨by omega,?_⟩
      split
      · exact ⟨fun _ => by omega,fun _ => by omega⟩
      · trivial
    · trivial
  · exact within_pure _

theorem within_getControl {rxData : Nat} (hcontrol : rxData < rxDataBytes.toNat)
    (h : s.enableCRC16 = true → 2 ≤ rxDataBytes.toNat) :
    Within rxDataBytes.toNat buf (getControl s rxDataBytes rxData) := by
  unfold getControl
  simp only [within_bind,within_ite,within_cell,within_dumpBuffer,within_pure,and_true]
  refine ⟨hcontrol,?_⟩
  split
  · trivial
  · intro hdisplay
    have htrailer := h (Bool.and_eq_true_iff.mp hdisplay).1
    omega

theorem within_getChannelTimer {rxData : Nat} {n : Nat}
    (h : s.frequencyHop = true → rxData + 2 ≤ n) :
    Within n buf (getChannelTimer s rxData) := by
  unfold getChannelTimer
  rw [within_ite]
  split
  next hhop =>
    have hroom := h hhop
    simp only [within_bind,within_cell,within_pure,and_true]
    omega
  · exact within_pure _

theorem within_getLength {rxData : Nat}
    (h : s.radioSpreadFactor = 6 → rxData < rxDataBytes.toNat) :
    Within rxDataBytes.toNat buf (getLength s l rxDataBytes rxData) := by
  unfold getLength
  rw [within_ite]
  split
  next hsf =>
    refine (within_bind _ _).mpr ⟨(within_cell _).mpr (h hsf),?_⟩
    rw [within_ite]
    split <;> exact within_pure _
  · exact within_pure _

theorem within_getVcHeader {n rxData : Nat} {myVc : UInt8}
    (h : rxData + rxDataBytes.toNat ≤ n) :
    Within n buf (getVcHeader s myVc rxData rxDataBytes) := by
  unfold getVcHeader
  simp only [within_bind,within_ite,within_cell,within_dumpBuffer,within_pure,and_true]
  split
  · split
    · trivial
    · refine ⟨by omega,by omega,by omega,?_⟩
      split
      · exact fun _ => by omega
      · split
        · trivial
        · split
          · exact fun _ => by omega
          · trivial
  · trivial

/-- The results, when a part goes on. -/
theorem checkNetId_ok {rxData : Nat} (h : (checkNetId s rxDataBytes).run buf = .ok rxData) :
    rxData = if s.netIdInHeader then 1 else 0 := by
  rw [run_checkNetId] at h
  split at h
  · cases h
  · exact (Except.ok.inj h).symm

theorem getChannelTimer_ok {rxData : Nat} {r : Option (BitVec 16) × Nat}
    (h : (getChannelTimer s rxData).run buf = .ok r) :
    r.2 = rxData + if s.frequencyHop then 2 else 0 := by
  unfold getChannelTimer at h
  rw [run_ite] at h
  split at h
  next hhop =>
    rw [if_pos hhop,← Except.ok.inj h]
  next hhop =>
    rw [if_neg hhop,← Except.ok.inj h]
    rfl

/-- The subtraction of 8 bits does not wrap behind the size check, and a length
byte is compared with the received length. -/
theorem getLength_ok {rxData : Nat} {r : Nat × UInt8}
    (hmin : l.minDatagramSize ≤ rxDataBytes.toNat)
    (h : (getLength s l rxDataBytes rxData).run buf = .ok r) :
    r.1 = (rxData + if s.radioSpreadFactor = 6 then 1 else 0) ∧
      if s.radioSpreadFactor = 6 then r.2.toNat + l.minDatagramSize ≤ rxDataBytes.toNat
      else r.2.toNat + l.minDatagramSize = rxDataBytes.toNat := by
  have hbyte := rxDataBytes.toNat_lt
  unfold getLength at h
  rw [run_ite] at h
  split at h
  next hsf =>
    rw [run_bind,run_ite,run_cell] at h
    split at h
    next hle =>
      rw [← Except.ok.inj h,if_pos hsf,if_pos hsf]
      exact ⟨rfl,hle⟩
    · cases h
  next hsf =>
    rw [← Except.ok.inj h,if_neg hsf,if_neg hsf]
    refine ⟨rfl,?_⟩
    have hof : (UInt8.ofNat l.minDatagramSize).toNat = l.minDatagramSize :=
      UInt8.toNat_ofNat_of_lt' (Nat.lt_of_le_of_lt hmin hbyte)
    have hsub : (rxDataBytes - UInt8.ofNat l.minDatagramSize).toNat =
        rxDataBytes.toNat - l.minDatagramSize := by
      rw [UInt8.toNat_sub_of_le _ _ (by rw [UInt8.le_iff_toNat_le,hof]; exact hmin),hof]
    dsimp only
    omega

/-- In virtual circuit mode the header is there, and rxVcData is behind it. -/
theorem getVcHeader_ok {rxData : Nat} {myVc : UInt8} {r : Nat × UInt8}
    (h : (getVcHeader s myVc rxData rxDataBytes).run buf = .ok r) :
    if s.operatingMode = .virtualCircuit then r.1 = rxData + 3 ∧ 3 ≤ rxDataBytes.toNat
    else r.1 = rxData := by
  unfold getVcHeader at h
  rw [run_ite] at h
  split at h
  next hvc =>
    rw [if_pos hvc]
    rw [run_ite] at h
    split at h
    · cases h
    next hlen =>
      simp only [run_bind,run_ite,run_cell,run_pure] at h
      repeat' split at h
      all_goals cases h
      exact ⟨rfl,Nat.le_of_not_lt hlen⟩
  next hvc =>
    rw [if_neg hvc,← Except.ok.inj h]

/-- The slice behind the header ends before the trailer. Without a length byte
it is all that lies between. -/
structure InsideFrame (s : Settings) (rxDataBytes : UInt8) (f : Frame) : Prop where
  header : f.rxData = (selectHeaderAndTrailerBytes s).headerBytes
  trailer : f.rxData + f.rxDataBytes.toNat + (selectHeaderAndTrailerBytes s).trailerBytes ≤
    rxDataBytes.toNat
  exact : s.radioSpreadFactor ≠ 6 →
    f.rxData + f.rxDataBytes.toNat + (selectHeaderAndTrailerBytes s).trailerBytes =
      rxDataBytes.toNat
  vcHeader : s.operatingMode = .virtualCircuit →
    f.rxVcData = f.rxData + 3 ∧ 3 ≤ f.rxDataBytes.toNat

theorem parse_ok {myVc : UInt8} {f : Frame}
    (h : (parse s (selectHeaderAndTrailerBytes s) myVc rxDataBytes).run buf = .ok f) :
    InsideFrame s rxDataBytes f := by
  unfold parse at h
  rw [run_bind] at h
  obtain ⟨u,hsize,h⟩ := attempt_ok.mp h
  obtain ⟨pos,hnet,h⟩ := attempt_ok.mp h
  obtain ⟨_,_,h⟩ := attempt_ok.mp h
  obtain ⟨c,-,h⟩ := attempt_ok.mp h
  obtain ⟨⟨timer,pos'⟩,htimer,h⟩ := attempt_ok.mp h
  obtain ⟨⟨rxData,length⟩,hlength,h⟩ := attempt_ok.mp h
  obtain ⟨⟨rxVcData,rxSrcVc⟩,hvc,h⟩ := attempt_ok.mp h
  have hmin := (run_checkSize u).mp hsize
  have hpos := checkNetId_ok hnet
  have hpos' := getChannelTimer_ok htimer
  obtain ⟨hrxData,hle⟩ := getLength_ok hmin hlength
  have hheader := getVcHeader_ok hvc
  cases h
  dsimp only at hpos' hrxData hle hheader
  have hlayout : (selectHeaderAndTrailerBytes s).minDatagramSize =
    (selectHeaderAndTrailerBytes s).headerBytes +
      (selectHeaderAndTrailerBytes s).trailerBytes := rfl
  have hbytes : rxData = (selectHeaderAndTrailerBytes s).headerBytes := by
    rw [hrxData,hpos',hpos]
    rfl
  rw [hlayout] at hle
  refine ⟨hbytes,?_,?_,?_⟩
  · dsimp only
    split at hle <;> omega
  · intro hsf
    rw [if_neg hsf] at hle
    dsimp only
    omega
  · intro hmode
    rwa [if_pos hmode] at hheader

/-- Apart from the first bytes that are displayed, the parser reads received
bytes only. -/
theorem within_parse (myVc : UInt8) :
    Within rxDataBytes.toNat buf (parse s (selectHeaderAndTrailerBytes s) myVc rxDataBytes) ↔
      (s.debugging.debugReceive = true → 14 ≤ rxDataBytes.toNat) := by
  have hdisplay : Within rxDataBytes.toNat buf (displayDecoded s rxDataBytes) ↔
      (s.debugging.debugReceive = true → 14 ≤ rxDataBytes.toNat) := by
    unfold displayDecoded
    rw [within_bind,and_iff_left (within_dumpFrame _),within_dumpBuffer]
    simp
  unfold parse
  rw [within_bind,hdisplay]
  refine and_iff_left ((within_attempt _ _).mpr ⟨within_checkSize,fun u hsize => ?_⟩)
  have hmin := (run_checkSize u).mp hsize
  have htrailer : s.enableCRC16 = true → (selectHeaderAndTrailerBytes s).trailerBytes = 2 :=
    fun hcrc => by simp [selectHeaderAndTrailerBytes,hcrc]
  have hheader : (selectHeaderAndTrailerBytes s).minDatagramSize =
      (if s.netIdInHeader then 1 else 0) + 1 + (if s.frequencyHop then 2 else 0) +
        (if s.radioSpreadFactor = 6 then 1 else 0) +
          (selectHeaderAndTrailerBytes s).trailerBytes := rfl
  refine (within_attempt _ _).mpr ⟨within_checkNetId (by omega),fun pos hnet => ?_⟩
  have hpos := checkNetId_ok hnet
  refine (within_attempt _ _).mpr ⟨within_checkCrc fun hcrc => ?_,fun _ _ => ?_⟩
  · have := htrailer hcrc
    omega
  refine (within_attempt _ _).mpr ⟨within_getControl (by omega) fun hcrc => ?_,fun _ _ => ?_⟩
  · have := htrailer hcrc
    omega
  refine (within_attempt _ _).mpr ⟨within_getChannelTimer fun hhop => ?_,fun r htimer => ?_⟩
  · rw [if_pos hhop] at hheader
    omega
  have hpos' := getChannelTimer_ok htimer
  refine (within_attempt _ _).mpr ⟨within_getLength fun hsf => ?_,fun r' hlength => ?_⟩
  · rw [if_pos hsf] at hheader
    omega
  obtain ⟨hrxData,hle⟩ := getLength_ok hmin hlength
  refine (within_attempt _ _).mpr ⟨within_getVcHeader ?_,fun _ _ => within_pure _⟩
  split at hle <;> omega

variable {bytes : List UInt8}

theorem starts_contents : Starts (contents bytes) bytes := by
  intro k hk
  unfold contents
  rw [List.getD_eq_getElem?_getD,List.getElem?_eq_getElem hk]
  rfl

theorem run_checkCrc (hn : rxDataBytes.toNat ≤ bytes.length) :
    (checkCrc s rxDataBytes).run (contents bytes) =
      if s.enableCRC16 ∧ crcMismatch bytes rxDataBytes.toNat then .error .crcError
      else .ok () := by
  have hdata : (cells 0 (rxDataBytes.toNat - 2)).run (contents bytes) =
      bytes.take (rxDataBytes.toNat - 2) := run_cells_slice starts_contents (by omega)
  unfold checkCrc crcMismatch
  cases s.enableCRC16 with
  | false => rfl
  | true =>
    rw [run_ite,if_pos rfl,run_bind,run_bind,run_ite,run_bind,run_ite,run_cell,run_cell,hdata]
    simp only [run_bind,run_pure,contents,true_and,Bool.and_eq_true,bne_iff_ne,ne_eq]
    split
    next hhigh =>
      split
      next hlow => rw [if_pos ⟨hhigh,hlow⟩]
      next hlow => rw [if_neg fun h => hlow h.2]
    next hhigh => rw [if_neg fun h => hhigh h.1]

theorem run_getControl (rxData : Nat) :
    (getControl s rxDataBytes rxData).run buf =
      if (Control.ofByte (buf rxData)).ignoreFrame then .error .bad
      else .ok (Control.ofByte (buf rxData)) := by
  unfold getControl
  rw [run_bind,run_ite,run_bind,run_pure,run_pure,run_cell]

theorem run_getChannelTimer (rxData : Nat) :
    (getChannelTimer s rxData).run buf =
      .ok (if s.frequencyHop then some (channelTimerOfBytes (buf rxData) (buf (rxData + 1)))
        else none,rxData + if s.frequencyHop then 2 else 0) := by
  unfold getChannelTimer
  cases s.frequencyHop with
  | false => rfl
  | true => simp

/-- The slice that an accepted length cuts out. -/
theorem run_getLength {rxData : Nat} (hmin : l.minDatagramSize ≤ rxDataBytes.toNat) :
    ((getLength s l rxDataBytes rxData).run (contents bytes)).map
        (fun r => (bytes.drop r.1).take r.2.toNat) =
      receivedData s l bytes rxData rxDataBytes.toNat := by
  have hok (r : Nat × UInt8) :
      (getLength s l rxDataBytes rxData).run (contents bytes) = .ok r → _ := getLength_ok hmin
  unfold receivedData
  unfold getLength at hok ⊢
  by_cases hsf : s.radioSpreadFactor = 6
  · have hlength : contents bytes rxData = bytes.getD rxData 0 := rfl
    rw [if_pos hsf,if_pos hsf,run_bind,run_ite,run_cell,hlength]
    by_cases hle : (bytes.getD rxData 0).toNat + l.minDatagramSize ≤ rxDataBytes.toNat
    · rw [if_pos hle,if_pos hle]
      rfl
    · rw [if_neg hle,if_neg hle]
      rfl
  · rw [if_neg hsf] at hok
    obtain ⟨-,hexact⟩ := hok _ rfl
    rw [if_neg hsf] at hexact
    rw [if_neg hsf,if_neg hsf,run_pure,← hexact]
    dsimp only [Except.map]
    rw [Nat.add_sub_cancel]

/-- The header that is parsed is the front of the slice. -/
theorem run_getVcHeader {rxData : Nat} {myVc : UInt8} (hmode : s.operatingMode = .virtualCircuit)
    (hroom : rxData + rxDataBytes.toNat ≤ bytes.length) (c : Control)
    (timer : Option (BitVec 16)) :
    ((getVcHeader s myVc rxData rxDataBytes).run (contents bytes)).map
        (fun _ => (⟨c,timer,(bytes.drop rxData).take rxDataBytes.toNat⟩ : Received)) =
      checkVcHeader myVc ⟨c,timer,(bytes.drop rxData).take rxDataBytes.toNat⟩ := by
  have hlength : ((bytes.drop rxData).take rxDataBytes.toNat).length = rxDataBytes.toNat := by
    rw [List.length_take,List.length_drop]
    omega
  have hcell (k : Nat) (hk : k < rxDataBytes.toNat) :
      contents bytes (rxData + k) = ((bytes.drop rxData).take rxDataBytes.toNat).getD k 0 := by
    rw [List.getD_eq_getElem?_getD,List.getElem?_take_of_lt hk,List.getElem?_drop]
    rfl
  generalize (bytes.drop rxData).take rxDataBytes.toNat = data at hlength hcell ⊢
  unfold getVcHeader
  rw [if_pos hmode,run_ite]
  match data,hlength,hcell with
  | [],hlength,_ | [_],hlength,_ | [_,_],hlength,_ =>
    rw [if_pos (by simp [← hlength])]
    rfl
  | length :: destVc :: srcVc :: rest,hlength,hcell =>
    have hlong : ¬rxDataBytes.toNat < 3 := by
      rw [← hlength]
      simp only [List.length_cons]
      omega
    have hlen : contents bytes rxData = length := hcell 0 (by omega)
    have hdest : contents bytes (rxData + 1) = destVc := hcell 1 (by omega)
    have hsrc : contents bytes (rxData + 2) = srcVc := hcell 2 (by omega)
    have hsame : length ≠ rxDataBytes ↔
        length.toNat ≠ (length :: destVc :: srcVc :: rest).length := by
      rw [hlength,not_iff_not,UInt8.toNat_inj]
    rw [if_neg hlong]
    unfold checkVcHeader
    dsimp only
    simp only [run_bind,run_ite,run_cell,run_pure,hlen,hdest,hsrc,hsame]
    split
    · rfl
    · split
      · rfl
      · split <;> rfl

/-- What the frame stands for, once it is read from the decoded bytes. -/
def Frame.received (bytes : List UInt8) (f : Frame) : Received where
  control := f.control
  msToNextHopRemote := f.msToNextHopRemote
  data := (bytes.drop f.rxData).take f.rxDataBytes.toNat

/-- The parser that reads byte by byte accepts what the frame codec accepts. -/
theorem run_parse {g : Gcm} {iv incomingBuffer : List UInt8} (myVc : UInt8)
    (hbytes : decodeBuffer s g iv incomingBuffer rxDataBytes.toNat = bytes)
    (hn : rxDataBytes.toNat ≤ bytes.length) :
    ((parse s (selectHeaderAndTrailerBytes s) myVc rxDataBytes).run (contents bytes)).map
        (Frame.received bytes) =
      parseDatagram s (selectHeaderAndTrailerBytes s) g iv myVc incomingBuffer
        rxDataBytes.toNat := by
  have hget (k : Nat) : bytes.getD k 0 = contents bytes k := rfl
  unfold parseDatagram
  dsimp only
  rw [hbytes]
  simp only [hget]
  unfold parse
  rw [run_bind,run_attempt]
  by_cases hsize : rxDataBytes.toNat < (selectHeaderAndTrailerBytes s).minDatagramSize
  · have hcheck : (checkSize s (selectHeaderAndTrailerBytes s) rxDataBytes).run (contents bytes) =
        .error .bad := by
      unfold checkSize
      rw [run_ite,if_pos hsize,run_bind,run_pure]
    rw [hcheck,if_pos hsize]
    rfl
  have hmin := Nat.le_of_not_lt hsize
  rw [(run_checkSize ()).mpr hmin,if_neg hsize]
  dsimp only
  rw [run_attempt,run_checkNetId]
  by_cases hnet : s.netIdInHeader ∧ contents bytes 0 ≠ s.netID
  · rw [if_pos hnet,if_pos hnet]
    rfl
  rw [if_neg hnet,if_neg hnet]
  dsimp only
  rw [run_attempt,run_checkCrc hn]
  by_cases hcrc : s.enableCRC16 ∧ crcMismatch bytes rxDataBytes.toNat
  · rw [if_pos hcrc,if_pos hcrc]
    rfl
  rw [if_neg hcrc,if_neg hcrc]
  dsimp only
  generalize hpos : (if s.netIdInHeader = true then 1 else 0) = pos
  rw [run_attempt,run_getControl]
  by_cases hignore : (Control.ofByte (contents bytes pos)).ignoreFrame = true
  · rw [if_pos hignore,if_pos hignore]
    rfl
  rw [if_neg hignore,if_neg hignore]
  dsimp only
  rw [run_attempt,run_getChannelTimer]
  dsimp only
  rw [run_attempt,← run_getLength hmin]
  generalize (if s.frequencyHop = true then some _ else none) = timer
  cases hlength : (getLength s (selectHeaderAndTrailerBytes s) rxDataBytes
      (pos + 1 + if s.frequencyHop = true then 2 else 0)).run (contents bytes) with
  | error p => rfl
  | ok r =>
    obtain ⟨hrxData,hle⟩ := getLength_ok hmin hlength
    have hheader : r.1 + (selectHeaderAndTrailerBytes s).trailerBytes =
        (selectHeaderAndTrailerBytes s).minDatagramSize := by
      rw [hrxData,← hpos]
      rfl
    have hroom : r.1 + r.2.toNat ≤ bytes.length := by split at hle <;> omega
    dsimp only [Except.map]
    rw [run_attempt]
    by_cases hmode : s.operatingMode = .virtualCircuit
    · rw [if_pos hmode,← run_getVcHeader hmode hroom]
      cases (getVcHeader s myVc r.1 r.2).run (contents bytes) <;> rfl
    · have hvc : (getVcHeader s myVc r.1 r.2).run (contents bytes) = .ok (r.1,0) := by
        unfold getVcHeader
        rw [if_neg hmode,run_pure]
      rw [if_neg hmode,hvc]
      rfl

theorem getVcHeader_source {rxData : Nat} {myVc : UInt8} {r : Nat × UInt8}
    (hmode : s.operatingMode = .virtualCircuit)
    (h : (getVcHeader s myVc rxData rxDataBytes).run buf = .ok r) : r.2 = buf (rxData + 2) := by
  unfold getVcHeader at h
  rw [if_pos hmode,run_ite] at h
  split at h
  · cases h
  · simp only [run_bind,run_ite,run_cell,run_pure] at h
    repeat' split at h
    all_goals cases h
    rfl

theorem parse_source {myVc : UInt8} {f : Frame} (hmode : s.operatingMode = .virtualCircuit)
    (h : (parse s l myVc rxDataBytes).run buf = .ok f) : f.rxSrcVc = buf (f.rxData + 2) := by
  unfold parse at h
  rw [run_bind] at h
  obtain ⟨_,_,h⟩ := attempt_ok.mp h
  obtain ⟨_,_,h⟩ := attempt_ok.mp h
  obtain ⟨_,_,h⟩ := attempt_ok.mp h
  obtain ⟨_,_,h⟩ := attempt_ok.mp h
  obtain ⟨_,_,h⟩ := attempt_ok.mp h
  obtain ⟨_,_,h⟩ := attempt_ok.mp h
  obtain ⟨r,hvc,h⟩ := attempt_ok.mp h
  cases h
  exact getVcHeader_source hmode hvc

/-- The whole of rcvDatagram agrees with the frame codec and the number switch. -/
theorem run_rcvDatagram {g : Gcm} {iv incomingBuffer : List UInt8} {myVc : UInt8}
    (virtualCircuitList : Fin 32 → AckNumbers) (space : FreeSpace)
    (hbytes : decodeBuffer s g iv incomingBuffer rxDataBytes.toNat = bytes)
    (hn : rxDataBytes.toNat ≤ bytes.length) :
    (Codec.rcvDatagram s (selectHeaderAndTrailerBytes s) g iv myVc virtualCircuitList space
        incomingBuffer rxDataBytes.toNat).2 =
      match (rcvDatagram s (selectHeaderAndTrailerBytes s) myVc virtualCircuitList space
        rxDataBytes).run (contents bytes) with
      | .error p => (p,none)
      | .ok (f,p) => (p,some (f.received bytes)) := by
  have hparse := run_parse myVc hbytes hn
  unfold rcvDatagram Codec.rcvDatagram
  rw [run_attempt,← hparse]
  cases hrun : (parse s (selectHeaderAndTrailerBytes s) myVc rxDataBytes).run (contents bytes) with
  | error p => rfl
  | ok f =>
    have hinside := parse_ok hrun
    have hroom : f.rxData + f.rxDataBytes.toNat ≤ bytes.length := by
      have := hinside.trailer
      omega
    have hlength : (f.received bytes).data.length = f.rxDataBytes.toNat := by
      unfold Frame.received
      rw [List.length_take,List.length_drop]
      omega
    have hindex : numberIndex s (f.received bytes) = f.numberIndex s := by
      unfold numberIndex Frame.numberIndex
      cases hmode : s.operatingMode with
      | multipoint | pointToPoint => rfl
      | virtualCircuit =>
        have hlong := (hinside.vcHeader hmode).2
        have hsource : (f.received bytes).data.getD 2 0 = f.rxSrcVc := by
          rw [parse_source hmode hrun]
          unfold Frame.received contents
          rw [List.getD_eq_getElem?_getD,List.getElem?_take_of_lt (by omega),List.getElem?_drop]
          rfl
        simp only [hsource]
    dsimp only [Except.map]
    rw [run_bind,run_pure,hindex]
    unfold checkNumber
    cases f.numberIndex s with
    | none => rfl
    | some i =>
      dsimp only
      rw [hlength]
      rfl

/-- All bytes that rcvDatagram reads are received ones, before they are decoded
and after, and an accepted slice lies inside the frame. -/
def StaysInside (s : Settings) (g : Gcm) (iv : List UInt8) (myVc : UInt8)
    (virtualCircuitList : Fin 32 → AckNumbers) (space : FreeSpace)
    (incomingBuffer : PacketBuffer) (rxDataBytes : UInt8) : Prop :=
  let l := selectHeaderAndTrailerBytes s
  let decoded := decodeBuffer s g iv incomingBuffer.bytes rxDataBytes.toNat
  Within rxDataBytes.toNat (contents incomingBuffer.bytes) (beforeDecode s rxDataBytes) ∧
    Within rxDataBytes.toNat (contents decoded)
      (rcvDatagram s l myVc virtualCircuitList space rxDataBytes) ∧
    ∀ f t, (rcvDatagram s l myVc virtualCircuitList space rxDataBytes).run
      (contents decoded) = .ok (f,.datagram t) → InsideFrame s rxDataBytes f

/-- The parser stays inside the frame exactly if it does not display the first
14 bytes of a shorter one. -/
theorem stays_inside_iff (s : Settings) (g : Gcm) (iv : List UInt8) (myVc : UInt8)
    (virtualCircuitList : Fin 32 → AckNumbers) (space : FreeSpace)
    (incomingBuffer : PacketBuffer) (rxDataBytes : UInt8) :
    StaysInside s g iv myVc virtualCircuitList space incomingBuffer rxDataBytes ↔
      (s.debugging.debugReceive = true → 14 ≤ rxDataBytes.toNat) := by
  unfold StaysInside rcvDatagram
  dsimp only
  have hraw : Within rxDataBytes.toNat (contents incomingBuffer.bytes)
      (beforeDecode s rxDataBytes) := by
    unfold beforeDecode
    exact (within_bind _ _).mpr ⟨within_dumpFrame _,
      (within_bind _ _).mpr ⟨within_dumpFrame _,within_dumpFrame _⟩⟩
  rw [and_iff_right hraw,within_attempt,within_parse,and_assoc]
  refine and_iff_left ⟨fun f hf => ?_,fun f t hrun => ?_⟩
  · have hinside := (parse_ok hf).trailer
    refine (within_bind _ _).mpr ⟨(within_dumpBuffer _ _ _).mpr fun _ => ?_,within_pure _⟩
    omega
  · obtain ⟨f',hf,hrest⟩ := attempt_ok.mp hrun
    rw [run_bind,run_pure] at hrest
    have hsame : f' = f := congrArg Prod.fst (Except.ok.inj hrest)
    exact hsame ▸ parse_ok hf

/-- A frame of seven bytes, in a buffer that has held longer ones. -/
def shortFrame : PacketBuffer :=
  ⟨[192,3,0x90,0x01,0x41,0xaa,0x85] ++ List.replicate 248 0x55,by
    rw [List.length_append,List.length_replicate]
    rfl⟩

/-- Seven bytes behind the frame are read, and displayed as if received. -/
theorem display_reads_behind_frame :
    let s : Settings := { encryptData := false, debugging := { debugReceive := true } }
    ¬StaysInside s ⟨fun _ _ bs => bs,fun _ _ bs => bs⟩ [] 0 (fun _ => .zero) ⟨255,255,false⟩
      shortFrame 7 := by
  intro s h
  have hparse := ((within_attempt _ _).mp h.2.1).1
  exact absurd ((within_parse 0).mp hparse rfl) (by decide)

end LoRaSerial.Receive
