import LoRaSerial.Receive.Handlers
import LoRaSerial.Receive.Parser

namespace LoRaSerial.Receive
open Reading Reading.Prog
open Outgoing (UniqueId vcHeader)
open P2P (millisBytes)
open VC (VcAddress vcBroadcast vcServer)

/-- The datagrams that carry the sender's millis value, with what else their
builders put in the payload. -/
inductive Timed where
  | findPartner
  | syncClocks (channelNumber : UInt8)
  | heartbeat
  | dataAck
  | vcHeartbeat (addr : VcAddress) (id : UniqueId)

namespace Timed

def datagramType : Timed → DatagramType
  | .findPartner => .findPartner
  | .syncClocks _ => .syncClocks
  | .heartbeat => .heartbeat
  | .dataAck => .dataAck
  | .vcHeartbeat _ _ => .vcHeartbeat

/-- The matching xmit function. -/
def xmit (r : Outgoing.Radio) (currentMillis : BitVec 32) (a : Outgoing.Air) :
    Timed → Outgoing.Radio
  | .findPartner => Outgoing.xmitDatagramP2PFindPartner r currentMillis a
  | .syncClocks channelNumber =>
    Outgoing.xmitDatagramP2PSyncClocks r channelNumber currentMillis a
  | .heartbeat => Outgoing.xmitDatagramP2PHeartbeat r currentMillis a
  | .dataAck => Outgoing.xmitDatagramP2PAck r currentMillis a
  | .vcHeartbeat addr id => Outgoing.xmitVcHeartbeat r addr id currentMillis a

/-- What stands before the millis value. -/
def lead : Timed → List UInt8
  | .syncClocks channelNumber => [channelNumber]
  | .vcHeartbeat addr id => vcHeader 23 vcBroadcast addr ++ id
  | _ => []

def payload (d : Timed) (currentMillis : BitVec 32) : List UInt8 :=
  d.lead ++ millisBytes currentMillis

/-- The payload is the one that the matching xmit function hands over. -/
theorem xmit_payload (d : Timed) (r : Outgoing.Radio) (currentMillis : BitVec 32)
    (a : Outgoing.Air) :
    ∃ t, (d.xmit r currentMillis a).transmissions = t :: r.transmissions ∧
      t.datagramType = d.datagramType ∧ t.payload = d.payload currentMillis := by
  cases d <;> exact ⟨_,rfl,rfl,rfl⟩

end Timed

/-- The remote time that a handler computes timestampOffset with. -/
def Outcome.remoteMillis : Outcome → Option (BitVec 32)
  | .timestamp millis => some millis
  | .syncClocks _ millis => some millis
  | .vcHeartbeat h => h.millis
  | _ => none

theorem millisOfBytes_millisBytes (m : BitVec 32) : millisOfBytes (millisBytes m) = m := by
  unfold millisOfBytes millisBytes
  ext k hk
  simp
  grind

theorem millisBytes_millisOfBytes (a b c d : UInt8) :
    millisBytes (millisOfBytes [a,b,c,d]) = [a,b,c,d] := by
  have hbytes : ∀ a b c d : BitVec 8, (d ++ c ++ b ++ a).extractLsb' 0 8 = a ∧
      (d ++ c ++ b ++ a).extractLsb' 8 8 = b ∧ (d ++ c ++ b ++ a).extractLsb' 16 8 = c ∧
      (d ++ c ++ b ++ a).extractLsb' 24 8 = d := by
    intro a b c d
    refine ⟨?_,?_,?_,?_⟩ <;> ext k hk <;> simp <;> grind
  obtain ⟨ha,hb,hc,hd⟩ := hbytes a.toBitVec b.toBitVec c.toBitVec d.toBitVec
  unfold millisOfBytes millisBytes
  rw [ha,hb,hc,hd]

/-- Four bytes are read as `m` if they are those of `m`. -/
theorem millisOfBytes_eq_iff {bs : List UInt8} (h : bs.length = 4) (m : BitVec 32) :
    millisOfBytes bs = m ↔ bs = millisBytes m := by
  match bs,h with
  | [a,b,c,d],_ =>
    constructor
    · rintro rfl
      exact (millisBytes_millisOfBytes a b c d).symm
    · intro heq
      rw [heq,millisOfBytes_millisBytes]

theorem run_millisAt {bs : List UInt8} {k : Nat} (hle : k + 4 ≤ bs.length) :
    (millisAt k).run (contents bs) = millisOfBytes ((bs.drop k).take 4) := by
  unfold millisAt
  rw [run_bind,run_pure,run_cells_slice starts_contents hle]

/-- A handler that reads behind what the builder puts first reads the value. -/
theorem run_millisAt_lead (front behind : List UInt8) (m : BitVec 32) :
    (millisAt front.length).run (contents (front ++ millisBytes m ++ behind)) = m := by
  have hlen : (millisBytes m).length = 4 := rfl
  rw [run_millisAt (by simp only [List.length_append]; omega),List.append_assoc,List.drop_left,
    ← hlen,List.take_left,millisOfBytes_millisBytes]

variable {state : RadioState} {i : Inputs} {d : Timed} {m : BitVec 32} {behind : List UInt8}

/-- The remote time that the receiver uses, if it updates timestampOffset, is
the value that the sender put into the payload. -/
def Decoded (state : RadioState) (i : Inputs) (d : Timed) (m : BitVec 32)
    (behind : List UInt8) : Prop :=
  ∀ remote, ((handle state i d.datagramType (d.payload m).length).run
    (contents (d.payload m ++ behind))).remoteMillis = some remote → remote = m

/-- The handler looks where the builder put the value, or finds the same bytes
where it looks. -/
def InPlace (state : RadioState) (i : Inputs) (d : Timed) (m : BitVec 32)
    (behind : List UInt8) : Prop :=
  match state,d with
  | .p2pWaitSyncClocks,.findPartner =>
    ∃ b, millisBytes m ++ [contents behind 0] = List.replicate 5 b
  | .vcWaitServer,.vcHeartbeat _ id | .vcWaitReceive,.vcHeartbeat _ id =>
    i.settings.operatingMode = .virtualCircuit ∨ i.rxSrcVc ≠ vcServer ∨
      id.val.drop 13 ++ (millisBytes m).take 1 = millisBytes m
  | _,_ => True

/-- A handler that does not take the time. -/
theorem decoded_of_none (h : ((handle state i d.datagramType (d.payload m).length).run
    (contents (d.payload m ++ behind))).remoteMillis = none) : Decoded state i d m behind := by
  intro remote hremote
  rw [h] at hremote
  cases hremote

theorem decoded_of_some {remote : BitVec 32}
    (h : ((handle state i d.datagramType (d.payload m).length).run
      (contents (d.payload m ++ behind))).remoteMillis = some remote) :
    Decoded state i d m behind ↔ remote = m := by
  unfold Decoded
  rw [h]
  exact ⟨fun hall => hall remote rfl,fun heq _ hremote => Option.some.inj hremote ▸ heq⟩

/-- One byte further on, the value is read as itself only if all bytes are equal. -/
theorem run_millisAt_shifted (m : BitVec 32) (behind : List UInt8) :
    (millisAt 1).run (contents (millisBytes m ++ behind)) = m ↔
      ∃ b, millisBytes m ++ [contents behind 0] = List.replicate 5 b := by
  obtain ⟨b0,b1,b2,b3,hm⟩ : ∃ b0 b1 b2 b3, millisBytes m = [b0,b1,b2,b3] := ⟨_,_,_,_,rfl⟩
  have hrun : (millisAt 1).run (contents (millisBytes m ++ behind)) =
      millisOfBytes [b1,b2,b3,contents behind 0] := by
    unfold millisAt
    rw [run_bind,run_pure,run_cells,hm]
    rfl
  rw [hrun,millisOfBytes_eq_iff rfl,hm]
  constructor
  · intro heq
    obtain ⟨h0,h1,h2,h3⟩ : b1 = b0 ∧ b2 = b1 ∧ b3 = b2 ∧ contents behind 0 = b3 := by
      simpa using heq
    exact ⟨b0,by simp [List.replicate,h0,h1,h2,h3]⟩
  · rintro ⟨b,hb⟩
    obtain ⟨h0,h1,h2,h3,h4⟩ : b0 = b ∧ b1 = b ∧ b2 = b ∧ b3 = b ∧ contents behind 0 = b := by
      simpa [List.replicate] using hb
    rw [h0,h1,h2,h3,h4]

theorem run_vcReceiveHeartbeat (buf : Nat → UInt8) :
    ((vcReceiveHeartbeat i).run buf).remoteMillis = (serverMillis i).run buf := by
  unfold vcReceiveHeartbeat
  simp only [run_bind,run_pure]
  rfl

/-- Outside virtual circuit mode rxVcData does not skip the header. -/
theorem run_serverMillis (m : BitVec 32) (behind : List UInt8) (addr : VcAddress) (id : UniqueId)
    (hserver : i.rxSrcVc = vcServer) :
    ∃ remote, (serverMillis i).run (contents ((Timed.vcHeartbeat addr id).payload m ++ behind)) =
        some remote ∧
      (remote = m ↔ i.settings.operatingMode = .virtualCircuit ∨
        id.val.drop 13 ++ (millisBytes m).take 1 = millisBytes m) := by
  have hid := id.property
  have hm : (millisBytes m).length = 4 := rfl
  unfold serverMillis Timed.payload Timed.lead Inputs.vcData
  rw [if_pos hserver,run_bind]
  refine ⟨_,rfl,?_⟩
  by_cases hmode : i.settings.operatingMode = .virtualCircuit
  · rw [if_pos hmode]
    refine iff_of_true ?_ (.inl hmode)
    have hlead : Outgoing.vcRadioHeaderBytes + uniqueIdBytes =
        (vcHeader 23 vcBroadcast addr ++ id).length := by
      rw [List.length_append,hid]
      rfl
    rw [hlead]
    exact run_millisAt_lead _ _ m
  · have hslice : ((vcHeader 23 vcBroadcast addr ++ id.val ++ millisBytes m ++ behind).drop
        (0 + uniqueIdBytes)).take 4 = id.val.drop 13 ++ (millisBytes m).take 1 := by
      have hheader : (vcHeader 23 vcBroadcast addr).drop 16 = [] := rfl
      have hlen : (vcHeader 23 vcBroadcast addr).length = 3 := rfl
      have htail : (id.val.drop 13).take 4 = id.val.drop 13 :=
        List.take_of_length_le (by rw [List.length_drop,hid]; omega)
      simp only [uniqueIdBytes,List.append_assoc,List.drop_append,List.take_append,
        List.length_drop,hid,hm,hheader,hlen]
      simp [htail]
    rw [if_neg hmode,or_iff_right hmode,run_millisAt (by
      simp only [List.length_append,hid,hm,vcHeader,List.length_cons,uniqueIdBytes]
      omega),hslice,millisOfBytes_eq_iff]
    simp only [List.length_append,List.length_drop,List.length_take,hid,hm]
    omega

theorem decoded_vcHeartbeat {addr : VcAddress} {id : UniqueId}
    (hstate : ∀ n, handle state i .vcHeartbeat n = vcReceiveHeartbeat i) :
    Decoded state i (.vcHeartbeat addr id) m behind ↔
      i.settings.operatingMode = .virtualCircuit ∨ i.rxSrcVc ≠ vcServer ∨
        id.val.drop 13 ++ (millisBytes m).take 1 = millisBytes m := by
  by_cases hserver : i.rxSrcVc = vcServer
  · obtain ⟨remote,hrun,hiff⟩ := run_serverMillis m behind addr id hserver
    rw [decoded_of_some (by rw [Timed.datagramType,hstate,run_vcReceiveHeartbeat,hrun]),hiff]
    exact or_congr_right (or_iff_right (not_not.mpr hserver)).symm
  · refine iff_of_true (decoded_of_none ?_) (.inr (.inl hserver))
    rw [Timed.datagramType,hstate,run_vcReceiveHeartbeat,serverMillis,if_neg hserver]
    rfl

/-- The remote time is the sender's for every builder and every handler of its
datagrams but one: FIND_PARTNER, where RADIO_P2P_WAIT_SYNC_CLOCKS looks one byte
too far (and where a heartbeat of a virtual circuit is read without its header). -/
theorem decoded_iff (state : RadioState) (i : Inputs) (d : Timed) (m : BitVec 32)
    (behind : List UInt8) : Decoded state i d m behind ↔ InPlace state i d m behind := by
  have hignored {state : RadioState} {d : Timed}
      (h : handle state i d.datagramType (d.payload m).length = pure .ignored) :
      Decoded state i d m behind := decoded_of_none (by rw [h]; rfl)
  have hat {state : RadioState} {d : Timed} {k : Nat} (hk : d.lead.length = k)
      (h : handle state i d.datagramType (d.payload m).length =
        millisAt k >>= fun millis => pure (.timestamp millis)) : Decoded state i d m behind := by
    refine (decoded_of_some ?_).mpr (run_millisAt_lead d.lead behind m)
    rw [h,run_bind,← hk]
    rfl
  cases d with
  | findPartner =>
    cases state
    case p2pLinkDown => exact iff_of_true (hat rfl rfl) trivial
    case p2pWaitSyncClocks => exact (decoded_of_some rfl).trans (run_millisAt_shifted m behind)
    all_goals exact iff_of_true (hignored rfl) trivial
  | syncClocks channelNumber =>
    cases state
    case p2pWaitSyncClocks => exact iff_of_true (hat rfl rfl) trivial
    case discoverScanning =>
      refine iff_of_true ?_ trivial
      by_cases hserver : i.settings.server = true
      · exact hignored (if_pos hserver)
      · refine (decoded_of_some ?_).mpr (run_millisAt_lead [channelNumber] behind m)
        unfold handle discoverScanning Timed.datagramType
        rw [if_neg hserver]
        rfl
    all_goals exact iff_of_true (hignored rfl) trivial
  | heartbeat =>
    cases state
    case p2pLinkUp => exact iff_of_true (hat rfl rfl) trivial
    case discoverStandby =>
      refine iff_of_true (decoded_of_none ?_) trivial
      unfold handle discoverStandby Timed.datagramType
      by_cases hserver : i.settings.server = true
      · rw [if_pos hserver]
        rfl
      · rw [if_neg hserver]
        rfl
    all_goals exact iff_of_true (hignored rfl) trivial
  | dataAck =>
    cases state
    case p2pLinkUp => exact iff_of_true (hat rfl rfl) trivial
    all_goals exact iff_of_true (hignored rfl) trivial
  | vcHeartbeat addr id =>
    cases state
    case vcWaitReceive => exact decoded_vcHeartbeat fun _ => rfl
    case vcWaitServer =>
      by_cases hserver : i.rxSrcVc = vcServer
      · exact decoded_vcHeartbeat fun _ => if_pos hserver
      · exact iff_of_true (hignored (if_neg hserver)) (.inr (.inl hserver))
    all_goals exact iff_of_true (hignored rfl) trivial

/-- A radio that is linking up, at its default settings. -/
def linking : Inputs where
  settings := defaultSettings
  length := 0
  myUniqueId := []
  trainingPartnerID := []
  myVc := 0
  rxSrcVc := 0
  virtualCircuitList := []

/-- A FIND_PARTNER sent at 1000 ms, with a trailer of AA 85. -/
theorem find_partner_misread :
    ((handle .p2pWaitSyncClocks linking .findPartner 4).run
      (contents (millisBytes 1000 ++ [0xaa,0x85]))).remoteMillis = some 0xaa000003 ∧
    ¬Decoded .p2pWaitSyncClocks linking .findPartner 1000 [0xaa,0x85] := by
  have hread : ((handle .p2pWaitSyncClocks linking .findPartner 4).run
      (contents (millisBytes 1000 ++ [0xaa,0x85]))).remoteMillis = some 0xaa000003 := by decide
  exact ⟨hread,fun h => absurd (h _ hread) (by decide)⟩

end LoRaSerial.Receive
