import LoRaSerial.Multipoint.Synchronization
import LoRaSerial.Serial.Forwarding

namespace LoRaSerial.Multipoint
open Runs (run)
open Serial (Port)
open scoped List

variable {r : Radio} {e : Event} {heard : Option Frame} {f : Frame}

/-- The user data a frame carries. -/
def Frame.userData (f : Frame) : List (List UInt8) :=
  if f.datagramType = .data then [f.payload] else []

/-- processWaitingSerial when there is a packet to send. -/
theorem processWaitingSerial_port {i : Inputs} (h : r.packetReady i = true) :
    (r.processWaitingSerial i).port =
      Serial.readyOutgoingPacket r.port r.port.radioTxBuffer.available r.maxDatagramSize := by
  unfold Radio.packetReady at h
  dsimp only at h
  unfold Radio.processWaitingSerial Serial.processWaitingSerial
  dsimp only
  by_cases hfull : r.maxDatagramSize.toNat ≤ r.port.radioTxBuffer.available
  · rw [if_pos hfull]
  · rw [if_neg hfull]
    have hsend : i.heartbeatTimeout = true ∨
        0 < r.port.radioTxBuffer.available ∧ i.serialTimeout = true := by
      simp only [Bool.and_eq_true,bne_iff_ne,Bool.or_eq_true,decide_eq_true_eq] at h
      obtain ⟨hsome,(h | h) | h⟩ := h
      · exact absurd h hfull
      · exact .inl h
      · exact .inr ⟨Nat.pos_of_ne_zero hsome,h⟩
    rw [if_pos hsend]

theorem processWaitingSerial_payloads {i : Inputs} (h : r.packetReady i = true) :
    (r.processWaitingSerial i).port.payloads = r.port.payloads ++ [r.packet] := by
  rw [processWaitingSerial_port h]
  rfl

/-- The packets readyOutgoingPacket has loaded. -/
def Radio.loaded (r : Radio) : List (List UInt8) := r.port.payloads

variable {ι : Type*} [DecidableEq ι] {n : Network ι}

/-- Nothing is sent, delivered or entered yet. -/
structure Fresh (n : Network ι) : Prop where
  sent : n.sent = []
  delivered : ∀ i, (n.station i).delivered = []
  port : ∀ i, (n.station i).port.Started

/-- After the discovery, the host of the server enters a byte. -/
def greeting : List (NetworkEvent Bool) :=
  discovery ++ [⟨true,.pass true (inputsAt false),none⟩,
    ⟨true,.updateSerial [0x61] [⟨fun _ => 5,false,false⟩] 5,none⟩,
    ⟨true,.pass false { inputsAt false with serialTimeout := true },none⟩,
    ⟨false,.pass true (inputsAt false),some 2⟩]

end LoRaSerial.Multipoint
