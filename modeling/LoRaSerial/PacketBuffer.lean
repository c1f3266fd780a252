import LoRaSerial.Lib.Overlay
import LoRaSerial.Settings

namespace LoRaSerial
open Overlay

/-- outgoingPacket, incomingBuffer: a buffer of MAX_PACKET_SIZE bytes. -/
structure PacketBuffer where
  bytes : List UInt8
  size : bytes.length = maxPacketSize
  deriving DecidableEq

namespace PacketBuffer

/-- The size of a buffer of zeros. -/
theorem size_zeros : (List.replicate maxPacketSize (0 : UInt8)).length = maxPacketSize :=
  List.length_replicate

/-- memcpy to `&packet[off]`. What would pass the end is not stored. -/
def write (p : PacketBuffer) (off : Nat) (bs : List UInt8) : PacketBuffer where
  bytes := overlay p.bytes off bs
  size := by rw [length_overlay,p.size]

/-- The `n` bytes from `&packet[off]` on. -/
def slice (p : PacketBuffer) (off n : Nat) : List UInt8 := (p.bytes.drop off).take n

theorem slice_write (p : PacketBuffer) (off : Nat) (bs : List UInt8)
    (h : off + bs.length ≤ maxPacketSize) : (p.write off bs).slice off bs.length = bs :=
  drop_take_overlay p.bytes bs off (p.size.symm ▸ h)

theorem slice_write_write (p : PacketBuffer) (off : Nat) (as bs : List UInt8)
    (h : off + as.length + bs.length ≤ maxPacketSize) :
    ((p.write off as).write (off + as.length) bs).slice off (as.length + bs.length) = as ++ bs :=
  drop_take_overlay_overlay p.bytes as bs off (p.size.symm ▸ h)

/-- `packet[i]`. -/
def byte (p : PacketBuffer) (i : Nat) : UInt8 := p.bytes.getD i 0

theorem byte_write (p : PacketBuffer) (off i : Nat) (bs : List UInt8)
    (h : off + bs.length ≤ maxPacketSize) :
    (p.write off bs).byte (off + i) = if i < bs.length then bs.getD i 0 else p.byte (off + i) := by
  simp only [byte,write,List.getD_eq_getElem?_getD,
    getElem?_overlay (show off + bs.length ≤ p.bytes.length from p.size.symm ▸ h)]
  split <;> rfl

/-- Writing one byte sets it in a stretch that has it, and leaves any other. -/
theorem slice_write_byte (p : PacketBuffer) (off i n : Nat) (b : UInt8)
    (h : off + i < maxPacketSize) :
    (p.write (off + i) [b]).slice off n = (p.slice off n).set i b := by
  have hset : (p.write (off + i) [b]).bytes = p.bytes.set (off + i) b :=
    overlay_singleton p.bytes (off + i) b (p.size.symm ▸ h)
  rw [slice,hset,List.drop_set,if_neg (by omega),Nat.add_sub_cancel_left,List.take_set]
  rfl

end PacketBuffer

end LoRaSerial
