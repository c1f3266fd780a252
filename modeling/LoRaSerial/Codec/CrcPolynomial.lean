import LoRaSerial.Codec.Crc16
import LoRaSerial.Lib.Crc

namespace LoRaSerial.Codec
open Crc

/-- CRC-16 without the term of x^16. -/
def crc16Polynomial : BitVec 16 := 0x1021

/-- The bitwise CRC-16 that the table stands for. -/
def bitwiseCrc16 (data : List UInt8) : BitVec 16 :=
  crc crc16Polynomial 0xffff (data.map UInt8.toBitVec)

/-- Every entry is what eight steps make of its index. -/
theorem crc16Table_eq (index : Fin 256) :
    (crc16Table.get index).toBitVec = table crc16Polynomial (BitVec.ofFin index) := by
  decide +kernel +revert

/-- The index takes the byte of the register that the shift drops. -/
theorem crc16Step_toBitVec (c : UInt16) (b : UInt8) :
    (crc16Step c b).toBitVec =
      table crc16Polynomial (b.toBitVec ^^^ c.toBitVec.extractLsb' 8 8) ^^^ (c.toBitVec <<< 8) := by
  have hindex : (b ^^^ (c >>> 8).toUInt8).toBitVec = b.toBitVec ^^^ c.toBitVec.extractLsb' 8 8 := by
    rw [UInt8.toBitVec_xor]
    congr 1
  have hentry := crc16Table_eq (b ^^^ (c >>> 8).toUInt8).toFin
  have hofFin : BitVec.ofFin (b ^^^ (c >>> 8).toUInt8).toFin = (b ^^^ (c >>> 8).toUInt8).toBitVec :=
    rfl
  rw [crc16Step,UInt16.toBitVec_xor,hentry,hofFin,hindex]
  simp

theorem foldl_crc16Step (data : List UInt8) (c : UInt16) :
    (data.foldl crc16Step c).toBitVec =
      crc crc16Polynomial c.toBitVec (data.map UInt8.toBitVec) := by
  induction data generalizing c with
  | nil => rfl
  | cons b data ih =>
    rw [List.foldl_cons,ih,List.map_cons,crc_cons (by decide),crc16Step_toBitVec]

/-- The bits of a trailer are those of the register it was made from. -/
theorem topBits_crc16Bytes (c : UInt16) :
    ((crc16Bytes c).map UInt8.toBitVec).flatMap (topBits 8) = topBits 16 c.toBitVec := by
  have hhigh : topBits 8 (c >>> 8).toUInt8.toBitVec = (topBits 16 c.toBitVec).take 8 := by
    simp [topBits,List.range_succ,BitVec.getMsbD_eq_getLsbD]
  have hlow : topBits 8 (c &&& 0xff).toUInt8.toBitVec = (topBits 16 c.toBitVec).drop 8 := by
    simp [topBits,List.range_succ,BitVec.getMsbD_eq_getLsbD]
  simp only [crc16Bytes,List.map_cons,List.map_nil,List.flatMap_cons,List.flatMap_nil,
    List.append_nil,hhigh,hlow,List.take_append_drop]

/-- The table loops of both ends compute the bitwise CRC-16, and a message
followed by its trailer leaves zero in the register. -/
theorem crc16_bitwise (data : List UInt8) :
    (crc16 data).toBitVec = bitwiseCrc16 data ∧ crc16 (data ++ crc16Bytes (crc16 data)) = 0 := by
  refine ⟨foldl_crc16Step data 0xffff,?_⟩
  apply UInt16.toBitVec_inj.mp
  have hfold := foldl_crc16Step (crc16Bytes (crc16 data)) (crc16 data)
  rw [crc,topBits_crc16Bytes,feed_topBits] at hfold
  rw [crc16,List.foldl_append]
  exact hfold

end LoRaSerial.Codec
