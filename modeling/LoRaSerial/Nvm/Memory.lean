import LoRaSerial.Lib.Binary32
import LoRaSerial.Lib.LittleEndian
import LoRaSerial.Lib.Overlay
import LoRaSerial.UniqueIds.Table

namespace LoRaSerial.Nvm
open Binary32 Overlay
open UniqueIds (Entry IdBytes nvmEraseValue erased)
open VC (maxVc)

/-- FIRMWARE_VERSION_MAJOR * 0x10 + FIRMWARE_VERSION_MINOR. -/
def lrsIdentifier : Nat := 2 * 0x10 + 0

def uniqueIdBytes : Nat := 16

/-- The bytes of the unique IDs at the end of the EEPROM. -/
def uniqueIdArea : Nat := maxVc * uniqueIdBytes

/-- What differs between processors and modules. struct_settings has at least
the fields up to server and ends in front of the unique IDs. -/
structure Firmware where
  eepromSize : Nat
  sizeOfSettings : Nat
  radioBand : Nat
  chunks : 64 ∣ eepromSize
  fields : 34 ≤ sizeOfSettings
  short : sizeOfSettings < 256 ^ 2
  fits : sizeOfSettings + uniqueIdArea ≤ eepromSize

/-- The ESP32 with a module for 915 MHz. -/
example : Firmware := ⟨1024,132,915,by decide,by decide,by decide,by decide⟩

variable {fw : Firmware}

/-- The bytes of a struct_settings. -/
structure Image (fw : Firmware) where
  bytes : List UInt8
  length_eq : bytes.length = fw.sizeOfSettings
  deriving DecidableEq

namespace Image

theorem ext_bytes {im im' : Image fw} (h : im.bytes = im'.bytes) : im = im' := by
  cases im
  cases im'
  cases h
  rfl

def get (im : Image fw) (offset n : Nat) : List UInt8 := window im.bytes offset n

def put (im : Image fw) (offset : Nat) (bs : List UInt8) : Image fw where
  bytes := overlay im.bytes offset bs
  length_eq := (length_overlay im.bytes offset bs).trans im.length_eq

def sizeOfSettings (im : Image fw) : Nat := LittleEndian.toNat (im.get 0 2)
def strIdentifier (im : Image fw) : Nat := LittleEndian.toNat (im.get 2 2)
def frequencyMin (im : Image fw) : Value := value (LittleEndian.toNat (im.get 4 4))
def frequencyMax (im : Image fw) : Value := value (LittleEndian.toNat (im.get 8 4))
def server (im : Image fw) : Bool := im.get 33 1 != [0]

/-- The values of both frequencies outside of their range become the defaults,
given by the bits of these. -/
def clamp (im : Image fw) (low high : ℚ) (defaultMin defaultMax : Nat) : Image fw :=
  let im := if im.frequencyMin.below low ∨ im.frequencyMin.above high then
      im.put 4 (LittleEndian.ofNat 4 defaultMin)
    else im
  if im.frequencyMax.above high ∨ im.frequencyMax.below low then
    im.put 8 (LittleEndian.ofNat 4 defaultMax)
  else im

/-- Confirm various settings are within regulatory bounds. -/
def validateSettings (im : Image fw) : Image fw :=
  match fw.radioBand with
  | 915 => im.clamp 900 931 0x44618000 0x44680000
  | 868 => im.clamp 862 893 0x44578000 0x445F4000
  | 433 => im.clamp 410 510 0x43D20000 0x43E10000
  | _ => im

/-- settings.sizeOfSettings = sizeof(Settings). -/
def stamped (im : Image fw) : Image fw := im.put 0 (LittleEndian.ofNat 2 fw.sizeOfSettings)

end Image

structure Eeprom (fw : Firmware) where
  bytes : List UInt8
  length_eq : bytes.length = fw.eepromSize

def Eeprom.get (e : Eeprom fw) (address n : Nat) : List UInt8 := window e.bytes address n

def Eeprom.put (e : Eeprom fw) (address : Nat) (bs : List UInt8) : Eeprom fw where
  bytes := overlay e.bytes address bs
  length_eq := (length_overlay e.bytes address bs).trans e.length_eq

theorem Eeprom.length_get {e : Eeprom fw} {address n : Nat} (h : address + n ≤ fw.eepromSize) :
    (e.get address n).length = n := length_window (by rwa [e.length_eq])

theorem sizeOfSettings_le : 0 + fw.sizeOfSettings ≤ fw.eepromSize := by
  have h := fw.fits
  omega

/-- EEPROM.get(0, settings) -/
def Eeprom.settings (e : Eeprom fw) : Image fw where
  bytes := e.get 0 fw.sizeOfSettings
  length_eq := Eeprom.length_get sizeOfSettings_le

def nvmVcOffset (fw : Firmware) (vc : Fin maxVc) : Nat :=
  fw.eepromSize - uniqueIdArea + vc * uniqueIdBytes

/-- An entry of the unique IDs lies behind the settings and in the EEPROM. -/
theorem nvmVcOffset_bounds (vc : Fin maxVc) : fw.sizeOfSettings ≤ nvmVcOffset fw vc ∧
    nvmVcOffset fw vc + uniqueIdBytes ≤ fw.eepromSize := by
  have hfits := fw.fits
  have hvc : (vc : Nat) + 1 ≤ maxVc := vc.isLt
  have hend : ((vc : Nat) + 1) * uniqueIdBytes ≤ uniqueIdArea := Nat.mul_le_mul_right _ hvc
  rw [Nat.succ_mul] at hend
  unfold nvmVcOffset
  omega

/-- The EEPROM and what the radio has in RAM of it. -/
structure System (fw : Firmware) where
  eeprom : Eeprom fw
  settings : Image fw
  virtualCircuitList : Fin maxVc → Entry

def recordSystemSettings (sys : System fw) : System fw :=
  let settings := sys.settings.stamped
  { sys with settings, eeprom := sys.eeprom.put 0 settings.bytes }

/-- A check of the EEPROM: where it fails, the settings in RAM are recorded. -/
def recordIf (wrong : Eeprom fw → Bool) (sys : System fw) : System fw :=
  if wrong sys.eeprom then recordSystemSettings sys else sys

def isBlank (e : Eeprom fw) : Bool := LittleEndian.toNat (e.get 0 4) == 0xFFFFFFFF
def wrongSize (e : Eeprom fw) : Bool := LittleEndian.toNat (e.get 0 2) != fw.sizeOfSettings
def wrongIdentifier (e : Eeprom fw) : Bool := LittleEndian.toNat (e.get 2 2) != lrsIdentifier

/-- Read the settings from NVM into the settings structure. -/
def loadSettings (sys : System fw) : System fw :=
  let sys := recordIf wrongIdentifier (recordIf wrongSize (recordIf isBlank sys))
  let sys := { sys with settings := sys.eeprom.settings }
  let sys := { sys with settings := sys.settings.validateSettings }
  recordSystemSettings sys

/-- Read the unique ID from the flash. -/
def nvmGetUniqueId (e : Eeprom fw) (vc : Fin maxVc) : IdBytes :=
  ⟨e.get (nvmVcOffset fw vc) uniqueIdBytes,Eeprom.length_get (nvmVcOffset_bounds vc).2⟩

def nvmIsVcUniqueIdSet (e : Eeprom fw) (vc : Fin maxVc) : Bool :=
  (nvmGetUniqueId e vc).toList.any (· != nvmEraseValue)

def nvmSaveUniqueId (sys : System fw) (vc : Fin maxVc) (uniqueId : IdBytes) : System fw :=
  { sys with
    eeprom := sys.eeprom.put (nvmVcOffset fw vc) uniqueId.toList
    virtualCircuitList := Function.update sys.virtualCircuitList vc ⟨uniqueId,true⟩ }

def nvmEraseUniqueId (sys : System fw) (vc : Fin maxVc) : System fw :=
  let sys := nvmSaveUniqueId sys vc erased
  { sys with virtualCircuitList := Function.update sys.virtualCircuitList vc ⟨erased,false⟩ }

def nvmLoadVcUniqueId (sys : System fw) (vc : Fin maxVc) : System fw :=
  let id := nvmGetUniqueId sys.eeprom vc
  if nvmIsVcUniqueIdSet sys.eeprom vc then
    { sys with virtualCircuitList := Function.update sys.virtualCircuitList vc ⟨id,true⟩ }
  else sys

/-- Save the unique ID from the virtualCircuitList entry into the NVM. -/
def nvmSaveVcUniqueId (sys : System fw) (vc : Fin maxVc) : System fw :=
  let id := nvmGetUniqueId sys.eeprom vc
  if id ≠ (sys.virtualCircuitList vc).uniqueId then
    nvmSaveUniqueId sys vc (sys.virtualCircuitList vc).uniqueId
  else sys

/-- The bytes that nvmErase writes at a time. -/
def eraseChunk : List UInt8 := List.replicate 64 nvmEraseValue

/-- Erase the entire EEPROM, whose length is a multiple of the chunk's. -/
def nvmErase (e : Eeprom fw) : Eeprom fw :=
  (List.range (fw.eepromSize / 64)).foldl (fun e k => e.put (k * 64) eraseChunk) e

/-- setup(), with the settings that RAM starts with. -/
def setup (defaults : Image fw) (e : Eeprom fw) : System fw :=
  let sys := loadSettings ⟨e,defaults,fun _ => ⟨List.Vector.replicate 16 0,false⟩⟩
  if sys.settings.server then (List.finRange maxVc).foldl nvmLoadVcUniqueId sys else sys

end LoRaSerial.Nvm
