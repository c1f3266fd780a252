import LoRaSerial.Config.Radio
import LoRaSerial.Nvm.Memory

namespace LoRaSerial.Nvm
open Binary32 Overlay

variable {fw : Firmware} {im : Image fw} {low high : ℚ} {defaultMin defaultMax : Nat}

namespace Image

theorem get_put_self {bs : List UInt8} {offset : Nat} (h : offset + bs.length ≤ 34) :
    (im.put offset bs).get offset bs.length = bs := by
  have hfields := fw.fields
  exact window_overlay_self (by rw [im.length_eq]; omega)

theorem get_put_of_disjoint {bs : List UInt8} {offset offset' n : Nat}
    (hfit : offset + bs.length ≤ 34) (h : offset' + n ≤ offset ∨ offset + bs.length ≤ offset') :
    (im.put offset bs).get offset' n = im.get offset' n := by
  have hfields := fw.fields
  exact window_overlay_of_disjoint (by rw [im.length_eq]; omega) h

/-- What the assignment of a float reads back as. -/
theorem value_put {offset bits : Nat} (hbits : bits < 256 ^ 4) (h : offset + 4 ≤ 34) :
    value (LittleEndian.toNat ((im.put offset (LittleEndian.ofNat 4 bits)).get offset 4)) =
      value bits := by
  have hself : (im.put offset (LittleEndian.ofNat 4 bits)).get offset _ = _ :=
    get_put_self (by rwa [LittleEndian.length_ofNat])
  rw [LittleEndian.length_ofNat] at hself
  rw [hself,LittleEndian.toNat_ofNat hbits]

theorem get_stamped {offset n : Nat} (h : 2 ≤ offset) :
    im.stamped.get offset n = im.get offset n :=
  get_put_of_disjoint (by rw [LittleEndian.length_ofNat]; omega)
    (.inr (by rw [LittleEndian.length_ofNat]; omega))

theorem sizeOfSettings_stamped : im.stamped.sizeOfSettings = fw.sizeOfSettings := by
  have hself : (im.put 0 (LittleEndian.ofNat 2 fw.sizeOfSettings)).get 0 _ = _ :=
    get_put_self (by rw [LittleEndian.length_ofNat]; omega)
  rw [LittleEndian.length_ofNat] at hself
  unfold sizeOfSettings stamped
  rw [hself,LittleEndian.toNat_ofNat fw.short]

theorem strIdentifier_stamped : im.stamped.strIdentifier = im.strIdentifier := by
  unfold strIdentifier
  rw [get_stamped (Nat.le_refl 2)]

/-- The size is written only once. -/
theorem stamped_of_sizeOfSettings (h : im.sizeOfSettings = fw.sizeOfSettings) :
    im.stamped = im := by
  have hfields := fw.fields
  have hfit : 0 + 2 ≤ im.bytes.length := by
    rw [im.length_eq]
    omega
  have hbytes : im.get 0 2 = LittleEndian.ofNat 2 fw.sizeOfSettings :=
    LittleEndian.eq_ofNat (length_window hfit) h
  apply ext_bytes
  change overlay im.bytes 0 (LittleEndian.ofNat 2 fw.sizeOfSettings) = im.bytes
  rw [← hbytes]
  exact overlay_window hfit

theorem get_clamp {offset n : Nat} (h : offset + n ≤ 4 ∨ 12 ≤ offset) :
    (im.clamp low high defaultMin defaultMax).get offset n = im.get offset n := by
  have hmin : ∀ im : Image fw, (im.put 4 (LittleEndian.ofNat 4 defaultMin)).get offset n =
      im.get offset n := fun im => get_put_of_disjoint
    (by rw [LittleEndian.length_ofNat]; omega) (by rw [LittleEndian.length_ofNat]; omega)
  have hmax : ∀ im : Image fw, (im.put 8 (LittleEndian.ofNat 4 defaultMax)).get offset n =
      im.get offset n := fun im => get_put_of_disjoint
    (by rw [LittleEndian.length_ofNat]; omega) (by rw [LittleEndian.length_ofNat]; omega)
  unfold clamp
  dsimp only
  split
  · split
    · rw [hmax,hmin]
    · rw [hmin]
  · split
    · rw [hmax]
    · rfl

theorem frequencyMin_clamp (hmin : defaultMin < 256 ^ 4) :
    (im.clamp low high defaultMin defaultMax).frequencyMin =
    if im.frequencyMin.below low ∨ im.frequencyMin.above high then value defaultMin
    else im.frequencyMin := by
  have hkeep : ∀ im : Image fw, (im.put 8 (LittleEndian.ofNat 4 defaultMax)).frequencyMin =
      im.frequencyMin := fun im => by
    unfold frequencyMin
    rw [get_put_of_disjoint (by rw [LittleEndian.length_ofNat]; omega) (.inl (Nat.le_refl 8))]
  have hnew : (im.put 4 (LittleEndian.ofNat 4 defaultMin)).frequencyMin = value defaultMin :=
    value_put hmin (by omega)
  unfold clamp
  dsimp only
  split
  · split
    · rw [hkeep,hnew]
    · exact hnew
  · split
    · exact hkeep im
    · rfl

theorem frequencyMax_clamp (hmax : defaultMax < 256 ^ 4) :
    (im.clamp low high defaultMin defaultMax).frequencyMax =
    if im.frequencyMax.above high ∨ im.frequencyMax.below low then value defaultMax
    else im.frequencyMax := by
  have hkeep : (im.put 4 (LittleEndian.ofNat 4 defaultMin)).frequencyMax = im.frequencyMax := by
    unfold frequencyMax
    rw [get_put_of_disjoint (by rw [LittleEndian.length_ofNat]; omega)
      (.inr (by rw [LittleEndian.length_ofNat]))]
  have hnew : ∀ im : Image fw, (im.put 8 (LittleEndian.ofNat 4 defaultMax)).frequencyMax =
      value defaultMax := fun im => value_put hmax (by omega)
  unfold clamp
  dsimp only
  split
  · rw [hkeep]
    split
    · exact hnew _
    · exact hkeep
  · split
    · exact hnew _
    · rfl

theorem clamp_of_within (hmin : im.frequencyMin.Within low high)
    (hmax : im.frequencyMax.Within low high) : im.clamp low high defaultMin defaultMax = im := by
  unfold clamp
  dsimp only
  rw [if_neg (Value.within_iff.mp hmin),if_neg]
  rw [or_comm]
  exact Value.within_iff.mp hmax

end Image

/-- The range of the frequencies of a radio module. -/
def Firmware.limits (fw : Firmware) : Option (ℚ × ℚ) :=
  match fw.radioBand with
  | 915 => some (900,931)
  | 868 => some (862,893)
  | 433 => some (410,510)
  | _ => none

/-- Both frequencies are within the range of the module, as far as they are
numbers. -/
def Image.InBand (im : Image fw) : Prop := ∀ low high, fw.limits = some (low,high) →
  im.frequencyMin.Within low high ∧ im.frequencyMax.Within low high

namespace Image

/-- Both defaults are numbers within the range. -/
structure Defaults (low high : ℚ) (defaultMin defaultMax : Nat) (qmin qmax : ℚ) : Prop where
  bitsMin : defaultMin < 256 ^ 4
  bitsMax : defaultMax < 256 ^ 4
  valueMin : value defaultMin = .finite qmin
  valueMax : value defaultMax = .finite qmax
  rangeMin : low ≤ qmin ∧ qmin ≤ high
  rangeMax : low ≤ qmax ∧ qmax ≤ high

theorem defaults_915 : Defaults 900 931 0x44618000 0x44680000 902 928 := by
  constructor <;> norm_num [value]

theorem defaults_868 : Defaults 862 893 0x44578000 0x445F4000 862 893 := by
  constructor <;> norm_num [value]

theorem defaults_433 : Defaults 410 510 0x43D20000 0x43E10000 420 450 := by
  constructor <;> norm_num [value]

/-- validateSettings does nothing, or clamps to the range of the module. -/
theorem validateSettings_cases (fw : Firmware) :
    (fw.limits = none ∧ (∀ im : Image fw, im.validateSettings = im) ∧
      ∀ s, Config.validateSettings fw.radioBand s = s) ∨
    ∃ low high defaultMin defaultMax qmin qmax, fw.limits = some (low,high) ∧
      Defaults low high defaultMin defaultMax qmin qmax ∧
      (∀ im : Image fw, im.validateSettings = im.clamp low high defaultMin defaultMax) ∧
      ∀ s, Config.validateSettings fw.radioBand s = Config.clamp s low high qmin qmax := by
  unfold Firmware.limits validateSettings Config.validateSettings
  generalize fw.radioBand = radioBand
  split
  · exact .inr ⟨_,_,_,_,_,_,rfl,defaults_915,fun _ => rfl,fun _ => rfl⟩
  · exact .inr ⟨_,_,_,_,_,_,rfl,defaults_868,fun _ => rfl,fun _ => rfl⟩
  · exact .inr ⟨_,_,_,_,_,_,rfl,defaults_433,fun _ => rfl,fun _ => rfl⟩
  · exact .inl ⟨rfl,fun im => by simp,fun s => by simp⟩

theorem get_validateSettings {offset n : Nat} (h : offset + n ≤ 4 ∨ 12 ≤ offset) :
    im.validateSettings.get offset n = im.get offset n := by
  rcases validateSettings_cases fw with ⟨-,hsame,-⟩ | ⟨_,_,_,_,_,_,-,-,hclamp,-⟩
  · rw [hsame]
  · rw [hclamp,get_clamp h]

theorem inBand_validateSettings (im : Image fw) : im.validateSettings.InBand := by
  rcases validateSettings_cases fw with
    ⟨hnone,-⟩ | ⟨low,high,_,_,qmin,qmax,hlimits,hdefaults,hclamp,-⟩
  · intro low high hlimits
    rw [hnone] at hlimits
    cases hlimits
  · intro low' high' hlimits'
    obtain ⟨rfl,rfl⟩ := Prod.mk.inj (Option.some.inj (hlimits.symm.trans hlimits'))
    rw [hclamp,frequencyMin_clamp hdefaults.bitsMin,
      frequencyMax_clamp hdefaults.bitsMax,hdefaults.valueMin,hdefaults.valueMax]
    constructor
    · split
      next => exact Value.within_finite.mpr hdefaults.rangeMin
      next h => exact Value.within_iff.mpr h
    · split
      next => exact Value.within_finite.mpr hdefaults.rangeMax
      next h => exact Value.within_iff.mpr (by rwa [or_comm])

theorem validateSettings_of_inBand (h : im.InBand) : im.validateSettings = im := by
  rcases validateSettings_cases fw with ⟨-,hsame,-⟩ | ⟨low,high,_,_,_,_,hlimits,-,hclamp,-⟩
  · exact hsame im
  · obtain ⟨hmin,hmax⟩ := h low high hlimits
    rw [hclamp,clamp_of_within hmin hmax]

/-- Where both frequencies are numbers, validateSettings does to these what it
does to the settings of the radio. -/
theorem validateSettings_values {s : Settings} (hmin : im.frequencyMin = .finite s.frequencyMin)
    (hmax : im.frequencyMax = .finite s.frequencyMax) :
    im.validateSettings.frequencyMin =
        .finite (Config.validateSettings fw.radioBand s).frequencyMin ∧
      im.validateSettings.frequencyMax =
        .finite (Config.validateSettings fw.radioBand s).frequencyMax := by
  rcases validateSettings_cases fw with ⟨-,hsame,hs⟩ | ⟨low,high,_,_,_,_,-,hdefaults,hclamp,hs⟩
  · rw [hsame,hs]
    exact ⟨hmin,hmax⟩
  · rw [hclamp,hs,frequencyMin_clamp hdefaults.bitsMin,
      frequencyMax_clamp hdefaults.bitsMax,hdefaults.valueMin,hdefaults.valueMax,
      hmin,hmax]
    simp only [Value.below,Value.above,decide_eq_true_eq,Config.clamp]
    constructor <;> split <;> rfl

end Image

end LoRaSerial.Nvm
