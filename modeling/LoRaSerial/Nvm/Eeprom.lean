import LoRaSerial.Nvm.Settings

namespace LoRaSerial.Nvm
open Overlay
open UniqueIds (IdBytes nvmEraseValue erased)
open VC (maxVc)

variable {fw : Firmware} {im : Image fw} {e : Eeprom fw}

/-- The header that recordSystemSettings writes. -/
def Image.Headed (im : Image fw) : Prop :=
  im.sizeOfSettings = fw.sizeOfSettings ∧ im.strIdentifier = lrsIdentifier

instance (im : Image fw) : Decidable im.Headed := inferInstanceAs (Decidable (_ ∧ _))

/-- Settings with the identifier of this firmware, as the radio always has them
in RAM. -/
structure Active (fw : Firmware) extends Image fw where
  identifier : toImage.strIdentifier = lrsIdentifier

theorem Active.ext_image {s s' : Active fw} (h : s.toImage = s'.toImage) : s = s' := by
  cases s
  cases s'
  cases h
  rfl

/-- The settings of this firmware in the EEPROM, if there are any. -/
def Image.recorded (im : Image fw) : Option (Active fw) :=
  if h : im.Headed then some ⟨im,h.2⟩ else none

def Eeprom.recorded (e : Eeprom fw) : Option (Active fw) := e.settings.recorded

namespace Eeprom

theorem get_header {offset n : Nat} (h : offset + n ≤ 34) :
    e.get offset n = e.settings.get offset n := by
  have hfields := fw.fields
  change window e.bytes offset n = window (window e.bytes 0 fw.sizeOfSettings) offset n
  rw [window_window (by omega),Nat.zero_add]

theorem settings_put (im : Image fw) : (e.put 0 im.bytes).settings = im := by
  have hfit : 0 + im.bytes.length ≤ e.bytes.length := by
    rw [im.length_eq,e.length_eq]
    exact sizeOfSettings_le
  have hself := window_overlay_self hfit
  rw [im.length_eq] at hself
  exact Image.ext_bytes hself

theorem put_put (im im' : Image fw) :
    (e.put 0 im.bytes).put 0 im'.bytes = e.put 0 im'.bytes := by
  have hbytes : overlay (overlay e.bytes 0 im.bytes) 0 im'.bytes = overlay e.bytes 0 im'.bytes := by
    refine overlay_overlay (by rw [im.length_eq,im'.length_eq]) ?_
    rw [im'.length_eq,e.length_eq]
    exact sizeOfSettings_le
  unfold put
  simp only [hbytes]

/-- An empty EEPROM has no settings. -/
theorem not_headed_of_blank (h : LittleEndian.toNat (e.get 0 4) = 0xFFFFFFFF) :
    ¬e.settings.Headed := by
  rintro ⟨-,hidentifier⟩
  have hfits := fw.fits
  have hfields := fw.fields
  have hbytes : e.get 0 4 = LittleEndian.ofNat 4 0xFFFFFFFF :=
    LittleEndian.eq_ofNat (length_get (by omega)) h
  have hpart : e.settings.get 2 2 = window (e.get 0 4) 2 2 := by
    rw [← get_header (by omega)]
    change e.get 2 2 = window (window e.bytes 0 4) 2 2
    rw [window_window (by omega)]
    rfl
  unfold Image.strIdentifier at hidentifier
  rw [hpart,hbytes] at hidentifier
  exact absurd hidentifier (by decide)

theorem recorded_of_not_headed (h : ¬e.settings.Headed) : e.recorded = none := dif_neg h

theorem recorded_of_settings {s : Active fw} (h : e.settings = s.toImage) (hheaded : s.Headed) :
    e.recorded = some s := by
  rw [recorded,h]
  exact dif_pos hheaded

theorem toNat_size : LittleEndian.toNat (e.get 0 2) = e.settings.sizeOfSettings := by
  rw [get_header (by omega)]
  rfl

theorem toNat_identifier : LittleEndian.toNat (e.get 2 2) = e.settings.strIdentifier := by
  rw [get_header (by omega)]
  rfl

theorem getUniqueId_ext {e e' : Eeprom fw} {vc vc' : Fin maxVc}
    (h : e.get (nvmVcOffset fw vc) uniqueIdBytes = e'.get (nvmVcOffset fw vc') uniqueIdBytes) :
    nvmGetUniqueId e vc = nvmGetUniqueId e' vc' := Subtype.ext h

/-- Recording settings leaves the unique IDs. -/
theorem getUniqueId_put_settings (im : Image fw) :
    nvmGetUniqueId (e.put 0 im.bytes) = nvmGetUniqueId e := by
  funext vc
  have hbounds : _ ≤ nvmVcOffset fw vc ∧ _ := nvmVcOffset_bounds vc
  refine getUniqueId_ext (window_overlay_of_disjoint ?_ (.inr ?_))
  · rw [im.length_eq,e.length_eq]
    exact sizeOfSettings_le
  · rw [im.length_eq]
    omega

/-- Two circuits have disjoint entries. -/
theorem nvmVcOffset_disjoint {v w : Fin maxVc} (h : w ≠ v) :
    nvmVcOffset fw w + uniqueIdBytes ≤ nvmVcOffset fw v ∨
      nvmVcOffset fw v + uniqueIdBytes ≤ nvmVcOffset fw w := by
  have hne : (w : Nat) ≠ v := fun heq => h (Fin.ext heq)
  unfold nvmVcOffset uniqueIdBytes
  omega

theorem getUniqueId_put (v : Fin maxVc) (id : IdBytes) :
    nvmGetUniqueId (e.put (nvmVcOffset fw v) id.toList) =
      Function.update (nvmGetUniqueId e) v id := by
  have hlen : id.toList.length = uniqueIdBytes := id.toList_length
  have hfit : nvmVcOffset fw v + id.toList.length ≤ e.bytes.length := by
    rw [hlen,e.length_eq]
    exact (nvmVcOffset_bounds v).2
  funext w
  by_cases hw : w = v
  · subst hw
    rw [Function.update_self]
    refine Subtype.ext ?_
    have hself := window_overlay_self hfit
    rwa [hlen] at hself
  · rw [Function.update_of_ne hw]
    refine getUniqueId_ext (window_overlay_of_disjoint hfit ?_)
    rw [hlen]
    exact nvmVcOffset_disjoint hw

/-- Saving an ID leaves the settings. -/
theorem settings_put_id (v : Fin maxVc) (id : IdBytes) :
    (e.put (nvmVcOffset fw v) id.toList).settings = e.settings := by
  have hlen : id.toList.length = uniqueIdBytes := id.toList_length
  have hbounds : _ ≤ nvmVcOffset fw v ∧ _ := nvmVcOffset_bounds v
  refine Image.ext_bytes (window_overlay_of_disjoint ?_ (.inl ?_))
  · rw [hlen,e.length_eq]
    exact hbounds.2
  · omega

/-- The chunks that have been written are erased. -/
theorem getElem?_erase {n i : Nat} (hn : n * 64 ≤ fw.eepromSize) (hi : i < n * 64) :
    ((List.range n).foldl (fun e k => e.put (k * 64) eraseChunk) e).bytes[i]? =
      some nvmEraseValue := by
  induction n with
  | zero => omega
  | succ n ih =>
    rw [List.range_succ,List.foldl_concat]
    generalize (List.range n).foldl (fun e k => e.put (k * 64) eraseChunk) e = e' at ih ⊢
    have hlen : eraseChunk.length = 64 := List.length_replicate
    have hfit : n * 64 + eraseChunk.length ≤ e'.bytes.length := by
      rw [hlen,e'.length_eq]
      omega
    change (overlay e'.bytes (n * 64) eraseChunk)[i]? = _
    by_cases hlow : i < n * 64
    · have hwindow : window (overlay e'.bytes (n * 64) eraseChunk) i 1 = window e'.bytes i 1 :=
        window_overlay_of_disjoint hfit (.inl (by omega))
      have hfirst := congrArg (·[0]?) hwindow
      simp only [getElem?_window,Nat.add_zero,Nat.zero_lt_one,if_true] at hfirst
      rw [hfirst]
      exact ih (by omega) hlow
    · obtain ⟨k,rfl⟩ := Nat.exists_eq_add_of_le (Nat.le_of_not_lt hlow)
      rw [getElem?_overlay hfit,if_pos (by omega),eraseChunk,List.getElem?_replicate,
        if_pos (by omega)]

theorem erase_bytes : (nvmErase e).bytes = List.replicate fw.eepromSize nvmEraseValue := by
  have hchunks : fw.eepromSize / 64 * 64 = fw.eepromSize := Nat.div_mul_cancel fw.chunks
  apply List.ext_getElem?
  intro i
  by_cases hi : i < fw.eepromSize
  · rw [List.getElem?_replicate,if_pos hi]
    exact getElem?_erase (by omega) (by omega)
  · rw [List.getElem?_eq_none (by rw [(nvmErase e).length_eq]; omega),
      List.getElem?_eq_none (by rw [List.length_replicate]; omega)]

theorem get_erase {offset n : Nat} (h : offset + n ≤ fw.eepromSize) :
    (nvmErase e).get offset n = List.replicate n nvmEraseValue := by
  rw [get,window,erase_bytes,List.drop_replicate,List.take_replicate]
  congr 1
  omega

theorem recorded_erase : (nvmErase e).recorded = none := by
  have hfits := fw.fits
  have hfields := fw.fields
  refine recorded_of_not_headed (not_headed_of_blank ?_)
  rw [get_erase (by omega)]
  decide

theorem getUniqueId_erase : nvmGetUniqueId (nvmErase e) = fun _ => erased := by
  funext vc
  exact Subtype.ext (get_erase (nvmVcOffset_bounds vc).2)

end Eeprom

end LoRaSerial.Nvm
