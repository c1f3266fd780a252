import LoRaSerial.Lib.Runs
import LoRaSerial.Nvm.Eeprom

namespace LoRaSerial.Nvm
open Runs
open UniqueIds (IdBytes erased)
open VC (maxVc)

variable {fw : Firmware} {sys : System fw} {e : Eeprom fw}

theorem recordIf_of {wrong : Eeprom fw → Bool} (h : wrong sys.eeprom = true) :
    recordIf wrong sys = recordSystemSettings sys := if_pos h

theorem recordIf_of_not {wrong : Eeprom fw → Bool} (h : wrong sys.eeprom = false) :
    recordIf wrong sys = sys := if_neg (by rw [h]; exact Bool.false_ne_true)

theorem settings_record :
    (recordSystemSettings sys).eeprom.settings = sys.settings.stamped := Eeprom.settings_put _

theorem headed_stamped {im : Image fw} (h : im.strIdentifier = lrsIdentifier) :
    im.stamped.Headed :=
  ⟨Image.sizeOfSettings_stamped,Image.strIdentifier_stamped.trans h⟩

theorem wrongSize_eq_false (h : e.settings.sizeOfSettings = fw.sizeOfSettings) :
    wrongSize e = false := by
  unfold wrongSize
  rw [Eeprom.toNat_size,h,bne_self_eq_false]

theorem wrongIdentifier_eq_false (h : e.settings.strIdentifier = lrsIdentifier) :
    wrongIdentifier e = false := by
  unfold wrongIdentifier
  rw [Eeprom.toNat_identifier,h,bne_self_eq_false]

/-- The checks of the header record the settings in RAM if it is not right. -/
theorem checks_eq (h : sys.settings.strIdentifier = lrsIdentifier) :
    recordIf wrongIdentifier (recordIf wrongSize (recordIf isBlank sys)) =
      if sys.eeprom.settings.Headed then sys else recordSystemSettings sys := by
  have hrecorded := headed_stamped h
  rw [← settings_record] at hrecorded
  have hsize := wrongSize_eq_false hrecorded.1
  have hidentifier := wrongIdentifier_eq_false hrecorded.2
  by_cases hheaded : sys.eeprom.settings.Headed
  · have hfull : isBlank sys.eeprom = false := by
      rw [isBlank,beq_eq_false_iff_ne]
      exact fun hblank => Eeprom.not_headed_of_blank hblank hheaded
    rw [if_pos hheaded,recordIf_of_not hfull,recordIf_of_not (wrongSize_eq_false hheaded.1),
      recordIf_of_not (wrongIdentifier_eq_false hheaded.2)]
  · rw [if_neg hheaded]
    cases hblank : isBlank sys.eeprom with
    | true => rw [recordIf_of hblank,recordIf_of_not hsize,recordIf_of_not hidentifier]
    | false =>
      rw [recordIf_of_not hblank]
      cases hwrong : wrongSize sys.eeprom with
      | true => rw [recordIf_of hwrong,recordIf_of_not hidentifier]
      | false =>
        rw [recordIf_of_not hwrong]
        refine recordIf_of ?_
        rw [wrongIdentifier,bne_iff_ne,Eeprom.toNat_identifier]
        refine fun hid => hheaded ⟨?_,hid⟩
        rw [← Eeprom.toNat_size]
        exact bne_eq_false_iff_eq.mp hwrong

namespace Active

def stamped (s : Active fw) : Active fw :=
  ⟨s.toImage.stamped,Image.strIdentifier_stamped.trans s.identifier⟩

theorem identifier_validateSettings (s : Active fw) :
    s.toImage.validateSettings.strIdentifier = lrsIdentifier := by
  unfold Image.strIdentifier
  rw [Image.get_validateSettings (.inl (Nat.le_refl 4))]
  exact s.identifier

def validated (s : Active fw) : Active fw :=
  ⟨s.toImage.validateSettings,s.identifier_validateSettings⟩

theorem headed_validated {s : Active fw} (h : s.Headed) : s.validated.Headed := by
  refine ⟨?_,s.identifier_validateSettings⟩
  change s.toImage.validateSettings.sizeOfSettings = _
  unfold Image.sizeOfSettings
  rw [Image.get_validateSettings (.inl (by omega))]
  exact h.1

end Active

theorem Eeprom.headed_of_recorded {s : Active fw} (h : e.recorded = some s) :
    s.Headed ∧ e.settings = s.toImage := by
  unfold Eeprom.recorded Image.recorded at h
  split at h
  next hheaded =>
    cases h
    exact ⟨hheaded,rfl⟩
  next => cases h

/-- The settings a start uses: those in the EEPROM, or the defaults. -/
def started (defaults : Active fw) (recorded : Option (Active fw)) : Active fw :=
  (recorded.getD defaults.stamped).validated

theorem headed_started {defaults : Active fw} : (started defaults e.recorded).Headed := by
  refine Active.headed_validated ?_
  cases hrecorded : e.recorded with
  | none => exact headed_stamped defaults.identifier
  | some s => exact (Eeprom.headed_of_recorded hrecorded).1

/-- loadSettings from any content of the EEPROM. -/
theorem loadSettings_eq {defaults : Active fw} (h : sys.settings = defaults.toImage) :
    loadSettings sys =
      { sys with
        eeprom := sys.eeprom.put 0 (started defaults sys.eeprom.recorded).bytes
        settings := (started defaults sys.eeprom.recorded).toImage } := by
  have hidentifier : sys.settings.strIdentifier = lrsIdentifier := h ▸ defaults.identifier
  have hstamped : (started defaults sys.eeprom.recorded).toImage.stamped = _ :=
    Image.stamped_of_sizeOfSettings headed_started.1
  unfold loadSettings
  rw [checks_eq hidentifier]
  cases hrecorded : sys.eeprom.recorded with
  | some s =>
    obtain ⟨hheaded,hsettings⟩ := Eeprom.headed_of_recorded hrecorded
    rw [hrecorded] at hstamped
    rw [if_pos (hsettings ▸ hheaded)]
    unfold recordSystemSettings
    dsimp only
    rw [hsettings]
    exact congrArg (fun im : Image fw => (⟨sys.eeprom.put 0 im.bytes,im,_⟩ : System fw)) hstamped
  | none =>
    rw [hrecorded] at hstamped
    have hnot : ¬sys.eeprom.settings.Headed := fun hheaded => by
      rw [Eeprom.recorded,Image.recorded,dif_pos hheaded] at hrecorded
      cases hrecorded
    rw [if_neg hnot]
    dsimp only
    rw [settings_record]
    unfold recordSystemSettings
    dsimp only
    rw [Eeprom.put_put,h]
    exact congrArg (fun im : Image fw => (⟨sys.eeprom.put 0 im.bytes,im,_⟩ : System fw)) hstamped

/-- The settings recorded last, and the unique IDs. -/
structure Store (fw : Firmware) where
  recorded : Option (Active fw)
  settings : Active fw
  table : UniqueIds.Table

/-- What the firmware does with the NVM, and a change of the settings in RAM. -/
inductive Operation (fw : Firmware) where
  | change (settings : Active fw)
  | recordSystemSettings
  | nvmSaveUniqueId (vc : Fin maxVc) (uniqueId : IdBytes)
  | nvmSaveVcUniqueId (vc : Fin maxVc)
  | nvmEraseUniqueId (vc : Fin maxVc)
  | nvmErase
  | setup

def System.step (defaults : Active fw) (sys : System fw) : Operation fw → System fw
  | .change settings => { sys with settings := settings.toImage }
  | .recordSystemSettings => Nvm.recordSystemSettings sys
  | .nvmSaveUniqueId vc uniqueId => Nvm.nvmSaveUniqueId sys vc uniqueId
  | .nvmSaveVcUniqueId vc => Nvm.nvmSaveVcUniqueId sys vc
  | .nvmEraseUniqueId vc => Nvm.nvmEraseUniqueId sys vc
  | .nvmErase => { sys with eeprom := Nvm.nvmErase sys.eeprom }
  | .setup => Nvm.setup defaults.toImage sys.eeprom

/-- A start with this in the NVM. -/
def Store.start (defaults : Active fw) (recorded : Option (Active fw)) (table : UniqueIds.Table) :
    Store fw :=
  let settings := started defaults recorded
  { recorded := some settings, settings, table := UniqueIds.setup table settings.server }

def Store.step (defaults : Active fw) (st : Store fw) : Operation fw → Store fw
  | .change settings => { st with settings }
  | .recordSystemSettings =>
    { st with recorded := some st.settings.stamped, settings := st.settings.stamped }
  | .nvmSaveUniqueId vc uniqueId =>
    { st with table := UniqueIds.nvmSaveUniqueId st.table vc uniqueId }
  | .nvmSaveVcUniqueId vc =>
    let uniqueId := (st.table.virtualCircuitList vc).uniqueId
    if st.table.nvm vc = uniqueId then st
    else { st with table := UniqueIds.nvmSaveUniqueId st.table vc uniqueId }
  | .nvmEraseUniqueId vc => { st with table := UniqueIds.nvmEraseUniqueId st.table vc }
  | .nvmErase => { st with recorded := none, table := { st.table with nvm := fun _ => erased } }
  | .setup => .start defaults st.recorded st.table

/-- The unique IDs in the EEPROM and in RAM. -/
def System.table (sys : System fw) : UniqueIds.Table :=
  ⟨nvmGetUniqueId sys.eeprom,sys.virtualCircuitList⟩

/-- The bytes of the EEPROM hold what the store has. -/
structure Refines (sys : System fw) (st : Store fw) : Prop where
  recorded : sys.eeprom.recorded = st.recorded
  settings : sys.settings = st.settings.toImage
  table : sys.table = st.table

namespace Refines

variable {st : Store fw} {defaults : Active fw}

theorem recordSystemSettings (h : Refines sys st) :
    Refines (Nvm.recordSystemSettings sys) (st.step defaults .recordSystemSettings) where
  recorded := by
    refine Eeprom.recorded_of_settings ?_ (headed_stamped st.settings.identifier)
    rw [settings_record,h.settings]
    rfl
  settings := by
    change sys.settings.stamped = st.settings.toImage.stamped
    rw [h.settings]
  table := by
    rw [Store.step,← h.table]
    exact congrArg (UniqueIds.Table.mk · _) (Eeprom.getUniqueId_put_settings _)

theorem nvmSaveUniqueId (h : Refines sys st) (vc : Fin maxVc) (uniqueId : IdBytes) :
    Refines (Nvm.nvmSaveUniqueId sys vc uniqueId)
      { st with table := UniqueIds.nvmSaveUniqueId st.table vc uniqueId } where
  recorded := by
    rw [← h.recorded]
    exact congrArg Image.recorded (Eeprom.settings_put_id vc uniqueId)
  settings := h.settings
  table := by
    rw [← h.table]
    exact congrArg (UniqueIds.Table.mk · _) (Eeprom.getUniqueId_put vc uniqueId)

theorem nvmSaveVcUniqueId (h : Refines sys st) (vc : Fin maxVc) :
    Refines (Nvm.nvmSaveVcUniqueId sys vc) (st.step defaults (.nvmSaveVcUniqueId vc)) := by
  unfold Nvm.nvmSaveVcUniqueId Store.step
  dsimp only
  rw [← h.table]
  change Refines _ (if nvmGetUniqueId sys.eeprom vc = (sys.virtualCircuitList vc).uniqueId then st
    else _)
  by_cases hsame : nvmGetUniqueId sys.eeprom vc = (sys.virtualCircuitList vc).uniqueId
  · rw [if_neg (not_not.mpr hsame),if_pos hsame]
    exact h
  · rw [if_pos hsame,if_neg hsame]
    have hsave := h.nvmSaveUniqueId vc (sys.virtualCircuitList vc).uniqueId
    rwa [← h.table] at hsave

theorem nvmEraseUniqueId (h : Refines sys st) (vc : Fin maxVc) :
    Refines (Nvm.nvmEraseUniqueId sys vc) (st.step defaults (.nvmEraseUniqueId vc)) where
  recorded := (h.nvmSaveUniqueId vc erased).recorded
  settings := h.settings
  table := by
    have htable : (Nvm.nvmSaveUniqueId sys vc erased).table =
        UniqueIds.nvmSaveUniqueId st.table vc erased :=
      (h.nvmSaveUniqueId vc erased).table
    rw [Store.step,UniqueIds.nvmEraseUniqueId,← htable]
    rfl

theorem nvmErase (h : Refines sys st) :
    Refines { sys with eeprom := Nvm.nvmErase sys.eeprom } (st.step defaults .nvmErase) where
  recorded := Eeprom.recorded_erase
  settings := h.settings
  table := by
    rw [Store.step,← h.table]
    exact congrArg (UniqueIds.Table.mk · _) Eeprom.getUniqueId_erase

theorem load {l : List (Fin maxVc)} (h : Refines sys st) :
    Refines (l.foldl nvmLoadVcUniqueId sys)
      { st with table := l.foldl UniqueIds.nvmLoadVcUniqueId st.table } := by
  induction l generalizing sys st with
  | nil => exact h
  | cons vc l ih =>
    have hload : Refines (nvmLoadVcUniqueId sys vc)
        { st with table := UniqueIds.nvmLoadVcUniqueId st.table vc } := by
      unfold nvmLoadVcUniqueId UniqueIds.nvmLoadVcUniqueId
      have hset : UniqueIds.nvmIsVcUniqueIdSet st.table vc = nvmIsVcUniqueIdSet sys.eeprom vc := by
        rw [← h.table]
        rfl
      rw [hset]
      dsimp only
      split
      · exact ⟨h.recorded,h.settings,by rw [← h.table]; rfl⟩
      · exact h
    exact ih hload

end Refines

/-- What setup makes of any content of the EEPROM. -/
theorem refines_setup (defaults : Active fw) (e : Eeprom fw) (table : UniqueIds.Table)
    (htable : table.nvm = nvmGetUniqueId e) :
    Refines (setup defaults.toImage e) (.start defaults e.recorded table) := by
  have hloaded : Refines
      (loadSettings ⟨e,defaults.toImage,fun _ => ⟨List.Vector.replicate 16 0,false⟩⟩)
      { recorded := some (started defaults e.recorded), settings := started defaults e.recorded
        table := { table with
          virtualCircuitList := fun _ => ⟨List.Vector.replicate 16 0,false⟩ } } := by
    rw [loadSettings_eq rfl]
    refine ⟨Eeprom.recorded_of_settings (Eeprom.settings_put _) headed_started,rfl,?_⟩
    rw [htable]
    exact congrArg (UniqueIds.Table.mk · _) (Eeprom.getUniqueId_put_settings _)
  have hserver : (loadSettings ⟨e,defaults.toImage,fun _ =>
      ⟨List.Vector.replicate 16 0,false⟩⟩).settings = (started defaults e.recorded).toImage :=
    hloaded.settings
  unfold setup Store.start UniqueIds.setup
  dsimp only
  rw [hserver]
  split
  · exact hloaded.load
  · exact hloaded

theorem refines_step {defaults : Active fw} {st : Store fw} (h : Refines sys st)
    (op : Operation fw) : Refines (sys.step defaults op) (st.step defaults op) := by
  cases op with
  | change settings => exact ⟨h.recorded,rfl,h.table⟩
  | recordSystemSettings => exact h.recordSystemSettings
  | nvmSaveUniqueId vc uniqueId => exact h.nvmSaveUniqueId vc uniqueId
  | nvmSaveVcUniqueId vc => exact h.nvmSaveVcUniqueId vc
  | nvmEraseUniqueId vc => exact h.nvmEraseUniqueId vc
  | nvmErase => exact h.nvmErase
  | setup =>
    have hsetup := refines_setup defaults sys.eeprom st.table (by rw [← h.table]; rfl)
    rwa [h.recorded] at hsetup

/-- The unique IDs in the EEPROM before RAM has any. -/
def Eeprom.table (e : Eeprom fw) : UniqueIds.Table :=
  ⟨nvmGetUniqueId e,fun _ => ⟨List.Vector.replicate 16 0,false⟩⟩

/-- From any content of the EEPROM on, in any run of the operations and of
restarts, the bytes of the EEPROM hold the settings recorded last and the unique
IDs saved last, each at its place, and a restart finds them there. -/
theorem eeprom_refines_store (defaults : Active fw) (e : Eeprom fw) (es : List (Operation fw)) :
    Refines (run (System.step defaults) (setup defaults.toImage e) es)
      (run (Store.step defaults) (.start defaults e.recorded e.table) es) := by
  have hstart := refines_setup defaults e e.table rfl
  generalize setup defaults.toImage e = sys at hstart ⊢
  generalize Store.start defaults e.recorded e.table = st at hstart ⊢
  induction es generalizing sys st with
  | nil => exact hstart
  | cons op es ih => exact ih _ _ (refines_step hstart op)

theorem load_frame {l : List (Fin maxVc)} :
    (l.foldl nvmLoadVcUniqueId sys).eeprom = sys.eeprom ∧
      (l.foldl nvmLoadVcUniqueId sys).settings = sys.settings := by
  induction l generalizing sys with
  | nil => exact ⟨rfl,rfl⟩
  | cons vc l ih =>
    rw [List.foldl_cons,ih.1,ih.2]
    unfold nvmLoadVcUniqueId
    split <;> exact ⟨rfl,rfl⟩

theorem setup_frame (defaults : Active fw) (e : Eeprom fw) :
    (setup defaults.toImage e).eeprom = e.put 0 (started defaults e.recorded).bytes ∧
      (setup defaults.toImage e).settings = (started defaults e.recorded).toImage := by
  unfold setup
  rw [loadSettings_eq rfl]
  dsimp only
  split
  · exact load_frame
  · exact ⟨rfl,rfl⟩

theorem started_recorded {defaults s : Active fw} (h : s.InBand) : started defaults (some s) = s :=
  Active.ext_image (Image.validateSettings_of_inBand h)

theorem inBand_started (defaults : Active fw) (recorded : Option (Active fw)) :
    (started defaults recorded).InBand := Image.inBand_validateSettings _

/-- Whatever the EEPROM has, after a start the settings are those it had, or the
defaults, with the frequencies that are numbers within the range of the module.
The unique IDs are still there, and the next start changes nothing at all. -/
theorem setup_settles (defaults : Active fw) (e : Eeprom fw) :
    let sys := setup defaults.toImage e
    sys.settings = (started defaults e.recorded).toImage ∧ sys.settings.InBand ∧
      nvmGetUniqueId sys.eeprom = nvmGetUniqueId e ∧ setup defaults.toImage sys.eeprom = sys := by
  intro sys
  obtain ⟨heeprom,hsettings⟩ := setup_frame defaults e
  have hband := inBand_started defaults e.recorded
  refine ⟨hsettings,hsettings ▸ hband,?_,?_⟩
  · rw [heeprom]
    exact Eeprom.getUniqueId_put_settings _
  · have hrecorded : sys.eeprom.recorded = some (started defaults e.recorded) := by
      rw [heeprom]
      exact Eeprom.recorded_of_settings (Eeprom.settings_put _) headed_started
    have hagain : started defaults sys.eeprom.recorded = started defaults e.recorded := by
      rw [hrecorded,started_recorded hband]
    have hload : ∀ list, loadSettings ⟨sys.eeprom,defaults.toImage,list⟩ =
        loadSettings ⟨e,defaults.toImage,list⟩ := by
      intro list
      rw [loadSettings_eq rfl,loadSettings_eq rfl]
      dsimp only
      rw [hagain,heeprom,Eeprom.put_put]
    change setup defaults.toImage sys.eeprom = setup defaults.toImage e
    unfold setup
    rw [hload]

end LoRaSerial.Nvm
