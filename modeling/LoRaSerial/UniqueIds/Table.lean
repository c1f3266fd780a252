import LoRaSerial.VC.Radio
import Mathlib.Data.Vector.Basic

namespace LoRaSerial.UniqueIds
open VC (maxVc VcAddress vcUnassigned)

abbrev IdBytes := List.Vector UInt8 16

def nvmEraseValue : UInt8 := 0xFF

/-- A unique ID. Sixteen times NVM_ERASE_VALUE stands for an unknown one. -/
structure UniqueId where
  bytes : IdBytes
  known : bytes.toList.any (· != nvmEraseValue) = true
  deriving DecidableEq

/-- What a virtualCircuitList entry has of a unique ID. -/
structure Entry where
  uniqueId : IdBytes
  valid : Bool
  deriving DecidableEq

/-- The unique ID slots of the NVM and their copies in RAM. -/
structure Table where
  nvm : Fin maxVc → IdBytes
  virtualCircuitList : Fin maxVc → Entry

def nvmIsVcUniqueIdSet (t : Table) (vc : Fin maxVc) : Bool :=
  (t.nvm vc).toList.any (· != nvmEraseValue)

def nvmSaveUniqueId (t : Table) (vc : Fin maxVc) (uniqueId : IdBytes) : Table where
  nvm := Function.update t.nvm vc uniqueId
  virtualCircuitList := Function.update t.virtualCircuitList vc ⟨uniqueId,true⟩

def erased : IdBytes := List.Vector.replicate 16 nvmEraseValue

def nvmEraseUniqueId (t : Table) (vc : Fin maxVc) : Table :=
  let t := nvmSaveUniqueId t vc erased
  { t with virtualCircuitList := Function.update t.virtualCircuitList vc ⟨erased,false⟩ }

def nvmLoadVcUniqueId (t : Table) (vc : Fin maxVc) : Table :=
  if nvmIsVcUniqueIdSet t vc then
    { t with virtualCircuitList := Function.update t.virtualCircuitList vc ⟨t.nvm vc,true⟩ }
  else t

/-- What setup does with the table: RAM starts zeroed, a server loads the NVM. -/
def setup (t : Table) (server : Bool) : Table :=
  let t := { t with virtualCircuitList := fun _ => ⟨List.Vector.replicate 16 0,false⟩ }
  if server then (List.finRange maxVc).foldl nvmLoadVcUniqueId t else t

/-- The entry of virtualCircuitList that has a unique ID. -/
def Table.find (t : Table) (id : IdBytes) : Option (Fin maxVc) :=
  (List.finRange maxVc).find? fun v =>
    (t.virtualCircuitList v).valid && (t.virtualCircuitList v).uniqueId == id

def Table.freeAddress (t : Table) : Option (Fin maxVc) :=
  (List.finRange maxVc).find? fun v => !(t.virtualCircuitList v).valid

/-- The source addresses rcvDatagram lets through, as entries of
virtualCircuitList, with `none` for VC_UNASSIGNED. -/
def rcvSource (rxSrcVc : VcAddress) : Option (Option (Fin maxVc)) :=
  if rxSrcVc = vcUnassigned then some none else rxSrcVc.index.map some

/-- Translate a unique ID into a circuit number. -/
def vcIdToAddressByte (t : Table) (server : Bool) (srcAddr : Option (Fin maxVc)) (id : IdBytes) :
    Table × Except Int (Fin maxVc) :=
  match t.find id with
  | some v => (t,.ok v)
  | none =>
    if srcAddr = none ∧ server = false then (t,.error (-1))
    else
      match srcAddr.or t.freeAddress with
      | none => (t,.error (-2))
      | some v =>
        if (t.virtualCircuitList v).valid then (t,.error (-3))
        else (nvmSaveUniqueId t v id,.ok v)

/-- RADIO_TRAIN_WAIT_FOR_FIND_PARTNER, a TRAINING_FIND_PARTNER from a client:
the first free slot of the NVM. -/
def trainFindPartner (t : Table) (trainingPartnerID : IdBytes) : Table :=
  match (List.finRange maxVc).find? fun v => !nvmIsVcUniqueIdSet t v with
  | some v => nvmSaveUniqueId t v trainingPartnerID
  | none => t

def valInt (settingValue valMin valMax : Nat) : Bool :=
  valMin ≤ settingValue && settingValue ≤ valMax

/-- Validate the server value. A radio that is about to become the server
clears the other slots of the NVM and takes the server's. -/
def valServer (t : Table) (server : Bool) (myUniqueId : IdBytes)
    (settingValue valMin valMax : Nat) : Table × Bool :=
  let valid := valInt settingValue valMin valMax
  if valid = true ∧ server = false ∧ settingValue ≠ 0 then
    let t := ((List.finRange maxVc).drop 1).foldl
      (fun t v => if nvmIsVcUniqueIdSet t v then nvmEraseUniqueId t v else t) t
    (nvmSaveUniqueId t 0 myUniqueId,valid)
  else (t,valid)

/-- Slot `v` of the NVM has this ID. -/
def Table.Stores (t : Table) (v : Fin maxVc) (id : UniqueId) : Prop := t.nvm v = id.bytes

/-- Entry `v` of virtualCircuitList is valid and has this ID. -/
def Table.Lists (t : Table) (v : Fin maxVc) (id : UniqueId) : Prop :=
  (t.virtualCircuitList v).valid = true ∧ (t.virtualCircuitList v).uniqueId = id.bytes

instance (t : Table) (v : Fin maxVc) (id : UniqueId) : Decidable (t.Stores v id) :=
  inferInstanceAs (Decidable (_ = _))

instance (t : Table) (v : Fin maxVc) (id : UniqueId) : Decidable (t.Lists v id) :=
  inferInstanceAs (Decidable (_ ∧ _))

/-- RAM has exactly the IDs of the NVM. -/
def Table.Mirrors (t : Table) : Prop := ∀ v id, t.Lists v id ↔ t.Stores v id

theorem UniqueId.ext_bytes {id id' : UniqueId} (h : id.bytes = id'.bytes) : id = id' := by
  cases id
  cases id'
  cases h
  rfl

theorem UniqueId.ne_erased (id : UniqueId) : id.bytes ≠ erased := by
  intro h
  have hk := id.known
  rw [h] at hk
  exact absurd hk (by decide)

theorem isSet_iff {t : Table} {v : Fin maxVc} :
    nvmIsVcUniqueIdSet t v = true ↔ ∃ id : UniqueId, t.Stores v id :=
  ⟨fun h => ⟨⟨t.nvm v,h⟩,rfl⟩,fun ⟨id,h⟩ => by
    rw [nvmIsVcUniqueIdSet,h]
    exact id.known⟩

theorem Table.Lists.unique {t : Table} {v : Fin maxVc} {id id' : UniqueId}
    (h : t.Lists v id) (h' : t.Lists v id') : id = id' :=
  UniqueId.ext_bytes (h.2.symm.trans h'.2)

section Slots

variable {t : Table} {v w : Fin maxVc} {id : UniqueId} {b : IdBytes}

@[simp] theorem stores_save :
    (nvmSaveUniqueId t v b).Stores w id ↔ if w = v then b = id.bytes else t.Stores w id := by
  by_cases h : w = v <;> simp [Table.Stores,nvmSaveUniqueId,h]

@[simp] theorem lists_save :
    (nvmSaveUniqueId t v b).Lists w id ↔ if w = v then b = id.bytes else t.Lists w id := by
  by_cases h : w = v <;> simp [Table.Lists,nvmSaveUniqueId,h]

theorem mirrors_save (hm : t.Mirrors) :
    (nvmSaveUniqueId t v id.bytes).Mirrors := by
  intro w id'
  rw [lists_save,stores_save,hm w id']

@[simp] theorem stores_erase :
    (nvmEraseUniqueId t v).Stores w id ↔ w ≠ v ∧ t.Stores w id := by
  by_cases h : w = v
  · have he := id.ne_erased
    simp [Table.Stores,nvmEraseUniqueId,nvmSaveUniqueId,h,Ne.symm he]
  · simp [Table.Stores,nvmEraseUniqueId,nvmSaveUniqueId,h]

@[simp] theorem lists_erase :
    (nvmEraseUniqueId t v).Lists w id ↔ w ≠ v ∧ t.Lists w id := by
  by_cases h : w = v <;> simp [Table.Lists,nvmEraseUniqueId,nvmSaveUniqueId,h]

/-- Erasing the slots that are set erases all of a list of slots. -/
theorem stores_eraseSlots {l : List (Fin maxVc)} :
    (l.foldl (fun t v =>
      if nvmIsVcUniqueIdSet t v then nvmEraseUniqueId t v else t) t).Stores w id ↔
      w ∉ l ∧ t.Stores w id := by
  induction l generalizing t with
  | nil => simp
  | cons v l ih =>
    rw [List.foldl_cons,ih,List.mem_cons,not_or]
    split
    · rw [stores_erase]
      exact ⟨fun ⟨hl,hv,h⟩ => ⟨⟨hv,hl⟩,h⟩,fun ⟨⟨hv,hl⟩,h⟩ => ⟨hl,hv,h⟩⟩
    next hset =>
      refine ⟨fun ⟨hl,h⟩ => ⟨⟨?_,hl⟩,h⟩,fun ⟨⟨_,hl⟩,h⟩ => ⟨hl,h⟩⟩
      rintro rfl
      exact hset (isSet_iff.mpr ⟨id,h⟩)

theorem lists_eraseSlots {l : List (Fin maxVc)} (hm : t.Mirrors) :
    (l.foldl (fun t v => if nvmIsVcUniqueIdSet t v then nvmEraseUniqueId t v else t) t).Lists w id ↔
      w ∉ l ∧ t.Lists w id := by
  induction l generalizing t with
  | nil => simp
  | cons v l ih =>
    rw [List.foldl_cons,List.mem_cons,not_or]
    split
    · rw [ih fun w id => by rw [lists_erase,stores_erase,hm w id],lists_erase]
      exact ⟨fun ⟨hl,hv,h⟩ => ⟨⟨hv,hl⟩,h⟩,fun ⟨⟨hv,hl⟩,h⟩ => ⟨hl,hv,h⟩⟩
    next hset =>
      rw [ih hm]
      refine ⟨fun ⟨hl,h⟩ => ⟨⟨?_,hl⟩,h⟩,fun ⟨⟨_,hl⟩,h⟩ => ⟨hl,h⟩⟩
      rintro rfl
      exact hset (isSet_iff.mpr ⟨id,(hm _ _).mp h⟩)

theorem load_nvm {l : List (Fin maxVc)} : (l.foldl nvmLoadVcUniqueId t).nvm = t.nvm := by
  induction l generalizing t with
  | nil => rfl
  | cons v l ih =>
    rw [List.foldl_cons,ih]
    unfold nvmLoadVcUniqueId
    split <;> rfl

theorem load_entry {l : List (Fin maxVc)} :
    (l.foldl nvmLoadVcUniqueId t).virtualCircuitList w =
      if w ∈ l ∧ nvmIsVcUniqueIdSet t w = true then ⟨t.nvm w,true⟩
      else t.virtualCircuitList w := by
  induction l generalizing t with
  | nil => simp
  | cons v l ih =>
    have hnvm : (nvmLoadVcUniqueId t v).nvm = t.nvm := load_nvm (l := [v])
    have hset : nvmIsVcUniqueIdSet (nvmLoadVcUniqueId t v) w = nvmIsVcUniqueIdSet t w := by
      simp [nvmIsVcUniqueIdSet,hnvm]
    rw [List.foldl_cons,ih,hset,hnvm]
    by_cases hw : nvmIsVcUniqueIdSet t w = true
    · by_cases hv : w = v
      · subst hv
        simp [hw,nvmLoadVcUniqueId]
      · have hkeep : (nvmLoadVcUniqueId t v).virtualCircuitList w = t.virtualCircuitList w := by
          unfold nvmLoadVcUniqueId
          split <;> simp [hv]
        simp [hw,hv,hkeep]
    · have hkeep : (nvmLoadVcUniqueId t v).virtualCircuitList w = t.virtualCircuitList w := by
        unfold nvmLoadVcUniqueId
        split
        next hv =>
          have hne : w ≠ v := fun h => hw (h ▸ hv)
          simp [hne]
        next => rfl
      simp [hw,hkeep]

@[simp] theorem setup_stores {server : Bool} : (setup t server).Stores v id ↔ t.Stores v id := by
  unfold setup
  dsimp only
  split
  · simp [Table.Stores,load_nvm]
  · rfl

theorem setup_entry : (setup t true).virtualCircuitList v =
    if nvmIsVcUniqueIdSet t v = true then ⟨t.nvm v,true⟩
      else ⟨List.Vector.replicate 16 0,false⟩ := by
  unfold setup
  rw [if_pos rfl,load_entry]
  simp [nvmIsVcUniqueIdSet]

/-- After setup a server has in RAM exactly the IDs of the NVM. -/
theorem setup_mirrors (t : Table) : (setup t true).Mirrors := by
  intro v id
  rw [setup_stores]
  simp only [Table.Lists,setup_entry]
  split
  · simp [Table.Stores]
  next hset =>
    refine ⟨by simp,fun h => ?_⟩
    exact absurd (isSet_iff.mpr ⟨id,h⟩) hset

end Slots

section Find

variable {t t' : Table} {v w : Fin maxVc} {id : UniqueId}

theorem Table.Lists.valid (h : t.Lists v id) : (t.virtualCircuitList v).valid = true := h.1

theorem find_lists (h : t.find id.bytes = some v) : t.Lists v id := by
  have hp := List.find?_some h
  simpa [Table.Lists] using hp

theorem find_eq_none : t.find id.bytes = none ↔ ∀ v, ¬ t.Lists v id := by
  simp [Table.find,Table.Lists]

theorem find_congr (h : ∀ v, t'.Lists v id ↔ t.Lists v id) :
    t'.find id.bytes = t.find id.bytes := by
  unfold Table.find
  congr 1
  funext v
  have hv := h v
  simp only [Table.Lists] at hv
  rw [Bool.eq_iff_iff]
  simpa using hv

theorem find_of_only (h : t.Lists v id) (honly : ∀ w, t.Lists w id → w = v) :
    t.find id.bytes = some v := by
  cases hf : t.find id.bytes with
  | none => exact absurd h (find_eq_none.mp hf v)
  | some w => rw [honly w (find_lists hf)]

theorem freeAddress_invalid (h : t.freeAddress = some v) :
    (t.virtualCircuitList v).valid = false := by
  simpa using List.find?_some h

/-- Where vcIdToAddressByte would store an ID that virtualCircuitList does not
have: at the source address, or for an unassigned client of a server at the
first free entry. -/
def Table.target (t : Table) (server : Bool) (srcAddr : Option (Fin maxVc)) :
    Option (Fin maxVc) :=
  (srcAddr.or (if server then t.freeAddress else none)).filter fun v =>
    !(t.virtualCircuitList v).valid

/-- Everything vcIdToAddressByte can do: find the ID, give up, or store it. -/
theorem vcIdToAddressByte_cases (t : Table) (server : Bool) (srcAddr : Option (Fin maxVc))
    (id : UniqueId) :
    (∃ v, t.find id.bytes = some v ∧
      vcIdToAddressByte t server srcAddr id.bytes = (t,.ok v)) ∨
    (t.find id.bytes = none ∧ t.target server srcAddr = none ∧
      ∃ e < 0, vcIdToAddressByte t server srcAddr id.bytes = (t,.error e)) ∨
    ∃ v, t.find id.bytes = none ∧ t.target server srcAddr = some v ∧
      (t.virtualCircuitList v).valid = false ∧
      vcIdToAddressByte t server srcAddr id.bytes = (nvmSaveUniqueId t v id.bytes,.ok v) := by
  unfold vcIdToAddressByte
  cases hfind : t.find id.bytes with
  | some v => exact .inl ⟨v,rfl,rfl⟩
  | none =>
    refine .inr ?_
    dsimp only
    cases srcAddr with
    | some v =>
      cases hv : (t.virtualCircuitList v).valid with
      | true => exact .inl ⟨rfl,by simp [Table.target,hv],-3,by decide,by simp [hv]⟩
      | false => exact .inr ⟨v,rfl,by simp [Table.target,hv],hv,by simp [hv]⟩
    | none =>
      cases server with
      | false => exact .inl ⟨rfl,by simp [Table.target],-1,by decide,by simp⟩
      | true =>
        cases hfree : t.freeAddress with
        | none => exact .inl ⟨rfl,by simp [Table.target,hfree],-2,by decide,by simp⟩
        | some v =>
          have hv := freeAddress_invalid hfree
          exact .inr ⟨v,rfl,by simp [Table.target,hfree,hv],hv,by simp [hv]⟩

end Find

/-- The table has the IDs of a radio's circuits. -/
def Table.Reflects (t : Table) (r : VC.Radio) : Prop := ∀ v,
  (r.virtualCircuitList v).valid = (t.virtualCircuitList v).valid ∧
    (r.virtualCircuitList v).uniqueId = (t.virtualCircuitList v).uniqueId.toList

theorem Table.Reflects.linkAlive {t : Table} {r : VC.Radio} (h : t.Reflects r) (v : Fin maxVc) :
    t.Reflects (VC.vcLinkAlive r v) := by
  intro w
  unfold VC.vcLinkAlive VC.vcChangeState
  have hw := h w
  split
  · dsimp only
    split
    · by_cases hwv : w = v
      · subst hwv
        simpa [VC.Radio.touch,VC.Radio.setVcConnecting,VC.Radio.setCircuit,VC.Radio.circuit]
          using hw
      · simpa [VC.Radio.touch,VC.Radio.setVcConnecting,VC.Radio.setCircuit,VC.Radio.circuit,hwv]
          using hw
    · exact hw
  · exact hw

theorem rcvSource_cases {srcAddr : VcAddress} {src : Option (Fin maxVc)}
    (h : rcvSource srcAddr = some src) : (srcAddr = vcUnassigned ∧ src = none) ∨
      (srcAddr ≠ vcUnassigned ∧ ∃ v, srcAddr.index = some v ∧ src = some v) := by
  unfold rcvSource at h
  split at h
  next ha => exact .inl ⟨ha,(Option.some.inj h).symm⟩
  next ha =>
    obtain ⟨v,hv,rfl⟩ := Option.map_eq_some_iff.mp h
    exact .inr ⟨ha,v,hv,rfl⟩

/-- The table follows the circuits through vcIdToAddressByte. -/
theorem Table.Reflects.vcIdToAddressByte {t : Table} {r : VC.Radio} (h : t.Reflects r)
    {srcAddr : VcAddress} {src : Option (Fin maxVc)} (hsrc : rcvSource srcAddr = some src)
    (server : Bool) (id : IdBytes) :
    (UniqueIds.vcIdToAddressByte t server src id).1.Reflects
        (VC.vcIdToAddressByte r srcAddr id.toList server).1 ∧
      (VC.vcIdToAddressByte r srcAddr id.toList server).2 =
        (UniqueIds.vcIdToAddressByte t server src id).2.toOption := by
  have hfind : ((List.finRange maxVc).find? fun v =>
      (r.virtualCircuitList v).valid && (r.virtualCircuitList v).uniqueId == id.toList) =
        t.find id := by
    unfold Table.find
    congr 1
    funext v
    rw [(h v).1,(h v).2,Bool.eq_iff_iff]
    simp [List.Vector.toList_injective.eq_iff]
  have hfree : ((List.finRange maxVc).find? fun v => !(r.virtualCircuitList v).valid) =
      t.freeAddress := by
    unfold Table.freeAddress
    congr 1
    funext v
    rw [(h v).1]
  unfold UniqueIds.vcIdToAddressByte VC.vcIdToAddressByte
  rw [hfind]
  cases t.find id with
  | some v => exact ⟨h.linkAlive v,rfl⟩
  | none =>
    dsimp only
    rw [hfree]
    have hunassigned : srcAddr = vcUnassigned ↔ src = none := by
      rcases rcvSource_cases hsrc with ⟨ha,rfl⟩ | ⟨ha,v,_,rfl⟩ <;> simp [ha]
    have hindex : (if srcAddr = vcUnassigned then t.freeAddress else srcAddr.index) =
        src.or t.freeAddress := by
      rcases rcvSource_cases hsrc with ⟨ha,rfl⟩ | ⟨ha,v,hv,rfl⟩
      · simp [ha]
      · simp [ha,hv]
    rw [hindex]
    simp only [hunassigned]
    split
    · exact ⟨h,rfl⟩
    · cases src.or t.freeAddress with
      | none => exact ⟨h,rfl⟩
      | some v =>
        dsimp only
        rw [(h v).1]
        split
        · exact ⟨h,rfl⟩
        · refine ⟨Table.Reflects.linkAlive ?_ v,rfl⟩
          intro w
          by_cases hw : w = v
          · simp [VC.Radio.setCircuit,nvmSaveUniqueId,hw]
          · simpa [VC.Radio.setCircuit,nvmSaveUniqueId,hw] using h w

end LoRaSerial.UniqueIds
