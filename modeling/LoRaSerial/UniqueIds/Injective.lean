import LoRaSerial.Lib.Runs
import LoRaSerial.UniqueIds.Table

namespace LoRaSerial.UniqueIds
open Runs
open VC (maxVc)

/-- An operation on the unique ID table, with the values of settings.server and
of the Server command's value that it reads. -/
inductive Operation where
  | findPartner (trainingPartnerID : UniqueId)
  | assign (server : Bool) (srcAddr : Option (Fin maxVc)) (id : UniqueId)
  | erase (vc : Fin maxVc)
  | valServer (server : Bool) (settingValue valMin valMax : Nat)
  | setup (server : Bool)

def Table.step (myUniqueId : UniqueId) (t : Table) : Operation → Table
  | .findPartner trainingPartnerID => trainFindPartner t trainingPartnerID.bytes
  | .assign server srcAddr id => (vcIdToAddressByte t server srcAddr id.bytes).1
  | .erase vc => nvmEraseUniqueId t vc
  | .valServer server settingValue valMin valMax =>
    (UniqueIds.valServer t server myUniqueId.bytes settingValue valMin valMax).1
  | .setup server => UniqueIds.setup t server

/-- No ID is in two slots, and the server's slot has no client's ID. -/
structure Table.Injective (client : UniqueId → Bool) (t : Table) : Prop where
  unique : ∀ v w id, t.Stores v id → t.Stores w id → v = w
  server : ∀ id, t.Stores 0 id → client id = false

/-- The slot that a trained client gets. -/
def Table.freeSlot (t : Table) : Option (Fin maxVc) :=
  (List.finRange maxVc).find? fun v => !nvmIsVcUniqueIdSet t v

/-- Storing an ID: a client that is trained is new to the NVM and does not get
slot 0, and an ID that is new to virtualCircuitList is in no other slot of the
NVM and is no client's if it gets slot 0. -/
def Table.Clear (client : UniqueId → Bool) (t : Table) : Operation → Prop
  | .findPartner id => ∀ v, t.freeSlot = some v →
      (∀ w, ¬ t.Stores w id) ∧ (v = 0 → client id = false)
  | .assign server srcAddr id => (∀ v, ¬ t.Lists v id) → ∀ v, t.target server srcAddr = some v →
      (∀ w, t.Stores w id → w = v) ∧ (v = 0 → client id = false)
  | _ => True

section Steps

variable {client : UniqueId → Bool} {myUniqueId id : UniqueId} {t : Table} {v : Fin maxVc}

theorem freeSlot_empty (h : t.freeSlot = some v) (id : UniqueId) : ¬ t.Stores v id := fun hs => by
  have hv := List.find?_some h
  simp [isSet_iff.mpr ⟨id,hs⟩] at hv

theorem trainFindPartner_eq (t : Table) (id : UniqueId) : trainFindPartner t id.bytes =
    match t.freeSlot with
    | some v => nvmSaveUniqueId t v id.bytes
    | none => t := rfl

/-- Saving an ID keeps the table injective exactly if the ID is in no other slot
and is not a client's in slot 0. -/
theorem injective_save (h : t.Injective client) :
    (nvmSaveUniqueId t v id.bytes).Injective client ↔
      (∀ w, t.Stores w id → w = v) ∧ (v = 0 → client id = false) := by
  constructor
  · intro h'
    refine ⟨fun w hw => ?_,fun hv => h'.server id (by simp [hv])⟩
    refine h'.unique w v id ?_ (by simp)
    simp [hw]
  · rintro ⟨honly,hserver⟩
    constructor
    case unique =>
      intro u w id' hu hw
      rw [stores_save] at hu hw
      split at hu
      next huv =>
        split at hw
        next hwv => exact huv.trans hwv.symm
        next =>
          obtain rfl := UniqueId.ext_bytes hu
          exact huv.trans (honly w hw).symm
      next =>
        split at hw
        next hwv =>
          obtain rfl := UniqueId.ext_bytes hw
          exact (honly u hu).trans hwv.symm
        next => exact h.unique u w id' hu hw
    case server =>
      intro id' hs
      rw [stores_save] at hs
      split at hs
      next hv =>
        obtain rfl := UniqueId.ext_bytes hs
        exact hserver hv.symm
      next => exact h.server id' hs

theorem injective_findPartner (h : t.Injective client) :
    (t.step myUniqueId (.findPartner id)).Injective client ↔ t.Clear client (.findPartner id) := by
  simp only [Table.step,Table.Clear,trainFindPartner_eq]
  cases hfree : t.freeSlot with
  | none => simp [h]
  | some v =>
    dsimp only
    rw [injective_save h]
    constructor
    · rintro ⟨honly,hserver⟩ u hu
      obtain rfl := Option.some.inj hu
      exact ⟨fun w hw => freeSlot_empty hfree id (honly w hw ▸ hw),hserver⟩
    · intro hclear
      obtain ⟨hno,hserver⟩ := hclear v rfl
      exact ⟨fun w hw => absurd hw (hno w),hserver⟩

theorem injective_assign (h : t.Injective client) (server : Bool) (srcAddr : Option (Fin maxVc)) :
    (t.step myUniqueId (.assign server srcAddr id)).Injective client ↔
      t.Clear client (.assign server srcAddr id) := by
  simp only [Table.step,Table.Clear]
  rcases vcIdToAddressByte_cases t server srcAddr id with
    ⟨v,hf,hr⟩ | ⟨_,ht,_,_,hr⟩ | ⟨v,hf,ht,_,hr⟩
  · rw [hr]
    exact iff_of_true h fun hno => absurd (find_lists hf) (hno v)
  · rw [hr,ht]
    exact iff_of_true h fun _ => by simp
  · rw [hr,ht,injective_save h]
    constructor
    · intro hc _ u hu
      obtain rfl := Option.some.inj hu
      exact hc
    · exact fun hclear => hclear (find_eq_none.mp hf) v rfl

theorem injective_erase (h : t.Injective client) (v : Fin maxVc) :
    (nvmEraseUniqueId t v).Injective client where
  unique u w id hu hw := h.unique u w id (stores_erase.mp hu).2 (stores_erase.mp hw).2
  server id hs := h.server id (stores_erase.mp hs).2

theorem mem_drop_one (hv : v ≠ 0) : v ∈ (List.finRange maxVc).drop 1 := by
  revert v
  decide

/-- A radio that becomes the server has its own ID in slot 0 and no other. -/
theorem injective_valServer (hown : client myUniqueId = false) (h : t.Injective client)
    (server : Bool) (settingValue valMin valMax : Nat) :
    (valServer t server myUniqueId.bytes settingValue valMin valMax).1.Injective client := by
  unfold valServer
  dsimp only
  split
  · refine (injective_save ⟨?_,?_⟩).mpr ⟨?_,fun _ => hown⟩
    · intro u w id hu hw
      exact h.unique u w id (stores_eraseSlots.mp hu).2 (stores_eraseSlots.mp hw).2
    · exact fun id hs => h.server id (stores_eraseSlots.mp hs).2
    · intro w hw
      by_contra hne
      exact (stores_eraseSlots.mp hw).1 (mem_drop_one hne)
  · exact h

theorem injective_step (hown : client myUniqueId = false) (h : t.Injective client)
    (e : Operation) : (t.step myUniqueId e).Injective client ↔ t.Clear client e := by
  cases e with
  | findPartner id => exact injective_findPartner h
  | assign server srcAddr id => exact injective_assign h server srcAddr
  | erase v => exact iff_of_true (injective_erase h v) trivial
  | valServer server settingValue valMin valMax =>
    exact iff_of_true (injective_valServer hown h server settingValue valMin valMax) trivial
  | setup server =>
    refine iff_of_true ⟨fun u w id hu hw => ?_,fun id hs => ?_⟩ trivial
    · exact h.unique u w id (setup_stores.mp hu) (setup_stores.mp hw)
    · exact h.server id (setup_stores.mp hs)

theorem step_setup (t : Table) (server : Bool) :
    t.step myUniqueId (.setup server) = UniqueIds.setup t server := rfl

/-- Every operation but another start keeps RAM and NVM alike. -/
theorem mirrors_step (myUniqueId : UniqueId) (hm : t.Mirrors) {e : Operation}
    (he : ∀ server, e ≠ .setup server) :
    (t.step myUniqueId e).Mirrors := by
  cases e with
  | findPartner id =>
    rw [Table.step,trainFindPartner_eq]
    split
    · exact mirrors_save hm
    · exact hm
  | assign server srcAddr id =>
    rw [Table.step]
    rcases vcIdToAddressByte_cases t server srcAddr id with
      ⟨v,_,hr⟩ | ⟨_,_,_,_,hr⟩ | ⟨v,_,_,_,hr⟩ <;> rw [hr]
    · exact hm
    · exact hm
    · exact mirrors_save hm
  | erase v =>
    intro w id
    rw [Table.step,lists_erase,stores_erase,hm w id]
  | valServer server settingValue valMin valMax =>
    rw [Table.step]
    unfold valServer
    dsimp only
    split
    · refine mirrors_save fun w id => ?_
      rw [lists_eraseSlots hm,stores_eraseSlots,hm w id]
    · exact hm
  | setup server => exact absurd rfl (he server)

end Steps

/-- The table stays injective throughout exactly the runs that only store clear
IDs; and from the start of a server on, RAM has exactly the IDs of the NVM. -/
theorem table_injective_iff (client : UniqueId → Bool) (myUniqueId : UniqueId)
    (hown : client myUniqueId = false) (t : Table) (h : t.Injective client)
    (es : List Operation) :
    (Always (Table.step myUniqueId) (Table.Injective client) t es ↔
      Along (Table.step myUniqueId) (Table.Clear client) t es) ∧
    ∀ fs, (∀ e ∈ fs, ∀ server, e ≠ .setup server) →
      (run (Table.step myUniqueId) t (es ++ .setup true :: fs)).Mirrors := by
  have hkept : ∀ t e, Table.Injective client t → Table.Clear client t e →
      Table.Injective client (Table.step myUniqueId t e) :=
    fun t e ht => (injective_step hown ht e).mpr
  have honly : ∀ t e, Table.Injective client t →
      Table.Injective client (Table.step myUniqueId t e) → Table.Clear client t e :=
    fun t e ht => (injective_step hown ht e).mp
  refine ⟨always_iff_along hkept (fun _ ht => ht) honly h es,fun fs hfs => ?_⟩
  rw [run_append,run_cons,step_setup]
  have hm := setup_mirrors (run (Table.step myUniqueId) t es)
  revert hm
  generalize setup (run (Table.step myUniqueId) t es) true = u
  intro hm
  induction fs generalizing u with
  | nil => exact hm
  | cons e fs ih =>
    have hm' := mirrors_step myUniqueId hm (hfs e List.mem_cons_self)
    exact ih (fun e he => hfs e (List.mem_cons_of_mem _ he)) _ hm'

/-- The NVM of a new radio. -/
def Table.blank : Table := ⟨fun _ => erased,fun _ => ⟨erased,false⟩⟩

theorem blank_injective (client : UniqueId → Bool) : Table.blank.Injective client where
  unique _ _ id hv _ := absurd hv (Ne.symm id.ne_erased)
  server id hs := absurd hs (Ne.symm id.ne_erased)

/-- An ID that consists of one byte. -/
def UniqueId.ofByte (b : UInt8) (h : (List.replicate 16 b).any (· != nvmEraseValue) = true) :
    UniqueId := ⟨List.Vector.replicate 16 b,h⟩

theorem one_set : ((List.replicate 16 (1 : UInt8)).any fun x => x != nvmEraseValue) = true := by
  decide

theorem two_set : ((List.replicate 16 (2 : UInt8)).any fun x => x != nvmEraseValue) = true := by
  decide

def serverId : UniqueId := .ofByte 1 one_set

def clientId : UniqueId := .ofByte 2 two_set

def isClient (id : UniqueId) : Bool := id == clientId

/-- A radio becomes the server, is switched on and trains a client, which sends
its first heartbeat. -/
def trainedOnce : List Operation :=
  [.valServer false 1 0 1,.setup true,.findPartner clientId,.assign true none clientId]

theorem table_injective_iff_trainedOnce :
    (Always (Table.step serverId) (Table.Injective isClient) .blank trainedOnce ↔
      Along (Table.step serverId) (Table.Clear isClient) .blank trainedOnce) ∧
    ∀ fs, (∀ e ∈ fs, ∀ server, e ≠ .setup server) →
      (run (Table.step serverId) .blank (trainedOnce ++ .setup true :: fs)).Mirrors :=
  table_injective_iff isClient serverId (by decide) .blank (blank_injective _) trainedOnce

/-- The client sends its FIND_PARTNER again, for want of an answer or in a later
training: it has two slots. On a training server without an ID of its own in the
NVM a client's ID goes to slot 0. -/
theorem trained_again_not_injective :
    let again := run (Table.step serverId) .blank (trainedOnce ++ [.findPartner clientId])
    let client := run (Table.step serverId) .blank [.findPartner clientId]
    (again.Stores 1 clientId ∧ again.Stores 2 clientId) ∧ ¬ again.Injective isClient ∧
      (client.Stores 0 clientId ∧ isClient clientId = true) ∧ ¬ client.Injective isClient := by
  have hagain : (run (Table.step serverId) .blank
        (trainedOnce ++ [.findPartner clientId])).Stores 1 clientId ∧
      (run (Table.step serverId) .blank
        (trainedOnce ++ [.findPartner clientId])).Stores 2 clientId := by decide +kernel
  have hclient : (run (Table.step serverId) .blank [.findPartner clientId]).Stores 0 clientId := by
    decide +kernel
  refine ⟨hagain,fun h => ?_,⟨hclient,by decide⟩,fun h => ?_⟩
  · exact absurd (h.unique 1 2 clientId hagain.1 hagain.2) (by decide)
  · exact absurd (h.server clientId hclient) (by decide)

end LoRaSerial.UniqueIds
