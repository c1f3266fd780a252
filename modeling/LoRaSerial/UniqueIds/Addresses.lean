import LoRaSerial.Lib.Runs
import LoRaSerial.UniqueIds.Table

namespace LoRaSerial.UniqueIds
open Runs VC

/-- The fields of a radio that the addresses of its network depend on. -/
structure Radio where
  server : Bool
  myUniqueId : UniqueId
  myVc : VcAddress
  table : Table

/-- A HEARTBEAT: the source address and the unique ID it belongs to. -/
structure Heartbeat where
  srcVc : VcAddress
  uniqueId : UniqueId
  deriving DecidableEq

/-- Process a received HEARTBEAT frame: the radio after it, and the HEARTBEAT
with which a server answers. -/
def vcReceiveHeartbeat (r : Radio) (f : Heartbeat) : Radio × Option Heartbeat :=
  match rcvSource f.srcVc with
  | none => (r,none)
  | some src =>
    let r :=
      if r.myVc = vcUnassigned ∧ r.myUniqueId = f.uniqueId then { r with myVc := f.srcVc } else r
    match vcIdToAddressByte r.table r.server src f.uniqueId.bytes with
    | (table,.error _) => ({ r with table },none)
    | (table,.ok v) =>
      ({ r with table },
        if r.server ∧ f.srcVc = vcUnassigned then some ⟨.ofNumber v,f.uniqueId⟩ else none)

/-- RADIO_RESET: a server looks up its own address, a client has none. -/
def Radio.reset (r : Radio) : Radio :=
  if r.server then
    match vcIdToAddressByte r.table true (some 0) r.myUniqueId.bytes with
    | (table,.ok v) => { r with table, myVc := .ofNumber v }
    | (table,.error e) => { r with table, myVc := BitVec.ofInt 8 e }
  else { r with myVc := vcUnassigned }

/-- setup, then RADIO_RESET. -/
def Radio.powerCycle (r : Radio) : Radio :=
  ({ r with table := setup r.table r.server } : Radio).reset

/-- The radios of a network and the HEARTBEATs on the air, each of which any
radio may hear until it is lost. -/
structure Network (ι : Type*) where
  radio : ι → Radio
  air : List Heartbeat

inductive Event (ι : Type*) where
  | heartbeat (x : ι)
  | hear (x : ι) (k : Nat)
  | lose (k : Nat)
  | reset (x : ι)
  | powerCycle (x : ι)

variable {ι : Type*} [DecidableEq ι]

def Network.setRadio (n : Network ι) (x : ι) (r : Radio) : Network ι :=
  { n with radio := Function.update n.radio x r }

def Network.send (n : Network ι) (f : Heartbeat) : Network ι :=
  { n with air := n.air ++ [f] }

/-- Radio `x` hears a HEARTBEAT; its answer, if any, goes on the air. -/
def Network.hear (n : Network ι) (x : ι) (f : Heartbeat) : Network ι :=
  match vcReceiveHeartbeat (n.radio x) f with
  | (r,none) => n.setRadio x r
  | (r,some answer) => (n.setRadio x r).send answer

/-- The HEARTBEAT that follows a reset is an event of its own: it may be
cancelled. -/
def Network.step (n : Network ι) : Event ι → Network ι
  | .heartbeat x => n.send ⟨(n.radio x).myVc,(n.radio x).myUniqueId⟩
  | .hear x k =>
    match n.air[k]? with
    | none => n
    | some f => n.hear x f
  | .lose k => { n with air := n.air.eraseIdx k }
  | .reset x => n.setRadio x (n.radio x).reset
  | .powerCycle x => n.setRadio x (n.radio x).powerCycle

/-- Every radio has just been switched on. -/
def Network.powerOn (radios : ι → Radio) : Network ι where
  radio x := (radios x).powerCycle
  air := []

/-- One server among radios with distinct unique IDs, the slot of the server's
address empty or its own. -/
structure Startable (radios : ι → Radio) (s : ι) : Prop where
  server : ∀ x, (radios x).server = true ↔ x = s
  distinct : ∀ x y, (radios x).myUniqueId = (radios y).myUniqueId → x = y
  slot : nvmIsVcUniqueIdSet (radios s).table 0 = false ∨
    (radios s).table.Stores 0 (radios s).myUniqueId

section Growth

variable {t t' : Table} {v : Fin maxVc} {id : UniqueId}

/-- No ID that `t` has is at another index in `t'`. -/
structure Table.Grows (t t' : Table) : Prop where
  find : ∀ (id : UniqueId) v, t.find id.bytes = some v → t'.find id.bytes = some v
  lists : ∀ v id, t.Lists v id → t'.Lists v id
  stores : ∀ v id, t.Stores v id → t'.Stores v id

theorem Table.Grows.refl (t : Table) : t.Grows t := ⟨fun _ _ h => h,fun _ _ h => h,fun _ _ h => h⟩

theorem Table.Grows.trans {t'' : Table} (h : t.Grows t') (h' : t'.Grows t'') : t.Grows t'' :=
  ⟨fun id v hf => h'.find id v (h.find id v hf),fun v id hl => h'.lists v id (h.lists v id hl),
    fun v id hs => h'.stores v id (h.stores v id hs)⟩

/-- An ID the table does not have is stored at a free entry. -/
theorem grows_save (hm : t.Mirrors) (hfind : t.find id.bytes = none)
    (hv : (t.virtualCircuitList v).valid = false) :
    t.Grows (nvmSaveUniqueId t v id.bytes) ∧
      (nvmSaveUniqueId t v id.bytes).find id.bytes = some v := by
  have hfree : ∀ id', ¬ t.Lists v id' := fun id' h => by simp [Table.Lists,hv] at h
  have hlists : ∀ w id', t.Lists w id' → (nvmSaveUniqueId t v id.bytes).Lists w id' := by
    intro w id' h
    have hw : w ≠ v := fun hw => hfree id' (hw ▸ h)
    simpa [hw] using h
  refine ⟨⟨?_,hlists,?_⟩,?_⟩
  · intro id' w h
    have hne : id ≠ id' := by
      rintro rfl
      rw [hfind] at h
      simp at h
    rw [find_congr fun u => ?_]
    · exact h
    · by_cases hu : u = v
      · have hb : id.bytes ≠ id'.bytes := fun hb => hne (UniqueId.ext_bytes hb)
        have hno := hfree id'
        simp [hu,hb,hno]
      · simp [hu]
  · intro w id' h
    exact (mirrors_save hm w id').mp (hlists w id' ((hm w id').mpr h))
  · refine find_of_only (by simp) fun w hw => ?_
    by_contra hne
    rw [lists_save,if_neg hne] at hw
    exact find_eq_none.mp hfind w hw

/-- What a server's table is after vcIdToAddressByte, and what the result says. -/
theorem vcIdToAddressByte_grows (hm : t.Mirrors) (server : Bool) (src : Option (Fin maxVc))
    (id : UniqueId) :
    (vcIdToAddressByte t server src id.bytes).1.Mirrors ∧
      t.Grows (vcIdToAddressByte t server src id.bytes).1 ∧
      ∀ v, (vcIdToAddressByte t server src id.bytes).2 = .ok v →
        (vcIdToAddressByte t server src id.bytes).1.find id.bytes = some v := by
  rcases vcIdToAddressByte_cases t server src id with
    ⟨v,hf,h⟩ | ⟨_,_,e,_,h⟩ | ⟨v,hf,_,hv,h⟩
  · rw [h]
    refine ⟨hm,.refl t,fun w hw => ?_⟩
    obtain rfl : v = w := by simpa using hw
    exact hf
  · rw [h]
    exact ⟨hm,.refl t,fun w hw => by simp at hw⟩
  · rw [h]
    obtain ⟨hg,hfind⟩ := grows_save hm hf hv
    refine ⟨mirrors_save hm,hg,fun w hw => ?_⟩
    obtain rfl : v = w := by simpa using hw
    exact hfind

/-- Loading the NVM again changes nothing in a table that mirrors it. -/
theorem grows_setup (hm : t.Mirrors) : t.Grows (setup t true) := by
  have hlists : ∀ v id, (setup t true).Lists v id ↔ t.Lists v id := fun v id => by
    rw [setup_mirrors t v id,setup_stores,hm v id]
  exact ⟨fun id v h => (find_congr fun w => hlists w id).trans h,fun v id => (hlists v id).mpr,
    fun v id => setup_stores.mpr⟩

end Growth

/-- An address is none, or the index at which the table has the ID. -/
def Table.Agrees (t : Table) (a : VcAddress) (id : UniqueId) : Prop :=
  a = vcUnassigned ∨ ∃ v, a = .ofNumber v ∧ t.find id.bytes = some v

theorem Table.Agrees.grows {t t' : Table} {a : VcAddress} {id : UniqueId} (h : t.Agrees a id)
    (hg : t.Grows t') : t'.Agrees a id :=
  h.imp_right fun ⟨v,ha,hf⟩ => ⟨v,ha,hg.find id v hf⟩

/-- The server between two events: its table in RAM is that of its NVM, and it
has the address that belongs to its ID. -/
structure Radio.Serves (r : Radio) : Prop where
  server : r.server = true
  mirrors : r.table.Mirrors
  own : ∃ v, r.myVc = .ofNumber v ∧ r.table.find r.myUniqueId.bytes = some v

theorem ofNumber_ne_unassigned (v : Fin maxVc) : VcAddress.ofNumber v ≠ vcUnassigned := by
  revert v
  decide

/-- The server's pass over a HEARTBEAT: its table only grows, and its answer
carries the index at which it has the ID. -/
theorem vcReceiveHeartbeat_serves {r : Radio} (h : r.Serves) {f : Heartbeat} :
    (vcReceiveHeartbeat r f).1.Serves ∧
      (vcReceiveHeartbeat r f).1.myUniqueId = r.myUniqueId ∧
      r.table.Grows (vcReceiveHeartbeat r f).1.table ∧
      ∀ answer, (vcReceiveHeartbeat r f).2 = some answer →
        (vcReceiveHeartbeat r f).1.table.Agrees answer.srcVc answer.uniqueId := by
  obtain ⟨own,hown,hfind⟩ := h.own
  have hassigned : ¬ (r.myVc = vcUnassigned ∧ r.myUniqueId = f.uniqueId) := fun hu =>
    ofNumber_ne_unassigned own (hown.symm.trans hu.1)
  unfold vcReceiveHeartbeat
  cases rcvSource f.srcVc with
  | none => exact ⟨h,rfl,.refl _,by simp⟩
  | some src =>
    obtain ⟨hm,hg,hok⟩ := vcIdToAddressByte_grows h.mirrors r.server src f.uniqueId
    simp only [if_neg hassigned]
    revert hm hg hok
    generalize vcIdToAddressByte r.table r.server src f.uniqueId.bytes = x
    obtain ⟨table,result⟩ := x
    intro hm hg hok
    have hserves : ({ r with table } : Radio).Serves :=
      ⟨h.server,hm,own,hown,hg.find _ _ hfind⟩
    cases result with
    | error e => exact ⟨hserves,rfl,hg,by simp⟩
    | ok v =>
      refine ⟨hserves,rfl,hg,fun answer ha => ?_⟩
      dsimp only at ha
      split at ha
      · obtain rfl := Option.some.inj ha
        exact .inr ⟨v,rfl,hok v rfl⟩
      · simp at ha

/-- A client takes an address only from a HEARTBEAT with its own ID, and
answers none. -/
theorem vcReceiveHeartbeat_client {r : Radio} (h : r.server = false) {f : Heartbeat} :
    (vcReceiveHeartbeat r f).1.server = false ∧
      (vcReceiveHeartbeat r f).1.myUniqueId = r.myUniqueId ∧
      (vcReceiveHeartbeat r f).2 = none ∧
      ((vcReceiveHeartbeat r f).1.myVc = r.myVc ∨
        ((vcReceiveHeartbeat r f).1.myVc = f.srcVc ∧ r.myUniqueId = f.uniqueId)) := by
  unfold vcReceiveHeartbeat
  cases rcvSource f.srcVc with
  | none => exact ⟨h,rfl,rfl,.inl rfl⟩
  | some src =>
    dsimp only
    by_cases hu : r.myVc = vcUnassigned ∧ r.myUniqueId = f.uniqueId
    · rw [if_pos hu]
      split
      · exact ⟨h,rfl,rfl,.inr ⟨rfl,hu.2⟩⟩
      · exact ⟨h,rfl,by simp [h],.inr ⟨rfl,hu.2⟩⟩
    · rw [if_neg hu]
      split
      · exact ⟨h,rfl,rfl,.inl rfl⟩
      · exact ⟨h,rfl,by simp [h],.inl rfl⟩

/-- RADIO_RESET of a radio that is to serve: its own ID is in the table, or slot
0 is free for it. -/
theorem reset_serves {r : Radio} (hs : r.server = true) (hm : r.table.Mirrors)
    (hown : (∃ v, r.table.find r.myUniqueId.bytes = some v) ∨
      (r.table.virtualCircuitList 0).valid = false) :
    r.reset.Serves ∧ r.reset.myUniqueId = r.myUniqueId ∧ r.table.Grows r.reset.table := by
  obtain ⟨hm',hg,hok⟩ := vcIdToAddressByte_grows hm true (some 0) r.myUniqueId
  have hresult : ∃ v, (vcIdToAddressByte r.table true (some 0) r.myUniqueId.bytes).2 = .ok v := by
    rcases vcIdToAddressByte_cases r.table true (some 0) r.myUniqueId with
      ⟨v,_,h⟩ | ⟨hf,ht,_⟩ | ⟨v,_,_,_,h⟩
    · exact ⟨v,by rw [h]⟩
    · rcases hown with ⟨v,hv⟩ | hfree
      · simp [hv] at hf
      · simp [Table.target,hfree] at ht
    · exact ⟨v,by rw [h]⟩
  obtain ⟨v,hv⟩ := hresult
  unfold Radio.reset
  rw [if_pos hs]
  revert hm' hg hok hv
  generalize vcIdToAddressByte r.table true (some 0) r.myUniqueId.bytes = x
  obtain ⟨table,result⟩ := x
  rintro hm' hg hok rfl
  exact ⟨⟨hs,hm',v,rfl,hok v rfl⟩,rfl,hg⟩

theorem powerCycle_serves {r : Radio} (h : r.Serves) :
    r.powerCycle.Serves ∧ r.powerCycle.myUniqueId = r.myUniqueId ∧
      r.table.Grows r.powerCycle.table := by
  obtain ⟨v,_,hfind⟩ := h.own
  have hg := grows_setup h.mirrors
  have hfound : (setup r.table true).find r.myUniqueId.bytes = some v :=
    hg.find r.myUniqueId v hfind
  have hm := setup_mirrors r.table
  have htable : setup r.table r.server = setup r.table true := by rw [h.server]
  unfold Radio.powerCycle
  rw [htable]
  clear htable
  revert hg hfound hm
  generalize setup r.table true = table
  intro hg hfound hm
  obtain ⟨hs,hid,hgrows⟩ := reset_serves (r := { r with table }) h.server hm (.inl ⟨v,hfound⟩)
  exact ⟨hs,hid,hg.trans hgrows⟩

theorem client_reset {r : Radio} (h : r.server = false) :
    r.reset = { r with myVc := vcUnassigned } := by
  simp [Radio.reset,h]

/-- Every address, of a radio or on the air, is none or the server's index for
the ID it comes with. -/
structure Network.Sound (ids : ι → UniqueId) (s : ι) (n : Network ι) : Prop where
  serves : (n.radio s).Serves
  client : ∀ x, x ≠ s → (n.radio x).server = false
  myUniqueId : ∀ x, (n.radio x).myUniqueId = ids x
  myVc : ∀ x, (n.radio s).table.Agrees (n.radio x).myVc (ids x)
  air : ∀ f ∈ n.air, (n.radio s).table.Agrees f.srcVc f.uniqueId

section Steps

variable {ids : ι → UniqueId} {s x : ι} {n : Network ι} {r : Radio}

@[simp] theorem setRadio_self : (n.setRadio x r).radio x = r := by simp [Network.setRadio]

theorem setRadio_of_ne {y : ι} (h : y ≠ x) : (n.setRadio x r).radio y = n.radio y := by
  simp [Network.setRadio,h]

theorem Radio.Serves.agrees (h : r.Serves) : r.table.Agrees r.myVc r.myUniqueId := .inr h.own

/-- The server goes to a state of a larger table. -/
theorem sound_server (h : n.Sound ids s) (hr : r.Serves)
    (hid : r.myUniqueId = (n.radio s).myUniqueId) (hg : (n.radio s).table.Grows r.table) :
    (n.setRadio s r).Sound ids s := by
  have hown : r.myUniqueId = ids s := hid.trans (h.myUniqueId s)
  refine ⟨by simpa using hr,?_,?_,?_,?_⟩
  · intro y hy
    rw [setRadio_of_ne hy]
    exact h.client y hy
  · intro y
    by_cases hy : y = s
    · subst hy
      simpa using hown
    · rw [setRadio_of_ne hy]
      exact h.myUniqueId y
  · intro y
    by_cases hy : y = s
    · subst hy
      simpa using hown ▸ hr.agrees
    · rw [setRadio_of_ne hy,setRadio_self]
      exact (h.myVc y).grows hg
  · intro f hf
    rw [setRadio_self]
    exact (h.air f hf).grows hg

/-- A client goes to a state with an address that agrees with the server. -/
theorem sound_client (h : n.Sound ids s) (hx : x ≠ s) (hr : r.server = false)
    (hid : r.myUniqueId = (n.radio x).myUniqueId)
    (hvc : (n.radio s).table.Agrees r.myVc (ids x)) : (n.setRadio x r).Sound ids s := by
  have hs : (n.setRadio x r).radio s = n.radio s := setRadio_of_ne (Ne.symm hx)
  refine ⟨by rw [hs]; exact h.serves,?_,?_,?_,by rw [hs]; exact h.air⟩
  · intro y hy
    by_cases hyx : y = x
    · subst hyx
      simpa using hr
    · rw [setRadio_of_ne hyx]
      exact h.client y hy
  · intro y
    by_cases hyx : y = x
    · subst hyx
      simpa using hid.trans (h.myUniqueId y)
    · rw [setRadio_of_ne hyx]
      exact h.myUniqueId y
  · intro y
    rw [hs]
    by_cases hyx : y = x
    · subst hyx
      simpa using hvc
    · rw [setRadio_of_ne hyx]
      exact h.myVc y

/-- A client that restarts forgets its address and leaves the server's table alone. -/
theorem sound_restart (h : n.Sound ids s) (hx : x ≠ s) (hr : r.server = false)
    (hid : r.myUniqueId = (n.radio x).myUniqueId) (hvc : r.myVc = vcUnassigned) :
    (n.setRadio x r).Sound ids s ∧
      (n.radio s).table.Grows ((n.setRadio x r).radio s).table := by
  refine ⟨sound_client h hx hr hid (.inl hvc),?_⟩
  rw [setRadio_of_ne (Ne.symm hx)]
  exact .refl _

omit [DecidableEq ι] in
theorem sound_send (h : n.Sound ids s) {f : Heartbeat}
    (hf : (n.radio s).table.Agrees f.srcVc f.uniqueId) : (n.send f).Sound ids s := by
  refine ⟨h.serves,h.client,h.myUniqueId,h.myVc,fun g hg => ?_⟩
  rcases List.mem_append.mp hg with hg | hg
  · exact h.air g hg
  · obtain rfl : g = f := by simpa using hg
    exact hf

theorem sound_hear (h : n.Sound ids s) {f : Heartbeat} (hf : f ∈ n.air) (x : ι) :
    (n.hear x f).Sound ids s ∧ (n.radio s).table.Grows ((n.hear x f).radio s).table := by
  unfold Network.hear
  by_cases hx : x = s
  · subst hx
    obtain ⟨hr,hid,hg,hanswer⟩ := vcReceiveHeartbeat_serves h.serves (f := f)
    revert hr hid hg hanswer
    generalize vcReceiveHeartbeat (n.radio x) f = p
    obtain ⟨r,answer⟩ := p
    intro hr hid hg hanswer
    have hsound := sound_server h hr hid hg
    cases answer with
    | none => exact ⟨hsound,by simpa using hg⟩
    | some answer =>
      refine ⟨sound_send hsound ?_,by simpa [Network.send] using hg⟩
      simpa using hanswer answer rfl
  · obtain ⟨hr,hid,hnone,hvc⟩ := vcReceiveHeartbeat_client (h.client x hx) (f := f)
    revert hr hid hnone hvc
    generalize vcReceiveHeartbeat (n.radio x) f = p
    obtain ⟨r,answer⟩ := p
    rintro hr hid rfl hvc
    have hs : (n.setRadio x r).radio s = n.radio s := setRadio_of_ne (Ne.symm hx)
    refine ⟨sound_client h hx hr hid ?_,by simpa [hs] using .refl _⟩
    rcases hvc with hvc | ⟨hvc,hmine⟩
    · dsimp only at hvc
      rw [hvc]
      exact h.myVc x
    · have hagrees := h.air f hf
      rw [← hmine,h.myUniqueId x] at hagrees
      dsimp only at hvc
      rwa [hvc]

/-- Every event keeps the addresses in order, and the server's table only grows. -/
theorem sound_step (h : n.Sound ids s) (e : Event ι) :
    (n.step e).Sound ids s ∧ (n.radio s).table.Grows ((n.step e).radio s).table := by
  cases e with
  | heartbeat x =>
    refine ⟨sound_send h ?_,.refl _⟩
    dsimp only
    rw [h.myUniqueId x]
    exact h.myVc x
  | hear x k =>
    unfold Network.step
    dsimp only
    cases hk : n.air[k]? with
    | none => exact ⟨h,.refl _⟩
    | some f => exact sound_hear h (List.mem_of_getElem? hk) x
  | lose k =>
    exact ⟨⟨h.serves,h.client,h.myUniqueId,h.myVc,
      fun f hf => h.air f (List.mem_of_mem_eraseIdx hf)⟩,
      .refl _⟩
  | reset x =>
    by_cases hx : x = s
    · subst hx
      obtain ⟨v,_,hfind⟩ := h.serves.own
      obtain ⟨hr,hid,hg⟩ := reset_serves h.serves.server h.serves.mirrors (.inl ⟨v,hfind⟩)
      exact ⟨sound_server h hr hid hg,by simpa [Network.step] using hg⟩
    · have hr := client_reset (h.client x hx)
      exact sound_restart h hx (by rw [hr]; exact h.client x hx) (by rw [hr]) (by rw [hr])
  | powerCycle x =>
    by_cases hx : x = s
    · subst hx
      obtain ⟨hr,hid,hg⟩ := powerCycle_serves h.serves
      exact ⟨sound_server h hr hid hg,by simpa [Network.step] using hg⟩
    · have hr : (n.radio x).powerCycle =
          { n.radio x with
            table := setup (n.radio x).table (n.radio x).server
            myVc := vcUnassigned } :=
        client_reset (h.client x hx)
      exact sound_restart h hx (by rw [hr]; exact h.client x hx) (by rw [hr]) (by rw [hr])

theorem sound_run (h : n.Sound ids s) (es : List (Event ι)) :
    (run Network.step n es).Sound ids s ∧
      (n.radio s).table.Grows ((run Network.step n es).radio s).table := by
  induction es generalizing n with
  | nil => exact ⟨h,.refl _⟩
  | cons e es ih =>
    obtain ⟨hs,hg⟩ := sound_step h e
    obtain ⟨hs',hg'⟩ := ih hs
    exact ⟨hs',hg.trans hg'⟩

end Steps

theorem powerOn_sound {radios : ι → Radio} {s : ι} (h : Startable radios s) :
    (Network.powerOn radios).Sound (fun x => (radios x).myUniqueId) s := by
  have hclient : ∀ x, x ≠ s → (radios x).server = false := fun x hx => by
    simpa using fun hs => hx ((h.server x).mp hs)
  have hserver : (radios s).server = true := (h.server s).mpr rfl
  have hreset : ∀ x, x ≠ s → (radios x).powerCycle =
      { radios x with table := setup (radios x).table (radios x).server, myVc := vcUnassigned } :=
    fun x hx => client_reset (hclient x hx)
  have hown : (∃ v, (setup (radios s).table true).find (radios s).myUniqueId.bytes = some v) ∨
      ((setup (radios s).table true).virtualCircuitList 0).valid = false := by
    rcases h.slot with hunset | hmine
    · exact .inr (by simp [setup_entry,hunset])
    · refine .inl (Option.ne_none_iff_exists'.mp fun hnone => ?_)
      exact find_eq_none.mp hnone 0 ((setup_mirrors _ 0 _).mpr (setup_stores.mpr hmine))
  have htable : setup (radios s).table (radios s).server = setup (radios s).table true := by
    rw [hserver]
  have hm := setup_mirrors (radios s).table
  have hs : (radios s).powerCycle.Serves ∧
      (radios s).powerCycle.myUniqueId = (radios s).myUniqueId := by
    unfold Radio.powerCycle
    rw [htable]
    clear htable
    revert hm hown
    generalize setup (radios s).table true = table
    intro hown hm
    obtain ⟨hs,hid,_⟩ := reset_serves (r := { radios s with table }) hserver hm hown
    exact ⟨hs,hid⟩
  refine ⟨hs.1,?_,?_,?_,by simp [Network.powerOn]⟩
  · intro x hx
    change (radios x).powerCycle.server = false
    rw [hreset x hx]
    exact hclient x hx
  · intro x
    change (radios x).powerCycle.myUniqueId = _
    by_cases hx : x = s
    · subst hx
      exact hs.2
    · rw [hreset x hx]
  · intro x
    change (radios s).powerCycle.table.Agrees (radios x).powerCycle.myVc _
    by_cases hx : x = s
    · subst hx
      exact hs.2 ▸ hs.1.agrees
    · rw [hreset x hx]
      exact .inl rfl

/-- What the addresses of a network are to the server's table. -/
structure Network.Assigned (n : Network ι) (s : ι) : Prop where
  distinct : ∀ x y, x ≠ y → (n.radio x).myVc = (n.radio y).myVc → (n.radio x).myVc = vcUnassigned
  stored : ∀ x, (n.radio x).myVc ≠ vcUnassigned → ∃ v, (n.radio x).myVc = .ofNumber v ∧
    (n.radio s).table.find (n.radio x).myUniqueId.bytes = some v ∧
    (n.radio s).table.Lists v (n.radio x).myUniqueId ∧
    (n.radio s).table.Stores v (n.radio x).myUniqueId

omit [DecidableEq ι] in
theorem Network.Sound.assigned {ids : ι → UniqueId} {s : ι} {n : Network ι} (h : n.Sound ids s)
    (hids : ∀ x y, ids x = ids y → x = y) : n.Assigned s := by
  have hstored : ∀ x, (n.radio x).myVc ≠ vcUnassigned → ∃ v, (n.radio x).myVc = .ofNumber v ∧
      (n.radio s).table.find (ids x).bytes = some v := fun x hx => (h.myVc x).resolve_left hx
  constructor
  case distinct =>
    intro x y hxy heq
    by_contra hx
    obtain ⟨v,hv,hfind⟩ := hstored x hx
    obtain ⟨w,hw,hfind'⟩ := hstored y (heq ▸ hx)
    obtain rfl : v = w := VcAddress.ofNumber_inj (hv.symm.trans (heq.trans hw))
    exact hxy (hids x y ((find_lists hfind).unique (find_lists hfind')))
  case stored =>
    intro x hx
    obtain ⟨v,hv,hfind⟩ := hstored x hx
    have hlists := find_lists hfind
    rw [h.myUniqueId x]
    exact ⟨v,hv,hfind,hlists,(h.serves.mirrors v _).mp hlists⟩

theorem vcIdToAddressByte_error {t : Table} {server : Bool} {src : Option (Fin maxVc)}
    {id : IdBytes} {e : Int} (h : (vcIdToAddressByte t server src id).2 = .error e) :
    (vcIdToAddressByte t server src id).1 = t := by
  unfold vcIdToAddressByte at h ⊢
  split
  · rfl
  next hfind =>
    simp only [hfind] at h
    split
    · rfl
    next hsrc =>
      rw [if_neg hsrc] at h
      split
      · rfl
      next v hv =>
        simp only [hv] at h
        split
        · rfl
        next hvalid => simp [hvalid] at h

/-- Whatever is lost, reset or switched off and on again: no two radios of a
network have the same address, an address is the index at which the server has
the ID, no ID moves in the server's table, and a negative result leaves the
table as it was. -/
theorem addresses_assigned (radios : ι → Radio) (s : ι) (h : Startable radios s)
    (es : List (Event ι)) :
    (run Network.step (.powerOn radios) es).Assigned s ∧
    (∀ fs, ((run Network.step (.powerOn radios) es).radio s).table.Grows
      ((run Network.step (.powerOn radios) (es ++ fs)).radio s).table) ∧
    ∀ src id e, (vcIdToAddressByte ((run Network.step (.powerOn radios) es).radio s).table true
        src id).2 = .error e →
      (vcIdToAddressByte ((run Network.step (.powerOn radios) es).radio s).table true src id).1 =
        ((run Network.step (.powerOn radios) es).radio s).table := by
  have hsound := (sound_run (powerOn_sound h) es).1
  refine ⟨hsound.assigned h.distinct,fun fs => ?_,fun src id e => vcIdToAddressByte_error⟩
  rw [run_append]
  exact (sound_run hsound fs).2

/-- A factory-new radio whose ID consists of one byte. -/
def Radio.new (server : Bool) (b : UInt8)
    (h : (List.replicate 16 b).any (· != nvmEraseValue) = true) : Radio where
  server
  myUniqueId := ⟨List.Vector.replicate 16 b,h⟩
  myVc := 0
  table := ⟨fun _ => erased,fun _ => ⟨erased,false⟩⟩

/-- A server and two clients. -/
def threeRadios : Fin 3 → Radio
  | 0 => .new true 1 (by decide)
  | 1 => .new false 2 (by decide)
  | 2 => .new false 3 (by decide)

/-- The first client gets an address and is reset, the server is switched off
and on, and both clients ask again. -/
def threeRadiosRun : List (Event (Fin 3)) :=
  [.heartbeat 1,.hear 0 0,.hear 1 1,.reset 1,.powerCycle 0,.heartbeat 2,.hear 0 2,.hear 2 3,
    .heartbeat 1,.hear 0 4,.lose 1,.hear 1 4]

/-- The radios end with the addresses 0, 1 and 2. -/
theorem addresses_assigned_threeRadios :
    let n := run Network.step (.powerOn threeRadios) threeRadiosRun
    (List.finRange 3).map (fun x => (n.radio x).myVc) = [0,1,2] ∧
    n.Assigned 0 ∧
    (∀ fs, (n.radio 0).table.Grows
      ((run Network.step (.powerOn threeRadios) (threeRadiosRun ++ fs)).radio 0).table) ∧
    ∀ src id e, (vcIdToAddressByte (n.radio 0).table true src id).2 = .error e →
      (vcIdToAddressByte (n.radio 0).table true src id).1 = (n.radio 0).table :=
  ⟨by decide +kernel,
    addresses_assigned threeRadios 0 ⟨by decide,by decide,by decide⟩ threeRadiosRun⟩

end LoRaSerial.UniqueIds
