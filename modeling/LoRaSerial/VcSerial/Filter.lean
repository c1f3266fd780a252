import LoRaSerial.VcSerial.Termination

namespace LoRaSerial.VcSerial
open Rings Runs VC Framing
open Serial (serialReceiveBufferSize radioTxBufferSize)
open Outgoing (startOfVcSerial)

/-- What the filter is for: a message from this radio, to an address that may be
transmitted to. -/
def Permitted (myVc : VcAddress) (e : List UInt8) : Prop :=
  e.head? = some startOfVcSerial ∧ pieceSrc e = myVc ∧ myVc ≠ vcUnassigned ∧
    ((pieceDest e).toNat < minTxNotAllowed.toNat ∨ pieceDest e = vcBroadcast)

/-- A message from this radio to an address that may not be transmitted to, but
is not negative. -/
def Reserved (myVc : VcAddress) (e : List UInt8) : Prop :=
  e.head? = some startOfVcSerial ∧ pieceSrc e = myVc ∧ myVc ≠ vcUnassigned ∧
    minTxNotAllowed.toNat ≤ (pieceDest e).toNat ∧ (pieceDest e).toNat ≤ 0x7F

instance (myVc : VcAddress) (e : List UInt8) : Decidable (Permitted myVc e) :=
  inferInstanceAs (Decidable (_ ∧ _))

instance (myVc : VcAddress) (e : List UInt8) : Decidable (Reserved myVc e) :=
  inferInstanceAs (Decidable (_ ∧ _))

/-- The links that ATB breaks: those that are up, but not the own one. -/
def brokenByATB (myVc : VcAddress) (up : Fin maxVc → Bool) : List VcAddress :=
  ((List.finRange maxVc).filter fun i => up i && VcAddress.ofNumber i ≠ myVc).map
    VcAddress.ofNumber

/-- A run of the serial input: bytes arrive, with the links that are up at each
command, and the radio takes messages out of radioTxBuffer. -/
inductive Arrival where
  | updateSerial (incoming : List UInt8) (up : List (Fin maxVc → Bool))
  | vcSerialMessageReceived (i : Inputs)

/-- The port, the bytes that vcProcessSerialInput took and those it placed in
radioTxBuffer. -/
structure Trace where
  port : Port
  consumed : List UInt8
  placed : List UInt8

def Trace.step (t : Trace) : Arrival → Trace
  | .updateSerial incoming up =>
    let p := t.port
    let stream := p.serialReceiveBuffer.contents ++
      incoming.take (serialReceiveBufferSize - 1 - p.serialReceiveBuffer.available)
    let q := VcSerial.updateSerial p incoming (up.map (brokenByATB p.myVc))
    { port := q
      consumed := t.consumed ++
        stream.take (stream.length - q.serialReceiveBuffer.available)
      placed := t.placed ++ q.radioTxBuffer.contents.drop p.radioTxBuffer.available }
  | .vcSerialMessageReceived i => { t with port := (VcSerial.vcSerialMessageReceived t.port i).1 }

/-- What was consumed are whole pieces, of which exactly the permitted messages
were placed in radioTxBuffer. -/
def Trace.Filtered (t : Trace) : Prop :=
  ∃ es : List (List UInt8), (∀ e ∈ es, Piece e) ∧ t.consumed = es.flatten ∧
    t.placed = (es.filter (Permitted t.port.myVc)).flatMap List.tail

/-- Among the pieces consumed is no message to a reserved address. -/
def Trace.NoReserved (t : Trace) : Prop :=
  ∀ es : List (List UInt8), (∀ e ∈ es, Piece e) → t.consumed = es.flatten →
    ∀ e ∈ es, ¬Reserved t.port.myVc e

theorem Piece.append_inj {e e' as as' : List UInt8} (he : Piece e) (he' : Piece e')
    (h : e ++ as = e' ++ as') : e = e' ∧ as = as' := by
  cases he with
  | @garbage b hb =>
    cases he' with
    | @garbage b' hb' =>
      obtain ⟨rfl,rfl⟩ := List.cons.inj h
      exact ⟨rfl,rfl⟩
    | message hm' => exact absurd (List.cons.inj h).1 hb
  | message hm =>
    cases he' with
    | garbage hb' => exact absurd (List.cons.inj h).1.symm hb'
    | message hm' =>
      obtain ⟨rfl,rfl⟩ := hm.append_inj hm' (List.cons.inj h).2
      exact ⟨rfl,rfl⟩

theorem Piece.ne_nil {e : List UInt8} (he : Piece e) : e ≠ [] := by
  cases he with
  | garbage => exact List.cons_ne_nil _ _
  | message => exact List.cons_ne_nil _ _

theorem pieces_unique {es es' : List (List UInt8)} (h : ∀ e ∈ es, Piece e)
    (h' : ∀ e ∈ es', Piece e) (heq : es.flatten = es'.flatten) : es = es' := by
  induction es generalizing es' with
  | nil =>
    cases es' with
    | nil => rfl
    | cons e' es' =>
      have hne := (h' e' List.mem_cons_self).ne_nil
      rw [List.flatten_nil,List.flatten_cons,eq_comm,List.append_eq_nil_iff] at heq
      exact absurd heq.1 hne
  | cons e es ih =>
    obtain ⟨he,hes⟩ := List.forall_mem_cons.mp h
    cases es' with
    | nil =>
      rw [List.flatten_nil,List.flatten_cons,List.append_eq_nil_iff] at heq
      exact absurd heq.1 he.ne_nil
    | cons e' es' =>
      obtain ⟨he',hes'⟩ := List.forall_mem_cons.mp h'
      obtain ⟨rfl,hrest⟩ := he.append_inj he' heq
      rw [ih hes hes' hrest]

/-- The comparison with VC_BROADCAST is signed, and holds for negative
addresses alone, VC_COMMAND among them. -/
theorem checked_iff (vcDest : VcAddress) :
    vcDest = vcCommand ∨ minTxNotAllowed.toNat ≤ vcDest.toNat ∧ vcDest.slt vcBroadcast ↔
      ¬(vcDest.toNat < minTxNotAllowed.toNat ∨ vcDest = vcBroadcast) ∧
        ¬(minTxNotAllowed.toNat ≤ vcDest.toNat ∧ vcDest.toNat ≤ 0x7F) := by
  revert vcDest
  decide +kernel

/-- The check lets the permitted messages through, and the reserved ones. -/
theorem forwarded_eq (myVc : VcAddress) (e : List UInt8) : forwarded myVc e =
    if Permitted myVc e ∨ Reserved myVc e then e.tail else [] := by
  have hchecked := checked_iff (pieceDest e)
  rw [forwarded]
  by_cases hthrough : Permitted myVc e ∨ Reserved myVc e
  · rw [if_pos hthrough,if_neg]
    rw [Permitted,Reserved] at hthrough
    grind
  · rw [if_neg hthrough,if_pos]
    rw [Permitted,Reserved] at hthrough
    grind

/-- No message is both. -/
theorem Reserved.not_permitted {myVc : VcAddress} {e : List UInt8} (h : Reserved myVc e) :
    ¬Permitted myVc e := by
  rintro ⟨-,-,-,hlow | hbroadcast⟩
  · exact absurd h.2.2.2.1 (Nat.not_le_of_lt hlow)
  · have htop := h.2.2.2.2
    rw [hbroadcast] at htop
    exact absurd htop (by decide)

theorem brokenByATB_other {myVc : VcAddress} {up : Fin maxVc → Bool} :
    ¬breaksOwn myVc (brokenByATB myVc up) := by
  rintro ⟨v,hv,-,hown⟩
  obtain ⟨i,hi,rfl⟩ := List.mem_map.mp hv
  rw [VcAddress.number_ofNumber] at hown
  simp [hown] at hi

/-- The loop is left with the port as it is. -/
theorem processTurn_left {p q : Port} {breaks : List VcAddress}
    (h : processTurn p breaks = (q,true)) : q = p := by
  rw [processTurn] at h
  dsimp only at h
  split at h
  · cases h
  · split at h
    · cases h
    · split at h
      · exact (congrArg Prod.fst h).symm
      · cases h

theorem vcProcessSerialInput_cons (p : Port) (breaks : List VcAddress)
    (turns : List (List VcAddress)) : vcProcessSerialInput p (breaks :: turns) =
      (loopPass p breaks).elim p fun q => vcProcessSerialInput q turns := by
  rw [vcProcessSerialInput,loopPass]
  cases hturn : processTurn p breaks with
  | mk q left =>
    cases left with
    | true =>
      split
      · exact processTurn_left hturn
      · rfl
    | false =>
      split
      · rfl
      · rfl

theorem contents_forwarded {p q : Port} {e : List UInt8} (he : Piece e)
    (hroom : p.radioTxBuffer.available < radioTxBufferSize - 256)
    (h : q.radioTxBuffer = p.radioTxBuffer.pushAll (forwarded p.myVc e)) :
    q.radioTxBuffer.contents = p.radioTxBuffer.contents ++ forwarded p.myVc e := by
  have hsize := carried_le he p.myVc
  rw [← length_forwarded] at hsize
  rw [h,Ring.contents_pushAll (by omega)]

/-- The loop takes whole pieces and places what the check forwards of them. -/
theorem vcProcessSerialInput_pieces {p : Port} {turns : List (List VcAddress)}
    (hturns : ∀ breaks ∈ turns, ¬breaksOwn p.myVc breaks) :
    ∃ es : List (List UInt8), (∀ e ∈ es, Piece e) ∧
      p.serialReceiveBuffer.contents =
        es.flatten ++ (vcProcessSerialInput p turns).serialReceiveBuffer.contents ∧
      (vcProcessSerialInput p turns).radioTxBuffer.contents =
        p.radioTxBuffer.contents ++ es.flatMap (forwarded p.myVc) ∧
      (vcProcessSerialInput p turns).myVc = p.myVc := by
  induction turns generalizing p with
  | nil => exact ⟨[],by simp,by simp [vcProcessSerialInput],by simp [vcProcessSerialInput],rfl⟩
  | cons breaks turns ih =>
    obtain ⟨hbreaks,hrest⟩ := List.forall_mem_cons.mp hturns
    rw [vcProcessSerialInput_cons]
    cases hpass : loopPass p breaks with
    | none => exact ⟨[],by simp,by simp,by simp,rfl⟩
    | some q =>
      obtain ⟨hready,⟨-,-,rfl⟩ | ⟨e,rest,he,hcontents⟩⟩ := loopPass_cases hpass
      · exact ih hrest
      · obtain ⟨r,hr,-,hother⟩ := loopPass_piece he hcontents hready.2 breaks
        obtain rfl : r = q := Option.some.inj (hr.symm.trans hpass)
        obtain ⟨hconsumed,hradio⟩ := hother fun h => hbreaks h.2
        have havail := available_of_contents hcontents
        have hleft : r.serialReceiveBuffer.contents = rest := by
          rw [hconsumed.serialReceiveBuffer,Ring.contents_skip (by omega),hcontents,
            List.drop_left]
        have hplaced := contents_forwarded he hready.2 hradio
        rw [← hconsumed.myVc] at hrest
        obtain ⟨es,hes,hstream,hrun,hvc⟩ := ih hrest
        refine ⟨e :: es,List.forall_mem_cons.mpr ⟨he,hes⟩,?_,?_,hvc.trans hconsumed.myVc⟩
        · change _ = _ ++ (vcProcessSerialInput r turns).serialReceiveBuffer.contents
          rw [List.flatten_cons,List.append_assoc,← hstream,hleft,hcontents]
        · change (vcProcessSerialInput r turns).radioTxBuffer.contents = _
          rw [hrun,hplaced,hconsumed.myVc,List.flatMap_cons,List.append_assoc]

/-- What was consumed so far, in pieces, and what the check forwarded of them. -/
def Trace.Kept (t : Trace) : Prop :=
  ∃ es : List (List UInt8), (∀ e ∈ es, Piece e) ∧ t.consumed = es.flatten ∧
    t.placed = es.flatMap (forwarded t.port.myVc)

theorem vcBreakLink_myVc (p : Port) (v : VcAddress) : (vcBreakLink p v).myVc = p.myVc := by
  rw [vcBreakLink]
  split
  · rfl
  · split
    · rfl
    · rfl

theorem vcSerialMessageReceived_myVc (p : Port) (i : Inputs) :
    (vcSerialMessageReceived p i).1.myVc = p.myVc := by
  rw [vcSerialMessageReceived]
  dsimp only
  split
  · rfl
  · split
    · rfl
    · split
      · rfl
      · split
        · split
          · rfl
          · exact vcBreakLink_myVc _ _
        · split
          · rfl
          · rfl

/-- One call of updateSerial: the bytes that arrive join those that wait, and
the loop takes pieces of them. -/
theorem updateSerial_pieces {p : Port} (incoming : List UInt8) {turns : List (List VcAddress)}
    (hturns : ∀ breaks ∈ turns, ¬breaksOwn p.myVc breaks) :
    ∃ es : List (List UInt8), (∀ e ∈ es, Piece e) ∧
      p.serialReceiveBuffer.contents ++
          incoming.take (serialReceiveBufferSize - 1 - p.serialReceiveBuffer.available) =
        es.flatten ++ (updateSerial p incoming turns).serialReceiveBuffer.contents ∧
      (updateSerial p incoming turns).radioTxBuffer.contents =
        p.radioTxBuffer.contents ++ es.flatMap (forwarded p.myVc) ∧
      (updateSerial p incoming turns).myVc = p.myVc := by
  have hspace : p.serialReceiveBuffer.available + (incoming.take (serialReceiveBufferSize - 1 -
      p.serialReceiveBuffer.available)).length < serialReceiveBufferSize := by
    have havail := p.serialReceiveBuffer.available_lt
    rw [List.length_take]
    omega
  obtain ⟨es,hes,hstream,hrest⟩ := vcProcessSerialInput_pieces
    (p := { p with
      serialReceiveBuffer := p.serialReceiveBuffer.pushAll (incoming.take
        (serialReceiveBufferSize - 1 - p.serialReceiveBuffer.available)) }) hturns
  dsimp only at hstream
  rw [Ring.contents_pushAll hspace] at hstream
  exact ⟨es,hes,hstream,hrest⟩

theorem Trace.Kept.updateSerial {t : Trace} (h : t.Kept) (incoming : List UInt8)
    (up : List (Fin maxVc → Bool)) :
    (t.step (.updateSerial incoming up)).Kept ∧
      (t.step (.updateSerial incoming up)).port.myVc = t.port.myVc := by
  obtain ⟨es,hes,hconsumed,hplaced⟩ := h
  have hturns : ∀ breaks ∈ up.map (brokenByATB t.port.myVc), ¬breaksOwn t.port.myVc breaks := by
    intro breaks hbreaks
    obtain ⟨u,-,rfl⟩ := List.mem_map.mp hbreaks
    exact brokenByATB_other
  obtain ⟨fs,hfs,hstream,hradio,hvc⟩ := updateSerial_pieces incoming hturns
  rw [Trace.step]
  dsimp only
  generalize VcSerial.updateSerial t.port incoming (up.map (brokenByATB t.port.myVc)) = q
    at hstream hradio hvc
  refine ⟨⟨es ++ fs,?_,?_,?_⟩,hvc⟩
  · intro e he
    rcases List.mem_append.mp he with he | he
    · exact hes e he
    · exact hfs e he
  · change t.consumed ++ _ = _
    rw [hstream,← Ring.length_contents q.serialReceiveBuffer,List.length_append,
      Nat.add_sub_cancel,List.take_left,List.flatten_append,hconsumed]
  · change t.placed ++ _ = (es ++ fs).flatMap (forwarded q.myVc)
    rw [hradio,hvc,← Ring.length_contents t.port.radioTxBuffer,List.drop_left,
      List.flatMap_append,hplaced]

theorem Trace.Kept.step {t : Trace} (h : t.Kept) (a : Arrival) :
    (t.step a).Kept ∧ (t.step a).port.myVc = t.port.myVc := by
  cases a with
  | updateSerial incoming up => exact h.updateSerial incoming up
  | vcSerialMessageReceived i =>
    have hvc := vcSerialMessageReceived_myVc t.port i
    obtain ⟨es,hes,hconsumed,hplaced⟩ := h
    exact ⟨⟨es,hes,hconsumed,hvc.symm ▸ hplaced⟩,hvc⟩

section

variable {myVc : VcAddress}

/-- What the check forwards of a piece that is not reserved. -/
theorem forwarded_of_not_reserved {e : List UInt8} (h : ¬Reserved myVc e) :
    forwarded myVc e = if Permitted myVc e then e.tail else [] := by
  simp only [forwarded_eq,h,or_false]

theorem permitted_flatMap (e : List UInt8) (es : List (List UInt8)) :
    ((e :: es).filter (Permitted myVc)).flatMap List.tail =
      (if Permitted myVc e then e.tail else []) ++
        (es.filter (Permitted myVc)).flatMap List.tail := by
  by_cases h : Permitted myVc e
  · rw [if_pos h,List.filter_cons_of_pos (by simpa using h),List.flatMap_cons]
  · rw [if_neg h,List.filter_cons_of_neg (by simpa using h),List.nil_append]

theorem length_permitted_le (es : List (List UInt8)) :
    ((es.filter (Permitted myVc)).flatMap List.tail).length ≤
      (es.flatMap (forwarded myVc)).length := by
  induction es with
  | nil => exact le_rfl
  | cons e es ih =>
    have hfirst : (if Permitted myVc e then e.tail else []).length ≤
        (forwarded myVc e).length := by
      rw [forwarded_eq]
      split
      · next h => rw [if_pos (.inl h)]
      · exact Nat.zero_le _
    rw [permitted_flatMap,List.flatMap_cons,List.length_append,List.length_append]
    omega

/-- Exactly the permitted messages are forwarded if none is reserved, and only
then. -/
theorem forwarded_eq_permitted_iff {es : List (List UInt8)} (hes : ∀ e ∈ es, Piece e) :
    es.flatMap (forwarded myVc) = (es.filter (Permitted myVc)).flatMap List.tail ↔
      ∀ e ∈ es, ¬Reserved myVc e := by
  induction es with
  | nil => exact iff_of_true rfl (fun e he => (nomatch he))
  | cons e es ih =>
    obtain ⟨he,hes⟩ := List.forall_mem_cons.mp hes
    rw [permitted_flatMap,List.flatMap_cons,List.forall_mem_cons,← ih hes]
    by_cases hreserved : Reserved myVc e
    · apply iff_of_false
      · intro heq
        have hle : ((es.filter (Permitted myVc)).flatMap List.tail).length ≤
            (es.flatMap (forwarded myVc)).length := length_permitted_le es
        have hlength := congrArg List.length heq
        rw [forwarded_eq,if_pos (.inr hreserved),if_neg hreserved.not_permitted,
          List.length_append,List.length_append] at hlength
        have htail : 0 < e.tail.length := by
          cases he with
          | garbage hb => exact absurd (Option.some.inj hreserved.1) hb
          | message hm => exact Nat.lt_of_lt_of_le (by decide) hm.least
        rw [List.length_nil] at hlength
        omega
      · intro h
        exact h.1 hreserved
    · rw [forwarded_of_not_reserved hreserved,List.append_cancel_left_eq]
      exact (and_iff_right hreserved).symm

end

theorem Trace.Kept.filtered_iff {t : Trace} (h : t.Kept) : t.Filtered ↔ t.NoReserved := by
  obtain ⟨es,hes,hconsumed,hplaced⟩ := h
  have hiff : t.placed = (es.filter (Permitted t.port.myVc)).flatMap List.tail ↔
      ∀ e ∈ es, ¬Reserved t.port.myVc e := by
    rw [hplaced]
    exact forwarded_eq_permitted_iff hes
  constructor
  · rintro ⟨fs,hfs,hstream,hpermitted⟩ gs hgs hgs'
    obtain rfl := pieces_unique hes hfs (hconsumed.symm.trans hstream)
    obtain rfl := pieces_unique hes hgs (hconsumed.symm.trans hgs')
    exact hiff.mp hpermitted
  · intro hnone
    exact ⟨es,hes,hconsumed,hiff.mpr (hnone es hes hconsumed)⟩

theorem Trace.Kept.run {t : Trace} (h : t.Kept) (arrivals : List Arrival) :
    (run Trace.step t arrivals).Kept ∧ (run Trace.step t arrivals).port.myVc = t.port.myVc := by
  induction arrivals generalizing t with
  | nil => exact ⟨h,rfl⟩
  | cons a arrivals ih =>
    obtain ⟨hstep,hvc⟩ := h.step a
    obtain ⟨hrun,hrest⟩ := ih hstep
    exact ⟨hrun,hrest.trans hvc⟩

/-- The host address filter: however the bytes arrive, the messages placed in
radioTxBuffer are exactly the permitted ones, and the others are consumed
whole, as long as no message to a reserved address from 0x60 to 0x7F is. -/
theorem host_filter_iff (p : Port) (arrivals : List Arrival) :
    (run Trace.step ⟨p,[],[]⟩ arrivals).Filtered ↔
      (run Trace.step ⟨p,[],[]⟩ arrivals).NoReserved := by
  have hstart : Trace.Kept ⟨p,[],[]⟩ := ⟨[],by simp,rfl,rfl⟩
  exact (hstart.run arrivals).1.filtered_iff

/-- A radio with address 1 whose host has sent a message to 0x60. -/
def toReserved : Trace :=
  run Trace.step ⟨{ poweredOn with myVc := 1 },[],[]⟩
    [.updateSerial [startOfVcSerial,4,0x60,1,0x41] [fun _ => false]]

theorem reserved_address_placed : toReserved.placed = [4,0x60,1,0x41] ∧ ¬toReserved.Filtered := by
  have hstart : Trace.Kept ⟨{ poweredOn with myVc := 1 },[],[]⟩ := ⟨[],by simp,rfl,rfl⟩
  have hkept : toReserved.Kept := (hstart.run _).1
  have hvc : toReserved.port.myVc = 1 := (hstart.run _).2
  have hconsumed : toReserved.consumed = [[startOfVcSerial,4,0x60,1,0x41]].flatten := by
    decide +kernel
  refine ⟨by decide +kernel,fun hfiltered => ?_⟩
  have hpiece : Piece [startOfVcSerial,4,0x60,1,0x41] := .message ⟨rfl,by decide⟩
  have hnone := hkept.filtered_iff.mp hfiltered _ (List.forall_mem_singleton.mpr hpiece) hconsumed _
    List.mem_cons_self
  rw [hvc] at hnone
  exact hnone (by decide)

end LoRaSerial.VcSerial
