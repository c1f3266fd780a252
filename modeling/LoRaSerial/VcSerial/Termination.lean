import LoRaSerial.VcSerial.Messages

namespace LoRaSerial.VcSerial
open Rings VC Framing
open Serial (serialReceiveBufferSize radioTxBufferSize commandBufferSize)
open Outgoing (vcRadioHeaderBytes vcSerialHeaderBytes startOfVcSerial)

/-- The condition of the loop while transactionComplete is false. -/
abbrev Port.ready (p : Port) : Prop :=
  p.serialReceiveBuffer.available ≠ 0 ∧ p.radioTxBuffer.available < radioTxBufferSize - 256

/-- One pass of the loop, none where it is left. -/
def loopPass (p : Port) (breaks : List VcAddress) : Option Port :=
  if p.ready then
    match processTurn p breaks with
    | (_,true) => none
    | (q,false) => some q
  else none

/-- The port before pass `n` of the loop, none once it is left. -/
def beforePass (p : Port) (breaks : Nat → List VcAddress) : Nat → Option Port
  | 0 => some p
  | n + 1 => (loopPass p (breaks 0)).bind fun q => beforePass q (fun k => breaks (k + 1)) n

/-- Each pass of the loop consumes a byte or leaves it, and one does leave it. -/
structure Terminates (p : Port) (breaks : Nat → List VcAddress) : Prop where
  ends : ∃ n, beforePass p breaks n = none
  consumes : ∀ n q r, beforePass p breaks n = some q → loopPass q (breaks n) = some r →
    r.serialReceiveBuffer.available < q.serialReceiveBuffer.available

/-- A byte of garbage, or a message behind its START_OF_VC_SERIAL. -/
inductive Piece : List UInt8 → Prop where
  | garbage {b : UInt8} : b ≠ startOfVcSerial → Piece [b]
  | message {m : List UInt8} : WholeMessage m → Piece (startOfVcSerial :: m)

def pieceDest (e : List UInt8) : VcAddress := (e.getD 2 0).toBitVec
def pieceSrc (e : List UInt8) : VcAddress := (e.getD 3 0).toBitVec

/-- The message is handed to checkCommand. -/
def executed (e : List UInt8) : Prop :=
  e.head? = some startOfVcSerial ∧ pieceDest e = vcCommand ∧ pieceSrc e = pcCommand ∧
    e.length - 1 ≤ commandBufferSize - 1

/-- The bytes that go to radioTxBuffer. -/
def carried (myVc : VcAddress) (e : List UInt8) : Nat :=
  if e.head? ≠ some startOfVcSerial ∨ pieceDest e = vcCommand ∨ pieceSrc e ≠ myVc ∨
      myVc = vcUnassigned ∨
      minTxNotAllowed.toNat ≤ (pieceDest e).toNat ∧ (pieceDest e).slt vcBroadcast then 0
  else e.length - 1

/-- Those bytes. -/
def forwarded (myVc : VcAddress) (e : List UInt8) : List UInt8 :=
  if e.head? ≠ some startOfVcSerial ∨ pieceDest e = vcCommand ∨ pieceSrc e ≠ myVc ∨
      myVc = vcUnassigned ∨
      minTxNotAllowed.toNat ≤ (pieceDest e).toNat ∧ (pieceDest e).slt vcBroadcast then []
  else e.tail

theorem length_forwarded (myVc : VcAddress) (e : List UInt8) :
    (forwarded myVc e).length = carried myVc e := by
  rw [forwarded,carried]
  split
  · rfl
  · exact List.length_tail

/-- One of the links broken is the own one. -/
def breaksOwn (myVc : VcAddress) (breaks : List VcAddress) : Prop :=
  ∃ v ∈ breaks, v.toNat < minRxNotAllowed.toNat ∧ VcAddress.ofNumber v.number = myVc

/-- Behind garbage and whole messages, which radioTxBuffer has room for and of
which no command breaks the own link, waits a START_OF_VC_SERIAL, and the cell
behind it, received or not, holds less than VC_SERIAL_HEADER_BYTES. -/
def Stuck (p : Port) (breaks : Nat → List VcAddress) : Prop :=
  ∃ es rest, p.serialReceiveBuffer.contents = List.flatten es ++ startOfVcSerial :: rest ∧
    (∀ e ∈ es, Piece e) ∧
    (p.serialReceiveBuffer.peek (es.flatten.length + 1)).toNat < vcSerialHeaderBytes ∧
    p.radioTxBuffer.available + (es.map (carried p.myVc)).sum < radioTxBufferSize - 256 ∧
    ∀ k e, es[k]? = some e → ¬(executed e ∧ breaksOwn p.myVc (breaks k))

theorem vcBreakLink_own {p : Port} {v : VcAddress}
    (hvalid : v.toNat < minRxNotAllowed.toNat) (hown : VcAddress.ofNumber v.number = p.myVc) :
    (vcBreakLink p v).serialReceiveBuffer.available = 0 := by
  unfold vcBreakLink
  rw [if_neg (Nat.not_le_of_lt hvalid),if_pos hown]
  exact Ring.contents_eq_nil.mp (Ring.contents_revoke _)

theorem vcBreakLink_other {p : Port} {v : VcAddress}
    (h : ¬(v.toNat < minRxNotAllowed.toNat ∧ VcAddress.ofNumber v.number = p.myVc)) :
    vcBreakLink p v = p := by
  unfold vcBreakLink
  split
  · rfl
  next hvalid => rw [if_neg fun hown => h ⟨Nat.lt_of_not_le hvalid,hown⟩]

theorem vcBreakLink_emptied {p : Port} (h : p.serialReceiveBuffer.available = 0)
    (v : VcAddress) : (vcBreakLink p v).serialReceiveBuffer.available = 0 := by
  by_cases hown : v.toNat < minRxNotAllowed.toNat ∧ VcAddress.ofNumber v.number = p.myVc
  · exact vcBreakLink_own hown.1 hown.2
  · rw [vcBreakLink_other hown]
    exact h

theorem checkCommand_own {p : Port} {breaks : List VcAddress} (h : breaksOwn p.myVc breaks) :
    (checkCommand p breaks).serialReceiveBuffer.available = 0 := by
  change (breaks.foldl vcBreakLink p).serialReceiveBuffer.available = 0
  have hemptied : ∀ (vs : List VcAddress) (q : Port), q.serialReceiveBuffer.available = 0 →
      (vs.foldl vcBreakLink q).serialReceiveBuffer.available = 0 := by
    intro vs
    induction vs with
    | nil => exact fun _ hq => hq
    | cons v vs ih => exact fun q hq => ih _ (vcBreakLink_emptied hq v)
  induction breaks with
  | nil =>
    obtain ⟨v,hv,-⟩ := h
    cases hv
  | cons v breaks ih =>
    rw [List.foldl_cons]
    by_cases hown : v.toNat < minRxNotAllowed.toNat ∧ VcAddress.ofNumber v.number = p.myVc
    · exact hemptied breaks _ (vcBreakLink_own hown.1 hown.2)
    · rw [vcBreakLink_other hown]
      obtain ⟨w,hw,hw'⟩ := h
      rcases List.mem_cons.mp hw with rfl | hw
      · exact absurd hw' hown
      · exact ih ⟨w,hw,hw'⟩

theorem checkCommand_other {p : Port} {breaks : List VcAddress}
    (h : ¬breaksOwn p.myVc breaks) :
    checkCommand p breaks = { p with commandBuffer := [] } := by
  have hall : breaks.foldl vcBreakLink p = p := by
    induction breaks with
    | nil => rfl
    | cons v breaks ih =>
      rw [List.foldl_cons,vcBreakLink_other fun hv => h ⟨v,List.mem_cons_self,hv⟩]
      exact ih fun ⟨w,hw,hw'⟩ => h ⟨w,List.mem_cons_of_mem _ hw,hw'⟩
  unfold checkCommand
  rw [hall]

/-- The piece is gone from serialReceiveBuffer and has gone where it belongs. -/
structure Consumed (p : Port) (e : List UInt8) (q : Port) : Prop where
  serialReceiveBuffer : q.serialReceiveBuffer = p.serialReceiveBuffer.skip e.length
  radioTxBuffer : q.radioTxBuffer.available = p.radioTxBuffer.available + carried p.myVc e
  myVc : q.myVc = p.myVc

theorem moveCommand_myVc (p : Port) (length : Nat) :
    (p.moveCommand length).myVc = p.myVc ∧
      (p.moveCommand length).serialReceiveBuffer = p.serialReceiveBuffer.skip length := by
  induction length generalizing p with
  | zero => exact ⟨rfl,by simp [Port.moveCommand,Ring.skip]⟩
  | succ length ih =>
    obtain ⟨hvc,hring⟩ := ih
      { p with
        commandBuffer := p.commandBuffer ++ [toupper (p.serialReceiveBuffer.peek 0)]
        serialReceiveBuffer := p.serialReceiveBuffer.skip 1 }
    refine ⟨hvc,?_⟩
    unfold Port.moveCommand
    rw [hring]
    change (p.serialReceiveBuffer.skip 1).skip length = _
    rw [Ring.skip_skip,Nat.add_comm]

/-- A command that is executed is taken whole. -/
theorem checkCommand_moved {length : Nat} (hlength : vcRadioHeaderBytes ≤ length) (p : Port)
    (breaks : List VcAddress) :
    let q := checkCommand (Port.moveCommand { p.skipRx vcRadioHeaderBytes with commandBuffer := [] }
      (length - vcRadioHeaderBytes)) breaks
    (breaksOwn p.myVc breaks → q.serialReceiveBuffer.available = 0) ∧
      (¬breaksOwn p.myVc breaks →
        q.serialReceiveBuffer = p.serialReceiveBuffer.skip length ∧
          q.radioTxBuffer = p.radioTxBuffer ∧ q.myVc = p.myVc) := by
  obtain ⟨hvc,hrx⟩ := moveCommand_myVc
    { p.skipRx vcRadioHeaderBytes with commandBuffer := [] } (length - vcRadioHeaderBytes)
  obtain ⟨hradio,-⟩ := moveCommand_frame
    { p.skipRx vcRadioHeaderBytes with commandBuffer := [] } (length - vcRadioHeaderBytes)
  refine ⟨fun h => checkCommand_own (hvc.symm ▸ h),fun h => ?_⟩
  rw [checkCommand_other (hvc.symm ▸ h)]
  refine ⟨hrx.trans ?_,hradio,hvc⟩
  change (p.serialReceiveBuffer.skip vcRadioHeaderBytes).skip _ = _
  rw [Ring.skip_skip,Nat.add_sub_cancel' hlength]

/-- A pass takes the piece that waits at the tail, unless its command breaks
the own link: that leaves nothing. -/
theorem processMessage_consumed {p : Port} {m rest : List UInt8} (hm : WholeMessage m)
    (hcontents : p.serialReceiveBuffer.contents = m ++ rest) (breaks : List VcAddress) :
    let e := startOfVcSerial :: m
    let q := processMessage p m.length breaks
    (executed e ∧ breaksOwn p.myVc breaks → q.serialReceiveBuffer.available = 0) ∧
      (¬(executed e ∧ breaksOwn p.myVc breaks) →
        q.serialReceiveBuffer = p.serialReceiveBuffer.skip m.length ∧
          q.radioTxBuffer = p.radioTxBuffer.pushAll (forwarded p.myVc e) ∧
          q.myVc = p.myVc) := by
  have havail : m.length ≤ p.serialReceiveBuffer.available := by
    rw [← Ring.length_contents,hcontents,List.length_append]
    omega
  have hleast := hm.least
  have hbyte : ∀ k < m.length, p.serialReceiveBuffer.peek k = m.getD k 0 := by
    intro k hk
    rw [← Ring.getD_contents (Nat.lt_of_lt_of_le hk havail) 0,hcontents,
      List.getD_eq_getElem?_getD,List.getD_eq_getElem?_getD,List.getElem?_append_left hk]
  have hdest : (p.serialReceiveBuffer.peek 1).toBitVec = pieceDest (startOfVcSerial :: m) :=
    congrArg UInt8.toBitVec (hbyte 1 (Nat.lt_of_lt_of_le (by decide) hleast))
  have hsrc : (p.serialReceiveBuffer.peek 2).toBitVec = pieceSrc (startOfVcSerial :: m) :=
    congrArg UInt8.toBitVec (hbyte 2 (Nat.lt_of_lt_of_le (by decide) hleast))
  have hlength : (startOfVcSerial :: m).length - 1 = m.length := rfl
  dsimp only
  unfold processMessage
  dsimp only
  rw [hdest,hsrc]
  by_cases hcommand : pieceDest (startOfVcSerial :: m) = vcCommand
  · have hforwarded : forwarded p.myVc (startOfVcSerial :: m) = [] :=
      if_pos (.inr (.inl hcommand))
    rw [if_pos hcommand,hforwarded]
    split
    next hrefused =>
      have hnot : ¬executed (startOfVcSerial :: m) := by
        rintro ⟨-,-,hpc,hfits⟩
        rw [hlength] at hfits
        rcases hrefused with hrefused | hrefused
        · exact hrefused hpc
        · omega
      exact ⟨fun h => absurd h.1 hnot,fun _ => ⟨rfl,rfl,rfl⟩⟩
    next htaken =>
      obtain ⟨hpc,hfits⟩ := not_or.mp htaken
      have hexecuted : executed (startOfVcSerial :: m) :=
        ⟨rfl,hcommand,not_not.mp hpc,Nat.le_of_not_lt hfits⟩
      obtain ⟨hown,hother⟩ := checkCommand_moved (Nat.le_trans (by decide) hleast) p breaks
      exact ⟨fun h => hown h.2,fun h => hother fun hbreaks => h ⟨hexecuted,hbreaks⟩⟩
  · have hnot : ¬executed (startOfVcSerial :: m) := fun h => hcommand h.2.1
    refine ⟨fun h => absurd h.1 hnot,fun _ => ?_⟩
    rw [if_neg hcommand]
    split
    next hsource =>
      have hforwarded : forwarded p.myVc (startOfVcSerial :: m) = [] := by
        refine if_pos ?_
        rcases hsource with hsource | hsource
        · exact .inr (.inr (.inl hsource))
        · exact .inr (.inr (.inr (.inl hsource)))
      exact ⟨rfl,by rw [hforwarded]; rfl,rfl⟩
    next hsource =>
      split
      next hreserved =>
        have hforwarded : forwarded p.myVc (startOfVcSerial :: m) = [] :=
          if_pos (.inr (.inr (.inr (.inr hreserved))))
        exact ⟨rfl,by rw [hforwarded]; rfl,rfl⟩
      next hreserved =>
        have hforwarded : forwarded p.myVc (startOfVcSerial :: m) = m := by
          refine if_neg ?_
          rintro (h | h | h | h | h)
          · exact h rfl
          · exact hcommand h
          · exact hsource (.inl h)
          · exact hsource (.inr h)
          · exact hreserved h
        have htake : p.serialReceiveBuffer.contents.take m.length = m := by
          rw [hcontents,List.take_left]
        rw [moveMessage_eq havail,hforwarded,htake]
        exact ⟨rfl,rfl,rfl⟩

/-- A message has 255 bytes at most. -/
theorem carried_le {e : List UInt8} (he : Piece e) (myVc : VcAddress) :
    carried myVc e ≤ 255 := by
  have hle : carried myVc e ≤ e.length - 1 := by
    rw [carried]
    split
    · exact Nat.zero_le _
    · exact le_rfl
  cases he with
  | garbage => exact hle.trans (Nat.zero_le _)
  | @message m hm =>
    obtain ⟨first,tail,rfl⟩ : ∃ first tail, m = first :: tail := by
      cases m with
      | nil => cases hm.length
      | cons first tail => exact ⟨first,tail,rfl⟩
    have hfirst : first.toNat = (first :: tail).length := Option.some.inj hm.length
    have hlt := first.toNat_lt
    rw [List.length_cons,← hfirst,Nat.add_sub_cancel] at hle
    omega

theorem available_forwarded {p q : Port} {e : List UInt8}
    (h : q.radioTxBuffer = p.radioTxBuffer.pushAll (forwarded p.myVc e))
    (hroom : p.radioTxBuffer.available + carried p.myVc e < radioTxBufferSize) :
    q.radioTxBuffer.available = p.radioTxBuffer.available + carried p.myVc e := by
  rw [← length_forwarded] at hroom ⊢
  rw [h,← Ring.length_contents,Ring.contents_pushAll hroom,List.length_append,
    Ring.length_contents]

theorem loopPass_ready {p : Port} (h : p.ready) {breaks : List VcAddress} {q : Port}
    (hturn : processTurn p breaks = (q,false)) : loopPass p breaks = some q := by
  unfold loopPass
  rw [if_pos h,hturn]

theorem available_of_contents {p : Port} {bytes rest : List UInt8}
    (h : p.serialReceiveBuffer.contents = bytes ++ rest) :
    p.serialReceiveBuffer.available = bytes.length + rest.length := by
  rw [← Ring.length_contents,h,List.length_append]

/-- A pass of the loop takes the piece that waits at the tail; a command that
breaks the own link leaves nothing behind it. -/
theorem loopPass_piece {p : Port} {e rest : List UInt8} (he : Piece e)
    (hcontents : p.serialReceiveBuffer.contents = e ++ rest)
    (hroom : p.radioTxBuffer.available < radioTxBufferSize - 256) (breaks : List VcAddress) :
    ∃ q, loopPass p breaks = some q ∧
      (executed e ∧ breaksOwn p.myVc breaks → q.serialReceiveBuffer.available = 0) ∧
      (¬(executed e ∧ breaksOwn p.myVc breaks) → Consumed p e q ∧
        q.radioTxBuffer = p.radioTxBuffer.pushAll (forwarded p.myVc e)) := by
  have havail := available_of_contents hcontents
  have hpeek : ∀ k b, (e ++ rest)[k]? = some b → p.serialReceiveBuffer.peek k = b := by
    intro k b hk
    obtain ⟨hlt,-⟩ := List.getElem?_eq_some_iff.mp hk
    rw [← hcontents,Ring.length_contents] at hlt
    rw [← hcontents,Ring.getElem?_contents hlt] at hk
    exact Option.some.inj hk
  cases he with
  | @garbage b hb =>
    have hready : p.ready := ⟨by rw [havail]; simp,hroom⟩
    have hturn : processTurn p breaks = (p.skipRx 1,false) := by
      unfold processTurn
      exact if_pos (hpeek 0 b rfl ▸ hb)
    have hhead : ([b] : List UInt8).head? ≠ some startOfVcSerial :=
      fun h => hb (Option.some.inj h)
    have hcarried : carried p.myVc [b] = 0 := if_pos (.inl hhead)
    have hforwarded : forwarded p.myVc [b] = [] := if_pos (.inl hhead)
    refine ⟨_,loopPass_ready hready hturn,fun h => absurd h.1.1 hhead,
      fun _ => ⟨⟨rfl,?_,rfl⟩,?_⟩⟩
    · rw [hcarried]
      rfl
    · rw [hforwarded]
      rfl
  | @message m hm =>
    have hready : p.ready := ⟨by rw [havail]; simp,hroom⟩
    obtain ⟨first,tail,rfl⟩ : ∃ first tail, m = first :: tail := by
      cases m with
      | nil => cases hm.length
      | cons first tail => exact ⟨first,tail,rfl⟩
    have hfirst : first.toNat = (first :: tail).length := Option.some.inj hm.length
    have hleast := hm.least
    have hturn : processTurn p breaks =
        (processMessage (p.skipRx 1) (first :: tail).length breaks,false) := by
      unfold processTurn
      rw [hpeek 0 startOfVcSerial rfl,hpeek 1 first rfl]
      dsimp only
      rw [hfirst,if_neg (fun h => h rfl),if_neg (Nat.not_lt_of_le hleast),if_neg]
      rw [havail,List.length_cons]
      omega
    have hskipped : (p.skipRx 1).serialReceiveBuffer.contents = (first :: tail) ++ rest := by
      change (p.serialReceiveBuffer.skip 1).contents = _
      rw [Ring.contents_skip (by rw [havail,List.length_cons]; omega),hcontents]
      rfl
    obtain ⟨hown,hother⟩ := processMessage_consumed hm hskipped breaks
    refine ⟨_,loopPass_ready hready hturn,hown,fun h => ?_⟩
    obtain ⟨hrx,hradio,hvc⟩ := hother h
    have hsize := carried_le (.message hm) p.myVc
    refine ⟨⟨?_,available_forwarded hradio (by omega),hvc⟩,hradio⟩
    rw [hrx]
    change (p.serialReceiveBuffer.skip 1).skip _ = _
    rw [Ring.skip_skip,Nat.add_comm]
    rfl

/-- The loop goes on from a port only past a piece, or past nothing at all. -/
theorem loopPass_cases {p q : Port} {breaks : List VcAddress} (h : loopPass p breaks = some q) :
    p.ready ∧
      ((p.serialReceiveBuffer.contents.head? = some startOfVcSerial ∧
          (p.serialReceiveBuffer.peek 1).toNat < vcSerialHeaderBytes ∧ q = p) ∨
        ∃ e rest, Piece e ∧ p.serialReceiveBuffer.contents = e ++ rest) := by
  unfold loopPass at h
  split at h
  next hready =>
    refine ⟨hready,?_⟩
    have hpos : 0 < p.serialReceiveBuffer.available := Nat.pos_of_ne_zero hready.1
    have hhead : p.serialReceiveBuffer.contents[0]? = some (p.serialReceiveBuffer.peek 0) :=
      Ring.getElem?_contents hpos
    obtain ⟨first,bytes,hbytes⟩ : ∃ first bytes,
        p.serialReceiveBuffer.contents = first :: bytes := by
      cases hc : p.serialReceiveBuffer.contents with
      | nil => simp [hc] at hhead
      | cons first bytes => exact ⟨first,bytes,rfl⟩
    obtain rfl : first = p.serialReceiveBuffer.peek 0 := by
      rw [hbytes] at hhead
      exact Option.some.inj hhead
    by_cases hstart : p.serialReceiveBuffer.peek 0 = startOfVcSerial
    · by_cases hleast : (p.serialReceiveBuffer.peek 1).toNat < vcSerialHeaderBytes
      · refine .inl ⟨by rw [hbytes,hstart]; rfl,hleast,?_⟩
        have hturn : processTurn p breaks = (p,false) := by
          unfold processTurn
          dsimp only
          rw [if_neg (not_not.mpr hstart),if_pos hleast]
        rw [hturn] at h
        exact (Option.some.inj h).symm
      · right
        have hcomplete : ¬p.serialReceiveBuffer.available <
            (p.serialReceiveBuffer.peek 1).toNat + 1 := by
          intro hpart
          have hturn : processTurn p breaks = (p,true) := by
            unfold processTurn
            dsimp only
            rw [if_neg (not_not.mpr hstart),if_neg hleast,if_pos hpart]
          rw [hturn] at h
          cases h
        have hav := congrArg List.length hbytes
        rw [Ring.length_contents,List.length_cons] at hav
        have hone : 1 < p.serialReceiveBuffer.available := by
          simp only [vcSerialHeaderBytes] at hleast
          omega
        have hsecond : bytes[0]? = some (p.serialReceiveBuffer.peek 1) := by
          rw [← Ring.getElem?_contents hone,hbytes]
          rfl
        refine ⟨startOfVcSerial :: bytes.take (p.serialReceiveBuffer.peek 1).toNat,
          bytes.drop (p.serialReceiveBuffer.peek 1).toNat,.message ⟨?_,?_⟩,?_⟩
        · rw [List.head?_take,if_neg (by simp only [vcSerialHeaderBytes] at hleast; omega),
            List.head?_eq_getElem?,hsecond,List.length_take,Nat.min_eq_left]
          · rfl
          · omega
        · rw [List.length_take,Nat.min_eq_left]
          · exact Nat.le_of_not_lt hleast
          · omega
        · rw [hbytes,hstart,List.cons_append,List.take_append_drop]
    · exact .inr ⟨[p.serialReceiveBuffer.peek 0],bytes,.garbage hstart,hbytes⟩
  next => cases h

/-- Where the loop is stuck behind a first piece, it is stuck behind the next
ones after the pass that takes it. -/
theorem Consumed.stuck {p q : Port} {e rest : List UInt8} (h : Consumed p e q)
    (hcontents : p.serialReceiveBuffer.contents = e ++ rest) {breaks : Nat → List VcAddress}
    (hpiece : Piece e) (hother : ¬(executed e ∧ breaksOwn p.myVc (breaks 0))) :
    Stuck q (fun k => breaks (k + 1)) → Stuck p breaks := by
  have havail := available_of_contents hcontents
  have hleft : q.serialReceiveBuffer.contents = rest := by
    rw [h.serialReceiveBuffer,Ring.contents_skip (by omega),hcontents,List.drop_left]
  rintro ⟨es,behind,hes,hpieces,hsmall,hroom,hkept⟩
  refine ⟨e :: es,behind,?_,List.forall_mem_cons.mpr ⟨hpiece,hpieces⟩,?_,?_,?_⟩
  · rw [hcontents,← hleft,hes,List.flatten_cons,List.append_assoc]
  · rw [h.serialReceiveBuffer,Ring.peek_skip] at hsmall
    rwa [List.flatten_cons,List.length_append,Nat.add_assoc]
  · rw [h.radioTxBuffer,h.myVc] at hroom
    rw [List.map_cons,List.sum_cons]
    omega
  · rintro (_ | k) f hf
    · obtain rfl := Option.some.inj hf
      exact hother
    · rw [← h.myVc]
      exact hkept k f hf

theorem Stuck.ready {p : Port} {breaks : Nat → List VcAddress} (h : Stuck p breaks) :
    p.ready := by
  obtain ⟨es,behind,hes,-,-,hroom,-⟩ := h
  have havail := available_of_contents hes
  rw [List.length_cons] at havail
  exact ⟨by omega,by omega⟩

theorem stuck_goes_on {p : Port} {breaks : Nat → List VcAddress} (h : Stuck p breaks) (n : Nat) :
    ∃ q, beforePass p breaks n = some q := by
  induction n generalizing p breaks with
  | zero => exact ⟨p,rfl⟩
  | succ n ih =>
    have hready := h.ready
    obtain ⟨es,behind,hes,hpieces,hsmall,hroom,hkept⟩ := h
    cases es with
    | nil =>
      have hhead : p.serialReceiveBuffer.peek 0 = startOfVcSerial := by
        have hzero := Ring.getElem?_contents (Nat.pos_of_ne_zero hready.1)
        rw [hes] at hzero
        exact (Option.some.inj hzero).symm
      have hturn : processTurn p (breaks 0) = (p,false) := by
        unfold processTurn
        exact (if_neg (not_not.mpr hhead)).trans (if_pos hsmall)
      have hstays : Stuck p (fun k => breaks (k + 1)) :=
        ⟨[],behind,hes,hpieces,hsmall,hroom,fun k e he => absurd he (by simp)⟩
      unfold beforePass
      rw [loopPass_ready hready hturn]
      exact ih hstays
    | cons e es =>
      obtain ⟨hpiece,hpieces⟩ := List.forall_mem_cons.mp hpieces
      rw [List.flatten_cons,List.append_assoc] at hes
      obtain ⟨q,hpass,-,hconsumed⟩ := loopPass_piece hpiece hes hready.2 (breaks 0)
      obtain ⟨hq,-⟩ := hconsumed (hkept 0 e rfl)
      have havail := available_of_contents hes
      have hnext : Stuck q (fun k => breaks (k + 1)) := by
        refine ⟨es,behind,?_,hpieces,?_,?_,?_⟩
        · rw [hq.serialReceiveBuffer,Ring.contents_skip (by omega),hes,List.drop_left]
        · rwa [hq.serialReceiveBuffer,Ring.peek_skip,← Nat.add_assoc,← List.length_append,
            ← List.flatten_cons]
        · rw [List.map_cons,List.sum_cons] at hroom
          rw [hq.radioTxBuffer,hq.myVc]
          omega
        · intro k f hf
          rw [hq.myVc]
          exact hkept (k + 1) f hf
      unfold beforePass
      rw [hpass]
      exact ih hnext

/-- Where the loop is not stuck a pass that goes on takes a byte at least, and
does not lead where it is. -/
theorem loopPass_consumes {p q : Port} {breaks : Nat → List VcAddress} (h : ¬Stuck p breaks)
    (hpass : loopPass p (breaks 0) = some q) :
    q.serialReceiveBuffer.available < p.serialReceiveBuffer.available ∧
      ¬Stuck q fun k => breaks (k + 1) := by
  obtain ⟨hready,⟨hhead,hsmall,-⟩ | ⟨e,rest,he,hcontents⟩⟩ := loopPass_cases hpass
  · obtain ⟨behind,hbehind⟩ := List.head?_eq_some_iff.mp hhead
    refine absurd ⟨[],behind,hbehind,by simp,hsmall,hready.2,?_⟩ h
    intro k f hf
    simp at hf
  · obtain ⟨r,hr,hown,hother⟩ := loopPass_piece he hcontents hready.2 (breaks 0)
    obtain rfl : r = q := Option.some.inj (hr.symm.trans hpass)
    by_cases hbreaks : executed e ∧ breaksOwn p.myVc (breaks 0)
    · have hnone := hown hbreaks
      exact ⟨by rw [hnone]; exact Nat.pos_of_ne_zero hready.1,fun hstuck => hstuck.ready.1 hnone⟩
    · obtain ⟨hr,-⟩ := hother hbreaks
      have havail := available_of_contents hcontents
      have hpos : 0 < e.length := by cases he <;> simp
      refine ⟨?_,fun hstuck => h (hr.stuck hcontents he hbreaks hstuck)⟩
      rw [hr.serialReceiveBuffer,Ring.available_skip (by omega)]
      omega

theorem not_stuck_terminates {p : Port} {breaks : Nat → List VcAddress}
    (h : ¬Stuck p breaks) : Terminates p breaks := by
  -- by induction on the bytes that wait: every pass takes one of them
  induction hn : p.serialReceiveBuffer.available using Nat.strong_induction_on
    generalizing p breaks with
  | _ n ih =>
    cases hpass : loopPass p (breaks 0) with
    | none =>
      have hleft : ∀ k, beforePass p breaks (k + 1) = none := fun k => by
        unfold beforePass
        rw [hpass]
        rfl
      refine ⟨⟨1,hleft 0⟩,?_⟩
      rintro (_ | k) q r hq hr
      · obtain rfl := Option.some.inj hq
        rw [hpass] at hr
        cases hr
      · rw [hleft k] at hq
        cases hq
    | some q =>
      obtain ⟨hless,hnext⟩ := loopPass_consumes h hpass
      have hgoes : ∀ k, beforePass p breaks (k + 1) =
          beforePass q (fun k => breaks (k + 1)) k := fun k => by
        conv_lhs => unfold beforePass
        rw [hpass]
        rfl
      have hrest : Terminates q fun k => breaks (k + 1) := ih _ (hn ▸ hless) hnext rfl
      obtain ⟨m,hm⟩ := hrest.ends
      refine ⟨⟨m + 1,(hgoes m).trans hm⟩,?_⟩
      rintro (_ | k) r s hr hs
      · obtain rfl := Option.some.inj hr
        obtain rfl := Option.some.inj (hpass.symm.trans hs)
        exact hless
      · exact hrest.consumes k r s ((hgoes k).symm.trans hr) hs

/-- The loop ends, and every pass of it makes progress, exactly if it does not
get to a START_OF_VC_SERIAL with too small a length in the cell behind it. -/
theorem vcProcessSerialInput_terminates_iff (p : Port) (breaks : Nat → List VcAddress) :
    Terminates p breaks ↔ ¬Stuck p breaks := by
  constructor
  · rintro ⟨⟨n,hn⟩,-⟩ hstuck
    obtain ⟨q,hq⟩ := stuck_goes_on hstuck n
    rw [hn] at hq
    cases hq
  · exact not_stuck_terminates

/-- The host has sent the start byte alone so far. -/
theorem start_byte_alone_hangs :
    let p := { poweredOn with
      serialReceiveBuffer := poweredOn.serialReceiveBuffer.push startOfVcSerial }
    ¬Terminates p fun _ => [] := by
  rintro p ⟨⟨n,hn⟩,-⟩
  have hstuck : Stuck p fun _ => [] :=
    ⟨[],[],by decide +kernel,by simp,by decide +kernel,by decide +kernel,by simp⟩
  obtain ⟨q,hq⟩ := stuck_goes_on hstuck n
  rw [hn] at hq
  cases hq

end LoRaSerial.VcSerial
