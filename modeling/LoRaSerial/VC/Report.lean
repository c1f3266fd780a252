import LoRaSerial.Lib.Runs
import LoRaSerial.VC.Keeps

namespace LoRaSerial.VC
open Runs

/-- Where the report of the last started frame stands, when that frame carries
a host data message: its DATA_ACK or the break of its circuit makes the report
due, and nothing may come before the report. -/
inductive Standing where
  | quiet
  | awaiting (v : VcAddress)
  | due (v : VcAddress) (ack : Bool)
  | answered
  deriving DecidableEq, Repr

def Standing.started (f : Frame) : Standing :=
  if f.control.datagramType = .data then .awaiting f.datagram.destVc else .quiet

/-- The next standing; `none` where a message is left unanswered, answered
without cause, wrongly or twice. -/
def Standing.next : Standing → Action → Option Standing
  | .quiet,.started f => some (.started f)
  | .quiet,_ => some .quiet
  | .awaiting v,.acknowledged srcVc => some (if srcVc = v then .due v true else .awaiting v)
  | .awaiting v,.broken w => some (if .ofNumber w = v then .due v false else .awaiting v)
  | .awaiting v,.refused _ => some (.awaiting v)
  | .awaiting _,_ => none
  | .due v ack,.report msgDestVc b => if msgDestVc = v ∧ b = ack then some .answered else none
  | .due _ _,_ => none
  | .answered,.started f => some (.started f)
  | .answered,.report _ _ => none
  | .answered,_ => some .answered

def standing : List Action → Option Standing
  | [] => some .quiet
  | a :: earlier => (standing earlier).bind (·.next a)

/-- A message may wait as long as the ACK timer runs for its destination. -/
def Standing.Accounted (ackTimer : Bool) (rexmtTxDestVc : VcAddress) : Standing → Prop
  | .awaiting v => ackTimer = true ∧ rexmtTxDestVc = v
  | .due _ _ => False
  | .quiet | .answered => True

/-- Every host data message so far is answered once, by the right report and in
time; only the last one may still wait, and then the ACK timer runs for it. -/
structure Radio.Reported (r : Radio) : Prop where
  accounted : ∃ s, standing r.history = some s ∧ s.Accounted r.ackTimer r.rexmtTxDestVc

/-- The frame that awaits or awaited its ACK last is a host data message. -/
def Radio.DataLast (r : Radio) : Prop := r.rexmt.frame.control.datagramType = .data

instance (r : Radio) : Decidable r.DataLast := inferInstanceAs (Decidable (_ = _))

/-- What the history, the timer and the kept frame have to do with each other. -/
inductive Balanced (r : Radio) : Prop
  | quiet (hs : standing r.history = some .quiet) (hdata : ¬ r.DataLast)
  | awaiting (v : Fin maxVc) (hs : standing r.history = some (.awaiting (.ofNumber v)))
      (hdata : r.DataLast) (hon : r.ackTimer = true) (hdest : r.rexmtTxDestVc = .ofNumber v)
      (hup : (r.virtualCircuitList v).vcState ≠ .linkDown)
  | answered (hs : standing r.history = some .answered) (hdata : r.DataLast)
      (hoff : r.ackTimer = false)

theorem Balanced.reported {r : Radio} (h : Balanced r) : r.Reported := by
  constructor
  cases h with
  | quiet hs => exact ⟨_,hs,trivial⟩
  | awaiting v hs _ hon hdest => exact ⟨_,hs,hon,hdest⟩
  | answered hs => exact ⟨_,hs,trivial⟩

theorem Undisturbed.balanced {r r' : Radio} (h : Undisturbed r r') (hb : Balanced r) :
    Balanced r' := by
  have hdata : r'.DataLast ↔ r.DataLast := by rw [Radio.DataLast,h.rexmt,Radio.DataLast]
  cases hb with
  | quiet hs hno => exact .quiet (h.history ▸ hs) (mt hdata.mp hno)
  | awaiting v hs hd hon hdest hup =>
    exact .awaiting v (h.history ▸ hs) (hdata.mpr hd) (h.ackTimer.trans hon)
      (h.rexmtTxDestVc.trans hdest) (h.up v hup)
  | answered hs hd hoff =>
    exact .answered (h.history ▸ hs) (hdata.mpr hd) (h.ackTimer.trans hoff)

/-- Stopping the timer is harmless unless a message is awaited. -/
theorem Balanced.stop {r : Radio} (h : Balanced r) (hw : ¬ (r.ackTimer = true ∧ r.DataLast)) :
    Balanced r.stopAckTimer := by
  cases h with
  | quiet hs hno => exact .quiet hs hno
  | awaiting v _ hd hon => exact absurd ⟨hon,hd⟩ hw
  | answered hs hd => exact .answered hs hd rfl

/-- vcChangeState touches one circuit. -/
theorem vcChangeState_other (r : Radio) (v : Fin maxVc) (state : VcState) {w : Fin maxVc}
    (hw : w ≠ v) :
    (vcChangeState r (.ofNumber v) state).virtualCircuitList w = r.virtualCircuitList w := by
  unfold vcChangeState
  dsimp only
  split
  · simp [Radio.setVcConnecting,Radio.setCircuit,Radio.touch,Function.update_of_ne hw]
  · rfl

/-- The fields that no change of a circuit touches. -/
structure SameDuty (r r' : Radio) : Prop where
  ackTimer : r'.ackTimer = r.ackTimer
  rexmt : r'.rexmt = r.rexmt
  rexmtTxDestVc : r'.rexmtTxDestVc = r.rexmtTxDestVc
  txDestVc : r'.txDestVc = r.txDestVc
  myVc : r'.myVc = r.myVc
  printToRf : r'.printToRf = r.printToRf
  history : r'.history = r.history

theorem vcChangeState_sameDuty (r : Radio) (a : VcAddress) (state : VcState) :
    SameDuty r (vcChangeState r a state) := by
  unfold vcChangeState Radio.setCircuit
  dsimp only
  split
  · split <;> exact ⟨rfl,rfl,rfl,rfl,rfl,rfl,rfl⟩
  · exact ⟨rfl,rfl,rfl,rfl,rfl,rfl,rfl⟩

/-- With nothing awaited no circuit matters. -/
theorem SameDuty.balanced {r r' : Radio} (h : SameDuty r r') (hb : Balanced r)
    (hw : ¬ (r.ackTimer = true ∧ r.DataLast)) : Balanced r' := by
  have hdata : r'.DataLast ↔ r.DataLast := by rw [Radio.DataLast,h.rexmt,Radio.DataLast]
  cases hb with
  | quiet hs hno => exact .quiet (h.history ▸ hs) (mt hdata.mp hno)
  | awaiting v _ hd hon => exact absurd ⟨hon,hd⟩ hw
  | answered hs hd hoff =>
    exact .answered (h.history ▸ hs) (hdata.mpr hd) (h.ackTimer.trans hoff)

/-- The part of vcBreakLink that answers the host. -/
def answerBreak (r : Radio) (v : Fin maxVc) : Radio :=
  let r := r.log (.broken v)
  if r.ackTimer ∧ r.txDestVc = .ofNumber v then
    vcSendPcAckNack r.stopAckTimer (.ofNumber v) false
  else r

theorem vcBreakLink_eq (r : Radio) (a : VcAddress) :
    vcBreakLink r a =
      if minRxNotAllowed.toNat ≤ a.toNat then r
      else if VcAddress.ofNumber a.number = (answerBreak r a.number).myVc then
        ((answerBreak r a.number).setRadioTxBuffer []).setUnsent none
      else vcChangeState (answerBreak r a.number) (.ofNumber a.number) .linkDown := rfl

/-- The break of circuit `v` is reported to the right address: the ACK timer
does not run for a data message, or txDestVc and rexmtTxDestVc name `v` alike. -/
def Radio.BreaksRightly (r : Radio) (v : Fin maxVc) : Prop :=
  r.ackTimer = true → r.DataLast → r.printToRf = false ∧
    (r.txDestVc = .ofNumber v ↔ r.rexmtTxDestVc = .ofNumber v)

instance (r : Radio) (v : Fin maxVc) : Decidable (r.BreaksRightly v) :=
  inferInstanceAs (Decidable (_ → _ → _ ∧ (_ ↔ _)))

/-- The break of the awaited circuit answers the message, any other break does
not touch it. -/
theorem answerBreak_balanced {r : Radio} {v : Fin maxVc} (h : Balanced r)
    (hr : r.BreaksRightly v) : Balanced (answerBreak r v) ∧
      ¬ ((answerBreak r v).ackTimer = true ∧ (answerBreak r v).DataLast ∧
        (answerBreak r v).rexmtTxDestVc = .ofNumber v) := by
  unfold answerBreak vcSendPcAckNack
  dsimp only
  cases h with
  | quiet hs hdata =>
    have hquiet : ∀ a : Action, (∀ f, a ≠ .started f) → Standing.next .quiet a = some .quiet := by
      intro a ha
      cases a <;> simp_all [Standing.next]
    refine ⟨.quiet ?_ ?_,fun hw => hdata ?_⟩
    · split
      · split <;> simp [Radio.log,Radio.stopAckTimer,standing,hs,hquiet]
      · simp [Radio.log,standing,hs,hquiet]
    · split
      · split <;> exact hdata
      · exact hdata
    · have hd := hw.2.1
      split at hd
      · split at hd <;> exact hd
      · exact hd
  | awaiting w hs hdata hon hdest hup =>
    obtain ⟨hp,hiff⟩ := hr hon hdata
    by_cases hv : w = v
    · subst hv
      have hcond : (r.log (.broken w)).ackTimer = true ∧
          (r.log (.broken w)).txDestVc = .ofNumber w := ⟨hon,hiff.mpr hdest⟩
      have hprint : ((r.log (.broken w)).stopAckTimer).printToRf = false := hp
      rw [if_pos hcond,if_neg (by simp [hprint])]
      refine ⟨.answered ?_ hdata rfl,fun hw => ?_⟩
      · simp [Radio.log,Radio.stopAckTimer,standing,hs,Standing.next]
      · simp [Radio.log,Radio.stopAckTimer] at hw
    · have hne : VcAddress.ofNumber w ≠ .ofNumber v := fun he => hv (VcAddress.ofNumber_inj he)
      have hcond : ¬ ((r.log (.broken v)).ackTimer = true ∧
          (r.log (.broken v)).txDestVc = .ofNumber v) :=
        fun hc => hne (hdest ▸ hiff.mp hc.2)
      rw [if_neg hcond]
      refine ⟨.awaiting w ?_ hdata hon hdest hup,fun hw => hne (hdest ▸ hw.2.2)⟩
      simp [Radio.log,standing,hs,Standing.next,hne.symm]
  | answered hs hdata hoff =>
    have hcond : ¬ ((r.log (.broken v)).ackTimer = true ∧
        (r.log (.broken v)).txDestVc = .ofNumber v) := by
      simp [Radio.log,hoff]
    rw [if_neg hcond]
    refine ⟨.answered ?_ hdata hoff,fun hw => ?_⟩
    · simp [Radio.log,standing,hs,Standing.next]
    · simp [Radio.log,hoff] at hw

/-- What vcBreakLink leaves alone whatever it breaks. -/
structure BreakFrame (r r' : Radio) (v : Fin maxVc) : Prop where
  other : ∀ w, w ≠ v → r'.virtualCircuitList w = r.virtualCircuitList w
  txDestVc : r'.txDestVc = r.txDestVc
  rexmtTxDestVc : r'.rexmtTxDestVc = r.rexmtTxDestVc
  myVc : r'.myVc = r.myVc
  printToRf : r'.printToRf = r.printToRf
  dataLast : r'.DataLast ↔ r.DataLast
  ackTimer : r'.ackTimer = true → r.ackTimer = true

theorem BreakFrame.trans {r s t : Radio} {v : Fin maxVc} (h : BreakFrame r s v)
    (k : BreakFrame s t v) : BreakFrame r t v where
  other w hw := (k.other w hw).trans (h.other w hw)
  txDestVc := k.txDestVc.trans h.txDestVc
  rexmtTxDestVc := k.rexmtTxDestVc.trans h.rexmtTxDestVc
  myVc := k.myVc.trans h.myVc
  printToRf := k.printToRf.trans h.printToRf
  dataLast := k.dataLast.trans h.dataLast
  ackTimer ha := h.ackTimer (k.ackTimer ha)

theorem answerBreak_breakFrame (r : Radio) (v : Fin maxVc) : BreakFrame r (answerBreak r v) v := by
  unfold answerBreak vcSendPcAckNack
  dsimp only
  split
  · have hstop : ∀ r' : Radio, r'.ackTimer = false → r'.ackTimer = true → r.ackTimer = true := by
      intro r' hoff hon
      simp [hoff] at hon
    split <;> exact ⟨fun _ _ => rfl,rfl,rfl,rfl,rfl,Iff.rfl,hstop _ rfl⟩
  · exact ⟨fun _ _ => rfl,rfl,rfl,rfl,rfl,Iff.rfl,id⟩

theorem vcBreakLink_breakFrame (r : Radio) (v : Fin maxVc) :
    BreakFrame r (vcBreakLink r (.ofNumber v)) v := by
  have h := answerBreak_breakFrame r v
  rw [vcBreakLink_eq,if_neg (VcAddress.ofNumber_not_special v),VcAddress.number_ofNumber]
  split
  · exact ⟨h.other,h.txDestVc,h.rexmtTxDestVc,h.myVc,h.printToRf,h.dataLast,h.ackTimer⟩
  · have hs := vcChangeState_sameDuty (answerBreak r v) (.ofNumber v) .linkDown
    refine ⟨fun w hw => ?_,hs.txDestVc.trans h.txDestVc,hs.rexmtTxDestVc.trans h.rexmtTxDestVc,
      hs.myVc.trans h.myVc,hs.printToRf.trans h.printToRf,?_,
      fun ha => h.ackTimer (hs.ackTimer ▸ ha)⟩
    · rw [vcChangeState_other _ v _ hw,h.other w hw]
    · rw [Radio.DataLast,hs.rexmt]
      exact h.dataLast

theorem vcBreakLink_printToRf (r : Radio) (a : VcAddress) :
    (vcBreakLink r a).printToRf = r.printToRf := by
  have h := answerBreak_breakFrame r a.number
  rw [vcBreakLink_eq]
  split
  · rfl
  split
  · exact h.printToRf
  · exact (vcChangeState_sameDuty _ _ _).printToRf.trans h.printToRf

theorem vcBreakLink_balanced {r : Radio} {a : VcAddress} (h : Balanced r)
    (hr : r.BreaksRightly a.number) : Balanced (vcBreakLink r a) := by
  obtain ⟨hb,hother⟩ := answerBreak_balanced h hr
  rw [vcBreakLink_eq]
  split
  · exact h
  split
  · exact (setUnsent_undisturbed ((answerBreak r a.number).setRadioTxBuffer []) none).balanced
      ((setRadioTxBuffer_undisturbed _ []).balanced hb)
  · generalize answerBreak r a.number = s at hb hother
    have hs := vcChangeState_sameDuty s (.ofNumber a.number) .linkDown
    by_cases hw : s.ackTimer = true ∧ s.DataLast
    · cases hb with
      | quiet _ hno => exact absurd hw.2 hno
      | answered _ _ hoff => simp [hoff] at hw
      | awaiting v hst hdata hon hdest hup =>
        have hv : v ≠ a.number := fun he => hother ⟨hon,hdata,he ▸ hdest⟩
        refine .awaiting v (hs.history ▸ hst) ?_ (hs.ackTimer.trans hon)
          (hs.rexmtTxDestVc.trans hdest) ?_
        · rw [Radio.DataLast,hs.rexmt]
          exact hdata
        · rwa [vcChangeState_other _ _ _ hv]
    · exact hs.balanced hb hw

/-- A loop over distinct circuits, each of which it breaks or leaves alone. -/
theorem foldl_balanced {σ : Type} (radio : σ → Radio) (f : σ → Fin maxVc → σ)
    (due : σ → Fin maxVc → Prop)
    (hf : ∀ q v, Undisturbed (radio q) (radio (f q v)) ∧ BreakFrame (radio q) (radio (f q v)) v ∨
      due q v ∧ ∃ r, Undisturbed (radio q) r ∧ BreakFrame (radio q) r v ∧
        radio (f q v) = vcBreakLink r (.ofNumber v))
    (hdue : ∀ q v w, w ≠ v → due (f q v) w → due q w)
    (l : List (Fin maxVc)) (hl : l.Nodup) (q : σ) (hb : Balanced (radio q))
    (hr : ∀ v ∈ l, due q v → (radio q).BreaksRightly v) :
    Balanced (radio (l.foldl f q)) ∧ (radio (l.foldl f q)).printToRf = (radio q).printToRf := by
  induction l generalizing q with
  | nil => exact ⟨hb,rfl⟩
  | cons v l ih =>
    obtain ⟨hv,hl⟩ := List.nodup_cons.mp hl
    have hstep : Balanced (radio (f q v)) ∧ BreakFrame (radio q) (radio (f q v)) v := by
      rcases hf q v with ⟨hu,hframe⟩ | ⟨hd,r,hu,hframe,he⟩
      · exact ⟨hu.balanced hb,hframe⟩
      · have hright : r.BreaksRightly v := by
          intro ha hdata
          obtain ⟨hp,hiff⟩ := hr v (by simp) hd (hframe.ackTimer ha) (hframe.dataLast.mp hdata)
          exact ⟨hframe.printToRf.trans hp,by rw [hframe.txDestVc,hframe.rexmtTxDestVc,hiff]⟩
        have hbreak := vcBreakLink_breakFrame r v
        rw [he]
        refine ⟨vcBreakLink_balanced (hu.balanced hb) (by rwa [VcAddress.number_ofNumber]),?_⟩
        exact hframe.trans hbreak
    suffices hrest : ∀ w ∈ l, due (f q v) w → (radio (f q v)).BreaksRightly w by
      obtain ⟨hbal,hprint⟩ := ih hl (f q v) hstep.1 hrest
      exact ⟨hbal,hprint.trans hstep.2.printToRf⟩
    intro w hw hd
    have hne : w ≠ v := fun he => hv (he ▸ hw)
    intro ha hdata
    obtain ⟨hp,hiff⟩ := hr w (by simp [hw]) (hdue q v w hne hd) (hstep.2.ackTimer ha)
      (hstep.2.dataLast.mp hdata)
    exact ⟨hstep.2.printToRf.trans hp,by rw [hstep.2.txDestVc,hstep.2.rexmtTxDestVc,hiff]⟩

/-- Circuit `v` has been silent for too long. -/
def Radio.Overdue (r : Radio) (currentMillis linkBreakMillis : BitVec 32) (v : Fin maxVc) :
    Prop :=
  VcAddress.ofNumber v ≠ r.myVc ∧ (r.virtualCircuitList v).vcState ≠ .linkDown ∧
    linkBreakMillis < currentMillis - (r.virtualCircuitList v).lastTrafficMillis

/-- The link check breaks circuit `v`, for its own silence or the server's. -/
def Radio.TimesOut (r : Radio) (currentMillis linkBreakMillis : BitVec 32) (v : Fin maxVc) :
    Prop :=
  VcAddress.ofNumber v ≠ r.myVc ∧ (r.virtualCircuitList v).vcState ≠ .linkDown ∧
    (r.Overdue currentMillis linkBreakMillis v ∨ r.Overdue currentMillis linkBreakMillis 0)

instance (r : Radio) (now limit : BitVec 32) (v : Fin maxVc) : Decidable (r.Overdue now limit v) :=
  inferInstanceAs (Decidable (_ ∧ _ ∧ _))

instance (r : Radio) (now limit : BitVec 32) (v : Fin maxVc) : Decidable (r.TimesOut now limit v) :=
  inferInstanceAs (Decidable (_ ∧ _ ∧ (_ ∨ _)))

theorem BreakFrame.refl (r : Radio) (v : Fin maxVc) : BreakFrame r r v :=
  ⟨fun _ _ => rfl,rfl,rfl,rfl,rfl,Iff.rfl,id⟩

theorem touch_breakFrame (r : Radio) (a : Access) (v : Fin maxVc) : BreakFrame r (r.touch a) v :=
  ⟨fun _ _ => rfl,rfl,rfl,rfl,rfl,Iff.rfl,id⟩

theorem changeState_breakFrame (r : Radio) (s : RadioState) (v : Fin maxVc) :
    BreakFrame r (r.changeState s) v :=
  ⟨fun _ _ => rfl,rfl,rfl,rfl,rfl,Iff.rfl,id⟩

/-- What the loop of the link check may still break. -/
def CheckDue (now limit : BitVec 32) (q : Radio × Bool) (v : Fin maxVc) : Prop :=
  VcAddress.ofNumber v ≠ q.1.myVc ∧ (q.1.virtualCircuitList v).vcState ≠ .linkDown ∧
    (q.2 = true ∨ q.1.Overdue now limit v ∨ q.1.Overdue now limit 0)

theorem linkCheckIndex_breaks (now limit : BitVec 32) (q : Radio × Bool) (v : Fin maxVc) :
    Undisturbed q.1 (linkCheckIndex now limit q v).1 ∧
        BreakFrame q.1 (linkCheckIndex now limit q v).1 v ∧
        (linkCheckIndex now limit q v).1.virtualCircuitList = q.1.virtualCircuitList ∧
        (linkCheckIndex now limit q v).2 = q.2 ∨
      CheckDue now limit q v ∧
        (v ≠ 0 ∧ (linkCheckIndex now limit q v).2 = q.2 ∨
          q.2 = true ∨ q.1.Overdue now limit 0) ∧
        ∃ r, Undisturbed q.1 r ∧ BreakFrame q.1 r v ∧
          (linkCheckIndex now limit q v).1 = vcBreakLink r (.ofNumber v) := by
  unfold linkCheckIndex
  split
  · exact .inl ⟨.refl _,.refl _ v,rfl,rfl⟩
  next hmy =>
  have htouch := touch_breakFrame q.1 (.entry v) v
  have hquiet := (touch_keeps q.1 (.entry v)).1.1
  dsimp only
  split
  next hcond =>
    obtain ⟨hup,hsilent⟩ := hcond
    have hover : q.2 = true ∨ q.1.Overdue now limit v := hsilent.imp id fun hs => ⟨hmy,hup,hs⟩
    have hdue : CheckDue now limit q v := ⟨hmy,hup,hover.imp id .inl⟩
    refine .inr ⟨hdue,?_⟩
    split
    next hzero =>
      have hv : v = 0 := Fin.ext hzero
      refine ⟨.inr ?_,_,?_,?_,rfl⟩
      · exact hover.imp id fun ho => hv ▸ ho
      · exact hquiet.trans (changeState_keeps _ _).1.1
      · exact htouch.trans (changeState_breakFrame _ _ v)
    next hzero =>
      exact ⟨.inl ⟨fun hv => hzero (congrArg Fin.val hv),rfl⟩,_,hquiet,htouch,rfl⟩
  · exact .inl ⟨hquiet,htouch,rfl,rfl⟩

/-- The condition on the link check is about the state before it. -/
theorem linkCheck_balanced {r : Radio} {now limit : BitVec 32} (h : Balanced r)
    (hr : ∀ v, r.TimesOut now limit v → r.BreaksRightly v) :
    Balanced (linkCheck r now limit) ∧ (linkCheck r now limit).printToRf = r.printToRf := by
  unfold linkCheck
  refine foldl_balanced Prod.fst (linkCheckIndex now limit) (CheckDue now limit) ?_ ?_
    (List.finRange maxVc) (List.nodup_finRange maxVc) (r,false) h ?_
  · intro q v
    rcases linkCheckIndex_breaks now limit q v with ⟨hu,hf,_⟩ | ⟨hd,_,hbreak⟩
    · exact .inl ⟨hu,hf⟩
    · exact .inr ⟨hd,hbreak⟩
  · intro q v w hw hd
    have hframe : BreakFrame q.1 (linkCheckIndex now limit q v).1 v := by
      rcases linkCheckIndex_breaks now limit q v with ⟨_,hf,_⟩ | ⟨_,_,s,_,hf,he⟩
      · exact hf
      · rw [he]
        exact hf.trans (vcBreakLink_breakFrame s v)
    have hsame := hframe.other w hw
    obtain ⟨hmy,hup,hflag⟩ := hd
    rw [hframe.myVc] at hmy
    rw [hsame] at hup
    refine ⟨hmy,hup,?_⟩
    have hover : ∀ u, (linkCheckIndex now limit q v).1.virtualCircuitList u =
        q.1.virtualCircuitList u → (linkCheckIndex now limit q v).1.Overdue now limit u →
        q.1.Overdue now limit u := by
      intro u hu ho
      unfold Radio.Overdue at ho ⊢
      rwa [hframe.myVc,hu] at ho
    rcases linkCheckIndex_breaks now limit q v with ⟨_,_,hl,h2⟩ | ⟨_,h2,_⟩
    · refine hflag.imp (fun hf => h2 ▸ hf) (Or.imp (hover w hsame) (hover 0 ?_))
      rw [hl]
    · rcases h2 with ⟨hv,h2⟩ | hserver
      · exact hflag.imp (fun hf => h2 ▸ hf) (Or.imp (hover w hsame)
          (hover 0 (hframe.other 0 hv.symm)))
      · exact hserver.imp id .inr
  · rintro v - ⟨hmy,hup,hflag⟩
    exact hr v ⟨hmy,hup,by simpa using hflag⟩

/-- ATB breaks every circuit that is up, save the radio's own. -/
theorem breakLinks_balanced {r : Radio} (h : Balanced r)
    (hr : ∀ v, (r.virtualCircuitList v).vcState ≠ .linkDown → VcAddress.ofNumber v ≠ r.myVc →
      r.BreaksRightly v) :
    Balanced (breakLinks r) ∧ (breakLinks r).printToRf = r.printToRf := by
  have hloop := foldl_balanced id
    (fun r v => if (r.virtualCircuitList v).vcState ≠ .linkDown ∧ VcAddress.ofNumber v ≠ r.myVc
      then vcBreakLink r (.ofNumber v) else r)
    (fun r v => (r.virtualCircuitList v).vcState ≠ .linkDown ∧ VcAddress.ofNumber v ≠ r.myVc)
    ?_ ?_ (List.finRange maxVc) (List.nodup_finRange maxVc) r h fun v _ hd => hr v hd.1 hd.2
  · unfold breakLinks
    revert hloop
    generalize List.foldl _ r (List.finRange maxVc) = q
    intro hloop
    exact ⟨(changeState_keeps q .reset).1.1.balanced hloop.1,hloop.2⟩
  · intro q v
    dsimp only [id]
    split
    next hd => exact .inr ⟨hd,q,.refl q,.refl q v,rfl⟩
    · exact .inl ⟨.refl q,.refl q v⟩
  · intro q v w hw hd
    have hframe : BreakFrame q (if (q.virtualCircuitList v).vcState ≠ .linkDown ∧
        VcAddress.ofNumber v ≠ q.myVc then vcBreakLink q (.ofNumber v) else q) v := by
      split
      · exact vcBreakLink_breakFrame q v
      · exact .refl q v
    rwa [hframe.other w hw,hframe.myVc] at hd

@[simp] theorem retransmitDatagram_txDestVc (r : Radio) (i : Inputs) :
    (retransmitDatagram r i).1.txDestVc = r.txDestVc := by
  unfold retransmitDatagram
  dsimp only
  split <;> rfl

@[simp] theorem retransmitDatagram_frame (r : Radio) (i : Inputs) :
    (retransmitDatagram r i).1.tx.frame = r.tx.frame := by
  unfold retransmitDatagram Radio.startTransmit
  dsimp only
  split
  · rfl
  · dsimp only
    split <;> rfl

@[simp] theorem enter_txDestVc (x : Radio × Bool) (s : RadioState) :
    (enter x s).txDestVc = x.1.txDestVc := by
  unfold enter
  split <;> rfl

@[simp] theorem enter_tx (x : Radio × Bool) (s : RadioState) : (enter x s).tx = x.1.tx := by
  unfold enter
  split <;> rfl

theorem transmitDatagram_txDestVc (r : Radio) (t : DatagramType) (d : Datagram) (i : Inputs) :
    (transmitDatagram r t d i).1.txDestVc = d.destVc := by
  unfold transmitDatagram
  rw [retransmitDatagram_txDestVc]
  rfl

theorem transmitDatagram_frame (r : Radio) (t : DatagramType) (d : Datagram) (i : Inputs) :
    (transmitDatagram r t d i).1.tx.frame = r.builtFrame t d := by
  unfold transmitDatagram
  rw [retransmitDatagram_frame]
  rfl

/-- A new numbered frame leaves while the timer is off; user data leaves on a
circuit that is up. -/
theorem started_balanced {r : Radio} (h : Balanced r) (hoff : r.ackTimer = false)
    (t : DatagramType) (d : Datagram) (i : Inputs) (s : RadioState)
    (hd : t = .data → ∃ v, d.destVc = .ofNumber v ∧
      (r.virtualCircuitList v).vcState ≠ .linkDown) :
    Balanced (enter (transmitDatagram r t d i) s).awaitAck := by
  have hkeeps := xmit_retains r t d i s
  have hframe : (enter (transmitDatagram r t d i) s).tx.frame = r.builtFrame t d := by
    rw [enter_tx,transmitDatagram_frame]
  have hdest : (enter (transmitDatagram r t d i) s).txDestVc = d.destVc := by
    rw [enter_txDestVc,transmitDatagram_txDestVc]
  generalize enter (transmitDatagram r t d i) s = q at hkeeps hframe hdest
  have hnext : standing q.awaitAck.history = some (.started (r.builtFrame t d)) := by
    have hfree : standing r.history = some .quiet ∨ standing r.history = some .answered := by
      cases h with
      | quiet hs => exact .inl hs
      | awaiting v _ _ hon => simp [hoff] at hon
      | answered hs => exact .inr hs
    simp only [Radio.awaitAck,Radio.log,standing,hframe,hkeeps.history]
    rcases hfree with hs | hs <;> simp [hs,Standing.next]
  by_cases ht : t = .data
  · obtain ⟨v,hv,hup⟩ := hd ht
    refine .awaiting v ?_ ?_ rfl (hdest.trans hv) (hkeeps.up v hup)
    · rw [hnext]
      simp [Standing.started,Radio.builtFrame,ht,hv]
    · change q.tx.frame.control.datagramType = .data
      rw [hframe]
      exact ht
  · refine .quiet ?_ ?_
    · rw [hnext]
      simp [Standing.started,Radio.builtFrame,ht]
    · change q.tx.frame.control.datagramType ≠ .data
      rw [hframe]
      exact ht

/-- The DATA_ACK that rcvDatagram accepts, if any, answers the outstanding
message in RADIO_VC_WAIT_RECEIVE and is not lost in RADIO_VC_WAIT_SERVER. -/
def Radio.AcksRightly (r : Radio) (p : Reception) (i : Inputs) : Prop :=
  (rcvDatagram r p i).2 = .datagram .dataAck →
    match r.radioState with
    | .waitReceive => r.ackTimer = true ∧ (rcvDatagram r p i).1.rxSrcVc = r.rexmtTxDestVc
    | .waitServer => r.myVc ≠ vcServer → r.ackTimer = true →
      (rcvDatagram r p i).1.rxSrcVc ≠ r.rexmtTxDestVc
    | _ => True

/-- No remote ATB arrives while a data message awaits its ACK. -/
def Radio.CommandsRightly (r : Radio) (p : Reception) (i : Inputs) : Prop :=
  r.radioState = .waitReceive → (rcvDatagram r p i).2 = .datagram .remoteCommand →
    i.command = .breakLinks → r.ackTimer = false

instance (r : Radio) (p : Reception) (i : Inputs) : Decidable (r.AcksRightly p i) := by
  unfold Radio.AcksRightly
  split <;> infer_instance

instance (r : Radio) (p : Reception) (i : Inputs) : Decidable (r.CommandsRightly p i) :=
  inferInstanceAs (Decidable (_ → _ → _ → _))

/-- Between two steps prints go to the serial port. -/
structure Sound (r : Radio) : Prop where
  balanced : Balanced r
  printToRf : r.printToRf = false

theorem Undisturbed.sound {r r' : Radio} (h : Undisturbed r r') (hr : Sound r) : Sound r' :=
  ⟨h.balanced hr.balanced,h.printToRf.trans hr.printToRf⟩

theorem Keeps.sound {r r' : Radio} (h : Keeps r r') (hr : Sound r) : Sound r' :=
  h.1.1.sound hr

/-- A branch that ends in the ACK of what was received. -/
theorem ack_sound {r : Radio} (h : Sound r) (a : VcAddress) (i : Inputs) (s : RadioState) :
    Sound (enter (xmitVcAckFrame r a i) s) :=
  (xmit_retains r .dataAck _ i s).1.sound h

theorem checkRemoteCommand_sound {r : Radio} (h : Sound r) (c : Command)
    (hc : c = .breakLinks → r.ackTimer = true → ¬ r.DataLast) :
    Sound (checkRemoteCommand r c) := by
  refine ⟨?_,rfl⟩
  have hprint : ∀ (s : Radio) (b : Bool), Balanced s → Balanced (s.setPrintToRf b) := by
    intro s b hs
    cases hs with
    | quiet hq hn => exact .quiet hq hn
    | awaiting v hq hd hon hdest hup => exact .awaiting v hq hd hon hdest hup
    | answered hq hd hoff => exact .answered hq hd hoff
  refine hprint _ false ?_
  by_cases hb : c = .breakLinks
  · subst hb
    refine (breakLinks_balanced (hprint r true h.balanced) ?_).1
    intro v _ _ hon hd
    exact absurd hd (hc rfl hon)
  · exact (checkCommand_keeps _ hb).1.1.balanced (hprint r true h.balanced)

/-- The DATA_ACK of the outstanding message is the report's cause. -/
theorem acknowledged_sound {r s : Radio} (h : Sound r) (hs : Undisturbed r s) (i : Inputs)
    (hright : r.DataLast → r.ackTimer = true ∧ s.rxSrcVc = r.rexmtTxDestVc) :
    Sound (vcSendPcAckNack ((s.log (.acknowledged s.rxSrcVc)).hear i)
      ((s.log (.acknowledged s.rxSrcVc)).hear i).rexmtTxDestVc true).stopAckTimer := by
  have hhear := (hear_keeps (s.log (.acknowledged s.rxSrcVc)) i).1.1
  generalize (s.log (.acknowledged s.rxSrcVc)).hear i = t at hhear
  have hprint : t.printToRf = false := (hhear.printToRf.trans hs.printToRf).trans h.printToRf
  have hdest : t.rexmtTxDestVc = r.rexmtTxDestVc := hhear.rexmtTxDestVc.trans hs.rexmtTxDestVc
  have hlast : t.rexmt.frame = r.rexmt.frame := hhear.rexmt.trans hs.rexmt
  have hhist : t.history = .acknowledged s.rxSrcVc :: r.history :=
    hhear.history.trans (congrArg _ hs.history)
  unfold vcSendPcAckNack
  rw [if_neg (by simp [hprint])]
  refine ⟨?_,hprint⟩
  have hreport : ((t.log (.report t.rexmtTxDestVc true)).stopAckTimer).history =
      .report r.rexmtTxDestVc true :: .acknowledged s.rxSrcVc :: r.history := by
    change _ :: t.history = _
    rw [hdest,hhist]
  have hkept : ((t.log (.report t.rexmtTxDestVc true)).stopAckTimer).DataLast ↔ r.DataLast := by
    change t.rexmt.frame.control.datagramType = _ ↔ _
    rw [hlast,Radio.DataLast]
  cases h.balanced with
  | quiet hq hno =>
    refine .quiet ?_ (mt hkept.mp hno)
    rw [hreport]
    simp [standing,hq,Standing.next]
  | awaiting v hq hd hon hv =>
    have hsrc : s.rxSrcVc = .ofNumber v := (hright hd).2.trans hv
    refine .answered ?_ (hkept.mpr hd) rfl
    rw [hreport,hsrc,hv]
    simp [standing,hq,Standing.next]
  | answered _ hd hoff => simp [hoff] at hright; exact absurd hd hright

/-- RADIO_VC_WAIT_RECEIVE, a received datagram. -/
theorem waitReceiveFrame_sound {r : Radio} (h : Sound r) (hstate : r.radioState = .waitReceive)
    (p : Reception) (i : Inputs)
    (hright : r.DataLast → r.AcksRightly p i ∧ r.CommandsRightly p i) :
    Sound (waitReceiveFrame r p i) := by
  unfold waitReceiveFrame
  dsimp only
  rcases rcvDatagram_undisturbed r p i with ⟨hu,hp⟩ | ⟨s,hs,hr,hp⟩
  · have hcmd : r.DataLast → (rcvDatagram r p i).2 = .datagram .remoteCommand →
        i.command = .breakLinks → r.ackTimer = false :=
      fun hd => (hright hd).2 hstate
    revert hu hp hcmd
    generalize rcvDatagram r p i = q
    intro hu hp hcmd
    have hall := hu.trans (hear_keeps q.1 i).1.1
    have hsound := hall.sound h
    generalize q.1.hear i = t at hall hsound
    obtain ⟨_,packetType⟩ := q
    have hdeliver : Sound (t.deliver p) := (deliver_undisturbed t p).sound hsound
    cases packetType with
    | datagram d =>
      cases d
      case dataAck => exact absurd rfl hp
      case vcHeartbeat => exact (vcReceiveHeartbeat_keeps t p.data i).sound hsound
      case data => exact ack_sound hdeliver _ i _
      case datagram => exact hdeliver
      case vcUnknownAcks =>
        have hsent : Sound (enter (xmitVcSyncAcks t t.rxSrcVc i) .waitTxDone) :=
          (xmit_keeps t .vcSyncAcks _ i .waitTxDone).sound hsound
        exact (touch_keeps _ _).sound ((vcChangeState_keeps _ _ (by decide)).sound hsent)
      case vcSyncAcks =>
        have hsent : Sound (xmitVcZeroAcks t t.rxSrcVc i).1 :=
          (transmitDatagram_keeps t .vcZeroAcks _ i).sound hsound
        dsimp only
        split
        · have hdone := (changeState_keeps _ .waitTxDone).sound hsent
          have hzero := (vcZeroAcks_undisturbed _ t.rxSrcVc).sound hdone
          exact (vcChangeState_keeps _ _ (by decide)).sound hzero
        · exact hsent
      case vcZeroAcks =>
        have hzero := (vcZeroAcks_undisturbed t t.rxSrcVc).sound hsound
        exact (vcChangeState_keeps _ _ (by decide)).sound hzero
      case remoteCommand =>
        have hset : Sound (t.setRmtCmdVc t.rxSrcVc) := (setRmtCmdVc_keeps t _).sound hsound
        have hsent := xmit_retains (t.setRmtCmdVc t.rxSrcVc) .dataAck
          ((t.setRmtCmdVc t.rxSrcVc).atEnd (.build t.rxSrcVc t.myVc [])) i .waitTxDone
        refine checkRemoteCommand_sound (ack_sound hset _ i _) i.command ?_
        intro hb hon hd
        have hlast : r.DataLast := by
          unfold Radio.DataLast at hd ⊢
          rwa [← hall.rexmt,← show (t.setRmtCmdVc t.rxSrcVc).rexmt = t.rexmt from rfl,
            ← hsent.rexmt]
        have hoff := hcmd hlast rfl hb
        rw [← hall.ackTimer] at hoff
        exact absurd (hsent.ackTimer.symm.trans hon) (by simp [Radio.setRmtCmdVc,hoff])
      case remoteCommandResponse => exact ack_sound hsound _ i _
      all_goals exact hsound
    | duplicate => exact ack_sound hsound _ i _
    | bad | crcError | netIdMismatch | notMine => exact hsound
  · rw [hr,hp]
    refine acknowledged_sound h hs i fun hd => ?_
    have hack := (hright hd).1 hp
    rw [hstate,hr] at hack
    exact hack

/-- Priority 2. The circuit of an awaited message is up, so only its break ends
the retransmissions. -/
theorem waitReceiveRetransmit_sound {r : Radio} (h : Sound r) (hon : r.ackTimer = true)
    (i : Inputs) : Sound (waitReceiveRetransmit r i) := by
  unfold waitReceiveRetransmit
  dsimp only
  have hkeeps := (setTxDestVc_keeps r r.rexmtTxDestVc).trans
    (touch_keeps _ (.entry r.rexmtTxDestVc.number))
  have hdest : ((r.setTxDestVc r.rexmtTxDestVc).touch (.entry r.rexmtTxDestVc.number)).txDestVc =
      r.rexmtTxDestVc := rfl
  generalize (r.setTxDestVc r.rexmtTxDestVc).touch (.entry r.rexmtTxDestVc.number) = s
    at hkeeps hdest
  have hs := hkeeps.sound h
  have hson : s.ackTimer = true := hkeeps.ackTimer.trans hon
  have hsame : s.txDestVc = s.rexmtTxDestVc := hdest.trans hkeeps.rexmtTxDestVc.symm
  split
  next hdown =>
    refine ⟨hs.balanced.stop fun hw => ?_,hs.printToRf⟩
    cases hs.balanced with
    | quiet _ hno => exact hno hw.2
    | answered _ _ hoff => simp [hoff] at hson
    | awaiting v _ _ _ hv hup =>
      rw [hsame,hv,VcAddress.number_ofNumber] at hdown
      exact hup hdown.2
  split
  · split
    · have hpointer := touchIf_keeps s (s.txDestVc.toNat ≤ maxVc) (.entry s.txDestVc.toInt)
      generalize (if s.txDestVc.toNat ≤ maxVc then
          s.touch (.entry s.txDestVc.toInt) else s) = t at hpointer
      have hrestore : Keeps t t.restoreTxBuffer := .of_eq rfl
      have hsent := (hrestore.1.trans (retransmitDatagram_retains _ i)).trans
        (enter_keeps (retransmitDatagram t.restoreTxBuffer i) .waitTxDone).1
      have hall := hpointer.1.trans hsent
      generalize enter (retransmitDatagram t.restoreTxBuffer i) .waitTxDone = u at hall
      have hstart : Undisturbed u u.startAckTimer :=
        ⟨fun _ => id,(hall.ackTimer.trans hson).symm,rfl,rfl,rfl,rfl⟩
      exact hstart.sound (hall.1.sound hs)
    · have htouch := (touch_keeps s .uninitialised).sound hs
      refine ⟨vcBreakLink_balanced htouch.balanced fun _ _ => ⟨htouch.printToRf,?_⟩,?_⟩
      · exact iff_of_eq (congrArg (· = _) hsame)
      · rw [vcBreakLink_printToRf]
        exact hs.printToRf
  · exact hs

/-- With the timer off a message is discarded, refused, looped back or readied;
a readied one has its circuit connected, unless it is broadcast. -/
theorem vcSerialMessageReceived_sound {r : Radio} (h : Sound r) (hoff : r.ackTimer = false)
    (i : Inputs) : Sound (vcSerialMessageReceived r i).1 ∧
      ∀ m, (vcSerialMessageReceived r i).2 = some m →
        (vcSerialMessageReceived r i).1.ackTimer = false ∧ (m.destVc ≠ vcBroadcast →
          ((vcSerialMessageReceived r i).1.virtualCircuitList m.destVc.number).vcState ≠
            .linkDown) := by
  unfold vcSerialMessageReceived
  split
  · exact ⟨h,by simp⟩
  next m rest _ =>
  have hrest := setRadioTxBuffer_undisturbed r rest
  dsimp only
  generalize r.setRadioTxBuffer rest = s at hrest
  have hs := hrest.sound h
  have hsoff : s.ackTimer = false := hrest.ackTimer.trans hoff
  split
  · exact ⟨hs,by simp⟩
  split
  · split
    · exact ⟨hs,by simp⟩
    · refine ⟨⟨vcBreakLink_balanced hs.balanced fun hon => ?_,?_⟩,by simp⟩
      · simp [hsoff] at hon
      · rw [vcBreakLink_printToRf]
        exact hs.printToRf
  have hfind : Keeps s
      (if m.destVc = vcBroadcast then s else s.touch (.entry m.destVc.number)) := by
    split
    · exact .refl s
    · exact touch_keeps s _
  generalize (if m.destVc = vcBroadcast then s else s.touch (.entry m.destVc.number)) = t at hfind
  have ht := hfind.sound hs
  split
  · refine ⟨?_,by simp⟩
    split
    · refine ⟨?_,ht.printToRf⟩
      cases ht.balanced with
      | quiet hq hno => exact .quiet (by simp [Radio.log,standing,hq,Standing.next]) hno
      | awaiting v _ _ hon => simp [hfind.ackTimer,hsoff] at hon
      | answered hq hd hno => exact .answered (by simp [Radio.log,standing,hq,Standing.next]) hd hno
    · exact ht
  next hconn =>
  split
  · exact ⟨(setUnsent_undisturbed t _).sound ht,by simp⟩
  · refine ⟨ht,fun n hn => ?_⟩
    obtain rfl : m = n := by simpa using hn
    refine ⟨hfind.ackTimer.trans hsoff,fun hb hdown => hconn ⟨hb,?_⟩⟩
    rw [hdown]
    decide

/-- The lowest priority. -/
theorem waitReceiveMessage_sound {r : Radio} (h : Sound r) (hoff : r.ackTimer = false)
    (m : Datagram) (i : Inputs) (hup : m.destVc ≠ vcBroadcast →
      (r.virtualCircuitList m.destVc.number).vcState ≠ .linkDown) :
    Sound (waitReceiveMessage r m i) := by
  unfold waitReceiveMessage
  split
  · exact (xmit_keeps r .datagram _ i _).sound h
  next hb =>
  split
  next hchannel =>
    refine ⟨started_balanced h.balanced hoff .data _ i _ fun _ => ?_,?_⟩
    · refine ⟨m.destVc.number,?_,hup hb⟩
      have hsmall : m.destVc.toNat < 32 := by
        have hzero : m.destVc.toNat / 32 = 0 := hchannel
        omega
      rw [atFront_destVc]
      exact (VcAddress.ofNumber_number hsmall).symm
    · exact (xmit_retains r .data _ i _).printToRf.trans h.printToRf
  split
  · split
    · refine checkRemoteCommand_sound ((setUnsent_undisturbed r none).sound h) i.command
        fun _ hon => ?_
      exact absurd (hoff.symm.trans hon) (by decide)
    · refine ⟨started_balanced h.balanced hoff .remoteCommand _ i _ (by simp),?_⟩
      exact (xmit_retains r .remoteCommand _ i _).printToRf.trans h.printToRf
  · exact (setUnsent_undisturbed r _).sound h

theorem waitReceiveTransmit_sound {r : Radio} (h : Sound r) (i : Inputs) :
    Sound (waitReceiveTransmit r i) := by
  unfold waitReceiveTransmit
  split
  · have hsent : Sound (xmitVcHeartbeat r r.myVc r.myUniqueId i).1 :=
      (transmitDatagram_keeps r .vcHeartbeat _ i).sound h
    dsimp only
    split
    · refine (changeState_keeps _ _).sound ?_
      split
      · exact (refresh_keeps _ _ i).sound hsent
      · exact hsent
    · exact hsent
  split
  next hon => exact waitReceiveRetransmit_sound h hon i
  next hoff =>
  have hoff : r.ackTimer = false := by simpa using hoff
  split
  next packet _ =>
    refine ⟨started_balanced h.balanced hoff .remoteCommandResponse _ i _ (by simp),?_⟩
    exact (xmit_retains r .remoteCommandResponse _ i _).printToRf.trans h.printToRf
  split
  · exact (waitReceiveHandshake_keeps r i).sound h
  · have hmsg := vcSerialMessageReceived_sound h hoff i
    revert hmsg
    generalize vcSerialMessageReceived r i = q
    intro ⟨hs,hm⟩
    obtain ⟨s,_ | m⟩ := q
    · exact hs
    · exact waitReceiveMessage_sound hs (hm m rfl).1 m i (hm m rfl).2

/-- Every report is made and made rightly: while the kept frame is a data
message, RADIO_RESET and a remote ATB find no ACK timer running, an accepted
DATA_ACK comes from its destination and finds the timer running, and a circuit
that breaks is named by txDestVc exactly if rexmtTxDestVc names it. -/
def Radio.ReportsRightly (r : Radio) (e : Event) : Prop :=
  match e,r.atLinkCheck with
  | .pass packet i,false => r.DataLast → (r.radioState = .reset → r.ackTimer = false) ∧
      ∀ p ∈ packet, r.AcksRightly p i ∧ r.CommandsRightly p i
  | .linkCheck now limit,true => ∀ v, r.TimesOut now limit v → r.BreaksRightly v
  | .command c,false => c = .breakLinks → ∀ v, (r.virtualCircuitList v).vcState ≠ .linkDown →
      VcAddress.ofNumber v ≠ r.myVc → r.BreaksRightly v
  | _,_ => True

instance (r : Radio) (e : Event) : Decidable (r.ReportsRightly e) := by
  unfold Radio.ReportsRightly
  split <;> infer_instance

theorem updateRadioState_sound {r : Radio} (h : Sound r) (packet : Option Reception)
    (i : Inputs) (hright : r.DataLast → (r.radioState = .reset → r.ackTimer = false) ∧
      ∀ p ∈ packet, r.AcksRightly p i ∧ r.CommandsRightly p i) :
    Sound (updateRadioState r packet i) := by
  unfold updateRadioState
  split
  next hstate =>
    refine (resetPass_keeps r i).sound ⟨h.balanced.stop fun hw => ?_,h.printToRf⟩
    exact absurd ((hright hw.2).1 hstate) (by simp [hw.1])
  next hstate =>
    unfold waitServerPass
    split
    · exact (changeState_keeps r _).sound h
    next hmy =>
    cases packet with
    | none => exact h
    | some p =>
      have hrcv : Sound (rcvDatagram r p i).1 := by
        rcases rcvDatagram_undisturbed r p i with ⟨hu,_⟩ | ⟨s,hs,hr,hp⟩
        · exact hu.sound h
        · have hb := hs.balanced h.balanced
          have hack : r.DataLast → r.ackTimer = true → s.rxSrcVc ≠ r.rexmtTxDestVc := by
            intro hd hon
            have hp' := ((hright hd).2 p rfl).1 hp
            rw [hstate,hr] at hp'
            exact hp' hmy hon
          rw [hr]
          refine ⟨?_,hs.printToRf.trans h.printToRf⟩
          cases hb with
          | quiet hq hno => exact .quiet (by simp [Radio.log,standing,hq,Standing.next]) hno
          | answered hq hd hoff =>
            exact .answered (by simp [Radio.log,standing,hq,Standing.next]) hd hoff
          | awaiting v hq hd hon hv hup =>
            have hlast : r.DataLast := by
              unfold Radio.DataLast at hd ⊢
              rwa [← hs.rexmt]
            have hne := hack hlast (hs.ackTimer ▸ hon)
            rw [← hs.rexmtTxDestVc,hv] at hne
            exact .awaiting v (by simp [Radio.log,standing,hq,Standing.next,hne]) hd hon hv hup
      dsimp only
      revert hrcv
      generalize rcvDatagram r p i = q
      intro hrcv
      split
      · split
        · refine (changeState_keeps _ _).sound ?_
          exact (vcReceiveHeartbeat_keeps _ _ i).sound ((refresh_keeps _ _ i).sound hrcv)
        · exact hrcv
      · exact hrcv
  · unfold waitTxDonePass
    split
    · exact (changeState_keeps _ _).sound ((touch_keeps r _).sound h)
    · exact h
  next hstate =>
    unfold waitReceivePass
    refine (setAtLinkCheck_keeps _ true).sound ?_
    cases packet with
    | some p => exact waitReceiveFrame_sound h hstate p i fun hd => (hright hd).2 p rfl
    | none =>
      dsimp only
      split
      · exact h
      · exact waitReceiveTransmit_sound h i

theorem step_sound {r : Radio} {e : Event} (h : Sound r) (hright : r.ReportsRightly e) :
    Sound (step r e) := by
  unfold Radio.ReportsRightly at hright
  unfold step
  cases e with
  | pass packet i =>
    cases hcheck : r.atLinkCheck with
    | true => exact h
    | false =>
      rw [hcheck] at hright
      exact updateRadioState_sound h packet i hright
  | linkCheck now limit =>
    cases hcheck : r.atLinkCheck with
    | false => exact h
    | true =>
      rw [hcheck] at hright
      have hloop := linkCheck_balanced h.balanced hright
      dsimp only
      revert hloop
      generalize linkCheck r now limit = q
      intro ⟨hb,hp⟩
      exact (setAtLinkCheck_keeps q false).sound ⟨hb,hp.trans h.printToRf⟩
  | command c =>
    cases hcheck : r.atLinkCheck with
    | true => exact h
    | false =>
      rw [hcheck] at hright
      by_cases hc : c = .breakLinks
      · have hloop := breakLinks_balanced h.balanced (hright hc)
        simp only [hc,checkCommand]
        exact ⟨hloop.1,hloop.2.trans h.printToRf⟩
      · exact (checkCommand_keeps r hc).sound h
  | hostMessage destVc srcVc data =>
    cases r.atLinkCheck with
    | true => exact h
    | false =>
      dsimp only
      split
      · unfold hostMessage
        split
        · exact h
        split
        · exact h
        · exact (setRadioTxBuffer_undisturbed r _).sound h
      · exact h

/-- A radio whose history starts: nothing reported, and no data message kept. -/
def Radio.Fresh (r : Radio) : Prop :=
  r.history = [] ∧ r.printToRf = false ∧ ¬ r.DataLast

theorem Radio.Fresh.sound {r : Radio} (h : r.Fresh) : Sound r :=
  ⟨.quiet (by rw [h.1]; rfl) h.2.2,h.2.1⟩

/-- In every run whose steps all report rightly, every host data message is
answered exactly once, rightly and before the next numbered frame. -/
theorem run_reported {r : Radio} (h : r.Fresh) {es : List Event}
    (hright : Along step Radio.ReportsRightly r es) : (run step r es).Reported :=
  (invariant (fun _ _ hs he => step_sound hs he) h.sound hright).balanced.reported

/-- A reception in RADIO_VC_WAIT_RECEIVE and its link check. -/
def hears (t : DatagramType) (srcVc destVc : VcAddress) (data : List UInt8) : List Event :=
  [.pass (some (.frame ⟨⟨t,0,false,false⟩,.build destVc srcVc data,0⟩)) .idle,.linkCheck 0 3000]

/-- The end of a transmission. -/
def txDone : List Event := [.pass (some (.damaged .bad)) .idle]

/-- The server starts, hears the heartbeat of circuit 1 and connects to it. -/
def connectFirst : List Event :=
  [.pass none .idle] ++ txDone ++ hears .vcHeartbeat 1 0xFF (List.replicate 16 0xB1 ++ [0,0,0,0]) ++
    hears .vcUnknownAcks 1 0 [] ++ txDone ++ hears .vcZeroAcks 1 0 []

/-- The host sends one byte to circuit 1. -/
def sendFirst : List Event :=
  [.hostMessage 1 0 [0x41],.pass none .idle,.linkCheck 0 3000] ++ txDone

theorem run_reported_exchange :
    (run step .powerUp (connectFirst ++ sendFirst ++ hears .dataAck 1 0 [])).Reported :=
  run_reported ⟨rfl,rfl,by decide⟩ (by decide +kernel)

/-- While the message waits a heartbeat is broadcast, then circuit 1 times out. -/
def heartbeatThenBreak : List Event :=
  [.pass none { Inputs.idle with heartbeatTimeout := true },.linkCheck 0 3000] ++ txDone ++
    [.pass none { Inputs.idle with receiveInProcess := true },.linkCheck 5000 3000,
      .pass none .idle,.linkCheck 0 3000]

/-- The heartbeat has left VC_BROADCAST in txDestVc, so the break finds no
message to answer, and the retransmission stops without a report. -/
theorem broken_link_unreported :
    standing (run step .powerUp (connectFirst ++ sendFirst)).history = some (.awaiting 1) ∧
    standing (run step .powerUp (connectFirst ++ sendFirst ++ heartbeatThenBreak)).history =
      some (.due 1 false) ∧
    (run step .powerUp (connectFirst ++ sendFirst ++ heartbeatThenBreak)).ackTimer = false ∧
    ¬ (run step .powerUp (connectFirst ++ sendFirst ++ heartbeatThenBreak)).Reported := by
  have hdue : standing (run step .powerUp
      (connectFirst ++ sendFirst ++ heartbeatThenBreak)).history = some (.due 1 false) := by
    decide +kernel
  refine ⟨by decide +kernel,hdue,by decide +kernel,?_⟩
  rintro ⟨s,hs,hacc⟩
  rw [hdue] at hs
  obtain rfl := Option.some.inj hs
  exact hacc

end LoRaSerial.VC
