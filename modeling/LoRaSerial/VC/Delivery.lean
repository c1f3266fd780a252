import LoRaSerial.Lib.Runs
import LoRaSerial.VC.Network

namespace LoRaSerial.VC
open Runs
open Retransmission (Line)

/-- Nothing that crosses the line is delivered twice or acknowledged early. -/
abbrev LineSafe (d : Line AckNumber Frame) : Prop :=
  Retransmission.Safe Frame.number Frame.serial (fun f : Frame => f.isData = true) d

@[simp] theorem ofNumber_ne_broadcast (v : Fin maxVc) : VcAddress.ofNumber v ≠ vcBroadcast := by
  revert v
  decide

@[simp] theorem ofNumber_ne_unassigned (v : Fin maxVc) : VcAddress.ofNumber v ≠ vcUnassigned := by
  revert v
  decide

theorem VcAddress.Parked.ne {a : VcAddress} {x y : Fin maxVc} (h : a.Parked (.ofNumber x))
    (hxy : y ≠ x) : a ≠ .ofNumber y := by
  rintro rfl
  rcases h.2.2 with he | hlarge
  · exact hxy (VcAddress.ofNumber_inj he)
  · rw [VcAddress.toNat_ofNumber] at hlarge
    exact absurd y.isLt (not_lt.mpr hlarge)

/-- A radio without an address parks nothing at it. -/
theorem VcAddress.Parked.own {a myVc : VcAddress} {x : Fin maxVc} (h : a.Parked myVc)
    (hmy : myVc = .ofNumber x ∨ myVc = vcUnassigned) : a.Parked (.ofNumber x) := by
  rcases hmy with rfl | rfl
  · exact h
  · exact ⟨h.1,h.2.1,.inr (h.2.2.resolve_left h.2.1)⟩

/-- A numbered frame of radio `x`: it says so and goes to a circuit, or no other
radio listens to it. -/
def Frame.From (f : Frame) (x : Fin maxVc) : Prop :=
  (f.datagram.srcVc = .ofNumber x ∧ ∃ v, f.datagram.destVc = .ofNumber v) ∨
    VcAddress.Parked f.datagram.destVc (.ofNumber x)

/-- Whoever listens to a numbered frame has the address it goes to. -/
theorem Frame.From.heard {f : Frame} {w z : Fin maxVc} (h : f.From w) (hw : w ≠ z) {r : Radio}
    (hmy : r.myVc = .ofNumber z ∨ r.myVc = vcUnassigned)
    (hdest : f.datagram.destVc = vcBroadcast ∨ f.datagram.destVc = r.myVc) :
    f.datagram.srcVc = .ofNumber w ∧ f.datagram.destVc = .ofNumber z := by
  rcases h with ⟨hsrc,v,hv⟩ | hparked
  · refine ⟨hsrc,?_⟩
    rw [hv] at hdest ⊢
    rcases hdest with hb | hdest
    · exact absurd hb (ofNumber_ne_broadcast v)
    · rcases hmy with hmy | hmy
      · exact hdest.trans hmy
      · exact absurd (hdest.trans hmy) (ofNumber_ne_unassigned v)
  · rcases hdest with hb | hdest
    · exact absurd hb hparked.1
    · rcases hmy with hmy | hmy
      · exact absurd (hdest.trans hmy) (hparked.ne hw.symm)
      · exact absurd (hdest.trans hmy) hparked.2.1

theorem between_eq_false {f : Frame} {x y : Fin maxVc} (h : f.datagram.destVc ≠ .ofNumber y) :
    f.between x y = false := by
  simp [Frame.between,h]

theorem Radio.Hears.between {r : Radio} {f : Frame} {v z : Fin maxVc} (h : r.Hears f v)
    (hdest : f.datagram.destVc = .ofNumber z) : f.between v z = true := by
  simp [Frame.between,h.srcVc,hdest,h.ignoreFrame,h.length]

/-- Messages, left bytes and the kept frame are the radio's own. -/
structure Radio.Owned (r : Radio) (x : Fin maxVc) : Prop where
  messages : ∀ m ∈ r.radioTxBuffer, m.srcVc = .ofNumber x
  unsent : ∀ m ∈ r.unsent, VcAddress.Parked m.destVc (.ofNumber x)
  sequenced : r.ackTimer = true → r.rexmt.frame.control.datagramType.sequenced true = true
  rexmt : r.ackTimer = true → r.rexmt.frame.From x

theorem Calm.owned {r s : Radio} {x : Fin maxVc} (h : Calm r s) (hr : r.Owned x) : s.Owned x where
  messages m hm := hr.messages m (h.radioTxBuffer m hm)
  unsent m hm := hr.unsent m (h.unsent m hm)
  sequenced ha := h.rexmt ▸ hr.sequenced (h.ackTimer ha)
  rexmt ha := h.rexmt ▸ hr.rexmt (h.ackTimer ha)

/-- The source of a frame that starts: a waiting message's or the radio's own. -/
theorem starting_srcVc {r : Radio} {i : Inputs} {x : Fin maxVc} (hr : r.Owned x)
    {q : DatagramType × Datagram} (hq : r.starting i = some q) (hmy : r.myVc = .ofNumber x) :
    q.2.srcVc = .ofNumber x := by
  unfold Radio.starting at hq
  split at hq
  · simp at hq
  split at hq
  · obtain rfl := Option.some.inj hq
    exact hmy
  split at hq
  · simp at hq
  have hread := vcSerialMessageReceived_readied r i
  generalize vcSerialMessageReceived r i = u at hread hq
  cases hread with
  | nothing => simp at hq
  | itself => simp at hq
  | message s m hs hm =>
    have hsrc := hr.messages m hm
    dsimp only at hq
    split at hq
    · simp at hq
    split at hq
    · obtain rfl := Option.some.inj hq
      exact hsrc
    split at hq
    · obtain rfl := Option.some.inj hq
      exact hsrc
    · simp at hq

/-- What the sender's side of a direction is made of. -/
structure SameSender (y : Fin maxVc) (s s' : Radio) : Prop where
  next : (s'.virtualCircuitList y).numbers.txAckNumber = (s.virtualCircuitList y).numbers.txAckNumber
  ackTimer : s'.ackTimer = s.ackTimer
  rexmt : s'.rexmt.frame = s.rexmt.frame
  told : told s'.history = told s.history
  datagramsSent : s'.datagramsSent = s.datagramsSent

/-- What the receiver's side is made of. -/
structure SameReceiver (x : Fin maxVc) (r r' : Radio) : Prop where
  expected : (r'.virtualCircuitList x).numbers.rmtTxAckNumber =
    (r.virtualCircuitList x).numbers.rmtTxAckNumber
  confirmed : (r'.virtualCircuitList x).numbers.rxAckNumber =
    (r.virtualCircuitList x).numbers.rxAckNumber
  delivered : r'.delivered.filter (Frame.dataFrom x) = r.delivered.filter (Frame.dataFrom x)

/-- The direction from `x` to `y` sees neither a change elsewhere nor frames of
other directions. -/
theorem lineOf_same {x y : Fin maxVc} {s s' r r' : Radio} {out out' back back' : List Frame}
    (hs : SameSender y s s') (hr : SameReceiver x r r')
    (hout : out'.filter (Frame.crosses x y) = out.filter (Frame.crosses x y))
    (hback : back'.filter (Frame.answers y x) = back.filter (Frame.answers y x)) :
    lineOf x y s' r' out' back' = lineOf x y s r out back := by
  obtain ⟨hlast,hanswered,hconfirmed⟩ := told_eq.mp hs.told
  simp only [lineOf,hs.next,hs.ackTimer,hs.rexmt,hlast,hanswered,hconfirmed,hs.datagramsSent,
    hr.expected,hr.confirmed,hr.delivered,hout,hback]

@[simp] theorem lineOf_hush_sender (x y : Fin maxVc) (s r : Radio) (out back : List Frame) :
    lineOf x y s.hush r out back = lineOf x y s r out back := rfl

@[simp] theorem lineOf_hush_receiver (x y : Fin maxVc) (s r : Radio) (out back : List Frame) :
    lineOf x y s r.hush out back = lineOf x y s r out back := rfl

theorem SameSender.refl (y : Fin maxVc) (s : Radio) : SameSender y s s := ⟨rfl,rfl,rfl,rfl,rfl⟩

theorem SameReceiver.refl (x : Fin maxVc) (r : Radio) : SameReceiver x r r := ⟨rfl,rfl,rfl⟩

/-- A frame that is popped and means nothing to a direction is a lost one. -/
theorem LineSafe.pop {x y : Fin maxVc} {s r : Radio} {out out' back back' : List Frame}
    (h : LineSafe (lineOf x y s r out back)) (hout : out'.Sublist out)
    (hback : back'.Sublist back) : LineSafe (lineOf x y s r out' back') :=
  h.rest (hout.filter _) ((hback.filter _).map _) (.inl rfl) (Nat.le_refl _)

theorem filter_crosses {l l' : List Frame} (h : l.filter Frame.numbered = l'.filter Frame.numbered)
    (x y : Fin maxVc) : l.filter (Frame.crosses x y) = l'.filter (Frame.crosses x y) := by
  have hsub : ∀ f : Frame, Frame.crosses x y f = (Frame.crosses x y f && f.numbered) := by
    intro f
    cases hseq : f.control.datagramType.sequenced true <;>
      simp [Frame.crosses,Frame.numbered,DatagramType.numbered,hseq]
  have hfilter : ∀ m : List Frame, m.filter (Frame.crosses x y) =
      (m.filter Frame.numbered).filter (Frame.crosses x y) := by
    intro m
    rw [List.filter_filter]
    exact List.filter_congr fun f _ => hsub f
  rw [hfilter l,hfilter l',h]

theorem filter_answers {l l' : List Frame} (h : l.filter Frame.numbered = l'.filter Frame.numbered)
    (x y : Fin maxVc) : l.filter (Frame.answers x y) = l'.filter (Frame.answers x y) := by
  have hsub : ∀ f : Frame, Frame.answers x y f = (Frame.answers x y f && f.numbered) := by
    intro f
    cases hack : f.control.datagramType == .dataAck <;>
      simp [Frame.answers,Frame.numbered,DatagramType.numbered,hack]
  have hfilter : ∀ m : List Frame, m.filter (Frame.answers x y) =
      (m.filter Frame.numbered).filter (Frame.answers x y) := by
    intro m
    rw [List.filter_filter]
    exact List.filter_congr fun f _ => hsub f
  rw [hfilter l,hfilter l',h]

theorem filter_dataFrom {l l' : List Frame} (h : l.filter Frame.isData = l'.filter Frame.isData)
    (x : Fin maxVc) : l.filter (Frame.dataFrom x) = l'.filter (Frame.dataFrom x) := by
  have hfilter : ∀ m : List Frame, m.filter (Frame.dataFrom x) =
      (m.filter Frame.isData).filter fun f => f.datagram.srcVc == .ofNumber x := by
    intro m
    rw [List.filter_filter]
    exact List.filter_congr fun f _ => Bool.and_comm _ _
  rw [hfilter l,hfilter l',h]

/-- Calm of the sender. -/
theorem Calm.lineTo {z y : Fin maxVc} {r s q : Radio} {out inn : List Frame} (h : Calm r s)
    (hr : LineSafe (lineOf z y r q (out ++ r.onAir) inn)) :
    LineSafe (lineOf z y s q (out ++ s.onAir) inn) := by
  obtain ⟨hlast,hanswered,hconfirmed⟩ := told_eq.mp h.told
  have heq : lineOf z y s q (out ++ s.onAir) inn = { lineOf z y r q (out ++ r.onAir) inn with
      kept := (lineOf z y s q (out ++ s.onAir) inn).kept
      clock := s.datagramsSent } := by
    simp only [lineOf,h.numbers,hlast,hanswered,hconfirmed,List.filter_append,
      filter_crosses h.onAir]
  rw [heq]
  refine hr.rest (.refl _) (.refl _) ?_ h.datagramsSent
  cases ha : s.ackTimer with
  | false => exact .inr (by simp [lineOf,ha])
  | true => exact .inl (by simp [lineOf,ha,h.ackTimer ha,h.rexmt])

/-- Calm of the receiver. -/
theorem Calm.lineFrom {z y : Fin maxVc} {r s q : Radio} {out inn : List Frame} (h : Calm r s) :
    lineOf y z q s inn (out ++ s.onAir) = lineOf y z q r inn (out ++ r.onAir) := by
  refine lineOf_same (.refl z q) ⟨by rw [h.numbers],by rw [h.numbers],filter_dataFrom h.delivered y⟩
    rfl ?_
  rw [List.filter_append,List.filter_append,filter_answers h.onAir]

/-- Radio `z` makes a pass; `q` is radio `y`. What `z` hears comes from radio
`w` and has left `inn0`, the air from `y` to `z`. -/
structure Passing (z y w : Fin maxVc) (r q : Radio) (i : Inputs) (p : Option Reception)
    (out inn0 inn : List Frame) : Prop where
  quiet : r.onAir = []
  owned : r.Owned z
  addressed : r.myVc = .ofNumber z ∨ r.myVc = vcUnassigned
  silent : (∀ f, p ≠ some (.frame f)) → inn0 = inn
  heard : ∀ f, p = some (.frame f) → w ≠ z ∧ (f.numbered = true → f.From w) ∧
    inn0 = if w = y then f :: inn else inn
  starts : p = none → r.radioState = .waitReceive → ∀ u ∈ r.starting i, r.myVc = .ofNumber z ∧
    ∃ v, u.2.destVc = .ofNumber v ∧
      (u.1 = .data → v = y → (lineOf z y r q out inn0).Startable Frame.number)
  takes : ∀ f, p = some (.frame f) → r.TakesClear f
  acks : ∀ f, p = some (.frame f) → r.AcksClear f
  zeros : ∀ f, p = some (.frame f) → r.radioState = .waitReceive →
    (f.control.datagramType = .vcSyncAcks ∧ i.transmit.result = true) ∨
      f.control.datagramType = .vcZeroAcks → r.Hears f y →
    (lineOf z y r q out inn0).ZeroableTx Frame.number ∧
      (lineOf y z q r inn0 out).ZeroableRx Frame.number (fun f => f.isData = true)

/-- Both directions between radio `s`, which has made its pass, and radio `q`. -/
def BothSafe (z y : Fin maxVc) (s q : Radio) (out inn : List Frame) : Prop :=
  LineSafe (lineOf z y s q (out ++ s.onAir) inn) ∧ LineSafe (lineOf y z q s inn (out ++ s.onAir))

theorem Calm.bothSafe {z y : Fin maxVc} {s t q : Radio} {out inn : List Frame} (h : Calm s t)
    (hs : BothSafe z y s q out inn) : BothSafe z y t q out inn :=
  ⟨h.lineTo hs.1,h.lineFrom ▸ hs.2⟩

section Passing

variable {z y w : Fin maxVc} {r q : Radio} {i : Inputs} {p : Option Reception}
  {out inn0 inn : List Frame}

theorem Passing.popped (h : Passing z y w r q i p out inn0 inn) : inn.Sublist inn0 := by
  by_cases hp : ∃ f, p = some (.frame f)
  · obtain ⟨f,hf⟩ := hp
    rw [(h.heard f hf).2.2]
    split
    · exact List.sublist_cons_self f inn
    · exact .refl _
  · rw [h.silent fun f hf => hp ⟨f,hf⟩]

/-- A numbered frame that `z` hears comes from the radio it names. -/
theorem Passing.source {f : Frame} {v : Fin maxVc}
    (h : Passing z y w r q i (some (.frame f)) out inn0 inn) (hheard : r.Hears f v)
    (hnumbered : f.numbered = true) : w = v ∧ f.between v z = true := by
  obtain ⟨hw,hfrom,_⟩ := h.heard f rfl
  obtain ⟨hsrc,hdest⟩ := (hfrom hnumbered).heard hw h.addressed hheard.destVc
  exact ⟨VcAddress.ofNumber_inj (hsrc.symm.trans hheard.srcVc),hheard.between hdest⟩

/-- A change that neither direction sees. -/
theorem Passing.unseen (h : Passing z y w r q i p out inn0 inn)
    (hto : LineSafe (lineOf z y r q out inn0)) (hfrom : LineSafe (lineOf y z q r inn0 out))
    {s : Radio} (hsend : SameSender y r s) (hreceive : SameReceiver y r s)
    (hair : ∀ f ∈ s.onAir, f.crosses z y = false ∧ f.answers z y = false) :
    BothSafe z y s q out inn := by
  have hcross : (out ++ s.onAir).filter (Frame.crosses z y) = out.filter (Frame.crosses z y) := by
    have hnone : s.onAir.filter (Frame.crosses z y) = [] :=
      List.filter_eq_nil_iff.mpr fun f hf => by simp [(hair f hf).1]
    rw [List.filter_append,hnone,List.append_nil]
  have hanswer : (out ++ s.onAir).filter (Frame.answers z y) = out.filter (Frame.answers z y) := by
    have hnone : s.onAir.filter (Frame.answers z y) = [] :=
      List.filter_eq_nil_iff.mpr fun f hf => by simp [(hair f hf).2]
    rw [List.filter_append,hnone,List.append_nil]
  refine ⟨?_,?_⟩
  · rw [lineOf_same hsend (.refl z q) hcross rfl]
    exact hto.pop (.refl _) h.popped
  · rw [lineOf_same (.refl z q) hreceive rfl hanswer]
    exact hfrom.pop h.popped (.refl _)

/-- What an answer to `v` means for the direction from `y`: a DATA_ACK where `v`
is `y`, or nothing. -/
theorem Passing.answered (h : Passing z y w r q i p out inn0 inn) (hy : y ≠ z) {v : Fin maxVc}
    {n : AckNumber} {sent : List Frame} (hsent : r.Answers (.ofNumber v) n sent) :
    sent.filter (Frame.crosses z y) = [] ∧
      ((sent.filter (Frame.answers z y)).map Frame.number = [] ∨
        v = y ∧ (sent.filter (Frame.answers z y)).map Frame.number = [n]) := by
  rcases hsent with rfl | ⟨g,rfl,htype,hg⟩
  · exact ⟨rfl,.inl rfl⟩
  have hcross : g.crosses z y = false := by
    simp [Frame.crosses,htype,DatagramType.sequenced]
  refine ⟨by simp [hcross],?_⟩
  rcases hg with ⟨hd,hn⟩ | ⟨m,hm,hd⟩
  · by_cases hv : v = y
    · cases ha : g.answers z y with
      | false => exact .inl (by simp [ha])
      | true => exact .inr ⟨hv,by simp [ha,Frame.number,hn]⟩
    · have hne : g.datagram.destVc ≠ .ofNumber y := by
        rw [hd]
        exact fun he => hv (VcAddress.ofNumber_inj he)
      exact .inl (by simp [Frame.answers,between_eq_false hne])
  · have hne : g.datagram.destVc ≠ .ofNumber y := by
      rw [hd]
      exact (h.owned.unsent m hm).ne hy
    exact .inl (by simp [Frame.answers,between_eq_false hne])

/-- A numbered frame starts: for `y`, or for another circuit. -/
theorem Passing.start {f : Frame} {d : Datagram} {sent : List Frame}
    (h : Passing z y w r q i none out inn0 inn)
    (hto : LineSafe (lineOf z y r q out inn0)) (hfrom : LineSafe (lineOf y z q r inn0 out))
    (hstate : r.radioState = .waitReceive)
    (hstart : r.starting i = some (f.control.datagramType,d))
    (hseq : f.control.datagramType.sequenced true = true)
    (hdest : f.datagram.destVc = d.destVc) (hsrc : f.datagram.srcVc = d.srcVc)
    (hn : f.control.ackNumber = (r.circuit f.datagram.destVc).numbers.txAckNumber)
    (hserial : f.serial = r.datagramsSent) (hsent : sent = [] ∨ sent = [f]) :
    BothSafe z y ((r.start f).say sent) q out inn := by
  have hpop : inn0 = inn := h.silent fun f hf => by simp at hf
  subst hpop
  obtain ⟨hmy,v,hv,hclear⟩ := h.starts rfl hstate _ hstart
  have hown : f.datagram.srcVc = .ofNumber z := hsrc.trans (starting_srcVc h.owned hstart hmy)
  have hair : ((r.start f).say sent).onAir = sent := by
    change r.onAir ++ sent = sent
    rw [h.quiet,List.nil_append]
  have hnoack : (out ++ sent).filter (Frame.answers z y) = out.filter (Frame.answers z y) := by
    have hf : f.answers z y = false := by
      have ht : f.control.datagramType ≠ .dataAck := by
        intro ht
        simp [ht,DatagramType.sequenced] at hseq
      simp [Frame.answers,ht]
    rcases hsent with rfl | rfl <;> simp [hf]
  have hreceive : SameReceiver y r ((r.start f).say sent) := ⟨rfl,rfl,rfl⟩
  unfold BothSafe
  rw [hair]
  refine ⟨?_,?_⟩
  · by_cases hfor : f.datagram.destVc = .ofNumber y
    · have hcircuit : f.number = (lineOf z y r q out inn0).next := by
        rw [Frame.number,hn,hfor,circuit_ofNumber]
        rfl
      have hlast : (some f).filter (Frame.dataFor y) =
          if f.isData = true then some f else none := by
        cases hd : f.isData <;> simp [Option.filter,Frame.dataFor,hd,hfor]
      have hline : lineOf z y ((r.start f).say sent) q (out ++ sent) inn0 =
          { lineOf z y r q out inn0 with
            last := if f.isData = true then some f else none
            answered := false
            kept := (some f).filter (Frame.crosses z y)
            frames := (lineOf z y r q out inn0).frames ++ sent.filter (Frame.crosses z y)
            clock := (lineOf z y r q out inn0).clock + 1 } := by
        rw [← hlast]
        simp [lineOf,Radio.start,Radio.say,Radio.log,lastStarted,acknowledged,confirmed]
      rw [hline]
      refine hto.start hcircuit hserial ?_ ?_ ?_
      · rcases hsent with rfl | rfl
        · exact .inl rfl
        · cases hc : f.crosses z y <;> simp [hc]
      · cases hc : f.crosses z y <;> simp [Option.filter,hc]
      · intro hdata
        have hvy : v = y := VcAddress.ofNumber_inj (hv.symm.trans (hdest.symm.trans hfor))
        exact hclear (by simpa [Frame.isData] using hdata) hvy
    · have hcross : f.crosses z y = false := by simp [Frame.crosses,between_eq_false hfor]
      have hline : lineOf z y ((r.start f).say sent) q (out ++ sent) inn0 =
          { lineOf z y r q out inn0 with
            last := none
            answered := false
            kept := none
            clock := r.datagramsSent + 1 } := by
        have hnone : sent.filter (Frame.crosses z y) = [] := by
          rcases hsent with rfl | rfl <;> simp [hcross]
        simp [lineOf,Radio.start,Radio.say,Radio.log,lastStarted,acknowledged,confirmed,hnone,
          Option.filter,hcross,Frame.dataFor,hfor]
      rw [hline]
      exact Retransmission.Step.safe (.abandon _ _ (Nat.le_succ _)) hto
  · rw [lineOf_same (.refl z q) hreceive rfl hnoack]
    exact hfrom

/-- The kept frame goes on the air again. -/
theorem Passing.resend (h : Passing z y w r q i none out inn0 inn)
    (hto : LineSafe (lineOf z y r q out inn0)) (hfrom : LineSafe (lineOf y z q r inn0 out))
    (hon : r.ackTimer = true) : BothSafe z y (r.say [r.rexmt.frame]) q out inn := by
  have hpop : inn0 = inn := h.silent fun f hf => by simp at hf
  subst hpop
  have hair : (r.say [r.rexmt.frame]).onAir = [r.rexmt.frame] := by
    change r.onAir ++ _ = _
    rw [h.quiet,List.nil_append]
  have hseq := h.owned.sequenced hon
  have hack : r.rexmt.frame.answers z y = false := by
    have ht : r.rexmt.frame.control.datagramType ≠ .dataAck := by
      intro ht
      simp [ht,DatagramType.sequenced] at hseq
    simp [Frame.answers,ht]
  cases hc : r.rexmt.frame.crosses z y with
  | false =>
    refine h.unseen hto hfrom ⟨rfl,rfl,rfl,rfl,rfl⟩ ⟨rfl,rfl,rfl⟩ ?_
    intro f hf
    rw [hair,List.mem_singleton] at hf
    exact hf ▸ ⟨hc,hack⟩
  | true =>
    unfold BothSafe
    rw [hair]
    refine ⟨?_,?_⟩
    · have hline : lineOf z y r q (out ++ [r.rexmt.frame]) inn0 = { lineOf z y r q out inn0 with
          frames := (lineOf z y r q out inn0).frames ++ [r.rexmt.frame] } := by
        simp [lineOf,hc]
      change LineSafe (lineOf z y r q (out ++ [r.rexmt.frame]) inn0)
      rw [hline]
      exact Retransmission.Step.safe (.resend _ _ (by simp [lineOf,hon,Option.filter,hc])) hto
    · have hline : lineOf y z q r inn0 (out ++ [r.rexmt.frame]) = lineOf y z q r inn0 out :=
        lineOf_same (.refl z q) (.refl y r) rfl (by simp [hack])
      change LineSafe (lineOf y z q r inn0 (out ++ [r.rexmt.frame]))
      rw [hline]
      exact hfrom

theorem Frame.numbered_of_sequenced {f : Frame}
    (h : f.control.datagramType.sequenced true = true) : f.numbered = true := by
  simp [Frame.numbered,DatagramType.numbered,h]

theorem setNumbers_sender {r : Radio} {v y : Fin maxVc} {n : AckNumbers}
    (hn : y = v → n.txAckNumber = (r.virtualCircuitList v).numbers.txAckNumber) :
    SameSender y r (r.setNumbers (.ofNumber v) n) := by
  refine ⟨?_,?_,?_,?_,?_⟩
  · rw [setNumbers_numbers]
    split
    next hy => rw [hn hy,hy]
    · rfl
  all_goals rw [setNumbers_ofNumber]

theorem setNumbers_receiver {r : Radio} {v y : Fin maxVc} {n : AckNumbers}
    (hn : y = v → n.rmtTxAckNumber = (r.virtualCircuitList v).numbers.rmtTxAckNumber ∧
      n.rxAckNumber = (r.virtualCircuitList v).numbers.rxAckNumber) :
    SameReceiver y r (r.setNumbers (.ofNumber v) n) := by
  refine ⟨?_,?_,?_⟩
  · rw [setNumbers_numbers]
    split
    next hy => rw [(hn hy).1,hy]
    · rfl
  · rw [setNumbers_numbers]
    split
    next hy => rw [(hn hy).2,hy]
    · rfl
  · rw [setNumbers_ofNumber]

theorem setNumbers_onAir (r : Radio) (v : Fin maxVc) (n : AckNumbers) :
    (r.setNumbers (.ofNumber v) n).onAir = r.onAir := by
  rw [setNumbers_ofNumber]

theorem setNumbers_delivered (r : Radio) (v : Fin maxVc) (n : AckNumbers) :
    (r.setNumbers (.ofNumber v) n).delivered = r.delivered := by
  rw [setNumbers_ofNumber]

/-- A frame from `v` is no frame from another circuit. -/
theorem Radio.Hears.foreign {f : Frame} {v : Fin maxVc} (h : r.Hears f v) (hv : v ≠ y) :
    Frame.dataFrom y f = false := by
  have hne : f.datagram.srcVc ≠ .ofNumber y := by
    rw [h.srcVc]
    exact fun he => hv (VcAddress.ofNumber_inj he)
  simp [Frame.dataFrom,hne]

theorem Radio.Hears.own {f : Frame} (h : r.Hears f y) : Frame.dataFrom y f = f.isData := by
  simp [Frame.dataFrom,h.srcVc]

/-- The frame that the receiver expects is taken and perhaps answered. -/
theorem Passing.take {f : Frame} {v : Fin maxVc} {sent : List Frame}
    (h : Passing z y w r q i (some (.frame f)) out inn0 inn) (hy : y ≠ z)
    (hto : LineSafe (lineOf z y r q out inn0)) (hfrom : LineSafe (lineOf y z q r inn0 out))
    (hheard : r.Hears f v) (hseq : f.control.datagramType.sequenced true = true)
    (hn : f.control.ackNumber = (r.virtualCircuitList v).numbers.rmtTxAckNumber)
    (hsent : r.Answers (.ofNumber v) f.control.ackNumber sent) :
    BothSafe z y (((r.setNumbers (.ofNumber v)
      (r.virtualCircuitList v).numbers.accept).deliver (.frame f)).say sent) q out inn := by
  obtain ⟨hw,hbetween⟩ := h.source hheard (Frame.numbered_of_sequenced hseq)
  obtain ⟨hcross,hanswer⟩ := h.answered hy hsent
  have hsend : SameSender y r (((r.setNumbers (.ofNumber v)
      (r.virtualCircuitList v).numbers.accept).deliver (.frame f)).say sent) := by
    have hkept : ∀ u : Radio, SameSender y r u →
        SameSender y r ((u.deliver (.frame f)).say sent) := fun u hu =>
      ⟨hu.next,hu.ackTimer,hu.rexmt,hu.told,hu.datagramsSent⟩
    exact hkept _ (setNumbers_sender fun _ => rfl)
  have hair : (((r.setNumbers (.ofNumber v)
      (r.virtualCircuitList v).numbers.accept).deliver (.frame f)).say sent).onAir = sent := by
    change (r.setNumbers _ _).onAir ++ sent = sent
    rw [setNumbers_onAir,h.quiet,List.nil_append]
  have hdelivered : (((r.setNumbers (.ofNumber v)
      (r.virtualCircuitList v).numbers.accept).deliver (.frame f)).say sent).delivered =
      r.delivered ++ [f] := by
    change (r.setNumbers _ _).delivered ++ [f] = r.delivered ++ [f]
    rw [setNumbers_delivered]
  have hnumbers : ∀ u, ((((r.setNumbers (.ofNumber v)
      (r.virtualCircuitList v).numbers.accept).deliver (.frame f)).say sent).virtualCircuitList
        u).numbers = if u = v then (r.virtualCircuitList v).numbers.accept
          else (r.virtualCircuitList u).numbers :=
    fun u => setNumbers_numbers r v u _
  generalize ((r.setNumbers (.ofNumber v)
      (r.virtualCircuitList v).numbers.accept).deliver (.frame f)).say sent = s
    at hsend hair hdelivered hnumbers
  by_cases hvy : v = y
  · subst hvy
    have hinn : inn0 = f :: inn := by
      rw [(h.heard f rfl).2.2,if_pos hw]
    unfold BothSafe
    rw [hair]
    refine ⟨?_,?_⟩
    · have hline : lineOf z v s q (out ++ sent) inn = lineOf z v r q out inn :=
        lineOf_same hsend (.refl z q) (by simp [hcross]) rfl
      rw [hline]
      exact hto.pop (.refl _) h.popped
    · have hcrosses : f.crosses v z = true := by simp [Frame.crosses,hseq,hbetween]
      have hline : lineOf v z q s inn (out ++ sent) = { lineOf v z q r inn0 out with
          frames := (lineOf v z q s inn (out ++ sent)).frames
          acks := (lineOf v z q s inn (out ++ sent)).acks
          expected := (lineOf v z q r inn0 out).expected + 1
          confirmed := (lineOf v z q r inn0 out).expected
          delivered := if f.isData = true then (lineOf v z q r inn0 out).delivered ++ [f]
            else (lineOf v z q r inn0 out).delivered } := by
        cases hd : f.isData <;>
          simp [lineOf,hnumbers,hdelivered,AckNumbers.accept,hheard.own,hd]
      rw [hline]
      refine Retransmission.Step.safe (.accept _ f _ _ ?_ hn ?_) hfrom
      · simp [lineOf,hinn,hcrosses]
      · simp only [lineOf,List.filter_append,List.map_append]
        rcases hanswer with ha | ⟨_,ha⟩
        · exact .inl (by rw [ha,List.append_nil])
        · exact .inr (by rw [ha,hn])
  · refine h.unseen hto hfrom hsend ⟨?_,?_,?_⟩ ?_
    · rw [hnumbers,if_neg (Ne.symm hvy)]
    · rw [hnumbers,if_neg (Ne.symm hvy)]
    · simp [hdelivered,hheard.foreign hvy]
    · rw [hair]
      have hnone := List.map_eq_nil_iff.mp (hanswer.resolve_right fun hv => hvy hv.1)
      exact fun g hg => ⟨by simpa using List.filter_eq_nil_iff.mp hcross g hg,
        by simpa using List.filter_eq_nil_iff.mp hnone g hg⟩

/-- A command that RADIO_VC_WAIT_SERVER takes and drops. -/
theorem Passing.drop {f : Frame} {v : Fin maxVc}
    (h : Passing z y w r q i (some (.frame f)) out inn0 inn)
    (hto : LineSafe (lineOf z y r q out inn0)) (hfrom : LineSafe (lineOf y z q r inn0 out))
    (hstate : r.radioState = .waitServer) (hmy : r.myVc ≠ vcServer) (hheard : r.Hears f v)
    (hseq : f.control.datagramType.sequenced true = true)
    (hn : f.control.ackNumber = (r.virtualCircuitList v).numbers.rmtTxAckNumber) :
    BothSafe z y (r.setNumbers (.ofNumber v) (r.virtualCircuitList v).numbers.accept) q out inn := by
  obtain ⟨hw,hbetween⟩ := h.source hheard (Frame.numbered_of_sequenced hseq)
  have hsend : SameSender y r (r.setNumbers (.ofNumber v)
      (r.virtualCircuitList v).numbers.accept) := setNumbers_sender fun _ => rfl
  by_cases hvy : v = y
  · subst hvy
    have hinn : inn0 = f :: inn := by
      rw [(h.heard f rfl).2.2,if_pos hw]
    have hdata : f.isData = false := by
      cases hd : f.isData with
      | false => rfl
      | true =>
        exact absurd hn (h.takes f rfl hstate hmy (by simpa [Frame.isData] using hd) v hheard)
    have hcrosses : f.crosses v z = true := by simp [Frame.crosses,hseq,hbetween]
    unfold BothSafe
    rw [setNumbers_onAir,h.quiet,List.append_nil]
    refine ⟨?_,?_⟩
    · rw [lineOf_same hsend (.refl z q) rfl rfl]
      exact hto.pop (.refl _) h.popped
    · have hline : lineOf v z q (r.setNumbers (.ofNumber v)
            (r.virtualCircuitList v).numbers.accept) inn out = { lineOf v z q r inn0 out with
          frames := inn.filter (Frame.crosses v z)
          acks := (lineOf v z q r inn0 out).acks
          expected := (lineOf v z q r inn0 out).expected + 1
          confirmed := (lineOf v z q r inn0 out).expected
          delivered := if f.isData = true then (lineOf v z q r inn0 out).delivered ++ [f]
            else (lineOf v z q r inn0 out).delivered } := by
        simp [lineOf,setNumbers_numbers,setNumbers_delivered,AckNumbers.accept,hdata]
      rw [hline]
      exact Retransmission.Step.safe
        (.accept _ f _ _ (by simp [lineOf,hinn,hcrosses]) hn (.inl rfl)) hfrom
  · refine h.unseen hto hfrom hsend (setNumbers_receiver fun he => absurd he.symm hvy) ?_
    rw [setNumbers_onAir,h.quiet]
    simp

/-- A frame taken before is answered again. -/
theorem Passing.again {f : Frame} {v : Fin maxVc} {sent : List Frame}
    (h : Passing z y w r q i (some (.frame f)) out inn0 inn) (hy : y ≠ z)
    (hto : LineSafe (lineOf z y r q out inn0)) (hfrom : LineSafe (lineOf y z q r inn0 out))
    (hheard : r.Hears f v) (hseq : f.control.datagramType.sequenced true = true)
    (hn : f.control.ackNumber + 1 = (r.virtualCircuitList v).numbers.rmtTxAckNumber)
    (hsent : r.Answers (.ofNumber v) (r.virtualCircuitList v).numbers.rxAckNumber sent) :
    BothSafe z y (r.say sent) q out inn := by
  obtain ⟨hw,hbetween⟩ := h.source hheard (Frame.numbered_of_sequenced hseq)
  obtain ⟨hcross,hanswer⟩ := h.answered hy hsent
  have hair : (r.say sent).onAir = sent := by
    change r.onAir ++ sent = sent
    rw [h.quiet,List.nil_append]
  by_cases hvy : v = y
  · subst hvy
    have hinn : inn0 = f :: inn := by
      rw [(h.heard f rfl).2.2,if_pos hw]
    have hcrosses : f.crosses v z = true := by simp [Frame.crosses,hseq,hbetween]
    unfold BothSafe
    rw [hair]
    refine ⟨?_,?_⟩
    · change LineSafe (lineOf z v r q (out ++ sent) inn)
      have hline : lineOf z v r q (out ++ sent) inn = lineOf z v r q out inn :=
        lineOf_same (.refl v r) (.refl z q) (by simp [hcross]) rfl
      rw [hline]
      exact hto.pop (.refl _) h.popped
    · change LineSafe (lineOf v z q r inn (out ++ sent))
      have hline : lineOf v z q r inn (out ++ sent) = { lineOf v z q r inn0 out with
          frames := inn.filter (Frame.crosses v z)
          acks := (lineOf v z q r inn (out ++ sent)).acks } := rfl
      rw [hline]
      refine Retransmission.Step.safe (.duplicate _ f _ _ ?_ hn ?_) hfrom
      · simp [lineOf,hinn,hcrosses]
      · simp only [lineOf,List.filter_append,List.map_append]
        rcases hanswer with ha | ⟨_,ha⟩
        · exact .inl (by rw [ha,List.append_nil])
        · exact .inr (by rw [ha])
  · refine h.unseen hto hfrom ⟨rfl,rfl,rfl,rfl,rfl⟩ ⟨rfl,rfl,rfl⟩ ?_
    rw [hair]
    have hnone := List.map_eq_nil_iff.mp (hanswer.resolve_right fun hv => hvy hv.1)
    exact fun g hg => ⟨by simpa using List.filter_eq_nil_iff.mp hcross g hg,
      by simpa using List.filter_eq_nil_iff.mp hnone g hg⟩

theorem confirmed_filter (o : Option Frame) :
    (o.filter Frame.isData).toList.filter (Frame.dataFor y) =
      (o.filter (Frame.dataFor y)).toList := by
  cases o with
  | none => rfl
  | some f =>
    cases hd : f.isData <;> by_cases hf : f.datagram.destVc = .ofNumber y <;>
      simp [Option.filter,hd,hf,Frame.dataFor]

/-- What a DATA_ACK adds to the reports. -/
theorem confirmed_later (v : VcAddress) (past : List Action) {later : List Action}
    (hlater : later = [] ∨ ∃ a, later = [.report a true]) :
    lastStarted (later ++ .acknowledged v :: past) = lastStarted past ∧
      acknowledged (later ++ .acknowledged v :: past) = true ∧
      ((confirmed (later ++ .acknowledged v :: past)).filter (Frame.dataFor y) =
          (confirmed past).filter (Frame.dataFor y) ∨
        (confirmed (later ++ .acknowledged v :: past)).filter (Frame.dataFor y) =
          ((lastStarted past).filter (Frame.dataFor y)).toList ++
            (confirmed past).filter (Frame.dataFor y)) := by
  rcases hlater with rfl | ⟨a,rfl⟩
  · exact ⟨rfl,rfl,.inl rfl⟩
  · refine ⟨rfl,rfl,.inr ?_⟩
    rw [← confirmed_filter,← List.filter_append]
    rfl

/-- A DATA_ACK is accepted: it speaks of the last frame to `y`, or the direction
to `y` awaits none. -/
theorem Passing.acknowledge {f : Frame} {v : Fin maxVc} {later : List Action}
    (h : Passing z y w r q i (some (.frame f)) out inn0 inn)
    (hto : LineSafe (lineOf z y r q out inn0)) (hfrom : LineSafe (lineOf y z q r inn0 out))
    (hstate : r.radioState = .waitReceive ∨ r.radioState = .waitServer)
    (hheard : r.Hears f v) (ht : f.control.datagramType = .dataAck)
    (hn : f.control.ackNumber = (r.virtualCircuitList v).numbers.txAckNumber)
    (hlater : later = [] ∨ ∃ a, later = [.report a true]) :
    BothSafe z y { r.setNumbers (.ofNumber v) { (r.virtualCircuitList v).numbers with
        txAckNumber := (r.virtualCircuitList v).numbers.txAckNumber + 1 } with
      history := later ++ .acknowledged (.ofNumber v) :: r.history } q out inn := by
  have hnumbered : f.numbered = true := by simp [Frame.numbered,DatagramType.numbered,ht]
  obtain ⟨hw,hbetween⟩ := h.source hheard hnumbered
  obtain ⟨hlast,hacked,hreported⟩ := confirmed_later (y := y) (.ofNumber v) r.history hlater
  have hreceive : SameReceiver y r (r.setNumbers (.ofNumber v)
      { (r.virtualCircuitList v).numbers with
        txAckNumber := (r.virtualCircuitList v).numbers.txAckNumber + 1 }) :=
    setNumbers_receiver fun _ => ⟨rfl,rfl⟩
  have hreceive' : SameReceiver y r { r.setNumbers (.ofNumber v)
      { (r.virtualCircuitList v).numbers with
        txAckNumber := (r.virtualCircuitList v).numbers.txAckNumber + 1 } with
      history := later ++ .acknowledged (.ofNumber v) :: r.history } :=
    ⟨hreceive.expected,hreceive.confirmed,hreceive.delivered⟩
  unfold BothSafe
  rw [setNumbers_onAir,h.quiet,List.append_nil]
  refine ⟨?_,?_⟩
  · have hsame := hto.pop (.refl out) h.popped
    by_cases hvy : v = y
    · subst hvy
      have hinn : inn0 = f :: inn := by
        rw [(h.heard f rfl).2.2,if_pos hw]
      have hanswers : f.answers v z = true := by simp [Frame.answers,ht,hbetween]
      refine Retransmission.Step.safe ?_ hto
      have hline : lineOf z v { r.setNumbers (.ofNumber v)
            { (r.virtualCircuitList v).numbers with
              txAckNumber := (r.virtualCircuitList v).numbers.txAckNumber + 1 } with
            history := later ++ .acknowledged (.ofNumber v) :: r.history } q out inn =
          { lineOf z v r q out inn0 with
            next := (lineOf z v r q out inn0).next + 1
            acks := (lineOf z v r q out inn).acks
            kept := (lineOf z v r q out inn0).kept
            reported := (confirmed (later ++ .acknowledged (.ofNumber v) :: r.history)).filter
              (Frame.dataFor v)
            answered := true } := by
        rw [setNumbers_ofNumber]
        simp [lineOf,hlast,hacked]
      rw [hline]
      refine .acknowledge _ _ _ _ ?_ (.inl rfl) hreported
      simp [lineOf,hinn,hanswers,Frame.number,hn]
    · refine Retransmission.Step.safe ?_ hsame
      have hline : lineOf z y { r.setNumbers (.ofNumber v)
            { (r.virtualCircuitList v).numbers with
              txAckNumber := (r.virtualCircuitList v).numbers.txAckNumber + 1 } with
            history := later ++ .acknowledged (.ofNumber v) :: r.history } q out inn =
          { lineOf z y r q out inn with
            kept := (lineOf z y r q out inn).kept
            reported := (confirmed (later ++ .acknowledged (.ofNumber v) :: r.history)).filter
              (Frame.dataFor y)
            answered := true } := by
        rw [setNumbers_ofNumber]
        simp [lineOf,hlast,hacked,Function.update_of_ne (Ne.symm hvy)]
      rw [hline]
      refine .repeated _ _ _ ?_ (.inl rfl) hreported
      rintro ⟨hsome,hopen⟩
      obtain ⟨g,hg⟩ := Option.isSome_iff_exists.mp hsome
      obtain ⟨hg,hfor⟩ := Option.filter_eq_some_iff.mp hg
      simp only [Frame.dataFor,Bool.and_eq_true,beq_iff_eq] at hfor
      have hdest := h.acks f rfl hstate ht v hheard hn hopen g
        (Option.filter_eq_some_iff.mpr ⟨hg,hfor.1⟩)
      exact hvy (VcAddress.ofNumber_inj (hdest.symm.trans hfor.2))
  · rw [lineOf_same (.refl z q) hreceive' rfl rfl]
    exact hfrom.pop h.popped (.refl _)

/-- SYNC_ACKS or ZERO_ACKS zeroes the numbers of one circuit. -/
theorem Passing.zero {f : Frame} {v : Fin maxVc}
    (h : Passing z y w r q i (some (.frame f)) out inn0 inn)
    (hto : LineSafe (lineOf z y r q out inn0)) (hfrom : LineSafe (lineOf y z q r inn0 out))
    (hstate : r.radioState = .waitReceive) (hheard : r.Hears f v)
    (ht : (f.control.datagramType = .vcSyncAcks ∧ i.transmit.result = true) ∨
      f.control.datagramType = .vcZeroAcks) :
    BothSafe z y (r.setNumbers (.ofNumber v) .zero) q out inn := by
  by_cases hvy : v = y
  · subst hvy
    obtain ⟨htx,hrx⟩ := h.zeros f rfl hstate ht hheard
    have hzero : ((r.setNumbers (.ofNumber v) .zero).virtualCircuitList v).numbers = .zero := by
      rw [setNumbers_numbers,if_pos rfl]
    unfold BothSafe
    rw [setNumbers_onAir,h.quiet,List.append_nil]
    refine ⟨?_,?_⟩
    · have hline : lineOf z v (r.setNumbers (.ofNumber v) .zero) q out inn0 =
          { lineOf z v r q out inn0 with next := 0 } := by
        rw [setNumbers_ofNumber]
        simp [lineOf,AckNumbers.zero]
      have hsafe := Retransmission.Step.safe (.zeroTx _ htx) hto
      rw [← hline] at hsafe
      exact LineSafe.pop hsafe (.refl _) h.popped
    · have hline : lineOf v z q (r.setNumbers (.ofNumber v) .zero) inn0 out =
          { lineOf v z q r inn0 out with expected := 0, confirmed := 0 } := by
        rw [setNumbers_ofNumber]
        simp [lineOf,AckNumbers.zero]
      have hsafe := Retransmission.Step.safe (.zeroRx _ hrx) hfrom
      rw [← hline] at hsafe
      exact LineSafe.pop hsafe h.popped (.refl _)
  · refine h.unseen hto hfrom (setNumbers_sender fun he => absurd he.symm hvy)
      (setNumbers_receiver fun he => absurd he.symm hvy) ?_
    rw [setNumbers_onAir,h.quiet]
    simp

/-- A pass keeps both directions between two radios safe. -/
theorem Passing.core (h : Passing z y w r q i p out inn0 inn) (hy : y ≠ z)
    (hto : LineSafe (lineOf z y r q out inn0)) (hfrom : LineSafe (lineOf y z q r inn0 out))
    {s : Radio} (hcore : Core r i p s) : BothSafe z y s q out inn := by
  cases hcore with
  | nothing =>
    refine h.unseen hto hfrom (.refl y r) (.refl y r) ?_
    rw [h.quiet]
    simp
  | leaves m hm =>
    refine h.unseen hto hfrom ⟨rfl,rfl,rfl,rfl,rfl⟩ ⟨rfl,rfl,rfl⟩ ?_
    change ∀ f ∈ r.onAir, _
    rw [h.quiet]
    simp
  | starts f d sent hstate hstart hseq hdest hsrc hn hserial hsent =>
    exact h.start hto hfrom hstate hstart hseq hdest hsrc hn hserial hsent
  | resends hon => exact h.resend hto hfrom hon
  | takes f v sent hheard hseq hn hsent => exact h.take hy hto hfrom hheard hseq hn hsent
  | drops f v hstate hmy hheard hseq hn => exact h.drop hto hfrom hstate hmy hheard hseq hn
  | repeats f v sent hheard hseq hn hsent => exact h.again hy hto hfrom hheard hseq hn hsent
  | acked f v later hstate hheard ht hn hlater =>
    exact h.acknowledge hto hfrom (hstate.imp_right And.left) hheard ht hn hlater
  | zeros f v hstate hheard ht => exact h.zero hto hfrom hstate hheard ht
  | stranger f s hnumbered hsrc hdest =>
    obtain ⟨hw,hfrom',_⟩ := h.heard f rfl
    obtain ⟨hown,_⟩ := (hfrom' hnumbered).heard hw h.addressed hdest
    exact absurd (hown.symm.trans hsrc) (ofNumber_ne_unassigned w)

/-- An answer to a numbered frame is a frame of the radio's own. -/
theorem Passing.answers_own {f g : Frame} {v : Fin maxVc} {n : AckNumber} {sent : List Frame}
    (h : Passing z y w r q i (some (.frame f)) out inn0 inn) (hheard : r.Hears f v)
    (hseq : f.control.datagramType.sequenced true = true)
    (hsent : r.Answers (.ofNumber v) n sent) (hg : g ∈ sent) : g.From z := by
  obtain ⟨_,hbetween⟩ := h.source hheard (Frame.numbered_of_sequenced hseq)
  have hmy : r.myVc = .ofNumber z := by
    have hdest : f.datagram.destVc = .ofNumber z := by
      simp only [Frame.between,Bool.and_eq_true,beq_iff_eq] at hbetween
      exact hbetween.1.1.2
    rcases hheard.destVc with hb | hd
    · exact absurd (hdest.symm.trans hb) (ofNumber_ne_broadcast z)
    · exact hd.symm.trans hdest
  rcases hsent with rfl | ⟨g',rfl,_,hg'⟩
  · simp at hg
  obtain rfl : g = g' := by simpa using hg
  rcases hg' with ⟨hd,_⟩ | ⟨m,hm,hd⟩
  · exact .inl (by rw [hd]; exact ⟨hmy,v,rfl⟩)
  · exact .inr (hd ▸ h.owned.unsent m hm)

/-- A pass keeps what the radio has its own, and only its own numbered frames go
on the air. -/
theorem Passing.owned_core (h : Passing z y w r q i p out inn0 inn) {s : Radio}
    (hcore : Core r i p s) :
    s.Owned z ∧ ∀ f ∈ s.onAir, f.numbered = true → f.From z := by
  have hset : ∀ v n, (r.setNumbers (.ofNumber v) n).Owned z := by
    intro v n
    rw [setNumbers_ofNumber]
    exact ⟨h.owned.messages,h.owned.unsent,h.owned.sequenced,h.owned.rexmt⟩
  have hnone : ∀ v n, ∀ f ∈ (r.setNumbers (.ofNumber v) n).onAir, f.numbered = true → f.From z := by
    intro v n
    rw [setNumbers_onAir,h.quiet]
    simp
  have hquiet : ∀ f ∈ r.onAir, f.numbered = true → f.From z := by
    rw [h.quiet]
    simp
  cases hcore with
  | nothing => exact ⟨h.owned,hquiet⟩
  | leaves m hm =>
    refine ⟨⟨h.owned.messages,?_,h.owned.sequenced,h.owned.rexmt⟩,hquiet⟩
    intro m' hm'
    obtain rfl : m = m' := by simpa [Radio.setUnsent] using hm'
    exact hm.own h.addressed
  | starts f d sent hstate hstart hseq hdest hsrc hn hserial hsent =>
    obtain ⟨hmy,v,hv,_⟩ := h.starts rfl hstate _ hstart
    have hown : f.From z :=
      .inl ⟨hsrc.trans (starting_srcVc h.owned hstart hmy),v,hdest.trans hv⟩
    refine ⟨⟨h.owned.messages,h.owned.unsent,fun _ => hseq,fun _ => hown⟩,?_⟩
    intro g hg _
    change g ∈ r.onAir ++ sent at hg
    rw [h.quiet,List.nil_append] at hg
    rcases hsent with rfl | rfl
    · simp at hg
    · obtain rfl : g = f := by simpa using hg
      exact hown
  | resends hon =>
    refine ⟨⟨h.owned.messages,h.owned.unsent,h.owned.sequenced,h.owned.rexmt⟩,?_⟩
    intro g hg _
    change g ∈ r.onAir ++ [r.rexmt.frame] at hg
    rw [h.quiet] at hg
    obtain rfl : g = r.rexmt.frame := by simpa using hg
    exact h.owned.rexmt hon
  | takes f v sent hheard hseq hn hsent =>
    have hkept : ∀ u : Radio, u.Owned z → ((u.deliver (.frame f)).say sent).Owned z :=
      fun u hu => ⟨hu.messages,hu.unsent,hu.sequenced,hu.rexmt⟩
    refine ⟨hkept _ (hset v _),?_⟩
    intro g hg
    change g ∈ (r.setNumbers _ _).onAir ++ sent at hg
    rw [setNumbers_onAir,h.quiet,List.nil_append] at hg
    exact fun _ => h.answers_own hheard hseq hsent hg
  | drops f v hstate hmy hheard hseq hn => exact ⟨hset _ _,hnone _ _⟩
  | repeats f v sent hheard hseq hn hsent =>
    refine ⟨⟨h.owned.messages,h.owned.unsent,h.owned.sequenced,h.owned.rexmt⟩,?_⟩
    intro g hg
    change g ∈ r.onAir ++ sent at hg
    rw [h.quiet,List.nil_append] at hg
    exact fun _ => h.answers_own hheard hseq hsent hg
  | acked f v later hstate hheard ht hn hlater =>
    have hown := hset v { (r.virtualCircuitList v).numbers with
      txAckNumber := (r.virtualCircuitList v).numbers.txAckNumber + 1 }
    exact ⟨⟨hown.messages,hown.unsent,hown.sequenced,hown.rexmt⟩,hnone v _⟩
  | zeros f v hstate hheard ht => exact ⟨hset _ _,hnone _ _⟩
  | stranger f s hnumbered hsrc hdest =>
    obtain ⟨hw,hfrom',_⟩ := h.heard f rfl
    obtain ⟨hown,_⟩ := (hfrom' hnumbered).heard hw h.addressed hdest
    exact absurd (hown.symm.trans hsrc) (ofNumber_ne_unassigned w)

end Passing

/-- What holds of a network after every clear run. -/
structure Network.Orderly (n : Network) : Prop where
  quiet : ∀ x, (n.radio x).onAir = []
  self : ∀ x, n.air x x = []
  air : ∀ x y, ∀ f ∈ n.air x y, f.numbered = true → f.From x
  owned : ∀ x, (n.radio x).Owned x
  lines : ∀ x y, x ≠ y → LineSafe (n.line x y)

/-- Frames that are lost, or popped by a receiver. -/
theorem Network.Orderly.lose {n n' : Network} (h : n.Orderly) (hradio : n'.radio = n.radio)
    (hair : ∀ x y, (n'.air x y).Sublist (n.air x y)) : n'.Orderly where
  quiet := hradio ▸ h.quiet
  self x := List.sublist_nil.mp (h.self x ▸ hair x x)
  air x y f hf := h.air x y f ((hair x y).subset hf)
  owned := hradio ▸ h.owned
  lines x y hxy := by
    unfold Network.line
    rw [hradio]
    exact (h.lines x y hxy).pop (hair x y) (hair y x)

theorem Network.Orderly.act {n : Network} (h : n.Orderly) {z : Fin maxVc} {e : Event}
    (howned : (step (n.radio z) e).Owned z)
    (hsaid : ∀ f ∈ (step (n.radio z) e).onAir, f.numbered = true → f.From z)
    (hboth : ∀ y, y ≠ z → BothSafe z y (step (n.radio z) e) (n.radio y) (n.air z y) (n.air y z)) :
    (n.act z e).Orderly := by
  unfold Network.act
  generalize step (n.radio z) e = r at howned hsaid hboth
  refine ⟨?_,?_,?_,?_,?_⟩
  · intro x
    by_cases hx : x = z
    · simp [hx,Radio.hush]
    · simpa [Function.update_of_ne hx] using h.quiet x
  · intro x
    by_cases hx : x = z
    · simpa [hx] using h.self z
    · simpa [Function.update_of_ne hx] using h.self x
  · intro x y f hf
    by_cases hx : x = z
    · subst hx
      simp only [Function.update_self] at hf
      split at hf
      · exact h.air x y f hf
      · rcases List.mem_append.mp hf with hf | hf
        · exact h.air x y f hf
        · exact hsaid f hf
    · simp only [Function.update_of_ne hx] at hf
      exact h.air x y f hf
  · intro x
    by_cases hx : x = z
    · subst hx
      simp only [Function.update_self]
      exact ⟨howned.messages,howned.unsent,howned.sequenced,howned.rexmt⟩
    · simpa [Function.update_of_ne hx] using h.owned x
  · intro x y hxy
    unfold Network.line
    by_cases hx : x = z
    · subst hx
      have hy : y ≠ x := hxy.symm
      simpa [Function.update_of_ne hy,hy] using (hboth y hy).1
    · by_cases hy : y = z
      · subst hy
        simpa [Function.update_of_ne hx,hx] using (hboth x hx).2
      · have hline := h.lines x y hxy
        unfold Network.line at hline
        simpa [Function.update_of_ne hx,Function.update_of_ne hy] using hline

/-- The state before a pass, as both directions see it. -/
theorem Network.Orderly.both {n : Network} (h : n.Orderly) {z y : Fin maxVc} (hy : y ≠ z) :
    BothSafe z y (n.radio z) (n.radio y) (n.air z y) (n.air y z) := by
  unfold BothSafe
  rw [h.quiet z,List.append_nil]
  exact ⟨h.lines z y hy.symm,h.lines y z hy⟩

/-- A step during which a radio stays calm. -/
theorem Network.Orderly.calm {n : Network} (h : n.Orderly) {z : Fin maxVc} {e : Event}
    (hcalm : Calm (n.radio z) (step (n.radio z) e)) : (n.act z e).Orderly := by
  refine h.act (hcalm.owned (h.owned z)) ?_ fun y hy => hcalm.bothSafe (h.both hy)
  intro f hf hnumbered
  have hmem : f ∈ (step (n.radio z) e).onAir.filter Frame.numbered :=
    List.mem_filter.mpr ⟨hf,hnumbered⟩
  rw [hcalm.onAir,h.quiet z] at hmem
  simp at hmem

/-- A clear pass of radio `z`, which has popped what it hears from radio `w`. -/
theorem Network.Orderly.pass {n n' : Network} (h : n.Orderly) (hradio : n'.radio = n.radio)
    (hair : ∀ x y, (n'.air x y).Sublist (n.air x y)) {z w : Fin maxVc} {p : Option Reception}
    {i : Inputs}
    (hpass : (n.radio z).atLinkCheck = false → (n.radio z).radioState ≠ .reset →
      ∀ y, y ≠ z → Passing z y w (n.radio z) (n.radio y) i p (n.air z y) (n.air y z) (n'.air y z))
    (hout : ∀ y, n'.air z y = n.air z y) : (n'.act z (.pass p i)).Orderly := by
  have h' := h.lose hradio hair
  cases hcheck : (n.radio z).atLinkCheck with
  | true =>
    refine h'.calm ?_
    rw [hradio,step_pass,if_neg (by simp [hcheck])]
    exact .refl _
  | false =>
    by_cases hreset : (n.radio z).radioState = .reset
    · refine h'.calm ?_
      rw [hradio,step_pass,if_pos hcheck]
      exact reset_calm hreset p i
    · have hpass := hpass hcheck hreset
      have hstep : step (n'.radio z) (.pass p i) = updateRadioState (n.radio z) p i := by
        rw [hradio,step_pass,if_pos hcheck]
      obtain ⟨s,hcore,hcalm⟩ := updateRadioState_effect (n.radio z) p i
      obtain ⟨y,hy⟩ : ∃ y, y ≠ z := exists_ne z
      obtain ⟨howned,hsaid⟩ := (hpass y hy).owned_core hcore
      refine h'.act ?_ ?_ ?_
      · rw [hstep]
        exact hcalm.owned howned
      · intro f hf hnumbered
        rw [hstep] at hf
        have hmem : f ∈ (updateRadioState (n.radio z) p i).onAir.filter Frame.numbered :=
          List.mem_filter.mpr ⟨hf,hnumbered⟩
        rw [hcalm.onAir] at hmem
        exact hsaid f (List.mem_filter.mp hmem).1 hnumbered
      · intro y hy
        rw [hstep,hradio,hout]
        exact hcalm.bothSafe ((hpass y hy).core hy (h.lines z y hy.symm) (h.lines y z hy) hcore)

/-- Everything but what a pass hears is the same for all passes. -/
theorem Network.Orderly.passing {n : Network} (h : n.Orderly) {z y : Fin maxVc} (hy : y ≠ z)
    (haddressed : n.Addressed z) {i : Inputs} {p : Option Reception}
    (hp : ∀ f, p ≠ some (.frame f)) (hstarts : p = none → n.StartsClear z i) :
    Passing z y z (n.radio z) (n.radio y) i p (n.air z y) (n.air y z) (n.air y z) where
  quiet := h.quiet z
  owned := h.owned z
  addressed := haddressed
  silent _ := rfl
  heard f hf := absurd hf (hp f)
  starts hn hstate u hu := by
    obtain ⟨hmy,v,hv,hclear⟩ := hstarts hn hstate u hu
    exact ⟨hmy,v,hv,fun hd hvy => hvy ▸ hclear hd (hvy ▸ hy)⟩
  takes f hf := absurd hf (hp f)
  acks f hf := absurd hf (hp f)
  zeros f hf := absurd hf (hp f)

theorem Network.setAir_air (n : Network) (s x a b : Fin maxVc) (frames : List Frame) :
    (n.setAir s x frames).air a b = if a = s ∧ b = x then frames else n.air a b := by
  unfold Network.setAir
  by_cases ha : a = s
  · subst ha
    by_cases hb : b = x
    · subst hb
      simp
    · simp [hb]
  · simp [ha]

theorem Network.setAir_sublist (n : Network) (s x : Fin maxVc) {frames : List Frame}
    (hframes : frames.Sublist (n.air s x)) (a b : Fin maxVc) :
    ((n.setAir s x frames).air a b).Sublist (n.air a b) := by
  rw [n.setAir_air]
  split
  next hab => exact hab.1 ▸ hab.2 ▸ hframes
  · exact .refl _

/-- Radio `x` hears the oldest frame from radio `s`. -/
theorem Network.Orderly.receive {n : Network} (h : n.Orderly) {x s : Fin maxVc} {i : Inputs}
    {f : Frame} {rest : List Frame} (hair : n.air s x = f :: rest)
    (hclear : n.Clear (.pass x (.received s) i)) :
    ((n.setAir s x rest).act x (.pass (some (.frame f)) i)).Orderly := by
  have hs : s ≠ x := by
    rintro rfl
    simp [h.self s] at hair
  have hrest : rest.Sublist (n.air s x) := by
    rw [hair]
    exact List.sublist_cons_self f rest
  have hradio : (n.setAir s x rest).radio = n.radio := rfl
  refine h.pass (w := s) hradio (n.setAir_sublist s x hrest) ?_ ?_
  · intro hcheck hreset y hy
    obtain ⟨haddressed,hpass⟩ := hclear hcheck hreset
    obtain ⟨htakes,hacks,hzeros⟩ := hpass f (by simp [hair])
    refine ⟨h.quiet x,h.owned x,haddressed,fun hf => absurd rfl (hf f),?_,by simp,?_,?_,?_⟩
    · intro g hg
      obtain rfl : f = g := by simpa using hg
      refine ⟨hs,h.air s x f (by simp [hair]),?_⟩
      rw [n.setAir_air]
      by_cases hsy : s = y
      · subst hsy
        simp [hair]
      · simp [hsy,Ne.symm hsy]
    all_goals
      intro g hg
      obtain rfl : f = g := by simpa using hg
    · exact htakes
    · exact hacks
    · exact fun hstate ht hheard => hzeros hstate ht y hheard hy
  · intro y
    rw [n.setAir_air,if_neg fun hc => hs hc.1.symm]

/-- A host message waits for transmission. -/
theorem Network.Orderly.queue {n : Network} (h : n.Orderly) {x : Fin maxVc}
    {destVc srcVc : VcAddress} {data : List UInt8}
    (hclear : n.Clear (.hostMessage x destVc srcVc data)) :
    (n.act x (.hostMessage destVc srcVc data)).Orderly := by
  have hstep : step (n.radio x) (.hostMessage destVc srcVc data) = n.radio x ∨
      ((n.radio x).atLinkCheck = false ∧ srcVc = (n.radio x).myVc ∧
        (n.radio x).myVc ≠ vcUnassigned ∧
        step (n.radio x) (.hostMessage destVc srcVc data) =
          (n.radio x).setRadioTxBuffer
            ((n.radio x).radioTxBuffer ++ [.build destVc srcVc data])) := by
    unfold step
    cases hcheck : (n.radio x).atLinkCheck with
    | true => exact .inl rfl
    | false =>
      dsimp only
      split
      · unfold hostMessage
        split
        · exact .inl rfl
        next hsrc =>
        obtain ⟨hsrc,hmy⟩ := not_or.mp hsrc
        split
        · exact .inl rfl
        · exact .inr ⟨rfl,not_not.mp hsrc,hmy,rfl⟩
      · exact .inl rfl
  rcases hstep with hsame | ⟨hcheck,hsrc,hmy,hqueue⟩
  · refine h.calm ?_
    rw [hsame]
    exact .refl _
  · have hown : srcVc = .ofNumber x := hsrc.trans ((hclear hcheck).resolve_right hmy)
    refine h.act ?_ ?_ ?_
    · rw [hqueue]
      refine ⟨fun m hm => ?_,(h.owned x).unsent,(h.owned x).sequenced,(h.owned x).rexmt⟩
      rcases List.mem_append.mp hm with hm | hm
      · exact (h.owned x).messages m hm
      · rw [List.mem_singleton.mp hm]
        exact hown
    · rw [hqueue]
      change ∀ f ∈ (n.radio x).onAir, _
      rw [h.quiet x]
      simp
    · intro y hy
      rw [hqueue]
      exact h.both hy

theorem Network.Orderly.advance {n : Network} {e : NetworkEvent} (h : n.Orderly)
    (hclear : n.Clear e) : (n.advance e).Orderly := by
  cases e with
  | pass x heard i =>
    cases heard with
    | nothing =>
      refine h.pass (w := x) rfl (fun _ _ => .refl _) ?_ fun _ => rfl
      intro hcheck hreset y hy
      obtain ⟨haddressed,hstarts⟩ := hclear hcheck hreset
      exact h.passing hy haddressed (by simp) fun _ => hstarts
    | finished d =>
      refine h.pass (w := x) rfl (fun _ _ => .refl _) ?_ fun _ => rfl
      intro hcheck hreset y hy
      exact h.passing hy (hclear hcheck hreset).1 (by simp) (by simp)
    | received s =>
      unfold Network.advance
      dsimp only
      split
      · exact h
      next hair => exact h.receive hair hclear
  | linkCheck x now limit =>
    refine h.calm ?_
    unfold step
    cases (n.radio x).atLinkCheck with
    | true => exact (linkCheck_calm _ now limit).trans (setAtLinkCheck_keeps _ false).calm
    | false => exact .refl _
  | command x c =>
    refine h.calm ?_
    unfold step
    cases (n.radio x).atLinkCheck with
    | true => exact .refl _
    | false => exact checkCommand_calm _ c
  | hostMessage x destVc srcVc data => exact h.queue hclear
  | lose s x k => exact h.lose rfl (n.setAir_sublist s x (List.eraseIdx_sublist ..))

theorem Network.Start.orderly {n : Network} (h : n.Start) : n.Orderly where
  quiet := h.onAir
  self x := h.air x x
  air x y f hf := by simp [h.air x y] at hf
  owned x := ⟨by simp [h.radioTxBuffer x],by simp [h.unsent x],by simp [h.ackTimer x],
    by simp [h.ackTimer x]⟩
  lines x y _ := by
    constructor <;>
      simp [Network.line,lineOf,Line.outstanding,h.air,h.ackTimer,h.delivered,h.history,
        confirmed,lastStarted,acknowledged]

theorem Network.Orderly.delivered {n : Network} (h : n.Orderly) : n.Delivered := by
  intro x y f hxy hf hdest
  have hdata : ∀ past, f ∈ confirmed past → f.isData = true := by
    intro past
    induction past with
    | nil => simp [confirmed]
    | cons a past ih =>
      intro hmem
      cases a with
      | report _ b =>
        cases b with
        | false => exact ih hmem
        | true =>
          rcases List.mem_append.mp hmem with hlast | hmem
          · exact (Option.filter_eq_some_iff.mp (Option.mem_toList.mp hlast)).2
          · exact ih hmem
      | _ => exact ih hmem
  have hfor : f ∈ (n.line x y).reported := by
    refine List.mem_filter.mpr ⟨hf,?_⟩
    simp [Frame.dataFor,hdata _ hf,hdest]
  have hcount := (h.lines x y hxy).reported_once hfor
  have hmem := (h.lines x y hxy).reported f hfor
  change (List.filter _ _).count f = 1 at hcount
  rwa [List.count_filter (List.mem_filter.mp hmem).2] at hcount

/-- In every run of a network whose steps are all clear, PC_DATA_ACK speaks only
of messages that their destination has delivered, each exactly once. -/
theorem run_delivered {n : Network} (h : n.Start) {es : List NetworkEvent}
    (hclear : Along Network.advance Network.Clear n es) :
    (run Network.advance n es).Delivered :=
  (invariant (fun _ _ hn he => Network.Orderly.advance hn he) h.orderly hclear).delivered

def Network.powerUp : Network where
  radio x := { Radio.powerUp with myUniqueId := List.replicate 16 (UInt8.ofNat (0xA0 + x)) }
  air _ _ := []

theorem Network.powerUp_start : Network.powerUp.Start where
  air _ _ := rfl
  history _ := rfl
  delivered _ := rfl
  ackTimer _ := rfl
  radioTxBuffer _ := rfl
  unsent _ := rfl
  onAir _ := rfl

def Inputs.of (x : Fin maxVc) : Inputs := { Inputs.idle with server := x == 0 }

/-- A pass that ends in a transmission, its link check and the end of the
transmission. -/
def transmits (x : Fin maxVc) (i : Inputs) : List NetworkEvent :=
  [.pass x .nothing i,.linkCheck x 0 3000,.pass x (.finished .bad) (.of x)]

def receives (x s : Fin maxVc) : List NetworkEvent :=
  [.pass x (.received s) (.of x),.linkCheck x 0 3000]

/-- A frame that is received and answered at once. -/
def replies (x s : Fin maxVc) : List NetworkEvent :=
  receives x s ++ [.pass x (.finished .bad) (.of x)]

/-- The client hears the server's heartbeat, sends its own and gets address 1. -/
def joins : List NetworkEvent :=
  transmits 1 (.of 1) ++ [.lose 1 0 0,.lose 1 0 0] ++ transmits 0 (.of 0) ++
    receives 1 0 ++ receives 1 0 ++ transmits 1 { Inputs.of 1 with heartbeatTimeout := true } ++
    replies 0 1 ++ receives 1 0

/-- UNKNOWN_ACKS, SYNC_ACKS, and ZERO_ACKS on its way to the server. -/
def connects : List NetworkEvent :=
  [.command 1 .connect] ++ transmits 1 (.of 1) ++ replies 0 1 ++ replies 1 0

/-- One byte for the server, and DATA_ACK on its way to the client. -/
def sends : List NetworkEvent :=
  [.hostMessage 1 0 1 [0x41]] ++ transmits 1 (.of 1) ++ replies 0 1

theorem run_delivered_exchange :
    (run Network.advance .powerUp
      (joins ++ connects ++ receives 0 1 ++ sends ++ receives 1 0)).Delivered ∧
    (confirmed ((run Network.advance .powerUp
      (joins ++ connects ++ receives 0 1 ++ sends ++ receives 1 0)).radio 1).history).length = 1 :=
  ⟨run_delivered Network.powerUp_start (by decide +kernel),by decide +kernel⟩

/-- ZERO_ACKS and DATA_ACK are lost, the server repeats SYNC_ACKS, and the
client its ZERO_ACKS and its message. -/
def repeatsHandshake : List NetworkEvent :=
  [.lose 1 0 0] ++ sends ++ [.lose 0 1 0] ++
    transmits 0 { Inputs.of 0 with handshakeTimeout := true } ++ replies 1 0 ++ receives 0 1 ++
    transmits 1 { Inputs.of 1 with retransmitTimeout := true } ++ replies 0 1 ++ receives 1 0

/-- The server zeroes its numbers between the two copies of the message and
takes both. -/
theorem message_delivered_twice :
    ¬ (run Network.advance .powerUp (joins ++ connects ++ repeatsHandshake)).Delivered := by
  intro h
  have hconfirmed : (⟨⟨.data,0,false,false⟩,⟨4,0,1,[0x41]⟩,5⟩ : Frame) ∈
      confirmed ((run Network.advance .powerUp
        (joins ++ connects ++ repeatsHandshake)).radio 1).history := by
    decide +kernel
  have hcount : ((run Network.advance .powerUp
      (joins ++ connects ++ repeatsHandshake)).radio 0).delivered.count
        ⟨⟨.data,0,false,false⟩,⟨4,0,1,[0x41]⟩,5⟩ = 2 := by
    decide +kernel
  have hone := h 1 0 _ (by decide) hconfirmed rfl
  exact absurd (hcount.symm.trans hone) (by decide)

end LoRaSerial.VC
