import Mathlib.Data.List.Nodup
import Mathlib.Data.Int.Cast.Defs
import Mathlib.Algebra.Group.Basic
import Mathlib.Algebra.NeZero

namespace Retransmission

/-- One direction between two stations over queues that lose frames but keep
their order: the sender's number, the copy it may send again, the last user frame
it started and whether an acknowledgement came since; the receiver's two numbers
and what it delivered; what was reported to the sender's user. `clock` is later
than every frame of this sender. -/
structure Line (N P : Type*) where
  next : N
  kept : Option P
  last : Option P
  answered : Bool
  reported : List P
  clock : Nat
  frames : List P
  acks : List N
  expected : N
  confirmed : N
  delivered : List P

variable {N P : Type*} [AddGroupWithOne N] (number : P → N) (stamp : P → Nat)
  (user : P → Prop)

/-- What may still reach the receiver. -/
def Line.outstanding (d : Line N P) : List P := d.frames ++ d.kept.toList

/-- The last user frame has no acknowledgement yet. -/
def Line.Awaits (d : Line N P) : Prop := d.last.isSome = true ∧ d.answered = false

/-- The last user frame is delivered. -/
def Line.Settled (d : Line N P) : Prop := ∀ p ∈ d.last, p ∈ d.delivered

/-- The next number is not in use: it is on neither queue, and nothing will be
acknowledged with it as a duplicate. -/
def Line.Startable (d : Line N P) : Prop :=
  d.next ∉ d.acks ∧ (∀ p ∈ d.frames, number p ≠ d.next) ∧
    (d.confirmed = d.next → d.next + 1 ≠ d.expected ∧
      ∀ p ∈ d.frames, number p + 1 ≠ d.expected)

/-- The sender may start again from zero: it awaits nothing, or no old frame or
acknowledgement answers to number zero. -/
def Line.ZeroableTx (d : Line N P) : Prop :=
  d.next = 0 ∨ ¬ d.Awaits ∨ (0 ∉ d.acks ∧ ∀ p ∈ d.outstanding,
    number p ≠ 0 ∧ (d.confirmed = 0 → number p + 1 ≠ d.expected))

/-- The receiver may start again from zero: no copy of a frame number zero that
it took is left, and none that it would take for a duplicate. -/
def Line.ZeroableRx (d : Line N P) : Prop :=
  (d.expected = 0 ∧ d.confirmed = 0) ∨
    ((d.expected = 1 → ∀ p ∈ d.outstanding, user p → number p ≠ 0) ∧
      (d.next = 0 → d.Awaits → ∀ p ∈ d.outstanding, number p + 1 ≠ 0))

section Decidable

variable [DecidableEq N]

instance (d : Line N P) : Decidable d.Awaits := inferInstanceAs (Decidable (_ ∧ _))

instance (d : Line N P) : Decidable (d.Startable number) :=
  inferInstanceAs (Decidable (_ ∧ _ ∧ _))

instance (d : Line N P) : Decidable (d.ZeroableTx number) :=
  inferInstanceAs (Decidable (_ ∨ _ ∨ _))

instance [DecidablePred user] (d : Line N P) : Decidable (d.ZeroableRx number user) :=
  inferInstanceAs (Decidable (_ ∨ _))

end Decidable

/-- What a single event may do to one direction. -/
inductive Step [DecidablePred user] : Line N P → Line N P → Prop
  | rest (d) (frames acks kept clock) (hf : frames.Sublist d.frames)
      (ha : acks.Sublist d.acks) (hk : kept = d.kept ∨ kept = none)
      (hc : d.clock ≤ clock) : Step d { d with frames, acks, kept, clock }
  | abandon (d) (clock) (hc : d.clock ≤ clock) :
      Step d { d with last := none, answered := false, kept := none, clock }
  | start (d) (p : P) (sent : List P) (kept : Option P) (hn : number p = d.next)
      (ht : stamp p = d.clock) (hs : sent = [] ∨ sent = [p])
      (hk : kept = none ∨ kept = some p) (hok : user p → d.Startable number) :
      Step d { d with last := if user p then some p else none, answered := false, kept,
                      frames := d.frames ++ sent, clock := d.clock + 1 }
  | resend (d) (p : P) (h : d.kept = some p) : Step d { d with frames := d.frames ++ [p] }
  | accept (d) (p : P) (frames acks) (h : d.frames = p :: frames)
      (hn : number p = d.expected) (ha : acks = d.acks ∨ acks = d.acks ++ [d.expected]) :
      Step d { d with frames, acks, expected := d.expected + 1, confirmed := d.expected,
                      delivered := if user p then d.delivered ++ [p] else d.delivered }
  | duplicate (d) (p : P) (frames acks) (h : d.frames = p :: frames)
      (hn : number p + 1 = d.expected) (ha : acks = d.acks ∨ acks = d.acks ++ [d.confirmed]) :
      Step d { d with frames, acks }
  | acknowledge (d) (acks kept reported) (h : d.acks = d.next :: acks)
      (hk : kept = d.kept ∨ kept = none)
      (hr : reported = d.reported ∨ reported = d.last.toList ++ d.reported) :
      Step d { d with next := d.next + 1, acks, kept, reported, answered := true }
  | repeated (d) (kept reported) (h : ¬ d.Awaits) (hk : kept = d.kept ∨ kept = none)
      (hr : reported = d.reported ∨ reported = d.last.toList ++ d.reported) :
      Step d { d with kept, reported, answered := true }
  | zeroTx (d) (h : d.ZeroableTx number) : Step d { d with next := 0 }
  | zeroRx (d) (h : d.ZeroableRx number user) : Step d { d with expected := 0, confirmed := 0 }

/-- Nothing is delivered twice, and no acknowledgement that the sender would
take can come before its frame is delivered. -/
structure Safe (d : Line N P) : Prop where
  ordered : d.outstanding.Pairwise fun p q => p = q ∨ (stamp p < stamp q ∧ q ∉ d.delivered)
  taken : ∀ p ∈ d.outstanding, p ∈ d.delivered →
    number p + 1 = d.expected ∨ (d.expected = 0 ∧ number p ≠ 0)
  once : d.delivered.Nodup
  reported : ∀ p ∈ d.reported, p ∈ d.delivered
  answered : d.answered = true → d.Settled
  ackWaits : d.next ∈ d.acks → d.Settled
  duplicates : ∀ p ∈ d.outstanding, number p + 1 = d.expected → d.confirmed = d.next → d.Settled
  current : ∀ p ∈ d.outstanding, number p = d.next → d.last = some p ∨ d.Settled
  early : ∀ p, p ∈ d.outstanding ∨ p ∈ d.delivered → stamp p < d.clock
  deliveredUser : ∀ p ∈ d.delivered, user p
  lastUser : ∀ p ∈ d.last, user p

variable {number stamp user}

theorem Safe.settled {d : Line N P} (h : Safe number stamp user d) (hw : ¬ d.Awaits) :
    d.Settled := by
  cases ha : d.answered with
  | true => exact h.answered ha
  | false =>
    intro p hp
    exact absurd ⟨by simp [Option.mem_def.mp hp],ha⟩ hw

/-- A report speaks of a frame that was delivered exactly once. -/
theorem Safe.reported_once [DecidableEq P] {d : Line N P} (h : Safe number stamp user d) {p : P}
    (hp : p ∈ d.reported) : d.delivered.count p = 1 :=
  List.count_eq_one_of_mem h.once (h.reported p hp)

/-- A frame the receiver expects is new to it. -/
theorem Safe.fresh_of_expected [NeZero (1 : N)] {d : Line N P} (h : Safe number stamp user d)
    {p : P} (hp : p ∈ d.outstanding) (hn : number p = d.expected) : p ∉ d.delivered := by
  intro hd
  rcases h.taken p hp hd with he | ⟨he,hne⟩
  · rw [hn] at he
    exact one_ne_zero (add_eq_left.mp he)
  · exact hne (hn.trans he)

/-- Fewer outstanding frames, fewer acknowledgements and a later clock. -/
theorem Safe.rest {d : Line N P} (h : Safe number stamp user d) {frames : List P} {acks : List N}
    {kept : Option P} {clock : Nat} (hf : frames.Sublist d.frames) (ha : acks.Sublist d.acks)
    (hk : kept = d.kept ∨ kept = none) (hc : d.clock ≤ clock) :
    Safe number stamp user { d with frames, acks, kept, clock } := by
  have hsub : (frames ++ kept.toList).Sublist d.outstanding := by
    refine hf.append ?_
    rcases hk with rfl | rfl
    · exact .refl _
    · simp
  refine ⟨h.ordered.sublist hsub,fun p hp => h.taken p (hsub.subset hp),h.once,h.reported,
    h.answered,fun hn => h.ackWaits (ha.subset hn),fun p hp => h.duplicates p (hsub.subset hp),
    fun p hp => h.current p (hsub.subset hp),?_,h.deliveredUser,h.lastUser⟩
  intro p hp
  have hold := h.early p (hp.imp_left fun hm => hsub.subset hm)
  exact Nat.lt_of_lt_of_le hold hc

/-- An acknowledgement of a settled frame. -/
theorem Safe.report {d : Line N P} (h : Safe number stamp user d) (hs : d.Settled)
    {reported : List P} (hr : reported = d.reported ∨ reported = d.last.toList ++ d.reported) :
    Safe number stamp user { d with reported, answered := true } := by
  refine ⟨h.ordered,h.taken,h.once,?_,fun _ => hs,h.ackWaits,h.duplicates,h.current,h.early,
    h.deliveredUser,h.lastUser⟩
  intro p hp
  rcases hr with rfl | rfl
  · exact h.reported p hp
  · rcases List.mem_append.mp hp with hl | hp
    · exact hs p (by simpa using hl)
    · exact h.reported p hp

theorem Safe.start [DecidablePred user] {d : Line N P} (h : Safe number stamp user d) {p : P}
    {sent : List P}
    {kept : Option P} (hn : number p = d.next) (ht : stamp p = d.clock)
    (hs : sent = [] ∨ sent = [p]) (hk : kept = none ∨ kept = some p)
    (hok : user p → d.Startable number) :
    Safe number stamp user { d with
      last := if user p then some p else none, answered := false, kept,
      frames := d.frames ++ sent, clock := d.clock + 1 } := by
  have hnew : p ∉ d.delivered := fun hd => Nat.ne_of_lt (h.early p (.inr hd)) ht
  have hmem : ∀ q ∈ (d.frames ++ sent) ++ kept.toList, q = p ∨ q ∈ d.frames := by
    intro q hq
    rcases hs with rfl | rfl <;> rcases hk with rfl | rfl <;> simp at hq <;> tauto
  have hfront : d.frames.Sublist d.outstanding := List.sublist_append_left ..
  have hfree : ∀ q ∈ (if user p then some p else none : Option P), q = p ∧ user p := by
    intro q hq
    split at hq
    next hu => exact ⟨(Option.some.inj hq).symm,hu⟩
    · simp at hq
  have hvacuous : ¬ user p → ∀ q ∈ (if user p then some p else none : Option P),
      q ∈ d.delivered := fun hu q hq => absurd (hfree q hq).2 hu
  refine ⟨?_,?_,h.once,h.reported,by simp,?_,?_,?_,?_,h.deliveredUser,?_⟩
  · have hold := h.ordered.sublist hfront
    have hlater : ∀ q ∈ d.frames, stamp q < stamp p := by
      intro q hq
      rw [ht]
      exact h.early q (.inl (hfront.subset hq))
    have hnews : ∀ q, q ∈ d.frames → q = p ∨ stamp q < stamp p ∧ p ∉ d.delivered :=
      fun q hq => .inr ⟨hlater q hq,hnew⟩
    simp only [Line.outstanding,List.append_assoc]
    refine List.pairwise_append.mpr ⟨hold,?_,?_⟩
    · rcases hs with rfl | rfl <;> rcases hk with rfl | rfl <;> simp
    · intro q hq r hr
      obtain rfl : r = p := by
        rcases hs with rfl | rfl <;> rcases hk with rfl | rfl <;> simp at hr <;> exact hr
      exact hnews q hq
  · intro q hq hd
    rcases hmem q hq with rfl | hq
    · exact absurd hd hnew
    · exact h.taken q (hfront.subset hq) hd
  · intro ha q hq
    exact absurd ha (hok (hfree q hq).2).1
  · intro q hq he hc r hr
    obtain ⟨_,hbusy⟩ := (hok (hfree r hr).2).2
    rcases hmem q hq with rfl | hq
    · exact absurd (hn ▸ he) (hbusy hc).1
    · exact absurd he ((hbusy hc).2 q hq)
  · intro q hq hqn
    by_cases hu : user p
    · rcases hmem q hq with rfl | hq
      · exact .inl (by simp [hu])
      · exact absurd hqn ((hok hu).2.1 q hq)
    · exact .inr (hvacuous hu)
  · intro q hq
    change stamp q < d.clock + 1
    rcases hq with hq | hq
    · rcases hmem q hq with rfl | hq
      · omega
      · exact Nat.lt_succ_of_lt (h.early q (.inl (hfront.subset hq)))
    · exact Nat.lt_succ_of_lt (h.early q (.inr hq))
  · intro q hq
    obtain ⟨rfl,hu⟩ := hfree q hq
    exact hu

theorem Safe.accept [NeZero (1 : N)] [DecidablePred user] {d : Line N P}
    (h : Safe number stamp user d) {p : P}
    {frames : List P} {acks : List N} (hf : d.frames = p :: frames)
    (hn : number p = d.expected) (ha : acks = d.acks ∨ acks = d.acks ++ [d.expected]) :
    Safe number stamp user { d with
      frames, acks, expected := d.expected + 1, confirmed := d.expected,
      delivered := if user p then d.delivered ++ [p] else d.delivered } := by
  have hout : d.outstanding = p :: (frames ++ d.kept.toList) := by simp [Line.outstanding,hf]
  have hp : p ∈ d.outstanding := by simp [hout]
  have hnew := h.fresh_of_expected hp hn
  have hord := h.ordered
  rw [hout] at hord
  obtain ⟨hhead,htail⟩ := List.pairwise_cons.mp hord
  have htaken : ∀ q, q ∈ (if user p then d.delivered ++ [p] else d.delivered) →
      q ∈ d.delivered ∨ q = p := by
    intro q hq
    split at hq
    · simpa using hq
    · exact .inl hq
  have hgrow : ∀ q ∈ d.delivered, q ∈ (if user p then d.delivered ++ [p] else d.delivered) := by
    intro q hq
    split
    · simp [hq]
    · exact hq
  have hsettle : d.Settled → ∀ q ∈ d.last,
      q ∈ (if user p then d.delivered ++ [p] else d.delivered) :=
    fun hs q hq => hgrow q (hs q hq)
  -- the frame just taken is the last one, or the last one is settled anyway
  have hnow : d.expected = d.next →
      ∀ q ∈ d.last, q ∈ (if user p then d.delivered ++ [p] else d.delivered) := by
    intro he
    rcases h.current p hp (hn.trans he) with hl | hs
    · intro q hq
      obtain rfl : p = q := by simpa [hl] using hq
      simp [h.lastUser p hq]
    · exact hsettle hs
  have hmem : ∀ q ∈ frames ++ d.kept.toList, q ∈ d.outstanding := by
    intro q hq
    rw [hout]
    exact List.mem_cons_of_mem _ hq
  refine ⟨?_,?_,?_,fun q hq => hgrow q (h.reported q hq),fun hb => hsettle (h.answered hb),
    ?_,?_,?_,?_,?_,h.lastUser⟩
  · refine htail.imp_of_mem ?_
    rintro q r hq hr (rfl | ⟨hlt,hnr⟩)
    · exact .inl rfl
    · refine .inr ⟨hlt,fun hd => ?_⟩
      rcases htaken r hd with hd | rfl
      · exact hnr hd
      · rcases hhead q hq with rfl | ⟨hle,_⟩ <;> omega
  · intro q hq hd
    rcases htaken q hd with hd | rfl
    · rcases hhead q hq with rfl | ⟨_,hnq⟩
      · exact absurd hd hnew
      · exact absurd hd hnq
    · exact .inl (by rw [hn])
  · change (if user p then d.delivered ++ [p] else d.delivered).Nodup
    split
    · exact List.nodup_append.mpr ⟨h.once,by simp,by
        intro q hq r hr
        obtain rfl : r = p := by simpa using hr
        exact fun he => hnew (he ▸ hq)⟩
    · exact h.once
  · intro hk
    rcases ha with rfl | rfl
    · exact hsettle (h.ackWaits hk)
    · rcases List.mem_append.mp hk with hk | hk
      · exact hsettle (h.ackWaits hk)
      · exact hnow (List.mem_singleton.mp hk).symm
  · intro q _ _ hc
    exact hnow hc
  · intro q hq hqn
    exact (h.current q (hmem q hq) hqn).imp_right hsettle
  · rintro q (hq | hq)
    · exact h.early q (.inl (hmem q hq))
    · rcases htaken q hq with hq | rfl
      · exact h.early q (.inr hq)
      · exact h.early q (.inl hp)
  · intro q hq
    change q ∈ (if user p then d.delivered ++ [p] else d.delivered) at hq
    split at hq
    next hu =>
      rcases List.mem_append.mp hq with hq | hq
      · exact h.deliveredUser q hq
      · exact List.mem_singleton.mp hq ▸ hu
    · exact h.deliveredUser q hq

theorem Safe.zeroTx {d : Line N P} (h : Safe number stamp user d) (hz : d.ZeroableTx number) :
    Safe number stamp user { d with next := 0 } := by
  refine ⟨h.ordered,h.taken,h.once,h.reported,h.answered,?_,?_,?_,h.early,h.deliveredUser,
    h.lastUser⟩
  · intro hk
    rcases hz with hz | hw | ⟨hnone,_⟩
    · exact h.ackWaits (hz ▸ hk)
    · exact h.settled hw
    · exact absurd hk hnone
  · intro p hp he hc
    rcases hz with hz | hw | ⟨_,hnone⟩
    · exact h.duplicates p hp he (hc.trans hz.symm)
    · exact h.settled hw
    · exact absurd he ((hnone p hp).2 hc)
  · intro p hp hn
    rcases hz with hz | hw | ⟨_,hnone⟩
    · exact h.current p hp (hn.trans hz.symm)
    · exact .inr (h.settled hw)
    · exact absurd hn (hnone p hp).1

theorem Safe.zeroRx [NeZero (1 : N)] {d : Line N P} (h : Safe number stamp user d)
    (hz : d.ZeroableRx number user) :
    Safe number stamp user { d with expected := 0, confirmed := 0 } := by
  refine ⟨h.ordered,?_,h.once,h.reported,h.answered,h.ackWaits,?_,h.current,h.early,
    h.deliveredUser,h.lastUser⟩
  · intro p hp hd
    refine .inr ⟨rfl,fun hn => ?_⟩
    rcases h.taken p hp hd with he | ⟨_,hne⟩
    · rw [hn,zero_add] at he
      rcases hz with ⟨hz,_⟩ | ⟨hz,_⟩
      · exact one_ne_zero (he.trans hz)
      · exact hz he.symm p hp (h.deliveredUser p hd) hn
    · exact hne hn
  · intro p hp he hc
    rcases hz with ⟨hz,hcz⟩ | ⟨_,hz⟩
    · exact h.duplicates p hp (he.trans hz.symm) (hcz.trans hc)
    · by_cases hw : d.Awaits
      · exact absurd he (hz hc.symm hw p hp)
      · exact h.settled hw

/-- Safety survives every event. -/
theorem Step.safe [NeZero (1 : N)] [DecidablePred user] {d d' : Line N P}
    (hs : Step number stamp user d d') (h : Safe number stamp user d) :
    Safe number stamp user d' := by
  cases hs with
  | rest frames acks kept clock hf ha hk hc => exact h.rest hf ha hk hc
  | abandon clock hc =>
    have hrest := h.rest (.refl _) (.refl _) (.inr rfl) hc
    exact ⟨hrest.ordered,hrest.taken,hrest.once,hrest.reported,by simp,by simp [Line.Settled],
      by simp [Line.Settled],by simp [Line.Settled],hrest.early,hrest.deliveredUser,by simp⟩
  | start p sent kept hn ht hsent hk hok => exact h.start hn ht hsent hk hok
  | resend p hk =>
    have hsame : ∀ q ∈ (d.frames ++ [p]) ++ d.kept.toList, q ∈ d.outstanding := by
      intro q hq
      simp [Line.outstanding,hk] at hq ⊢
      tauto
    refine ⟨?_,fun q hq => h.taken q (hsame q hq),h.once,h.reported,h.answered,h.ackWaits,
      fun q hq => h.duplicates q (hsame q hq),fun q hq => h.current q (hsame q hq),
      fun q hq => h.early q (hq.imp_left (hsame q)),h.deliveredUser,h.lastUser⟩
    have hord := h.ordered
    simp only [Line.outstanding,hk,Option.toList_some] at hord ⊢
    refine List.pairwise_append.mpr ⟨hord,by simp,?_⟩
    intro q hq r hr
    obtain rfl : r = p := by simpa using hr
    rcases List.mem_append.mp hq with hq | hq
    · exact (List.pairwise_append.mp hord).2.2 q hq r (by simp)
    · exact .inl (by simpa using hq)
  | accept p frames acks hf hn ha => exact h.accept hf hn ha
  | duplicate p frames acks hf hn ha =>
    have hp : p ∈ d.outstanding := by simp [Line.outstanding,hf]
    have hless : Safe number stamp user { d with frames } :=
      h.rest (by simp [hf]) (.refl _) (.inl rfl) (Nat.le_refl _)
    rcases ha with rfl | rfl
    · exact hless
    · refine ⟨hless.ordered,hless.taken,h.once,h.reported,h.answered,fun hk => ?_,
        hless.duplicates,hless.current,hless.early,h.deliveredUser,h.lastUser⟩
      rcases List.mem_append.mp hk with hk | hk
      · exact h.ackWaits hk
      · exact h.duplicates p hp hn (List.mem_singleton.mp hk).symm
  | acknowledge acks kept reported hk hkept hr =>
    have hs : d.Settled := h.ackWaits (by simp [hk])
    have hrest : Safe number stamp user { d with acks, kept } :=
      h.rest (.refl _) (by simp [hk]) hkept (Nat.le_refl _)
    have hless := hrest.report hs hr
    exact ⟨hless.ordered,hless.taken,h.once,hless.reported,fun _ => hs,fun _ => hs,
      fun _ _ _ _ => hs,fun _ _ _ => .inr hs,hless.early,h.deliveredUser,h.lastUser⟩
  | repeated kept reported hw hk hr =>
    exact (h.rest (.refl _) (.refl _) hk (Nat.le_refl _)).report (h.settled hw) hr
  | zeroTx hz => exact h.zeroTx hz
  | zeroRx hz => exact h.zeroRx hz

end Retransmission
