import Mathlib.Data.List.Basic
import Mathlib.Data.Int.Cast.Defs
import Mathlib.Algebra.Group.Basic
import Mathlib.Algebra.NeZero

namespace StopAndWait

/-- A numbered frame or the acknowledgement of one. -/
inductive Message (N P : Type*) where
  | frame (number : N) (payload : P)
  | ack (number : N)
  deriving DecidableEq, Repr

/-- One direction of a stop-and-wait link: the sender's number and its kept
copy, the receiver's two numbers, the single message of this direction that may
be on the air, and what the users of both ends have seen. -/
structure Direction (N P D : Type*) where
  next : N
  outstanding : Option P
  expected : N
  confirmed : N
  air : Option (Message N P)
  taken : List D
  delivered : List D

/-- A send leaves the new message on the air, or what was there before when the
send does not get out. -/
def Sent {N P : Type*} (before after : Option (Message N P)) (m : Message N P) : Prop :=
  after = before ∨ after = some m

section Numbered

variable {N P D : Type*} [AddGroupWithOne N] (user : P → List D)
  (spare : Direction N P D → Prop)

/-- What a single event may do to one direction. `user` reads the user data
out of a frame; frames that carry none are numbered all the same. A frame
without user data may take the place of the kept copy where `spare` allows. -/
inductive Step : Direction N P D → Direction N P D → Prop
  | lose (d) (air) (h : air = d.air ∨ air = none) : Step d { d with air := air }
  | start (d) (p : P) (air) (h : d.outstanding = none)
      (hair : Sent d.air air (.frame d.next p)) :
      Step d { d with outstanding := some p, air := air, taken := d.taken ++ user p }
  | resend (d) (p q : P) (air) (h : d.outstanding = some p) (hq : user q = user p)
      (hair : Sent d.air air (.frame d.next q)) : Step d { d with air := air }
  | overwrite (d) (p q : P) (air) (h : d.outstanding = some p) (hq : user q = [])
      (hspare : spare d) (hair : Sent d.air air (.frame d.next q)) :
      Step d { d with outstanding := some q, air := air }
  | accept (d) (p : P) (air) (h : d.air = some (.frame d.expected p))
      (hair : air = none ∨ air = some (.ack d.expected)) :
      Step d { d with expected := d.expected + 1, confirmed := d.expected, air := air,
                      delivered := d.delivered ++ user p }
  | duplicate (d) (n : N) (p : P) (air) (h : d.air = some (.frame n p))
      (hn : n + 1 = d.expected) (hair : air = none ∨ air = some (.ack d.confirmed)) :
      Step d { d with air := air }
  | acknowledged (d) (h : d.air = some (.ack d.next)) :
      Step d { d with next := d.next + 1, outstanding := none, air := none }

/-- Both ends agree on the number of the frame being exchanged. -/
structure Agrees (d : Direction N P D) : Prop where
  inStep : d.expected = d.next ∨
    (d.expected = d.next + 1 ∧ d.confirmed = d.next ∧ d.outstanding.isSome)
  frameOnAir : ∀ n p, d.air = some (.frame n p) → n = d.next ∧ d.outstanding.isSome
  ackOnAir : ∀ n, d.air = some (.ack n) → n = d.next ∧ d.expected = d.next + 1

theorem Agrees.outstanding_of_ahead [NeZero (1 : N)] {d : Direction N P D} (h : Agrees d)
    (ha : d.expected = d.next + 1) : d.confirmed = d.next ∧ d.outstanding.isSome := by
  rcases h.inStep with he | ⟨_,hc,ho⟩
  · rw [ha] at he
    exact absurd (add_eq_left.mp he) one_ne_zero
  · exact ⟨hc,ho⟩

/-- A frame on the air is never foreign: it is the expected one or the one
before it. -/
theorem Agrees.frame_known {d : Direction N P D} (h : Agrees d) {n : N} {p : P}
    (ha : d.air = some (.frame n p)) : n = d.expected ∨ n + 1 = d.expected := by
  obtain ⟨rfl,_⟩ := h.frameOnAir n p ha
  rcases h.inStep with he | ⟨he,_⟩
  · exact .inl he.symm
  · exact .inr he.symm

/-- An acknowledgement on the air answers a frame that is still kept. -/
theorem Agrees.ack_awaited [NeZero (1 : N)] {d : Direction N P D} (h : Agrees d) {n : N}
    (ha : d.air = some (.ack n)) : d.outstanding.isSome :=
  (h.outstanding_of_ahead (h.ackOnAir n ha).2).2

/-- With nothing kept for retransmission the direction is silent. -/
theorem Agrees.silent [NeZero (1 : N)] {d : Direction N P D} (h : Agrees d)
    (ho : d.outstanding = none) : d.air = none ∧ d.expected = d.next := by
  refine ⟨?_,?_⟩
  · cases ha : d.air with
    | none => rfl
    | some m =>
      cases m with
      | frame n p => simpa [ho] using (h.frameOnAir n p ha).2
      | ack n => simpa [ho] using h.ack_awaited ha
  · rcases h.inStep with he | ⟨_,_,hs⟩
    · exact he
    · simp [ho] at hs

theorem Agrees.send {d : Direction N P D} (h : Agrees d) {p : P}
    {air : Option (Message N P)} (ho : d.outstanding.isSome)
    (hair : Sent d.air air (.frame d.next p)) : Agrees { d with air := air } where
  inStep := h.inStep
  frameOnAir n q ha := by
    rcases hair with rfl | rfl
    · exact h.frameOnAir n q ha
    · simp only [Option.some.injEq,Message.frame.injEq] at ha
      exact ⟨ha.1.symm,ho⟩
  ackOnAir n ha := by
    rcases hair with rfl | rfl
    · exact h.ackOnAir n ha
    · simp at ha

theorem Step.agrees [NeZero (1 : N)] {d d' : Direction N P D} (hs : Step user spare d d')
    (h : Agrees d) : Agrees d' := by
  cases hs with
  | lose air hair =>
    rcases hair with rfl | rfl
    · exact h
    · exact ⟨h.inStep,by simp,by simp⟩
  | start p air ho hair =>
    obtain ⟨hquiet,he⟩ := h.silent ho
    refine Agrees.send (d := { d with outstanding := some p, taken := d.taken ++ user p })
      ⟨.inl he,?_,?_⟩ rfl hair
    · simp [hquiet]
    · simp [hquiet]
  | resend p q air ho _ hair => exact h.send (by simp [ho]) hair
  | overwrite p q air ho _ _ hair =>
    refine Agrees.send (d := { d with outstanding := some q }) ⟨?_,?_,?_⟩ rfl hair
    · exact h.inStep.imp id fun ⟨he,hc,_⟩ => ⟨he,hc,rfl⟩
    · exact fun n r ha => ⟨(h.frameOnAir n r ha).1,rfl⟩
    · exact h.ackOnAir
  | accept p air ha hair =>
    obtain ⟨hn,ho⟩ := h.frameOnAir _ _ ha
    refine ⟨.inr ⟨by rw [hn],hn,ho⟩,?_,?_⟩
    · intro n q hq
      rcases hair with rfl | rfl <;> simp at hq
    · intro n hq
      rcases hair with rfl | rfl
      · simp at hq
      · simp only [Option.some.injEq,Message.ack.injEq] at hq
        exact ⟨hq ▸ hn,by rw [hn]⟩
  | duplicate n p air ha hn hair =>
    obtain ⟨rfl,_⟩ := h.frameOnAir _ _ ha
    have hc := (h.outstanding_of_ahead hn.symm).1
    refine ⟨h.inStep,?_,?_⟩
    · intro m q hq
      rcases hair with rfl | rfl <;> simp at hq
    · intro m hq
      rcases hair with rfl | rfl
      · simp at hq
      · simp only [Option.some.injEq,Message.ack.injEq] at hq
        exact ⟨hq ▸ hc,hn.symm⟩
  | acknowledged ha => exact ⟨.inl (h.ackOnAir _ ha).2,by simp,by simp⟩

section InOrder

variable [DecidableEq N]

/-- The user data of the kept copy, while the receiver has not accepted it. -/
def Direction.unaccepted (d : Direction N P D) : List D :=
  if d.expected = d.next then (d.outstanding.map user).getD [] else []

/-- Overwriting the kept copy is harmless when it carries no user data or the
receiver already has it. -/
def Spare (d : Direction N P D) : Prop :=
  d.unaccepted user = []

/-- What was taken has been delivered in order, save the kept copy. -/
structure InOrder (d : Direction N P D) : Prop extends Agrees d where
  complete : d.taken = d.delivered ++ d.unaccepted user
  copyOnAir : ∀ n p, d.air = some (.frame n p) → n = d.expected →
    d.unaccepted user = user p

theorem InOrder.delivered_in_order {d : Direction N P D} (h : InOrder user d) :
    d.delivered <+: d.taken :=
  ⟨_,h.complete.symm⟩

theorem unaccepted_of_ahead [NeZero (1 : N)] {d : Direction N P D}
    (h : d.expected = d.next + 1) : d.unaccepted user = [] := by
  have hne : d.expected ≠ d.next := by simp [h]
  simp [Direction.unaccepted,hne]

theorem InOrder.send {d : Direction N P D} (h : InOrder user d) {p : P}
    {air : Option (Message N P)} (ho : d.outstanding.isSome)
    (hp : d.unaccepted user = user p ∨ d.expected ≠ d.next)
    (hair : Sent d.air air (.frame d.next p)) : InOrder user { d with air := air } where
  toAgrees := h.toAgrees.send ho hair
  complete := h.complete
  copyOnAir n q ha hn := by
    rcases hair with rfl | rfl
    · exact h.copyOnAir n q ha hn
    · simp only [Option.some.injEq,Message.frame.injEq] at ha
      obtain ⟨rfl,rfl⟩ := ha
      exact hp.resolve_right fun hne => hne hn.symm

theorem InOrder.quiet {d : Direction N P D} (h : InOrder user d)
    {air : Option (Message N P)} (hagree : Agrees { d with air := air })
    (hair : ∀ n p, air ≠ some (.frame n p)) : InOrder user { d with air := air } where
  toAgrees := hagree
  complete := h.complete
  copyOnAir n p ha := absurd ha (hair n p)

/-- In-order delivery survives every event when copies are only overwritten
where that is harmless. -/
theorem Step.inOrder [NeZero (1 : N)] {d d' : Direction N P D}
    (hs : Step user (Spare user) d d') (h : InOrder user d) : InOrder user d' := by
  have hagree := hs.agrees user (Spare user) h.toAgrees
  cases hs with
  | lose air hair =>
    rcases hair with rfl | rfl
    · exact h
    · exact h.quiet user hagree (by simp)
  | start p air ho hair =>
    obtain ⟨hquiet,he⟩ := h.silent ho
    have hbefore : d.taken = d.delivered := by
      simpa [Direction.unaccepted,ho] using h.complete
    refine ⟨hagree,?_,?_⟩
    · simp [Direction.unaccepted,he,hbefore]
    · intro n q ha _
      rcases hair with rfl | rfl
      · simp [hquiet] at ha
      · simp only [Option.some.injEq,Message.frame.injEq] at ha
        simp [Direction.unaccepted,he,ha.2]
  | resend p q air ho hq hair =>
    refine h.send user (by simp [ho]) ?_ hair
    by_cases he : d.expected = d.next
    · exact .inl (by simp [Direction.unaccepted,he,ho,hq])
    · exact .inr he
  | overwrite p q air ho hq hspare hair =>
    have hkept : ({ d with outstanding := some q }).unaccepted user = [] := by
      simp [Direction.unaccepted,hq]
    have hcopy : InOrder user { d with outstanding := some q } := by
      refine ⟨⟨?_,?_,h.ackOnAir⟩,?_,?_⟩
      · exact h.inStep.imp id fun ⟨he,hc,_⟩ => ⟨he,hc,rfl⟩
      · exact fun n r ha => ⟨(h.frameOnAir n r ha).1,rfl⟩
      · exact h.complete.trans (by rw [hspare,hkept])
      · intro n r ha hn
        rw [hkept,← h.copyOnAir n r ha hn,hspare]
    exact hcopy.send user rfl (.inl (by rw [hkept,hq])) hair
  | accept p air ha hair =>
    obtain ⟨hn,_⟩ := h.frameOnAir _ _ ha
    refine ⟨hagree,?_,?_⟩
    · have hahead : d.expected + 1 ≠ d.next := by simp [hn]
      simp only [Direction.unaccepted,hahead,if_false,List.append_nil]
      rw [h.complete,h.copyOnAir _ p ha rfl]
    · intro n q hq
      rcases hair with rfl | rfl <;> simp at hq
  | duplicate n p air ha hn hair =>
    refine h.quiet user hagree ?_
    intro m q
    rcases hair with rfl | rfl <;> simp
  | acknowledged ha =>
    obtain ⟨_,he⟩ := h.ackOnAir _ ha
    refine ⟨hagree,?_,by simp⟩
    have hdone : d.taken = d.delivered := by
      rw [h.complete,unaccepted_of_ahead user he,List.append_nil]
    simp [Direction.unaccepted,hdone]

end InOrder

end Numbered

end StopAndWait
