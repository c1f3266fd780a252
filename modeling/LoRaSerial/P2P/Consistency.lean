import LoRaSerial.P2P.Session

namespace LoRaSerial.P2P
open StopAndWait

instance (r : Radio) : Decidable r.Committed :=
  inferInstanceAs (Decidable (_ ∨ _))

/-- The other end of the session of `x`: its view once committed, and until
then the view it will have when it hears ZERO_ACKS. -/
def Link.peer (l : Link) (x : Side) : View :=
  if (l.radio x.other).Committed then l.view x.other else .fresh

/-- Both directions between `x` and the view `v` of the other end. -/
def Link.Paired (Good : Direction AckNumber Frame (List UInt8) → Prop) (l : Link) (x : Side)
    (v : View) : Prop :=
  Good (direction (l.view x) v (airOf x l.air)) ∧
    Good (direction v (l.view x) (airOf x.other l.air))

/-- A property of directions that every step keeps, `spare` telling when a kept
frame may be overwritten. -/
structure Kept (spare Good : Direction AckNumber Frame (List UInt8) → Prop) : Prop where
  step : ∀ d d', Step Frame.userData spare d d' → Good d → Good d'
  fresh : Good (direction .fresh .fresh none)

/-- The invariant of two radios. The handshake frames are what ties the two
sides to one and the same session: a radio whose SYNC_CLOCKS is in flight has no
session, and one whose ZERO_ACKS is in flight is alone in its own. -/
structure Consistent (Good : Direction AckNumber Frame (List UInt8) → Prop) (l : Link) :
    Prop where
  sound : ∀ x, (l.radio x).Sound
  syncClocks : ∀ x f, l.air = some (x,f) → f.Carries .syncClocks → ¬ (l.radio x).Committed
  zeroAcks : ∀ x f, l.air = some (x,f) → f.Carries .zeroAcks →
    ¬ (l.radio x.other).Committed
  session : ∀ x, (l.radio x).Committed →
    ((l.radio x.other).Committed ∨ ∃ f, l.air = some (x,f) ∧ f.Carries .zeroAcks) →
    l.Paired Good x (l.peer x)

/-- Overwriting a kept frame in a step is allowed by `spare`. -/
def Link.Spares (spare : Direction AckNumber Frame (List UInt8) → Prop) (l : Link) :
    Event → Prop
  | .pass x t i => Overwrites (l.radio x) (l.packet x t) i →
      spare (direction (l.view x) (l.peer x) (airOf x l.air))
  | _ => True

variable {spare Good : Direction AckNumber Frame (List UInt8) → Prop} {l : Link}

theorem Link.Paired.swap {x : Side} {v : View} (h : l.Paired Good x v)
    (hv : v = l.view x.other) : l.Paired Good x.other (l.view x) := by
  subst hv
  exact ⟨h.2,by simpa using h.1⟩

theorem Link.peer_committed {x : Side} (h : (l.radio x.other).Committed) :
    l.peer x = l.view x.other := if_pos h

theorem Link.peer_absent {x : Side} (h : ¬ (l.radio x.other).Committed) :
    l.peer x = View.fresh := if_neg h

/-- Only a handshake frame makes a radio commit to a session. -/
theorem Effect.commits {r : Radio} {packet : Option Reception} {i : Inputs} {p : Pass}
    (h : Effect r packet i p) (hr : ¬ r.Committed) (hp : p.radio.Committed) :
    ∃ f : Frame, packet = some (.frame f) ∧ f.Handshake := by
  cases h with
  | apart hno _ => exact absurd hp hno
  | heardZeroAcks f hpacket hf => exact ⟨f,hpacket,.inr hf⟩
  | sentZeroAcks f hpacket hf => exact ⟨f,hpacket,.inl hf⟩
  | linkedUp hstate => exact absurd (.inr hstate) hr
  | waiting hstate => exact absurd (.inr hstate) hr
  | exchange hlinked => exact absurd (.inl hlinked) hr

/-- SYNC_CLOCKS is only sent outside a session. -/
theorem Effect.syncClocks_apart {r : Radio} {packet : Option Reception} {i : Inputs} {p : Pass}
    (h : Effect r packet i p) {f : Frame} (hf : p.onAir = some f) (hs : f.Carries .syncClocks) :
    ¬ p.radio.Committed := by
  cases h with
  | apart hno _ => exact hno
  | heardZeroAcks _ _ _ _ _ _ _ hair => simp [hair] at hf
  | sentZeroAcks _ _ _ _ hair =>
    rcases hair with hair | ⟨g,hair,hg⟩
    · simp [hair] at hf
    · obtain rfl : g = f := by simpa [hair] using hf
      exact absurd (hg.eq hs) (by decide)
  | linkedUp _ _ _ _ _ hair => simp [hair] at hf
  | waiting _ hp => simp [hp] at hf
  | exchange _ _ _ hx => exact absurd (.inl hs) (hx.not_handshake hf)

section OnePass

variable {x : Side} {t : Transaction} {i : Inputs} {p : Pass}

/-- What is in flight after a pass was in flight before, unread, or was sent by
the acting radio. -/
theorem inFlight_cases {s : Side} {f : Frame}
    (h : (l.afterPass x (l.receive x t).2 p).air = some (s,f)) :
    (l.air = some (s,f) ∧ ∀ g, l.packet x t ≠ some (.frame g)) ∨
      (s = x ∧ p.onAir = some f) := by
  have hown : ∀ o : Option (Side × Frame), o = none →
      o.or (p.onAir.map (x,·)) = some (s,f) → s = x ∧ p.onAir = some f := by
    rintro _ rfl hmap
    have hboth : p.onAir = some f ∧ x = s := by simpa using hmap
    exact ⟨hboth.2.symm,hboth.1⟩
  rw [afterPass_air] at h
  rcases l.receive_cases x t with ⟨hleft,hno⟩ | ⟨g,_,_,hleft⟩
  · rw [hleft] at h
    cases hair : l.air with
    | none => exact .inr (hown _ hair h)
    | some sf =>
      rw [hair] at h
      exact .inl ⟨h,hno⟩
  · exact .inr (hown _ hleft h)

/-- A pass that only drops what is in flight keeps both directions. -/
theorem Link.Paired.silent (hkept : Kept spare Good) {v : View} (h : l.Paired Good x v)
    (hair : p.onAir = none)
    (hview : (l.afterPass x (l.receive x t).2 p).view x = l.view x) :
    (l.afterPass x (l.receive x t).2 p).Paired Good x v := by
  constructor
  · rw [hview]
    exact hkept.step _ _ (.lose (direction (l.view x) v (airOf x l.air)) _
      (air_of_silent hair x)) h.1
  · rw [hview]
    exact hkept.step _ _ (.lose (direction v (l.view x) (airOf x.other l.air)) _
      (air_of_silent hair x.other)) h.2

/-- The acting radio stays in step with its peer. -/
theorem session_acting (hkept : Kept spare Good) (h : Consistent Good l)
    (he : Effect (l.radio x) (l.packet x t) i p)
    (hspare : Overwrites (l.radio x) (l.packet x t) i →
      spare (direction (l.view x) (l.peer x) (airOf x l.air)))
    (hp : p.radio.Committed)
    (hpeer : (l.radio x.other).Committed ∨
      ∃ f, (l.afterPass x (l.receive x t).2 p).air = some (x,f) ∧ f.Carries .zeroAcks) :
    (l.afterPass x (l.receive x t).2 p).Paired Good x (l.peer x) := by
  have hbefore : (l.radio x).Committed → (∀ f, p.onAir = some f → ¬ f.Handshake) →
      l.Paired Good x (l.peer x) := by
    intro hr hno
    refine h.session x hr (hpeer.imp id ?_)
    rintro ⟨f,hf,hz⟩
    rcases inFlight_cases hf with ⟨hair,_⟩ | ⟨_,hair⟩
    · exact ⟨f,hair,hz⟩
    · exact absurd (.inr hz) (hno f hair)
  cases he with
  | apart hno _ => exact absurd hp hno
  | heardZeroAcks f hpacket hf hstate hn hk hup hair ht hd =>
    obtain ⟨hfrom,hafter⟩ := air_of_answer (p := p) hpacket
    have hother : (l.radio x.other).Committed := by
      refine hpeer.resolve_right ?_
      rintro ⟨g,hg,_⟩
      rw [hafter,hair] at hg
      simp at hg
    have halone := h.zeroAcks x.other f hfrom hf
    obtain ⟨hout,hin⟩ := h.session x.other hother (.inr ⟨f,hfrom,hf⟩)
    have hquiet : ∀ s, airOf s l.air = none := fun s => by
      rw [hfrom]
      exact Frame.Handshake.airOf_none (.inr hf) _ _
    rw [Link.peer_absent halone,hquiet] at hout hin
    refine ⟨?_,?_⟩
    · rw [view_afterPass_up hstate hn hk hup ht hd,Link.peer_committed hother,hafter,hair]
      exact hin
    · rw [view_afterPass_up hstate hn hk hup ht hd,Link.peer_committed hother,hafter,hair]
      exact hout
  | sentZeroAcks f hpacket hf hstate hair =>
    obtain ⟨hfrom,hafter⟩ := air_of_answer (p := p) hpacket
    have halone := h.syncClocks x.other f hfrom hf
    have hview : (l.afterPass x (l.receive x t).2 p).view x = View.fresh :=
      view_waiting (by simpa using hstate)
    have hquiet : ∀ s, airOf s (l.afterPass x (l.receive x t).2 p).air = none := by
      intro s
      rw [hafter]
      rcases hair with hair | ⟨g,hair,hg⟩
      · simp [hair]
      · simpa [hair] using Frame.Handshake.airOf_none (.inr hg) s x
    refine ⟨?_,?_⟩
    all_goals
      rw [hview,hquiet,Link.peer_absent halone]
      exact hkept.fresh
  | linkedUp hr hstate hn hk hup hair ht hd =>
    refine (hbefore (.inr hr) (by simp [hair])).silent hkept hair ?_
    rw [view_afterPass_up hstate hn hk hup ht hd,view_waiting hr]
  | waiting hr hpass =>
    refine (hbefore (.inr hr) (by simp [hpass])).silent hkept (by rw [hpass]) ?_
    rw [view_waiting hr]
    exact view_waiting (by simpa [hpass] using hr)
  | exchange hr hr' hup hx =>
    have hpaired := hbefore (.inl hr) fun f hf => hx.not_handshake hf
    rw [Link.Paired,view_afterPass_linked hr hr' hup]
    exact ⟨hkept.step _ _ (hx.forward _ hspare) hpaired.1,
      hkept.step _ _ (hx.backward _) hpaired.2⟩

/-- A pass keeps the invariant. -/
theorem consistent_pass (hkept : Kept spare Good) (h : Consistent Good l)
    (ho : Outcome (l.radio x) (l.packet x t) i p)
    (hspare : Overwrites (l.radio x) (l.packet x t) i →
      spare (direction (l.view x) (l.peer x) (airOf x l.air))) :
    Consistent Good (l.afterPass x (l.receive x t).2 p) := by
  have he := ho.effect
  have hstays : ∀ s f, l.air = some (s,f) → (∀ g, l.packet x t ≠ some (.frame g)) →
      ∀ y, ¬ (l.radio y).Committed →
        ¬ ((l.afterPass x (l.receive x t).2 p).radio y).Committed := by
    intro s f _ hno y hy
    rcases x.eq_or_other y with rfl | rfl
    · rw [afterPass_radio_self]
      intro hc
      obtain ⟨g,hg,_⟩ := he.commits hy hc
      exact hno g hg
    · rwa [afterPass_radio_other]
  have hacting : ((l.afterPass x (l.receive x t).2 p).radio x).Committed →
      ((l.radio x.other).Committed ∨
        ∃ f, (l.afterPass x (l.receive x t).2 p).air = some (x,f) ∧ f.Carries .zeroAcks) →
      (l.afterPass x (l.receive x t).2 p).Paired Good x (l.peer x) := fun hc hpeer =>
    session_acting hkept h he hspare (by simpa using hc) hpeer
  constructor
  case sound =>
    intro y
    rcases x.eq_or_other y with rfl | rfl
    · rw [afterPass_radio_self]
      exact ho.sound
    · rw [afterPass_radio_other]
      exact h.sound _
  case syncClocks =>
    intro s f hf hs
    rcases inFlight_cases hf with ⟨hair,hno⟩ | ⟨rfl,hair⟩
    · exact hstays s f hair hno s (h.syncClocks s f hair hs)
    · rw [afterPass_radio_self]
      exact he.syncClocks_apart hair hs
  case zeroAcks =>
    intro s f hf hz
    rcases inFlight_cases hf with ⟨hair,hno⟩ | ⟨rfl,hair⟩
    · exact hstays s f hair hno _ (h.zeroAcks s f hair hz)
    · obtain ⟨g,hg,hsync⟩ := he.zeroAcks_answers hair hz
      rw [afterPass_radio_other]
      exact h.syncClocks _ g (air_of_answer (p := p) hg).1 hsync
  case session =>
    intro s hs hpeer
    rcases x.eq_or_other s with rfl | rfl
    · have hsame : (l.afterPass s (l.receive s t).2 p).peer s = l.peer s := by simp [Link.peer]
      rw [hsame]
      exact hacting hs (by simpa using hpeer)
    · have hother : (l.radio x.other).Committed := by simpa using hs
      rw [Side.other_other] at hpeer
      by_cases hx : ((l.afterPass x (l.receive x t).2 p).radio x).Committed
      · -- both are committed: the same two directions, seen from the other end
        have hpair := hacting hx (.inl hother)
        rw [Link.peer_committed hother] at hpair
        rw [Link.peer_committed (by simpa using hx),Side.other_other]
        exact hpair.swap (by simp)
      · obtain ⟨f,hf,hz⟩ := hpeer.resolve_left hx
        rcases inFlight_cases hf with ⟨hair,hno⟩ | ⟨hne,_⟩
        · have halone : ¬ (l.radio x).Committed := by simpa using h.zeroAcks _ f hair hz
          have hpair := h.session x.other hother (.inr ⟨f,hair,hz⟩)
          rw [Link.peer_absent (by simpa using halone)] at hpair
          rw [Link.peer_absent (by simpa using hx)]
          have hsame : (l.afterPass x (l.receive x t).2 p).air = l.air := by rw [hf,hair]
          rw [Link.Paired,hsame,view_afterPass_other]
          exact hpair
        · exact absurd hne x.other_ne

end OnePass

/-- Losing the frame in flight keeps the invariant. -/
theorem consistent_lose (hkept : Kept spare Good) (h : Consistent Good l) :
    Consistent Good { l with air := none } where
  sound := h.sound
  syncClocks := by simp
  zeroAcks := by simp
  session x hx hpeer := by
    have hother : (l.radio x.other).Committed := hpeer.resolve_right (by simp)
    have hpair := h.session x hx (.inl hother)
    exact ⟨hkept.step _ _ (.lose (direction (l.view x) (l.peer x) (airOf x l.air)) none (.inr rfl))
        hpair.1,
      hkept.step _ _ (.lose (direction (l.peer x) (l.view x) (airOf x.other l.air)) none
        (.inr rfl)) hpair.2⟩

/-- A command that resets a radio takes it out of its session. -/
theorem consistent_command (h : Consistent Good l) (x : Side) :
    Consistent Good (l.step (.command x)) := by
  have hreset : ¬ ((l.step (.command x)).radio x).Committed := by
    simp [Link.step,Radio.Committed,Radio.Linked]
  have hother : (l.step (.command x)).radio x.other = l.radio x.other := by simp [Link.step]
  have hstays : ∀ y, ¬ (l.radio y).Committed →
      ¬ ((l.step (.command x)).radio y).Committed := by
    intro y hy
    rcases x.eq_or_other y with rfl | rfl
    · exact hreset
    · rwa [hother]
  constructor
  case sound =>
    intro y
    rcases x.eq_or_other y with rfl | rfl
    · refine ⟨fun hr => absurd ?_ hr,fun hl => absurd (.inl hl) hreset⟩
      simp [Link.step]
    · rw [hother]
      exact h.sound _
  case syncClocks => exact fun y f hf hs => hstays y (h.syncClocks y f hf hs)
  case zeroAcks => exact fun y f hf hz => hstays _ (h.zeroAcks y f hf hz)
  case session =>
    intro y hy hpeer
    rcases x.eq_or_other y with rfl | rfl
    · exact absurd hy hreset
    · rw [Side.other_other] at hpeer
      obtain ⟨f,hf,hz⟩ := hpeer.resolve_left hreset
      have halone := h.zeroAcks _ f hf hz
      rw [hother] at hy
      have hpair := h.session x.other hy (.inr ⟨f,hf,hz⟩)
      rw [Link.peer_absent halone] at hpair
      rw [Link.peer_absent (by simpa using hreset)]
      have hview : (l.step (.command x)).view x.other = l.view x.other := by
        simp [Link.view,Link.step]
      rw [Link.Paired,hview]
      exact hpair

/-- Every event keeps the invariant. -/
theorem consistent_step (hkept : Kept spare Good) (l : Link) (e : Event)
    (h : Consistent Good l) (hspare : l.Spares spare e) : Consistent Good (l.step e) := by
  cases e with
  | pass x t i => exact consistent_pass hkept h (updateRadioState_outcome _ i (h.sound x)) hspare
  | command x => exact consistent_command h x
  | lose => exact consistent_lose hkept h

theorem Link.Started.consistent (h : l.Started) : Consistent Good l := by
  have hno : ∀ x, ¬ (l.radio x).Committed := by
    intro x
    simp [Radio.Committed,Radio.Linked,h.1 x]
  constructor
  case sound => exact fun x => ⟨fun hr => absurd (h.1 x) hr,fun hl => absurd (.inl hl) (hno x)⟩
  case syncClocks => simp [h.2]
  case zeroAcks => simp [h.2]
  case session => exact fun x hx => absurd hx (hno x)

end LoRaSerial.P2P
