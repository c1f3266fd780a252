import LoRaSerial.P2P.Delivery

namespace LoRaSerial.P2P
open StopAndWait Runs

/-- clockSyncReceiver after a pass of updateRadioState. RADIO_RESET sets it and
so does the end of the wait for ZERO_ACKS; a FIND_PARTNER clears it in
RADIO_P2P_LINK_DOWN, before SYNC_CLOCKS is tried, and nowhere else. -/
def clockSyncReceiver (r : Radio) (packet : Option Reception) (i : Inputs) (receiver : Bool) :
    Bool :=
  match r.radioState,packet with
  | .reset,_ => true
  | .linkDown,some p =>
    if (rcvDatagram r p i).2 = .datagram .findPartner then false else receiver
  | .waitZeroAcks,none => if i.handshakeTimeout then true else receiver
  | _,_ => receiver

/-- Two radios with their clockSyncReceiver flags. -/
structure SyncedLink extends Link where
  receiver : Side → Bool

def SyncedLink.step (l : SyncedLink) (e : Event) : SyncedLink where
  toLink := l.toLink.step e
  receiver :=
    match e with
    | .pass x t i => Function.update l.receiver x
        (clockSyncReceiver (l.radio x) (l.packet x t) i (l.receiver x))
    | .command _ => l.receiver
    | .lose => l.receiver

@[simp] theorem step_toLink (l : SyncedLink) (e : Event) :
    (l.step e).toLink = l.toLink.step e := rfl

theorem run_toLink (l : SyncedLink) (es : List Event) :
    (run SyncedLink.step l es).toLink = run Link.step l.toLink es := by
  induction es generalizing l with
  | nil => rfl
  | cons e es ih => exact ih (l.step e)

/-- The flag that belongs to the side of the handshake a radio is on: who sent
SYNC_CLOCKS is the source of the clock, who answered it receives the clock. -/
structure Radio.InRole (r : Radio) (receiver : Bool) : Prop where
  source : r.radioState = .waitTxSyncClocksDone ∨ r.radioState = .waitZeroAcks →
    receiver = false
  sink : r.radioState = .waitTxZeroAcksDone → receiver = true

instance (f : Frame) (t : DatagramType) : Decidable (f.Carries t) :=
  inferInstanceAs (Decidable (_ ∧ _))

/-- RADIO_P2P_WAIT_SYNC_CLOCKS writes no flag: a radio that takes a side of the
handshake there already has the flag of that side. -/
def TakesRole (r : Radio) (receiver : Bool) (i : Inputs) : Option Reception → Prop
  | some (.frame f) => r.radioState = .waitSyncClocks → i.transmit.result = true →
      (f.Carries .findPartner → receiver = false) ∧ (f.Carries .syncClocks → receiver = true)
  | _ => True

instance (r : Radio) (receiver : Bool) (i : Inputs) :
    (packet : Option Reception) → Decidable (TakesRole r receiver i packet)
  | some (.frame _) => inferInstanceAs (Decidable (_ → _ → _ ∧ _))
  | some (.damaged _) => inferInstanceAs (Decidable True)
  | none => inferInstanceAs (Decidable True)

section OnePass

variable {r : Radio} {packet : Option Reception} {i : Inputs} {receiver : Bool}

/-- A transmit attempt enters the next state only if it started. -/
theorem enter_cases {x : Xmit} {q : Radio} {f : Frame} (hx : x.Sends q f) (s : RadioState) :
    x.started = true ∧ (x.enter s).radio.radioState = s ∨
      (x.enter s).radio.radioState = q.radioState := by
  unfold Xmit.enter
  dsimp only
  split
  next h => exact .inl ⟨h,rfl⟩
  next => exact .inr hx.radioState

/-- The states of a link that is up, or was until this pass. -/
def RadioState.Leaves (s : RadioState) : Prop :=
  s = .linkUp ∨ s = .linkUpWaitTxDone ∨ s = .reset

theorem RadioState.Leaves.inRole (h : r.radioState.Leaves) : r.InRole receiver := by
  constructor
  · rintro (hs | hs) <;> rcases h with h | h | h <;> simp [h] at hs
  · intro hs
    rcases h with h | h | h <;> simp [h] at hs

theorem enter_leaves {x : Xmit} {q : Radio} {f : Frame} (hx : x.Sends q f)
    (hq : q.radioState = .linkUp) : (x.enter .linkUpWaitTxDone).radio.radioState.Leaves := by
  rcases hx.enter_state .linkUpWaitTxDone with h | h
  · exact .inr (.inl h)
  · exact .inl (h.trans hq)

theorem breakLink_leaves (p : Pass) : (breakLink p).radio.radioState.Leaves := .inr (.inr rfl)

theorem linkUpReceive_leaves {p : Reception} (hstate : r.radioState = .linkUp) :
    (linkUpReceive r p i).radio.radioState.Leaves := by
  obtain ⟨hs,_,_⟩ := rcvDatagram_same r p i
  have hack : ∀ q : Radio, q.radioState = r.radioState →
      (p2pSendAck q i).radio.radioState.Leaves := fun q hq =>
    enter_leaves (transmitDatagram_sends q .dataAck _ i) (hq.trans hstate)
  unfold linkUpReceive
  split
  case h_1 => exact breakLink_leaves _
  case h_5 q heq => exact .inl (by simpa [Radio.stopAckTimer,heq] using hs.trans hstate)
  case h_8 q _ _ _ _ _ _ _ _ heq => exact .inl (by simpa [heq] using hs.trans hstate)
  all_goals
    next q heq => exact hack q (by simpa [heq] using hs)

theorem linkUpTransmit_leaves (hstate : r.radioState = .linkUp) :
    (linkUpTransmit r i).radio.radioState.Leaves := by
  have hnew : ∀ t payload,
      ((transmitDatagram r t payload i).enter .linkUpWaitTxDone).radio.radioState.Leaves :=
    fun t payload => enter_leaves (transmitDatagram_sends r t payload i) hstate
  unfold linkUpTransmit
  split
  · exact hnew .heartbeat _
  split
  · split
    · unfold linkUpRetransmit
      split
      · dsimp only
        split
        · exact enter_leaves (transmitDatagram_sends r.restoreTxBuffer .heartbeat _ i) hstate
        · exact enter_leaves (retransmitDatagram_sends r.restoreTxBuffer i) hstate
      · exact breakLink_leaves _
    · exact .inl hstate
  split
  next packet _ =>
    by_cases hr : i.remoteCommandResponse = true
    · simp only [hr,if_true]
      exact hnew .remoteCommandResponse packet
    · simp only [hr]
      exact hnew .remoteCommand packet
  split
  · split
    next packet _ =>
      exact enter_leaves (transmitDatagram_sends { r with requestYield := false } .data packet i)
        hstate
    next => exact .inl hstate
  · exact .inl hstate

theorem linkUpPass_leaves (hstate : r.radioState = .linkUp) :
    (linkUpPass r packet i).radio.radioState.Leaves := by
  have hclose : ∀ p : Pass, p.radio.radioState.Leaves →
      (if i.linkTimeout then breakLink p else p).radio.radioState.Leaves := by
    intro p hp
    split
    · exact breakLink_leaves p
    · exact hp
  unfold linkUpPass
  apply hclose
  split
  · exact linkUpReceive_leaves hstate
  · split
    · exact linkUpTransmit_leaves hstate
    · exact .inl hstate

/-- In the states before the handshake nothing is asked of the flag. -/
theorem inRole_of_idle (h : r.radioState = .linkDown ∨ r.radioState = .waitTxFindPartnerDone ∨
    r.radioState = .waitSyncClocks) : r.InRole receiver := by
  constructor
  · rintro (hs | hs) <;> rcases h with h | h | h <;> simp [h] at hs
  · intro hs
    rcases h with h | h | h <;> simp [h] at hs

theorem inRole_of_source (h : r.radioState = .waitTxSyncClocksDone ∨ r.radioState = .waitZeroAcks)
    (hflag : receiver = false) : r.InRole receiver := by
  refine ⟨fun _ => hflag,fun hs => ?_⟩
  rcases h with h | h <;> simp [h] at hs

theorem inRole_of_sink (h : r.radioState = .waitTxZeroAcksDone) (hflag : receiver = true) :
    r.InRole receiver := by
  refine ⟨?_,fun _ => hflag⟩
  rintro (hs | hs) <;> simp [h] at hs

/-- RADIO_P2P_LINK_DOWN is left for SYNC_CLOCKS only by a pass that cleared
the flag. -/
theorem linkDownPass_cases (packet : Option Reception) (i : Inputs) (receiver : Bool)
    (hstate : r.radioState = .linkDown) :
    (linkDownPass r packet i).radio.radioState = .linkDown ∨
      (linkDownPass r packet i).radio.radioState = .waitTxFindPartnerDone ∨
      ((linkDownPass r packet i).radio.radioState = .waitTxSyncClocksDone ∧
        clockSyncReceiver r packet i receiver = false) := by
  unfold linkDownPass
  cases packet with
  | none =>
    dsimp only
    split
    · rcases (transmitDatagram_sends r .findPartner (millisBytes i.millis) i).enter_state
        .waitTxFindPartnerDone with h | h
      · exact .inr (.inl h)
      · exact .inl (h.trans hstate)
    · exact .inl hstate
  | some p =>
    obtain ⟨hs,_,_⟩ := rcvDatagram_same r p i
    dsimp only
    split
    next q heq =>
      have hq : q.radioState = .linkDown := by simpa [heq] using hs.trans hstate
      rcases (transmitDatagram_sends q .syncClocks (i.channelNumber :: millisBytes i.millis)
        i).enter_state .waitTxSyncClocksDone with h | h
      · exact .inr (.inr ⟨h,by simp [clockSyncReceiver,hstate,heq]⟩)
      · exact .inl (h.trans hq)
    next q _ _ heq => exact .inl (by simpa [heq] using hs.trans hstate)

theorem linkDownPass_inRole (hstate : r.radioState = .linkDown) :
    (linkDownPass r packet i).radio.InRole (clockSyncReceiver r packet i receiver) := by
  rcases linkDownPass_cases packet i receiver hstate with h | h | ⟨h,hflag⟩
  · exact inRole_of_idle (.inl h)
  · exact inRole_of_idle (.inr (.inl h))
  · exact inRole_of_source (.inl h) hflag

/-- RADIO_P2P_WAIT_SYNC_CLOCKS is left for either side of the handshake with
the flag of that side. -/
theorem waitSyncClocksPass_cases (hstate : r.radioState = .waitSyncClocks)
    (hrole : TakesRole r receiver i packet) :
    (waitSyncClocksPass r packet i).radio.radioState = .linkDown ∨
      (waitSyncClocksPass r packet i).radio.radioState = .waitSyncClocks ∨
      ((waitSyncClocksPass r packet i).radio.radioState = .waitTxSyncClocksDone ∧
        receiver = false) ∨
      ((waitSyncClocksPass r packet i).radio.radioState = .waitTxZeroAcksDone ∧
        receiver = true) := by
  unfold waitSyncClocksPass
  cases packet with
  | none =>
    dsimp only
    split
    · exact .inl rfl
    · exact .inr (.inl hstate)
  | some p =>
    obtain ⟨hs,_,hfrom⟩ := rcvDatagram_same r p i
    dsimp only
    split
    next q heq =>
      obtain ⟨f,rfl,hf⟩ := hfrom .findPartner (by rw [heq])
      have hq : q.radioState = .waitSyncClocks := by simpa [heq] using hs.trans hstate
      rcases enter_cases (transmitDatagram_sends q .syncClocks
        (i.channelNumber :: millisBytes i.millis) i) .waitTxSyncClocksDone with ⟨hok,h⟩ | h
      · exact .inr (.inr (.inl ⟨h,(hrole hstate hok).1 hf⟩))
      · exact .inr (.inl (h.trans hq))
    next q heq =>
      obtain ⟨f,rfl,hf⟩ := hfrom .syncClocks (by rw [heq])
      have hq : q.radioState = .waitSyncClocks := by simpa [heq] using hs.trans hstate
      rcases enter_cases (transmitDatagram_sends q .zeroAcks (millisBytes i.millis) i)
        .waitTxZeroAcksDone with ⟨hok,h⟩ | h
      · exact .inr (.inr (.inr ⟨h,(hrole hstate hok).2 hf⟩))
      · exact .inr (.inl (h.trans hq))
    next q _ _ _ heq => exact .inr (.inl (by simpa [heq] using hs.trans hstate))

theorem waitSyncClocksPass_inRole (hstate : r.radioState = .waitSyncClocks)
    (hrole : TakesRole r receiver i packet) :
    (waitSyncClocksPass r packet i).radio.InRole receiver := by
  rcases waitSyncClocksPass_cases hstate hrole with h | h | ⟨h,hflag⟩ | ⟨h,hflag⟩
  · exact inRole_of_idle (.inl h)
  · exact inRole_of_idle (.inr (.inr h))
  · exact inRole_of_source (.inl h) hflag
  · exact inRole_of_sink h hflag

theorem waitZeroAcksPass_inRole (hstate : r.radioState = .waitZeroAcks)
    (h : r.InRole receiver) :
    (waitZeroAcksPass r packet i).radio.InRole (clockSyncReceiver r packet i receiver) := by
  have hflag := h.source (.inr hstate)
  unfold waitZeroAcksPass
  cases packet with
  | none =>
    dsimp only
    split
    · exact inRole_of_idle (.inl rfl)
    next htimer =>
      exact inRole_of_source (.inr hstate) (by simp [clockSyncReceiver,hstate,htimer,hflag])
  | some p =>
    obtain ⟨hs,_,_⟩ := rcvDatagram_same r p i
    dsimp only
    split
    next q heq => exact RadioState.Leaves.inRole (.inl rfl)
    next q _ _ heq =>
      refine inRole_of_source (.inr (by simpa [heq] using hs.trans hstate)) ?_
      simpa [clockSyncReceiver,hstate] using hflag

/-- A pass keeps the flag and the side of the handshake together. -/
theorem updateRadioState_inRole (h : r.InRole receiver) (hrole : TakesRole r receiver i packet) :
    (updateRadioState r packet i).radio.InRole (clockSyncReceiver r packet i receiver) := by
  have hsame : ∀ next, clockSyncReceiver r packet i receiver = receiver →
      (next.Leaves ∨ next = .waitSyncClocks ∨ (next = .waitZeroAcks ∧ receiver = false)) →
      (waitTxDonePass r packet next).radio.InRole (clockSyncReceiver r packet i receiver) := by
    intro next hflag hnext
    rw [hflag]
    unfold waitTxDonePass
    dsimp only
    split
    · rcases hnext with hn | hn | ⟨hn,hf⟩
      · exact RadioState.Leaves.inRole (r := { r with radioState := next }) hn
      · exact inRole_of_idle (.inr (.inr hn))
      · exact inRole_of_source (.inr hn) hf
    · exact h
  unfold updateRadioState
  cases hstate : r.radioState
  case reset => exact inRole_of_idle (.inl rfl)
  case linkDown => exact linkDownPass_inRole hstate
  case waitTxFindPartnerDone =>
    exact hsame _ (by simp [clockSyncReceiver,hstate]) (.inr (.inl rfl))
  case waitSyncClocks =>
    have hflag : clockSyncReceiver r packet i receiver = receiver := by
      simp [clockSyncReceiver,hstate]
    rw [hflag]
    exact waitSyncClocksPass_inRole hstate hrole
  case waitTxSyncClocksDone =>
    exact hsame _ (by simp [clockSyncReceiver,hstate])
      (.inr (.inr ⟨rfl,h.source (.inl hstate)⟩))
  case waitZeroAcks => exact waitZeroAcksPass_inRole hstate h
  case waitTxZeroAcksDone =>
    have hflag : clockSyncReceiver r packet i receiver = receiver := by
      simp [clockSyncReceiver,hstate]
    rw [hflag]
    dsimp only
    split
    · exact RadioState.Leaves.inRole (.inl rfl)
    · exact h
  case linkUp => exact (linkUpPass_leaves hstate).inRole
  case linkUpWaitTxDone =>
    exact hsame _ (by simp [clockSyncReceiver,hstate]) (.inl (.inl rfl))

/-- A pass that writes the flag does not end in a session. -/
theorem clockSyncReceiver_committed (hp : (updateRadioState r packet i).radio.Committed) :
    clockSyncReceiver r packet i receiver = receiver := by
  have hno : ∀ {q : Radio}, q.radioState.Handshaking → ¬ q.Committed := fun hq =>
    hq.not_committed
  cases hstate : r.radioState
  case reset =>
    refine absurd hp (hno ?_)
    simp [updateRadioState,hstate,resetPass,RadioState.Handshaking]
  case linkDown =>
    refine absurd hp (hno ?_)
    simp only [updateRadioState,hstate]
    rcases linkDownPass_cases packet i receiver hstate with
      h | h | ⟨h,_⟩ <;> simp [h,RadioState.Handshaking]
  case waitZeroAcks =>
    cases packet with
    | some p => simp [clockSyncReceiver,hstate]
    | none =>
      by_cases htimer : i.handshakeTimeout = true
      · refine absurd hp (hno ?_)
        simp [updateRadioState,hstate,waitZeroAcksPass,htimer,RadioState.Handshaking]
      · simp [clockSyncReceiver,hstate,htimer]
  all_goals simp [clockSyncReceiver,hstate]

/-- Outside a session, RADIO_P2P_LINK_UP is entered from the wait for ZERO_ACKS
alone. -/
theorem linkUp_from (hr : ¬ r.Committed) (hrole : TakesRole r receiver i packet)
    (hp : (updateRadioState r packet i).radio.radioState = .linkUp) :
    r.radioState = .waitZeroAcks := by
  have hdone : ∀ next, r.radioState ≠ .linkUp → next ≠ .linkUp →
      (waitTxDonePass r packet next).radio.radioState ≠ .linkUp := by
    intro next hne hnext
    unfold waitTxDonePass
    dsimp only
    split
    · exact hnext
    · exact hne
  unfold updateRadioState at hp
  cases hstate : r.radioState <;> simp only [hstate] at hp
  case reset => simp [resetPass] at hp
  case linkDown =>
    rcases linkDownPass_cases packet i receiver hstate with
      h | h | ⟨h,_⟩ <;> simp [h] at hp
  case waitTxFindPartnerDone => exact absurd hp (hdone _ (by simp [hstate]) (by simp))
  case waitSyncClocks =>
    rcases waitSyncClocksPass_cases hstate hrole with h | h | ⟨h,_⟩ | ⟨h,_⟩ <;> simp [h] at hp
  case waitTxSyncClocksDone => exact absurd hp (hdone _ (by simp [hstate]) (by simp))
  case waitZeroAcks => rfl
  case waitTxZeroAcksDone => exact absurd (.inr hstate) hr
  case linkUp => exact absurd (.inl (.inl hstate)) hr
  case linkUpWaitTxDone => exact absurd (.inl (.inr hstate)) hr

end OnePass

/-- What two radios owe to their handshakes. A ZERO_ACKS in flight tells the
peer of a committed radio that its own flag is the receiver's. -/
structure SyncedLink.Assigned (l : SyncedLink) : Prop where
  inRole : ∀ x, (l.radio x).InRole (l.receiver x)
  zeroAcks : ∀ x f, l.air = some (x,f) → f.Carries .zeroAcks → (l.radio x).Committed →
    l.receiver x = true
  differ : ∀ x, (l.radio x).Committed → (l.radio x.other).Committed →
    l.receiver x = !l.receiver x.other

/-- A step of either radio takes its side of the handshake with the flag of that
side. -/
def SyncedLink.TakesRole (l : SyncedLink) : Event → Prop
  | .pass x t i => P2P.TakesRole (l.radio x) (l.receiver x) i (l.packet x t)
  | .command _ => True
  | .lose => True

instance (l : SyncedLink) : (e : Event) → Decidable (l.TakesRole e)
  | .pass x t i => inferInstanceAs (Decidable (P2P.TakesRole _ _ i (l.packet x t)))
  | .command _ => inferInstanceAs (Decidable True)
  | .lose => inferInstanceAs (Decidable True)

section OneStep

variable {l : SyncedLink} {x : Side} {t : Transaction} {i : Inputs}

/-- A radio joins the session its peer is in by hearing ZERO_ACKS, as the
source of the clock. -/
theorem joins_as_source (h : l.Assigned) (hc : Consistent Agrees l.toLink)
    (hrole : l.TakesRole (.pass x t i)) (hr : ¬ (l.radio x).Committed)
    (hother : (l.radio x.other).Committed)
    (hp : (updateRadioState (l.radio x) (l.packet x t) i).radio.Committed) :
    l.receiver x = false ∧ l.receiver x.other = true := by
  have he := (updateRadioState_outcome (l.packet x t) i (hc.sound x)).effect
  obtain ⟨f,hpacket,hf⟩ := he.commits hr hp
  have hair := (air_of_answer (p := updateRadioState (l.radio x) (l.packet x t) i) hpacket).1
  have hz : f.Carries .zeroAcks :=
    hf.resolve_left fun hs => hc.syncClocks x.other f hair hs hother
  refine ⟨?_,h.zeroAcks x.other f hair hz hother⟩
  cases he with
  | apart hno _ => exact absurd hp hno
  | heardZeroAcks _ _ _ hstate => exact (h.inRole x).source (.inr (linkUp_from hr hrole hstate))
  | sentZeroAcks g hg hs =>
    obtain rfl : f = g := by simpa [hpacket] using hg
    exact absurd (hz.eq hs) (by decide)
  | linkedUp hstate => exact absurd (.inr hstate) hr
  | waiting hstate => exact absurd (.inr hstate) hr
  | exchange hlinked => exact absurd (.inl hlinked) hr

/-- A radio that is committed after it sent ZERO_ACKS waits for the end of that
transmission. -/
theorem Effect.sent_zeroAcks {r : Radio} {packet : Option Reception} {p : Pass}
    (he : Effect r packet i p) {f : Frame} (hair : p.onAir = some f) (hf : f.Carries .zeroAcks)
    (hp : p.radio.Committed) : p.radio.radioState = .waitTxZeroAcksDone := by
  cases he with
  | apart hno _ => exact absurd hp hno
  | heardZeroAcks _ _ _ _ _ _ _ hnone => simp [hnone] at hair
  | sentZeroAcks _ _ _ hstate => exact hstate
  | linkedUp _ _ _ _ _ hnone => simp [hnone] at hair
  | waiting _ hq => simp [hq] at hair
  | exchange _ _ _ hx => exact absurd (.inr hf) (hx.not_handshake hair)

theorem assigned_pass (h : l.Assigned) (hc : Consistent Agrees l.toLink)
    (hrole : l.TakesRole (.pass x t i)) : (l.step (.pass x t i)).Assigned := by
  have he := (updateRadioState_outcome (l.packet x t) i (hc.sound x)).effect
  have hself : (l.step (.pass x t i)).radio x =
      (updateRadioState (l.radio x) (l.packet x t) i).radio := by simp [Link.step]
  have hother : (l.step (.pass x t i)).radio x.other = l.radio x.other := by simp [Link.step]
  have hflag : (l.step (.pass x t i)).receiver x =
      clockSyncReceiver (l.radio x) (l.packet x t) i (l.receiver x) := by
    simp [SyncedLink.step]
  have hflag' : (l.step (.pass x t i)).receiver x.other = l.receiver x.other := by
    simp [SyncedLink.step]
  have hin : ((l.step (.pass x t i)).radio x).InRole ((l.step (.pass x t i)).receiver x) := by
    rw [hself,hflag]
    exact updateRadioState_inRole (h.inRole x) hrole
  -- the flags of two committed radios differ, whichever of them is asked first
  have hdiffer : ((l.step (.pass x t i)).radio x).Committed → (l.radio x.other).Committed →
      (l.step (.pass x t i)).receiver x = !l.receiver x.other := by
    intro hx hy
    rw [hself] at hx
    rw [hflag,clockSyncReceiver_committed hx]
    by_cases hr : (l.radio x).Committed
    · exact h.differ x hr hy
    · obtain ⟨hs,hs'⟩ := joins_as_source h hc hrole hr hy hx
      rw [hs,hs']
      rfl
  constructor
  case inRole =>
    intro y
    rcases x.eq_or_other y with rfl | rfl
    · exact hin
    · rw [hother,hflag']
      exact h.inRole _
  case zeroAcks =>
    intro y f hair hf hy
    rcases inFlight_cases hair with ⟨hold,hno⟩ | ⟨rfl,hnew⟩
    · rcases x.eq_or_other y with rfl | rfl
      · rw [hself] at hy
        rw [hflag,clockSyncReceiver_committed hy]
        refine h.zeroAcks y f hold hf ?_
        by_contra hr
        obtain ⟨g,hg,_⟩ := he.commits hr hy
        exact hno g hg
      · rw [hother] at hy
        rw [hflag']
        exact h.zeroAcks _ f hold hf hy
    · rw [hself] at hy
      exact hin.sink (hself ▸ he.sent_zeroAcks hnew hf hy)
  case differ =>
    intro y hy hy'
    rcases x.eq_or_other y with rfl | rfl
    · rw [hother] at hy'
      rw [hflag']
      exact hdiffer hy hy'
    · rw [hother] at hy
      rw [Side.other_other] at hy' ⊢
      rw [hflag',hdiffer hy' hy]
      simp

end OneStep

/-- Every step that takes its side of the handshake with the right flag keeps
the flags of a session apart. -/
theorem assigned_step {l : SyncedLink} (e : Event) (h : l.Assigned)
    (hc : Consistent Agrees l.toLink) (hrole : l.TakesRole e) : (l.step e).Assigned := by
  cases e with
  | pass x t i => exact assigned_pass h hc hrole
  | lose => exact ⟨h.inRole,by simp [Link.step],h.differ⟩
  | command x =>
    have hreset : ((l.step (.command x)).radio x).radioState = .reset := by simp [Link.step]
    have hno : ¬ ((l.step (.command x)).radio x).Committed :=
      RadioState.Handshaking.not_committed (by rw [hreset]; simp [RadioState.Handshaking])
    have hother : (l.step (.command x)).radio x.other = l.radio x.other := by simp [Link.step]
    constructor
    case inRole =>
      intro y
      rcases x.eq_or_other y with rfl | rfl
      · exact RadioState.Leaves.inRole (.inr (.inr hreset))
      · rw [hother]
        exact h.inRole _
    case zeroAcks =>
      intro y f hair hf hy
      rcases x.eq_or_other y with rfl | rfl
      · exact absurd hy hno
      · rw [hother] at hy
        exact h.zeroAcks _ f hair hf hy
    case differ =>
      intro y hy hy'
      rcases x.eq_or_other y with rfl | rfl
      · exact absurd hy hno
      · rw [Side.other_other] at hy'
        exact absurd hy' hno

theorem Link.Started.assigned {l : SyncedLink} (h : l.Started) : l.Assigned := by
  have hno : ∀ x, ¬ (l.radio x).Committed := by
    intro x
    simp [Radio.Committed,Radio.Linked,h.1 x]
  exact ⟨fun x => RadioState.Leaves.inRole (.inr (.inr (h.1 x))),by simp [h.2],
    fun x hx => absurd hx (hno x)⟩

structure SyncedLink.Sound (l : SyncedLink) : Prop where
  consistent : Consistent Agrees l.toLink
  assigned : l.Assigned

/-- As long as no radio takes a side of the handshake with the flag of the
other side, two linked radios have one source of the clock. -/
theorem one_clock_source (l : SyncedLink) (h : l.Started) (es : List Event)
    (hroles : Along SyncedLink.step SyncedLink.TakesRole l es)
    (hlinked : ∀ x, ((run SyncedLink.step l es).radio x).Linked) :
    ∃! x, (run SyncedLink.step l es).receiver x = true := by
  have hstep : ∀ m e, SyncedLink.Sound m → SyncedLink.TakesRole m e →
      SyncedLink.Sound (SyncedLink.step m e) := by
    intro m e hm hrole
    refine ⟨consistent_step agrees_kept m.toLink e hm.consistent ?_,
      assigned_step e hm.assigned hm.consistent hrole⟩
    cases e <;> simp [Link.Spares]
  have hinv := invariant hstep ⟨h.consistent,h.assigned⟩ hroles
  have hdiffer := hinv.assigned.differ .a (.inl (hlinked .a)) (.inl (hlinked _))
  cases ha : (run SyncedLink.step l es).receiver .a with
  | true =>
    refine ⟨.a,ha,fun y hy => ?_⟩
    cases y with
    | a => rfl
    | b => simp [ha,Side.other,hy] at hdiffer
  | false =>
    refine ⟨.b,by simpa [ha,Side.other] using hdiffer,fun y hy => ?_⟩
    cases y with
    | a => simp [ha] at hy
    | b => rfl

/-- Powered up, with the flags a session before may have left. -/
def SyncedLink.powerUp : SyncedLink := ⟨.powerUp,fun _ => false⟩

theorem one_clock_source_handshake :
    ∃! x, (run SyncedLink.step .powerUp handshake).receiver x = true :=
  one_clock_source .powerUp ⟨fun x => by cases x <;> rfl,rfl⟩ handshake (by decide)
    (fun x => by cases x <;> decide)

/-- Both radios leave RADIO_RESET. -/
def bothReset : List Event :=
  [.pass .a .none .idle,.lose,.pass .b .none .idle,.lose]

/-- SYNC_CLOCKS is in flight from `x`: its peer answers it and `x` hears ZERO_ACKS. -/
def answered (x : Side) : List Event :=
  [.pass x (.finished .bad) .idle,.pass x.other .received .idle,
    .pass x.other (.finished .bad) .idle,.pass x .received .idle]

/-- Both send FIND_PARTNER, the one from A is lost, and A answers the other one
while it waits for SYNC_CLOCKS. -/
def crossedFindPartners : List Event :=
  bothReset ++ [.pass .a .none { Inputs.idle with findPartnerTimeout := true },.lose,
    .pass .a (.finished .bad) .idle,
    .pass .b .none { Inputs.idle with findPartnerTimeout := true },
    .pass .b (.finished .bad) .idle,.pass .a .received .idle] ++ answered .a

/-- A hears FIND_PARTNER but its SYNC_CLOCKS is cancelled. B times out and then
answers the FIND_PARTNER of A. -/
def canceledSyncClocks : List Event :=
  bothReset ++ [.pass .b .none { Inputs.idle with findPartnerTimeout := true },
    .pass .b (.finished .bad) .idle,
    .pass .a .received { Inputs.idle with transmit := .canceled },
    .pass .b .none { Inputs.idle with handshakeTimeout := true },
    .pass .a .none { Inputs.idle with findPartnerTimeout := true },
    .pass .a (.finished .bad) .idle,.pass .b .received .idle] ++ answered .b

theorem no_single_clock_source :
    SyncedLink.powerUp.Started ∧
    (∀ x, ((run SyncedLink.step .powerUp crossedFindPartners).radio x).Linked) ∧
    (∀ x, (run SyncedLink.step .powerUp crossedFindPartners).receiver x = true) ∧
    (∀ x, ((run SyncedLink.step .powerUp canceledSyncClocks).radio x).Linked) ∧
    (∀ x, (run SyncedLink.step .powerUp canceledSyncClocks).receiver x = false) ∧
    ¬ (∃! x, (run SyncedLink.step .powerUp crossedFindPartners).receiver x = true) ∧
    ¬ ∃! x, (run SyncedLink.step .powerUp canceledSyncClocks).receiver x = true := by
  have hboth : ∀ x, (run SyncedLink.step .powerUp crossedFindPartners).receiver x = true := by
    intro x
    cases x <;> decide
  have hnone : ∀ x, (run SyncedLink.step .powerUp canceledSyncClocks).receiver x = false := by
    intro x
    cases x <;> decide
  refine ⟨⟨fun x => by cases x <;> rfl,rfl⟩,?_,hboth,?_,hnone,?_,?_⟩
  · intro x
    cases x <;> decide
  · intro x
    cases x <;> decide
  · rintro ⟨x,_,hx⟩
    exact x.ne_other (hx x.other (hboth _)).symm
  · rintro ⟨x,hx,_⟩
    rw [hnone] at hx
    simp at hx

end LoRaSerial.P2P
