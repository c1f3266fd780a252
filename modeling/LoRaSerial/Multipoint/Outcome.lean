import LoRaSerial.Multipoint.Radio

namespace LoRaSerial.Multipoint
open scoped List

/-- The states of the data exchange. -/
def Radio.Synchronized (r : Radio) : Prop :=
  r.radioState = .mpStandby ∨ r.radioState = .mpWaitTxDone

/-- A frame that names the channel of the server. -/
def Frame.Clock (f : Frame) : Prop :=
  f.datagramType = .syncClocks ∨ f.datagramType = .heartbeat

instance (r : Radio) : Decidable r.Synchronized := inferInstanceAs (Decidable (_ ∨ _))

instance (f : Frame) : Decidable f.Clock := inferInstanceAs (Decidable (_ ∨ _))

/-- The settings, the serial input and what went to the host are the same. -/
structure Same (r r' : Radio) : Prop where
  settings : r'.settings = r.settings
  port : r'.port = r.port
  delivered : r'.delivered = r.delivered

theorem Same.refl (r : Radio) : Same r r := ⟨rfl,rfl,rfl⟩

theorem Same.trans {r r' r'' : Radio} (h : Same r r') (h' : Same r' r'') : Same r r'' :=
  ⟨h'.1.trans h.1,h'.2.trans h.2,h'.3.trans h.3⟩

section Operations

variable (r : Radio) (i : Inputs)

theorem same_changeState (s : RadioState) : Same r (r.changeState s) := ⟨rfl,rfl,rfl⟩

theorem same_tune (c : UInt8) : Same r (r.tune c) := ⟨rfl,rfl,rfl⟩

theorem same_hop (b : Bool) : Same r (r.hop b) := by
  cases b
  · exact .refl r
  · exact same_tune r _

@[simp] theorem hop_radioState (b : Bool) : (r.hop b).radioState = r.radioState := by
  cases b <;> rfl

theorem same_syncChannelTimer (k : Fin 4) : Same r (r.syncChannelTimer k) := by
  unfold Radio.syncChannelTimer
  split
  · exact .refl r
  · exact same_tune r _

@[simp] theorem syncChannelTimer_radioState (k : Fin 4) :
    (r.syncChannelTimer k).radioState = r.radioState := by
  unfold Radio.syncChannelTimer
  split <;> rfl

theorem same_join (rxData : List UInt8) : Same r (r.join rxData i) :=
  (((same_tune r _).trans (same_syncChannelTimer _ _)).trans (same_hop _ _)).trans
    (same_changeState _ _)

theorem same_previousChannel : Same r r.previousChannel := by
  unfold Radio.previousChannel
  dsimp only
  split <;> exact ⟨rfl,rfl,rfl⟩

@[simp] theorem previousChannel_radioState : r.previousChannel.radioState = r.radioState := by
  unfold Radio.previousChannel
  dsimp only
  split <;> rfl

theorem same_giveUp : Same r r.giveUp := ⟨rfl,rfl,rfl⟩

theorem same_transmitDatagram (t : DatagramType) (payload : List UInt8) (next : RadioState) :
    Same r (r.transmitDatagram t payload i next).1 := by
  unfold Radio.transmitDatagram
  dsimp only
  split
  · exact (same_hop r i.transmitHop).trans ⟨rfl,rfl,rfl⟩
  · exact (same_hop r i.transmitHop).trans ⟨rfl,rfl,rfl⟩

theorem transmitDatagram_radioState (t : DatagramType) (payload : List UInt8) (next : RadioState) :
    (r.transmitDatagram t payload i next).1.radioState = next ∨
      (r.transmitDatagram t payload i next).1.radioState = r.radioState := by
  unfold Radio.transmitDatagram
  dsimp only
  split
  · exact .inl rfl
  · exact .inr (hop_radioState r i.transmitHop)

/-- transmitDatagram puts one frame on the air at most. -/
theorem eq_of_onAir {c : Bool} {f g : Frame} (h : f ∈ if c then [g] else []) : f = g := by
  cases c
  · exact absurd h List.not_mem_nil
  · exact List.mem_singleton.mp h

theorem onAir_sublist (c : Bool) (f : Frame) : (if c then [f] else []) <+ [f] := by
  cases c
  · exact List.nil_sublist _
  · exact List.Sublist.refl _

end Operations

/-- Nothing is sent, a client joins its server or looks for it, the server names
its channel, data is sent, or data is received. -/
inductive Outcome (r : Radio) (packet : Option (Option Frame)) (i : Inputs) :
    Radio × List Frame → Prop
  | silent {r' : Radio} (same : Same r r')
      (synchronized : r'.Synchronized → r.Synchronized ∨ r.settings.server = true) :
      Outcome r packet i (r',[])
  | joined (f : Frame) (hpacket : packet = some (some f)) (hclock : f.Clock)
      (hbefore : ¬r.Synchronized) : Outcome r packet i (r.join f.payload i,[])
  | searched {r' : Radio} {frames : List Frame} (same : Same r r') (hafter : ¬r'.Synchronized)
      (hframes : ∀ f ∈ frames, f.datagramType = .findPartner) : Outcome r packet i (r',frames)
  | namedChannel {r' : Radio} {frames : List Frame} (same : Same r r')
      (hserver : r.settings.server = true) (hstate : r.radioState = .mpStandby)
      (hframes : ∀ f ∈ frames, f.Clock ∧ ∃ a b,
        f.payload.head? = some ((r.hop a).hop b).channelNumber) : Outcome r packet i (r',frames)
  | sentData {r' : Radio} {frames : List Frame} (hstate : r.radioState = .mpStandby)
      (hready : r.packetReady i = true) (same : Same (r.processWaitingSerial i) r')
      (hframes : frames <+ [⟨.data,r.packet⟩]) : Outcome r packet i (r',frames)
  | gotData {r' : Radio} (f : Frame) (hpacket : packet = some (some f))
      (hdata : f.datagramType = .data) (hstate : r.radioState = .mpStandby)
      (same : Same { r with delivered := r.delivered ++ [f.payload] } r') :
      Outcome r packet i (r',[])

variable {r : Radio} {packet : Option (Option Frame)} {i : Inputs}

theorem synchronized_of_mpStandby (h : r.radioState = .mpStandby) : r.Synchronized := .inl h

/-- A pass that leaves the states of the data exchange, or stays in them. -/
theorem Outcome.stay {r' : Radio} (same : Same r r') (hstate : r.radioState = .mpStandby) :
    Outcome r packet i (r',[]) :=
  .silent same fun _ => .inl (synchronized_of_mpStandby hstate)

theorem not_synchronized {s : RadioState} (h : r.radioState = s) (hs : s ≠ .mpStandby)
    (hs' : s ≠ .mpWaitTxDone) : ¬r.Synchronized := by
  rintro (hr | hr)
  · exact hs (h.symm.trans hr)
  · exact hs' (h.symm.trans hr)

theorem outcome_discoverBegin : Outcome r packet i (discoverBeginPass r,[]) := by
  unfold discoverBeginPass
  split
  next hserver => exact .silent (same_changeState r _) fun _ => .inr hserver
  next =>
    split
    · exact .silent ((same_tune r 0).trans (same_changeState _ _)) (by rintro (h | h) <;> cases h)
    · exact .silent ⟨rfl,rfl,rfl⟩ (by rintro (h | h) <;> cases h)

theorem outcome_scanningTimeout (hstate : r.radioState = .discoverScanning) :
    Outcome r packet i (scanningTimeout r i) := by
  have hprevious : r.previousChannel.radioState = .discoverScanning :=
    (previousChannel_radioState r).trans hstate
  unfold scanningTimeout
  dsimp only
  split
  · exact .silent ((same_previousChannel r).trans (same_giveUp _)) (by rintro (h | h) <;> cases h)
  · refine .searched ((same_previousChannel r).trans (same_transmitDatagram _ _ _ _ _)) ?_ ?_
    · rcases transmitDatagram_radioState r.previousChannel { i with transmitHop := false }
        .findPartner (P2P.millisBytes i.millis) .discoverWaitTxFindPartnerDone with h | h
      · exact not_synchronized h (by decide) (by decide)
      · exact not_synchronized (h.trans hprevious) (by decide) (by decide)
    · intro f hf
      rw [eq_of_onAir hf]

theorem outcome_discoverScanning (hstate : r.radioState = .discoverScanning) :
    Outcome r packet i (discoverScanningPass r packet i) := by
  have hbefore : ¬r.Synchronized := not_synchronized hstate (by decide) (by decide)
  unfold discoverScanningPass
  split
  next hserver => exact .silent (same_changeState r _) fun _ => .inr hserver
  next =>
    split
    next f =>
      split
      next htype => exact .joined f rfl (.inl htype) hbefore
      next => exact .silent (.refl r) fun h => absurd h hbefore
    next => exact .silent (.refl r) fun h => absurd h hbefore
    next =>
      split
      · exact outcome_scanningTimeout hstate
      · exact .silent (.refl r) fun h => absurd h hbefore

theorem outcome_discoverStandby (hstate : r.radioState = .discoverStandby) :
    Outcome r packet i (discoverStandbyPass r packet i) := by
  have hbefore : ¬r.Synchronized := not_synchronized hstate (by decide) (by decide)
  unfold discoverStandbyPass
  split
  next f =>
    split
    next htype => exact .joined f rfl (.inr htype.1) hbefore
    next => exact .silent (.refl r) fun h => absurd h hbefore
  next => exact .silent (.refl r) fun h => absurd h hbefore

/-- A frame the server sends after the hops of a pass. -/
theorem outcome_namedChannel {r' : Radio} {a b : Bool} {t : DatagramType} {rest : List UInt8}
    {next : RadioState} (hr' : r' = (r.hop a).hop b) (hserver : r.settings.server = true)
    (hstate : r.radioState = .mpStandby) (hclock : t = .syncClocks ∨ t = .heartbeat) :
    Outcome r packet i (r'.transmitDatagram t (r'.channelNumber :: rest) i next) := by
  subst hr'
  refine .namedChannel (((same_hop r a).trans (same_hop _ b)).trans
    (same_transmitDatagram _ _ _ _ _)) hserver hstate fun f hf => ?_
  rw [eq_of_onAir hf]
  exact ⟨hclock,a,b,rfl⟩

theorem outcome_mpReceive {f : Frame} (hstate : r.radioState = .mpStandby) :
    Outcome r (some (some f)) i (mpReceive ((r.hop i.passHop).hop i.receiveHop) f i) := by
  have hsame : Same r ((r.hop i.passHop).hop i.receiveHop) :=
    (same_hop r _).trans (same_hop _ _)
  unfold mpReceive
  split
  next htype =>
    split
    next hserver => exact outcome_namedChannel rfl (hsame.settings ▸ hserver) hstate (.inl rfl)
    next => exact .stay hsame hstate
  next =>
    split
    · exact .stay hsame hstate
    · exact .stay (hsame.trans (same_syncChannelTimer _ _)) hstate
  next hdata =>
    refine .gotData f rfl hdata hstate ⟨hsame.settings,hsame.port,?_⟩
    exact congrArg (· ++ [f.payload]) hsame.delivered
  next => exact .stay hsame hstate

theorem packetReady_hop (b : Bool) : (r.hop b).packetReady i = r.packetReady i := by
  cases b <;> rfl

theorem packet_hop (b : Bool) : (r.hop b).packet = r.packet := by
  cases b <;> rfl

theorem outcome_mpTransmit (hstate : r.radioState = .mpStandby) :
    Outcome r packet i (mpTransmit (r.hop i.passHop) i) := by
  have hsame : Same r (r.hop i.passHop) := same_hop r _
  unfold mpTransmit
  split
  next hheartbeat =>
    exact outcome_namedChannel (a := i.passHop) (b := false) rfl
      (hsame.settings ▸ hheartbeat.1) hstate (.inr rfl)
  next =>
    split
    next hready =>
      refine .sentData hstate ((packetReady_hop _).symm.trans hready) ?_ ?_
      · refine Same.trans ?_ (same_transmitDatagram _ _ _ _ _)
        cases i.passHop <;> exact ⟨rfl,rfl,rfl⟩
      · rw [packet_hop]
        exact onAir_sublist _ _
    next =>
      split
      · exact .silent (hsame.trans (same_changeState _ _)) (by rintro (h | h) <;> cases h)
      · exact .stay hsame hstate

theorem outcome_mpStandby (hstate : r.radioState = .mpStandby) :
    Outcome r packet i (mpStandbyPass r packet i) := by
  unfold mpStandbyPass
  dsimp only
  split
  next f => exact outcome_mpReceive hstate
  next => exact .stay ((same_hop r _).trans (same_hop _ _)) hstate
  next =>
    split
    · exact outcome_mpTransmit hstate
    · exact .stay (same_hop r _) hstate

theorem outcome_updateRadioState (r : Radio) (packet : Option (Option Frame)) (i : Inputs) :
    Outcome r packet i (updateRadioState r packet i) := by
  unfold updateRadioState
  split
  next => exact outcome_discoverBegin
  next hstate => exact outcome_discoverScanning hstate
  next hstate =>
    have hbefore : ¬r.Synchronized := not_synchronized hstate (by decide) (by decide)
    split
    · exact .silent (same_changeState r _) (by rintro (h | h) <;> cases h)
    · exact .silent (.refl r) fun h => absurd h hbefore
  next hstate => exact outcome_discoverStandby hstate
  next hstate => exact outcome_mpStandby hstate
  next hstate =>
    dsimp only
    split
    · exact .silent ((same_hop r _).trans (same_changeState _ _)) fun _ => .inl (.inr hstate)
    · exact .silent (same_hop r _) fun _ => .inl (.inr hstate)

/-- The packet of a pass. -/
abbrev packetOf (transactionComplete : Bool) (heard : Option Frame) : Option (Option Frame) :=
  if transactionComplete then some heard else none

theorem outcome_pass (r : Radio) (heard : Option Frame) (transactionComplete : Bool)
    (i : Inputs) : Outcome r (packetOf transactionComplete heard) i
      (handle r heard (.pass transactionComplete i)) :=
  outcome_updateRadioState r _ i

end LoRaSerial.Multipoint
