import LoRaSerial.Bridge.Station
import LoRaSerial.P2P.Delivery

namespace LoRaSerial.Bridge
open Codec Rings Runs Serial
open P2P (Side Frame Reception Damage Inputs Pass Link)

variable {ch : Channel} {b : Pair} {l : Link} {s : Station} {c : Call}

theorem Channel.maxDatagramSize_toNat (ch : Channel) :
    ch.maxDatagramSize.toNat = ch.layout.maxDatagramSize := by
  have hbounds := ch.maxDatagramSize_bounds
  unfold Channel.maxDatagramSize
  rw [UInt8.toNat_ofNat']
  exact Nat.mod_eq_of_lt (by omega)

theorem Channel.holds_of_short (ch : Channel) {payload : List UInt8} (h : payload.length ≤ 5) :
    ch.Holds payload := by
  have hbounds := ch.maxDatagramSize_bounds
  unfold Channel.Holds
  omega

theorem processWaitingSerial_payloads (p : Port) (sendNow timeout : Bool)
    (maxDatagramSize : UInt8) :
    (processWaitingSerial p sendNow timeout maxDatagramSize).payloads = p.payloads ++
      (processWaitingSerial { p with payloads := [] } sendNow timeout
        maxDatagramSize).payloads := by
  unfold processWaitingSerial
  dsimp only
  split
  · rfl
  · split
    · rfl
    · exact (List.append_nil _).symm

/-- One payload is loaded, or none. -/
theorem loaded_payload {p : Port} {sendNow timeout : Bool} {maxDatagramSize : UInt8}
    {packet : List UInt8} (h : (processWaitingSerial { p with payloads := [] } sendNow timeout
      maxDatagramSize).payloads.head? = some packet) :
    (processWaitingSerial { p with payloads := [] } sendNow timeout maxDatagramSize).payloads =
      [packet] ∧ packet.length ≤ maxDatagramSize.toNat := by
  have hready : ∀ q : Port, q.payloads = [] → q.radioTxBuffer = p.radioTxBuffer →
      (readyOutgoingPacket q p.radioTxBuffer.available maxDatagramSize).payloads.head? =
        some packet →
      (readyOutgoingPacket q p.radioTxBuffer.available maxDatagramSize).payloads = [packet] ∧
        packet.length ≤ maxDatagramSize.toNat := by
    intro q hnone hring hhead
    have htake := p.radioTxBuffer.take_contents (Nat.min_le_left p.radioTxBuffer.available
      maxDatagramSize.toNat)
    simp only [readyOutgoingPacket,hnone,hring,List.nil_append,List.head?_cons,
      Option.some.injEq] at hhead ⊢
    refine ⟨by rw [hhead],?_⟩
    rw [← hhead,htake.1,List.length_take]
    omega
  unfold processWaitingSerial at h ⊢
  dsimp only at h ⊢
  split at h
  next hfull =>
    rw [if_pos hfull]
    exact hready _ rfl rfl h
  next hfull =>
    rw [if_neg hfull]
    split at h
    next hnow =>
      rw [if_pos hnow]
      exact hready _ rfl rfl h
    next => cases h

theorem Station.supplies (s : Station) (ch : Channel) (c : Call) :
    P2P.Supplies ch.Holds (s.inputs ch c) where
  millis := ch.holds_of_short (Nat.le_succ 4)
  syncClocks := ch.holds_of_short (Nat.le_refl 5)
  command packet h := by
    have hpacket : (if s.commandTXBuffer.available = 0 then none
        else some (s.readyOutgoingCommandPacket ch).1) = some packet := h
    split at hpacket
    · cases hpacket
    · have htake := s.commandTXBuffer.take_contents
        (Nat.min_le_left s.commandTXBuffer.available ch.layout.maxDatagramSize)
      rw [← Option.some.inj hpacket,Station.readyOutgoingCommandPacket,htake.1]
      unfold Channel.Holds
      rw [List.length_take]
      omega
  serial packet h := by
    have hshort := (loaded_payload h).2
    rwa [ch.maxDatagramSize_toNat] at hshort

theorem Station.loaded_payloads (packet : Option Reception) :
    (s.loaded ch packet c (s.pass ch packet c)).port.payloads =
      s.port.payloads ++ (s.pass ch packet c).taken := by
  unfold Station.loaded
  dsimp only
  rcases (P2P.updateRadioState_moved s.radio packet (s.inputs ch c)).1 with htaken | htaken
  · have hnone : (s.pass ch packet c).taken = [] := htaken
    rw [if_pos hnone,hnone,List.append_nil]
  · obtain ⟨p,hp,htaken⟩ := htaken
    have hone : (s.pass ch packet c).taken = [p] := htaken
    rw [if_neg (by rw [hone]; exact List.cons_ne_nil p []),hone]
    refine (processWaitingSerial_payloads _ _ _ _).trans ?_
    rw [(loaded_payload hp).1]

theorem Station.received_payloads (packet : Option Reception) (i : Inputs) (cts : Nat) :
    (s.received packet i cts).port.payloads = s.port.payloads := by
  unfold Station.received
  split
  · split <;> rfl
  · rfl

theorem chunks_payload (t : DatagramType) (rxData : List UInt8) :
    (Station.chunks t rxData).flatMap Chunk.payload = if t = .data then [rxData] else [] := by
  cases t <;> rfl

theorem Station.received_printed (packet : Option Reception) (i : Inputs) (cts : Nat) :
    (s.received packet i cts).printed.flatMap Chunk.payload =
      s.printed.flatMap Chunk.payload ++ P2P.accepted s.radio packet i := by
  unfold Station.received P2P.accepted
  cases s.radio.radioState with
  | reset | linkDown | waitTxFindPartnerDone | waitSyncClocks | waitTxSyncClocksDone
    | waitZeroAcks | waitTxZeroAcksDone | linkUpWaitTxDone => exact (List.append_nil _).symm
  | linkUp =>
    cases packet with
    | none => exact (List.append_nil _).symm
    | some p =>
      dsimp only
      split
      next t ht =>
        rw [ht]
        simp only [Station.store,List.flatMap_append,chunks_payload,PacketType.datagram.injEq]
      next hother =>
        rw [if_neg fun h => hother _ h,List.append_nil]

/-- The radio after a call, and the data it has moved while linked. -/
theorem Station.updateRadioState_moved (s : Station) (packet : Option Reception) (c : Call)
    (hsound : s.radio.Sound) (hl : (s.pass ch packet c).radio.Linked) :
    (s.updateRadioState ch packet c).port.payloads =
      (if (s.pass ch packet c).linkUp then [] else s.port.payloads) ++
        (s.pass ch packet c).taken ∧
    (s.updateRadioState ch packet c).printed.flatMap Chunk.payload =
      (if (s.pass ch packet c).linkUp then [] else s.printed.flatMap Chunk.payload) ++
        (s.pass ch packet c).delivered := by
  have hdelivered : (s.pass ch packet c).delivered = P2P.accepted s.radio packet (s.inputs ch c) :=
    (P2P.updateRadioState_moved s.radio packet (s.inputs ch c)).2
  have houtcome : P2P.Outcome s.radio packet (s.inputs ch c) (s.pass ch packet c) :=
    P2P.updateRadioState_outcome packet (s.inputs ch c) hsound
  have hreset : (s.pass ch packet c).radio.radioState ≠ .reset := hl.not_reset
  unfold Station.updateRadioState Station.emptied
  dsimp only
  rcases houtcome.linked hl with ⟨hr,hup⟩ | ⟨hup,htaken,hnone⟩
  · have hkept : ¬(s.radio.radioState = .reset ∨ (s.pass ch packet c).linkUp = true) := by
      rintro (h | h)
      · exact hr.not_reset h
      · rw [hup] at h
        cases h
    rw [if_neg hkept,if_neg hreset,hup]
    refine ⟨?_,?_⟩
    · rw [received_payloads,loaded_payloads]
      rfl
    · rw [received_printed,hdelivered]
      rfl
  · rw [if_pos (.inr hup),hup,htaken,hnone]
    exact ⟨rfl,rfl⟩

/-- The bytes on the air are those of a frame. -/
inductive Channel.Carries (ch : Channel) :
    Option (Side × List UInt8) → Option (Side × Frame) → Prop
  | silent : ch.Carries none none
  | frame (x : Side) (f : Frame) (ms : BitVec 16) (stale : PacketBuffer) (h : ch.Holds f.payload) :
      ch.Carries (some (x,ch.encode f ms stale)) (some (x,f))

/-- Packets that no pass tells apart. -/
inductive Alike : Option Reception → Option Reception → Prop
  | same (p : Option Reception) : Alike p p
  | unread (p q : Reception) (hp : p.Unread) (hq : q.Unread) : Alike (some p) (some q)

theorem Alike.pass {p q : Option Reception} (h : Alike p q) (r : P2P.Radio) (i : Inputs) :
    P2P.updateRadioState r p i = P2P.updateRadioState r q i := by
  cases h with
  | same => rfl
  | unread p q hp hq => exact P2P.updateRadioState_unread hp hq r i

theorem Channel.Usable.decode_alike (h : ch.Usable) {f : Frame} (hf : ch.Holds f.payload)
    (ms : BitVec 16) (stale incomingBuffer : PacketBuffer) :
    Alike (some (ch.decode incomingBuffer (ch.encode f ms stale))) (some (.frame f)) := by
  cases hignore : f.control.ignoreFrame with
  | false =>
    rw [h.decode_encode hf hignore]
    exact .same _
  | true =>
    obtain ⟨d,hd⟩ : ∃ d, ch.decode incomingBuffer (ch.encode f ms stale) = .damaged d :=
      h.decode_ignored hf hignore
    rw [hd]
    exact .unread _ _ trivial hignore

/-- What the bytes are to a radio that receives them. -/
def Channel.transaction (ch : Channel) (incomingBuffer : PacketBuffer) :
    Transaction → P2P.Transaction
  | .none => .none
  | .received => .received
  | .finished bytes =>
    match ch.decode incomingBuffer bytes with
    | .damaged d => .finished d
    | .frame _ => .none

/-- An event as the link has it. -/
def Pair.linkEvents (ch : Channel) (b : Pair) : Event → List P2P.Event
  | .updateRadioState x t c =>
    [.pass x (ch.transaction c.incomingBuffer t) ((b.station x).inputs ch c)]
  | .reset x => [.command x]
  | .lose => [.lose]
  | _ => []

/-- What arrives and is not a frame of the other radio fails a check. -/
def Pair.Detects (ch : Channel) (_ : Pair) : Event → Prop
  | .updateRadioState _ (.finished bytes) c =>
    ∃ d, ch.decode c.incomingBuffer bytes = .damaged d
  | _ => True

instance : (e : Event) → Decidable (b.Detects ch e)
  | .updateRadioState _ (.finished bytes) c =>
    match h : ch.decode c.incomingBuffer bytes with
    | .damaged d => isTrue ⟨d,h⟩
    | .frame _ => isFalse fun ⟨_,hd⟩ => nomatch h.symm.trans hd
  | .updateRadioState _ .none _ | .updateRadioState _ .received _ => isTrue trivial
  | .updateSerial .. | .remoteCommands .. | .sendRemoteCommand .. | .print .. | .reset _ | .lose =>
    isTrue trivial

theorem receive_alike (h : ch.Usable) (hair : ch.Carries b.air l.air) {x : Side}
    {t : Transaction} (hdetects : b.Detects ch (.updateRadioState x t c)) :
    Alike (b.receive ch x c.incomingBuffer t).1
      (l.packet x (ch.transaction c.incomingBuffer t)) ∧
    ch.Carries (b.receive ch x c.incomingBuffer t).2
      (l.receive x (ch.transaction c.incomingBuffer t)).2 := by
  cases t with
  | none => exact ⟨.same _,hair⟩
  | finished bytes =>
    obtain ⟨d,hd⟩ := hdetects
    unfold Pair.receive Link.packet Channel.transaction
    dsimp only
    rw [hd]
    exact ⟨.same _,hair⟩
  | received =>
    unfold Pair.receive Link.packet Channel.transaction Link.receive
    dsimp only
    generalize b.air = air at hair ⊢
    generalize l.air = air' at hair ⊢
    cases hair with
    | silent => exact ⟨.same _,.silent⟩
    | frame s f ms stale hf =>
      dsimp only
      split
      · exact ⟨.same _,.frame s f ms stale hf⟩
      · exact ⟨h.decode_alike hf ms stale c.incomingBuffer,.silent⟩

/-- The stations are in the state of the link: the same radios, the frame in
flight as bytes, and the data moved since the link came up. -/
structure Refines (ch : Channel) (b : Pair) (l : Link) : Prop where
  radio : ∀ x, (b.station x).radio = l.radio x
  payloads : ∀ x, (l.radio x).All ch.Holds
  air : ch.Carries b.air l.air
  taken : ∀ x, (l.radio x).Linked → (b.station x).port.payloads = l.taken x
  delivered : ∀ x, (l.radio x).Linked →
    (b.station x).printed.flatMap Chunk.payload = l.delivered x

/-- What happens at one station between two passes leaves its radio. -/
theorem Refines.set (h : Refines ch b l) {x : Side} (hradio : s.radio = (b.station x).radio)
    (hpayloads : s.port.payloads = (b.station x).port.payloads)
    (hprinted : s.printed.flatMap Chunk.payload =
      (b.station x).printed.flatMap Chunk.payload) : Refines ch (b.set x s) l := by
  have hstation : ∀ y, (b.set x s).station y = s ∧ y = x ∨
      (b.set x s).station y = b.station y := by
    intro y
    by_cases hy : y = x
    · subst hy
      exact .inl ⟨Function.update_self _ _ _,rfl⟩
    · exact .inr (Function.update_of_ne hy _ _)
  refine ⟨fun y => ?_,h.payloads,h.air,fun y hy => ?_,fun y hy => ?_⟩
  all_goals rcases hstation y with ⟨hs,rfl⟩ | hs <;> rw [hs]
  · exact hradio.trans (h.radio y)
  · exact h.radio y
  · exact hpayloads.trans (h.taken y hy)
  · exact h.taken y hy
  · exact hprinted.trans (h.delivered y hy)
  · exact h.delivered y hy

theorem Channel.Carries.send {air : Option (Side × List UInt8)} {air' : Option (Side × Frame)}
    (h : ch.Carries air air') (x : Side) {onAir : Option Frame}
    (hf : ∀ f, onAir = some f → ch.Holds f.payload) (ms : BitVec 16) (stale : PacketBuffer) :
    ch.Carries (air.or (onAir.map fun f => (x,ch.encode f ms stale)))
      (air'.or (onAir.map (x,·))) := by
  cases h with
  | frame s f ms' stale' hs => exact .frame s f ms' stale' hs
  | silent =>
    cases onAir with
    | none => exact .silent
    | some f => exact .frame x f ms stale (hf f rfl)

/-- The data moved by the radio that acts. -/
theorem Refines.moved (h : Refines ch b l) {x : Side} (hsound : (l.radio x).Sound)
    {packet : Option Reception} (hl : ((b.station x).pass ch packet c).radio.Linked) :
    ((b.station x).updateRadioState ch packet c).port.payloads =
      (if ((b.station x).pass ch packet c).linkUp then [] else l.taken x) ++
        ((b.station x).pass ch packet c).taken ∧
    ((b.station x).updateRadioState ch packet c).printed.flatMap Chunk.payload =
      (if ((b.station x).pass ch packet c).linkUp then [] else l.delivered x) ++
        ((b.station x).pass ch packet c).delivered := by
  have hsound' : (b.station x).radio.Sound := (h.radio x).symm ▸ hsound
  obtain ⟨htaken,hdelivered⟩ := (b.station x).updateRadioState_moved packet c hsound' hl
  have houtcome : P2P.Outcome _ _ _ ((b.station x).pass ch packet c) :=
    P2P.updateRadioState_outcome packet ((b.station x).inputs ch c) hsound'
  rw [htaken,hdelivered]
  rcases houtcome.linked hl with ⟨hr,hup⟩ | ⟨hup,-⟩
  · rw [h.radio x] at hr
    rw [hup,h.taken x hr,h.delivered x hr]
    exact ⟨rfl,rfl⟩
  · rw [hup]
    exact ⟨rfl,rfl⟩

theorem Refines.updateRadioState (hch : ch.Usable) (h : Refines ch b l)
    (hsound : ∀ x, (l.radio x).Sound) {x : Side} {t : Transaction}
    (hdetects : b.Detects ch (.updateRadioState x t c)) :
    Refines ch (b.updateRadioState ch x t c)
      (l.step (.pass x (ch.transaction c.incomingBuffer t) ((b.station x).inputs ch c))) := by
  obtain ⟨halike,hair⟩ := receive_alike hch h.air hdetects
  let packet := (b.receive ch x c.incomingBuffer t).1
  let p := (b.station x).pass ch packet c
  have hpass : p = P2P.updateRadioState (l.radio x)
      (l.packet x (ch.transaction c.incomingBuffer t)) ((b.station x).inputs ch c) := by
    rw [← h.radio x]
    exact halike.pass _ _
  have hall : p.All ch.Holds := by
    have hbefore : (b.station x).radio.All ch.Holds := (h.radio x).symm ▸ h.payloads x
    exact P2P.updateRadioState_all hbefore ((b.station x).supplies ch c) packet
  have hstep : l.step (.pass x (ch.transaction c.incomingBuffer t) ((b.station x).inputs ch c)) =
      l.afterPass x (l.receive x (ch.transaction c.incomingBuffer t)).2 p :=
    congrArg (l.afterPass x _) hpass.symm
  rw [hstep]
  have hself : (b.updateRadioState ch x t c).station x =
      (b.station x).updateRadioState ch packet c := Function.update_self _ _ _
  have hother : (b.updateRadioState ch x t c).station x.other = b.station x.other :=
    Function.update_of_ne x.other_ne _ _
  have htaken : ∀ (g : Side → List (List UInt8)) v, Function.update g x v x = v ∧
      Function.update g x v x.other = g x.other :=
    fun g v => ⟨Function.update_self _ _ _,Function.update_of_ne x.other_ne _ _⟩
  refine ⟨fun y => ?_,fun y => ?_,hair.send x hall.onAir _ _,fun y hy => ?_,fun y hy => ?_⟩
  all_goals rcases x.eq_or_other y with rfl | rfl
  · rw [hself,P2P.afterPass_radio_self]
    rfl
  · rw [hother,P2P.afterPass_radio_other]
    exact h.radio x.other
  · rw [P2P.afterPass_radio_self]
    exact hall.radio
  · rw [P2P.afterPass_radio_other]
    exact h.payloads x.other
  · rw [P2P.afterPass_radio_self] at hy
    rw [hself]
    exact (h.moved (hsound y) hy).1.trans (htaken l.taken _).1.symm
  · rw [P2P.afterPass_radio_other] at hy
    rw [hother]
    exact (h.taken _ hy).trans (htaken l.taken _).2.symm
  · rw [P2P.afterPass_radio_self] at hy
    rw [hself]
    exact (h.moved (hsound y) hy).2.trans (htaken l.delivered _).1.symm
  · rw [P2P.afterPass_radio_other] at hy
    rw [hother]
    exact (h.delivered _ hy).trans (htaken l.delivered _).2.symm

theorem Refines.reset (h : Refines ch b l) (x : Side) :
    Refines ch (b.step ch (.reset x)) (l.step (.command x)) := by
  have hself : (l.step (.command x)).radio x = { l.radio x with radioState := .reset } :=
    Function.update_self _ _ _
  have hunlinked : ¬((l.step (.command x)).radio x).Linked := by
    rw [hself]
    exact fun hl => hl.not_reset rfl
  have hother : (l.step (.command x)).radio x.other = l.radio x.other :=
    Function.update_of_ne x.other_ne _ _
  have hstation : (b.step ch (.reset x)).station x.other = b.station x.other :=
    Function.update_of_ne x.other_ne _ _
  refine ⟨fun y => ?_,fun y => ?_,h.air,fun y hy => ?_,fun y hy => ?_⟩
  all_goals rcases x.eq_or_other y with rfl | rfl
  · rw [hself,← h.radio y]
    unfold Pair.step Pair.set
    dsimp only
    rw [Function.update_self]
  · rw [hother,hstation]
    exact h.radio x.other
  · rw [hself]
    exact ⟨(h.payloads y).tx,(h.payloads y).rexmt⟩
  · rw [hother]
    exact h.payloads x.other
  · exact absurd hy hunlinked
  · rw [hother] at hy
    rw [hstation]
    exact h.taken x.other hy
  · exact absurd hy hunlinked
  · rw [hother] at hy
    rw [hstation]
    exact h.delivered x.other hy

/-- One event of the pair is one event of the link, or none. -/
theorem Refines.step (hch : ch.Usable) (h : Refines ch b l) (hsound : ∀ x, (l.radio x).Sound)
    (e : Event) (hdetects : b.Detects ch e) :
    Refines ch (b.step ch e) (run Link.step l (b.linkEvents ch e)) := by
  cases e with
  | updateRadioState x t c => exact h.updateRadioState hch hsound hdetects
  | updateSerial x incoming turns millis cts =>
    exact h.set rfl (updateSerial_payloads _ incoming turns millis) rfl
  | remoteCommands x response =>
    refine h.set ?_ ?_ ?_
    all_goals
      unfold Station.remoteCommands
      dsimp only
      split <;> rfl
  | sendRemoteCommand x command =>
    refine h.set ?_ ?_ ?_
    all_goals
      unfold Station.sendRemoteCommand
      split <;> rfl
  | print x c cts =>
    refine h.set rfl rfl ?_
    unfold Station.print
    rw [List.flatMap_append]
    exact List.append_nil _
  | reset x => exact h.reset x
  | lose => exact ⟨h.radio,h.payloads,.silent,h.taken,h.delivered⟩

/-- Both radios in RADIO_RESET, the buffers empty and nothing on the air. -/
structure Pair.Started (ch : Channel) (b : Pair) : Prop where
  radio : ∀ x, (b.station x).radio.radioState = .reset
  payloads : ∀ x, (b.station x).radio.All ch.Holds
  port : ∀ x, (b.station x).port.Started
  output : ∀ x, (b.station x).output.forHost = []
  printed : ∀ x, (b.station x).printed = []
  air : b.air = none

/-- The link that two stations start with. -/
def Pair.link (b : Pair) : Link where
  radio x := (b.station x).radio
  air := none
  taken _ := []
  delivered _ := []

/-- A run as the link has it. -/
def Pair.linkRun (ch : Channel) (b : Pair) : List Event → List P2P.Event
  | [] => []
  | e :: es => b.linkEvents ch e ++ (b.step ch e).linkRun ch es

theorem Pair.Started.refines (h : b.Started ch) : Refines ch b b.link where
  radio _ := rfl
  payloads := h.payloads
  air := by
    rw [h.air]
    exact .silent
  taken x hl := absurd (h.radio x) hl.not_reset
  delivered x hl := absurd (h.radio x) hl.not_reset

theorem Pair.Started.link_started (h : b.Started ch) : b.link.Started := ⟨h.radio,rfl⟩

theorem consistent_run (h : P2P.Consistent StopAndWait.Agrees l) (es : List P2P.Event) :
    P2P.Consistent StopAndWait.Agrees (run Link.step l es) := by
  refine invariant ?_ h (along_true Link.step l es)
  intro m e hm _
  refine P2P.consistent_step P2P.agrees_kept m e hm ?_
  cases e <;> simp [P2P.Link.Spares]

/-- Two radios that exchange bytes, encoded, encrypted and whitened, do what two
radios do that exchange frames, in any run in which every other reception fails
a check: they are in the same states, what is on the air is the encoding of the
frame in flight, and the data moved while linked is the same. -/
theorem pair_refines_link (hch : ch.Usable) (h : b.Started ch) (es : List Event)
    (hdetects : Along (Pair.step ch) (Pair.Detects ch) b es) :
    Refines ch (run (Pair.step ch) b es) (run Link.step b.link (b.linkRun ch es)) := by
  have hconsistent : P2P.Consistent StopAndWait.Agrees b.link := h.link_started.consistent
  have hrefines := h.refines
  generalize b.link = l at hconsistent hrefines ⊢
  clear h
  induction es generalizing b l with
  | nil => exact hrefines
  | cons e es ih =>
    have hnext := hrefines.step hch hconsistent.sound e hdetects.1
    rw [Pair.linkRun,run_append]
    exact ih hdetects.2 _ (consistent_run hconsistent _) hnext

/-- The default settings and their cipher. -/
def defaultChannel : Channel := ⟨defaultSettings,defaultGcm,List.replicate 12 0⟩

theorem defaultChannel_usable : defaultChannel.Usable := ⟨rfl,by decide,defaultGcm_inverse⟩

/-- Two stations after power on. -/
def Pair.powerUp : Pair where
  station _ :=
    { radio := .powerUp
      port := poweredOn
      output := .empty
      commandTXBuffer := { cell := fun _ => 0, head := 4090, tail := 4090 }
      remoteCommandResponse := false
      printed := [] }
  air := none

theorem Pair.powerUp_started : Pair.powerUp.Started defaultChannel where
  radio _ := rfl
  payloads _ := ⟨Nat.zero_le _,Nat.zero_le _⟩
  port _ := poweredOn_started
  output _ := show Output.empty.forHost = [] by decide
  printed _ := rfl
  air := rfl

/-- A call when nothing is due, and one when the FIND_PARTNER timer has run out. -/
def Call.idle : Call where
  inputs := .idle
  serialTimeout := true
  cts := 1
  flushCts := 0
  msToNextHop := 400
  outgoingPacket := zeroPacket
  incomingBuffer := zeroPacket

def Call.findPartner : Call :=
  { Call.idle with inputs := { P2P.Inputs.idle with findPartnerTimeout := true } }

/-- The three-way handshake, byte by byte. -/
def handshake : List Event :=
  [.updateRadioState .a .none .idle,.lose,.updateRadioState .b .none .idle,.lose,
    .updateRadioState .a .none .findPartner,
    .updateRadioState .b .received .idle,
    .updateRadioState .a (.finished []) .idle,.updateRadioState .b (.finished []) .idle,
    .updateRadioState .a .received .idle,
    .updateRadioState .a (.finished []) .idle,.updateRadioState .b .received .idle]

theorem pair_refines_link_handshake :
    Refines defaultChannel (run (Pair.step defaultChannel) .powerUp handshake)
      (run Link.step Pair.powerUp.link (Pair.powerUp.linkRun defaultChannel handshake)) :=
  pair_refines_link defaultChannel_usable Pair.powerUp_started handshake (by decide +kernel)

end LoRaSerial.Bridge
