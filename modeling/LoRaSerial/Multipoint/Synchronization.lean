import LoRaSerial.Multipoint.Outcome
import LoRaSerial.Serial.Forwarding

namespace LoRaSerial.Multipoint
open Runs (run)

variable {r : Radio} {e : Event} {heard : Option Frame} {f : Frame}

/-- Clock frames come from a server, and name the channel of its pass. -/
theorem handle_clock (h : f ∈ (handle r heard e).2) (hclock : f.Clock) :
    r.settings.server = true ∧ r.radioState = .mpStandby ∧
      ∃ a b, f.payload.head? = some ((r.hop a).hop b).channelNumber := by
  cases e with
  | updateSerial incoming turns millis => exact absurd h List.not_mem_nil
  | pass transactionComplete i =>
    have houtcome := outcome_pass r heard transactionComplete i
    generalize handle r heard (.pass transactionComplete i) = q at *
    cases houtcome with
    | silent | joined | gotData => exact absurd h List.not_mem_nil
    | searched _ _ hframes =>
      have htype := hframes f h
      rcases hclock with hclock | hclock <;> rw [htype] at hclock <;> cases hclock
    | namedChannel _ hserver hstate hframes => exact ⟨hserver,hstate,(hframes f h).2⟩
    | sentData _ _ _ hframes =>
      rw [List.mem_singleton.mp (hframes.subset h)] at hclock
      rcases hclock with hclock | hclock <;> cases hclock

/-- Data is sent in the data exchange only. -/
theorem handle_data (h : f ∈ (handle r heard e).2) (hdata : f.datagramType = .data) :
    r.Synchronized := by
  cases e with
  | updateSerial incoming turns millis => exact absurd h List.not_mem_nil
  | pass transactionComplete i =>
    have houtcome := outcome_pass r heard transactionComplete i
    generalize handle r heard (.pass transactionComplete i) = q at *
    cases houtcome with
    | silent | joined | gotData => exact absurd h List.not_mem_nil
    | searched _ _ hframes =>
      have htype := (hframes f h).symm.trans hdata
      cases htype
    | namedChannel _ _ hstate _ => exact .inl hstate
    | sentData hstate _ _ _ => exact .inl hstate

/-- A client comes to the data exchange by a clock frame, on the channel that
the frame names and the hops its clock is behind. -/
theorem handle_joins (hclient : r.settings.server = false) (hbefore : ¬r.Synchronized)
    (hafter : (handle r heard e).1.Synchronized) :
    ∃ f, heard = some f ∧ f.Clock ∧ ∀ c, f.payload.head? = some c → ∃ k b,
      (handle r heard e).1.channelNumber =
        (((r.tune c).syncChannelTimer k).hop b).channelNumber := by
  cases e with
  | updateSerial incoming turns millis => exact absurd hafter hbefore
  | pass transactionComplete i =>
    have houtcome := outcome_pass r heard transactionComplete i
    generalize handle r heard (.pass transactionComplete i) = q at *
    cases houtcome with
    | silent _ hsync =>
      rcases hsync hafter with h | h
      · exact absurd h hbefore
      · rw [hclient] at h
        cases h
    | joined f hpacket hclock _ =>
      cases transactionComplete with
      | false => cases hpacket
      | true =>
        refine ⟨f,Option.some.inj hpacket,hclock,fun c hc => ⟨i.delayedHopCount,i.passHop,?_⟩⟩
        rw [Radio.join,List.headD_eq_head?_getD,hc]
        rfl
    | searched _ hnot _ => exact absurd hafter hnot
    | namedChannel _ _ hstate _ => exact absurd (.inl hstate) hbefore
    | sentData hstate _ _ _ => exact absurd (.inl hstate) hbefore
    | gotData f _ _ hstate _ => exact absurd (.inl hstate) hbefore

theorem handle_settings (r : Radio) (heard : Option Frame) (e : Event) :
    (handle r heard e).1.settings = r.settings := by
  cases e with
  | updateSerial incoming turns millis => rfl
  | pass transactionComplete i =>
    have houtcome := outcome_pass r heard transactionComplete i
    generalize handle r heard (.pass transactionComplete i) = q at *
    cases houtcome with
    | silent same | searched same | namedChannel same => exact same.settings
    | joined f _ _ _ => exact (same_join r i f.payload).settings
    | sentData _ _ same _ => exact same.settings
    | gotData _ _ _ _ same => exact same.settings

variable {ι : Type*} {n : Network ι} {i : ι}

/-- All radios have just left RADIO_RESET. -/
structure Started (n : Network ι) : Prop where
  radioState : ∀ i, (n.station i).radioState = .discoverBegin
  sent : n.sent = []

theorem Started.not_synchronized (hn : Started n) (i : ι) : ¬(n.station i).Synchronized :=
  Multipoint.not_synchronized (hn.radioState i) (by decide) (by decide)

variable [DecidableEq ι]

theorem run_settings (n : Network ι) (es : List (NetworkEvent ι)) (i : ι) :
    ((run step n es).station i).settings = (n.station i).settings := by
  have hkeep : ∀ n' e, (n'.station i).settings = (n.station i).settings → True →
      ((step n' e).station i).settings = (n.station i).settings := by
    intro n' e h _
    by_cases hwho : i = e.who
    · subst hwho
      rw [Broadcast.station_step_self,handle_settings,h]
    · rw [Broadcast.station_step_of_ne hwho,h]
  exact Runs.invariant hkeep rfl (Runs.along_true _ n es)

/-- The step in which a client comes to the data exchange. -/
theorem exists_join (hn : Started n) (hclient : (n.station i).settings.server = false)
    {es : List (NetworkEvent ι)} (hes : ((run step n es).station i).Synchronized) :
    ∃ fs e gs f, es = fs ++ e :: gs ∧ e.who = i ∧ (run step n fs).hear e = some f ∧ f.Clock ∧
      ¬((run step n fs).station i).Synchronized ∧
      ((run step n (fs ++ [e])).station i).Synchronized ∧
      ∀ c, f.payload.head? = some c → ∃ k b,
        ((run step n (fs ++ [e])).station i).channelNumber =
          (((((run step n fs).station i).tune c).syncChannelTimer k).hop b).channelNumber := by
  obtain ⟨fs,e,gs,rfl,hbefore,hafter⟩ :=
    Runs.exists_step_of_change (P := fun n : Network ι => (n.station i).Synchronized)
      (hn.not_synchronized i) hes
  have hwho : i = e.who := by
    by_contra hne
    rw [Broadcast.station_step_of_ne hne] at hafter
    exact hbefore hafter
  subst hwho
  have hsettings := (run_settings n fs e.who).symm ▸ hclient
  rw [Broadcast.station_step_self] at hafter
  obtain ⟨f,hheard,hclock,hchannel⟩ := handle_joins hsettings hbefore hafter
  refine ⟨fs,e,gs,f,rfl,rfl,hheard,hclock,hbefore,?_,?_⟩
  · rw [Runs.run_append,Runs.run_cons,Runs.run_nil,Broadcast.station_step_self]
    exact hafter
  · rw [Runs.run_append,Runs.run_cons,Runs.run_nil,Broadcast.station_step_self]
    exact hchannel

/-- Before a client takes part in the data exchange, and before it sends any
data, it has heard a clock frame, which a server in the data exchange had sent
before: it then is on the channel on which the server was when it built the
frame, but for the hops its own clock is behind. -/
theorem client_synchronized_by_server (hn : Started n)
    (hclient : (n.station i).settings.server = false) (es : List (NetworkEvent ι))
    (hes : ((run step n es).station i).Synchronized ∨
      ∃ f, (i,f) ∈ (run step n es).sent ∧ f.datagramType = .data) :
    ∃ fs e gs e' hs f, es = fs ++ e :: (gs ++ e' :: hs) ∧ e.who ≠ i ∧ e'.who = i ∧
      let server := (run step n fs).station e.who
      let before := (run step n (fs ++ e :: gs)).station i
      let client := (run step n (fs ++ e :: (gs ++ [e']))).station i
      server.settings.server = true ∧ server.Synchronized ∧ f.Clock ∧
      f ∈ (handle server ((run step n fs).hear e) e.event).2 ∧
      (run step n (fs ++ e :: gs)).hear e' = some f ∧
      ¬before.Synchronized ∧ client.Synchronized ∧
      ∃ a b k c, client.channelNumber =
        (((before.tune ((server.hop a).hop b).channelNumber).syncChannelTimer k).hop
          c).channelNumber := by
  -- The client is in the data exchange after some prefix of the run.
  obtain ⟨fs',rest,rfl,hsync⟩ : ∃ fs' rest, es = fs' ++ rest ∧
      ((run step n fs').station i).Synchronized := by
    rcases hes with hsync | ⟨f,hsent,hdata⟩
    · exact ⟨es,[],(List.append_nil es).symm,hsync⟩
    · rcases Broadcast.emitted_of_sent hsent with hstart | ⟨fs',e',gs',rfl,rfl,hframe⟩
      · rw [hn.sent] at hstart
        exact absurd hstart List.not_mem_nil
      · exact ⟨fs',e' :: gs',rfl,handle_data hframe hdata⟩
  obtain ⟨fs',e',gs',f,rfl,hwho',hheard,hclock,hbefore,hafter,hchannel⟩ :=
    exists_join hn hclient hsync
  obtain ⟨j,hother,hsent⟩ := Broadcast.hear_mem hheard
  rcases Broadcast.emitted_of_sent hsent with hstart | ⟨fs,e,gs,rfl,rfl,hframe⟩
  · rw [hn.sent] at hstart
    exact absurd hstart List.not_mem_nil
  obtain ⟨hserver,hstate,a,b,hnamed⟩ := handle_clock hframe hclock
  obtain ⟨k,c,hc⟩ := hchannel _ hnamed
  rw [List.append_assoc,List.cons_append] at hafter hc
  exact ⟨fs,e,gs,e',gs' ++ rest,f,by simp,hwho' ▸ hother,hwho',hserver,.inl hstate,hclock,hframe,
    hheard,hbefore,hafter,a,b,k,c,hc⟩

def newRadio (server : Bool) : Radio where
  settings := { operatingMode := .multipoint, server }
  airTimeUsec _ _ := 10000
  txDataAckUsec := 10000
  frameAirTimeUsec := 10000
  radioState := .discoverBegin
  channelNumber := 0
  multipointChannelLoops := 0
  port := Serial.poweredOn
  delivered := []

theorem noHop_lt : 0 < 4 := Nat.succ_pos 3

/-- Everything sent goes on the air, and no timer but this expires. -/
def inputsAt (syncClocksTimeout : Bool) : Inputs where
  millis := 0
  transmit := .sent
  receiveInProcess := false
  passHop := false
  receiveHop := false
  transmitHop := false
  delayedHopCount := ⟨0,noHop_lt⟩
  staleByte := 0
  syncClocksTimeout
  heartbeatTimeout := false
  serialTimeout := false
  linkTimeout := false

def serverAndClient : Network Bool where
  station := newRadio
  sent := []

/-- FIND_PARTNER of the client, and SYNC_CLOCKS of the server. -/
def discovery : List (NetworkEvent Bool) :=
  [⟨true,.pass false (inputsAt false),none⟩,⟨false,.pass false (inputsAt false),none⟩,
    ⟨false,.pass false (inputsAt true),none⟩,⟨true,.pass true (inputsAt false),some 0⟩,
    ⟨false,.pass true (inputsAt false),none⟩,⟨false,.pass true (inputsAt false),some 1⟩]

theorem serverAndClient_started : Started serverAndClient := ⟨fun _ => rfl,rfl⟩

theorem discovery_synchronizes : ∃ fs e gs e' hs f, discovery = fs ++ e :: (gs ++ e' :: hs) ∧
    e.who ≠ false ∧ e'.who = false ∧ f.Clock ∧
    f ∈ (handle ((run step serverAndClient fs).station e.who)
      ((run step serverAndClient fs).hear e) e.event).2 :=
  have ⟨fs,e,gs,e',hs,f,hes,hother,hwho,_,_,hclock,hframe,_⟩ :=
    client_synchronized_by_server serverAndClient_started rfl discovery (.inl (.inl rfl))
  ⟨fs,e,gs,e',hs,f,hes,hother,hwho,hclock,hframe⟩

end LoRaSerial.Multipoint
