import LoRaSerial.Lib.Runs
import Mathlib.Data.List.Flatten
import Mathlib.Logic.Function.Basic

namespace Broadcast
open Runs
open scoped List

variable {ι σ ε μ : Type*} [DecidableEq ι]

/-- Stations, and every message that one of them has sent, the oldest first. -/
structure Network (ι σ μ : Type*) where
  station : ι → σ
  sent : List (ι × μ)

/-- A station takes a step of its own, in which it may hear one message. The
number counts all messages sent so far. -/
structure Event (ι ε : Type*) where
  who : ι
  event : ε
  heard : Option Nat

/-- The message behind a number, for a station that did not send it. -/
def Network.hear (n : Network ι σ μ) (e : Event ι ε) : Option μ :=
  ((e.heard.bind fun k => n.sent[k]?).filter fun m => m.1 ≠ e.who).map Prod.snd

/-- The station's step, given what it hears: its new state and what it sends. -/
abbrev Handler (σ ε μ : Type*) := σ → Option μ → ε → σ × List μ

/-- A medium that may lose, delay, repeat and reorder every message for every
station, and makes up none. -/
def step (handle : Handler σ ε μ) (n : Network ι σ μ) (e : Event ι ε) : Network ι σ μ :=
  let next := handle (n.station e.who) (n.hear e) e.event
  { station := Function.update n.station e.who next.1
    sent := n.sent ++ next.2.map (Prod.mk e.who) }

variable {handle : Handler σ ε μ} {n : Network ι σ μ} {e : Event ι ε} {es : List (Event ι ε)}
  {i : ι} {m : μ}

theorem hear_mem (h : n.hear e = some m) : ∃ j, j ≠ e.who ∧ (j,m) ∈ n.sent := by
  obtain ⟨⟨j,_⟩,hfilter,rfl⟩ := Option.map_eq_some_iff.mp h
  obtain ⟨hbind,hother⟩ := Option.filter_eq_some_iff.mp hfilter
  obtain ⟨k,_,hk⟩ := Option.bind_eq_some_iff.mp hbind
  exact ⟨j,by simpa using hother,List.mem_of_getElem? hk⟩

theorem mem_sent_step : (i,m) ∈ (step handle n e).sent ↔
    (i,m) ∈ n.sent ∨
      i = e.who ∧ m ∈ (handle (n.station e.who) (n.hear e) e.event).2 := by
  rw [step,List.mem_append,List.mem_map]
  refine or_congr_right ⟨?_,?_⟩
  · rintro ⟨_,hm,heq⟩
    obtain ⟨rfl,rfl⟩ := Prod.mk.inj heq
    exact ⟨rfl,hm⟩
  · rintro ⟨rfl,hm⟩
    exact ⟨m,hm,rfl⟩

theorem sent_step_mono (handle : Handler σ ε μ) (n : Network ι σ μ) (e : Event ι ε) :
    n.sent <+: (step handle n e).sent := List.prefix_append _ _

/-- Every message of a run was sent by its sender in some step of the run. -/
theorem emitted_of_sent (h : (i,m) ∈ (run (step handle) n es).sent) :
    (i,m) ∈ n.sent ∨ ∃ fs e gs, es = fs ++ e :: gs ∧ e.who = i ∧
      m ∈ (handle ((run (step handle) n fs).station i) ((run (step handle) n fs).hear e)
        e.event).2 := by
  induction es generalizing n with
  | nil => exact .inl h
  | cons e es ih =>
    rcases ih h with hsent | ⟨fs,f,gs,rfl,hwho,hm⟩
    · rcases mem_sent_step.mp hsent with hsent | ⟨rfl,hm⟩
      · exact .inl hsent
      · exact .inr ⟨[],e,es,rfl,rfl,hm⟩
    · exact .inr ⟨e :: fs,f,gs,rfl,hwho,hm⟩

/-- What a step keeps of one station: nothing changes elsewhere. -/
theorem station_step_of_ne (h : i ≠ e.who) : (step handle n e).station i = n.station i :=
  Function.update_of_ne h _ _

theorem station_step_self : (step handle n e).station e.who =
    (handle (n.station e.who) (n.hear e) e.event).1 := Function.update_self _ _ _

/-- The invariant rule for the stations of a network: a property of a station
and of what has been sent, which is not lost as more is sent, and which the
station keeps in each of its own steps when all it hears has been sent. -/
theorem station_invariant {S : ι → σ → List (ι × μ) → Prop}
    (hmono : ∀ i s sent sent', sent <+: sent' → S i s sent → S i s sent')
    (hstep : ∀ i s sent heard e, S i s sent →
      (∀ m, heard = some m → ∃ j, j ≠ i ∧ (j,m) ∈ sent) → S i (handle s heard e).1 sent)
    (hn : ∀ i, S i (n.station i) n.sent) (es : List (Event ι ε)) (i : ι) :
    S i ((run (step handle) n es).station i) (run (step handle) n es).sent := by
  have hkeep : ∀ n e, (∀ i, S i (n.station i) n.sent) → True →
      ∀ i, S i ((step handle n e).station i) (step handle n e).sent := by
    intro n e hS _ i
    refine hmono i _ _ _ (sent_step_mono handle n e) ?_
    by_cases hwho : i = e.who
    · subst hwho
      rw [station_step_self]
      exact hstep _ _ _ _ _ (hS _) fun m => hear_mem
    · rw [station_step_of_ne hwho]
      exact hS i
  exact invariant hkeep hn (along_true _ n es) i

/-- Every station hears each message at most once, and in the order sent: a
medium that only loses messages. -/
def InOrder (es : List (Event ι ε)) : Prop :=
  ∀ i, (es.filterMap fun e => if e.who = i then e.heard else none).Pairwise (· < ·)

section

variable {α : Type*} {log : σ → List α} {pay : μ → List α}

end

end Broadcast
