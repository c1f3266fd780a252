import LoRaSerial.Lib.Runs
import Mathlib.Data.Nat.Basic

namespace Resending
open Runs

variable {σ ε : Type*}

/-- A machine that repeats a message until it is answered: whether it awaits an
answer, whether its own count of the message has come to the limit, whether the
timeout for the message expires in a step, how often the step transmits a
message, and whether it gives up the link for the message. -/
structure Sender (σ ε : Type*) where
  step : σ → ε → σ
  awaits : σ → Bool
  spent : σ → Bool
  expires : σ → ε → Bool
  transmissions : σ → ε → Nat
  givesUp : σ → ε → Bool

/-- While an answer is awaited, only an expired timeout transmits a message. -/
structure Sender.Lawful (S : Sender σ ε) : Prop where
  once : ∀ s e, S.transmissions s e ≤ 1
  awaits : ∀ s e, S.expires s e = true → S.awaits s = true
  transmits : ∀ s e, S.transmissions s e ≠ 0 → S.awaits s = true → S.expires s e = true

/-- A sender under observation. Since an answer was last not awaited: how many
timeouts have expired and how often a message was transmitted. `persisted` tells
that the link was kept at a timeout behind the last resend. -/
structure Watched (σ : Type*) where
  state : σ
  resends : Nat
  sent : Nat
  persisted : Bool

def Watched.start (s : σ) : Watched σ := ⟨s,0,0,false⟩

/-- The timeout expires with the resends used up, in number or by the sender's
own count. -/
def Sender.exhausts (S : Sender σ ε) (limit : Nat) (w : Watched σ) (e : ε) : Bool :=
  S.expires w.state e && (decide (limit ≤ w.resends) || S.spent w.state)

def Sender.next (S : Sender σ ε) (limit : Nat) (w : Watched σ) (e : ε) : Watched σ where
  state := S.step w.state e
  resends := (if S.awaits w.state then w.resends else 0) + if S.expires w.state e then 1 else 0
  sent := (if S.awaits w.state then w.sent else 0) + S.transmissions w.state e
  persisted := w.persisted || S.exhausts limit w e && !S.givesUp w.state e

/-- The message was transmitted once and resent at most `limit` times, and the
link was given up at the timeout behind the last resend. -/
structure Limited (limit : Nat) (w : Watched σ) : Prop where
  sent : w.sent ≤ limit + 1
  persisted : w.persisted = false

instance (limit : Nat) (w : Watched σ) : Decidable (Limited limit w) :=
  decidable_of_iff (w.sent ≤ limit + 1 ∧ w.persisted = false)
    ⟨fun h => ⟨h.1,h.2⟩,fun h => ⟨h.sent,h.persisted⟩⟩

/-- Every transmission but the first is a resend. -/
structure Counted (limit : Nat) (w : Watched σ) : Prop extends Limited limit w where
  resends : w.sent ≤ w.resends + 1

/-- With the resends used up, the step gives the link up and the message is not
transmitted beyond the limit. -/
def Sender.Stops (S : Sender σ ε) (limit : Nat) (w : Watched σ) (e : ε) : Prop :=
  S.exhausts limit w e = true →
    S.givesUp w.state e = true ∧ w.sent + S.transmissions w.state e ≤ limit + 1

variable {S : Sender σ ε} {limit : Nat}

theorem Watched.start_counted (s : σ) : Counted limit (.start s) :=
  ⟨⟨Nat.zero_le _,rfl⟩,Nat.zero_le _⟩

theorem next_counted (hS : S.Lawful) {w : Watched σ} {e : ε} (hw : Counted limit w)
    (hstop : S.Stops limit w e) : Counted limit (S.next limit w e) := by
  have honce := hS.once w.state e
  have hsent := hw.sent
  have hresends := hw.resends
  have hpersisted : (S.next limit w e).persisted = false := by
    cases hx : S.exhausts limit w e with
    | false => simp [Sender.next,hx,hw.persisted]
    | true => simp [Sender.next,hw.persisted,(hstop hx).1]
  cases haw : S.awaits w.state with
  | false =>
    have hnew : (S.next limit w e).sent = S.transmissions w.state e := by simp [Sender.next,haw]
    exact ⟨⟨by omega,hpersisted⟩,by omega⟩
  | true =>
    have hadd : (S.next limit w e).sent = w.sent + S.transmissions w.state e := by
      simp [Sender.next,haw]
    by_cases hquiet : S.transmissions w.state e = 0
    · refine ⟨⟨by omega,hpersisted⟩,?_⟩
      have hgrow : w.resends ≤ (S.next limit w e).resends := by simp [Sender.next,haw]
      omega
    · have hexp := hS.transmits w.state e hquiet haw
      have hcount : (S.next limit w e).resends = w.resends + 1 := by simp [Sender.next,haw,hexp]
      refine ⟨⟨?_,hpersisted⟩,by omega⟩
      by_cases hlast : limit ≤ w.resends
      · have hbound := (hstop (by simp [Sender.exhausts,hexp,hlast])).2
        omega
      · omega

theorem stops_of_next (hS : S.Lawful) {w : Watched σ} {e : ε}
    (h : Limited limit (S.next limit w e)) : S.Stops limit w e := by
  intro hx
  have hexp : S.expires w.state e = true := by
    rw [Sender.exhausts,Bool.and_eq_true] at hx
    exact hx.1
  have hbound := h.sent
  have hpersisted := h.persisted
  simp only [Sender.next,hS.awaits _ _ hexp,if_true] at hbound
  simp only [Sender.next,hx,Bool.true_and,Bool.or_eq_false_iff,Bool.not_eq_false'] at hpersisted
  exact ⟨hpersisted.2,hbound⟩

/-- The limit is kept throughout a run exactly if every step with the resends
used up stops, or meets a condition that comes to the same. -/
theorem always_limited_iff (hS : S.Lawful) {ok : Watched σ → ε → Prop}
    (hok : ∀ w e, Counted limit w → (S.Stops limit w e ↔ ok w e)) (s : σ) (es : List ε) :
    Always (S.next limit) (Limited limit) (.start s) es ↔
      Along (S.next limit) ok (.start s) es :=
  always_iff_along (fun w e hw he => next_counted hS hw ((hok w e hw).mpr he))
    (fun _ hw => hw.toLimited) (fun w e hw he => (hok w e hw).mp (stops_of_next hS he))
    (Watched.start_counted s) es

end Resending
