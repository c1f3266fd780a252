import Mathlib.Data.List.Basic
import Mathlib.Order.Basic

namespace Runs

variable {σ ε : Type*}

/-- Run a total step function over a list of events. -/
def run (step : σ → ε → σ) : σ → List ε → σ :=
  List.foldl step

@[simp] theorem run_nil (step : σ → ε → σ) (s : σ) : run step s [] = s := rfl

@[simp] theorem run_cons (step : σ → ε → σ) (s : σ) (e : ε) (es : List ε) :
    run step s (e :: es) = run step (step s e) es := rfl

theorem run_append (step : σ → ε → σ) (s : σ) (es fs : List ε) :
    run step s (es ++ fs) = run step (run step s es) fs :=
  List.foldl_append

/-- Every step of the run meets a condition on its event and on the state it
starts from. -/
def Along (step : σ → ε → σ) (ok : σ → ε → Prop) : σ → List ε → Prop
  | _,[] => True
  | s,e :: es => ok s e ∧ Along step ok (step s e) es

instance decidableAlong (step : σ → ε → σ) (ok : σ → ε → Prop)
    [∀ s e, Decidable (ok s e)] : ∀ s es, Decidable (Along step ok s es)
  | _,[] => inferInstanceAs (Decidable True)
  | s,e :: es =>
    have := decidableAlong step ok (step s e) es
    inferInstanceAs (Decidable (ok s e ∧ Along step ok (step s e) es))

theorem Along.append {step : σ → ε → σ} {ok : σ → ε → Prop} {s : σ} {es fs : List ε} :
    Along step ok s (es ++ fs) ↔ Along step ok s es ∧ Along step ok (run step s es) fs := by
  induction es generalizing s with
  | nil => simp [Along]
  | cons e es ih => simp [Along,ih,and_assoc]

/-- A condition that no step needs costs nothing along a run. -/
theorem along_true (step : σ → ε → σ) (s : σ) (es : List ε) :
    Along step (fun _ _ => True) s es := by
  induction es generalizing s with
  | nil => trivial
  | cons e es ih => exact ⟨trivial,ih _⟩

theorem along_congr {step : σ → ε → σ} {ok ok' : σ → ε → Prop} (h : ∀ s e, ok s e ↔ ok' s e)
    (s : σ) (es : List ε) : Along step ok s es ↔ Along step ok' s es := by
  induction es generalizing s with
  | nil => exact Iff.rfl
  | cons e es ih => rw [Along,Along,h,ih]

/-- A condition on the events alone is one on each of them. -/
theorem along_event_iff (step : σ → ε → σ) {ok : ε → Prop} (s : σ) {es : List ε} :
    Along step (fun _ e => ok e) s es ↔ ∀ e ∈ es, ok e := by
  induction es generalizing s with
  | nil => exact iff_of_true trivial (fun e he => (nomatch he))
  | cons e es ih => rw [Along,ih,List.forall_mem_cons]

/-- Events that meet the condition in every state. -/
theorem along_of_forall {step : σ → ε → σ} {ok : σ → ε → Prop} {es : List ε}
    (h : ∀ e ∈ es, ∀ s, ok s e) (s : σ) : Along step ok s es := by
  induction es generalizing s with
  | nil => trivial
  | cons e es ih =>
    obtain ⟨he,hes⟩ := List.forall_mem_cons.mp h
    exact ⟨he s,ih hes (step s e)⟩

/-- The invariant rule: what holds at the start and is kept by every step that
meets the condition holds after every run whose steps all meet it. -/
theorem invariant {step : σ → ε → σ} {ok : σ → ε → Prop} {Inv : σ → Prop}
    (hstep : ∀ s e, Inv s → ok s e → Inv (step s e))
    {s : σ} (hs : Inv s) {es : List ε} (hes : Along step ok s es) :
    Inv (run step s es) := by
  induction es generalizing s with
  | nil => exact hs
  | cons e es ih => exact ih (hstep s e hs hes.1) hes.2

/-- A property of the state before the run and after every step of it. -/
def Always (step : σ → ε → σ) (P : σ → Prop) (s : σ) (es : List ε) : Prop :=
  ∀ fs, fs <+: es → P (run step s fs)

theorem always_cons {step : σ → ε → σ} {P : σ → Prop} {s : σ} {e : ε} {es : List ε} :
    Always step P s (e :: es) ↔ P s ∧ Always step P (step s e) es := by
  constructor
  · intro h
    exact ⟨h [] List.nil_prefix,fun fs hfs => h (e :: fs) (List.cons_prefix_cons.mpr ⟨rfl,hfs⟩)⟩
  · rintro ⟨hs,h⟩ fs hfs
    cases fs with
    | nil => exact hs
    | cons f fs =>
      obtain ⟨rfl,htail⟩ := List.cons_prefix_cons.mp hfs
      exact h fs htail

/-- The invariant rule with its converse: where a step that misses the
condition loses the property, the property holds throughout exactly the runs
whose steps all meet the condition. -/
theorem always_iff_along {step : σ → ε → σ} {ok : σ → ε → Prop} {Inv P : σ → Prop}
    (hstep : ∀ s e, Inv s → ok s e → Inv (step s e)) (hinv : ∀ s, Inv s → P s)
    (honly : ∀ s e, Inv s → P (step s e) → ok s e) {s : σ} (hs : Inv s) (es : List ε) :
    Always step P s es ↔ Along step ok s es := by
  induction es generalizing s with
  | nil => exact iff_of_true (fun fs hfs => by rw [List.prefix_nil.mp hfs]; exact hinv s hs) trivial
  | cons e es ih =>
    rw [always_cons,Along]
    constructor
    · rintro ⟨-,h⟩
      have hok := honly s e hs (h [] List.nil_prefix)
      exact ⟨hok,(ih (hstep s e hs hok)).mp h⟩
    · rintro ⟨hok,h⟩
      exact ⟨hinv s hs,(ih (hstep s e hs hok)).mpr h⟩

/-- What holds after a run and not before it came to hold in some step. -/
theorem exists_step_of_change {step : σ → ε → σ} {P : σ → Prop} {s : σ} {es : List ε}
    (hs : ¬P s) (hes : P (run step s es)) :
    ∃ fs e gs, es = fs ++ e :: gs ∧ ¬P (run step s fs) ∧ P (step (run step s fs) e) := by
  induction es generalizing s with
  | nil => exact absurd hes hs
  | cons e es ih =>
    by_cases hnext : P (step s e)
    · exact ⟨[],e,es,rfl,hs,hnext⟩
    · obtain ⟨fs,f,gs,rfl,hbefore,hafter⟩ := ih hnext hes
      exact ⟨e :: fs,f,gs,rfl,hbefore,hafter⟩

end Runs
