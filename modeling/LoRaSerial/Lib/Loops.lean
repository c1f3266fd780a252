import Mathlib.Data.Int.GCD
import Mathlib.Data.Int.ModEq
import Mathlib.Logic.Function.Iterate
import Mathlib.Tactic.LinearCombination
import Mathlib.Tactic.Ring

namespace Loops

section

variable {σ : Type*} {next : σ → σ} {stop : σ → Prop} [DecidablePred stop]

/-- A loop that steps until it may stop. It is given up after n tests. -/
def loop (next : σ → σ) (stop : σ → Prop) [DecidablePred stop] : Nat → σ → Option σ
  | 0,_ => none
  | n + 1,x => if stop x then some x else loop next stop n (next x)

theorem loop_of_stop {n : Nat} {x : σ} (h : stop x) : loop next stop (n + 1) x = some x :=
  if_pos h

theorem loop_of_not_stop {n : Nat} {x : σ} (h : ¬stop x) :
    loop next stop (n + 1) x = loop next stop n (next x) :=
  if_neg h

/-- The rule of the loop: what each step keeps holds at the end, together with
the condition to stop. -/
theorem loop_invariant (Inv : σ → Prop) (hnext : ∀ x, ¬stop x → Inv x → Inv (next x)) {n : Nat}
    {x y : σ} (hx : Inv x) (h : loop next stop n x = some y) : stop y ∧ Inv y := by
  induction n generalizing x with
  | zero => cases h
  | succ n ih =>
    by_cases hstop : stop x
    · rw [loop_of_stop hstop,Option.some.injEq] at h
      subst y
      exact ⟨hstop,hx⟩
    · rw [loop_of_not_stop hstop] at h
      exact ih (hnext x hstop hx) h

/-- The loop ends within n tests if one of the first n values may stop it. -/
theorem exists_loop_iff {n : Nat} {x : σ} :
    (∃ y, loop next stop n x = some y) ↔ ∃ k < n, stop (next^[k] x) := by
  induction n generalizing x with
  | zero => simp [loop]
  | succ n ih =>
    by_cases hstop : stop x
    · rw [loop_of_stop hstop]
      exact iff_of_true ⟨x,rfl⟩ ⟨0,n.succ_pos,hstop⟩
    · rw [loop_of_not_stop hstop,ih]
      constructor
      · rintro ⟨k,hk,h⟩
        exact ⟨k + 1,by omega,h⟩
      · rintro ⟨k,hk,h⟩
        cases k with
        | zero => exact absurd h hstop
        | succ k => exact ⟨k,by omega,h⟩

end

section

variable {M d : Nat}

/-- Steps of d modulo M come into every window of gcd d M values. -/
theorem exists_modEq_window (hM : 0 < M) (x low : Int) :
    ∃ k < M, ∃ r : Int, low ≤ r ∧ r < low + Nat.gcd d M ∧ x + (k : Nat) * d ≡ r [ZMOD M] := by
  have hM' : (0 : Int) < M := by omega
  have hg : (0 : Int) < Nat.gcd d M := by exact_mod_cast Nat.gcd_pos_of_pos_right d hM
  have hdvd : (Nat.gcd d M : Int) ∣ low + (x - low) % Nat.gcd d M - x := by
    have hmod := Int.mul_ediv_add_emod (x - low) (Nat.gcd d M)
    exact ⟨-((x - low) / Nat.gcd d M),by linear_combination hmod⟩
  obtain ⟨c,hc⟩ := hdvd
  have hbezout := Nat.gcd_eq_gcd_ab d M
  have hrange := Int.emod_nonneg (Nat.gcdA d M * c) (by omega : (M : Int) ≠ 0)
  have hlt := Int.emod_lt_of_pos (Nat.gcdA d M * c) hM'
  refine ⟨(Nat.gcdA d M * c % M).toNat,by omega,low + (x - low) % Nat.gcd d M,?_,?_,?_⟩
  · have h := Int.emod_nonneg (x - low) (by omega : (Nat.gcd d M : Int) ≠ 0)
    omega
  · have h := Int.emod_lt_of_pos (x - low) hg
    omega
  · rw [Int.toNat_of_nonneg hrange]
    have hstep : Nat.gcdA d M * c % M * d ≡ Nat.gcdA d M * c * d [ZMOD M] :=
      (Int.mod_modEq ..).mul_right _
    apply (hstep.add_left x).trans
    rw [Int.modEq_iff_dvd]
    exact ⟨Nat.gcdB d M * c,by linear_combination hc + c * hbezout⟩

theorem iterate_add_bmod {x : Int} (hx : x.bmod M = x) (k : Nat) :
    (fun y : Int => (y + d).bmod M)^[k] x = (x + k * d).bmod M := by
  induction k with
  | zero => simp [hx]
  | succ k ih =>
    rw [Function.iterate_succ_apply',ih,Int.bmod_add_bmod]
    congr 1
    push_cast
    ring

end

end Loops
