import Mathlib.Data.List.Range

namespace Reading

variable {β α γ : Type}

/-- A program that reads cells of a buffer, each by its position, and comes to a
result. -/
inductive Prog (β α : Type) where
  | done (a : α) : Prog β α
  | read (k : Nat) (next : β → Prog β α) : Prog β α

namespace Prog

def andThen : Prog β α → (α → Prog β γ) → Prog β γ
  | .done a,f => f a
  | .read k next,f => .read k fun b => (next b).andThen f

instance : Monad (Prog β) where
  pure := .done
  bind := andThen

def run (buf : Nat → β) : Prog β α → α
  | .done a => a
  | .read k next => (next (buf k)).run buf

/-- The positions that are read, in their order. -/
def reads (buf : Nat → β) : Prog β α → List Nat
  | .done _ => []
  | .read k next => k :: (next (buf k)).reads buf

def cell (k : Nat) : Prog β β := .read k .done

/-- `n` cells from a position on. -/
def cells (start : Nat) : Nat → Prog β (List β)
  | 0 => .done []
  | n + 1 => .read start fun b => (cells (start + 1) n).andThen fun bs => .done (b :: bs)

/-- Nothing is read from position `n` on. -/
def Within (n : Nat) (buf : Nat → β) (p : Prog β α) : Prop := ∀ k ∈ p.reads buf, k < n

variable {buf : Nat → β} {n : Nat}

@[simp] theorem run_pure (a : α) : (pure a : Prog β α).run buf = a := rfl

@[simp] theorem run_cell (k : Nat) : (cell k).run buf = buf k := by simp only [cell,run]

theorem run_andThen (p : Prog β α) (f : α → Prog β γ) :
    (p.andThen f).run buf = (f (p.run buf)).run buf := by
  induction p with
  | done a => rfl
  | read k next ih => exact ih (buf k)

@[simp] theorem run_bind (p : Prog β α) (f : α → Prog β γ) :
    (p >>= f).run buf = (f (p.run buf)).run buf :=
  run_andThen p f

theorem reads_andThen (p : Prog β α) (f : α → Prog β γ) :
    (p.andThen f).reads buf = p.reads buf ++ (f (p.run buf)).reads buf := by
  induction p with
  | done a => rfl
  | read k next ih => exact congrArg (List.cons k) (ih (buf k))

@[simp] theorem run_ite (c : Prop) [Decidable c] (p q : Prog β α) :
    (if c then p else q).run buf = if c then p.run buf else q.run buf :=
  apply_ite (run buf) c p q

theorem run_cells (start n : Nat) :
    (cells start n).run buf = (List.range n).map fun k => buf (start + k) := by
  induction n generalizing start with
  | zero => rfl
  | succ n ih =>
    have hshift : (fun k => buf (start + 1 + k)) = (fun k => buf (start + k)) ∘ Nat.succ := by
      funext k
      simp only [Function.comp,Nat.succ_eq_add_one,Nat.add_assoc,Nat.add_comm 1 k]
    rw [List.range_succ_eq_map,List.map_cons,List.map_map,← hshift,← ih (start + 1)]
    exact run_andThen _ _

theorem reads_cells (start n : Nat) :
    (cells start n : Prog β (List β)).reads buf = List.range' start n := by
  induction n generalizing start with
  | zero => rfl
  | succ n ih =>
    rw [List.range'_succ,← ih (start + 1)]
    exact congrArg (List.cons start) ((reads_andThen _ _).trans (List.append_nil _))

@[simp] theorem within_pure (a : α) : Within n buf (pure a : Prog β α) :=
  fun _ hk => nomatch hk

@[simp] theorem within_cell (k : Nat) : Within n buf (cell k) ↔ k < n := by
  simp [Within,cell,reads]

@[simp] theorem within_bind (p : Prog β α) (f : α → Prog β γ) :
    Within n buf (p >>= f) ↔ Within n buf p ∧ Within n buf (f (p.run buf)) := by
  have hreads : (p >>= f).reads buf = p.reads buf ++ (f (p.run buf)).reads buf :=
    reads_andThen p f
  simp only [Within,hreads,List.mem_append,or_imp,forall_and]

@[simp] theorem within_ite (c : Prop) [Decidable c] (p q : Prog β α) :
    Within n buf (if c then p else q) ↔ if c then Within n buf p else Within n buf q := by
  rw [apply_ite (Within n buf) c p q]

@[simp] theorem within_cells (start m : Nat) :
    Within n buf (cells start m : Prog β (List β)) ↔ m = 0 ∨ start + m ≤ n := by
  unfold Within
  rw [reads_cells]
  simp only [List.mem_range'_1]
  constructor
  · intro h
    rcases Nat.eq_zero_or_pos m with hm | hm
    · exact .inl hm
    · have hlast := h (start + m - 1) (by omega)
      exact .inr (by omega)
  · rintro (rfl | hle) k hk <;> omega

/-- Go on with the result, if there is one. -/
def attempt {ε : Type} (p : Prog β (Except ε α)) (f : α → Prog β (Except ε γ)) :
    Prog β (Except ε γ) :=
  p >>= fun
    | .ok a => f a
    | .error e => pure (.error e)

theorem run_attempt {ε : Type} (p : Prog β (Except ε α)) (f : α → Prog β (Except ε γ)) :
    (p.attempt f).run buf =
      match p.run buf with
      | .ok a => (f a).run buf
      | .error e => .error e := by
  unfold attempt
  rw [run_bind]
  cases p.run buf <;> rfl

theorem attempt_ok {ε : Type} {p : Prog β (Except ε α)} {f : α → Prog β (Except ε γ)} {c : γ} :
    (p.attempt f).run buf = .ok c ↔ ∃ a, p.run buf = .ok a ∧ (f a).run buf = .ok c := by
  rw [run_attempt]
  cases p.run buf with
  | ok a => simp
  | error e => simp

theorem within_attempt {ε : Type} (p : Prog β (Except ε α)) (f : α → Prog β (Except ε γ)) :
    Within n buf (p.attempt f) ↔
      Within n buf p ∧ ∀ a, p.run buf = .ok a → Within n buf (f a) := by
  unfold attempt
  rw [within_bind]
  cases p.run buf with
  | ok a => simp
  | error e => simp

/-- Two buffers that agree on what is read give the same result. -/
theorem run_congr {p : Prog β α} {buf' : Nat → β} (h : ∀ k ∈ p.reads buf, buf k = buf' k) :
    p.run buf = p.run buf' := by
  induction p with
  | done a => rfl
  | read k next ih =>
    have hk : buf k = buf' k := h k List.mem_cons_self
    change (next (buf k)).run buf = (next (buf' k)).run buf'
    rw [← hk]
    exact ih (buf k) fun j hj => h j (List.mem_cons_of_mem k hj)

theorem Within.run_eq {p : Prog β α} {buf' : Nat → β} (h : Within n buf p)
    (heq : ∀ k < n, buf k = buf' k) : p.run buf = p.run buf' :=
  run_congr fun k hk => heq k (h k hk)

/-- The buffer starts with these cells. -/
def Starts (buf : Nat → β) (bs : List β) : Prop := ∀ k (hk : k < bs.length), buf k = bs[k]

theorem run_cells_slice {bs : List β} (h : Starts buf bs) {start m : Nat}
    (hle : start + m ≤ bs.length) :
    (cells start m).run buf = (bs.drop start).take m := by
  rw [run_cells]
  apply List.ext_getElem
  · simp only [List.length_map,List.length_range,List.length_take,List.length_drop]
    omega
  · intro k hk hk'
    have hlt : start + k < bs.length := by
      simp only [List.length_map,List.length_range] at hk
      omega
    simp only [List.getElem_map,List.getElem_range,List.getElem_take,List.getElem_drop]
    exact h _ hlt

/-- A program that stays inside the cells a buffer starts with does not depend
on the rest of the buffer. -/
theorem Within.run_starts {p : Prog β α} {buf' : Nat → β} {bs : List β}
    (hw : Within bs.length buf p) (h : Starts buf bs) (h' : Starts buf' bs) :
    p.run buf = p.run buf' :=
  hw.run_eq fun k hk => (h k hk).trans (h' k hk).symm

end Prog

end Reading
