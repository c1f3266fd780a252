import Mathlib.Data.List.Basic

namespace Framing

variable {α : Type*} {size : α → Nat} {least : Nat}

/-- A message of at least `least` items, the first of which tells their number. -/
structure Whole (size : α → Nat) (least : Nat) (m : List α) : Prop where
  length : m.head?.map size = some m.length
  least : least ≤ m.length

/-- No whole message is the beginning of another. -/
theorem Whole.append_inj {m m' as as' : List α} (hm : Whole size least m)
    (hm' : Whole size least m') (h : m ++ as = m' ++ as') : m = m' ∧ as = as' := by
  have hlength : m.length = m'.length := by
    have hfirst := hm.length
    have hfirst' := hm'.length
    cases m with
    | nil => cases hfirst
    | cons a m =>
      cases m' with
      | nil => cases hfirst'
      | cons b m' =>
        obtain rfl : a = b := (List.cons.inj h).1
        exact (Option.some.inj hfirst).symm.trans (Option.some.inj hfirst')
  exact List.append_inj h hlength

/-- A stream of whole messages, one behind the other. -/
inductive Framed (size : α → Nat) (least : Nat) : List α → Prop where
  | nil : Framed size least []
  | cons {m as : List α} : Whole size least m → Framed size least as → Framed size least (m ++ as)

theorem framed_iff {as : List α} :
    Framed size least as ↔
      ∃ ms : List (List α), ms.flatten = as ∧ ∀ m ∈ ms, Whole size least m := by
  constructor
  · intro h
    induction h with
    | nil => exact ⟨[],rfl,by simp⟩
    | @cons m as hm _ ih =>
      obtain ⟨ms,rfl,hms⟩ := ih
      exact ⟨m :: ms,rfl,List.forall_mem_cons.mpr ⟨hm,hms⟩⟩
  · rintro ⟨ms,rfl,hms⟩
    induction ms with
    | nil => exact .nil
    | cons m ms ih =>
      obtain ⟨hm,hrest⟩ := List.forall_mem_cons.mp hms
      exact .cons hm (ih hrest)

/-- The producer: a whole message goes to the end. -/
theorem Framed.append {as m : List α} (h : Framed size least as) (hm : Whole size least m) :
    Framed size least (as ++ m) := by
  induction h with
  | nil => simpa using Framed.cons hm .nil
  | cons hfirst _ ih =>
    rw [List.append_assoc]
    exact .cons hfirst ih

/-- The consumer: where there is an item, it tells the length of a message that
is there whole, and messages follow it. -/
theorem Framed.first {as : List α} (h : Framed size least as) {a : α} (ha : as.head? = some a) :
    size a ≤ as.length ∧ Whole size least (as.take (size a)) ∧
      Framed size least (as.drop (size a)) := by
  cases h with
  | nil => cases ha
  | @cons m as hm hrest =>
    cases m with
    | nil => cases hm.length
    | cons b m =>
      obtain rfl : b = a := Option.some.inj ha
      have hsize : size b = (b :: m).length := Option.some.inj hm.length
      rw [hsize]
      refine ⟨?_,?_,?_⟩
      · rw [List.length_append]
        exact Nat.le_add_right _ _
      · rwa [List.take_left]
      · rwa [List.drop_left]

end Framing
