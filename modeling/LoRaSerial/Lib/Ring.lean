import Mathlib.Algebra.GroupWithZero.Nat
import Mathlib.Data.List.Basic
import Mathlib.Logic.Function.Basic

namespace Rings

variable {α : Type*} {size : Nat} [NeZero size]

/-- A circular buffer. It is empty when the two indices meet, so one cell of it
stays unused. -/
structure Ring (α : Type*) (size : Nat) where
  cell : Fin size → α
  head : Fin size
  tail : Fin size

/-- The index `n` cells behind another. -/
def next (i : Fin size) (n : Nat) : Fin size :=
  ⟨(i + n) % size,Nat.mod_lt _ (Nat.pos_of_ne_zero (NeZero.ne size))⟩

/-- `n` cells from an index on, as memcpy takes them. -/
def slice (cell : Fin size → α) (start : Fin size) (n : Nat) : List α :=
  (List.range n).map fun k => cell (next start k)

/-- memcpy of `as` to the cells from index `start` on. -/
def writeAt (cell : Fin size → α) (start : Nat) (as : List α) : Fin size → α := fun i =>
  if i < start then cell i else as.getD (i - start) (cell i)

theorem next_next (i : Fin size) (m n : Nat) : next (next i m) n = next i (m + n) := by
  ext
  simp only [next,Nat.mod_add_mod,Nat.add_assoc]

@[simp] theorem next_zero (i : Fin size) : next i 0 = i := by
  ext
  simp [next,Nat.mod_eq_of_lt i.isLt]

theorem next_inj {i : Fin size} {m n : Nat} (hm : m < size) (hn : n < size)
    (h : next i m = next i n) : m = n := by
  have hi := i.isLt
  have hmod : (i.val + m) % size = (i.val + n) % size := congrArg Fin.val h
  rcases Nat.lt_or_ge (i + m) size with him | him <;>
    rcases Nat.lt_or_ge (i + n) size with hin | hin
  · rw [Nat.mod_eq_of_lt him,Nat.mod_eq_of_lt hin] at hmod
    omega
  · rw [Nat.mod_eq_of_lt him,Nat.mod_eq_sub_mod hin,Nat.mod_eq_of_lt (by omega)] at hmod
    omega
  · rw [Nat.mod_eq_of_lt hin,Nat.mod_eq_sub_mod him,Nat.mod_eq_of_lt (by omega)] at hmod
    omega
  · rw [Nat.mod_eq_sub_mod him,Nat.mod_eq_sub_mod hin,Nat.mod_eq_of_lt (by omega),
      Nat.mod_eq_of_lt (by omega)] at hmod
    omega

theorem slice_add (cell : Fin size → α) (start : Fin size) (m n : Nat) :
    slice cell start (m + n) = slice cell start m ++ slice cell (next start m) n := by
  simp [slice,List.range_add,next_next]

namespace Ring

/-- The number of unread items. -/
def available (r : Ring α size) : Nat :=
  if r.tail ≤ r.head then r.head - r.tail else size - r.tail + r.head

/-- The unread items, oldest first. -/
def contents (r : Ring α size) : List α := slice r.cell r.tail r.available

/-- The item `k` places behind the oldest. -/
def peek (r : Ring α size) (k : Nat) : α := r.cell (next r.tail k)

def push (r : Ring α size) (a : α) : Ring α size :=
  { r with cell := Function.update r.cell r.head a, head := next r.head 1 }

def pushAll (r : Ring α size) (as : List α) : Ring α size := as.foldl push r

/-- Skip `n` items. -/
def skip (r : Ring α size) (n : Nat) : Ring α size := { r with tail := next r.tail n }

/-- Forget all items. -/
def flush (r : Ring α size) : Ring α size := { r with tail := r.head }

/-- Forget all items, the other way: take them back. -/
def revoke (r : Ring α size) : Ring α size := { r with head := r.tail }

/-- Copy `n` items out, in two pieces where they pass the end of the buffer. -/
def take (r : Ring α size) (n : Nat) : List α × Ring α size :=
  if size < r.tail + n then
    let length := size - r.tail
    (slice r.cell r.tail length ++ slice r.cell 0 (n - length),
      { r with tail := next 0 (n - length) })
  else (slice r.cell r.tail n,{ r with tail := next r.tail n })

/-- Copy items in, in two pieces where they pass the end of the buffer. -/
def put (r : Ring α size) (as : List α) : Ring α size :=
  if size < r.head + as.length then
    let length := size - r.head
    { r with
      cell := writeAt (writeAt r.cell r.head (as.take length)) 0 (as.drop length)
      head := next 0 (as.length - length) }
  else { r with cell := writeAt r.cell r.head as, head := next r.head as.length }

omit [NeZero size] in
theorem available_lt (r : Ring α size) : r.available < size := by
  have hh := r.head.isLt
  have ht := r.tail.isLt
  unfold available
  split <;> omega

theorem head_eq (r : Ring α size) : r.head = next r.tail r.available := by
  have hh := r.head.isLt
  have ht := r.tail.isLt
  ext
  unfold available next
  dsimp only
  split
  next hle =>
    have hle' : r.tail.val ≤ r.head.val := hle
    rw [Nat.add_sub_cancel' hle',Nat.mod_eq_of_lt hh]
  next hle =>
    have hsum : r.tail.val + (size - r.tail.val + r.head.val) = size + r.head.val := by omega
    rw [hsum,Nat.add_mod_left,Nat.mod_eq_of_lt hh]

/-- The number of items is what leads from the tail to the head. -/
theorem available_unique {r : Ring α size} {n : Nat} (hn : n < size)
    (h : r.head = next r.tail n) : r.available = n :=
  next_inj r.available_lt hn (r.head_eq.symm.trans h)

@[simp] theorem length_contents (r : Ring α size) : r.contents.length = r.available := by
  simp [contents,slice]

theorem getElem?_contents {r : Ring α size} {k : Nat} (h : k < r.available) :
    r.contents[k]? = some (r.peek k) := by
  simp [contents,slice,peek,h]

theorem getD_contents {r : Ring α size} {k : Nat} (h : k < r.available) (d : α) :
    r.contents.getD k d = r.peek k := by
  rw [List.getD_eq_getElem?_getD,getElem?_contents h]
  rfl

theorem contents_eq_nil {r : Ring α size} : r.contents = [] ↔ r.available = 0 := by
  rw [← length_contents,List.length_eq_zero_iff]

/-- Pushing to a buffer that is not full leaves every unread item in place. -/
theorem contents_push {r : Ring α size} (a : α) (h : r.available + 1 < size) :
    (r.push a).contents = r.contents ++ [a] := by
  have havail : (r.push a).available = r.available + 1 := by
    apply available_unique h
    change next r.head 1 = _
    rw [r.head_eq,next_next]
    rfl
  have hcell : ∀ k < r.available, Function.update r.cell r.head a (next r.tail k) =
      r.cell (next r.tail k) := by
    intro k hk
    refine Function.update_of_ne (fun he => ?_) _ _
    rw [r.head_eq] at he
    have := next_inj (Nat.lt_trans hk r.available_lt) r.available_lt he
    omega
  have hkept : slice (r.push a).cell r.tail r.available = r.contents :=
    List.map_congr_left fun k hk => hcell k (List.mem_range.mp hk)
  have hlast : slice (r.push a).cell (next r.tail r.available) 1 = [a] := by
    rw [← r.head_eq]
    simp [slice,push]
  unfold contents
  rw [havail,slice_add]
  change slice (r.push a).cell r.tail r.available ++ _ = _
  rw [hkept]
  exact congrArg _ hlast

theorem available_push {r : Ring α size} (a : α) (h : r.available + 1 < size) :
    (r.push a).available = r.available + 1 := by
  rw [← length_contents,contents_push a h]
  simp

theorem contents_pushAll {r : Ring α size} {as : List α} (h : r.available + as.length < size) :
    (r.pushAll as).contents = r.contents ++ as := by
  induction as generalizing r with
  | nil => simp [pushAll]
  | cons a as ih =>
    have hone : r.available + 1 < size := by
      simp only [List.length_cons] at h
      omega
    have hrest : (r.push a).available + as.length < size := by
      rw [available_push a hone]
      simp only [List.length_cons] at h
      omega
    have htail := ih hrest
    simp only [pushAll,List.foldl_cons] at htail ⊢
    rw [htail,contents_push a hone,List.append_assoc]
    rfl

theorem available_skip {r : Ring α size} {n : Nat} (h : n ≤ r.available) :
    (r.skip n).available = r.available - n := by
  have hlt := r.available_lt
  apply available_unique (by omega)
  change r.head = next (next r.tail n) _
  rw [next_next,Nat.add_sub_cancel' h]
  exact r.head_eq

theorem skip_skip (r : Ring α size) (m n : Nat) : (r.skip m).skip n = r.skip (m + n) := by
  simp only [skip,next_next]

theorem peek_skip (r : Ring α size) (m k : Nat) : (r.skip m).peek k = r.peek (m + k) := by
  simp only [skip,peek,next_next]

theorem contents_split (r : Ring α size) {n : Nat} (h : n ≤ r.available) :
    r.contents = slice r.cell r.tail n ++ (r.skip n).contents := by
  unfold contents
  rw [available_skip h]
  change _ = _ ++ slice r.cell (next r.tail n) (r.available - n)
  rw [← slice_add,Nat.add_sub_cancel' h]

theorem length_slice (cell : Fin size → α) (start : Fin size) (n : Nat) :
    (slice cell start n).length = n := by
  simp [slice]

theorem slice_eq_take (r : Ring α size) {n : Nat} (h : n ≤ r.available) :
    slice r.cell r.tail n = r.contents.take n := by
  have hlen := length_slice r.cell r.tail n
  rw [r.contents_split h,List.take_append_of_le_length (Nat.le_of_eq hlen.symm),
    List.take_of_length_le (Nat.le_of_eq hlen)]

theorem contents_skip {r : Ring α size} {n : Nat} (h : n ≤ r.available) :
    (r.skip n).contents = r.contents.drop n := by
  have hlen := length_slice r.cell r.tail n
  have hdrop : (slice r.cell r.tail n ++ (r.skip n).contents).drop
      (slice r.cell r.tail n).length = (r.skip n).contents := List.drop_left
  rw [hlen] at hdrop
  rw [r.contents_split h,hdrop]

@[simp] theorem contents_flush (r : Ring α size) : r.flush.contents = [] := by
  simp [contents_eq_nil,available,flush]

@[simp] theorem contents_revoke (r : Ring α size) : r.revoke.contents = [] := by
  simp [contents_eq_nil,available,revoke]

/-- The two pieces are one stretch of the ring. -/
theorem take_eq (r : Ring α size) (n : Nat) :
    r.take n = (slice r.cell r.tail n,r.skip n) := by
  have ht := r.tail.isLt
  unfold take
  split
  next hwrap =>
    have hzero : next r.tail (size - r.tail) = 0 := by
      ext
      simp [next,Nat.add_sub_cancel' (Nat.le_of_lt ht)]
    have hsplit : n = (size - r.tail) + (n - (size - r.tail)) := by omega
    have hslice := slice_add r.cell r.tail (size - r.tail) (n - (size - r.tail))
    have hnext := next_next r.tail (size - r.tail) (n - (size - r.tail))
    rw [hzero,← hsplit] at hslice hnext
    dsimp only
    rw [hslice,hnext]
    rfl
  next => rfl

/-- What take copies out are the oldest items, and they are gone from the ring. -/
theorem take_contents (r : Ring α size) {n : Nat} (h : n ≤ r.available) :
    (r.take n).1 = r.contents.take n ∧ (r.take n).2.contents = r.contents.drop n := by
  rw [r.take_eq]
  exact ⟨r.slice_eq_take h,contents_skip h⟩

theorem next_to_zero (i : Fin size) : next i (size - i) = 0 := by
  ext
  simp [next,Nat.add_sub_cancel' (Nat.le_of_lt i.isLt)]

/-- A copy that does not pass the end of the buffer is one push after another. -/
theorem writeAt_eq_pushAll {r : Ring α size} (as : List α) (h : r.head + as.length ≤ size) :
    { r with cell := writeAt r.cell r.head as, head := next r.head as.length } =
      r.pushAll as := by
  induction as generalizing r with
  | nil =>
    obtain ⟨cell,head,tail⟩ := r
    have hcell : writeAt cell head [] = cell := by
      funext i
      simp [writeAt]
    simp [pushAll,hcell]
  | cons a as ih =>
    rw [List.length_cons] at h
    have hnext : as = [] ∨ (next r.head 1).val = r.head + 1 := by
      cases as with
      | nil => exact .inl rfl
      | cons b bs =>
        rw [List.length_cons] at h
        exact .inr (Nat.mod_eq_of_lt (by omega))
    have hcell : writeAt r.cell r.head (a :: as) =
        writeAt (Function.update r.cell r.head a) (next r.head 1) as := by
      funext i
      rcases hnext with rfl | hnext
      · by_cases hi : i = r.head
        · simp [writeAt,hi]
        · have hne : i.val ≠ r.head.val := fun he => hi (Fin.ext he)
          unfold writeAt
          rw [Function.update_of_ne hi]
          split
          · simp
          · obtain ⟨k,hk⟩ : ∃ k, i.val - r.head.val = k + 1 := ⟨i.val - r.head.val - 1,by omega⟩
            rw [hk]
            simp
      · unfold writeAt
        rw [hnext]
        rcases Nat.lt_trichotomy i r.head with hi | hi | hi
        · rw [if_pos hi,if_pos (by omega),Function.update_of_ne (fun he => by simp [he] at hi)]
        · obtain rfl : i = r.head := Fin.ext hi
          simp
        · rw [if_neg (by omega),if_neg (by omega),
            Function.update_of_ne (fun he => by simp [he] at hi)]
          obtain ⟨k,hk⟩ : ∃ k, i.val = r.head.val + 1 + k := ⟨i.val - r.head.val - 1,by omega⟩
          rw [hk,Nat.add_assoc,Nat.add_sub_cancel_left,Nat.add_comm 1 k,List.getD_cons_succ,
            ← Nat.add_assoc,Nat.add_right_comm,Nat.add_sub_cancel_left]
    have hroom : (r.push a).head + as.length ≤ size := by
      change (next r.head 1).val + as.length ≤ size
      rcases hnext with rfl | hnext
      · exact Nat.le_of_lt (next r.head 1).isLt
      · omega
    have hrest := ih hroom
    change _ = (r.push a).pushAll as
    rw [← hrest,hcell,List.length_cons,Nat.add_comm as.length 1,← next_next]
    rfl

theorem put_eq_pushAll {r : Ring α size} {as : List α} (h : as.length ≤ size) :
    r.put as = r.pushAll as := by
  have hhead := r.head.isLt
  unfold put
  split
  next hwrap =>
    have hlength : (as.take (size - r.head)).length = size - r.head := by
      rw [List.length_take]
      omega
    have hfirst := writeAt_eq_pushAll (r := r) (as.take (size - r.head)) (by omega)
    rw [hlength,next_to_zero] at hfirst
    have hsecond := writeAt_eq_pushAll (r := r.pushAll (as.take (size - r.head)))
      (as.drop (size - r.head)) (by
        rw [← hfirst,List.length_drop]
        simp only [Fin.val_zero]
        omega)
    rw [← hfirst,List.length_drop] at hsecond
    have hsplit : r.pushAll as =
        (r.pushAll (as.take (size - r.head))).pushAll (as.drop (size - r.head)) := by
      rw [pushAll,pushAll,pushAll,← List.foldl_append,List.take_append_drop]
    rw [hsplit,← hfirst]
    exact hsecond
  next hfits => exact writeAt_eq_pushAll as (Nat.le_of_not_lt hfits)

theorem available_pushAll (r : Ring α size) (as : List α) :
    (r.pushAll as).available = (r.available + as.length) % size := by
  have htail : ∀ r : Ring α size, (r.pushAll as).tail = r.tail ∧
      (r.pushAll as).head = next r.head as.length := by
    induction as with
    | nil => exact fun r => ⟨rfl,(next_zero _).symm⟩
    | cons a as ih =>
      intro r
      obtain ⟨ht,hh⟩ := ih (r.push a)
      refine ⟨ht,hh.trans ?_⟩
      change next (next r.head 1) as.length = _
      rw [next_next,Nat.add_comm,List.length_cons]
  obtain ⟨ht,hh⟩ := htail r
  apply available_unique (Nat.mod_lt _ (Nat.pos_of_ne_zero (NeZero.ne size)))
  rw [ht,hh,r.head_eq,next_next]
  ext
  simp [next]

/-- The items go behind the unread ones exactly if one cell stays free; one
item more and the buffer looks empty. -/
theorem contents_pushAll_iff {r : Ring α size} {as : List α} :
    (r.pushAll as).contents = r.contents ++ as ↔ r.available + as.length < size := by
  constructor
  · intro h
    have hlength := congrArg List.length h
    rw [List.length_append,length_contents,length_contents,available_pushAll] at hlength
    rw [← hlength]
    exact Nat.mod_lt _ (Nat.pos_of_ne_zero (NeZero.ne size))
  · exact contents_pushAll

end Ring

end Rings
