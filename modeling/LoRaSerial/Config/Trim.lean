import LoRaSerial.Lib.Loops
import Mathlib.Data.List.TakeWhile

namespace LoRaSerial.Config
open Loops

/-- commandBuffer and commandLength. -/
structure CommandBuffer where
  commandBuffer : List UInt8
  commandLength : UInt8
  deriving DecidableEq

def isspace (c : UInt8) : Bool := c == 0x20 || (0x09 ≤ c && c ≤ 0x0D)

def numberSign : UInt8 := 0x23

/-- Remove the comment. -/
def removeComment (b : CommandBuffer) : CommandBuffer :=
  match (List.range b.commandLength.toNat).find? fun index =>
      b.commandBuffer.getD index 0 == numberSign with
  | some index => ⟨b.commandBuffer.set index 0,UInt8.ofNat index⟩
  | none => b

/-- Move what follows the byte at index over it, and put a zero where the last
byte was. -/
def removeByte (index : Nat) (b : CommandBuffer) : CommandBuffer :=
  let moved := (List.range' (index + 1) (b.commandLength.toNat - (index + 1))).foldl
    (fun commandBuffer j => commandBuffer.set (j - 1) (commandBuffer.getD j 0)) b.commandBuffer
  let commandLength := b.commandLength - 1
  ⟨moved.set commandLength.toNat 0,commandLength⟩

/-- The loop at one index; the byte there changes with each step. -/
def removeBlanks (tests index : Nat) (b : CommandBuffer) : Option CommandBuffer :=
  loop (removeByte index) (fun b => isspace (b.commandBuffer.getD index 0) = false) tests b

/-- Remove the white space. The loop over the indices is given up after n tests,
and the one inside it after as many. -/
def removeWhitespace (tests : Nat) : Nat → Nat → CommandBuffer → Option CommandBuffer
  | 0,_,_ => none
  | n + 1,index,b =>
    if index < b.commandLength.toNat then
      (removeBlanks tests index b).bind (removeWhitespace tests n (index + 1))
    else some b

/-- Remove the comment, then the white space. -/
def trimCommand (tests : Nat) (b : CommandBuffer) : Option CommandBuffer :=
  removeWhitespace tests tests 0 (removeComment b)

/-- The command of the buffer, as the bytes that commandLength counts. -/
def CommandBuffer.command (b : CommandBuffer) : List UInt8 :=
  b.commandBuffer.take b.commandLength.toNat

/-- The buffer holds these bytes and a zero behind them. -/
def CommandBuffer.Holds (b : CommandBuffer) (command : List UInt8) : Prop :=
  b.commandLength.toNat = command.length ∧ ∃ rest, b.commandBuffer = command ++ 0 :: rest

/-- What a command is without its comment and its white space. -/
def trimmed (command : List UInt8) : List UInt8 :=
  (command.takeWhile (· != numberSign)).filter fun c => !isspace c

namespace CommandBuffer.Holds

variable {b : CommandBuffer} {command front back : List UInt8}

theorem command_eq (h : b.Holds command) : b.command = command := by
  obtain ⟨hlength,rest,hbuffer⟩ := h
  rw [CommandBuffer.command,hlength,hbuffer,List.take_left]

theorem zero (h : b.Holds command) : b.commandBuffer[b.commandLength.toNat]? = some 0 := by
  obtain ⟨hlength,rest,hbuffer⟩ := h
  rw [hlength,hbuffer]
  simp

/-- A zero behind the command is all the buffer needs. -/
theorem of_zero (h : b.commandBuffer[b.commandLength.toNat]? = some 0) : b.Holds b.command := by
  obtain ⟨hlt,hzero⟩ := List.getElem?_eq_some_iff.mp h
  refine ⟨?_,b.commandBuffer.drop (b.commandLength.toNat + 1),?_⟩
  · simp only [CommandBuffer.command,List.length_take]
    omega
  · rw [CommandBuffer.command,← hzero,← List.drop_eq_getElem_cons,List.take_append_drop]

theorem getD_index (h : b.Holds (front ++ back)) :
    b.commandBuffer.getD front.length 0 = back.headD 0 := by
  obtain ⟨-,rest,hbuffer⟩ := h
  rw [hbuffer]
  cases back with
  | nil => simp
  | cons c back => simp

/-- A zero written into the command ends it there. -/
theorem cut (h : b.Holds (front ++ back)) (hback : back ≠ []) :
    CommandBuffer.Holds ⟨b.commandBuffer.set front.length 0,UInt8.ofNat front.length⟩ front := by
  obtain ⟨hlength,rest,hbuffer⟩ := h
  obtain ⟨c,tail,rfl⟩ := List.exists_cons_of_ne_nil hback
  have hlt := b.commandLength.toNat_lt
  refine ⟨?_,tail ++ 0 :: rest,?_⟩
  · rw [hlength,List.length_append] at hlt
    exact Nat.mod_eq_of_lt (by omega)
  · simp [hbuffer]

end CommandBuffer.Holds

variable {b : CommandBuffer} {command front back : List UInt8}

theorem takeWhile_eq_take {α : Type} {p : α → Bool} {l : List α} {n : Nat} (hn : n < l.length)
    (hbefore : ∀ (j : Nat) (hj : j < n), p l[j] = true) (hstop : p l[n] = false) :
    l.takeWhile p = l.take n := by
  have hfirst : ∀ c ∈ l.take n, p c = true := by
    intro c hc
    obtain ⟨j,hj,rfl⟩ := List.mem_take_iff_getElem.mp hc
    exact hbefore j (by omega)
  conv => lhs; rw [← List.take_append_drop n l]
  rw [List.takeWhile_append_of_pos hfirst,List.drop_eq_getElem_cons hn,
    List.takeWhile_cons_of_neg (Bool.eq_false_iff.mp hstop),List.append_nil]

theorem removeComment_holds (h : b.Holds command) :
    (removeComment b).Holds (command.takeWhile (· != numberSign)) := by
  have hread : ∀ (index : Nat) (hindex : index < command.length),
      b.commandBuffer.getD index 0 = command[index] := by
    intro index hindex
    obtain ⟨-,rest,hbuffer⟩ := h
    simp [hbuffer,List.getElem?_append_left hindex,hindex]
  unfold removeComment
  cases hfind : (List.range b.commandLength.toNat).find? fun index =>
      b.commandBuffer.getD index 0 == numberSign with
  | none =>
    rw [List.find?_range_eq_none,h.1] at hfind
    have hall : command.takeWhile (· != numberSign) = command := by
      rw [List.takeWhile_eq_self_iff]
      intro c hc
      obtain ⟨index,hindex,rfl⟩ := List.mem_iff_getElem.mp hc
      have hother := hfind index hindex
      rwa [hread index hindex] at hother
    rw [hall]
    exact h
  | some index =>
    obtain ⟨hsign,hmem,hbefore⟩ := List.find?_range_eq_some.mp hfind
    rw [List.mem_range,h.1] at hmem
    have htake : command.takeWhile (· != numberSign) = command.take index := by
      refine takeWhile_eq_take hmem (fun j hj => ?_) ?_
      · have hother := hbefore j hj
        rwa [hread j (hj.trans hmem)] at hother
      · rw [hread index hmem] at hsign
        rw [bne,hsign]
        rfl
    have hlength : (command.take index).length = index := by
      simp only [List.length_take]
      omega
    rw [← List.take_append_drop index command] at h
    have hcut := h.cut (by simpa using hmem)
    rw [hlength] at hcut
    rw [htake]
    exact hcut

/-- The bytes behind the one that goes all come down by one. The last of them
is then there twice. -/
theorem foldl_moved (front back rest : List UInt8) (c : UInt8) :
    ∃ last, (List.range' (front.length + 1) back.length).foldl
      (fun commandBuffer j => commandBuffer.set (j - 1) (commandBuffer.getD j 0))
      (front ++ c :: (back ++ rest)) = front ++ back ++ last :: rest := by
  induction back generalizing front c with
  | nil => exact ⟨c,by simp⟩
  | cons d back ih =>
    obtain ⟨last,hlast⟩ := ih (front ++ [d]) d
    refine ⟨last,?_⟩
    have hmove : (front ++ c :: (d :: back ++ rest)).set (front.length + 1 - 1)
        ((front ++ c :: (d :: back ++ rest)).getD (front.length + 1) 0) =
        front ++ [d] ++ d :: (back ++ rest) := by
      simp
    rw [List.length_cons,List.range'_succ,List.foldl_cons,hmove]
    rw [List.length_append] at hlast
    rw [List.append_cons front d back]
    exact hlast

theorem removeByte_holds {c : UInt8} (h : b.Holds (front ++ c :: back)) :
    (removeByte front.length b).Holds (front ++ back) := by
  obtain ⟨hlength,rest,hbuffer⟩ := h
  rw [List.length_append,List.length_cons] at hlength
  have hone : (1 : UInt8) ≤ b.commandLength := UInt8.le_iff_toNat_le.mpr (by
    change 1 ≤ b.commandLength.toNat
    omega)
  have hless : (b.commandLength - 1).toNat = (front ++ back).length := by
    rw [UInt8.toNat_sub_of_le _ _ hone,hlength,List.length_append]
    rfl
  have hbehind : b.commandLength.toNat - (front.length + 1) = back.length := by omega
  obtain ⟨last,hmoved⟩ := foldl_moved front back (0 :: rest) c
  refine ⟨hless,0 :: rest,?_⟩
  have hread : b.commandBuffer = front ++ c :: (back ++ 0 :: rest) := by
    rw [hbuffer]
    simp
  unfold removeByte
  dsimp only
  rw [hbehind,hread,hmoved,hless]
  simp

theorem removeBlanks_holds {tests : Nat} (h : b.Holds (front ++ back))
    (htests : back.length < tests) :
    ∃ t, removeBlanks tests front.length b = some t ∧
      t.Holds (front ++ back.dropWhile isspace) := by
  induction back generalizing b tests with
  | nil =>
    obtain ⟨n,rfl⟩ := Nat.exists_eq_add_of_lt htests
    refine ⟨b,loop_of_stop ?_,h⟩
    rw [h.getD_index]
    rfl
  | cons c back ih =>
    obtain ⟨n,rfl⟩ : ∃ n, tests = n + 1 := ⟨tests - 1,by omega⟩
    unfold removeBlanks
    cases hblank : isspace c with
    | true =>
      rw [loop_of_not_stop (by rw [h.getD_index]; simp [hblank]),List.dropWhile_cons_of_pos hblank]
      exact ih (removeByte_holds h) (by simpa using htests)
    | false =>
      rw [List.dropWhile_cons_of_neg (by simp [hblank])]
      refine ⟨b,loop_of_stop ?_,h⟩
      rw [h.getD_index]
      exact hblank

/-- The white space in front is none of what stays. -/
theorem filter_dropWhile_isspace (command : List UInt8) :
    (command.dropWhile isspace).filter (fun c => !isspace c) =
      command.filter fun c => !isspace c := by
  induction command with
  | nil => rfl
  | cons c command ih =>
    cases hblank : isspace c with
    | true =>
      rw [List.dropWhile_cons_of_pos hblank,ih,List.filter_cons_of_neg (by simp [hblank])]
    | false => rw [List.dropWhile_cons_of_neg (by simp [hblank])]

/-- Every index keeps one byte, if any is left. -/
theorem removeWhitespace_holds {tests n : Nat} (h : b.Holds (front ++ back))
    (htests : back.length < tests) (hn : back.length < n) :
    ∃ t, removeWhitespace tests n front.length b = some t ∧
      t.Holds (front ++ back.filter fun c => !isspace c) := by
  induction n generalizing b front back with
  | zero => omega
  | succ n ih =>
    have hlength := h.1
    rw [List.length_append] at hlength
    rw [removeWhitespace]
    by_cases hback : back = []
    · subst hback
      rw [if_neg (by simpa using hlength.le)]
      exact ⟨b,rfl,h⟩
    · have hpos := List.length_pos_iff.mpr hback
      obtain ⟨t,hblanks,ht⟩ := removeBlanks_holds h htests
      rw [if_pos (by omega),hblanks,Option.bind_some,← filter_dropWhile_isspace]
      have hsuffix := (List.dropWhile_suffix isspace (l := back)).length_le
      cases hkept : back.dropWhile isspace with
      | nil =>
        rw [hkept] at ht
        obtain ⟨m,rfl⟩ : ∃ m, n = m + 1 := ⟨n - 1,by omega⟩
        have hend := ht.1
        rw [List.append_nil] at hend
        rw [removeWhitespace,if_neg (by omega)]
        exact ⟨t,rfl,ht⟩
      | cons c rest =>
        have hc : isspace c = false := by
          have hhead := List.head_dropWhile_not isspace (l := back) (by simp [hkept])
          simpa [hkept] using hhead
        rw [hkept] at ht hsuffix
        rw [List.length_cons] at hsuffix
        rw [List.filter_cons_of_pos (by simp [hc]),List.append_cons]
        rw [List.append_cons] at ht
        have hnext := ih ht (by omega) (by omega)
        rwa [List.length_append] at hnext

theorem trimCommand_holds {tests : Nat} (h : b.Holds command)
    (htests : b.commandLength.toNat < tests) :
    ∃ t, trimCommand tests b = some t ∧ t.Holds (trimmed command) := by
  have hlength := (List.takeWhile_prefix (· != numberSign) (l := command)).length_le
  rw [h.1] at htests
  have hcomment : (removeComment b).Holds ([] ++ command.takeWhile (· != numberSign)) :=
    removeComment_holds h
  exact removeWhitespace_holds hcomment (by omega) (by omega)

/-- trimCommand ends, and leaves the bytes before the first number sign without
the white space among them, with a zero behind them. -/
theorem trimCommand_eq {tests : Nat} (b : CommandBuffer)
    (hzero : b.commandBuffer[b.commandLength.toNat]? = some 0)
    (htests : b.commandLength.toNat < tests) :
    ∃ t, trimCommand tests b = some t ∧ t.command = trimmed b.command ∧
      t.commandLength.toNat = (trimmed b.command).length ∧
      t.commandBuffer[t.commandLength.toNat]? = some 0 := by
  obtain ⟨t,htrim,ht⟩ := trimCommand_holds (CommandBuffer.Holds.of_zero hzero) htests
  exact ⟨t,htrim,ht.command_eq,ht.1,ht.zero⟩

/-- "AT -\t?  # x", with blanks in front of the comment. -/
def commented : CommandBuffer where
  commandBuffer := [0x41,0x54,0x20,0x2D,0x09,0x3F,0x20,0x20,0x23,0x20,0x78,0,0xFF,0xFF]
  commandLength := 11

theorem trimCommand_eq_commented :
    ∃ t, trimCommand 12 commented = some t ∧ t.command = trimmed commented.command ∧
      t.commandLength.toNat = (trimmed commented.command).length ∧
      t.commandBuffer[t.commandLength.toNat]? = some 0 :=
  trimCommand_eq commented rfl (by decide)

end LoRaSerial.Config
