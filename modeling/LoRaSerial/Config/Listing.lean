import LoRaSerial.Config.CommandLine

namespace LoRaSerial.Config

variable {c : Console} {p : Parameter} {text : List Char} {k : CommandCall} {b : CommandBuffer}

theorem compareExchange_perm (order : List Parameter) (index x : Nat) :
    (compareExchange order index x).Perm order := by
  unfold compareExchange
  cases hp : order[index]? with
  | none => exact .refl _
  | some p =>
    cases hq : order[x]? with
    | none => exact .refl _
    | some q =>
      obtain ⟨hindex,rfl⟩ := List.getElem?_eq_some_iff.mp hp
      obtain ⟨hx,rfl⟩ := List.getElem?_eq_some_iff.mp hq
      dsimp only
      split
      · exact List.set_set_perm hindex hx
      · exact .refl _

/-- A loop of steps that each permute the list permutes it. -/
theorem foldl_perm {α β : Type} {step : List α → β → List α}
    (hstep : ∀ l x, (step l x).Perm l) (xs : List β) (l : List α) : (xs.foldl step l).Perm l := by
  induction xs generalizing l with
  | nil => exact .refl _
  | cons x xs ih => exact (ih _).trans (hstep l x)

theorem sortOrder_perm : sortOrder.Perm commands :=
  foldl_perm (fun order _ => foldl_perm (fun order _ => compareExchange_perm order _ _) _ order) _ _

theorem mem_sortOrder (p : Parameter) : p ∈ sortOrder := sortOrder_perm.mem_iff.mpr (mem_commands p)

/-- AT-name=value. -/
def Console.parameterLine (c : Console) (p : Parameter) : List Char :=
  'A' :: 'T' :: '-' :: (p.name ++ '=' :: (c.stored p).text p.row.digits)

theorem displayParameter_eq {printToRf : Bool}
    (hstyle : (c.radio.inCommandMode && printToRf) = false) (p : Parameter) :
    c.displayParameter printToRf p = c.systemPrint (c.parameterLine p ++ newLine) := by
  simp only [Console.displayParameter,Console.systemPrint,Console.systemWrite,
    Console.commandDisplay,Console.parameterLine,Console.stored,hstyle]
  simp

/-- The listing is the lines of the entries that are asked for. -/
theorem foldl_displayParameter {printToRf : Bool}
    (hstyle : (c.radio.inCommandMode && printToRf) = false) (asked : Parameter → Bool)
    (order : List Parameter) :
    order.foldl (fun c p => if asked p then c.displayParameter printToRf p else c) c =
      c.systemPrint ((order.filter asked).flatMap fun p => c.parameterLine p ++ newLine) := by
  induction order generalizing c with
  | nil => simp [Console.systemPrint,Console.systemWrite]
  | cons p order ih =>
    rw [List.foldl_cons]
    cases hasked : asked p with
    | false => simp [hasked,ih hstyle]
    | true =>
      rw [if_pos rfl,displayParameter_eq hstyle,ih (c := c.systemPrint _) hstyle,
        List.filter_cons_of_pos hasked]
      simp [Console.systemPrint,Console.systemWrite,Console.parameterLine,Console.stored]

theorem displayParameters_line {letter : Option Char} {displayAll printToRf : Bool}
    (hlisted : p.listed letter displayAll = true)
    (hstyle : (c.radio.inCommandMode && printToRf) = false) :
    ∃ before after, (c.displayParameters letter displayAll printToRf).printed =
      c.printed ++ before ++ (c.parameterLine p ++ newLine).map byteOf ++ after := by
  have hmem : p ∈ sortOrder.filter (Parameter.listed letter displayAll) :=
    List.mem_filter.mpr ⟨mem_sortOrder p,hlisted⟩
  obtain ⟨front,back,hsplit⟩ := List.append_of_mem hmem
  have hprinted := congrArg Console.printed
    (foldl_displayParameter hstyle (Parameter.listed letter displayAll) sortOrder)
  rw [hsplit] at hprinted
  let lines := fun order : List Parameter =>
    (order.flatMap fun p => c.parameterLine p ++ newLine).map byteOf
  refine ⟨lines front,lines back,hprinted.trans ?_⟩
  simp only [lines,Console.systemPrint,Console.systemWrite,List.flatMap_append,List.flatMap_cons,
    List.map_append,List.append_assoc]

/-- The characters that a line is made of. None is a number sign or white space. -/
def plain (d : Char) : Bool := 0x2D ≤ d.toNat && d.toNat < 0x7F

theorem plain_byte {d : Char} (h : plain d = true) :
    charOf (byteOf d) = d ∧ (byteOf d != numberSign) = true ∧ isspace (byteOf d) = false ∧
      (byteOf d != 0) = true := by
  have hall : ∀ n < 0x7F, 0x2D ≤ n → charOf (byteOf (Char.ofNat n)) = Char.ofNat n ∧
      (byteOf (Char.ofNat n) != numberSign) = true ∧ isspace (byteOf (Char.ofNat n)) = false ∧
      (byteOf (Char.ofNat n) != 0) = true := by
    decide +kernel
  simp only [plain,Bool.and_eq_true,decide_eq_true_eq] at h
  have hchar := hall d.toNat h.2 h.1
  rwa [Char.ofNat_toNat] at hchar

theorem name_plain_chars (p : Parameter) :
    (∀ d ∈ p.name, plain d = true) ∧ upper (upper p.name) = upper p.name ∧
      (upper p.name).head? ≠ some '?' := by
  have hall : ∀ p ∈ commands, p.name.all plain = true ∧
      upper (upper p.name) = upper p.name ∧ (upper p.name).head? ≠ some '?' := by
    decide +kernel
  obtain ⟨hplain,hupper,hhead⟩ := hall p (mem_commands p)
  exact ⟨List.all_eq_true.mp hplain,hupper,hhead⟩

/-- White space behind a plain line is no part of the command. -/
theorem trimmed_line {line : List Char} {ending : List UInt8} (hline : ∀ d ∈ line, plain d = true)
    (hending : ∀ d ∈ ending, isspace d = true) :
    trimmed (line.map byteOf ++ ending) = line.map byteOf := by
  have hblank : ∀ d : UInt8, isspace d = true → (d != numberSign) = true := by
    intro d hd
    rw [bne_iff_ne]
    rintro rfl
    cases hd
  have hbytes : ∀ d ∈ line.map byteOf, (d != numberSign) = true ∧ isspace d = false := by
    intro d hd
    obtain ⟨e,he,rfl⟩ := List.mem_map.mp hd
    obtain ⟨-,hsign,hspace,-⟩ := plain_byte (hline e he)
    exact ⟨hsign,hspace⟩
  have htake : (line.map byteOf ++ ending).takeWhile (· != numberSign) =
      line.map byteOf ++ ending := by
    rw [List.takeWhile_eq_self_iff]
    intro d hd
    rcases List.mem_append.mp hd with hd | hd
    · exact (hbytes d hd).1
    · exact hblank d (hending d hd)
  have hkept : (line.map byteOf).filter (fun d => !isspace d) = line.map byteOf :=
    List.filter_eq_self.mpr fun d hd => by simp [(hbytes d hd).2]
  have hdropped : ending.filter (fun d => !isspace d) = [] :=
    List.filter_eq_nil_iff.mpr fun d hd => by simp [hending d hd]
  rw [trimmed,htake,List.filter_append,hkept,hdropped,List.append_nil]

theorem string_line {line : List Char} (h : b.Holds (line.map byteOf))
    (hline : ∀ d ∈ line, plain d = true) : b.string = line := by
  have hnonzero : (line.map byteOf).takeWhile (· != 0) = line.map byteOf := by
    rw [List.takeWhile_eq_self_iff]
    intro d hd
    obtain ⟨e,he,rfl⟩ := List.mem_map.mp hd
    exact (plain_byte (hline e he)).2.2.2
  rw [CommandBuffer.string,h.command_eq,hnonzero,List.map_map]
  exact (List.map_congr_left fun d hd => (plain_byte (hline d hd)).1).trans (List.map_id _)

/-- AT- comes before AT in the table, and the name of no entry begins with a
question mark. -/
theorem locatePrefix_parameter (operatingMode : OperatingMode) (hhead : text.head? ≠ some '?') :
    locatePrefix operatingMode ('A' :: 'T' :: '-' :: text) =
      some ⟨"AT-",true,.commandSetByName⟩ := by
  have hall : ¬['?'] <+: text := by
    rintro ⟨rest,rfl⟩
    exact hhead rfl
  unfold locatePrefix prefixTable
  rw [List.find?_cons_of_neg,List.find?_cons_of_neg,List.find?_cons_of_neg,
    List.find?_cons_of_neg,List.find?_cons_of_neg,List.find?_cons_of_neg,List.find?_cons_of_pos]
  all_goals simp [List.isPrefixOf,hall]

theorem commandComplete_stored (success : Bool) :
    (k.commandComplete success c).stored p = c.stored p := by
  unfold CommandCall.commandComplete
  split <;> rfl

theorem report_stored (success : Bool) : (k.report success c).stored p = c.stored p :=
  (commandComplete_stored success).trans rfl

theorem upper_of_toUpper (h : ∀ d ∈ text, d.toUpper = d) : upper text = text :=
  (List.map_congr_left h).trans (List.map_id _)

theorem line_plain (htext : ∀ d ∈ text, plain d = true) :
    ∀ d ∈ 'A' :: 'T' :: '-' :: (p.name ++ '=' :: text), plain d = true := by
  simp only [List.mem_cons,List.mem_append]
  rintro d (rfl | rfl | rfl | hd | rfl | hd)
  · rfl
  · rfl
  · rfl
  · exact (name_plain_chars p).1 d hd
  · rfl
  · exact htext d hd

/-- checkCommand puts a zero behind the line, as trimCommand needs it. -/
theorem trimCommand_line {tests : Nat} {line : List Char} {ending : List UInt8}
    (hline : ∀ d ∈ line, plain d = true) (hending : ∀ d ∈ ending, isspace d = true)
    (hbuffer : b.command = line.map byteOf ++ ending)
    (hroom : b.commandLength.toNat < b.commandBuffer.length)
    (htests : b.commandLength.toNat < tests) :
    ∃ t, trimCommand tests { b with
        commandBuffer := b.commandBuffer.set b.commandLength.toNat 0 } = some t ∧
      t.Holds (line.map byteOf) := by
  let b₀ : CommandBuffer := { b with commandBuffer := b.commandBuffer.set b.commandLength.toNat 0 }
  have hholds : b₀.Holds b.command := by
    have hzero : b₀.commandBuffer[b₀.commandLength.toNat]? = some 0 := by simp [b₀,hroom]
    have hsame : b₀.command = b.command := List.take_set_of_le le_rfl
    exact hsame ▸ CommandBuffer.Holds.of_zero hzero
  obtain ⟨t,htrim,ht⟩ := trimCommand_holds hholds htests
  rw [hbuffer,trimmed_line hline hending] at ht
  exact ⟨t,htrim,ht⟩

theorem execute_parameter {commandLength : UInt8} (hlong : 2 ≤ commandLength) :
    k.execute ('A' :: 'T' :: '-' :: (upper p.name ++ '=' :: text)) commandLength c =
      if p.accepts c.radio.settings text then (c.assigned p text,true) else (c,false) := by
  obtain ⟨-,hidem,hhead⟩ := name_plain_chars p
  have hsome : (upper p.name ++ '=' :: text).head? ≠ some '?' := by
    rw [List.head?_append]
    cases hfirst : (upper p.name).head? with
    | none => simp
    | some d => simpa [hfirst] using hhead
  rw [CommandCall.execute,if_pos hlong,locatePrefix_parameter _ hsome]
  exact (commandSetByName_eq rfl hidem).trans (commandSetOrDisplayValue_eq c p text)

/-- The line with this text for an entry, as checkCommand takes it. -/
theorem checkCommand_parameter {tests : Nat} {ending : List UInt8}
    (htext : ∀ d ∈ text, plain d = true) (hending : ∀ d ∈ ending, isspace d = true)
    (hbuffer : b.command = ('A' :: 'T' :: '-' :: (p.name ++ '=' :: text)).map byteOf ++ ending)
    (hroom : b.commandLength.toNat < b.commandBuffer.length)
    (htests : b.commandLength.toNat < tests) :
    ∃ c' c₁ : Console, k.checkCommand tests b c =
        some (c',p.accepts c.radio.settings (upper text)) ∧
      (p.accepts c.radio.settings (upper text) = true →
        c'.stored p = (c₁.assigned p (upper text)).stored p) := by
  obtain ⟨t,htrim,ht⟩ := trimCommand_line (line_plain htext) hending hbuffer hroom htests
  have hstring : upper t.string = 'A' :: 'T' :: '-' :: (upper p.name ++ '=' :: upper text) := by
    rw [string_line ht (line_plain htext)]
    simp [upper]
  have hlong : (2 : UInt8) ≤ t.commandLength := by
    rw [UInt8.le_iff_toNat_le,ht.1]
    simp
  let c₁ := c.systemPrint (upper t.string ++ newLine)
  have hexecute : k.execute (upper t.string) t.commandLength c₁ =
      if p.accepts c.radio.settings (upper text) then (c₁.assigned p (upper text),true)
      else (c₁,false) := by
    rw [hstring]
    exact execute_parameter hlong
  have hresult : k.checkCommand tests b c =
      some (k.report (k.execute (upper t.string) t.commandLength c₁).2
        (k.execute (upper t.string) t.commandLength c₁).1,
        (k.execute (upper t.string) t.commandLength c₁).2) := by
    unfold CommandCall.checkCommand
    dsimp only
    rw [htrim]
    rfl
  rw [hresult,hexecute]
  cases haccepts : p.accepts c.radio.settings (upper text) with
  | true => exact ⟨_,c₁,rfl,fun _ => report_stored true⟩
  | false => exact ⟨_,c₁,rfl,fun hyes => absurd hyes Bool.false_ne_true⟩

/-- A value has the type of the setting address. -/
def Setting.HasType : Setting → Stored → Prop
  | .bool _,.bool _ | .u8 _,.u8 _ | .cmdVc,.u8 _ | .u16 _,.u16 _ | .u32 _,.u32 _
  | .airSpeed,.u32 _ | .float _,.float _ | .key _,.key _ => True
  | _,_ => False

theorem stored_hasType (c : Console) (p : Parameter) :
    p.entry.setting.HasType (c.stored p) := by
  cases p <;> exact trivial

theorem decimalText_natCast (n : Nat) : decimalText n = Nat.toDigits 10 n := by
  unfold decimalText
  rw [if_neg (by omega),Int.toNat_natCast]

/-- The text of an integer is its digits below 2 ^ 31, and negative from there on. -/
theorem text_number {v : Stored} (hint : p.entry.setting.width ≠ 0)
    (htype : p.entry.setting.HasType v) (digits : Nat) :
    v.text digits = if v.number < 2 ^ 31 then Nat.toDigits 10 v.number
      else '-' :: Nat.toDigits 10 (2 ^ 32 - v.number) := by
  cases v with
  | bool v =>
    rw [if_pos (by cases v <;> decide)]
    exact decimalText_natCast _
  | u8 v =>
    have hlt := v.toNat_lt
    rw [if_pos (by change v.toNat < _; omega)]
    exact decimalText_natCast _
  | u16 v =>
    have hlt := v.toNat_lt
    rw [if_pos (by change v.toNat < _; omega)]
    exact decimalText_natCast _
  | u32 v =>
    have hlt := v.toNat_lt
    change decimalText v.toBitVec.toInt = if v.toNat < 2 ^ 31 then _ else _
    by_cases hsmall : v.toNat < 2 ^ 31
    · have hpos : v.toBitVec.toInt = v.toNat :=
        BitVec.toInt_eq_toNat_of_lt (by change 2 * v.toNat < _; omega)
      rw [if_pos hsmall,hpos]
      exact decimalText_natCast _
    · have hneg : v.toBitVec.toInt = -((2 ^ 32 - v.toNat : Nat) : Int) := by
        rw [BitVec.toInt_eq_toNat_cond,if_neg (by change ¬2 * v.toNat < _; omega)]
        change (v.toNat : Int) - _ = _
        omega
      rw [if_neg hsmall,hneg,decimalText,if_pos (by omega),Int.natAbs_neg,Int.natAbs_natCast]
      rfl
  | float v =>
    cases hset : p.entry.setting <;> simp [hset,Setting.HasType,Setting.width] at htype hint
  | key v =>
    cases hset : p.entry.setting <;> simp [hset,Setting.HasType,Setting.width] at htype hint

theorem isDigit_toDigits {n : Nat} {d : Char} (h : d ∈ Nat.toDigits 10 n) : d.isDigit = true :=
  Nat.isDigit_of_mem_toDigits (by decide) (by decide) h

theorem settingValue_toDigits {n : Nat} (h : n ≤ 0xffffffff) :
    settingValue (Nat.toDigits 10 n) = n := by
  rw [settingValue_digits (List.all_eq_true.mpr fun d hd => isDigit_toDigits hd),digitsToNat_eq,
    decimalValue,Nat.ofDigitChars_ten_toDigits,Nat.min_eq_left h]

theorem converted_number {v : Stored} (hint : p.entry.setting.width ≠ 0)
    (htype : p.entry.setting.HasType v) (h : settingValue text = v.number) :
    p.entry.setting.converted text = v := by
  cases hset : p.entry.setting with
  | bool =>
    rw [hset] at htype
    cases v with
    | bool v => cases v <;> simp [Setting.converted,h,Stored.number]
    | _ => cases htype
  | u8 | cmdVc =>
    rw [hset] at htype
    cases v with
    | u8 v => simp [Setting.converted,h,Stored.number]
    | _ => cases htype
  | u16 =>
    rw [hset] at htype
    cases v with
    | u16 v => simp [Setting.converted,h,Stored.number]
    | _ => cases htype
  | u32 =>
    rw [hset] at htype
    cases v with
    | u32 v => simp [Setting.converted,h,Stored.number]
    | _ => cases htype
  | float | key | airSpeed =>
    rw [hset] at hint
    exact absurd rfl hint

theorem hexDigit_eq {n : Nat} (h : n < 16) : hexValue (n.digitChar.toUpper) = n ∧
    plain n.digitChar.toUpper = true ∧ n.digitChar.toUpper.toUpper = n.digitChar.toUpper := by
  have hall : ∀ n < 16, hexValue (n.digitChar.toUpper) = n ∧
      plain n.digitChar.toUpper = true ∧ n.digitChar.toUpper.toUpper = n.digitChar.toUpper := by
    decide +kernel
  exact hall n h

theorem hexText_eq (v : UInt8) : ∃ high low, hexText v = [high,low] ∧ charHexToDec high low = v ∧
    (hexValue high < 16 ∧ plain high = true ∧ high.toUpper = high) ∧
    hexValue low < 16 ∧ plain low = true ∧ low.toUpper = low := by
  have hlt := v.toNat_lt
  obtain ⟨hhigh,hhigh'⟩ := hexDigit_eq (n := v.toNat / 16) (by omega)
  obtain ⟨hlow,hlow'⟩ := hexDigit_eq (n := v.toNat % 16) (by omega)
  refine ⟨_,_,rfl,?_,⟨by omega,hhigh'⟩,by omega,hlow'⟩
  unfold charHexToDec
  rw [charToHex_eq,charToHex_eq,hhigh,hlow,if_pos (by omega),if_pos (by omega)]
  simp only [Option.getD_some,Nat.div_add_mod,UInt8.ofNat_toNat]

theorem displayEncryptionKey_eq {key : List UInt8} (h : key.length = 16) :
    displayEncryptionKey key = key.flatMap hexText := by
  have hkey : (List.range 16).map (key.getD · 0) = key := by
    refine List.ext_getElem (by simp [h]) fun i hi hlt => ?_
    simp [hlt]
  unfold displayEncryptionKey
  conv => rhs; rw [← hkey]
  rw [List.flatMap_map]

theorem flatMap_hexText (key : List UInt8) (i : Nat) (hi : i < key.length) :
    charHexToDec ((key.flatMap hexText).getD (2 * i) '0')
      ((key.flatMap hexText).getD (2 * i + 1) '0') = key[i] := by
  induction key generalizing i with
  | nil => simp at hi
  | cons v key ih =>
    obtain ⟨high,low,htext,hbyte,-⟩ := hexText_eq v
    rw [List.flatMap_cons,htext]
    cases i with
    | zero => simpa using hbyte
    | succ i => simpa [Nat.mul_succ] using ih i (by simpa using hi)

theorem keyBytes_displayEncryptionKey {key : List UInt8} (h : key.length = 16) :
    keyBytes (displayEncryptionKey key) = key := by
  rw [displayEncryptionKey_eq h]
  unfold keyBytes
  refine List.ext_getElem (by simp [h]) fun i hi hlt => ?_
  rw [List.getElem_map,List.getElem_range]
  exact flatMap_hexText key i hlt

theorem displayEncryptionKey_chars {key : List UInt8} (h : key.length = 16) {d : Char}
    (hd : d ∈ displayEncryptionKey key) : hexValue d < 16 ∧ plain d = true ∧ d.toUpper = d := by
  rw [displayEncryptionKey_eq h] at hd
  obtain ⟨v,-,hv⟩ := List.mem_flatMap.mp hd
  obtain ⟨high,low,htext,-,hhigh,hlow⟩ := hexText_eq v
  rw [htext] at hv
  rcases List.mem_pair.mp hv with rfl | rfl
  · exact hhigh
  · exact hlow

theorem length_displayEncryptionKey (key : List UInt8) :
    (displayEncryptionKey key).length = 32 := by
  simp [displayEncryptionKey,hexText]

/-- What the table allows to the setting of an entry that is no float and not
the air speed. -/
def Parameter.InRange (p : Parameter) (v : Stored) : Prop :=
  match p.entry.validate with
  | .valInt | .valServer => p.entry.minValue ≤ v.number ∧ v.number ≤ p.entry.maxValue
  | .valSpeedSerial => v.number ∈ serialSpeeds
  | .valKey => ∃ key, v = .key key ∧ key.length = 16
  | .valBandwidth | .valFreqMax | .valFreqMin | .valSpeedAir => False

/-- The line, given back to checkCommand, is accepted and leaves the setting
with the same value. -/
def Replayed (k : CommandCall) (tests : Nat) (b : CommandBuffer) (c : Console) (p : Parameter) :
    Prop :=
  ∃ c', k.checkCommand tests b c = some (c',true) ∧ c'.stored p = c.stored p

theorem allows_digit (h : p.entry.setting.width ≠ 0) (d : Char) :
    p.entry.setting.allows d = d.isDigit := by
  cases hset : p.entry.setting with
  | float | key | airSpeed =>
    rw [hset] at h
    exact absurd rfl h
  | _ => rfl

theorem eq_server (h : p.entry.validate = .valServer) : p = .server := by
  cases p <;> first | rfl | cases h

theorem eq_serialSpeed (h : p.entry.validate = .valSpeedSerial) : p = .serialSpeed := by
  cases p <;> first | rfl | cases h

variable {v : Stored}

/-- What is in range and no key is an integer. -/
theorem width_of_inRange (h : p.InRange v) (hkey : p.entry.validate ≠ .valKey) :
    p.entry.setting.width ≠ 0 := by
  unfold Parameter.InRange at h
  cases hvalid : p.entry.validate with
  | valInt => exact (maxValue_le hvalid).2
  | valServer => exact eq_server hvalid ▸ by decide
  | valSpeedSerial => exact eq_serialSpeed hvalid ▸ by decide
  | valKey => exact absurd hvalid hkey
  | valBandwidth | valFreqMax | valFreqMin | valSpeedAir =>
    rw [hvalid] at h
    exact h.elim

theorem validates_of_inRange (h : p.InRange v) (hkey : p.entry.validate ≠ .valKey)
    (htext : settingValue text = v.number) (settings : Settings) :
    p.entry.validates settings text = true := by
  unfold Parameter.InRange at h
  unfold CommandEntry.validates
  cases hvalid : p.entry.validate with
  | valInt | valServer | valSpeedSerial =>
    rw [hvalid] at h
    simpa [htext] using h
  | valKey => exact absurd hvalid hkey
  | valBandwidth | valFreqMax | valFreqMin | valSpeedAir =>
    rw [hvalid] at h
    exact h.elim

theorem digit_char {d : Char} (h : d.isDigit = true) : plain d = true ∧ d.toUpper = d := by
  have hall : ∀ n < 58, 48 ≤ n →
      plain (Char.ofNat n) = true ∧ (Char.ofNat n).toUpper = Char.ofNat n := by
    decide +kernel
  simp only [Char.isDigit,Bool.and_eq_true,decide_eq_true_eq,UInt32.le_iff_toNat_le] at h
  have hchar := hall d.toNat (Nat.lt_succ_of_le h.2) h.1
  rwa [Char.ofNat_toNat] at hchar

theorem digits_plain {n : Nat} {d : Char} (hd : d ∈ Nat.toDigits 10 n) :
    plain d = true ∧ d.toUpper = d :=
  digit_char (isDigit_toDigits hd)

/-- Digits give back the value they are the text of. -/
theorem replayed_digits {tests : Nat} {ending : List UInt8} (h : p.InRange (c.stored p))
    (hkey : p.entry.validate ≠ .valKey) (hsmall : (c.stored p).number < 2 ^ 31)
    (hending : ∀ d ∈ ending, isspace d = true)
    (hbuffer : b.command = (c.parameterLine p).map byteOf ++ ending)
    (hroom : b.commandLength.toNat < b.commandBuffer.length)
    (htests : b.commandLength.toNat < tests) : Replayed k tests b c p := by
  have hair : p ≠ .airSpeed := by
    rintro rfl
    exact h
  have hint := width_of_inRange h hkey
  have htext := text_number hint (stored_hasType c p) p.row.digits
  rw [if_pos hsmall] at htext
  rw [Console.parameterLine,htext] at hbuffer
  obtain ⟨c',c₁,hresult,hstored⟩ := checkCommand_parameter (c := c) (k := k)
    (fun d hd => (digits_plain hd).1) hending hbuffer hroom htests
  rw [upper_of_toUpper fun d hd => (digits_plain hd).2] at hresult hstored
  have hvalue := settingValue_toDigits (n := (c.stored p).number) (by omega)
  have haccepts : p.accepts c.radio.settings (Nat.toDigits 10 (c.stored p).number) = true := by
    rw [Parameter.accepts,validates_of_inRange h hkey hvalue,Bool.and_true,List.all_eq_true]
    exact fun d hd => (allows_digit hint d).trans (isDigit_toDigits hd)
  have hmode : p = .operatingMode →
      settingValue (Nat.toDigits 10 (c.stored p).number) ≤ 2 := by
    rintro rfl
    exact hvalue.trans_le h.2
  refine ⟨c',by rw [hresult,haccepts],?_⟩
  rw [hstored haccepts,stored_assigned hair hmode]
  exact converted_number hint (stored_hasType c p) hvalue

/-- The minus sign is no digit, so the command is an error. -/
theorem not_replayed_minus {tests : Nat} {ending : List UInt8} (h : p.InRange (c.stored p))
    (hkey : p.entry.validate ≠ .valKey) (hlarge : ¬(c.stored p).number < 2 ^ 31)
    (hending : ∀ d ∈ ending, isspace d = true)
    (hbuffer : b.command = (c.parameterLine p).map byteOf ++ ending)
    (hroom : b.commandLength.toNat < b.commandBuffer.length)
    (htests : b.commandLength.toNat < tests) : ¬Replayed k tests b c p := by
  have hint := width_of_inRange h hkey
  have htext := text_number hint (stored_hasType c p) p.row.digits
  rw [if_neg hlarge] at htext
  rw [Console.parameterLine,htext] at hbuffer
  have hplain : ∀ d ∈ '-' :: Nat.toDigits 10 (2 ^ 32 - (c.stored p).number),
      plain d = true := by
    intro d hd
    rcases List.mem_cons.mp hd with rfl | hd
    · rfl
    · exact (digits_plain hd).1
  obtain ⟨c',-,hresult,-⟩ := checkCommand_parameter (c := c) (k := k) hplain hending hbuffer
    hroom htests
  have hrejected : p.accepts c.radio.settings
      (upper ('-' :: Nat.toDigits 10 (2 ^ 32 - (c.stored p).number))) = false := by
    have hminus : p.entry.setting.allows '-' = false := allows_digit hint '-'
    simp [Parameter.accepts,upper,hminus]
  rw [hrejected] at hresult
  rintro ⟨c'',hother,-⟩
  rw [hresult] at hother
  cases hother

theorem replayed_key {tests : Nat} {ending : List UInt8} (h : p.InRange (c.stored p))
    (hkey : p.entry.validate = .valKey) (hending : ∀ d ∈ ending, isspace d = true)
    (hbuffer : b.command = (c.parameterLine p).map byteOf ++ ending)
    (hroom : b.commandLength.toNat < b.commandBuffer.length)
    (htests : b.commandLength.toNat < tests) :
    Replayed k tests b c p ∧ (c.stored p).number < 2 ^ 31 := by
  unfold Parameter.InRange at h
  rw [hkey] at h
  obtain ⟨key,hstored,hlength⟩ := h
  have hchars := fun d (hd : d ∈ displayEncryptionKey key) => displayEncryptionKey_chars hlength hd
  have htext : (c.stored p).text p.row.digits = displayEncryptionKey key := by rw [hstored]; rfl
  unfold Console.parameterLine at hbuffer
  rw [htext] at hbuffer
  obtain ⟨c',c₁,hresult,hset⟩ := checkCommand_parameter (c := c) (k := k)
    (fun d hd => (hchars d hd).2.1) hending hbuffer hroom htests
  rw [upper_of_toUpper fun d hd => (hchars d hd).2.2] at hresult hset
  have haccepts : p.accepts c.radio.settings (displayEncryptionKey key) = true :=
    (accepts_iff_hexadecimal hkey _).mpr
      ⟨length_displayEncryptionKey key,fun d hd => (hchars d hd).1⟩
  refine ⟨⟨c',by rw [hresult,haccepts],?_⟩,?_⟩
  · rw [hset haccepts,key_assigned hkey,keyBytes_displayEncryptionKey hlength,hstored]
  · rw [hstored]
    exact Nat.two_pow_pos 31

/-- The listing has the line of every entry that is asked for, and the line can
be replayed exactly if the value is below 2 ^ 31. -/
theorem listing_replayed_iff {tests : Nat} {ending : List UInt8} (h : p.InRange (c.stored p))
    (hending : ∀ d ∈ ending, isspace d = true)
    (hbuffer : b.command = (c.parameterLine p).map byteOf ++ ending)
    (hroom : b.commandLength.toNat < b.commandBuffer.length)
    (htests : b.commandLength.toNat < tests) :
    (∀ letter displayAll printToRf, p.listed letter displayAll = true →
      (c.radio.inCommandMode && printToRf) = false →
        ∃ before after, (c.displayParameters letter displayAll printToRf).printed =
          c.printed ++ before ++ (c.parameterLine p ++ newLine).map byteOf ++ after) ∧
      (Replayed k tests b c p ↔ (c.stored p).number < 2 ^ 31) := by
  refine ⟨fun _ _ _ => displayParameters_line,?_⟩
  by_cases hkey : p.entry.validate = .valKey
  · obtain ⟨hreplayed,hsmall⟩ := replayed_key h hkey hending hbuffer hroom htests
    exact iff_of_true hreplayed hsmall
  · by_cases hsmall : (c.stored p).number < 2 ^ 31
    · exact iff_of_true (replayed_digits h hkey hsmall hending hbuffer hroom htests) hsmall
    · exact iff_of_false (not_replayed_minus h hkey hsmall hending hbuffer hroom htests) hsmall

/-- A command from the serial port. No routine but those of the table is called. -/
def serialCall : CommandCall := ⟨false,0,fun _ _ c => (c,false),fun _ _ c => (c,false)⟩

/-- The printed line in the command buffer. -/
def lineBuffer (c : Console) (p : Parameter) : CommandBuffer where
  commandBuffer := (c.parameterLine p ++ newLine).map byteOf ++ [0]
  commandLength := UInt8.ofNat (c.parameterLine p ++ newLine).length

theorem listing_replayed_iff_netID :
    Replayed serialCall 20 (lineBuffer freshConsole .netID) freshConsole .netID ↔
      (freshConsole.stored .netID).number < 2 ^ 31 := by
  have hrange : Parameter.InRange .netID (freshConsole.stored .netID) :=
    And.intro (by decide +kernel) (by decide +kernel)
  have hbuffer : (lineBuffer freshConsole .netID).command =
      (freshConsole.parameterLine .netID).map byteOf ++ newLine.map byteOf := by
    decide +kernel
  exact (listing_replayed_iff hrange (by decide +kernel) hbuffer (by decide +kernel)
    (by decide +kernel)).2

/-- A radio whose highest trigger is enabled. -/
def triggerConsole : Console :=
  { freshConsole with radio.tempSettings.triggers.triggerEnable := 0x80000000 }

/-- Its line is AT-TriggerEnable_31-0=-2147483648. -/
theorem trigger_enable_not_replayed :
    Parameter.InRange .triggerEnable_31_0 (triggerConsole.stored .triggerEnable_31_0) ∧
      ¬Replayed serialCall 50 (lineBuffer triggerConsole .triggerEnable_31_0) triggerConsole
        .triggerEnable_31_0 := by
  refine ⟨And.intro (by decide +kernel) (by decide +kernel),?_⟩
  rintro ⟨c',hreplayed,-⟩
  have hrejected : (serialCall.checkCommand 50 (lineBuffer triggerConsole .triggerEnable_31_0)
      triggerConsole).map Prod.snd = some false := by
    decide +kernel
  rw [hreplayed] at hrejected
  cases hrejected

end LoRaSerial.Config
