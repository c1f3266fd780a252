import LoRaSerial.Config.Console
import LoRaSerial.Config.Remote
import LoRaSerial.Config.Values

namespace LoRaSerial.Config

variable {c : Console} {p : Parameter} {name text : List Char}

theorem mem_commands (p : Parameter) : p ∈ commands := by
  cases p <;> simp [commands]

def upper (s : List Char) : List Char := s.map Char.toUpper

theorem nodup_names : (commands.map fun p => upper p.name).Nodup := by
  decide +kernel

/-- The names differ also without regard to case. -/
theorem eq_of_upper_name {p q : Parameter} (h : upper p.name = upper q.name) : p = q :=
  List.inj_on_of_nodup_map nodup_names (mem_commands p) (mem_commands q) h

theorem name_plain (p : Parameter) :
    p.name ≠ [] ∧ ∀ d ∈ upper p.name, d ≠ '\x00' ∧ d ≠ '=' ∧ d ≠ '?' := by
  have hall : ∀ p ∈ commands, p.name ≠ [] ∧
      ((upper p.name).all fun d => d ≠ '\x00' ∧ d ≠ '=' ∧ d ≠ '?') = true := by
    decide +kernel
  obtain ⟨hne,hchars⟩ := hall p (mem_commands p)
  refine ⟨hne,fun d hd => ?_⟩
  simpa using List.all_eq_true.mp hchars d hd

/-- The largest value behind a setting address. -/
def Setting.width : Setting → Nat
  | .bool _ => 1
  | .u8 _ | .cmdVc => 0xff
  | .u16 _ => 0xffff
  | .u32 _ => 0xffffffff
  | .float _ | .key _ | .airSpeed => 0

theorem maxValue_le (h : p.entry.validate = .valInt) :
    p.entry.maxValue ≤ p.entry.setting.width ∧ p.entry.setting.width ≠ 0 := by
  cases p <;> first | exact ⟨by decide,by decide⟩ | cases h

theorem allows_eq_isDigit (h : p.entry.validate = .valInt) (d : Char) :
    p.entry.setting.allows d = d.isDigit := by
  cases p <;> first | rfl | cases h

theorem toNat_sub_eq_zero_iff (c d : Char) : (c.toNat : Int) - d.toNat = 0 ↔ c = d := by
  rw [sub_eq_zero,Int.natCast_inj,Char.toNat_inj]

theorem strnicmp_eq_zero_iff {n : Nat} {str1 str2 : List Char} (rest : List Char)
    (h1 : str1.length = n + 1) (h2 : str2.length = n + 1) (hz : ∀ d ∈ upper str2, d ≠ '\x00') :
    strnicmp (n + 1) (str1 ++ rest) str2 = 0 ↔ upper str1 = upper str2 := by
  induction n generalizing str1 str2 with
  | zero =>
    obtain ⟨a,rfl⟩ := List.length_eq_one_iff.mp h1
    obtain ⟨b,rfl⟩ := List.length_eq_one_iff.mp h2
    have hlast : strnicmp 1 ([a] ++ rest) [b] = (a.toUpper.toNat : Int) - b.toUpper.toNat :=
      if_neg fun h => h.2.2 rfl
    rw [hlast,toNat_sub_eq_zero_iff]
    simp [upper]
  | succ n ih =>
    obtain ⟨a,str1,rfl⟩ := List.exists_cons_of_length_eq_add_one h1
    obtain ⟨b,str2,rfl⟩ := List.exists_cons_of_length_eq_add_one h2
    simp only [List.length_cons,Nat.add_right_cancel_iff] at h1 h2
    simp only [upper,List.map_cons,List.mem_cons,forall_eq_or_imp] at hz
    by_cases hab : a.toUpper = b.toUpper
    · have hnext : strnicmp (n + 1 + 1) (a :: str1 ++ rest) (b :: str2) =
          strnicmp (n + 1) (str1 ++ rest) str2 := if_pos ⟨hab ▸ hz.1,hab,n.succ_ne_zero⟩
      rw [hnext,ih h1 h2 hz.2]
      simp [upper,hab]
    · have hdiffers : strnicmp (n + 1 + 1) (a :: str1 ++ rest) (b :: str2) =
          (a.toUpper.toNat : Int) - b.toUpper.toNat := if_neg fun h => hab h.2.1
      rw [hdiffers,toNat_sub_eq_zero_iff]
      simp [upper,hab]

theorem inName_of_upper (h : upper name = upper p.name) (d : Char) (hd : d ∈ name) :
    inName d = true := by
  have hmem : d.toUpper ∈ upper p.name := h ▸ List.mem_map_of_mem hd
  obtain ⟨-,heq,hquestion⟩ := (name_plain p).2 _ hmem
  have hd1 : d ≠ '=' := by
    rintro rfl
    exact heq rfl
  have hd2 : d ≠ '?' := by
    rintro rfl
    exact hquestion rfl
  simp [inName,hd1,hd2]

theorem findCommand_eq (h : upper name = upper p.name) (rest : List Char) :
    findCommand (name ++ rest) name.length = some p := by
  have hlength : ∀ q : Parameter, upper name = upper q.name → q.name.length = name.length := by
    intro q hq
    simpa [upper] using (congrArg List.length hq).symm
  have hsame : ∀ q : Parameter, q.name.length = name.length →
      (strnicmp q.name.length (name ++ rest) q.name = 0 ↔ upper name = upper q.name) := by
    intro q hq
    have hpos := List.length_pos_iff.mpr (name_plain q).1
    obtain ⟨n,hn⟩ : ∃ n, q.name.length = n + 1 := ⟨q.name.length - 1,by omega⟩
    rw [hn]
    exact strnicmp_eq_zero_iff rest (hq ▸ hn) hn fun d hd => ((name_plain q).2 d hd).1
  unfold findCommand
  cases hfind : commands.find? fun q =>
      q.name.length == name.length && strnicmp q.name.length (name ++ rest) q.name == 0 with
  | none =>
    have hnone := List.find?_eq_none.mp hfind p (mem_commands p)
    have hfound := (hsame p (hlength p h)).mpr h
    simp [hlength p h] at hnone hfound
    exact absurd hfound hnone
  | some q =>
    have hq := List.find?_some hfind
    simp only [Bool.and_eq_true,beq_iff_eq] at hq
    have hupper := (hsame q hq.1).mp hq.2
    rw [eq_of_upper_name (hupper.symm.trans h)]

/-- Set what is behind a setting address to a value of its type. -/
def Setting.put : Setting → Stored → Settings → Settings
  | .bool set,.bool v => set v
  | .u8 set,.u8 v => set v
  | .u16 set,.u16 v => set v
  | .u32 set,.u32 v => set v
  | .float set,.float v => set v
  | .key set,.key v => set v
  | _,_ => id

/-- The value of a text, converted to the type of the entry. -/
def Setting.converted (text : List Char) : Setting → Stored
  | .bool _ => .bool (settingValue text != 0)
  | .u8 _ | .cmdVc => .u8 (UInt8.ofNat (settingValue text))
  | .u16 _ => .u16 (UInt16.ofNat (settingValue text))
  | .u32 _ | .airSpeed => .u32 (UInt32.ofNat (settingValue text))
  | .float _ => .float (toFloat (strtod text))
  | .key _ => .key (keyBytes text)

/-- What is set is read again, and the old value put back restores the settings. -/
def Lens {α : Type} (stored : Settings → Stored) (wrap : α → Stored)
    (set : α → Settings → Settings) : Prop :=
  ∀ s v, stored (set v s) = wrap v ∧ ∃ old, stored s = wrap old ∧ set old (set v s) = s

/-- The setting address of an entry has that law, if it is in tempSettings. -/
def Parameter.Addresses (p : Parameter) (stored : Settings → Stored) : Prop :=
  match p.entry.setting with
  | .bool set => Lens stored .bool set
  | .u8 set => Lens stored .u8 set
  | .u16 set => Lens stored .u16 set
  | .u32 set => Lens stored .u32 set
  | .float set => Lens stored .float set
  | .key set => Lens stored .key set
  | .airSpeed => p = .airSpeed
  | .cmdVc => p = .cmdVC

theorem addresses (hmode : p ≠ .operatingMode) (airSpeed : UInt32) (cmdVc : UInt8) :
    p.Addresses fun s => p.stored s airSpeed cmdVc := by
  cases p
  case operatingMode => exact absurd rfl hmode
  case airSpeed => exact rfl
  case cmdVC => exact rfl
  all_goals exact fun _ _ => ⟨rfl,_,rfl,rfl⟩

theorem operatingModeCode_of {v : Nat} (h : v ≤ 2) :
    operatingModeCode (operatingModeOf (UInt8.ofNat v)) = UInt8.ofNat v := by
  obtain rfl | rfl | rfl : v = 0 ∨ v = 1 ∨ v = 2 := by omega
  all_goals rfl

variable {s : Settings} {airSpeed : UInt32} {cmdVc : UInt8}

theorem stored_assign (hair : p ≠ .airSpeed) (hmode : p = .operatingMode → settingValue text ≤ 2)
    (hcmdVc : p = .cmdVC → cmdVc = UInt8.ofNat (settingValue text)) :
    p.stored (p.assign text s) airSpeed cmdVc = p.entry.setting.converted text := by
  by_cases hp : p = .operatingMode
  · subst hp
    exact congrArg Stored.u8 (operatingModeCode_of (hmode rfl))
  · have hlens := addresses hp airSpeed cmdVc
    unfold Parameter.Addresses at hlens
    unfold Parameter.assign
    cases hset : p.entry.setting with
    | bool | u8 | u16 | u32 | float | key =>
      rw [hset] at hlens
      exact (hlens s _).1
    | airSpeed =>
      rw [hset] at hlens
      exact absurd hlens hair
    | cmdVc =>
      rw [hset] at hlens
      cases hlens
      exact congrArg Stored.u8 (hcmdVc rfl)

theorem put_assign (hair : p ≠ .airSpeed) :
    p.entry.setting.put (p.stored s airSpeed cmdVc) (p.assign text s) = s := by
  by_cases hp : p = .operatingMode
  · subst hp
    have hsame : operatingModeOf (operatingModeCode s.operatingMode) = s.operatingMode := by
      cases s.operatingMode <;> rfl
    change { s with operatingMode := operatingModeOf (operatingModeCode s.operatingMode) } = s
    rw [hsame]
  · have hlens := addresses hp airSpeed cmdVc
    unfold Parameter.Addresses at hlens
    unfold Parameter.assign
    cases hset : p.entry.setting with
    | bool | u8 | u16 | u32 | float | key =>
      rw [hset] at hlens
      obtain ⟨old,hold,hback⟩ := (hlens s _).2
      exact (congrArg (Setting.put _ · _) hold).trans hback
    | airSpeed =>
      rw [hset] at hlens
      exact absurd hlens hair
    | cmdVc => rfl

theorem number_converted (h : settingValue text ≤ p.entry.setting.width)
    (hne : p.entry.setting.width ≠ 0) :
    (p.entry.setting.converted text).number = settingValue text := by
  cases hset : p.entry.setting with
  | bool =>
    rw [hset,Setting.width] at h
    obtain hzero | hone : settingValue text = 0 ∨ settingValue text = 1 := by omega
    · simp [Setting.converted,Stored.number,hzero]
    · simp [Setting.converted,Stored.number,hone]
  | u8 | cmdVc =>
    rw [hset,Setting.width] at h
    exact UInt8.toNat_ofNat_of_lt' (Nat.lt_succ_of_le h)
  | u16 =>
    rw [hset,Setting.width] at h
    exact UInt16.toNat_ofNat_of_lt' (Nat.lt_succ_of_le h)
  | u32 =>
    rw [hset,Setting.width] at h
    exact UInt32.toNat_ofNat_of_lt' (Nat.lt_succ_of_le h)
  | float | key | airSpeed =>
    rw [hset] at hne
    exact absurd rfl hne

def hexDigits : List Char := "0123456789ABCDEF".toList

/-- The value of a hexadecimal digit, and 16 for any other character. -/
def hexValue (c : Char) : Nat := hexDigits.idxOf c.toUpper

theorem charToHex_eq (c : Char) :
    charToHex c = if hexValue c < 16 then some (hexValue c) else none := by
  by_cases hascii : c.toNat < 128
  · have hall : ∀ n < 128, charToHex (Char.ofNat n) =
        if hexValue (Char.ofNat n) < 16 then some (hexValue (Char.ofNat n)) else none := by
      decide +kernel
    simpa using hall c.toNat hascii
  · have hlarge : 128 ≤ c.toNat := Nat.le_of_not_lt hascii
    have hupper : c.toUpper = c := by
      unfold Char.toUpper
      split
      next hlower =>
        have hsmall := UInt32.le_iff_toNat_le.mp hlower.2
        simp at hsmall
        omega
      next => rfl
    have hnone : charToHex c = none := by
      unfold charToHex Char.isDigit
      simp only [Char.le_def,UInt32.le_iff_toNat_le]
      simp
      rw [if_neg (by omega),if_neg (by omega),if_neg (by omega)]
    have hother : hexValue c = 16 := by
      unfold hexValue
      rw [hupper,List.idxOf_eq_length (l := hexDigits)]
      · rfl
      · intro hmem
        have hdigits : (hexDigits.all fun d => d.toNat < 128) = true := by decide
        have hsmall : c.toNat < 128 := by simpa using List.all_eq_true.mp hdigits c hmem
        omega
    rw [hnone,hother]
    rfl

theorem isSome_charToHex (c : Char) : (charToHex c).isSome = true ↔ hexValue c < 16 := by
  rw [charToHex_eq]
  split <;> simp [*]

/-- The value of a string of decimal digits. -/
def decimalValue (text : List Char) : Nat := Nat.ofDigitChars 10 text 0

/-- Decimal digits with a value between the bounds of the entry. -/
def Parameter.Decimal (p : Parameter) (text : List Char) : Prop :=
  text ≠ [] ∧ (∀ d ∈ text, d.isDigit = true) ∧ p.entry.minValue ≤ decimalValue text ∧
    decimalValue text ≤ p.entry.maxValue

/-- 32 hexadecimal digits. -/
def Hexadecimal (text : List Char) : Prop := text.length = 32 ∧ ∀ d ∈ text, hexValue d < 16

/-- The bytes that they denote. -/
def hexBytes (text : List Char) : List Nat :=
  (List.range 16).map fun i =>
    16 * hexValue (text.getD (2 * i) '0') + hexValue (text.getD (2 * i + 1) '0')

/-- Nothing but one setting has changed in tempSettings: they are the old ones
with its old value put back. -/
def Console.OnlySets (c : Console) (p : Parameter) (c' : Console) : Prop :=
  p.entry.setting.put (c.stored p) c'.radio.tempSettings = c.radio.tempSettings

/-- What the command with this text for an entry has to do. -/
structure ParameterCommand (c : Console) (p : Parameter) (text : List Char)
    (result : Console × Bool) : Prop where
  integer : p.entry.validate = .valInt →
    (result.2 = true ↔ p.Decimal text) ∧
      (result.2 = true → (result.1.stored p).number = decimalValue text ∧ c.OnlySets p result.1)
  key : p.entry.validate = .valKey →
    (result.2 = true ↔ Hexadecimal text) ∧
      (result.2 = true → ∃ key, result.1.stored p = .key key ∧
        key.map UInt8.toNat = hexBytes text ∧ c.OnlySets p result.1)

/-- A command does what it has to for the entry it names, and changes nothing
when it is rejected. -/
def Exact (c : Console) (commandString : List Char) : Prop :=
  (∀ (p : Parameter) (name text : List Char),
    commandString.drop 3 = name ++ '=' :: text → upper name = upper p.name →
      ParameterCommand c p text (c.commandSetByName commandString)) ∧
  ((c.commandSetByName commandString).2 = false → (c.commandSetByName commandString).1 = c)

/-- The value is neither missing, where zero is a valid one, nor too large for
32 bits, where every value of 32 bits is. -/
def Parameter.Explicit (p : Parameter) (text : List Char) : Prop :=
  p.entry.validate = .valInt →
    (text = [] → p.entry.minValue ≠ 0) ∧
      ((∀ d ∈ text, d.isDigit = true) → p.entry.maxValue = 0xffffffff →
        decimalValue text ≤ 0xffffffff)

theorem digitsToNat_eq (text : List Char) : digitsToNat text = decimalValue text := by
  rw [decimalValue,Nat.ofDigitChars_eq_foldl]
  rfl

theorem minValue_le (h : p.entry.validate = .valInt) : p.entry.minValue ≤ p.entry.maxValue := by
  cases p <;> first | decide | cases h

theorem width_le (setting : Setting) : setting.width ≤ 0xffffffff := by
  cases setting <;> simp [Setting.width]

theorem accepts_iff (h : p.entry.validate = .valInt) (settings : Settings) :
    p.accepts settings text = true ↔ (∀ d ∈ text, d.isDigit = true) ∧
      p.entry.minValue ≤ min (decimalValue text) 0xffffffff ∧
      min (decimalValue text) 0xffffffff ≤ p.entry.maxValue := by
  have hallows : text.all (p.entry.setting.allows ·) = text.all Char.isDigit :=
    congrArg text.all (funext (allows_eq_isDigit h))
  rw [Parameter.accepts,hallows,CommandEntry.validates,h]
  cases hdigits : text.all Char.isDigit with
  | false => simpa using fun hall => absurd (List.all_eq_true.mpr hall) (by simp [hdigits])
  | true =>
    rw [settingValue_digits hdigits,digitsToNat_eq]
    simp [iff_true_intro (List.all_eq_true.mp hdigits)]

/-- The code accepts the right values exactly where there is an explicit one. -/
theorem accepts_iff_decimal_iff (h : p.entry.validate = .valInt) (settings : Settings) :
    (p.accepts settings text = true ↔ p.Decimal text) ↔ p.Explicit text := by
  have hmax := (maxValue_le h).1.trans (width_le _)
  have hmin := minValue_le h
  rw [accepts_iff h,Parameter.Decimal,Parameter.Explicit,imp_iff_right h]
  by_cases hdigits : ∀ d ∈ text, d.isDigit = true
  · by_cases hempty : text = []
    · subst hempty
      have hzero : decimalValue [] = 0 := rfl
      simp [hzero]
    · simp only [ne_eq,hempty,iff_true_intro hdigits,not_false_eq_true,true_and,false_imp_iff,
        true_imp_iff]
      omega
  · have hne : text ≠ [] := by
      rintro rfl
      exact hdigits (by simp)
    simp [hdigits,hne]

theorem accepts_iff_hexadecimal (h : p.entry.validate = .valKey) (settings : Settings) :
    p.accepts settings text = true ↔ Hexadecimal text := by
  have hallows : ∀ d, p.entry.setting.allows d = (charToHex d).isSome := by
    intro d
    cases p <;> first | rfl | cases h
  rw [Parameter.accepts,CommandEntry.validates,h]
  simp [hallows,Hexadecimal,isSome_charToHex]

theorem keyBytes_hexBytes (h : Hexadecimal text) :
    (keyBytes text).map UInt8.toNat = hexBytes text := by
  have hdigit : ∀ i < 32, hexValue (text.getD i '0') < 16 := by
    intro i hi
    have hlt : i < text.length := h.1 ▸ hi
    rw [List.getD_eq_getElem?_getD,List.getElem?_eq_getElem hlt]
    exact h.2 _ (List.getElem_mem hlt)
  unfold keyBytes hexBytes
  rw [List.map_map]
  refine List.map_congr_left fun i hi => ?_
  have hlt := List.mem_range.mp hi
  have h1 := hdigit (2 * i) (by omega)
  have h2 := hdigit (2 * i + 1) (by omega)
  unfold charHexToDec
  rw [Function.comp_apply,charToHex_eq,if_pos h1,charToHex_eq,if_pos h2]
  have hbyte : 16 * hexValue (text.getD (2 * i) '0') + hexValue (text.getD (2 * i + 1) '0') <
      256 := by omega
  exact UInt8.toNat_ofNat_of_lt' hbyte

/-- What an accepted command leaves. -/
def Console.assigned (c : Console) (p : Parameter) (text : List Char) : Console :=
  { (c.validated p text).setGlobal p text with
    radio := c.radio.edit p text }

theorem commandSetOrDisplayValue_eq (c : Console) (p : Parameter) (text : List Char) :
    c.commandSetOrDisplayValue p ('=' :: text) =
      if p.accepts c.radio.settings text then (c.assigned p text,true) else (c,false) := by
  have hkept : ((c.validated p text).setGlobal p text).radio = c.radio := by
    unfold Console.setGlobal Console.validated
    split <;> split <;> rfl
  rw [Console.commandSetOrDisplayValue,if_neg (by simp)]
  cases haccepts : p.accepts c.radio.settings text with
  | false => simp
  | true =>
    simp only [if_true,hkept,commandSetByName,haccepts]
    rfl

theorem commandSetOrDisplayValue_rejected {buffer : List Char}
    (h : (c.commandSetOrDisplayValue p buffer).2 = false) :
    (c.commandSetOrDisplayValue p buffer).1 = c := by
  unfold Console.commandSetOrDisplayValue at h ⊢
  split at h
  next => cases h
  next hdisplay =>
    rw [if_neg hdisplay]
    split at h
    next =>
      split at h
      next => cases h
      next hrejected => rw [if_neg hrejected]
    next => rfl

theorem commandSetByName_eq {commandString : List Char}
    (hdrop : commandString.drop 3 = name ++ '=' :: text) (hname : upper name = upper p.name) :
    c.commandSetByName commandString = c.commandSetOrDisplayValue p ('=' :: text) := by
  have htake : (commandString.drop 3).takeWhile inName = name := by
    rw [hdrop,List.takeWhile_append_of_pos (inName_of_upper hname)]
    simp [inName]
  have hrest : (commandString.drop 3).dropWhile inName = '=' :: text := by
    rw [hdrop,List.dropWhile_append_of_pos (inName_of_upper hname)]
    simp [inName]
  unfold Console.commandSetByName
  simp only [htake,hrest]
  rw [hdrop,findCommand_eq hname]

theorem commandSetByName_rejected {commandString : List Char}
    (h : (c.commandSetByName commandString).2 = false) :
    (c.commandSetByName commandString).1 = c := by
  unfold Console.commandSetByName at h ⊢
  dsimp only at h ⊢
  cases hfind : findCommand (commandString.drop 3)
      ((commandString.drop 3).takeWhile inName).length with
  | none => rfl
  | some p =>
    rw [hfind] at h
    exact commandSetOrDisplayValue_rejected h

theorem ne_airSpeed (h : p.entry.validate ≠ .valSpeedAir) : p ≠ .airSpeed := by
  rintro rfl
  exact h rfl

theorem onlySets_assigned (hair : p ≠ .airSpeed) : c.OnlySets p (c.assigned p text) :=
  put_assign hair

theorem stored_assigned (hair : p ≠ .airSpeed)
    (hmode : p = .operatingMode → settingValue text ≤ 2) :
    (c.assigned p text).stored p = p.entry.setting.converted text := by
  refine stored_assign hair hmode ?_
  rintro rfl
  rfl

/-- The setting of an accepted value holds that value. -/
theorem number_assigned (h : p.entry.validate = .valInt) (hdecimal : p.Decimal text) :
    ((c.assigned p text).stored p).number = decimalValue text := by
  have hair : p ≠ .airSpeed := ne_airSpeed (by simp [h])
  obtain ⟨-,hdigits,-,hmax⟩ := hdecimal
  obtain ⟨hwidth,hne⟩ := maxValue_le h
  have hvalue : settingValue text = decimalValue text := by
    have hsmall := width_le p.entry.setting
    rw [settingValue_digits (List.all_eq_true.mpr hdigits),digitsToNat_eq]
    omega
  rw [stored_assigned hair ?_,number_converted (by omega) hne,hvalue]
  rintro rfl
  exact hvalue ▸ hmax

theorem key_assigned (h : p.entry.validate = .valKey) :
    (c.assigned p text).stored p = .key (keyBytes text) := by
  have hmode : p ≠ .operatingMode := by
    rintro rfl
    cases h
  have hconverted : p.entry.setting.converted text = .key (keyBytes text) := by
    cases p <;> first | rfl | cases h
  rw [stored_assigned (ne_airSpeed (by simp [h])) (absurd · hmode),hconverted]

theorem parameterCommand_iff (c : Console) (p : Parameter) (text : List Char) :
    ParameterCommand c p text (c.commandSetOrDisplayValue p ('=' :: text)) ↔ p.Explicit text := by
  rw [commandSetOrDisplayValue_eq]
  constructor
  · intro h hvalid
    have hinteger := (h.integer hvalid).1
    refine (accepts_iff_decimal_iff hvalid c.radio.settings).mp ?_ hvalid
    rw [← hinteger]
    split <;> simp [*]
  · intro hexplicit
    refine ⟨fun hvalid => ?_,fun hvalid => ?_⟩
    · have haccepts := (accepts_iff_decimal_iff hvalid c.radio.settings).mpr hexplicit
      by_cases hyes : p.accepts c.radio.settings text = true
      · rw [if_pos hyes]
        have hdecimal := haccepts.mp hyes
        exact ⟨iff_of_true rfl hdecimal,fun _ =>
          ⟨number_assigned hvalid hdecimal,onlySets_assigned (ne_airSpeed (by simp [hvalid]))⟩⟩
      · rw [if_neg hyes]
        exact ⟨iff_of_false Bool.false_ne_true (hyes ∘ haccepts.mpr),nofun⟩
    · have haccepts : p.accepts c.radio.settings text = true ↔ Hexadecimal text :=
        accepts_iff_hexadecimal hvalid c.radio.settings
      by_cases hyes : p.accepts c.radio.settings text = true
      · rw [if_pos hyes]
        have hhex := haccepts.mp hyes
        exact ⟨iff_of_true rfl hhex,fun _ => ⟨keyBytes text,
          key_assigned hvalid,keyBytes_hexBytes hhex,
          onlySets_assigned (ne_airSpeed (by simp [hvalid]))⟩⟩
      · rw [if_neg hyes]
        exact ⟨iff_of_false Bool.false_ne_true (hyes ∘ haccepts.mpr),nofun⟩

/-- The commands that do exactly what they have to are those with an explicit value. -/
theorem parameter_commands_exact_iff (c : Console) (commandString : List Char) :
    Exact c commandString ↔ ∀ (p : Parameter) (name text : List Char),
      commandString.drop 3 = name ++ '=' :: text → upper name = upper p.name →
        p.Explicit text := by
  constructor
  · intro h p name text hdrop hname
    have hcommand := h.1 p name text hdrop hname
    rw [commandSetByName_eq hdrop hname] at hcommand
    exact (parameterCommand_iff c p text).mp hcommand
  · intro h
    refine ⟨fun p name text hdrop hname => ?_,commandSetByName_rejected⟩
    rw [commandSetByName_eq hdrop hname]
    exact (parameterCommand_iff c p text).mpr (h p name text hdrop hname)

/-- A radio after power up, and its console. -/
def freshConsole : Console where
  radio := boot 915 [] defaultSettings
  airSpeed := 0
  cmdVc := 0
  myUniqueId := List.Vector.replicate 16 0
  uniqueIds := ⟨fun _ => UniqueIds.erased,fun _ => ⟨List.Vector.replicate 16 0,false⟩⟩
  printed := []

/-- AT-Debug= is accepted, and sets zero. -/
theorem missing_value_accepted : ¬Exact freshConsole "AT-Debug=".toList := by
  intro h
  have hcommand := h.1 .debug "Debug".toList [] rfl rfl
  have haccepted : (freshConsole.commandSetByName "AT-Debug=".toList).2 = true := by
    decide +kernel
  exact ((hcommand.integer rfl).1.mp haccepted).1 rfl

end LoRaSerial.Config
