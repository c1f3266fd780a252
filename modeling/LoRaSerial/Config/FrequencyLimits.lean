import LoRaSerial.Config.Remote
import LoRaSerial.Config.Values

namespace LoRaSerial.Config
open Rounding

/-- The two parameters of the frequency range. -/
inductive Limit where
  | frequencyMin | frequencyMax
  deriving DecidableEq

def Limit.parameter : Limit → Parameter
  | .frequencyMin => .frequencyMin
  | .frequencyMax => .frequencyMax

/-- The order of the limits of a radio for 915 MHz. -/
structure LimitsOrdered (s : Settings) : Prop where
  lower : 900 ≤ s.frequencyMin
  order : s.frequencyMin ≤ s.frequencyMax
  upper : s.frequencyMax ≤ 931

abbrev LimitCommand := Limit × List Char

/-- A session of command mode that sets limits, and ATO. -/
def limitEvents (cs : List LimitCommand) (i : TrainingInputs) : List Event :=
  cs.map fun c => .localCommand (.setParameter c.1.parameter c.2) i

def limitSession (cs : List LimitCommand) (i : TrainingInputs) : List Event :=
  .escape :: limitEvents cs i ++ [.localCommand .exitCommandMode i]

/-- The value of the last command that sets this limit, if there is one. The
active settings validate it. -/
def lastAccepted (settings : Settings) (limit : Limit) (cs : List LimitCommand) : Option Rat :=
  ((cs.filter fun c => c.1 = limit && c.1.parameter.accepts settings c.2).getLast?).map
    fun c => toFloat (strtod c.2)

variable {r r' : Radio} {s : Settings} {cs : List LimitCommand} {limit : Limit} {text : List Char}
  {value : Rat}

theorem frequencyMin_bounds (hmax : Fits 24 s.frequencyMax)
    (haccepts : Parameter.accepts .frequencyMin s text = true) :
    900 ≤ toFloat (strtod text) ∧ toFloat (strtod text) ≤ s.frequencyMax := by
  have hvalid : 900 ≤ strtod text ∧ strtod text ≤ s.frequencyMax := by
    obtain ⟨hlow,hhigh⟩ := Bool.and_eq_true_iff.mp (Bool.and_eq_true_iff.mp haccepts).2
    exact ⟨by exact_mod_cast of_decide_eq_true hlow,by exact_mod_cast of_decide_eq_true hhigh⟩
  have hpos : 0 < strtod text := lt_of_lt_of_le (by norm_num) hvalid.1
  have hfits : Fits 24 ((900 : Nat) : Rat) := fits_natCast (by norm_num)
  exact ⟨le_roundTo (by norm_num) hfits hpos hvalid.1,roundTo_le hmax hpos hvalid.2⟩

theorem frequencyMax_bounds (h : LimitsOrdered s) (hmin : Fits 24 s.frequencyMin)
    (haccepts : Parameter.accepts .frequencyMax s text = true) :
    s.frequencyMin ≤ toFloat (strtod text) ∧ toFloat (strtod text) ≤ 931 := by
  have hvalid : s.frequencyMin ≤ strtod text ∧ strtod text ≤ 931 := by
    obtain ⟨hlow,hhigh⟩ := Bool.and_eq_true_iff.mp (Bool.and_eq_true_iff.mp haccepts).2
    exact ⟨by exact_mod_cast of_decide_eq_true hlow,by exact_mod_cast of_decide_eq_true hhigh⟩
  have hpos : 0 < strtod text :=
    lt_of_lt_of_le (by norm_num) (h.lower.trans hvalid.1)
  have hfits : Fits 24 ((931 : Nat) : Rat) := fits_natCast (by norm_num)
  exact ⟨le_roundTo (by norm_num) hmin hpos hvalid.1,roundTo_le hfits hpos hvalid.2⟩

theorem lastAccepted_eq_some (h : lastAccepted s limit cs = some value) :
    ∃ text, limit.parameter.accepts s text = true ∧ value = toFloat (strtod text) := by
  obtain ⟨c,hlast,rfl⟩ := Option.map_eq_some_iff.mp h
  obtain ⟨-,hc⟩ := List.mem_filter.mp (List.mem_of_getLast? hlast)
  simp only [Bool.and_eq_true,decide_eq_true_eq] at hc
  exact ⟨c.2,hc.1 ▸ hc.2,rfl⟩

theorem lastAccepted_append (s : Settings) (limit : Limit) (cs : List LimitCommand)
    (c : LimitCommand) :
    lastAccepted s limit (cs ++ [c]) =
      if c.1 = limit ∧ c.1.parameter.accepts s c.2 = true then some (toFloat (strtod c.2))
      else lastAccepted s limit cs := by
  unfold lastAccepted
  rw [List.filter_append]
  split
  next h =>
    have hkept : [c].filter (fun c => c.1 = limit && c.1.parameter.accepts s c.2) = [c] := by
      simpa [List.filter_cons] using h
    rw [hkept,List.getLast?_concat,Option.map_some]
  next h =>
    have hnone : [c].filter (fun c => c.1 = limit && c.1.parameter.accepts s c.2) = [] := by
      simpa [List.filter_cons] using h
    rw [hnone,List.append_nil]

/-- The session so far: only tempSettings have changed. -/
structure InSession (r r' : Radio) (cs : List LimitCommand) : Prop where
  band : r'.radioBand = r.radioBand
  mode : r'.serialOperatingMode = r.serialOperatingMode
  commandMode : r'.inCommandMode = true
  settings : r'.settings = r.settings
  frequencyMin : r'.tempSettings.frequencyMin =
    (lastAccepted r.settings .frequencyMin cs).getD r.settings.frequencyMin
  frequencyMax : r'.tempSettings.frequencyMax =
    (lastAccepted r.settings .frequencyMax cs).getD r.settings.frequencyMax

theorem inSession_enter (hmode : r.serialOperatingMode ≠ .virtualCircuit)
    (hidle : r.inCommandMode = false) : InSession r (step r .escape) [] := by
  rw [step_escape hmode hidle]
  exact ⟨rfl,rfl,rfl,rfl,rfl,rfl⟩

theorem inSession_step (hmode : r.serialOperatingMode ≠ .virtualCircuit) (h : InSession r r' cs)
    (c : LimitCommand) (i : TrainingInputs) :
    InSession r (step r' (.localCommand (.setParameter c.1.parameter c.2) i)) (cs ++ [c]) := by
  obtain ⟨limit,text⟩ := c
  rw [step_localCommand (h.mode ▸ hmode) h.commandMode]
  cases haccepts : limit.parameter.accepts r.settings text with
  | false =>
    have hsame : checkCommand r' (.setParameter limit.parameter text) false i = r' :=
      if_neg (by simp [h.settings,haccepts])
    rw [hsame]
    refine ⟨h.band,h.mode,h.commandMode,h.settings,?_,?_⟩
    · rw [lastAccepted_append,if_neg (by simp [haccepts]),h.frequencyMin]
    · rw [lastAccepted_append,if_neg (by simp [haccepts]),h.frequencyMax]
  | true =>
    rw [checkCommand_setParameter (h.settings ▸ haccepts)]
    cases limit with
    | frequencyMin =>
      refine ⟨h.band,h.mode,h.commandMode,h.settings,?_,?_⟩
      · rw [lastAccepted_append,if_pos ⟨rfl,haccepts⟩]
        rfl
      · rw [lastAccepted_append,if_neg (by simp)]
        exact h.frequencyMax
    | frequencyMax =>
      refine ⟨h.band,h.mode,h.commandMode,h.settings,?_,?_⟩
      · rw [lastAccepted_append,if_neg (by simp)]
        exact h.frequencyMin
      · rw [lastAccepted_append,if_pos ⟨rfl,haccepts⟩]
        rfl

theorem inSession_run (hmode : r.serialOperatingMode ≠ .virtualCircuit)
    (h : InSession r r' []) (cs : List LimitCommand) (i : TrainingInputs) :
    InSession r (Runs.run step r' (limitEvents cs i)) cs := by
  induction cs using List.reverseRecOn with
  | nil => exact h
  | append_singleton cs c ih =>
    rw [limitEvents,List.map_append,Runs.run_append]
    exact inSession_step hmode ih c i

/-- ATO applies what the session has left in tempSettings. -/
theorem run_limitSession (hmode : r.serialOperatingMode ≠ .virtualCircuit)
    (hidle : r.inCommandMode = false) (cs : List LimitCommand) (i : TrainingInputs) :
    ∃ r', InSession r r' cs ∧ Runs.run step r (limitSession cs i) = exitCommandMode r' := by
  have hsession := inSession_run hmode (inSession_enter hmode hidle) cs i
  refine ⟨_,hsession,?_⟩
  rw [limitSession,List.cons_append,Runs.run_cons,Runs.run_append,Runs.run_cons,Runs.run_nil,
    step_localCommand (hsession.mode ▸ hmode) hsession.commandMode]
  rfl

theorem exitCommandMode_settings (r : Radio) :
    (exitCommandMode r).settings = r.tempSettings ∧
      (exitCommandMode r).radioBand = r.radioBand := by
  unfold exitCommandMode
  dsimp only
  constructor
  · split <;> split <;> rfl
  · split <;> split <;> rfl

/-- Limits within 900 and 931 MHz are not changed by a reboot. -/
theorem validateSettings_of_range (hmin : 900 ≤ s.frequencyMin ∧ s.frequencyMin ≤ 931)
    (hmax : 900 ≤ s.frequencyMax ∧ s.frequencyMax ≤ 931) : validateSettings 915 s = s := by
  change clamp s 900 931 902 928 = s
  unfold clamp
  rw [if_neg (by simp [hmin]),if_neg (by simp [hmax])]

/-- Each limit by itself stays where the active settings allow it. -/
theorem InSession.range (hsession : InSession r r' cs) (h : LimitsOrdered r.settings)
    (hmin : Fits 24 r.settings.frequencyMin) (hmax : Fits 24 r.settings.frequencyMax) :
    (900 ≤ r'.tempSettings.frequencyMin ∧
      r'.tempSettings.frequencyMin ≤ r.settings.frequencyMax) ∧
    r.settings.frequencyMin ≤ r'.tempSettings.frequencyMax ∧
      r'.tempSettings.frequencyMax ≤ 931 := by
  rw [hsession.frequencyMin,hsession.frequencyMax]
  constructor
  · cases hlow : lastAccepted r.settings .frequencyMin cs with
    | none => exact ⟨h.lower,h.order⟩
    | some low =>
      obtain ⟨text,haccepts,rfl⟩ := lastAccepted_eq_some hlow
      exact frequencyMin_bounds hmax haccepts
  · cases hhigh : lastAccepted r.settings .frequencyMax cs with
    | none => exact ⟨h.order,h.upper⟩
    | some high =>
      obtain ⟨text,haccepts,rfl⟩ := lastAccepted_eq_some hhigh
      exact frequencyMax_bounds h hmin haccepts

/-- The limits are in order once ATO has applied them, and after a reboot that
reloads them. -/
def LimitsKept (r : Radio) (cs : List LimitCommand) (i : TrainingInputs) : Prop :=
  let r' := Runs.run step r (limitSession cs i)
  LimitsOrdered r'.settings ∧ LimitsOrdered (commandReset (recordSystemSettings r')).settings

/-- A session keeps the limits in order exactly if it does not set the minimum
and the maximum to values of the wrong order. -/
theorem frequency_limits_kept_iff (hband : r.radioBand = 915)
    (hmode : r.serialOperatingMode ≠ .virtualCircuit) (hidle : r.inCommandMode = false)
    (hmin : Fits 24 r.settings.frequencyMin) (hmax : Fits 24 r.settings.frequencyMax)
    (h : LimitsOrdered r.settings) (cs : List LimitCommand) (i : TrainingInputs) :
    LimitsKept r cs i ↔ ∀ low high, lastAccepted r.settings .frequencyMin cs = some low →
      lastAccepted r.settings .frequencyMax cs = some high → low ≤ high := by
  obtain ⟨r',hsession,hrun⟩ := run_limitSession hmode hidle cs i
  obtain ⟨hsettings,hband'⟩ := exitCommandMode_settings r'
  obtain ⟨⟨hlow,hlow'⟩,hhigh,hhigh'⟩ := hsession.range h hmin hmax
  have hreloaded : validateSettings 915 r'.tempSettings = r'.tempSettings :=
    validateSettings_of_range ⟨hlow,hlow'.trans h.upper⟩ ⟨h.lower.trans hhigh,hhigh'⟩
  have hordered : LimitsKept r cs i ↔
      r'.tempSettings.frequencyMin ≤ r'.tempSettings.frequencyMax := by
    unfold LimitsKept
    dsimp only
    rw [hrun]
    change LimitsOrdered (exitCommandMode r').settings ∧ LimitsOrdered
      (validateSettings (exitCommandMode r').radioBand (exitCommandMode r').settings) ↔ _
    rw [hsettings,hband',hsession.band,hband,hreloaded,and_self]
    exact ⟨LimitsOrdered.order,fun horder => ⟨hlow,horder,hhigh'⟩⟩
  rw [hordered]
  rw [hsession.frequencyMin] at hlow' ⊢
  rw [hsession.frequencyMax] at hhigh ⊢
  cases hmin' : lastAccepted r.settings .frequencyMin cs with
  | none => exact iff_of_true hhigh nofun
  | some low =>
    rw [hmin'] at hlow'
    cases hmax' : lastAccepted r.settings .frequencyMax cs with
    | none => exact iff_of_true hlow' (fun _ _ _ => nofun)
    | some high => simp

/-- AT-FrequencyMin=920, and AT-FrequencyMax with this value. -/
def raiseMinimum (value : String) : List LimitCommand :=
  [(.frequencyMin,"920".toList),(.frequencyMax,value.toList)]

theorem frequency_limits_kept_iff_fresh :
    LimitsKept (boot 915 [] defaultSettings) (raiseMinimum "925.5") anyInputs ↔
      ∀ low high, lastAccepted defaultSettings .frequencyMin (raiseMinimum "925.5") = some low →
        lastAccepted defaultSettings .frequencyMax (raiseMinimum "925.5") = some high →
          low ≤ high := by
  have hmin : Fits 24 ((902 : Nat) : Rat) := fits_natCast (by norm_num)
  have hmax : Fits 24 ((928 : Nat) : Rat) := fits_natCast (by norm_num)
  have hordered : LimitsOrdered defaultSettings :=
    ⟨by decide +kernel,by decide +kernel,by decide +kernel⟩
  exact frequency_limits_kept_iff (r := boot 915 [] defaultSettings) rfl (by decide) rfl hmin hmax
    hordered (raiseMinimum "925.5") anyInputs

/-- Both are valid against 902 to 928 MHz. -/
theorem frequency_limits_cross :
    ¬LimitsKept (boot 915 [] defaultSettings) (raiseMinimum "910") anyInputs := by
  rintro ⟨⟨-,horder,-⟩,-⟩
  exact absurd horder (by decide +kernel)

end LoRaSerial.Config
