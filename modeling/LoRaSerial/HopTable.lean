import LoRaSerial.Settings
import Mathlib.Data.List.Basic

namespace LoRaSerial

/-- Simple lfsr randomizer: the new value of myRandSeed, which is the result. -/
def myRand (myRandSeed : UInt16) : UInt16 :=
  let myRandBit := (myRandSeed ^^^ (myRandSeed >>> 2) ^^^ (myRandSeed >>> 3) ^^^
    (myRandSeed >>> 5)) &&& 1
  (myRandSeed >>> 1) ||| (myRandBit <<< 15)

def swap (array : List Rat) (i j : Nat) : List Rat :=
  (array.set j (array.getD i 0)).set i (array.getD j 0)

/-- Array shuffle. -/
def shuffle (array : List Rat) (n : Nat) (myRandSeed : UInt16) : List Rat × UInt16 :=
  (List.range (n - 1)).foldl (fun (array,seed) i =>
    let seed := myRand seed
    (swap array i (seed.toNat % n),seed)) (array,myRandSeed)

def channelSpacing (s : Settings) : Rat :=
  toFloat (toFloat (s.frequencyMax - s.frequencyMin) / (s.numberOfChannels.toNat + 2 : Nat))

/-- The channels in ascending order, away from the edge of the spectrum. -/
def channelList (s : Settings) : List Rat :=
  let operatingMinFreq := toFloat (s.frequencyMin + toFloat (channelSpacing s / 2))
  (List.range s.numberOfChannels.toNat).map fun (x : Nat) =>
    toFloat (operatingMinFreq + toFloat (x * channelSpacing s))

def OperatingMode.toNat : OperatingMode → Nat
  | .multipoint => 0
  | .pointToPoint => 1
  | .virtualCircuit => 2

/-- The seed from settings that must be identical to have a functioning link,
in the 16 bits of myRandSeed. -/
def hopSeed (s : Settings) : UInt16 :=
  let seed := UInt16.ofNat (s.radioBandwidth.floor.toNat + s.radioSpreadFactor.toNat +
    s.radioCodingRate.toNat + s.txToRxUsec.toNat + s.netID.toNat + s.operatingMode.toNat +
    s.encryptData.toNat + s.dataScrambling.toNat + s.frequencyMin.floor.toNat +
    s.frequencyMax.floor.toNat + s.numberOfChannels.toNat + s.frequencyHop.toNat +
    s.maxDwellTime.toNat + s.verifyRxNetID.toNat + s.overheadTime.toNat + s.enableCRC16.toNat +
    s.clientFindPartnerRetryInterval.toNat)
  if s.encryptData then s.encryptionKey.foldl (fun seed b => seed + b.toUInt16) seed else seed

/-- The values of n calls of myRand. -/
def myRands : Nat → UInt16 → List UInt16
  | 0,_ => []
  | n + 1,seed => myRand seed :: myRands n (myRand seed)

/-- What generateHopTable computes: the channel table and the AES IV. -/
structure HopTable where
  channels : List Rat
  AESiv : List UInt8
  deriving DecidableEq, Repr

/-- Generate unique hop table based on radio settings. -/
def generateHopTable (s : Settings) : HopTable :=
  let (channels,seed) := shuffle (channelList s) s.numberOfChannels.toNat (hopSeed s)
  { channels, AESiv := (myRands 12 seed).map UInt16.toUInt8 }

theorem length_swap (array : List Rat) (i j : Nat) : (swap array i j).length = array.length := by
  rw [swap,List.length_set,List.length_set]

theorem length_shuffle (array : List Rat) (n : Nat) (seed : UInt16) :
    (shuffle array n seed).1.length = array.length := by
  unfold shuffle
  generalize List.range (n - 1) = is
  induction is generalizing array seed with
  | nil => rfl
  | cons i is ih => rw [List.foldl_cons,ih,length_swap]

@[simp] theorem length_channels (s : Settings) :
    (generateHopTable s).channels.length = s.numberOfChannels.toNat := by
  change (shuffle (channelList s) s.numberOfChannels.toNat (hopSeed s)).1.length = _
  rw [length_shuffle,channelList,List.length_map,List.length_range]

/-- The settings that the hop table and the AES IV depend on. -/
structure Settings.SameHops (s s' : Settings) : Prop where
  frequencyMin : s.frequencyMin = s'.frequencyMin
  frequencyMax : s.frequencyMax = s'.frequencyMax
  radioBandwidth : s.radioBandwidth = s'.radioBandwidth
  txToRxUsec : s.txToRxUsec = s'.txToRxUsec
  frequencyHop : s.frequencyHop = s'.frequencyHop
  numberOfChannels : s.numberOfChannels = s'.numberOfChannels
  maxDwellTime : s.maxDwellTime = s'.maxDwellTime
  radioCodingRate : s.radioCodingRate = s'.radioCodingRate
  radioSpreadFactor : s.radioSpreadFactor = s'.radioSpreadFactor
  operatingMode : s.operatingMode = s'.operatingMode
  netID : s.netID = s'.netID
  verifyRxNetID : s.verifyRxNetID = s'.verifyRxNetID
  encryptionKey : s.encryptionKey = s'.encryptionKey
  encryptData : s.encryptData = s'.encryptData
  dataScrambling : s.dataScrambling = s'.dataScrambling
  enableCRC16 : s.enableCRC16 = s'.enableCRC16
  overheadTime : s.overheadTime = s'.overheadTime
  clientFindPartnerRetryInterval :
    s.clientFindPartnerRetryInterval = s'.clientFindPartnerRetryInterval

theorem generateHopTable_congr {s s' : Settings} (h : s.SameHops s') :
    generateHopTable s = generateHopTable s' := by
  have hseed : hopSeed s = hopSeed s' := by
    simp only [hopSeed,h.frequencyMin,h.frequencyMax,h.radioBandwidth,h.txToRxUsec,h.frequencyHop,
      h.numberOfChannels,h.maxDwellTime,h.radioCodingRate,h.radioSpreadFactor,h.operatingMode,
      h.netID,h.verifyRxNetID,h.encryptionKey,h.encryptData,h.dataScrambling,h.enableCRC16,
      h.overheadTime,h.clientFindPartnerRetryInterval]
  have hlist : channelList s = channelList s' := by
    simp only [channelList,channelSpacing,h.frequencyMin,h.frequencyMax,h.numberOfChannels]
  simp only [generateHopTable,hseed,hlist,h.numberOfChannels]

/-- The channel `hopChannel` moves to, in the 8 bits of channelNumber. -/
def hopTarget (moveForwardThroughTable : Bool) (channelCount channelNumber : UInt8)
    (s : Settings) : UInt8 :=
  (if moveForwardThroughTable then channelNumber + channelCount
    else channelNumber + (s.numberOfChannels - channelCount)) % s.numberOfChannels

section

variable {c : UInt8} {s : Settings} {size : Nat}

/-- A forward hop stays inside a table of at least as many channels as its
modulus, and one that does not pass the end of the table stays inside any. -/
theorem hopTarget_forward_lt {k : UInt8} (hn : 0 < s.numberOfChannels.toNat)
    (hfit : s.numberOfChannels.toNat ≤ size ∨ c.toNat + k.toNat < size) :
    (hopTarget true k c s).toNat < size := by
  have hsum : (c + k).toNat ≤ c.toNat + k.toNat := by
    rw [UInt8.toNat_add]
    exact Nat.mod_le _ _
  have hmod := Nat.mod_lt (c + k).toNat hn
  have hle := Nat.mod_le (c + k).toNat s.numberOfChannels.toNat
  rw [hopTarget,if_pos rfl,UInt8.toNat_mod]
  omega

/-- A hop backwards leaves the table from channel 0 only. -/
theorem hopTarget_reverse_lt (hn : 0 < s.numberOfChannels.toNat) (hc : c.toNat < size)
    (hfit : s.numberOfChannels.toNat ≤ size ∨ 0 < c.toNat) :
    (hopTarget false 1 c s).toNat < size := by
  have hlt := s.numberOfChannels.toNat_lt
  have hone : (s.numberOfChannels - 1).toNat = s.numberOfChannels.toNat - 1 :=
    UInt8.toNat_sub_of_le _ _ hn
  have hmod := Nat.mod_lt (c + (s.numberOfChannels - 1)).toNat hn
  rw [hopTarget,if_neg Bool.false_ne_true,UInt8.toNat_mod]
  by_cases hle : s.numberOfChannels.toNat ≤ size
  · omega
  have hpos : 0 < c.toNat := hfit.resolve_left hle
  -- The sum passes the modulus once, or it passes 256 and stays below it.
  rw [UInt8.toNat_add,hone] at hmod ⊢
  by_cases hwrap : c.toNat + (s.numberOfChannels.toNat - 1) < 256
  · have hsum : c.toNat + (s.numberOfChannels.toNat - 1) =
        c.toNat - 1 + s.numberOfChannels.toNat := by omega
    rw [Nat.mod_eq_of_lt hwrap,hsum,Nat.add_mod_right,Nat.mod_eq_of_lt (by omega)]
    omega
  · have hle' := Nat.mod_le ((c.toNat + (s.numberOfChannels.toNat - 1)) % 2 ^ 8)
      s.numberOfChannels.toNat
    omega

end

end LoRaSerial
