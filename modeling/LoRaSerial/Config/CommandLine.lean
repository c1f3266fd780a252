import LoRaSerial.Config.Grammar
import LoRaSerial.Outgoing.Packet

namespace LoRaSerial.Config
open Outgoing (startOfVcSerial vcRadioHeaderBytes)

/-- One test of the sort. sortOrder has the entries in place of their indices. -/
def compareExchange (sortOrder : List Parameter) (index x : Nat) : List Parameter :=
  match sortOrder[index]?,sortOrder[x]? with
  | some p,some q =>
    if 0 < stricmp p.name q.name then (sortOrder.set index q).set x p else sortOrder
  | _,_ => sortOrder

def sortOrder : List Parameter :=
  (List.range commandCount).foldl (fun order index =>
    (List.range' (index + 1) (commandCount - (index + 1))).foldl
      (fun order x => compareExchange order index x) order) commands

/-- The entries that are asked for: all, those of a letter, or those without requireAll. -/
def Parameter.listed (letter : Option Char) (displayAll : Bool) (p : Parameter) : Bool :=
  displayAll || letter == some p.row.letter || (letter == none && !p.row.requireAll)

/-- A line of the listing. Over the radio link the settings have the R style. -/
def Console.displayParameter (c : Console) (printToRf : Bool) (p : Parameter) : Console :=
  let c := c.systemPrint (if c.radio.inCommandMode && printToRf then ['R'] else ['A'])
  let c := c.systemPrint ['T','-']
  let c := c.systemPrint p.name
  let c := c.systemPrint ['=']
  c.commandDisplay p

/-- Show current settings in user friendly way. -/
def Console.displayParameters (c : Console) (letter : Option Char) (displayAll printToRf : Bool) :
    Console :=
  sortOrder.foldl
    (fun c p => if p.listed letter displayAll then c.displayParameter printToRf p else c) c

inductive CommandRoutine where
  | displayParameters (letter : Option Char)
  | commandSetByName
  | commandAT
  | sendRemoteCommand

structure CommandPrefix where
  letters : String
  supportedInVcMode : Bool
  processCommand : CommandRoutine

def prefixTable : List CommandPrefix :=
  [⟨"ATD",true,.displayParameters (some 'D')⟩,⟨"ATP",true,.displayParameters (some 'P')⟩,
   ⟨"ATR",true,.displayParameters (some 'R')⟩,⟨"ATS",true,.displayParameters (some 'S')⟩,
   ⟨"ATV",true,.displayParameters (some 'V')⟩,⟨"AT-?",true,.displayParameters none⟩,
   ⟨"AT-",true,.commandSetByName⟩,⟨"AT",true,.commandAT⟩,⟨"RT",false,.sendRemoteCommand⟩]

/-- What a call of checkCommand finds beside the console, with the two routines
that are no part of the command table. -/
structure CommandCall where
  printToRf : Bool
  myVc : UInt8
  commandAT : List Char → UInt8 → Console → Console × Bool
  sendRemoteCommand : List Char → UInt8 → Console → Console × Bool

variable (k : CommandCall)

def CommandCall.processCommand (commandString : List Char) (commandLength : UInt8) (c : Console) :
    CommandRoutine → Console × Bool
  | .displayParameters letter => (c.displayParameters letter false k.printToRf,true)
  | .commandSetByName => c.commandSetByName commandString
  | .commandAT => k.commandAT commandString commandLength c
  | .sendRemoteCommand => k.sendRemoteCommand commandString commandLength c

/-- The prefix of the command, among those supported in the current mode. -/
def locatePrefix (operatingMode : OperatingMode) (commandString : List Char) :
    Option CommandPrefix :=
  prefixTable.find? fun e =>
    (e.supportedInVcMode || operatingMode == .pointToPoint) &&
      e.letters.toList.isPrefixOf commandString

def vcCommandCompleteBytes : Nat := 1
def pcCommandComplete : UInt8 := 0xE5

/-- Notify the host that the command is complete. -/
def CommandCall.commandComplete (success : Bool) (c : Console) : Console :=
  if c.radio.settings.operatingMode = .virtualCircuit then
    c.systemWrite [startOfVcSerial,UInt8.ofNat (vcRadioHeaderBytes + vcCommandCompleteBytes),
      pcCommandComplete,k.myVc,if success then 0 else 1]
  else c

/-- Print OK or ERROR. -/
def CommandCall.report (success : Bool) (c : Console) : Console :=
  k.commandComplete success
    (c.systemPrint ((if success then ['O','K'] else ['E','R','R','O','R']) ++ newLine))

/-- Process the command. An empty one is a success, and one of a single byte is not. -/
def CommandCall.execute (commandString : List Char) (commandLength : UInt8) (c : Console) :
    Console × Bool :=
  if 2 ≤ commandLength then
    match locatePrefix c.radio.settings.operatingMode commandString with
    | some e => k.processCommand commandString commandLength c e.processCommand
    | none => (c,false)
  else (c,commandLength == 0)

/-- The command of the buffer as a string, which a zero ends. -/
def CommandBuffer.string (b : CommandBuffer) : List Char :=
  (b.command.takeWhile (· != 0)).map charOf

/-- Check to see if a valid command has been received. -/
def CommandCall.checkCommand (tests : Nat) (b : CommandBuffer) (c : Console) :
    Option (Console × Bool) :=
  let b := { b with commandBuffer := b.commandBuffer.set b.commandLength.toNat 0 }
  (trimCommand tests b).map fun b =>
    let commandString := upper b.string
    let c := c.systemPrint (commandString ++ newLine)
    let (c,success) := k.execute commandString b.commandLength c
    (k.report success c,success)

end LoRaSerial.Config
