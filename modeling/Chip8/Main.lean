import Chip8.Launch

/-!
Contract: the emulator as a program.

Owns: the reading of the program file, the running clock and the printing. There is no library
for windows here, so runs are headless; all decisions are made by the modules imported.
-/

namespace Chip8.Main

/-- Numbers that look random: the count of draws, stirred well. -/
def stir (seed count : Nat) : Int :=
  let word : UInt64 := UInt64.ofNat (seed + count) * 0x9E3779B97F4A7C15
  let word := (word ^^^ (word >>> 30)) * 0xBF58476D1CE4E5B9
  let word := (word ^^^ (word >>> 27)) * 0x94D049BB133111EB
  Int.ofNat ((word ^^^ (word >>> 31)).toNat % 256)

/-- Seconds since some time in the past. -/
def now : IO Float := do
  return Float.ofScientific (← IO.monoNanosNow) true 9

def readProgram (name : String) : IO (Except Fault (List UInt8)) := do
  try
    let bytes ← IO.FS.readBinFile name
    return Rom.accept name bytes.toList
  catch
    | .noFileOrDirectory .. => return .error .fileMissing
    | .inappropriateType .. => return .error .fileIsDirectory
    | other => throw other

/-- As much memory as most computers have. -/
def room : Extent.Room :=
  ⟨0x400000000, by decide⟩

partial def waitUntil (due : Float) : IO Unit := do
  if (← now) < due then waitUntil due

def printTraces (host : Host) : IO Host := do
  for line in Launch.traceLines host.sent.reverse do
    IO.println line
  return { host with sent := [] }

partial def turns (host : Host) : IO (Option Fault) := do
  let time ← now
  let turn := host.turn time Poll.nothing
  let host ← printTraces turn.host
  match turn.ending with
  | some (.fault fault) => return some fault
  | some .quit => return none
  | none =>
    if let some due := host.nextTurn time then
      waitUntil due
    turns host.countInstruction

def runOptions (options : CommandLine.Options) : IO (Option Fault) := do
  IO.println About.greeting
  match ← readProgram options.file with
  | .error fault => return some fault
  | .ok program =>
    if options.listing then
      for line in Launch.listingLines program do
        IO.println line
      return none
    else
      let seed ← IO.monoNanosNow
      let surroundings : Launch.Surroundings := {
        room := room
        ample := by decide
        program := .ok program
        windowAvailable := false
        random := ⟨stir seed, 0⟩
        clock := ⟨fun _ => 0.0, 0, 0⟩
        events := fun _ => [] }
      match (Launch.prepare options surroundings program).ready with
      | .error fault => return some fault
      | .ok (host, _) => turns { host with nextTick := some ((← now) + Host.tickInterval) }

def main (arguments : List String) : IO UInt32 := do
  match CommandLine.parse arguments with
  | .error .help =>
    CommandLine.helpLines.forM IO.println
    return 0
  | .error exit =>
    CommandLine.usageLines.forM IO.eprintln
    IO.eprintln (CommandLine.errorLine exit.message)
    return exit.code.toUInt32
  | .ok options =>
    match ← runOptions options with
    | none => return 0
    | some fault =>
      IO.eprintln fault.message
      return 1

end Chip8.Main

def main (arguments : List String) : IO UInt32 :=
  Chip8.Main.main arguments
