/-!
Contract: what the emulator says about itself.

Owns: its name and version, the greeting line, and the defaults that the help text quotes.
-/

namespace Chip8.About

def name : String := "PlainChip Emulator"

def version : String := "1.0.0"

def copyright : String :=
  "Copyright (C) 2022 Gregory Maynard-Hoare, licensed under GNU Affero General Public License v3.0"

def intro : String := name ++ " V" ++ version ++ " -- "

/-- The first line of every run. -/
def greeting : String := intro ++ copyright

/-- Instructions per second where no speed is asked for. -/
def defaultClockSpeed : Nat := 1000

/-- Timers count down this many times a second. -/
def timerFrequency : Nat := 60

/-- Host key codes of the keys `0` to `F`: the block from `1` to `V` on a QWERTY keyboard. -/
def defaultKeyMap : String := "120,49,50,51,113,119,101,97,115,100,122,99,52,114,102,118"

end Chip8.About
