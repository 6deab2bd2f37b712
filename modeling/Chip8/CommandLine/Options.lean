import Chip8.About
import Chip8.CommandLine.Given

/-!
Contract: what a run of the emulator can be told on the command line.

Owns: `Options` with their defaults, each `Setting` with its spellings, and the names under which
a `Renderer` can be chosen.
-/

namespace Chip8.CommandLine

inductive Renderer where
  | window
  | headless
deriving DecidableEq, Repr

namespace Renderer

def all : List Renderer := [.window, .headless]

def name : Renderer → String
  | .window => "pygame"
  | .headless => "null"

def names : List String :=
  all.map name

def ofName (text : String) : Option Renderer :=
  all.find? fun renderer => renderer.name = text

end Renderer

structure Options where
  file : String
  clockSpeed : Given Int
  /-- If nothing is said there is a window where there can be one. -/
  renderer : Given Renderer
  scale : Given Int
  mute : Given Bool
  keyMap : Given String
  palette : Given String
  flagsIndexOverflow : Given Bool
  debug : Bool
  listing : Bool
deriving DecidableEq, Repr

def Options.forFile (file : String) : Options where
  file := file
  clockSpeed := .unsaid
  renderer := .unsaid
  scale := .unsaid
  mute := .unsaid
  keyMap := .value About.defaultKeyMap
  palette := .unsaid
  flagsIndexOverflow := .unsaid
  debug := false
  listing := false

inductive Setting where
  | help
  | clockSpeed
  | renderer
  | scale
  | mute
  | keyMap
  | palette
  | indexOverflow
  | debug
  | listing
deriving DecidableEq, Repr

namespace Setting

/-- The spellings of a setting, the short one first. -/
def spellings : Setting → List String
  | .help => ["-h", "--help"]
  | .clockSpeed => ["-c", "--clock_speed"]
  | .renderer => ["-r", "--renderer"]
  | .scale => ["-s", "--scale"]
  | .mute => ["-m", "--mute"]
  | .keyMap => ["-k", "--keymap"]
  | .palette => ["--pygame_palette"]
  | .indexOverflow => ["--index_overflow_quirks"]
  | .debug => ["-d", "--debug"]
  | .listing => ["--disassemble"]

/-- In the order in which they are listed. -/
def all : List Setting := [
  .help, .clockSpeed, .renderer, .scale, .mute, .keyMap, .palette, .indexOverflow, .debug,
  .listing]

def takesValue : Setting → Bool
  | .help | .debug | .listing => false
  | _ => true

/-- How an error names a setting. -/
def title (setting : Setting) : String :=
  "/".intercalate setting.spellings

/-- Every spelling with its setting. -/
def table : List (String × Setting) :=
  all.flatMap fun setting => setting.spellings.map (·, setting)

def ofSpelling (spelling : String) : Option Setting :=
  table.lookup spelling

end Setting

end Chip8.CommandLine
