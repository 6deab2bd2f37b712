import Chip8.CommandLine.Argument
import Chip8.Text.Numeral
import Chip8.Text.Quoted

/-!
Contract: the meaning of a command line.

Owns: `CommandLine.parse`. All words are classified first. Then they are acted upon from left to
right: the first plain word is the file, settings take effect as they come, and a wish for help
ends it at once. Only at the end a missing file is found, and after that words that mean nothing.
-/

namespace Chip8.CommandLine

/-- Why a command line does not start a run. -/
inductive Exit where
  | help
  | usage (message : String)
deriving DecidableEq, Repr

def Exit.code : Exit → Nat
  | .help => 0
  | .usage _ => 2

def Exit.message : Exit → String
  | .help => ""
  | .usage message => message

/-- An error that names the setting it is about. -/
def refuse {α : Type} (setting : Setting) (text : String) : Except Exit α :=
  .error (.usage ("argument " ++ setting.title ++ ": " ++ text))

def ignored {α : Type} (setting : Setting) (attached : List Char) : Except Exit α :=
  refuse setting ("ignored explicit argument " ++ Text.quoted (String.ofList attached))

/-- Settings without a value that share one word with the setting after them. -/
structure Bundle where
  flags : List Setting
  last : Setting
  value : Option String

/-- Takes a word with something attached apart. What is attached to a setting without a value
begins with the letter of another one, unless the setting was spelled long. -/
def unbundle (setting : Setting) (isShort : Bool) : List Char → Except Exit Bundle
  | [] => ignored setting []
  | attached@(letter :: rest) =>
    if setting.takesValue then
      .ok ⟨[], setting, some (String.ofList attached)⟩
    else if isShort then
      match Setting.ofSpelling (String.ofList ['-', letter]) with
      | none => ignored setting attached
      | some next =>
        if rest.isEmpty then
          .ok ⟨[setting], next, none⟩
        else
          (unbundle next true rest).map fun bundle =>
            { bundle with flags := setting :: bundle.flags }
    else
      ignored setting attached

def bundleOf (setting : Setting) (spelling : String) (attached : Option String) :
    Except Exit Bundle :=
  match attached with
  | none => .ok ⟨[], setting, none⟩
  | some text =>
    if setting.takesValue then
      .ok ⟨[], setting, some text⟩
    else
      unbundle setting (!spelling.startsWith "--") text.toList

/-! ### Values -/

def integerOf (setting : Setting) (value : String) : Except Exit Int :=
  match Text.decimal value.toList with
  | some number => .ok number
  | none => refuse setting ("invalid int value: " ++ Text.quoted value)

/-- A switch is 0 or 1. -/
def switchOf (setting : Setting) (value : String) : Except Exit Bool := do
  let number ← integerOf setting value
  if number = 0 then return false
  else if number = 1 then return true
  else refuse setting ("invalid choice: " ++ toString number ++ " (choose from 0, 1)")

def rendererOf (value : String) : Except Exit Renderer :=
  match Renderer.ofName value with
  | some renderer => .ok renderer
  | none =>
    refuse .renderer ("invalid choice: " ++ Text.quoted value ++ " (choose from " ++
      ", ".intercalate (Renderer.names.map Text.quoted) ++ ")")

/-- What is said by a word in the place of a value. The mark is no value, whatever would be read
otherwise. -/
def givenBy {α : Type} (read : String → Except Exit α) (word : String) : Except Exit (Given α) :=
  if word = "--" then .ok .blank else (read word).map .value

/-! ### Effects -/

/-- Options in the making. -/
structure Draft where
  file : Option String
  options : Options
  /-- Settings of which the last one waits for its value. -/
  waiting : Option Bundle
  /-- The file was the argument before. -/
  besideFile : Bool
  /-- Words that mean nothing. -/
  extras : List String

def Draft.start : Draft :=
  ⟨none, Options.forFile "", none, false, []⟩

def applyFlag (draft : Draft) : Setting → Except Exit Draft
  | .help => .error .help
  | .debug => .ok { draft with options := { draft.options with debug := true } }
  | .listing => .ok { draft with options := { draft.options with listing := true } }
  | _ => .ok draft

def applyValue (draft : Draft) (setting : Setting) (value : String) : Except Exit Draft := do
  let options := draft.options
  let changed ← match setting with
    | .clockSpeed => pure { options with clockSpeed := ← givenBy (integerOf setting) value }
    | .renderer => pure { options with renderer := ← givenBy rendererOf value }
    | .scale => pure { options with scale := ← givenBy (integerOf setting) value }
    | .mute => pure { options with mute := ← givenBy (switchOf setting) value }
    | .keyMap => pure { options with keyMap := ← givenBy pure value }
    | .palette => pure { options with palette := ← givenBy pure value }
    | .indexOverflow =>
      pure { options with flagsIndexOverflow := ← givenBy (switchOf setting) value }
    | .help | .debug | .listing => pure options
  return { draft with options := changed }

def applyFlags (draft : Draft) (flags : List Setting) : Except Exit Draft :=
  flags.foldlM applyFlag draft

def extra (draft : Draft) (word : String) : Draft :=
  { draft with extras := draft.extras ++ [word] }

/-- Settings of which the last one has its value, or needs none, take effect together. -/
def applyBundle (draft : Draft) (bundle : Bundle) : Except Exit Draft :=
  match bundle.value with
  | some value => do applyValue (← applyFlags draft bundle.flags) bundle.last value
  | none =>
    if bundle.last.takesValue then .ok { draft with waiting := some bundle }
    else applyFlags draft (bundle.flags ++ [bundle.last])

/-- Acts upon one argument. The mark belongs to the file if it stands before it or next to it;
elsewhere it is a word that means nothing. -/
def act (draft : Draft) (argument : Argument) : Except Exit Draft :=
  let moved := { draft with waiting := none, besideFile := false }
  match draft.waiting, argument with
  | some bundle, .plain value => applyBundle moved { bundle with value := some value }
  | some bundle, _ => refuse bundle.last "expected one argument"
  | none, .plain word =>
    if draft.file.isNone then
      .ok { moved with file := some word, besideFile := true }
    else
      .ok (extra moved word)
  | none, .mark =>
    if draft.file.isNone ∨ draft.besideFile then .ok moved else .ok (extra moved "--")
  | none, .unknown word => .ok (extra moved word)
  | none, .setting setting spelling attached => do
    applyBundle moved (← bundleOf setting spelling attached)

def parse (arguments : List String) : Except Exit Options := do
  let classified ← (Argument.classify arguments).mapError .usage
  let draft ← classified.foldlM act Draft.start
  if let some bundle := draft.waiting then
    refuse bundle.last "expected one argument"
  match draft.file with
  | none => throw (.usage "the following arguments are required: filename")
  | some file =>
    if draft.extras.isEmpty then
      return { draft.options with file := file }
    else
      throw (.usage ("unrecognized arguments: " ++ " ".intercalate draft.extras))

end Chip8.CommandLine
