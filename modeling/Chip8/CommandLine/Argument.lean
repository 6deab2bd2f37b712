import Chip8.CommandLine.Options
import Chip8.Text.Digit

/-!
Contract: what each word of a command line is taken for, before any of them is acted upon.

Owns: `Argument` and `Argument.classify`. A long spelling may be cut short as long as it stays the
only one; the value of a setting may follow an equals sign or, after a short spelling, at once. A
negative number is a plain word, and so is a word with a space and every word after `--`.
-/

namespace Chip8.CommandLine

inductive Argument where
  | plain (text : String)
  /-- The mark after which there are no settings. -/
  | mark
  | setting (setting : Setting) (spelling : String) (attached : Option String)
  | unknown (text : String)
deriving DecidableEq, Repr

namespace Argument

/-- Splits a text at its first equals sign. -/
def splitAtEquals (text : List Char) : Option (List Char × List Char) :=
  match text.span (· ≠ '=') with
  | (before, _ :: behind) => some (before, behind)
  | (_, []) => none

/-- A minus sign, digits, and perhaps a point with digits behind it; one line break may end it. -/
def isNegativeNumber (text : List Char) : Bool :=
  let isDigit (char : Char) : Bool := (Text.decimalDigit char).isSome
  match text with
  | '-' :: number =>
    let number := if number.getLast? = some '\n' then number.dropLast else number
    match number.span isDigit with
    | (whole, []) => !whole.isEmpty
    | (_, '.' :: fraction) => !fraction.isEmpty && fraction.all isDigit
    | _ => false
  | _ => false

/-- The settings with a long spelling that begins like the word up to its equals sign. -/
def longMatches (text : List Char) : List Argument :=
  let (start, attached) := match splitAtEquals text with
    | some (before, behind) => (before, some (String.ofList behind))
    | none => (text, none)
  (Setting.table.filter fun entry => start.isPrefixOf entry.1.toList).map
    fun entry => .setting entry.2 entry.1 attached

/-- The setting of which the first two characters are the short spelling; the rest is attached. -/
def shortMatches (text : List Char) : List Argument :=
  (Setting.table.filter fun entry => entry.1.toList = text.take 2).map
    fun entry => .setting entry.2 entry.1 (some (String.ofList (text.drop 2)))

def spellingOf : Argument → String
  | .setting _ spelling _ => spelling
  | _ => ""

/-- A word before the mark, or why it has no meaning. -/
def classifyOne (word : String) : Except String Argument :=
  match word.toList with
  | '-' :: second :: rest =>
    let text := '-' :: second :: rest
    match Setting.ofSpelling word with
    | some named => .ok (.setting named word none)
    | none =>
      let exact := (splitAtEquals text).bind fun (before, behind) =>
        let spelling := String.ofList before
        (Setting.ofSpelling spelling).map fun named =>
          Argument.setting named spelling (some (String.ofList behind))
      match exact with
      | some found => .ok found
      | none =>
        match if second = '-' then longMatches text else shortMatches text with
        | [found] => .ok found
        | [] =>
          .ok (if isNegativeNumber text ∨ ' ' ∈ text then .plain word else .unknown word)
        | several =>
          .error ("ambiguous option: " ++ word ++ " could match " ++
            ", ".intercalate (several.map spellingOf))
  | _ => .ok (.plain word)

def classify : List String → Except String (List Argument)
  | [] => .ok []
  | word :: rest =>
    if word = "--" then
      .ok (.mark :: rest.map .plain)
    else do
      return (← classifyOne word) :: (← classify rest)

end Argument

end Chip8.CommandLine
