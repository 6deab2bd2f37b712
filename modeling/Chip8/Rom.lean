import Chip8.Fault
import Chip8.Text.Pieces

/-!
Contract: reading a program file and turning away what does not fit into memory.

Owns: `Rom.accept`, the size rule, and `Folder`, a folder of files in which paths are looked up.
-/

namespace Chip8

/-- A program that is too large is refused under the name it was asked for. -/
def Rom.accept (name : String) (bytes : List UInt8) : Except Fault (List UInt8) :=
  if programLimit < bytes.length then .error (.fileTooLarge name bytes.length) else .ok bytes

/-- Files by name, in a folder without subfolders. -/
structure Folder where
  files : List (String × List UInt8)
deriving DecidableEq, Repr

namespace Folder

/-- The parts of a path between slashes; empty parts and single dots lead nowhere. -/
def parts (path : String) : List String :=
  ((Text.pieces '/' path.toList).map String.ofList).filter fun part => part ≠ "" ∧ part ≠ "."

/-- Bytes that one part of a path may have. -/
def partLimit : Nat := 255

/-- Bytes that a path may have. -/
def pathLimit : Nat := 4095

/-- What comes of parts that lead to no file. The folder itself and those above it are no files,
and nothing else is known of them. -/
def absence (parts : List String) : Fault :=
  match parts.find? (· ≠ "..") with
  | none => .fileIsDirectory
  | some name => if partLimit < name.utf8ByteSize then .fileNameTooLong else .fileMissing

def read (folder : Folder) (path : String) : Except Fault (List UInt8) :=
  if '\x00' ∈ path.toList then .error .fileNameInvalid
  else if path = "" then .error .fileMissing
  else if pathLimit < path.utf8ByteSize then .error .fileNameTooLong
  else match parts path with
    | [] => .error .fileIsDirectory
    | name :: deeper =>
      match folder.files.lookup name with
      | some bytes =>
        if path.startsWith "/" then .error .fileMissing
        else if deeper.isEmpty && !path.endsWith "/" && !path.endsWith "/." then .ok bytes
        else .error .fileNotDirectory
      | none => .error (absence (name :: deeper))

end Folder

/-- Reads a program from a folder. -/
def Rom.read (folder : Folder) (name : String) : Except Fault (List UInt8) :=
  (folder.read name).bind (Rom.accept name)

end Chip8
