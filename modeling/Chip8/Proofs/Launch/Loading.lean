import Chip8.Launch
import Chip8.Proofs.Bank.Bounds
import Chip8.Proofs.Processor.Reachable

/-!
Contract: which programs can be loaded, and what loading one does.

Owns:
- `Processor.Loaded`, a program put where programs begin and nothing else changed;
- that the reader of program files turns away exactly what no processor loads, so that the load
  that comes after it in a run is never refused.

Does not own: how a loaded program runs.
-/

namespace Chip8

namespace Processor

/-- In `after` a program stands where programs begin, and all else is as before. -/
structure Loaded (before : Processor) (program : List UInt8) (after : Processor) : Prop where
  stored : Bank.Stored before.machine.ram after.machine.ram programStart program
  elsewhere : after = before.withMachine { before.machine with ram := after.machine.ram }

theorem load_of_tooLarge (processor : Processor) {program : List UInt8}
    (tooLarge : programLimit < program.length) :
    processor.load program = (processor, some (.programTooLarge program.length)) := by
  unfold load
  rw [Machine.load_eq, if_pos tooLarge]
  rfl

theorem load_of_fits (processor : Processor) {program : List UInt8}
    (fits : program.length ≤ programLimit) :
    ∃ after, processor.load program = (after, none) ∧ processor.Loaded program after := by
  have notBeyond : (programStart : Int) + program.length ≤ (4096 : Nat) := by
    simp only [programStart, programLimit, memorySize] at *
    omega
  have stored := processor.machine.ram.stored_overlay (by decide) notBeyond
  unfold load
  rw [Machine.load_eq, if_neg (Nat.not_lt.mpr fits)]
  exact ⟨_, rfl, stored, rfl⟩

theorem load_accepted_iff (processor : Processor) (program : List UInt8) :
    (processor.load program).2 = none ↔ program.length ≤ programLimit := by
  by_cases fits : program.length ≤ programLimit
  · obtain ⟨after, accepted, -⟩ := processor.load_of_fits fits
    rw [accepted]
    exact iff_of_true rfl fits
  · rw [processor.load_of_tooLarge (Nat.not_le.mp fits)]
    exact iff_of_false nofun fits

/-- A program too large leaves the processor as it was; any other one is loaded. -/
theorem perform_load_spec (processor : Processor) (program : List UInt8) :
    if programLimit < program.length then
      processor.perform (.load program) = (processor, some (.programTooLarge program.length))
    else
      ∃ after, processor.perform (.load program) = (after, none) ∧
        processor.Loaded program after := by
  split
  · rename_i tooLarge
    exact processor.load_of_tooLarge tooLarge
  · rename_i fits
    exact processor.load_of_fits (Nat.not_lt.mp fits)

end Processor

/-- The limit of the reader is the one of the load, whatever processor the program is for. -/
theorem Rom.accept_eq (processor : Processor) (name : String) (contents : List UInt8) :
    accept name contents =
      if (processor.load contents).2 = none then .ok contents
      else .error (.fileTooLarge name contents.length) := by
  unfold accept
  by_cases fits : contents.length ≤ programLimit
  · rw [if_neg (Nat.not_lt.mpr fits), if_pos ((processor.load_accepted_iff contents).mpr fits)]
  · rw [if_pos (Nat.not_le.mp fits), if_neg (mt (processor.load_accepted_iff contents).mp fits)]

/-- What is read is a file as it was found, if it is not too large. -/
theorem Rom.read_eq_ok_iff {folder : Folder} {name : String} {accepted : List UInt8} :
    Rom.read folder name = .ok accepted ↔
      folder.read name = .ok accepted ∧ accepted.length ≤ programLimit := by
  unfold Rom.read
  cases folder.read name with
  | error fault => exact iff_of_false nofun fun found => nomatch found.1
  | ok contents =>
    change accept name contents = .ok accepted ↔ _
    unfold accept
    by_cases fits : contents.length ≤ programLimit
    · rw [if_neg (Nat.not_lt.mpr fits), and_iff_left_of_imp]
      rintro ⟨⟩
      exact fits
    · rw [if_pos (Nat.not_le.mp fits)]
      refine iff_of_false nofun ?_
      rintro ⟨⟨⟩, small⟩
      exact fits small

namespace Launch

open CommandLine (Options Renderer)

/-- The processor of a run before the program is loaded. -/
def startProcessor (options : Options) (surroundings : Surroundings) : Processor :=
  Processor.start (options.flagsIndexOverflow.toOption.getD false) options.debug
    surroundings.random

/-- What is prepared once the program is loaded. -/
def prepareLoaded (options : Options) (room : Extent.Room) (loaded : Processor) :
    Option Renderer → Preparation
  | some .window => prepareWindow options room loaded
  | some .headless => prepareHeadless options loaded
  | none => ⟨[], .error .rendererBlank⟩

theorem prepare_of_load {options : Options} {surroundings : Surroundings} {program : List UInt8}
    {loaded : Processor}
    (accepted : (startProcessor options surroundings).load program = (loaded, none)) :
    prepare options surroundings program =
      match chooseRenderer options surroundings.windowAvailable with
      | .error fault => ⟨[], .error fault⟩
      | .ok renderer => prepareLoaded options surroundings.room loaded renderer := by
  unfold startProcessor at accepted
  unfold prepare
  cases chooseRenderer options surroundings.windowAvailable with
  | error fault => rfl
  | ok renderer =>
    dsimp only
    rw [accepted]
    rcases renderer with _ | (_ | _) <;> rfl

/-- Loading is exact; it refuses only programs too large, and these without effect. A program file
is accepted exactly if its contents can be loaded, and is then given as it is; so in a run, the load
of what was read is never refused. -/
theorem load_exact_and_never_refused_after_read (processor : Processor) (program : List UInt8)
    (folder : Folder) (options : Options) (surroundings : Surroundings) :
    (if programLimit < program.length then
        processor.perform (.load program) = (processor, some (.programTooLarge program.length))
      else ∃ after, processor.perform (.load program) = (after, none) ∧
        processor.Loaded program after) ∧
      (Rom.read folder options.file =
        (folder.read options.file).bind fun contents =>
          if (processor.load contents).2 = none then .ok contents
          else .error (.fileTooLarge options.file contents.length)) ∧
      ∀ accepted, Rom.read folder options.file = .ok accepted →
        ∃ loaded, (startProcessor options surroundings).load accepted = (loaded, none) ∧
          (startProcessor options surroundings).Loaded accepted loaded ∧
          prepare options surroundings accepted =
            match chooseRenderer options surroundings.windowAvailable with
            | .error fault => ⟨[], .error fault⟩
            | .ok renderer => prepareLoaded options surroundings.room loaded renderer := by
  refine ⟨processor.perform_load_spec program, ?_, ?_⟩
  · unfold Rom.read
    congr 1
    funext contents
    exact Rom.accept_eq processor options.file contents
  · intro accepted read
    obtain ⟨loaded, done, exact⟩ :=
      (startProcessor options surroundings).load_of_fits (Rom.read_eq_ok_iff.mp read).2
    exact ⟨loaded, done, exact, prepare_of_load done⟩

/-- A file of the largest size is read and loaded; a program one byte longer is refused. -/
theorem largest_file_loaded :
    let largest : List UInt8 := List.replicate 0xE00 0xFF
    let folder : Folder := ⟨[("a", largest)]⟩
    let options := Options.forFile "a"
    let surroundings : Surroundings := {
      room := ⟨0x10000, by decide⟩
      ample := by decide
      program := Rom.read folder "a"
      windowAvailable := false
      random := ⟨fun _ => 0, 0⟩
      clock := ⟨fun _ => 0.0, 0, 0⟩
      events := fun _ => [] }
    let processor := startProcessor options surroundings
    processor.perform (.load (0 :: largest)) = (processor, some (.programTooLarge 0xE01)) ∧
      Rom.read folder "a" = .ok largest ∧
      ∃ loaded, processor.load largest = (loaded, none) ∧ processor.Loaded largest loaded ∧
        prepare options surroundings largest = prepareHeadless options loaded := by
  intro largest folder options surroundings processor
  have length : largest.length = 0xE00 := List.length_replicate
  have tooLarge : (0 :: largest).length = 0xE01 := congrArg (· + 1) length
  -- From here on the contents are open, since they are too large to compute with.
  clear_value largest
  have named : Folder.parts "a" = ["a"] := by decide +kernel
  have notAbsolute : "a".startsWith "/" = false := by decide +kernel
  have noFolder : (!"a".endsWith "/" && !"a".endsWith "/.") = true := by decide +kernel
  have found : folder.read "a" = .ok largest := by
    unfold Folder.read
    rw [if_neg (by decide), if_neg (by decide), if_neg (by decide), named]
    simp [folder, notAbsolute, noFolder]
  have read : Rom.read folder "a" = .ok largest :=
    Rom.read_eq_ok_iff.mpr ⟨found, Nat.le_of_eq length⟩
  obtain ⟨refused, -, afterRead⟩ :=
    load_exact_and_never_refused_after_read processor (0 :: largest) folder options surroundings
  rw [tooLarge, if_pos (by decide)] at refused
  exact ⟨refused, read, afterRead largest read⟩

end Launch

end Chip8
