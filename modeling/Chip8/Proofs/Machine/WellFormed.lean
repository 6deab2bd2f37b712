import Chip8.Machine
import Chip8.Proofs.Bank.Block

/-!
Contract: the machines that a program can bring about.

Owns:
- the bounds which the types of a machine leave open, collected in `Machine.WellFormed`;
- that every operation from which instructions are made keeps them;
- `Machine.nextWord`, which a well-formed machine always fetches.

Does not own: restoring a machine, and what instructions do.
-/

namespace Chip8

/-- A number of twelve bits. -/
abbrev IsAddress (location : Int) : Prop := Bank.Holds 4096 location

/-- A number of eight bits. -/
abbrev IsByte (value : Int) : Prop := 0 ≤ value ∧ value < 256

theorem isAddress_emod (location : Int) : IsAddress (location % 4096) := by
  have notBelow := Int.emod_nonneg location (by decide : (4096 : Int) ≠ 0)
  have below := Int.emod_lt_of_pos location (by decide : (0 : Int) < 4096)
  exact ⟨notBelow, below⟩

theorem isAddress_val (address : Address) : IsAddress (address.val : Int) := by
  have below := address.isLt
  constructor <;> omega

theorem isAddress_glyph (digit : Nat) :
    IsAddress (Font.location + Font.glyphSize * (digit % 16 : Nat)) := by
  simp only [IsAddress, Bank.Holds, Font.location, Font.glyphSize]
  omega

theorem isByte_emod (value : Int) : IsByte (value % 256) :=
  ⟨Int.emod_nonneg value (by decide), Int.emod_lt_of_pos value (by decide)⟩

/-! ### Parts of a machine -/

namespace Bank

theorem byteOf_of_isByte {value : Int} (inside : IsByte value) :
    byteOf value = .ok (UInt8.ofNat value.toNat) :=
  if_pos inside

end Bank

namespace CallStack

variable {limit : Int}

/-- No more entries than the limit, each of them an address. -/
structure WellFormed (stack : CallStack limit) : Prop where
  depth_le : (stack.depth : Int) ≤ limit
  addresses : ∀ entry ∈ stack.entries, IsAddress entry

theorem WellFormed.empty (notNegative : 0 ≤ limit) : (empty : CallStack limit).WellFormed where
  depth_le := notNegative
  addresses := by simp [CallStack.empty]

theorem WellFormed.push {stack next : CallStack limit} {entry : Int} (wellFormed : stack.WellFormed)
    (inside : IsAddress entry) (pushed : stack.push entry = .ok next) : next.WellFormed := by
  unfold CallStack.push at pushed
  split at pushed
  · contradiction
  · rename_i room
    cases pushed
    refine ⟨?_, ?_⟩
    · simp only [depth, List.length_cons] at room ⊢
      omega
    · intro other member
      rcases List.mem_cons.mp member with rfl | older
      · exact inside
      · exact wellFormed.addresses other older

theorem WellFormed.pop {stack next : CallStack limit} {entry : Int} (wellFormed : stack.WellFormed)
    (popped : stack.pop = .ok (entry, next)) : IsAddress entry ∧ next.WellFormed := by
  obtain ⟨depth_le, addresses⟩ := wellFormed
  unfold CallStack.pop at popped
  split at popped
  · contradiction
  · rename_i newest rest entries
    cases popped
    simp only [depth, entries, List.length_cons] at depth_le
    refine ⟨addresses entry (by simp [entries]), ?_, ?_⟩
    · simp only [depth]
      omega
    · intro other member
      exact addresses other (by simp [entries, member])

end CallStack

namespace Timers

structure WellFormed (timers : Timers) : Prop where
  delay : IsByte timers.delay
  sound : IsByte timers.sound

theorem wellFormed_zero : zero.WellFormed :=
  ⟨by decide, by decide⟩

theorem isByte_countDown {value : Int} (inside : IsByte value) : IsByte (countDown value) := by
  unfold countDown
  split <;> constructor <;> omega

theorem WellFormed.tick {timers : Timers} (wellFormed : timers.WellFormed) :
    timers.tick.WellFormed :=
  ⟨isByte_countDown wellFormed.delay, isByte_countDown wellFormed.sound⟩

theorem WellFormed.setDelay {timers : Timers} (wellFormed : timers.WellFormed) (value : Int) :
    (timers.setDelay value).WellFormed :=
  ⟨isByte_emod value, wellFormed.sound⟩

theorem WellFormed.setSound {timers : Timers} (wellFormed : timers.WellFormed) (value : Int) :
    (timers.setSound value).WellFormed :=
  ⟨wellFormed.delay, isByte_emod value⟩

end Timers

namespace Display

variable {resolution : Resolution}

/-- Every pixel is either fully lit or dark. -/
def TwoValued (display : Display resolution) : Prop :=
  ∀ cell, display.pixels.get cell = lit ∨ display.pixels.get cell = dark

theorem twoValued_blank : (blank : Display resolution).TwoValued := by
  intro cell
  right
  simp [blank, Bank.blank, Bank.get, dark]

theorem TwoValued.flip {display : Display resolution} (twoValued : display.TwoValued) (x y : Int) :
    (display.flip x y).1.TwoValued := by
  intro cell
  by_cases same : cell = resolution.cell x y
  · subst same
    simp only [Display.flip, Bank.get_set_self]
    rcases twoValued (resolution.cell x y) with isLit | isDark
    · rw [isLit]
      decide
    · rw [isDark]
      decide
  · simp only [Display.flip, Bank.get_set_of_ne _ same]
    exact twoValued cell

theorem TwoValued.draw {display : Display resolution} (twoValued : display.TwoValued) (x y : Int)
    (rows : List Int) : (display.draw x y rows).1.TwoValued :=
  List.foldlRecOn (motive := fun (drawn : Display resolution × Bool) => drawn.1.TwoValued)
    (points x y rows) _ twoValued fun _ soFar point _ => soFar.flip point.1 point.2

end Display

namespace Keypad

/-- Every key has its flag. -/
abbrev Complete (keypad : Keypad) : Prop := keypad.down.length = 16

theorem Complete.isDown {keypad : Keypad} (complete : keypad.Complete) (key : Int) :
    ∃ down, keypad.isDown key = .ok down := by
  have inside : (key % 16).toNat < keypad.down.length := by omega
  unfold Keypad.isDown
  rw [List.getElem?_eq_getElem inside]
  exact ⟨_, rfl⟩

/-- Whether a key is down. -/
def holds (keypad : Keypad) (key : Key) : Bool :=
  keypad.down.getD key.val false

/-- What setting a key does where every key has its flag. -/
def switch (keypad : Keypad) (key : Key) (pressed : Bool) : Keypad :=
  { keypad with
    down := keypad.down.set key.val pressed
    latch :=
      if pressed && !keypad.holds key && keypad.armed && keypad.latch.isNone then some key
      else keypad.latch }

theorem Complete.switch {keypad : Keypad} (complete : keypad.Complete) (key : Key)
    (pressed : Bool) : (keypad.switch key pressed).Complete := by
  simp [Complete, Keypad.switch, complete]

theorem Complete.setKey {keypad : Keypad} (complete : keypad.Complete) (key : Key)
    (pressed : Bool) : keypad.setKey key pressed = .ok (keypad.switch key pressed) := by
  have hasFlag : key.val < keypad.down.length := by omega
  unfold Keypad.setKey Keypad.switch holds
  rw [List.getElem?_eq_getElem hasFlag, List.getD_eq_getElem?_getD,
    List.getElem?_eq_getElem hasFlag]
  rfl

theorem Complete.setKeyAt {keypad : Keypad} (complete : keypad.Complete) (key : Key)
    (pressed : Bool) : keypad.setKeyAt key.val pressed = .ok (keypad.switch key pressed) := by
  have isKey : keyOf key.val = .ok key := by
    have below := key.isLt
    unfold keyOf
    rw [dif_pos (by omega)]
    rfl
  unfold Keypad.setKeyAt
  rw [isKey]
  exact complete.setKey key pressed

theorem exists_key {key : Int} (inside : 0 ≤ key ∧ key < 16) : ∃ valid : Key, key = valid.val :=
  ⟨⟨key.toNat, by omega⟩, (Int.toNat_of_nonneg inside.1).symm⟩

theorem setKeyAt_of_outside (keypad : Keypad) {key : Int} (outside : ¬(0 ≤ key ∧ key < 16))
    (pressed : Bool) : keypad.setKeyAt key pressed = .error (.keyOutside key) := by
  unfold setKeyAt keyOf
  rw [dif_neg outside]
  rfl

end Keypad

/-! ### Whole machines -/

namespace Machine

structure WellFormed (machine : Machine) : Prop where
  index : IsAddress machine.index
  pc : IsAddress machine.pc
  stack : machine.stack.WellFormed
  timers : machine.timers.WellFormed
  display : machine.display.TwoValued
  keypad : machine.keypad.Complete

/-- Whatever is in memory, a machine whose other parts are as at the start is well-formed. -/
theorem wellFormed_start (ram : Bank 4096) :
    WellFormed ⟨ram, Vector.replicate 16 0, 0, programStart, CallStack.empty, Timers.zero,
      Display.blank, Keypad.released⟩ where
  index := (by decide : IsAddress 0)
  pc := (by decide : IsAddress programStart)
  stack := CallStack.WellFormed.empty (by decide)
  timers := Timers.wellFormed_zero
  display := Display.twoValued_blank
  keypad := List.length_replicate

theorem wellFormed_fresh : fresh.WellFormed :=
  wellFormed_start _

theorem wellFormed_reset (machine : Machine) : machine.reset.WellFormed :=
  wellFormed_start _

/-- A program that is not too large is put over the memory from the start of programs on. -/
theorem load_eq (machine : Machine) (program : List UInt8) :
    machine.load program =
      if programLimit < program.length then (machine, some (.programTooLarge program.length))
      else ({ machine with ram := machine.ram.overlay programStart program }, none) := by
  unfold load
  split
  · rfl
  · rename_i fits
    have lastInside : Bank.Holds 4096 (programStart + program.length - 1) := by
      simp only [Bank.Holds, programStart, programLimit, memorySize] at *
      omega
    rw [Bank.writeBlock_eq, if_pos lastInside, if_neg (by decide)]
    rfl

namespace WellFormed

variable {machine : Machine} (wellFormed : machine.WellFormed)

include wellFormed

theorem setRam (ram : Bank 4096) : { machine with ram := ram }.WellFormed :=
  { wellFormed with }

theorem setRegister (register : Register) (byte : UInt8) :
    (machine.setRegister register byte).WellFormed :=
  { wellFormed with }

theorem setFlag (flag : Bool) : (machine.setFlag flag).WellFormed :=
  wellFormed.setRegister Register.flag _

theorem setByteAt (location : Int) (byte : UInt8) : (machine.setByteAt location byte).WellFormed :=
  { wellFormed with }

theorem setIndex {index : Int} (inside : IsAddress index) :
    { machine with index := index }.WellFormed :=
  { wellFormed with index := inside }

theorem setPc {pc : Int} (inside : IsAddress pc) : { machine with pc := pc }.WellFormed :=
  { wellFormed with pc := inside }

theorem setDisplay {display : Display Resolution.standard} (twoValued : display.TwoValued) :
    { machine with display := display }.WellFormed :=
  { wellFormed with display := twoValued }

theorem advance : machine.advance.WellFormed :=
  wellFormed.setPc (isAddress_emod _)

theorem retreat : machine.retreat.WellFormed :=
  wellFormed.setPc (isAddress_emod _)

theorem tick : machine.tick.WellFormed :=
  { wellFormed with timers := wellFormed.timers.tick }

theorem setKeypad {keypad : Keypad} (complete : keypad.Complete) :
    { machine with keypad := keypad }.WellFormed :=
  { wellFormed with keypad := complete }

end WellFormed

/-! ### The word to be carried out next -/

def nextWord (machine : Machine) : Word :=
  Word.ofBytes (machine.byteAt machine.pc) (machine.byteAt (machine.pc + 1))

theorem fetch_of_isAddress {machine : Machine} (inside : IsAddress machine.pc) :
    machine.fetch = .ok machine.nextWord := by
  have sameByte : machine.ram.read machine.pc = .ok (machine.byteAt machine.pc) := by
    rw [Bank.read_of_holds machine.ram inside]
    congr 2
    apply Fin.ext
    exact (Address.wrap_of_lt inside.1 inside.2).symm
  unfold fetch
  rw [sameByte]
  rfl

/-- A word is fetched wherever the program counter is an address, and only there. -/
theorem fetch_eq_ok_iff {machine : Machine} {word : Word} :
    machine.fetch = .ok word ↔ IsAddress machine.pc ∧ machine.nextWord = word := by
  constructor
  · intro fetched
    by_cases inside : IsAddress machine.pc
    · rw [fetch_of_isAddress inside] at fetched
      exact ⟨inside, Except.ok.inj fetched⟩
    · unfold fetch at fetched
      rw [Bank.read_of_not_holds machine.ram inside] at fetched
      contradiction
  · rintro ⟨inside, rfl⟩
    exact fetch_of_isAddress inside

/-- Going past an instruction and back again is no move at all. -/
theorem retreat_advance {machine : Machine} (inside : IsAddress machine.pc) :
    machine.advance.retreat = machine := by
  have samePc : ((machine.pc + 2) % 4096 - 2) % 4096 = machine.pc := by
    obtain ⟨notBelow, below⟩ := inside
    omega
  simp only [advance, retreat, samePc]

end Machine

end Chip8
