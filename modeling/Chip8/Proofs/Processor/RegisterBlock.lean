import Chip8.Proofs.Processor.Frame

/-!
Contract: a row of registers is stored in memory and loaded back as it was.

Owns:
- `Bank.storeAll`, bytes stored one after the other, and which byte is left at an address;
- `Bank.storeRow`, bytes stored in a row with addresses counted around the end of memory;
- the storing and the loading of registers written as one such change of the memory or of the
  registers;
- `Machine.RegistersStored` and `Machine.RegistersLoaded`, what the two instructions bring about,
  with addresses that are counted around the end of memory;
- that each of the two undoes the other.

Does not own: what the stored bytes mean when they are carried out as instructions.
-/

namespace Chip8

/-! ### Bytes stored one after the other -/

namespace Bank

variable {size : Nat} {Item : Type}

/-- Stores the byte of every item at the place of the item. -/
def storeAll (bank : Bank size) (place : Item → Fin size) (byte : Item → UInt8)
    (items : List Item) : Bank size :=
  items.foldl (fun stored item => stored.set (place item) (byte item)) bank

/-- At an address stands the byte of an item that has its place there, or the byte from before if
there is no such item. -/
theorem get_storeAll (bank : Bank size) (place : Item → Fin size) (byte : Item → UInt8)
    (items : List Item) (address : Fin size) :
    (∃ item ∈ items, place item = address ∧
        (bank.storeAll place byte items).get address = byte item) ∨
      ((∀ item ∈ items, place item ≠ address) ∧
        (bank.storeAll place byte items).get address = bank.get address) := by
  induction items generalizing bank with
  | nil => exact Or.inr ⟨by simp, rfl⟩
  | cons item later inductionHypothesis =>
    -- what is stored later wins, so the rest of the list decides first
    rcases inductionHypothesis (bank.set (place item) (byte item)) with
      ⟨other, member, here, stored⟩ | ⟨elsewhere, kept⟩
    · exact Or.inl ⟨other, List.mem_cons_of_mem item member, here, stored⟩
    · by_cases here : place item = address
      · subst here
        exact Or.inl ⟨item, List.mem_cons_self, rfl, kept.trans (get_set_self bank _ _)⟩
      · right
        refine ⟨?_, kept.trans (get_set_of_ne bank (Ne.symm here) _)⟩
        rw [List.forall_mem_cons]
        exact ⟨here, elsewhere⟩

variable {bank : Bank size} {place : Item → Fin size} {byte : Item → UInt8} {items : List Item}

theorem get_storeAll_of_mem {item : Item} (member : item ∈ items)
    (agree : ∀ other ∈ items, place other = place item → byte other = byte item) :
    (bank.storeAll place byte items).get (place item) = byte item := by
  rcases get_storeAll bank place byte items (place item) with
    ⟨other, otherMember, here, stored⟩ | ⟨elsewhere, -⟩
  · exact stored.trans (agree other otherMember here)
  · exact absurd rfl (elsewhere item member)

theorem get_storeAll_of_ne {address : Fin size} (elsewhere : ∀ item ∈ items, place item ≠ address) :
    (bank.storeAll place byte items).get address = bank.get address := by
  rcases get_storeAll bank place byte items address with ⟨item, member, here, -⟩ | ⟨-, kept⟩
  · exact absurd here (elsewhere item member)
  · exact kept

end Bank

/-! ### Rows of bytes -/

/-- Addresses in a row are different ones, also around the end of memory. -/
theorem Address.wrap_add_inj {count : Nat} (few : count ≤ 0x1000) {index : Int}
    {left right : Fin count}
    (same : Address.wrap (index + left.val) = Address.wrap (index + right.val)) : left = right := by
  have sameNumber := congrArg Fin.val same
  have leftBelow := left.isLt
  have rightBelow := right.isLt
  simp only [Address.wrap] at sameNumber
  apply Fin.ext
  omega

namespace Bank

variable {count : Nat}

/-- Stores the bytes of some places in a row that begins at an index. -/
def storeRow (bank : Bank 4096) (index : Int) (byte : Fin count → UInt8)
    (places : List (Fin count)) : Bank 4096 :=
  bank.storeAll (fun place => Address.wrap (index + place.val)) byte places

variable {bank : Bank 4096} {index : Int} {byte : Fin count → UInt8} {places : List (Fin count)}

theorem get_storeRow_of_mem (few : count ≤ 0x1000) {place : Fin count} (member : place ∈ places) :
    (bank.storeRow index byte places).get (Address.wrap (index + place.val)) = byte place := by
  apply get_storeAll_of_mem member
  intro other _ same
  rw [Address.wrap_add_inj few same]

theorem get_storeRow_of_not_reaches {last : Nat} (notBeyond : ∀ place ∈ places, place.val ≤ last)
    {address : Address} (notReached : ¬Word.Reaches index last address) :
    (bank.storeRow index byte places).get address = bank.get address := by
  apply get_storeAll_of_ne
  rintro place member rfl
  exact notReached (Word.reaches_wrap (notBeyond place member))

end Bank

theorem Word.exists_register_of_reaches {index : Int} {last : Register} {address : Address}
    (reached : Reaches index last.val address) :
    ∃ register ≤ last, Address.wrap (index + register.val) = address := by
  obtain ⟨offset, notBeyond, there⟩ := reached
  have below := last.isLt
  refine ⟨⟨offset, by omega⟩, notBeyond, ?_⟩
  apply Fin.ext
  simp only [Address.wrap]
  omega

/-! ### Registers and memory -/

namespace Machine

variable {before after : Machine} {last : Register}

/-- In `after` the registers up to `last` stand in memory, from the index on. -/
structure RegistersStored (last : Register) (before after : Machine) : Prop where
  stored : ∀ register ≤ last,
    after.byteAt (before.index + register.val) = before.register register
  elsewhere : ∀ address, ¬Word.Reaches before.index last.val address →
    after.ram.get address = before.ram.get address
  index : after.index = before.index
  registers : after.registers = before.registers

/-- In `after` the registers up to `last` hold what stands in memory from the index on. -/
structure RegistersLoaded (last : Register) (before after : Machine) : Prop where
  loaded : ∀ register ≤ last,
    after.register register = before.byteAt (before.index + register.val)
  above : ∀ register > last, after.register register = before.register register
  index : after.index = before.index
  ram : after.ram = before.ram

/-- Registers that were stored are loaded back, whatever has become of them in between. -/
theorem RegistersStored.load {later loaded : Machine} (saved : RegistersStored last before after)
    (sameRam : later.ram = after.ram) (sameIndex : later.index = after.index)
    (load : RegistersLoaded last later loaded) {register : Register} (inRow : register ≤ last) :
    loaded.register register = before.register register := by
  calc loaded.register register
    _ = later.byteAt (later.index + register.val) := load.loaded register inRow
    _ = after.byteAt (before.index + register.val) := by
      rw [sameIndex, saved.index, byteAt, byteAt, sameRam]
    _ = before.register register := saved.stored register inRow

/-- Registers that were loaded are stored where they came from. -/
theorem RegistersLoaded.store {later stored : Machine} (load : RegistersLoaded last before after)
    (sameRam : later.ram = after.ram) (sameIndex : later.index = after.index)
    (sameRegisters : later.registers = after.registers)
    (save : RegistersStored last later stored) : stored.ram = before.ram := by
  have laterRam : later.ram = before.ram := sameRam.trans load.ram
  have laterIndex : later.index = before.index := sameIndex.trans load.index
  apply Bank.ext_get
  intro address
  by_cases reached : Word.Reaches before.index last.val address
  · obtain ⟨number, inRow, rfl⟩ := Word.exists_register_of_reaches reached
    calc stored.ram.get (Address.wrap (before.index + number.val))
      _ = stored.byteAt (later.index + number.val) := by rw [laterIndex, byteAt]
      _ = later.register number := save.stored number inRow
      _ = after.register number := by rw [register, register, sameRegisters]
      _ = before.byteAt (before.index + number.val) := load.loaded number inRow
  · rw [← laterIndex] at reached
    rw [save.elsewhere address reached, laterRam]

/-- The places are counted from the index, which no byte stored on the way changes. -/
theorem foldl_setByteAt (machine : Machine) (registers : List Register) :
    registers.foldl (fun (machine : Machine) (register : Register) =>
        machine.setByteAt (machine.index + register.val) (machine.register register)) machine =
      { machine with
        ram := machine.ram.storeRow machine.index machine.register registers } := by
  induction registers generalizing machine with
  | nil => rfl
  | cons register later inductionHypothesis => exact inductionHypothesis _

/-- The registers taken as a bank of sixteen bytes. -/
theorem foldl_setRegister (machine : Machine) (registers : List Register) :
    registers.foldl (fun (machine : Machine) (register : Register) =>
        machine.setRegister register (machine.byteAt (machine.index + register.val))) machine =
      { machine with
        registers := ((⟨machine.registers⟩ : Bank 16).storeAll id
          (fun register => machine.byteAt (machine.index + register.val)) registers).bytes } := by
  induction registers generalizing machine with
  | nil => rfl
  | cons register later inductionHypothesis => exact inductionHypothesis _

end Machine

/-! ### The two instructions -/

namespace Processor

open Machine (RegistersStored RegistersLoaded)

theorem mem_registersUpTo {register last : Register} :
    register ∈ registersUpTo last ↔ register ≤ last := by
  simp [registersUpTo]

theorem saveRegisters_eq (processor : Processor) (last : Register) :
    processor.saveRegisters last = processor.withMachine { processor.machine with
      ram := processor.machine.ram.storeRow processor.machine.index processor.machine.register
        (registersUpTo last) } :=
  congrArg processor.withMachine (Machine.foldl_setByteAt _ _)

theorem loadRegisters_eq (processor : Processor) (last : Register) :
    processor.loadRegisters last = processor.withMachine { processor.machine with
      registers := ((⟨processor.machine.registers⟩ : Bank 16).storeAll id
        (fun register => processor.machine.byteAt (processor.machine.index + register.val))
        (registersUpTo last)).bytes } :=
  congrArg processor.withMachine (Machine.foldl_setRegister _ _)

theorem registersStored_saveRegisters (processor : Processor) (last : Register) :
    RegistersStored last processor.machine (processor.saveRegisters last).machine := by
  rw [saveRegisters_eq]
  refine ⟨?_, ?_, rfl, rfl⟩
  · intro register inRow
    exact Bank.get_storeRow_of_mem (by decide) (mem_registersUpTo.mpr inRow)
  · intro address notReached
    exact Bank.get_storeRow_of_not_reaches (fun _ => mem_registersUpTo.mp) notReached

theorem registersLoaded_loadRegisters (processor : Processor) (last : Register) :
    RegistersLoaded last processor.machine (processor.loadRegisters last).machine := by
  rw [loadRegisters_eq]
  refine ⟨?_, ?_, rfl, rfl⟩
  · intro register inRow
    refine Bank.get_storeAll_of_mem (mem_registersUpTo.mpr inRow) ?_
    rintro other - rfl
    rfl
  · intro register above
    refine Bank.get_storeAll_of_ne ?_
    rintro other member rfl
    exact absurd (mem_registersUpTo.mp member) (Fin.not_le.mpr above)

section Steps

variable {processor : Processor} {word : Word} {x : Register}
  (running : processor.status = .running) (fetched : processor.machine.fetch = .ok word)

include running fetched

theorem registersStored_step (isSave : word.WithByte 0xF x 0x55) :
    processor.step.fault = none ∧
      RegistersStored x processor.machine processor.step.processor.machine := by
  obtain ⟨inside, rfl⟩ := Machine.fetch_eq_ok_iff.mp fetched
  have stepped : processor.step =
      ⟨processor.pastFetch.saveRegisters x, processor.traceLine, none⟩ :=
    step_of_encoded (.saveRegisters x) running inside rfl isSave rfl
  rw [stepped]
  have saved := registersStored_saveRegisters processor.pastFetch x
  exact ⟨rfl, saved.stored, saved.elsewhere, saved.index, saved.registers⟩

theorem registersLoaded_step (isLoad : word.WithByte 0xF x 0x65) :
    processor.step.fault = none ∧
      RegistersLoaded x processor.machine processor.step.processor.machine := by
  obtain ⟨inside, rfl⟩ := Machine.fetch_eq_ok_iff.mp fetched
  have stepped : processor.step =
      ⟨processor.pastFetch.loadRegisters x, processor.traceLine, none⟩ :=
    step_of_encoded (.loadRegisters x) running inside rfl isLoad rfl
  rw [stepped]
  have load := registersLoaded_loadRegisters processor.pastFetch x
  exact ⟨rfl, load.loaded, load.above, load.index, load.ram⟩

end Steps

/-- The registers up to one go to memory, from the index on and around its end, and nothing else in
memory changes; the word that loads them brings them back, whatever the registers hold by then and
wherever that word stands, be it among the bytes just stored. Loading and then storing leaves the
memory as it was. -/
theorem stored_registers_load_back {processor : Processor} (reachable : Reachable processor)
    (running : processor.status = .running) (x : Register) :
    let before := processor.machine
    let after := processor.step.processor.machine
    (before.nextWord.WithByte 0xF x 0x55 →
      processor.step.fault = none ∧ RegistersStored x before after ∧
        ∀ (later : Processor) (word : Word), later.status = .running →
          later.machine.fetch = .ok word → word.WithByte 0xF x 0x65 →
          later.machine.ram = after.ram → later.machine.index = after.index →
            let loaded := later.step.processor.machine
            later.step.fault = none ∧
              (∀ register ≤ x, loaded.register register = before.register register) ∧
              (∀ register > x, loaded.register register = later.machine.register register) ∧
              loaded.ram = later.machine.ram ∧ loaded.index = later.machine.index) ∧
      (before.nextWord.WithByte 0xF x 0x65 →
        processor.step.fault = none ∧
          ∀ (later : Processor) (word : Word), later.status = .running →
            later.machine.fetch = .ok word → word.WithByte 0xF x 0x55 →
            later.machine.ram = after.ram → later.machine.index = after.index →
            later.machine.registers = after.registers →
              later.step.fault = none ∧ later.step.processor.machine.ram = before.ram) := by
  intro before after
  have fetched : processor.machine.fetch = .ok before.nextWord :=
    Machine.fetch_of_isAddress reachable.sound.machine.pc
  constructor
  · intro isSave
    obtain ⟨noFault, saved⟩ := registersStored_step running fetched isSave
    refine ⟨noFault, saved, ?_⟩
    intro later word laterRunning laterFetched isLoad sameRam sameIndex loaded
    obtain ⟨laterNoFault, load⟩ := registersLoaded_step laterRunning laterFetched isLoad
    exact ⟨laterNoFault, fun _ inRow => saved.load sameRam sameIndex load inRow, load.above,
      load.ram, load.index⟩
  · intro isLoad
    obtain ⟨noFault, load⟩ := registersLoaded_step running fetched isLoad
    refine ⟨noFault, ?_⟩
    intro later word laterRunning laterFetched isSave sameRam sameIndex sameRegisters
    obtain ⟨laterNoFault, save⟩ := registersStored_step laterRunning laterFetched isSave
    exact ⟨laterNoFault, load.store sameRam sameIndex sameRegisters save⟩

/-- Four registers are stored around the end of memory, over the word behind the one that stores
them; the word they put there is the one that loads them back. Another program loads four registers
from the font and stores them again. -/
theorem stored_registers_load_back_around_end :
    let saving := (start false false ⟨fun _ => 0, 0⟩).performAll
      [.load [0x60, 0xF3, 0x61, 0x55, 0xAF, 0xFC, 0xF1, 0x55, 0x61, 0x65, 0xAF, 0xFE, 0x1F, 0xFC],
        .step, .step, .step, .step, .step, .step, .step]
    let saved := saving.step.processor
    let changed := saved.withMachine
      { saved.machine with registers := Vector.replicate 16 0xAA }
    let loaded := changed.step.processor.machine
    let loading := (start false false ⟨fun _ => 0, 0⟩).performAll [.load [0xF3, 0x65, 0xF3, 0x55]]
    let storing := loading.step.processor
    Reachable saving ∧ saving.machine.nextWord = 0xF355 ∧ saving.machine.index = 0xFFE ∧
      changed.machine.fetch = .ok 0xF365 ∧
      loaded.register 0 = 0xF3 ∧ loaded.register 1 = 0x65 ∧ loaded.register 3 = 0x00 ∧
      loaded.register 4 = 0xAA ∧ loaded.ram = saved.machine.ram ∧
      Reachable loading ∧ loading.machine.nextWord = 0xF365 ∧
      storing.machine.fetch = .ok 0xF355 ∧
      storing.step.processor.machine.ram = loading.machine.ram := by
  intro saving saved changed loaded loading storing
  have fresh := Reachable.start false false ⟨fun _ => 0, 0⟩
  have reachable : Reachable saving := fresh.performAll _
  have loadingReachable : Reachable loading := fresh.performAll _
  have here : saving.status = .running ∧ saving.machine.nextWord = 0xF355 ∧
      saving.machine.index = 0xFFE ∧ changed.status = .running ∧
      changed.machine.nextWord = 0xF365 ∧ changed.machine.pc = 0xFFE := by
    decide +kernel
  have values : saving.machine.register 0 = 0xF3 ∧ saving.machine.register 1 = 0x65 ∧
      saving.machine.register 3 = 0x00 := by
    decide +kernel
  have there : loading.status = .running ∧ loading.machine.nextWord = 0xF365 ∧
      storing.status = .running ∧ storing.machine.nextWord = 0xF355 := by
    decide +kernel
  obtain ⟨running, word, index, stillRunning, nextWord, pc⟩ := here
  obtain ⟨loadingRuns, loadingWord, storingRuns, storingWord⟩ := there
  clear_value saving loading
  have storingReachable : Reachable storing := loadingReachable.perform .step
  have fetched : changed.machine.fetch = .ok 0xF365 :=
    Machine.fetch_eq_ok_iff.mpr ⟨by rw [pc]; decide, nextWord⟩
  have isSave : saving.machine.nextWord.WithByte 0xF 3 0x55 := by
    rw [word]
    exact ⟨rfl, rfl, rfl⟩
  have isLoad : (0xF365 : Word).WithByte 0xF 3 0x65 := ⟨rfl, rfl, rfl⟩
  have storingFetched : storing.machine.fetch = .ok 0xF355 :=
    Machine.fetch_eq_ok_iff.mpr ⟨storingReachable.sound.machine.pc, storingWord⟩
  have loadsFirst : loading.machine.nextWord.WithByte 0xF 3 0x65 := by
    rw [loadingWord]
    exact isLoad
  -- said of any processor, since the step that leads to this one would be unfolded
  have kept : ∀ (processor : Processor) (registers : Vector UInt8 16),
      let changed := processor.withMachine { processor.machine with registers }
      changed.machine.ram = processor.machine.ram ∧
        changed.machine.index = processor.machine.index :=
    fun _ _ => ⟨rfl, rfl⟩
  obtain ⟨keptRam, keptIndex⟩ := kept saved (Vector.replicate 16 0xAA)
  obtain ⟨-, -, loadsBack⟩ := (stored_registers_load_back reachable running 3).1 isSave
  obtain ⟨-, restored, above, sameRam, -⟩ :=
    loadsBack changed 0xF365 stillRunning fetched isLoad keptRam keptIndex
  obtain ⟨-, storesBack⟩ := (stored_registers_load_back loadingReachable loadingRuns 3).2 loadsFirst
  obtain ⟨-, asBefore⟩ :=
    storesBack storing 0xF355 storingRuns storingFetched ⟨rfl, rfl, rfl⟩ rfl rfl rfl
  refine ⟨reachable, word, index, fetched, ?_, ?_, ?_, ?_, sameRam, loadingReachable, loadingWord,
    storingFetched, asBefore⟩
  · exact (restored 0 (by decide)).trans values.1
  · exact (restored 1 (by decide)).trans values.2.1
  · exact (restored 3 (by decide)).trans values.2.2
  · exact above 4 (by decide)

end Processor

end Chip8
