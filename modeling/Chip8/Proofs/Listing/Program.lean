import Chip8.Listing
import Chip8.Proofs.Processor.Disassembly
import Chip8.Proofs.Processor.Reachable

/-!
Contract: a listing tells the bytes it was made from, and of a program in memory what the processor
carries out.

Owns:
- `Listing.pairs`, the same lines read off the bytes two at a time, and that a listing from any
  offset is made of these and never ends early;
- `Line.bytes`, and that the lines of a listing give back the bytes;
- that the words of a loaded program are the ones fetched and decoded at the addresses of its lines.

Does not own: what a program does to its own memory while it runs.
-/

namespace Chip8

namespace Line

/-- The line of two bytes that follow each other. -/
def ofBytes (address : Int) (high low : UInt8) : Line where
  address := address
  word := (Word.ofBytes high low).toNat
  text := (Instruction.decode (Word.ofBytes high low)).mnemonic

/-- The word of a line as two bytes, the upper one first. -/
def bytes (line : Line) : List UInt8 :=
  [UInt8.ofNat (line.word / 256).toNat, UInt8.ofNat (line.word % 256).toNat]

theorem bytes_ofBytes (address : Int) (high low : UInt8) :
    (ofBytes address high low).bytes = [high, low] := by
  have highSmall := high.toNat_lt
  have lowSmall := low.toNat_lt
  have word : (ofBytes address high low).word = (high.toNat * 256 + low.toNat : Nat) :=
    congrArg Int.ofNat (Word.toNat_ofBytes high low)
  have upper : ((ofBytes address high low).word / 256).toNat = high.toNat := by
    omega
  have lower : ((ofBytes address high low).word % 256).toNat = low.toNat := by
    omega
  rw [bytes, upper, lower, UInt8.ofNat_toNat, UInt8.ofNat_toNat]

end Line

namespace Listing

/-- The lines of bytes read two at a time, the first of them at an address. -/
def pairs (address : Int) : List UInt8 → List Line
  | [] | [_] => []
  | high :: low :: rest => Line.ofBytes address high low :: pairs (address + 2) rest

/-! ### The lines of a block of bytes -/

theorem byteAt_natCast (data : Array UInt8) (offset : Nat) :
    byteAt data offset = data[offset]? := by
  unfold byteAt
  rw [if_neg (by omega), if_neg (by omega), Int.toNat_natCast]

theorem lineAt_of_drop {data : Array UInt8} {base : Int} {offset : Nat} {high low : UInt8}
    {rest : List UInt8} (bytes : data.toList.drop offset = high :: low :: rest) :
    lineAt data base offset = some (Line.ofBytes (base + offset) high low) := by
  have first : data[offset]? = some high := by
    rw [← Array.getElem?_toList, ← List.head?_drop, bytes, List.head?_cons]
  have second : data[offset + 1]? = some low := by
    rw [← Array.getElem?_toList, ← List.head?_drop, ← List.tail_drop, bytes, List.tail_cons,
      List.head?_cons]
  have next : ((offset : Int) + 1) = ((offset + 1 : Nat) : Int) := by
    omega
  unfold lineAt
  rw [next, byteAt_natCast, byteAt_natCast, first, second]
  rfl

/-- As many lines as there are pairs of bytes left reach neither too far nor too short. -/
theorem linesFrom_eq_pairs {data : Array UInt8} {base : Int} {count offset : Nat}
    (pairsLeft : (data.size - offset) / 2 = count) :
    linesFrom data base count offset = ⟨pairs (base + offset) (data.toList.drop offset), none⟩ := by
  induction count generalizing offset with
  | zero =>
    have short : (data.toList.drop offset).length < 2 := by
      rw [List.length_drop, Array.length_toList]
      omega
    match data.toList.drop offset, short with
    | [], _ => rfl
    | [_], _ => rfl
  | succ count inductionHypothesis =>
    have long : 2 ≤ (data.toList.drop offset).length := by
      rw [List.length_drop, Array.length_toList]
      omega
    match bytes : data.toList.drop offset, long with
    | high :: low :: rest, _ =>
      have later : data.toList.drop (offset + 2) = rest := by
        rw [← List.drop_drop, bytes]
        rfl
      have next : ((offset : Int) + 2) = ((offset + 2 : Nat) : Int) := by
        omega
      have address : base + (offset : Int) + 2 = base + ((offset + 2 : Nat) : Int) := by
        omega
      rw [linesFrom, lineAt_of_drop bytes, next, inductionHypothesis (by omega), later, pairs,
        address]

theorem ofBytes_eq_pairs (data : Array UInt8) (start : Nat) (base : Int) :
    ofBytes data start base = ⟨pairs (base + start) (data.toList.drop start), none⟩ := by
  have count : (((data.size : Int) - start) / 2).toNat = (data.size - start) / 2 := by
    omega
  rw [ofBytes, count]
  exact linesFrom_eq_pairs rfl

/-! ### What the lines tell -/

theorem length_pairs (address : Int) (bytes : List UInt8) :
    (pairs address bytes).length = bytes.length / 2 := by
  fun_induction pairs address bytes with
  | case1 => rfl
  | case2 => simp
  | case3 address high low rest inductionHypothesis =>
    rw [List.length_cons, inductionHypothesis, List.length_cons, List.length_cons]
    omega

/-- Lines from an even number of bytes on are the same as without the lines before. -/
theorem pairs_drop (address : Int) (bytes : List UInt8) (count : Nat) :
    pairs (address + 2 * count) (bytes.drop (2 * count)) = (pairs address bytes).drop count := by
  induction count generalizing address bytes with
  | zero => simp
  | succ count inductionHypothesis =>
    match bytes with
    | [] => simp [pairs]
    | [single] => simp [pairs, Nat.mul_succ]
    | high :: low :: rest =>
      have shifted : address + 2 * ((count + 1 : Nat) : Int) = address + 2 + 2 * count := by
        omega
      rw [pairs, List.drop_succ_cons, ← inductionHypothesis, shifted, Nat.mul_succ]
      rfl

theorem getElem?_pairs {address : Int} {bytes : List UInt8} {count : Nat} {line : Line}
    (found : (pairs address bytes)[count]? = some line) :
    ∃ high low, bytes[2 * count]? = some high ∧ bytes[2 * count + 1]? = some low ∧
      line = Line.ofBytes (address + 2 * count) high low := by
  rw [← List.head?_drop, ← pairs_drop] at found
  match left : bytes.drop (2 * count) with
  | [] =>
    rw [left] at found
    contradiction
  | [single] =>
    rw [left] at found
    contradiction
  | high :: low :: rest =>
    rw [left] at found
    refine ⟨high, low, ?_, ?_, (Option.some.inj found).symm⟩
    · rw [← List.head?_drop, left, List.head?_cons]
    · rw [← List.head?_drop, ← List.tail_drop, left, List.tail_cons, List.head?_cons]

theorem flatMap_bytes_pairs (address : Int) (bytes : List UInt8) :
    (pairs address bytes).flatMap Line.bytes = bytes.take (2 * (bytes.length / 2)) := by
  fun_induction pairs address bytes with
  | case1 => rfl
  | case2 => simp
  | case3 address high low rest inductionHypothesis =>
    have more : 2 * ((high :: low :: rest).length / 2) = 2 * (rest.length / 2) + 1 + 1 := by
      rw [List.length_cons, List.length_cons]
      omega
    rw [List.flatMap_cons, Line.bytes_ofBytes, inductionHypothesis, more, List.take_succ_cons,
      List.take_succ_cons]
    rfl

theorem word_of_mem_pairs {address : Int} {bytes : List UInt8} {line : Line}
    (member : line ∈ pairs address bytes) : ∃ word : Word, line.word = word.toNat := by
  obtain ⟨count, found⟩ := List.mem_iff_getElem?.mp member
  obtain ⟨high, low, -, -, rfl⟩ := getElem?_pairs found
  exact ⟨Word.ofBytes high low, rfl⟩

end Listing

/-! ### The words of a loaded program -/

namespace Processor

theorem word_complete (processor : Processor) : processor.complete.1.word = processor.word := by
  unfold complete
  dsimp only
  split
  · rename_i next done
    generalize Instruction.decode processor.word = instruction at done
    cases carried_of_execute done <;> rfl
  · rfl
  · rfl

/-- The word at the program counter is fetched, and a step of a running processor decodes this
word and carries out what it stands for. -/
structure Executes (processor : Processor) (word : Word) : Prop where
  fetched : processor.machine.fetch = .ok word
  decoded : processor.status = .running → processor.step.processor.word = word
  completed : processor.status = .running →
    processor.step.processor = (processor.given word).complete.1 ∧
      processor.step.fault = (processor.given word).complete.2

theorem executes_of_fetch {processor : Processor} {word : Word}
    (fetched : processor.machine.fetch = .ok word) : processor.Executes word where
  fetched := fetched
  decoded := by
    intro running
    rw [(step_eq_complete_given running fetched).1, word_complete]
    rfl
  completed := fun running => step_eq_complete_given running fetched

/-- Two bytes of a program are fetched together where they stand in memory. -/
theorem fetch_of_loaded {machine : Machine} {ram : Bank 4096} {program : List UInt8} {place : Nat}
    {high low : UInt8} (fits : program.length ≤ programLimit)
    (first : program[place]? = some high) (second : program[place + 1]? = some low)
    (loaded : machine.ram = ram.overlay programStart program)
    (there : machine.pc = programStart + place) :
    machine.fetch = .ok (Word.ofBytes high low) := by
  obtain ⟨inside, -⟩ := List.getElem?_eq_some_iff.mp second
  have byteThere : ∀ {offset : Nat} {byte : UInt8}, offset ≤ 1 →
      program[place + offset]? = some byte → machine.byteAt (machine.pc + offset) = byte := by
    intro offset byte near found
    rw [Machine.byteAt, loaded]
    refine ram.get_overlay_of_getElem? found ?_
    rw [there]
    simp only [Address.wrap, programStart, programLimit, memorySize] at *
    omega
  have isAddress : IsAddress machine.pc := by
    rw [there]
    simp only [IsAddress, Bank.Holds, programStart, programLimit, memorySize] at *
    omega
  have upper := byteThere (Nat.zero_le 1) first
  have lower := byteThere (Nat.le_refl 1) second
  rw [Int.natCast_zero, Int.add_zero] at upper
  rw [Machine.fetch_of_isAddress isAddress, Machine.nextWord, upper]
  exact congrArg (fun byte => Except.ok (Word.ofBytes high byte)) lower

/-- Listed from its start, a program that was loaded has a line for every whole pair of bytes, and
a processor that comes to the address of a line fetches, decodes and carries out the word that the
line shows. The lines of any data give back its bytes from the offset asked for up to the last whole
pair, and listing from a later pair on leaves out the lines before it. -/
theorem listing_tells_executed_words (processor : Processor) {program : List UInt8}
    (fits : program.length ≤ 0xE00) :
    let loading := processor.perform (.load program)
    let listing := Listing.ofBytes program.toArray 0 0x200
    (loading.2 = none ∧ listing.fault = none ∧ listing.lines.length = program.length / 2 ∧
      ∀ (count : Nat) (line : Line), listing.lines[count]? = some line →
        line.address = 0x200 + 2 * count ∧
          ∃ word : Word, line.word = word.toNat ∧
            line.text = (Instruction.decode word).mnemonic ∧
            ∀ there : Processor, there.machine.ram = loading.1.machine.ram →
              there.machine.pc = line.address → there.Executes word) ∧
      ∀ (data : Array UInt8) (start : Nat) (base : Int),
        let listed := Listing.ofBytes data start base
        listed.fault = none ∧
          (∀ line ∈ listed.lines, ∃ word : Word, line.word = word.toNat) ∧
          listed.lines.flatMap Line.bytes =
            (data.toList.drop start).take (2 * ((data.size - start) / 2)) ∧
          ∀ count : Nat, Listing.ofBytes data (start + 2 * count) base =
            ⟨listed.lines.drop count, none⟩ := by
  intro loading listing
  have lines : listing = ⟨Listing.pairs 0x200 program, none⟩ :=
    Listing.ofBytes_eq_pairs program.toArray 0 0x200
  have isLoaded : loading = (processor.withMachine { processor.machine with
      ram := processor.machine.ram.overlay programStart program }, none) := by
    have notTooLarge : ¬programLimit < program.length := Nat.not_lt.mpr fits
    unfold loading
    rw [perform_load_eq, if_neg notTooLarge]
  rw [lines, isLoaded]
  refine ⟨⟨rfl, rfl, Listing.length_pairs _ _, ?_⟩, ?_⟩
  · intro count line found
    obtain ⟨high, low, first, second, rfl⟩ := Listing.getElem?_pairs found
    refine ⟨rfl, Word.ofBytes high low, rfl, rfl, ?_⟩
    intro there sameMemory atLine
    exact executes_of_fetch (fetch_of_loaded fits first second sameMemory atLine)
  · intro data start base listed
    have isListed : listed = ⟨Listing.pairs (base + start) (data.toList.drop start), none⟩ :=
      Listing.ofBytes_eq_pairs data start base
    rw [isListed]
    refine ⟨rfl, fun line member => Listing.word_of_mem_pairs member, ?_, ?_⟩
    · rw [Listing.flatMap_bytes_pairs, List.length_drop, Array.length_toList]
    · intro count
      have later := Listing.ofBytes_eq_pairs data (start + 2 * count) base
      have address : base + ((start + 2 * count : Nat) : Int) = base + start + 2 * count := by
        omega
      rw [address, ← List.drop_drop, Listing.pairs_drop] at later
      exact later

/-- The last line of a program that fills the memory, on a processor that waits for a key. -/
theorem listing_tells_executed_words_at_end :
    let processor := (start true false ⟨fun _ => 0, 0⟩).performAll [.load [0xF3, 0x0A], .step]
    let program := List.replicate 0xDFE 0x00 ++ [0xAB, 0xCD]
    let listing := Listing.ofBytes program.toArray 0 0x200
    processor.status = .awaitingKey 3 ∧ program.length ≤ 0xE00 ∧ listing.lines.length = 0x700 ∧
      ∃ line : Line, listing.lines[0x6FF]? = some line ∧ line.address = 0xFFE ∧
        ∃ word : Word, line.word = word.toNat ∧
          line.text = (Instruction.decode word).mnemonic ∧
          ∀ there : Processor,
            there.machine.ram = (processor.perform (.load program)).1.machine.ram →
            there.machine.pc = 0xFFE → there.Executes word := by
  intro processor program listing
  have status : processor.status = .awaitingKey 3 := by decide +kernel
  have size : program.length = 0xE00 := by
    rw [List.length_append, List.length_replicate]
    rfl
  have fits : program.length ≤ 0xE00 := Nat.le_of_eq size
  obtain ⟨⟨-, -, count, words⟩, -⟩ := listing_tells_executed_words processor fits
  rw [size] at count
  have inside : 0x6FF < listing.lines.length := by
    rw [count]
    decide
  have found := List.getElem?_eq_getElem inside
  obtain ⟨address, executed⟩ := words _ _ found
  rw [address] at executed
  exact ⟨status, fits, count, _, found, address, executed⟩

end Processor

end Chip8
