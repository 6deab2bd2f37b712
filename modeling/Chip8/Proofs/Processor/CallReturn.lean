import Chip8.Proofs.Processor.Frame
import Chip8.Proofs.Processor.Halt

/-!
Contract: calls and returns match along every course of operations.

Owns:
- `Processor.course`, the processors that operations lead through;
- `Processor.StackMove`, the three things that an operation other than a reset can do to the calls
  in progress;
- that a call in progress stays as it is until the depth falls below it, and that the return that
  ends it goes back behind the word that made it.

Does not own: what a call on a full stack and a return on an empty one lead to.
-/

namespace Chip8

namespace Processor

/-- The processor before operations and after each of them. -/
def course (processor : Processor) : List Operation → List Processor
  | [] => [processor]
  | operation :: later => processor :: (processor.perform operation).1.course later

theorem performAll_mem_course (processor : Processor) (operations : List Operation) :
    processor.performAll operations ∈ processor.course operations := by
  induction operations generalizing processor with
  | nil => exact List.mem_singleton_self _
  | cons operation later inductionHypothesis =>
    exact List.mem_cons_of_mem _ (inductionHypothesis (processor.perform operation).1)

/-- The next step carries out a call. -/
def Calls (processor : Processor) : Prop :=
  processor.status = .running ∧ processor.machine.nextWord.family = 0x2

/-- The next step carries out a return. -/
def Returns (processor : Processor) : Prop :=
  processor.status = .running ∧ processor.machine.nextWord = 0x00EE

/-! ### One operation -/

/-- What an operation does to the calls in progress. -/
inductive StackMove (before : Processor) : Operation → Processor → Prop where
  | kept {operation : Operation} {after : Processor}
    (same : after.machine.stack = before.machine.stack) : StackMove before operation after
  | called {after : Processor} (calls : before.Calls)
    (pushed : after.machine.stack.entries =
      (before.machine.pc + 2) % 4096 :: before.machine.stack.entries) :
    StackMove before .step after
  | returned {after : Processor} (returns : before.Returns)
    (popped : before.machine.stack.entries =
      after.machine.pc :: after.machine.stack.entries) : StackMove before .step after

theorem entries_of_callTo {processor next : Processor} {target : Address}
    (done : processor.callTo target = .ok next) :
    next.machine.stack.entries = processor.machine.pc :: processor.machine.stack.entries := by
  unfold callTo CallStack.push at done
  split at done
  · contradiction
  · rename_i stack pushed
    split at pushed
    · contradiction
    · cases pushed
      cases done
      rfl

theorem entries_of_returnFromCall {processor next : Processor}
    (done : processor.returnFromCall = .ok next) :
    processor.machine.stack.entries = next.machine.pc :: next.machine.stack.entries := by
  unfold returnFromCall CallStack.pop at done
  split at done
  · contradiction
  · rename_i address stack popped
    split at popped
    · contradiction
    · rename_i newest rest entries
      cases popped
      cases done
      exact entries

theorem entries_of_execute_call {word : Word} {processor next : Processor}
    (isCall : word.family = 0x2)
    (done : execute (Instruction.decode word) processor = .ok next) :
    next.machine.stack.entries = processor.machine.pc :: processor.machine.stack.entries := by
  have decoded : Instruction.decode word = .call word.nnn :=
    Instruction.decode_of_encoded rfl ⟨isCall, rfl⟩
  rw [decoded] at done
  exact entries_of_callTo done

theorem entries_of_execute_return {word : Word} {processor next : Processor}
    (isReturn : word = 0x00EE)
    (done : execute (Instruction.decode word) processor = .ok next) :
    processor.machine.stack.entries = next.machine.pc :: next.machine.stack.entries := by
  have decoded : Instruction.decode word = .ret := Instruction.decode_of_encoded rfl isReturn
  rw [decoded] at done
  exact entries_of_returnFromCall done

theorem Transition.stackMove {before after : Processor} (transition : Transition before after) :
    StackMove before .step after := by
  have within := transition.within.stack
  cases transition with
  | rested | waited | collected | stopped => exact .kept rfl
  | executed status done =>
    rw [footprint_of_running status] at within
    rcases within with (isCall | isReturn) | same
    · have pushed := entries_of_execute_call isCall done
      exact .called ⟨status, isCall⟩ pushed
    · have popped := entries_of_execute_return isReturn done
      exact .returned ⟨status, isReturn⟩ popped
    · exact .kept same

theorem stackMove_perform {processor : Processor} (wellFormed : processor.machine.WellFormed)
    {operation : Operation} (noReset : operation ≠ .reset) :
    StackMove processor operation (processor.perform operation).1 := by
  cases operation with
  | load program =>
    rw [perform_load_eq]
    split <;> exact .kept rfl
  | reset => contradiction
  | step => exact (step_transition wellFormed).1.stackMove
  | tick => exact .kept rfl
  | setKey key pressed =>
    by_cases inside : 0 ≤ key ∧ key < 16
    · obtain ⟨valid, rfl⟩ := Keypad.exists_key inside
      rw [perform_setKey_of_key wellFormed.keypad]
      exact .kept rfl
    · rw [perform_setKey_of_outside processor inside]
      exact .kept rfl

namespace StackMove

variable {before after : Processor} {operation : Operation} {calls : List Int}

/-- Calls in progress stay unless the newest of them is ended. -/
theorem suffix (move : StackMove before operation after)
    (inProgress : calls <:+ before.machine.stack.entries)
    (notEnded : after.machine.stack.depth + 1 ≠ calls.length) :
    calls <:+ after.machine.stack.entries := by
  cases move with
  | kept same =>
    rw [same]
    exact inProgress
  | called _ pushed =>
    rw [pushed]
    exact inProgress.trans (List.suffix_cons _ _)
  | returned _ popped =>
    rw [popped] at inProgress
    rcases List.suffix_cons_iff.mp inProgress with all | below
    · refine absurd ?_ notEnded
      rw [all]
      rfl
    · exact below

/-- Only a call makes the stack deeper, and it leaves the address behind its own word. -/
theorem called_of_deeper (move : StackMove before operation after)
    (deeper : after.machine.stack.depth = before.machine.stack.depth + 1) :
    before.Calls ∧ after.machine.stack.entries =
      (before.machine.pc + 2) % 4096 :: before.machine.stack.entries := by
  cases move with
  | kept same =>
    rw [same] at deeper
    omega
  | called calls pushed => exact ⟨calls, pushed⟩
  | returned _ popped =>
    have lengths := congrArg List.length popped
    simp only [CallStack.depth, List.length_cons] at deeper lengths
    omega

/-- The end of a call is a return, which goes to the address that the call left and uncovers the
calls before it. -/
theorem returned_of_ended {address : Int} (move : StackMove before operation after)
    (inProgress : address :: calls <:+ before.machine.stack.entries)
    (ended : after.machine.stack.depth = calls.length) :
    operation = .step ∧ before.Returns ∧ after.machine.pc = address ∧
      after.machine.stack.entries = calls := by
  have atLeast := inProgress.length_le
  simp only [CallStack.depth, List.length_cons] at ended atLeast
  cases move with
  | kept same =>
    rw [same] at ended
    omega
  | called _ pushed =>
    rw [pushed, List.length_cons] at ended
    omega
  | returned returns popped =>
    rw [popped] at inProgress
    have all := inProgress.eq_of_length (by rw [List.length_cons, List.length_cons, ended])
    obtain ⟨sameAddress, sameCalls⟩ := List.cons_eq_cons.mp all
    exact ⟨rfl, returns, sameAddress.symm, sameCalls.symm⟩

end StackMove

/-- A call makes the stack deeper if there is room. -/
theorem Transition.deeper_of_calls {before after : Processor} (transition : Transition before after)
    (calls : before.Calls) (room : before.machine.stack.depth < callDepth) :
    after.machine.stack.depth = before.machine.stack.depth + 1 := by
  obtain ⟨running, isCall⟩ := calls
  rcases transition.of_running running with done | ⟨cause, -, stop⟩
  · exact congrArg List.length (entries_of_execute_call isCall done)
  · have decoded : Instruction.decode before.machine.nextWord =
        .call before.machine.nextWord.nnn :=
      Instruction.decode_of_encoded rfl ⟨isCall, rfl⟩
    rw [decoded] at stop
    cases execute_eq_halt_iff.mp stop with
    | stackOverflow _ full => exact absurd room (Nat.not_lt.mpr full)

/-! ### Whole courses -/

theorem suffix_of_mem_course {processor : Processor} (sound : processor.Sound) {calls : List Int}
    (inProgress : calls <:+ processor.machine.stack.entries) {operations : List Operation}
    (noReset : Operation.reset ∉ operations)
    (notEnded : ∀ now ∈ processor.course operations,
      now.machine.stack.depth + 1 ≠ calls.length) :
    ∀ now ∈ processor.course operations, calls <:+ now.machine.stack.entries := by
  induction operations generalizing processor with
  | nil =>
    intro now member
    rw [List.mem_singleton.mp member]
    exact inProgress
  | cons operation later inductionHypothesis =>
    rw [List.mem_cons, not_or] at noReset
    simp only [course, List.forall_mem_cons] at notEnded ⊢
    have move := stackMove_perform sound.machine (Ne.symm noReset.1)
    have first : (processor.perform operation).1 ∈
        (processor.perform operation).1.course later := by
      cases later <;> exact List.mem_cons_self
    have stays := move.suffix inProgress (notEnded.2 _ first)
    exact ⟨inProgress, inductionHypothesis (sound.perform operation) stays noReset.2 notEnded.2⟩

/-- Calls in progress stay as they are while the depth does not fall below them. A step goes one
level deeper exactly if it is a call with room below sixteen levels. The first operation that
brings the depth back to what it was before that is a return; it goes on behind the call and leaves
the stack as it was before. -/
theorem calls_match_returns {processor : Processor} (reachable : Reachable processor) :
    let start := processor.machine
    let called := processor.step.processor
    (∀ operations, Operation.reset ∉ operations →
      (∀ now ∈ processor.course operations, start.stack.depth ≤ now.machine.stack.depth) →
      ∀ now ∈ processor.course operations,
        now.machine.stack.oldestFirst.take start.stack.depth = start.stack.oldestFirst) ∧
      (called.machine.stack.depth = start.stack.depth + 1 ↔
        processor.Calls ∧ start.stack.depth < 16) ∧
      (called.machine.stack.depth = start.stack.depth + 1 →
        ∀ between, Operation.reset ∉ between →
          (∀ now ∈ called.course between, now.machine.stack.depth ≠ start.stack.depth) →
          ∀ operation, operation ≠ .reset →
            let last := called.performAll between
            let back := (last.perform operation).1
            back.machine.stack.depth = start.stack.depth →
              operation = .step ∧ last.Returns ∧ last.step.fault = none ∧
                back.machine.pc = (start.pc + 2) % 0x1000 ∧ back.machine.stack = start.stack) := by
  intro start called
  have sound := reachable.sound
  have transition := (step_transition sound.machine).1
  have calledReachable : Reachable called := reachable.perform .step
  refine ⟨?_, ⟨?_, ?_⟩, ?_⟩
  · intro operations noReset deep now member
    have notEnded : ∀ now ∈ processor.course operations,
        now.machine.stack.depth + 1 ≠ start.stack.entries.length := by
      intro now member
      have atLeast := deep now member
      simp only [CallStack.depth] at atLeast ⊢
      omega
    have stays := suffix_of_mem_course sound List.suffix_rfl noReset notEnded now member
    have asPrefix := List.reverse_prefix.mpr stays
    have sameLength : start.stack.depth = start.stack.oldestFirst.length := by
      simp only [CallStack.depth, CallStack.oldestFirst, List.length_reverse]
    rw [sameLength]
    exact (List.prefix_iff_eq_take.mp asPrefix).symm
  · intro deeper
    have depth_le := calledReachable.sound.machine.stack.depth_le
    exact ⟨(transition.stackMove.called_of_deeper deeper).1, by omega⟩
  · rintro ⟨calls, room⟩
    exact transition.deeper_of_calls calls room
  · intro deeper between noReset notEnded operation notReset last back ended
    have lastSound := (calledReachable.performAll between).sound
    obtain ⟨-, pushed⟩ := transition.stackMove.called_of_deeper deeper
    have inProgress : (start.pc + 2) % 4096 :: start.stack.entries <:+
        last.machine.stack.entries := by
      refine suffix_of_mem_course calledReachable.sound (pushed ▸ List.suffix_rfl) noReset ?_ last
        (performAll_mem_course called between)
      intro now member
      have apart := notEnded now member
      simp only [CallStack.depth, List.length_cons] at apart ⊢
      omega
    have move := stackMove_perform lastSound.machine notReset
    obtain ⟨isStep, returns, samePc, sameCalls⟩ := move.returned_of_ended inProgress ended
    refine ⟨isStep, returns, (step_transition lastSound.machine).2, samePc, ?_⟩
    exact congrArg CallStack.mk sameCalls

/-- A call with another call and a wait for a key in it. -/
theorem calls_match_returns_nested :
    let processor := (start false false ⟨fun _ => 0, 0⟩).performAll
      [.load [0x22, 0x04, 0x12, 0x02, 0x22, 0x0A, 0xF3, 0x0A, 0x00, 0xEE, 0x00, 0xEE]]
    let called := processor.step.processor
    let between : List Operation := [.step, .tick, .step, .step, .setKey 5 true, .step]
    let last := called.performAll between
    let back := (last.perform .step).1
    Reachable processor ∧ processor.Calls ∧ called.machine.stack.oldestFirst = [0x202] ∧
      (∀ now ∈ called.course between, now.machine.stack.oldestFirst.take 1 = [0x202]) ∧
      last.Returns ∧ back.machine.pc = 0x202 ∧ back.machine.stack = processor.machine.stack := by
  intro processor called between last back
  have reachable : Reachable processor := (Reachable.start false false ⟨fun _ => 0, 0⟩).performAll _
  have here : (processor.status = .running ∧ processor.machine.nextWord.family = 0x2) ∧
      processor.machine.pc = 0x200 ∧ processor.machine.stack.depth = 0 ∧
      called.machine.stack.depth = 1 ∧ called.machine.stack.oldestFirst = [0x202] ∧
      (∀ now ∈ called.course between, 1 ≤ now.machine.stack.depth) ∧
      back.machine.stack.depth = 0 := by
    decide +kernel
  have noReset : Operation.reset ∉ between := by decide
  obtain ⟨calls, pc, empty, depth, oneCall, deep, ended⟩ := here
  clear_value processor
  have stays : (∀ now ∈ called.course between,
        called.machine.stack.depth ≤ now.machine.stack.depth) →
      ∀ now ∈ called.course between,
        now.machine.stack.oldestFirst.take called.machine.stack.depth =
          called.machine.stack.oldestFirst :=
    (calls_match_returns (reachable.perform .step)).1 between noReset
  rw [depth, oneCall] at stays
  obtain ⟨-, -, returns⟩ := calls_match_returns reachable
  rw [empty, pc] at returns
  have notEnded : ∀ now ∈ called.course between, now.machine.stack.depth ≠ 0 :=
    fun now member => Nat.ne_zero_of_lt (deep now member)
  obtain ⟨-, isReturn, -, behind, restored⟩ :=
    returns depth between noReset notEnded .step (by decide) ended
  exact ⟨reachable, calls, oneCall, stays deep, isReturn, behind, restored⟩

end Processor

end Chip8
