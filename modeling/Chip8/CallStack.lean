import Chip8.Fault

/-!
Contract: the return addresses of the calls in progress, kept outside memory.

Owns: `CallStack`, newest entry first, and the rule that a push beyond the limit and a pop of
nothing are refused before anything changes.
-/

namespace Chip8

structure CallStack (limit : Int) where
  entries : List Int
deriving DecidableEq, Repr

namespace CallStack

variable {limit : Int}

def empty : CallStack limit :=
  ⟨[]⟩

/-- The number of entries in use, which serves as stack pointer. -/
def depth (stack : CallStack limit) : Nat :=
  stack.entries.length

def oldestFirst (stack : CallStack limit) : List Int :=
  stack.entries.reverse

def push (stack : CallStack limit) (entry : Int) : Except Fault (CallStack limit) :=
  if limit ≤ stack.depth then .error .stackOverflow else .ok ⟨entry :: stack.entries⟩

def pop (stack : CallStack limit) : Except Fault (Int × CallStack limit) :=
  match stack.entries with
  | [] => .error .stackUnderflow
  | entry :: rest => .ok (entry, ⟨rest⟩)

def ofOldestFirst (entries : List Int) : Except Fault (CallStack limit) :=
  if limit < entries.length then .error .stackOverflow else .ok ⟨entries.reverse⟩

theorem push_eq_error_iff {stack : CallStack limit} {entry : Int} {fault : Fault} :
    stack.push entry = .error fault ↔ limit ≤ stack.depth ∧ fault = .stackOverflow := by
  by_cases full : limit ≤ stack.depth <;> simp [push, full, eq_comm]

end CallStack

end Chip8
