import Chip8.Proofs.Media.Speaker

/-!
Contract: which tones a speaker can be asked for without harm.

Owns:
- `MediaCall.lastMade`, the half cycle of the current sound;
- `Speaker.Playable`, the tones for which there is a wave;
- `Speaker.FailsCleanly`, a request for a tone that either makes its sound or changes nothing;
- that a tone remembered is that of the current sound if it is playable, and that only playable
  tones are asked for cleanly: any other one is remembered although it was refused.

Does not own: when the sound plays.
-/

namespace Chip8

/-! ### The current sound -/

def MediaCall.halfPeriod? : MediaCall → Option Nat
  | .makeSound halfPeriod => some halfPeriod
  | _ => none

/-- The half cycle of the sound that was made last. -/
def MediaCall.lastMade (calls : List MediaCall) : Option Nat :=
  (calls.filterMap MediaCall.halfPeriod?).getLast?

theorem MediaCall.lastMade_append (before later : List MediaCall) :
    lastMade (before ++ later) = (lastMade later).or (lastMade before) := by
  rw [lastMade, List.filterMap_append, List.getLast?_append]
  rfl

namespace Speaker

/-! ### Playable tones -/

/-- A tone is playable if it is not zero and there is room for a whole cycle of it. -/
def Playable (room : Extent.Room) (frequency : Rat) : Prop :=
  frequency ≠ 0 ∧ ∃ halfPeriod,
    Wave.halfPeriod frequency = some halfPeriod ∧ 2 * halfPeriod ≤ room.bytes

theorem waveFor_eq_ok_iff {room : Extent.Room} {frequency : Rat} {halfPeriod : Nat} :
    waveFor room frequency = .ok halfPeriod ↔
      frequency ≠ 0 ∧ Wave.halfPeriod frequency = some halfPeriod ∧
        2 * halfPeriod ≤ room.bytes := by
  unfold waveFor
  split
  · rename_i zero
    exact ⟨nofun, fun playable => absurd zero playable.1⟩
  · rename_i nonzero
    cases wave : Wave.halfPeriod frequency with
    | none => exact ⟨nofun, fun playable => nomatch playable.2.1⟩
    | some half =>
      change (Extent.hold room (2 * half)).map (fun _ => half) = _ ↔ _
      cases held : Extent.hold room (2 * half) with
      | error fault =>
        refine ⟨nofun, fun playable => ?_⟩
        obtain ⟨-, same, enough⟩ := playable
        obtain rfl := Option.some.inj same
        exact absurd (held.symm.trans (Extent.hold_eq_ok_iff.mpr ⟨enough, rfl⟩)) nofun
      | ok size =>
        have enough := (Extent.hold_eq_ok_iff.mp held).1
        constructor
        · intro same
          obtain rfl := Except.ok.inj same
          exact ⟨nonzero, rfl, enough⟩
        · rintro ⟨-, same, -⟩
          exact congrArg Except.ok (Option.some.inj same)

theorem playable_iff {room : Extent.Room} {frequency : Rat} :
    Playable room frequency ↔ ∃ halfPeriod, waveFor room frequency = .ok halfPeriod := by
  simp only [waveFor_eq_ok_iff, Playable, exists_and_left]

variable {α : Type} {room : Extent.Room} {speaker : Speaker α} {log : List MediaCall}

/-! ### What is remembered -/

/-- The tone remembered is that of the current sound, if it is playable at all. -/
def Remembers (room : Extent.Room) (speaker : Speaker α) (log : List MediaCall) : Prop :=
  ∀ frequency halfPeriod, speaker.frequency = some frequency →
    waveFor room frequency = .ok halfPeriod → MediaCall.lastMade log = some halfPeriod

theorem Remembers.append (remembers : Remembers room speaker log) {calls : List MediaCall}
    (noneMade : MediaCall.lastMade calls = none) : Remembers room speaker (log ++ calls) := by
  intro frequency halfPeriod known wave
  rw [MediaCall.lastMade_append, noneMade]
  exact remembers frequency halfPeriod known wave

theorem remembers_start (off : α) : Remembers room (start off).1 (start off).2 :=
  nofun

theorem lastMade_newSound (before : List MediaCall) (halfPeriod : Nat) (on : Bool) :
    MediaCall.lastMade (before ++ [.makeSound halfPeriod, .setVolume volume] ++
      if on then [.play] else []) = some halfPeriod := by
  rw [MediaCall.lastMade_append, MediaCall.lastMade_append]
  cases on <;> rfl

section Requests

variable [Truth α]

theorem Remembers.setFrequency (remembers : Remembers room speaker log) (frequency : Rat) :
    Remembers room (speaker.setFrequency room frequency).speaker
      (log ++ (speaker.setFrequency room frequency).calls) := by
  have ends := speaker.setsTone room frequency
  generalize speaker.setFrequency room frequency = effect at ends ⊢
  cases ends with
  | known => exact remembers.append rfl
  | refused _ noWave =>
    -- The tone is remembered, but it has no wave that the current sound would have to have.
    intro other halfPeriod known wave
    obtain rfl := Option.some.inj known
    exact absurd (noWave.symm.trans wave) nofun
  | made _ made =>
    intro other halfPeriod known wave
    obtain rfl := Option.some.inj known
    obtain rfl := Except.ok.inj (made.symm.trans wave)
    rw [MediaCall.lastMade_append, lastMade_newSound]
    rfl

theorem Remembers.enable (remembers : Remembers room speaker log) (enabled : α) :
    Remembers room (speaker.enable enabled).speaker (log ++ (speaker.enable enabled).calls) := by
  have ends := speaker.switches enabled
  generalize speaker.enable enabled = effect at ends ⊢
  cases ends <;> exact remembers.append rfl

theorem Remembers.answer (remembers : Remembers room speaker log) (request : Request α) :
    Remembers room (speaker.answer room request).speaker
      (log ++ (speaker.answer room request).calls) := by
  cases request with
  | tone frequency => exact remembers.setFrequency frequency
  | switch enabled => exact remembers.enable enabled

/-! ### Requests that fail -/

/-- A request for a tone either returns with the sound of that tone as the current one, or it is
refused and leaves the speaker and the log as they were, so that it is refused again. -/
structure FailsCleanly (room : Extent.Room) (speaker : Speaker α) (log : List MediaCall)
    (frequency : Rat) : Prop where
  made : (speaker.setFrequency room frequency).fault = none → ∃ halfPeriod,
    waveFor room frequency = .ok halfPeriod ∧
      MediaCall.lastMade (log ++ (speaker.setFrequency room frequency).calls) = some halfPeriod
  unchanged : (speaker.setFrequency room frequency).fault ≠ none →
    (speaker.setFrequency room frequency).speaker = speaker ∧
      (speaker.setFrequency room frequency).calls = []
  again : (speaker.setFrequency room frequency).fault ≠ none →
    ((speaker.setFrequency room frequency).speaker.setFrequency room frequency).fault ≠ none

theorem frequency_setFrequency (speaker : Speaker α) (room : Extent.Room) (frequency : Rat) :
    (speaker.setFrequency room frequency).speaker.frequency = some frequency := by
  have ends := speaker.setsTone room frequency
  generalize speaker.setFrequency room frequency = effect at ends ⊢
  cases ends with
  | known remembered => exact remembered
  | refused => rfl
  | made => rfl

theorem setFrequency_of_remembered {frequency : Rat}
    (remembered : speaker.frequency = some frequency) :
    speaker.setFrequency room frequency = ⟨speaker, [], none⟩ :=
  if_pos remembered

theorem fault_setFrequency_eq_none_iff (speaker : Speaker α) (room : Extent.Room)
    (frequency : Rat) :
    (speaker.setFrequency room frequency).fault = none ↔
      speaker.frequency = some frequency ∨ Playable room frequency := by
  rw [playable_iff]
  have ends := speaker.setsTone room frequency
  generalize speaker.setFrequency room frequency = effect at ends ⊢
  cases ends with
  | known remembered => exact iff_of_true rfl (.inl remembered)
  | refused other noWave =>
    refine iff_of_false nofun ?_
    rintro (remembered | ⟨halfPeriod, wave⟩)
    · exact other remembered
    · exact absurd (noWave.symm.trans wave) nofun
  | @made halfPeriod _ wave => exact iff_of_true rfl (.inr ⟨halfPeriod, wave⟩)

theorem setFrequency_of_refused {frequency : Rat}
    (refused : (speaker.setFrequency room frequency).fault ≠ none) :
    (speaker.setFrequency room frequency).speaker = { speaker with frequency := some frequency } ∧
      (speaker.setFrequency room frequency).calls = [] := by
  have ends := speaker.setsTone room frequency
  generalize speaker.setFrequency room frequency = effect at ends refused ⊢
  cases ends with
  | known => exact absurd rfl refused
  | refused => exact ⟨rfl, rfl⟩
  | made => exact absurd rfl refused

theorem Remembers.failsCleanly_iff (remembers : Remembers room speaker log) (frequency : Rat) :
    FailsCleanly room speaker log frequency ↔ Playable room frequency := by
  have known := frequency_setFrequency speaker room frequency
  constructor
  · intro clean
    by_cases returned : (speaker.setFrequency room frequency).fault = none
    · obtain ⟨halfPeriod, wave, -⟩ := clean.made returned
      exact playable_iff.mpr ⟨halfPeriod, wave⟩
    · -- The tone was refused but is remembered, so it would be accepted now.
      exact absurd (congrArg Effect.fault (setFrequency_of_remembered known))
        (clean.again returned)
  · intro playable
    have returned : (speaker.setFrequency room frequency).fault = none :=
      (fault_setFrequency_eq_none_iff speaker room frequency).mpr (.inr playable)
    obtain ⟨halfPeriod, wave⟩ := playable_iff.mp playable
    have made := remembers.setFrequency frequency frequency halfPeriod known wave
    exact ⟨fun _ => ⟨halfPeriod, wave, made⟩, fun refused => absurd returned refused,
      fun refused => absurd returned refused⟩

/-- Whatever was asked of a speaker before, a request for a tone fails cleanly exactly if the tone
is playable. Any other tone is refused unless it is the one remembered, makes no call, and is
remembered from then on; so asking for it again is accepted and does nothing. -/
theorem tone_fails_cleanly_iff_playable (room : Extent.Room) (off : α)
    (requests : List (Request α)) (frequency : Rat) :
    let speaker := ((start off).1.answerAll room requests).1
    let log := (start off).2 ++ ((start off).1.answerAll room requests).2
    let effect := speaker.setFrequency room frequency
    (FailsCleanly room speaker log frequency ↔ Playable room frequency) ∧
      (effect.fault = none ↔ speaker.frequency = some frequency ∨ Playable room frequency) ∧
      (effect.fault = none ∨
        effect.speaker = { speaker with frequency := some frequency } ∧ effect.calls = []) ∧
      effect.speaker.setFrequency room frequency = ⟨effect.speaker, [], none⟩ := by
  intro speaker log effect
  have remembers : Remembers room speaker log :=
    answerAll_keeps Remembers.answer (remembers_start off) requests
  refine ⟨remembers.failsCleanly_iff frequency,
    fault_setFrequency_eq_none_iff speaker room frequency, ?_,
    setFrequency_of_remembered (frequency_setFrequency speaker room frequency)⟩
  by_cases fault : effect.fault = none
  · exact .inl fault
  · exact .inr (setFrequency_of_refused fault)

end Requests

/-- A tone of zero is refused once, and accepted without a sound when it is asked for again. -/
theorem tone_of_zero_remembered :
    let room : Extent.Room := ⟨4096, by decide⟩
    let speaker := (start false).1
    let refused := speaker.setFrequency room 0
    refused.fault = some .zeroFrequency ∧ refused.speaker ≠ speaker ∧
      refused.speaker.setFrequency room 0 = ⟨refused.speaker, [], none⟩ ∧
      ¬FailsCleanly room speaker (start false).2 0 := by
  intro room speaker refused
  have fault : refused.fault = some .zeroFrequency := by decide +kernel
  have again : refused.speaker.setFrequency room 0 = ⟨refused.speaker, [], none⟩ :=
    setFrequency_of_remembered rfl
  refine ⟨fault, by decide +kernel, again, fun clean => ?_⟩
  have refusedAgain := clean.again (fault ▸ nofun)
  exact refusedAgain (congrArg Effect.fault again)

end Speaker

end Chip8
