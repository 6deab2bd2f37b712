import Chip8.Media.Speaker

/-!
Contract: the sound of a speaker plays while the buzzer is on, whatever is asked of it.

Owns:
- `Speaker.Request` and `Speaker.answerAll`, what is asked of a speaker and what comes of it;
- `soundAfter`, whether the current sound plays after calls, and `InOrder`, calls of which none
  starts a sound that plays or replaces one;
- `Speaker.SetsTone` and `Speaker.Switches`, all that the two operations can do;
- `Speaker.Orderly`, the calls in order and the sound playing exactly while the buzzer is on, and
  that every request keeps it.

Does not own: for which tone a sound was made.
-/

namespace Chip8

/-! ### Calls -/

/-- Whether the current sound plays after a call, if there is one. A new sound is silent. -/
def MediaCall.sounding (sound : Option Bool) : MediaCall → Option Bool
  | .makeSound _ => some false
  | .play => sound.map fun _ => true
  | .stop => sound.map fun _ => false
  | _ => sound

def soundAfter (sound : Option Bool) (calls : List MediaCall) : Option Bool :=
  calls.foldl MediaCall.sounding sound

/-- Only a sound that is silent is started, and none is replaced while it plays. -/
def MediaCall.Suits (sound : Option Bool) : MediaCall → Prop
  | .play => sound = some false
  | .makeSound _ => sound ≠ some true
  | _ => True

/-- Every call suits the sound that the calls before it have left. -/
def InOrder (sound : Option Bool) (calls : List MediaCall) : Prop :=
  ∀ before call later, calls = before ++ call :: later → call.Suits (soundAfter sound before)

theorem soundAfter_append (sound : Option Bool) (before later : List MediaCall) :
    soundAfter sound (before ++ later) = soundAfter (soundAfter sound before) later :=
  List.foldl_append

theorem isSome_soundAfter {sound : Option Bool} (current : sound.isSome)
    (calls : List MediaCall) : (soundAfter sound calls).isSome := by
  induction calls generalizing sound with
  | nil => exact current
  | cons call later inductionHypothesis =>
    have stays : (call.sounding sound).isSome := by
      cases call <;> simp [MediaCall.sounding, current]
    exact inductionHypothesis stays

theorem isSome_soundAfter_of_made {sound : Option Bool} {halfPeriod : Nat}
    {calls : List MediaCall} (made : .makeSound halfPeriod ∈ calls) :
    (soundAfter sound calls).isSome := by
  obtain ⟨before, later, rfl⟩ := List.append_of_mem made
  rw [soundAfter_append]
  have made : (some false).isSome := rfl
  exact isSome_soundAfter made later

theorem inOrder_nil (sound : Option Bool) : InOrder sound [] := by
  intro before call later split
  exact absurd split (by simp)

theorem inOrder_cons_iff {sound : Option Bool} {call : MediaCall} {later : List MediaCall} :
    InOrder sound (call :: later) ↔ call.Suits sound ∧ InOrder (call.sounding sound) later := by
  constructor
  · intro ordered
    refine ⟨ordered [] call later rfl, ?_⟩
    rintro before next rest rfl
    exact ordered (call :: before) next rest rfl
  · rintro ⟨first, ordered⟩ before next rest split
    cases before with
    | nil =>
      rw [List.nil_append, List.cons.injEq] at split
      rw [← split.1]
      exact first
    | cons head before =>
      rw [List.cons_append, List.cons.injEq] at split
      obtain ⟨rfl, rfl⟩ := split
      exact ordered before next rest rfl

theorem InOrder.append {sound : Option Bool} {before later : List MediaCall}
    (ordered : InOrder sound before) (orderedLater : InOrder (soundAfter sound before) later) :
    InOrder sound (before ++ later) := by
  induction before generalizing sound with
  | nil => exact orderedLater
  | cons call rest inductionHypothesis =>
    obtain ⟨first, others⟩ := inOrder_cons_iff.mp ordered
    exact inOrder_cons_iff.mpr ⟨first, inductionHypothesis others orderedLater⟩

namespace Speaker

/-! ### Requests -/

inductive Request (α : Type) where
  | tone (frequency : Rat)
  | switch (enabled : α)
deriving DecidableEq, Repr

variable {α : Type} {room : Extent.Room}

def Request.switched? : Request α → Option α
  | .tone _ => none
  | .switch enabled => some enabled

section Answers

variable [Truth α]

def answer (speaker : Speaker α) (room : Extent.Room) : Request α → Effect α
  | .tone frequency => speaker.setFrequency room frequency
  | .switch enabled => speaker.enable enabled

/-- The speaker after requests, also if some of them are refused, and the calls it has made. -/
def answerAll (speaker : Speaker α) (room : Extent.Room) :
    List (Request α) → Speaker α × List MediaCall
  | [] => (speaker, [])
  | request :: later =>
    let effect := speaker.answer room request
    let (last, calls) := effect.speaker.answerAll room later
    (last, effect.calls ++ calls)

theorem answerAll_cons (speaker : Speaker α) (room : Extent.Room) (request : Request α)
    (later : List (Request α)) :
    speaker.answerAll room (request :: later) =
      (((speaker.answer room request).speaker.answerAll room later).1,
        (speaker.answer room request).calls ++
          ((speaker.answer room request).speaker.answerAll room later).2) :=
  rfl

theorem answerAll_append (speaker : Speaker α) (room : Extent.Room)
    (before later : List (Request α)) :
    speaker.answerAll room (before ++ later) =
      (((speaker.answerAll room before).1.answerAll room later).1,
        (speaker.answerAll room before).2 ++
          ((speaker.answerAll room before).1.answerAll room later).2) := by
  induction before generalizing speaker with
  | nil => rfl
  | cons request rest inductionHypothesis =>
    rw [List.cons_append, answerAll_cons, answerAll_cons, inductionHypothesis, List.append_assoc]

/-- What every request keeps true of a speaker and its calls so far, all requests keep true. -/
theorem answerAll_keeps {invariant : Speaker α → List MediaCall → Prop}
    (keeps : ∀ {speaker log}, invariant speaker log → ∀ request,
      invariant (speaker.answer room request).speaker (log ++ (speaker.answer room request).calls))
    {speaker : Speaker α} {log : List MediaCall} (now : invariant speaker log)
    (requests : List (Request α)) :
    invariant (speaker.answerAll room requests).1 (log ++ (speaker.answerAll room requests).2) := by
  induction requests generalizing speaker log with
  | nil =>
    rw [answerAll, List.append_nil]
    exact now
  | cons request later inductionHypothesis =>
    have last := inductionHypothesis (keeps now request)
    rw [List.append_assoc] at last
    exact last

/-- The ways in which a request for a tone ends. -/
inductive SetsTone (speaker : Speaker α) (room : Extent.Room) (frequency : Rat) :
    Effect α → Prop where
  | known (remembered : speaker.frequency = some frequency) :
    SetsTone speaker room frequency ⟨speaker, [], none⟩
  | refused {fault : Fault} (other : speaker.frequency ≠ some frequency)
    (noWave : waveFor room frequency = .error fault) :
    SetsTone speaker room frequency ⟨{ speaker with frequency := some frequency }, [], some fault⟩
  | made {halfPeriod : Nat} (other : speaker.frequency ≠ some frequency)
    (wave : waveFor room frequency = .ok halfPeriod) :
    SetsTone speaker room frequency
      ⟨{ speaker with frequency := some frequency, hasSound := true },
        speaker.stopSound ++ [.makeSound halfPeriod, .setVolume volume] ++
          (if Truth.holds speaker.enabled then [.play] else []),
        none⟩

theorem setsTone (speaker : Speaker α) (room : Extent.Room) (frequency : Rat) :
    SetsTone speaker room frequency (speaker.setFrequency room frequency) := by
  unfold setFrequency
  split
  · rename_i remembered
    exact .known remembered
  · rename_i other
    dsimp only
    cases wave : waveFor room frequency with
    | error fault => exact .refused other wave
    | ok halfPeriod => exact .made other wave

/-- The ways in which a request to switch the buzzer ends. -/
inductive Switches (speaker : Speaker α) (enabled : α) : Effect α → Prop where
  | kept (same : Truth.holds enabled = Truth.holds speaker.enabled) :
    Switches speaker enabled ⟨{ speaker with enabled := enabled }, [], none⟩
  | started (off : Truth.holds speaker.enabled = false) (on : Truth.holds enabled = true)
    (hasSound : speaker.hasSound = true) :
    Switches speaker enabled ⟨{ speaker with enabled := enabled }, [.play], none⟩
  | stopped (on : Truth.holds speaker.enabled = true) (off : Truth.holds enabled = false)
    (hasSound : speaker.hasSound = true) :
    Switches speaker enabled ⟨{ speaker with enabled := enabled }, [.stop], none⟩
  | refused (noSound : speaker.hasSound = false) :
    Switches speaker enabled ⟨speaker, [], some .noSound⟩

theorem switches (speaker : Speaker α) (enabled : α) :
    Switches speaker enabled (speaker.enable enabled) := by
  unfold enable
  split
  · rename_i off on sound
    exact .started off on sound
  · rename_i on off sound
    exact .stopped on off sound
  · rename_i noSound
    exact .refused noSound
  · rename_i noSound
    exact .refused noSound
  · rename_i notStarted notStopped noneToStart noneToStop
    refine .kept ?_
    cases before : Truth.holds speaker.enabled with
    | false =>
      cases after : Truth.holds enabled with
      | false => rfl
      | true =>
        cases sound : speaker.hasSound with
        | false => exact (noneToStart before after sound).elim
        | true => exact (notStarted before after sound).elim
    | true =>
      cases after : Truth.holds enabled with
      | true => rfl
      | false =>
        cases sound : speaker.hasSound with
        | false => exact (noneToStop before after sound).elim
        | true => exact (notStopped before after sound).elim

/-! ### The sound -/

/-- The sound of a speaker plays while the buzzer is on; without a sound the buzzer is off. -/
inductive Plays (speaker : Speaker α) : Option Bool → Prop where
  | current (hasSound : speaker.hasSound = true) :
    Plays speaker (some (Truth.holds speaker.enabled))
  | absent (noSound : speaker.hasSound = false) (off : Truth.holds speaker.enabled = false) :
    Plays speaker none

variable {speaker : Speaker α} {sound : Option Bool}

theorem Plays.eq_some (plays : Plays speaker sound) (hasSound : speaker.hasSound = true) :
    sound = some (Truth.holds speaker.enabled) := by
  cases plays with
  | current => rfl
  | absent noSound => exact absurd (noSound.symm.trans hasSound) Bool.false_ne_true

theorem Plays.hasSound (plays : Plays speaker sound) (current : sound.isSome) :
    speaker.hasSound = true := by
  cases plays with
  | current hasSound => exact hasSound
  | absent => exact absurd current Bool.false_ne_true

theorem Plays.remember (plays : Plays speaker sound) (frequency : Option Rat) :
    Plays { speaker with frequency := frequency } sound := by
  cases plays with
  | current hasSound => exact .current hasSound
  | absent noSound off => exact .absent noSound off

theorem Plays.stopSound (plays : Plays speaker sound) :
    InOrder sound speaker.stopSound ∧ soundAfter sound speaker.stopSound ≠ some true := by
  unfold Speaker.stopSound
  cases plays with
  | current hasSound =>
    rw [if_pos hasSound]
    exact ⟨inOrder_cons_iff.mpr ⟨trivial, inOrder_nil _⟩, by simp [soundAfter, MediaCall.sounding]⟩
  | absent noSound =>
    rw [if_neg (by simp [noSound])]
    exact ⟨inOrder_nil none, by simp [soundAfter]⟩

/-- A new sound takes the place of a silent one, and plays at once if the buzzer is on. -/
theorem new_sound (silent : sound ≠ some true) (halfPeriod : Nat) (on : Bool) :
    InOrder sound ([.makeSound halfPeriod, .setVolume volume] ++ if on then [.play] else []) ∧
      soundAfter sound ([.makeSound halfPeriod, .setVolume volume] ++ if on then [.play] else []) =
        some on := by
  cases on with
  | false =>
    exact ⟨inOrder_cons_iff.mpr ⟨silent, inOrder_cons_iff.mpr ⟨trivial, inOrder_nil _⟩⟩, rfl⟩
  | true =>
    refine ⟨inOrder_cons_iff.mpr ⟨silent, inOrder_cons_iff.mpr ⟨trivial, ?_⟩⟩, rfl⟩
    exact inOrder_cons_iff.mpr ⟨rfl, inOrder_nil _⟩

/-- A sound that plays is stopped before another one takes over. -/
theorem Plays.setFrequency (plays : Plays speaker sound) (frequency : Rat) :
    InOrder sound (speaker.setFrequency room frequency).calls ∧
      Plays (speaker.setFrequency room frequency).speaker
        (soundAfter sound (speaker.setFrequency room frequency).calls) := by
  have ends := speaker.setsTone room frequency
  generalize speaker.setFrequency room frequency = effect at ends ⊢
  cases ends with
  | known => exact ⟨inOrder_nil sound, plays⟩
  | refused => exact ⟨inOrder_nil sound, plays.remember (some frequency)⟩
  | @made halfPeriod =>
    obtain ⟨stopped, silent⟩ := plays.stopSound
    obtain ⟨ordered, after⟩ := new_sound silent halfPeriod (Truth.holds speaker.enabled)
    rw [List.append_assoc]
    refine ⟨stopped.append ordered, ?_⟩
    rw [soundAfter_append, after]
    exact .current rfl

theorem Plays.enable (plays : Plays speaker sound) (enabled : α) :
    InOrder sound (speaker.enable enabled).calls ∧
      Plays (speaker.enable enabled).speaker
        (soundAfter sound (speaker.enable enabled).calls) := by
  have ends := speaker.switches enabled
  generalize speaker.enable enabled = effect at ends ⊢
  cases ends with
  | kept same =>
    refine ⟨inOrder_nil sound, ?_⟩
    cases plays with
    | current hasSound =>
      rw [← same]
      exact .current hasSound
    | absent noSound off => exact .absent noSound (same.trans off)
  | started off on hasSound =>
    obtain rfl := plays.eq_some hasSound
    refine ⟨inOrder_cons_iff.mpr ⟨congrArg some off, inOrder_nil _⟩, ?_⟩
    have playing : soundAfter (some (Truth.holds speaker.enabled)) [.play] =
        some (Truth.holds enabled) := congrArg some on.symm
    rw [playing]
    exact .current hasSound
  | stopped on off hasSound =>
    obtain rfl := plays.eq_some hasSound
    refine ⟨inOrder_cons_iff.mpr ⟨trivial, inOrder_nil _⟩, ?_⟩
    have silent : soundAfter (some (Truth.holds speaker.enabled)) [.stop] =
        some (Truth.holds enabled) := congrArg some off.symm
    rw [silent]
    exact .current hasSound
  | refused => exact ⟨inOrder_nil sound, plays⟩

theorem Plays.answer (plays : Plays speaker sound) (request : Request α) :
    InOrder sound (speaker.answer room request).calls ∧
      Plays (speaker.answer room request).speaker
        (soundAfter sound (speaker.answer room request).calls) := by
  cases request with
  | tone frequency => exact plays.setFrequency frequency
  | switch enabled => exact plays.enable enabled

/-- All calls so far are in order, and they have left the sound as the buzzer is. -/
structure Orderly (speaker : Speaker α) (log : List MediaCall) : Prop where
  ordered : InOrder none log
  plays : Plays speaker (soundAfter none log)

theorem orderly_start {off : α} (silent : Truth.holds off = false) :
    Orderly (start off).1 (start off).2 where
  ordered := inOrder_cons_iff.mpr ⟨trivial, inOrder_cons_iff.mpr ⟨trivial, inOrder_nil _⟩⟩
  plays := .absent rfl silent

theorem Orderly.answer {log : List MediaCall} (orderly : Orderly speaker log)
    (request : Request α) :
    Orderly (speaker.answer room request).speaker (log ++ (speaker.answer room request).calls) := by
  obtain ⟨ordered, plays⟩ := orderly.plays.answer request
  rw [← soundAfter_append] at plays
  exact ⟨orderly.ordered.append ordered, plays⟩

/-! ### The switch -/

theorem answer_hasSound (hasSound : speaker.hasSound = true) (request : Request α) :
    (speaker.answer room request).speaker.hasSound = true := by
  cases request with
  | tone frequency =>
    change (speaker.setFrequency room frequency).speaker.hasSound = true
    have ends := speaker.setsTone room frequency
    generalize speaker.setFrequency room frequency = effect at ends ⊢
    cases ends with
    | known => exact hasSound
    | refused => exact hasSound
    | made => rfl
  | switch enabled =>
    change (speaker.enable enabled).speaker.hasSound = true
    have ends := speaker.switches enabled
    generalize speaker.enable enabled = effect at ends ⊢
    cases ends <;> exact hasSound

/-- With a sound no switch is refused, so the value given is kept. -/
theorem answer_enabled (hasSound : speaker.hasSound = true) (request : Request α) :
    (speaker.answer room request).speaker.enabled = request.switched?.getD speaker.enabled := by
  cases request with
  | tone frequency =>
    change (speaker.setFrequency room frequency).speaker.enabled = speaker.enabled
    have ends := speaker.setsTone room frequency
    generalize speaker.setFrequency room frequency = effect at ends ⊢
    cases ends <;> rfl
  | switch enabled =>
    change (speaker.enable enabled).speaker.enabled = enabled
    have ends := speaker.switches enabled
    generalize speaker.enable enabled = effect at ends ⊢
    cases ends with
    | kept => rfl
    | started => rfl
    | stopped => rfl
    | refused noSound => exact absurd (noSound.symm.trans hasSound) Bool.false_ne_true

theorem answerAll_enabled (hasSound : speaker.hasSound = true) (requests : List (Request α)) :
    (speaker.answerAll room requests).1.enabled =
      (requests.filterMap Request.switched?).getLast?.getD speaker.enabled := by
  induction requests generalizing speaker with
  | nil => rfl
  | cons request later inductionHypothesis =>
    rw [answerAll_cons]
    dsimp only
    rw [inductionHypothesis (answer_hasSound hasSound request), answer_enabled hasSound request]
    cases request with
    | tone => rfl
    | switch enabled =>
      rw [List.filterMap_cons_some (f := Request.switched?) rfl, List.getLast?_cons]
      rfl

/-- Once a sound was made, the current sound plays exactly while the value that the buzzer was
switched with last means yes, whatever tones are asked for and also if some of them are refused.
No sound is started that plays already and none is replaced while it plays. -/
theorem sound_plays_while_enabled (room : Extent.Room) {off : α}
    (silent : Truth.holds off = false) (before later : List (Request α)) {halfPeriod : Nat}
    (made : .makeSound halfPeriod ∈ ((start off).1.answerAll room before).2) :
    let early := ((start off).1.answerAll room before).1
    let last := (start off).1.answerAll room (before ++ later)
    let log := (start off).2 ++ last.2
    soundAfter none log = some (Truth.holds last.1.enabled) ∧
      last.1.enabled = (later.filterMap Request.switched?).getLast?.getD early.enabled ∧
      InOrder none log := by
  intro early last log
  have orderly : Orderly last.1 log :=
    answerAll_keeps Orderly.answer (orderly_start silent) (before ++ later)
  have orderlyEarly : Orderly early ((start off).2 ++ ((start off).1.answerAll room before).2) :=
    answerAll_keeps Orderly.answer (orderly_start silent) before
  have madeEarly := List.mem_append_right (start off).2 made
  have lasts : last = _ := answerAll_append (start off).1 room before later
  have madeInAll : .makeSound halfPeriod ∈ log := by
    refine List.mem_append_right _ ?_
    rw [lasts]
    exact List.mem_append_left _ made
  have hasSound := orderly.plays.hasSound (isSome_soundAfter_of_made madeInAll)
  have hasSoundEarly := orderlyEarly.plays.hasSound (isSome_soundAfter_of_made madeEarly)
  refine ⟨orderly.plays.eq_some hasSound, ?_, orderly.ordered⟩
  rw [lasts]
  exact answerAll_enabled hasSoundEarly later

end Answers

/-- The buzzer is switched on twice and its tone is changed three times before it is off again; the
first switch and two tones are refused. -/
theorem sound_plays_while_enabled_as_tones_change :
    let room : Extent.Room := ⟨4096, by decide⟩
    let before : List (Request Bool) := [.switch true, .tone 0, .tone 440]
    let later : List (Request Bool) :=
      [.switch true, .tone 220, .tone 220, .switch true, .tone 0, .tone 440, .switch false]
    let early := ((start false).1.answerAll room before).1
    let last := (start false).1.answerAll room (before ++ later)
    let log := (start false).2 ++ last.2
    last.2 =
        [.makeSound 50, .setVolume volume, .play, .stop, .makeSound 100, .setVolume volume, .play,
          .stop, .makeSound 50, .setVolume volume, .play, .stop] ∧
      soundAfter none log = some (Truth.holds last.1.enabled) ∧
      last.1.enabled = (later.filterMap Request.switched?).getLast?.getD early.enabled ∧
      InOrder none log := by
  intro room before later
  have made : .makeSound 50 ∈ ((start false).1.answerAll room before).2 := by
    decide +kernel
  exact ⟨by decide +kernel, sound_plays_while_enabled room rfl before later made⟩

end Speaker

end Chip8
