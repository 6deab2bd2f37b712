import Chip8.Launch
import Chip8.Proofs.Machine.WellFormed
import Chip8.Proofs.Media.Tone

/-!
Contract: which devices are still open when a run ends.

Owns:
- `MediaCall.uses`, the calls that neither open nor close a device, and that what a host says leads
  to no others;
- `Launch.Releases`, that every call of one kind is followed by one of another;
- the settings that are looked at while devices are open already, and that a run closes what it
  opened exactly if it accepts them.

Does not own: what is shown and played in between.
-/

namespace Chip8

/-- Neither opens a device nor closes one. -/
def MediaCall.uses : MediaCall → Bool
  | .openDisplay | .closeDisplay | .openMixer | .closeMixer => false
  | _ => true

/-! ### What a host says -/

namespace Window

theorem uses_of_mem_refresh {window : Window} {changed : Bool} {call : MediaCall}
    (member : call ∈ window.refresh changed) : call.uses = true := by
  unfold refresh at member
  split at member
  · simp only [List.mem_cons, List.not_mem_nil, or_false] at member
    rcases member with rfl | rfl | rfl | rfl <;> rfl
  · contradiction

theorem uses_of_mem_hear {window : Window} {signal : Signal} {call : MediaCall}
    (member : call ∈ (window.hear signal).2) : call.uses = true := by
  cases signal with
  | resolution | frame | buzzer | key | trace => contradiction
  | refresh changed => exact uses_of_mem_refresh member
  | performance frames instructions =>
    rw [List.mem_singleton.mp member]
    rfl

end Window

namespace Speaker

variable {α : Type} {speaker : Speaker α} {call : MediaCall}

theorem uses_of_mem_stopSound (member : call ∈ speaker.stopSound) : call.uses = true := by
  unfold stopSound at member
  split at member
  · rw [List.mem_singleton.mp member]
    rfl
  · contradiction

theorem uses_of_mem_setFrequency [Truth α] {room : Extent.Room} {frequency : Rat}
    (member : call ∈ (speaker.setFrequency room frequency).calls) : call.uses = true := by
  unfold setFrequency at member
  split at member
  · contradiction
  · dsimp only at member
    split at member
    · contradiction
    · simp only [List.mem_append, List.mem_cons, List.not_mem_nil, or_false] at member
      rcases member with (stopped | rfl | rfl) | played
      · exact uses_of_mem_stopSound stopped
      · rfl
      · rfl
      · split at played
        · rw [List.mem_singleton.mp played]
          rfl
        · contradiction

theorem uses_of_mem_enable [Truth α] {enabled : α}
    (member : call ∈ (speaker.enable enabled).calls) : call.uses = true := by
  unfold enable at member
  dsimp only at member
  split at member
  · rw [List.mem_singleton.mp member]
    rfl
  · rw [List.mem_singleton.mp member]
    rfl
  · contradiction
  · contradiction
  · contradiction

end Speaker

namespace Devices

variable {devices : Devices} {call : MediaCall}

theorem uses_of_mem_hear {signal : Signal} (member : call ∈ (devices.hear signal).2) :
    call.uses = true := by
  obtain ⟨window, speaker⟩ := devices
  rcases List.mem_append.mp member with shown | played
  · cases window with
    | none => contradiction
    | some window => exact Window.uses_of_mem_hear shown
  · cases speaker with
    | none => contradiction
    | some speaker =>
      cases signal with
      | buzzer sounding => exact Speaker.uses_of_mem_enable played
      | resolution | frame | refresh | performance | key | trace => contradiction

/-- Whatever a host says, no device is opened or closed. -/
theorem uses_of_mem_hearAll {signals : List Signal} (member : call ∈ (devices.hearAll signals).2) :
    call.uses = true := by
  induction signals generalizing devices with
  | nil => contradiction
  | cons signal later inductionHypothesis =>
    rcases List.mem_append.mp member with now | then_
    · exact uses_of_mem_hear now
    · exact inductionHypothesis then_

theorem present_hear (devices : Devices) (signal : Signal) :
    (devices.hear signal).1.window.isSome = devices.window.isSome ∧
      (devices.hear signal).1.speaker.isSome = devices.speaker.isSome := by
  obtain ⟨window, speaker⟩ := devices
  refine ⟨?_, ?_⟩
  · cases window <;> rfl
  · cases speaker <;> cases signal <;> rfl

/-- The devices that there are stay. -/
theorem present_hearAll (devices : Devices) (signals : List Signal) :
    (devices.hearAll signals).1.window.isSome = devices.window.isSome ∧
      (devices.hearAll signals).1.speaker.isSome = devices.speaker.isSome := by
  induction signals generalizing devices with
  | nil => exact ⟨rfl, rfl⟩
  | cons signal later inductionHypothesis =>
    obtain ⟨window, speaker⟩ := devices.present_hear signal
    obtain ⟨laterWindow, laterSpeaker⟩ := inductionHypothesis (devices.hear signal).1
    exact ⟨laterWindow.trans window, laterSpeaker.trans speaker⟩

/-- Putting devices away closes each of those that there are. -/
theorem mem_close_of_isSome (devices : Devices) :
    (devices.window.isSome = true → MediaCall.closeDisplay ∈ devices.close) ∧
      (devices.speaker.isSome = true → MediaCall.closeMixer ∈ devices.close) := by
  obtain ⟨window, speaker⟩ := devices
  constructor
  · intro present
    obtain ⟨window, rfl⟩ := Option.isSome_iff_exists.mp present
    exact List.mem_append_right _ List.mem_cons_self
  · intro present
    obtain ⟨speaker, rfl⟩ := Option.isSome_iff_exists.mp present
    exact List.mem_append_left _ (List.mem_append_right _ List.mem_cons_self)

theorem of_mem_close (member : call ∈ devices.close) :
    call.uses = true ∨ call = .closeMixer ∨ call = .closeDisplay := by
  obtain ⟨window, speaker⟩ := devices
  rcases List.mem_append.mp member with ofSpeaker | ofWindow
  · cases speaker with
    | none => contradiction
    | some speaker =>
      rcases List.mem_append.mp ofSpeaker with stopped | closed
      · exact Or.inl (Speaker.uses_of_mem_stopSound stopped)
      · exact Or.inr (Or.inl (List.mem_singleton.mp closed))
  · cases window with
    | none => contradiction
    | some window => exact Or.inr (Or.inr (List.mem_singleton.mp ofWindow))

end Devices

namespace Launch

open CommandLine (Options Given)

/-! ### Opening and closing -/

/-- Every call of the first kind is followed by one of the second. -/
def Releases (opening closing : MediaCall) (calls : List MediaCall) : Prop :=
  ∀ before after, calls = before ++ opening :: after → closing ∈ after

/-- Where only early calls open and only late ones close, a device is released exactly if it was
never opened or is closed at last. -/
theorem releases_append_iff {opening closing : MediaCall} {early late : List MediaCall}
    (notLate : opening ∉ late) (notEarly : closing ∉ early) :
    Releases opening closing (early ++ late) ↔ (opening ∈ early → closing ∈ late) := by
  constructor
  · intro releases opened
    obtain ⟨before, after, rfl⟩ := List.append_of_mem opened
    have closed : closing ∈ after ++ late := releases before (after ++ late) (by simp)
    refine (List.mem_append.mp closed).resolve_left fun tooEarly => notEarly ?_
    exact List.mem_append_right before (List.mem_cons_of_mem _ tooEarly)
  · intro closedIfOpened before after split
    rcases List.append_eq_append_iff.mp split with ⟨middle, -, rest⟩ | ⟨middle, whole, rest⟩
    · rw [rest] at notLate
      exact absurd (List.mem_append_right middle List.mem_cons_self) notLate
    -- The call stands where `early` ends or within it.
    · cases middle with
      | nil =>
        rw [List.nil_append] at rest
        rw [← rest] at notLate
        exact absurd List.mem_cons_self notLate
      | cons first others =>
        obtain ⟨rfl, rfl⟩ := List.cons.inj rest
        have opened : opening ∈ early := by
          rw [whole]
          exact List.mem_append_right before List.mem_cons_self
        exact List.mem_append_right others (closedIfOpened opened)

theorem not_releases {opening closing : MediaCall} {calls : List MediaCall}
    (opened : opening ∈ calls) (notClosed : closing ∉ calls) :
    ¬Releases opening closing calls := by
  rw [← List.append_nil calls, releases_append_iff List.not_mem_nil notClosed]
  exact fun closes => nomatch closes opened

/-! ### The settings looked at on the way -/

/-- A run that gets as far as a window. -/
structure OpensWindow (options : Options) (surroundings : Surroundings) : Prop where
  notListing : options.listing = false
  program : ∃ program, surroundings.program = .ok program ∧ program.length ≤ programLimit
  renderer : chooseRenderer options surroundings.windowAvailable = .ok (some .window)

/-- The settings that are looked at after the window was opened and before there is a speaker. -/
structure WindowAccepts (options : Options) : Prop where
  scale : options.scale ≠ .blank
  palette : (readPalette options).isOk = true
  keyMap : (readKeyMap options).isOk = true

def Muted (options : Options) : Prop :=
  options.mute.toOption.getD false = true

/-- A run that gets as far as a speaker. -/
structure OpensSpeaker (options : Options) (surroundings : Surroundings) : Prop where
  window : OpensWindow options surroundings
  accepted : WindowAccepts options
  notMuted : ¬Muted options

/-- The setting that is looked at last. -/
def SpeedAccepted (options : Options) : Prop :=
  ((options.clockSpeed.ask .clockSpeedBlank).bind Host.intervalOf).isOk = true

variable {options : Options} {surroundings : Surroundings} {call : MediaCall}

theorem openDisplay_mem_startWindow (options : Options) :
    .openDisplay ∈ (startWindow options).1 := by
  have first : MediaCall.openDisplay ∈ Window.opening := List.mem_cons_self
  unfold startWindow
  split
  · exact first
  · exact List.mem_append_left _ first

theorem notMem_startWindow (options : Options) (notUse : call.uses = false)
    (other : call ≠ .openDisplay) : call ∉ (startWindow options).1 := by
  have opening : ∀ call ∈ Window.opening, call.uses = true ∨ call = .openDisplay := by
    decide
  have notOpening : call ∉ Window.opening := fun member =>
    (opening call member).elim (fun use => nomatch notUse.symm.trans use) other
  unfold startWindow
  split
  · exact notOpening
  · intro member
    rcases List.mem_append.mp member with early | last
    · exact notOpening early
    · rw [List.mem_singleton.mp last] at notUse
      contradiction

theorem openMixer_mem_startSpeaker (options : Options) (room : Extent.Room) :
    .openMixer ∈ (startSpeaker options room).1 ↔ ¬Muted options := by
  unfold startSpeaker Muted
  split <;> simp [*, Speaker.start]

theorem notMem_startSpeaker (options : Options) (room : Extent.Room) (notUse : call.uses = false)
    (other : call ≠ .openMixer) : call ∉ (startSpeaker options room).1 := by
  intro member
  unfold startSpeaker at member
  split at member
  · contradiction
  · rcases List.mem_append.mp member with opening | tuned
    · rcases List.mem_cons.mp opening with rfl | last
      · contradiction
      · exact other (List.mem_singleton.mp last)
    · exact nomatch notUse.symm.trans (Speaker.uses_of_mem_setFrequency tuned)

/-- The pitch of the buzzer takes no more room than there is in any surroundings. -/
theorem playable_buzzerFrequency (surroundings : Surroundings) :
    Speaker.Playable surroundings.room buzzerFrequency := by
  have half : Wave.halfPeriod buzzerFrequency = some 50 := by decide +kernel
  exact ⟨by decide, 50, half, Nat.le_trans (by decide) surroundings.ample⟩

/-- A speaker is made unless the sound is muted, and it is never refused its sound. -/
theorem startSpeaker_accepted (options : Options) (surroundings : Surroundings) :
    ∃ speaker, (startSpeaker options surroundings.room).2 = .ok speaker ∧
      (speaker.isSome = true ↔ ¬Muted options) := by
  unfold startSpeaker Muted
  split
  · exact ⟨none, rfl, by simp [*]⟩
  · have tuned := (Speaker.fault_setFrequency_eq_none_iff (Speaker.start false).1
      surroundings.room buzzerFrequency).mpr (.inr (playable_buzzerFrequency surroundings))
    dsimp only
    rw [tuned]
    exact ⟨some _, rfl, by simp [*]⟩

theorem isOk_startHost (options : Options) (processor : Processor) (keyMap : KeyMap) :
    (startHost options processor keyMap).isOk =
      ((options.clockSpeed.ask .clockSpeedBlank).bind Host.intervalOf).isOk := by
  unfold startHost Host.start
  cases options.clockSpeed.ask .clockSpeedBlank with
  | error fault => rfl
  | ok speed =>
    change Except.isOk (Except.bind (Host.intervalOf speed) _) = (Host.intervalOf speed).isOk
    cases Host.intervalOf speed <;> rfl

theorem isOk_startWindow (options : Options) :
    (startWindow options).2.isOk = true ↔
      options.scale ≠ .blank ∧ (readPalette options).isOk = true := by
  have opened : ∀ scale, (Window.start scale (readPalette options)).2.isOk =
      (readPalette options).isOk := by
    intro scale
    unfold Window.start
    cases readPalette options <;> rfl
  unfold startWindow
  cases options.scale with
  | blank => simp [Given.ask, Except.isOk, Except.toBool]
  | unsaid => simp [Given.ask, opened]
  | value wanted => simp [Given.ask, opened]

/-- How far the preparations come: nothing is closed again on the way. -/
inductive Prepared (options : Options) (surroundings : Surroundings) : Preparation → Prop where
  | refused (fault : Fault) (notAccepted : ¬WindowAccepts options) :
    Prepared options surroundings ⟨(startWindow options).1, .error fault⟩
  | tooLate (fault : Fault) (accepted : WindowAccepts options) (notSpeed : ¬SpeedAccepted options) :
    Prepared options surroundings
      ⟨(startWindow options).1 ++ (startSpeaker options surroundings.room).1, .error fault⟩
  | ready (host : Host) (window : Window) {speaker : Option (Speaker Bool)}
      (present : speaker.isSome = true ↔ ¬Muted options) (accepted : WindowAccepts options)
      (speed : SpeedAccepted options) :
    Prepared options surroundings
      ⟨(startWindow options).1 ++ (startSpeaker options surroundings.room).1,
        .ok (host, ⟨some window, speaker⟩)⟩

theorem prepared_prepareWindow (options : Options) (surroundings : Surroundings)
    (processor : Processor) : Prepared options surroundings
      (prepareWindow options surroundings.room processor) := by
  have windowOk := isOk_startWindow options
  unfold prepareWindow
  cases started : startWindow options with
  | mk opening window =>
    obtain rfl : (startWindow options).1 = opening := congrArg Prod.fst started
    rw [started] at windowOk
    cases window with
    | error fault =>
      exact .refused fault fun accepted => nomatch windowOk.mpr ⟨accepted.scale, accepted.palette⟩
    | ok window =>
      obtain ⟨scale, palette⟩ := windowOk.mp rfl
      dsimp only
      cases keys : readKeyMap options with
      | error fault =>
        refine .refused fault fun accepted => ?_
        have keyMapOk := accepted.keyMap
        rw [keys] at keyMapOk
        contradiction
      | ok keyMap =>
        have accepted : WindowAccepts options := ⟨scale, palette, by rw [keys]; rfl⟩
        obtain ⟨speaker, made, present⟩ := startSpeaker_accepted options surroundings
        have hostOk := isOk_startHost options processor keyMap
        dsimp only
        rw [made]
        cases hosted : startHost options processor keyMap with
        | error fault =>
          rw [hosted] at hostOk
          exact .tooLate fault accepted fun speed => nomatch hostOk.trans speed
        | ok host =>
          rw [hosted] at hostOk
          exact .ready host window present accepted hostOk.symm

/-! ### The calls of a whole run -/

/-- A session opens no devices and closes those it was given. -/
theorem runHost_calls (surroundings : Surroundings) (host : Host) (devices : Devices) :
    let calls := (runHost surroundings host devices).calls
    (.openDisplay ∉ calls ∧ .openMixer ∉ calls) ∧
      (devices.window.isSome = true → .closeDisplay ∈ calls) ∧
      (devices.speaker.isSome = true → .closeMixer ∈ calls) := by
  have heard : ∃ signals, (runHost surroundings host devices).calls =
      (devices.hearAll signals).2 ++ (devices.hearAll signals).1.close :=
    ⟨_, rfl⟩
  obtain ⟨signals, calls⟩ := heard
  obtain ⟨window, speaker⟩ := devices.present_hearAll signals
  obtain ⟨closesWindow, closesSpeaker⟩ := (devices.hearAll signals).1.mem_close_of_isSome
  have notOpening : ∀ call ∈ (runHost surroundings host devices).calls,
      call.uses = true ∨ call = .closeMixer ∨ call = .closeDisplay := by
    rw [calls]
    intro call member
    rcases List.mem_append.mp member with used | closed
    · exact Or.inl (Devices.uses_of_mem_hearAll used)
    · exact Devices.of_mem_close closed
  refine ⟨⟨?_, ?_⟩, ?_, ?_⟩
  · intro member
    simpa [MediaCall.uses] using notOpening _ member
  · intro member
    simpa [MediaCall.uses] using notOpening _ member
  · rw [calls, ← window]
    exact fun present => List.mem_append_right _ (closesWindow present)
  · rw [calls, ← speaker]
    exact fun present => List.mem_append_right _ (closesSpeaker present)

/-- The calls that make a window and a speaker close neither. -/
theorem start_calls (options : Options) (room : Extent.Room) :
    let calls := (startWindow options).1 ++ (startSpeaker options room).1
    .openDisplay ∈ calls ∧ (.openMixer ∈ calls ↔ ¬Muted options) ∧
      .closeDisplay ∉ calls ∧ .closeMixer ∉ calls := by
  intro calls
  have notClosing : ∀ call : MediaCall, call.uses = false → call ≠ .openDisplay →
      call ≠ .openMixer → call ∉ calls := by
    intro call notUse notDisplay notMixer member
    rcases List.mem_append.mp member with ofWindow | ofSpeaker
    · exact notMem_startWindow options notUse notDisplay ofWindow
    · exact notMem_startSpeaker options room notUse notMixer ofSpeaker
  refine ⟨List.mem_append_left _ (openDisplay_mem_startWindow options), ?_,
    notClosing _ rfl (by decide) (by decide), notClosing _ rfl (by decide) (by decide)⟩
  rw [List.mem_append, openMixer_mem_startSpeaker,
    or_iff_right (notMem_startWindow options rfl (by decide))]

theorem run_of_opensWindow (opens : OpensWindow options surroundings) :
    ∃ preparation, Prepared options surroundings preparation ∧
      (run options surroundings).calls =
        match preparation.ready with
        | .error _ => preparation.calls
        | .ok (host, devices) =>
          preparation.calls ++ (runHost surroundings host devices).calls := by
  obtain ⟨program, found, fits⟩ := opens.program
  let processor :=
    Processor.start (options.flagsIndexOverflow.toOption.getD false) options.debug
      surroundings.random
  have loads : ∃ loaded, processor.load program = (loaded, none) := by
    unfold Processor.load
    rw [Machine.load_eq, if_neg (by omega)]
    exact ⟨_, rfl⟩
  obtain ⟨loaded, load⟩ := loads
  have prepared : prepare options surroundings program =
      prepareWindow options surroundings.room loaded := by
    unfold prepare
    rw [opens.renderer]
    dsimp only
    rw [load]
  refine ⟨prepareWindow options surroundings.room loaded,
    prepared_prepareWindow options surroundings loaded, ?_⟩
  unfold run
  rw [found, opens.notListing]
  dsimp only
  rw [prepared]
  cases (prepareWindow options surroundings.room loaded).ready <;> rfl

theorem prepare_calls_eq_nil {program : List UInt8}
    (noWindow : ¬(program.length ≤ programLimit ∧
      chooseRenderer options surroundings.windowAvailable = .ok (some .window))) :
    (prepare options surroundings program).calls = [] := by
  unfold prepare
  cases chosen : chooseRenderer options surroundings.windowAvailable with
  | error fault => rfl
  | ok renderer =>
    dsimp only
    unfold Processor.load
    rw [Machine.load_eq]
    by_cases fits : program.length ≤ programLimit
    · rw [if_neg (by omega)]
      match renderer, chosen with
      | some .window, chosen => exact absurd ⟨fits, chosen⟩ noWindow
      | some .headless, _ => rfl
      | none, _ => rfl
    · rw [if_pos (by omega)]
      rfl

theorem notMem_of_not_opensWindow (notOpened : ¬OpensWindow options surroundings) :
    .openDisplay ∉ (run options surroundings).calls ∧
      .openMixer ∉ (run options surroundings).calls := by
  unfold run
  cases found : surroundings.program with
  | error fault => exact ⟨List.not_mem_nil, List.not_mem_nil⟩
  | ok program =>
    dsimp only
    cases listing : options.listing with
    | true => exact ⟨List.not_mem_nil, List.not_mem_nil⟩
    | false =>
      have early : (prepare options surroundings program).calls = [] :=
        prepare_calls_eq_nil fun window => notOpened ⟨listing, ⟨program, found, window.1⟩, window.2⟩
      rw [if_neg (by decide)]
      cases (prepare options surroundings program).ready with
      | error fault =>
        rw [early]
        exact ⟨List.not_mem_nil, List.not_mem_nil⟩
      | ok ready =>
        rw [early]
        exact (runHost_calls surroundings ready.1 ready.2).1

/-- The calls of a run in two parts: the first opens the devices of the run and closes none, and the
second opens none and closes those whose settings are accepted. -/
structure Phases (options : Options) (surroundings : Surroundings) (early late : List MediaCall) :
    Prop where
  window : .openDisplay ∈ early ↔ OpensWindow options surroundings
  speaker : .openMixer ∈ early ↔ OpensSpeaker options surroundings
  noneClosed : .closeDisplay ∉ early ∧ .closeMixer ∉ early
  noneOpened : .openDisplay ∉ late ∧ .openMixer ∉ late
  windowClosed : OpensWindow options surroundings →
    (.closeDisplay ∈ late ↔ WindowAccepts options ∧ SpeedAccepted options)
  speakerClosed : OpensSpeaker options surroundings →
    (.closeMixer ∈ late ↔ SpeedAccepted options)

theorem phases_of_opensWindow (opens : OpensWindow options surroundings) :
    ∃ early late, (run options surroundings).calls = early ++ late ∧
      Phases options surroundings early late := by
  obtain ⟨window, speaker, noneClosed⟩ := start_calls options surroundings.room
  obtain ⟨preparation, prepared, whole⟩ := run_of_opensWindow opens
  -- A refused setting ends the run at once, and then nothing is left for the second part.
  cases prepared with
  | refused fault notAccepted =>
    refine ⟨_, [], whole.trans (List.append_nil _).symm, ?_⟩
    exact {
      window := iff_of_true (openDisplay_mem_startWindow options) opens
      speaker := iff_of_false (notMem_startWindow options rfl (by decide))
        fun opensSpeaker => notAccepted opensSpeaker.accepted
      noneClosed :=
        ⟨notMem_startWindow options rfl (by decide), notMem_startWindow options rfl (by decide)⟩
      noneOpened := ⟨List.not_mem_nil, List.not_mem_nil⟩
      windowClosed := fun _ => iff_of_false List.not_mem_nil fun accepts => notAccepted accepts.1
      speakerClosed := fun opensSpeaker => absurd opensSpeaker.accepted notAccepted }
  | tooLate fault accepted notSpeed =>
    refine ⟨_, [], whole.trans (List.append_nil _).symm, ?_⟩
    exact {
      window := iff_of_true window opens
      speaker := speaker.trans ⟨fun notMuted => ⟨opens, accepted, notMuted⟩, OpensSpeaker.notMuted⟩
      noneClosed := noneClosed
      noneOpened := ⟨List.not_mem_nil, List.not_mem_nil⟩
      windowClosed := fun _ => iff_of_false List.not_mem_nil fun accepts => notSpeed accepts.2
      speakerClosed := fun _ => iff_of_false List.not_mem_nil notSpeed }
  | @ready host shown sound present accepted speed =>
    obtain ⟨noneOpened, windowClosed, speakerClosed⟩ :=
      runHost_calls surroundings host ⟨some shown, sound⟩
    refine ⟨_, _, whole, ?_⟩
    exact {
      window := iff_of_true window opens
      speaker := speaker.trans ⟨fun notMuted => ⟨opens, accepted, notMuted⟩, OpensSpeaker.notMuted⟩
      noneClosed := noneClosed
      noneOpened := noneOpened
      windowClosed := fun _ => iff_of_true (windowClosed rfl) ⟨accepted, speed⟩
      speakerClosed := fun opensSpeaker => iff_of_true
        (speakerClosed (present.mpr opensSpeaker.notMuted)) speed }

theorem phases_of_not_opensWindow (notOpened : ¬OpensWindow options surroundings) :
    Phases options surroundings [] (run options surroundings).calls where
  window := iff_of_false List.not_mem_nil notOpened
  speaker := iff_of_false List.not_mem_nil fun opensSpeaker => notOpened opensSpeaker.window
  noneClosed := ⟨List.not_mem_nil, List.not_mem_nil⟩
  noneOpened := notMem_of_not_opensWindow notOpened
  windowClosed := fun opens => absurd opens notOpened
  speakerClosed := fun opensSpeaker => absurd opensSpeaker.window notOpened

/-- Whatever the settings, a window that was opened is closed before the end of a run, however it
ends, exactly if no setting is refused; and a speaker that was opened exactly if the speed is not
refused, which is looked at last. -/
theorem devices_closed_iff_accepted (options : Options) (surroundings : Surroundings) :
    let calls := (run options surroundings).calls
    ((.openDisplay ∈ calls ↔ OpensWindow options surroundings) ∧
      (.openMixer ∈ calls ↔ OpensSpeaker options surroundings)) ∧
      (Releases .openDisplay .closeDisplay calls ↔
        (OpensWindow options surroundings → WindowAccepts options ∧ SpeedAccepted options)) ∧
      (Releases .openMixer .closeMixer calls ↔
        (OpensSpeaker options surroundings → SpeedAccepted options)) := by
  intro calls
  have split : ∃ early late, calls = early ++ late ∧ Phases options surroundings early late := by
    by_cases opens : OpensWindow options surroundings
    · exact phases_of_opensWindow opens
    · exact ⟨[], calls, rfl, phases_of_not_opensWindow opens⟩
  obtain ⟨early, late, whole, phases⟩ := split
  obtain ⟨noWindow, noSpeaker⟩ := phases.noneOpened
  obtain ⟨windowKept, speakerKept⟩ := phases.noneClosed
  rw [whole]
  refine ⟨⟨?_, ?_⟩, ?_, ?_⟩
  · rw [List.mem_append, or_iff_left noWindow]
    exact phases.window
  · rw [List.mem_append, or_iff_left noSpeaker]
    exact phases.speaker
  · rw [releases_append_iff noWindow windowKept, phases.window]
    exact forall_congr' phases.windowClosed
  · rw [releases_append_iff noSpeaker speakerKept, phases.speaker]
    exact forall_congr' phases.speakerClosed

/-- A negative speed is refused when the window and the speaker are open. -/
theorem devices_left_open_at_negative_speed :
    let options : Options := { Options.forFile "keypad.ch8" with clockSpeed := .value (-3) }
    let surroundings : Surroundings := {
      room := ⟨0x10000, by decide⟩
      ample := by decide
      program := .ok [0x60, 0x03, 0xF0, 0x18]
      windowAvailable := true
      random := ⟨fun _ => 0, 0⟩
      clock := ⟨fun _ => 0.0, 0, 9000⟩
      events := fun _ => [] }
    let report := run options surroundings
    report.fault = some .negativeClockSpeed ∧
      ¬Releases .openDisplay .closeDisplay report.calls ∧
      ¬Releases .openMixer .closeMixer report.calls := by
  intro options surroundings report
  have left : report.fault = some .negativeClockSpeed ∧
      (.openDisplay ∈ report.calls ∧ .closeDisplay ∉ report.calls) ∧
      (.openMixer ∈ report.calls ∧ .closeMixer ∉ report.calls) := by
    decide +kernel
  obtain ⟨fault, ⟨window, windowKept⟩, speaker, speakerKept⟩ := left
  exact ⟨fault, not_releases window windowKept, not_releases speaker speakerKept⟩

end Launch

end Chip8
