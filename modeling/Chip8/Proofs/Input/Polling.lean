import Chip8.Host
import Chip8.Input.Poll
import Chip8.Proofs.Input.KeyMap
import Chip8.Proofs.Processor.KeyWait
import Chip8.Proofs.Processor.Refusal

/-!
Contract: the events of a window reach the keypad one by one, whatever else they ask for.

Owns:
- `KeyMap.downAfter` and `KeyMap.FirstDown`, which tell from the events alone what keys are down
  and which key went down first;
- that the keypad after any looks is the one so told, and that each look asks to quit just when
  one of its events does.

Does not own: what becomes of a key that was caught.
-/

namespace Chip8

namespace WindowEvent

/-- What an event tells of a host key: that it is down, that it is up, or nothing. -/
def tells (code : Int) : WindowEvent → Option Bool
  | .keyDown hostKey => if hostKey = code then some true else none
  | .keyUp hostKey => if hostKey = code ∧ hostKey ≠ escapeKey then some false else none
  | _ => none

theorem tells_eq_some_iff {code : Int} {event : WindowEvent} {pressed : Bool} :
    event.tells code = some pressed ↔ event.keyEvent = some ⟨code, pressed⟩ := by
  cases event with
  | keyDown hostKey => simp [tells, keyEvent]
  | keyUp hostKey =>
    by_cases escape : hostKey = escapeKey <;> simp [tells, keyEvent, escape]
  | close | other => simp [tells, keyEvent]

theorem tells_eq_some_true_iff {code : Int} {event : WindowEvent} :
    event.tells code = some true ↔ event = .keyDown code := by
  cases event <;> simp [tells]

theorem asksToQuit_iff (event : WindowEvent) :
    event.asksToQuit = true ↔ event = .close ∨ event = .keyUp escapeKey := by
  cases event <;> simp [asksToQuit]

end WindowEvent

open WindowEvent (tells)

namespace KeyMap

/-- Whether a key is down after events: as its host key was told last, or else as before. -/
def downAfter (keyMap : KeyMap) (held : Key → Bool) (events : List WindowEvent) (key : Key) :
    Bool :=
  (events.filterMap (tells (keyMap.codes.get key))).getLast?.getD (held key)

/-- One of the events is the first that brings a key down which was up until then: this key. -/
def FirstDown (keyMap : KeyMap) (held : Key → Bool) (events : List WindowEvent) (key : Key) :
    Prop :=
  ∃ before later, events = before ++ .keyDown (keyMap.codes.get key) :: later ∧
    keyMap.downAfter held before key = false ∧
    ∀ earlier other between, before = earlier ++ .keyDown (keyMap.codes.get other) :: between →
      keyMap.downAfter held earlier other = true

/-- Whether an event tells anything of a mapped key. -/
abbrev Concerns (keyMap : KeyMap) (event : WindowEvent) : Prop :=
  ∃ key, event.tells (keyMap.codes.get key) ≠ none

/-- The key that an event sets, and how. -/
def change? (keyMap : KeyMap) (event : WindowEvent) : Option (Key × Bool) := do
  let told ← event.keyEvent
  return (← keyMap.keyOf told.hostKey, told.pressed)

/-- The keypad after one event, where every key has its flag. -/
def received (keyMap : KeyMap) (keypad : Keypad) (event : WindowEvent) : Keypad :=
  match keyMap.change? event with
  | none => keypad
  | some (key, pressed) => keypad.switch key pressed

end KeyMap

/-! ### What the events tell -/

namespace KeyMap

section Telling

variable {keyMap : KeyMap} {held : Key → Bool} {event : WindowEvent} {events : List WindowEvent}

theorem downAfter_cons (event : WindowEvent) (later : List WindowEvent) :
    keyMap.downAfter held (event :: later) =
      keyMap.downAfter (keyMap.downAfter held [event]) later := by
  funext key
  unfold downAfter
  cases told : event.tells (keyMap.codes.get key) with
  | none => simp [told]
  | some pressed => simp [told, List.getLast?_cons]

theorem firstDown_cons_iff {key : Key} {later : List WindowEvent} :
    keyMap.FirstDown held (event :: later) key ↔
      (event = .keyDown (keyMap.codes.get key) ∧ held key = false) ∨
        (∀ other, event = .keyDown (keyMap.codes.get other) → held other = true) ∧
          keyMap.FirstDown (keyMap.downAfter held [event]) later key := by
  constructor
  · rintro ⟨before, rest, split, up, first⟩
    cases before with
    | nil =>
      rw [List.nil_append, List.cons.injEq] at split
      exact .inl ⟨split.1, up⟩
    | cons head before =>
      rw [List.cons_append, List.cons.injEq] at split
      obtain ⟨rfl, rfl⟩ := split
      rw [downAfter_cons] at up
      refine .inr ⟨?_, before, rest, rfl, up, ?_⟩
      · rintro other rfl
        exact first [] other before rfl
      · rintro earlier other between rfl
        rw [← downAfter_cons]
        exact first (event :: earlier) other between rfl
  · rintro (⟨rfl, up⟩ | ⟨quiet, before, rest, rfl, up, first⟩)
    · exact ⟨[], later, rfl, up, fun _ _ _ split => absurd split (by simp)⟩
    · rw [← downAfter_cons] at up
      refine ⟨event :: before, rest, rfl, up, ?_⟩
      intro earlier other between split
      cases earlier with
      | nil =>
        rw [List.nil_append, List.cons.injEq] at split
        exact quiet other split.1
      | cons head earlier =>
        rw [List.cons_append, List.cons.injEq] at split
        obtain ⟨rfl, rfl⟩ := split
        rw [downAfter_cons]
        exact first earlier other between rfl

theorem change?_eq_some_iff (different : keyMap.codes.toList.Nodup) {key : Key} {pressed : Bool} :
    keyMap.change? event = some (key, pressed) ↔
      event.tells (keyMap.codes.get key) = some pressed := by
  rw [WindowEvent.tells_eq_some_iff]
  unfold change?
  cases told : event.keyEvent with
  | none => simp
  | some keyEvent =>
    obtain ⟨hostKey, down⟩ := keyEvent
    cases mapped : keyMap.keyOf hostKey with
    | none =>
      have unmapped : hostKey ≠ keyMap.codes.get key := by
        rintro rfl
        rw [(keyOf_eq_some_iff different _ key).mpr rfl] at mapped
        contradiction
      simp [mapped, unmapped]
    | some found =>
      have code := (keyOf_eq_some_iff different hostKey found).mp mapped
      have sameKey : found = key ↔ hostKey = keyMap.codes.get key := by
        rw [← code]
        exact (injective_get_iff.mpr different).eq_iff.symm
      simp [mapped, sameKey]

theorem change?_eq_none_iff (different : keyMap.codes.toList.Nodup) :
    keyMap.change? event = none ↔ ¬keyMap.Concerns event := by
  rw [Option.eq_none_iff_forall_ne_some, not_exists]
  constructor
  · intro nothing key
    rw [not_not, Option.eq_none_iff_forall_ne_some]
    intro pressed told
    exact nothing (key, pressed) ((change?_eq_some_iff different).mpr told)
  · rintro nothing ⟨key, pressed⟩ changes
    have told := (change?_eq_some_iff different).mp changes
    exact nothing key (told ▸ Option.some_ne_none pressed)

end Telling

/-! ### What one event does to a keypad -/

section Receiving

variable {keyMap : KeyMap} {keypad : Keypad} {event : WindowEvent} {events : List WindowEvent}

theorem received_of_change {key : Key} {pressed : Bool}
    (changes : keyMap.change? event = some (key, pressed)) :
    keyMap.received keypad event = keypad.switch key pressed := by
  unfold received
  rw [changes]

theorem received_of_no_change (unchanged : keyMap.change? event = none) :
    keyMap.received keypad event = keypad := by
  unfold received
  rw [unchanged]

theorem complete_received (complete : keypad.Complete) (event : WindowEvent) :
    (keyMap.received keypad event).Complete := by
  unfold received
  split
  · exact complete
  · exact complete.switch _ _

theorem armed_received (event : WindowEvent) :
    (keyMap.received keypad event).armed = keypad.armed := by
  unfold received
  split <;> rfl

theorem holds_received (different : keyMap.codes.toList.Nodup) (complete : keypad.Complete)
    (event : WindowEvent) :
    (keyMap.received keypad event).holds = keyMap.downAfter keypad.holds [event] := by
  funext key
  have told : keyMap.downAfter keypad.holds [event] key =
      (event.tells (keyMap.codes.get key)).getD (keypad.holds key) := by
    unfold downAfter
    cases told : event.tells (keyMap.codes.get key) <;> simp [told]
  rw [told]
  cases changes : keyMap.change? event with
  | none =>
    have nothing := not_exists.mp ((change?_eq_none_iff different).mp changes) key
    rw [received_of_no_change changes, not_not.mp nothing, Option.getD_none]
  | some change =>
    obtain ⟨changed, pressed⟩ := change
    rw [received_of_change changes, Keypad.holds_switch complete]
    by_cases same : key = changed
    · subst same
      rw [(change?_eq_some_iff different).mp changes, Function.update_self, Option.getD_some]
    · have nothing : event.tells (keyMap.codes.get key) = none := by
        rw [Option.eq_none_iff_forall_ne_some]
        intro other told
        rw [(change?_eq_some_iff different).mpr told, Option.some.injEq, Prod.mk.injEq] at changes
        exact same changes.1
      rw [nothing, Function.update_of_ne same, Option.getD_none]

/-- A key caught stays so. -/
theorem latch_foldl_received {caught : Key} (latched : keypad.latch = some caught)
    (events : List WindowEvent) :
    (events.foldl keyMap.received keypad).latch = some caught := by
  induction events generalizing keypad with
  | nil => exact latched
  | cons event later inductionHypothesis =>
    apply inductionHypothesis
    unfold received
    split
    · exact latched
    · simp [Keypad.switch, latched]

theorem latch_received_of_press (different : keyMap.codes.toList.Nodup)
    (armed : keypad.armed = true) (empty : keypad.latch = none) {key : Key}
    (up : keypad.holds key = false) :
    (keyMap.received keypad (.keyDown (keyMap.codes.get key))).latch = some key := by
  have told := WindowEvent.tells_eq_some_true_iff.mpr
    (Eq.refl (WindowEvent.keyDown (keyMap.codes.get key)))
  rw [received_of_change ((change?_eq_some_iff different).mpr told)]
  simp [Keypad.switch, up, armed, empty]

theorem latch_received_of_no_press (different : keyMap.codes.toList.Nodup)
    (empty : keypad.latch = none)
    (quiet : ∀ key, event = .keyDown (keyMap.codes.get key) → keypad.holds key = true) :
    (keyMap.received keypad event).latch = none := by
  cases changes : keyMap.change? event with
  | none =>
    rw [received_of_no_change changes]
    exact empty
  | some change =>
    obtain ⟨key, pressed⟩ := change
    have told := (change?_eq_some_iff different).mp changes
    rw [received_of_change changes]
    cases pressed with
    | false => simp [Keypad.switch, empty]
    | true =>
      have down := quiet key (WindowEvent.tells_eq_some_true_iff.mp told)
      simp [Keypad.switch, empty, down]

/-! ### What all events do -/

theorem complete_foldl_received (complete : keypad.Complete) (events : List WindowEvent) :
    (events.foldl keyMap.received keypad).Complete :=
  List.foldlRecOn (motive := Keypad.Complete) events _ complete
    fun _ soFar event _ => complete_received soFar event

theorem holds_foldl_received (different : keyMap.codes.toList.Nodup) (complete : keypad.Complete)
    (events : List WindowEvent) :
    (events.foldl keyMap.received keypad).holds = keyMap.downAfter keypad.holds events := by
  induction events generalizing keypad with
  | nil => rfl
  | cons event later inductionHypothesis =>
    rw [List.foldl_cons, inductionHypothesis (complete_received complete event),
      holds_received different complete, ← downAfter_cons]

theorem latch_foldl_received_iff (different : keyMap.codes.toList.Nodup)
    (complete : keypad.Complete) (armed : keypad.armed = true) (empty : keypad.latch = none)
    (events : List WindowEvent) (key : Key) :
    (events.foldl keyMap.received keypad).latch = some key ↔
      keyMap.FirstDown keypad.holds events key := by
  induction events generalizing keypad with
  | nil =>
    rw [List.foldl_nil, empty]
    refine iff_of_false (Option.some_ne_none key).symm ?_
    rintro ⟨before, later, split, -⟩
    exact absurd split (by simp)
  | cons event later inductionHypothesis =>
    rw [List.foldl_cons, firstDown_cons_iff]
    by_cases press : ∃ pressed, event = .keyDown (keyMap.codes.get pressed) ∧
        keypad.holds pressed = false
    · obtain ⟨pressed, rfl, up⟩ := press
      rw [latch_foldl_received (latch_received_of_press different armed empty up),
        Option.some.injEq]
      constructor
      · rintro rfl
        exact .inl ⟨rfl, up⟩
      · rintro (⟨same, -⟩ | ⟨quiet, -⟩)
        · exact injective_get_iff.mpr different (WindowEvent.keyDown.inj same)
        · rw [quiet pressed rfl] at up
          contradiction
    · have quiet : ∀ other, event = .keyDown (keyMap.codes.get other) →
          keypad.holds other = true := by
        intro other isPress
        rw [← Bool.not_eq_false]
        exact fun up => press ⟨other, isPress, up⟩
      rw [inductionHypothesis (complete_received complete event)
        ((armed_received event).trans armed) (latch_received_of_no_press different empty quiet),
        holds_received different complete, or_iff_right fun first => press ⟨key, first⟩,
        and_iff_right quiet]

/-- Events that tell nothing of a mapped key may be left out. -/
theorem foldl_received_filter (different : keyMap.codes.toList.Nodup) (keypad : Keypad)
    (events : List WindowEvent) :
    (events.filter fun event => decide (keyMap.Concerns event)).foldl keyMap.received keypad =
      events.foldl keyMap.received keypad := by
  induction events generalizing keypad with
  | nil => rfl
  | cons event later inductionHypothesis =>
    by_cases concerns : keyMap.Concerns event
    · rw [List.filter_cons, if_pos (decide_eq_true concerns), List.foldl_cons, List.foldl_cons,
        inductionHypothesis]
    · have unchanged := (change?_eq_none_iff different).mpr concerns
      rw [List.filter_cons, if_neg (by simpa using concerns), List.foldl_cons,
        received_of_no_change unchanged, inductionHypothesis]

end Receiving

end KeyMap

/-! ### Looks at the window -/

namespace Poll

section Looking

variable {keyMap : KeyMap} {keypad : Keypad}

theorem press_ofWindow (complete : keypad.Complete) (events : List WindowEvent) :
    press keyMap (ofWindow events).events keypad = (events.foldl keyMap.received keypad, none) := by
  induction events generalizing keypad with
  | nil => rfl
  | cons event later inductionHypothesis =>
    have received : (keyMap.received keypad event).Complete :=
      KeyMap.complete_received complete event
    have next := inductionHypothesis received
    unfold ofWindow at next ⊢
    rw [List.foldl_cons, List.filterMap_cons, ← next]
    unfold KeyMap.received KeyMap.change?
    cases told : event.keyEvent with
    | none => rfl
    | some keyEvent =>
      dsimp only
      rw [press]
      unfold KeyMap.press
      cases mapped : keyMap.keyOf keyEvent.hostKey with
      | none => simp [mapped]
      | some key => simp [mapped, complete.setKey, Except.map]

theorem quit_ofWindow_eq (events : List WindowEvent) :
    (ofWindow events).quit =
      decide (.close ∈ events ∨ .keyUp WindowEvent.escapeKey ∈ events) := by
  rw [Bool.eq_iff_iff, decide_eq_true_iff, ofWindow, List.any_eq_true]
  simp only [WindowEvent.asksToQuit_iff]
  constructor
  · rintro ⟨event, member, rfl | rfl⟩
    · exact .inl member
    · exact .inr member
  · rintro (member | member)
    · exact ⟨_, member, .inl rfl⟩
    · exact ⟨_, member, .inr rfl⟩

theorem attend_eq (complete : keypad.Complete) (events : List WindowEvent) :
    attend keyMap keypad events = (events.foldl keyMap.received keypad,
      .ok (decide (.close ∈ events ∨ .keyUp WindowEvent.escapeKey ∈ events))) := by
  unfold attend
  rw [press_ofWindow complete, ← quit_ofWindow_eq]

theorem attendAll_eq (complete : keypad.Complete) (looks : List (List WindowEvent)) :
    attendAll keyMap keypad looks = (looks.flatten.foldl keyMap.received keypad,
      looks.map fun events =>
        .ok (decide (.close ∈ events ∨ .keyUp WindowEvent.escapeKey ∈ events))) := by
  induction looks generalizing keypad with
  | nil => rfl
  | cons events later inductionHypothesis =>
    rw [attendAll, attend_eq complete]
    dsimp only
    rw [inductionHypothesis (KeyMap.complete_foldl_received complete events), List.flatten_cons,
      List.foldl_append, List.map_cons]

/-! ### Keypads with flags missing -/

theorem ofMachine_of_press {events : List KeyEvent} {after : Keypad} {fault : Fault}
    (refused : press keyMap events keypad = (after, some fault)) : fault.OfMachine := by
  induction events generalizing keypad with
  | nil => simp [press] at refused
  | cons event later inductionHypothesis =>
    rw [press] at refused
    cases pressed : keyMap.press keypad event with
    | error cause =>
      rw [pressed] at refused
      cases refused
      exact KeyMap.ofMachine_of_press pressed
    | ok result =>
      rw [pressed] at refused
      exact inductionHypothesis refused

theorem ofMachine_of_attendAll {looks : List (List WindowEvent)} {fault : Fault}
    (refused : .error fault ∈ (attendAll keyMap keypad looks).2) : fault.OfMachine := by
  induction looks generalizing keypad with
  | nil => contradiction
  | cons events later inductionHypothesis =>
    rw [attendAll] at refused
    rcases List.mem_cons.mp refused with now | afterwards
    · unfold attend at now
      cases pressed : press keyMap (ofWindow events).events keypad with
      | mk next stopped =>
        rw [pressed] at now
        cases stopped with
        | none => contradiction
        | some cause =>
          cases now
          exact ofMachine_of_press pressed
    · exact inductionHypothesis afterwards

end Looking

end Poll

/-- What the host does with the events of a poll changes the keypad of its processor and nothing
else of it. -/
theorem Host.processor_keyEvents (events : List KeyEvent) (host : Host) :
    (Host.keyEvents events host).1.processor = host.processor.withKeypad
      (Poll.press host.keyMap events host.processor.machine.keypad).1 := by
  induction events generalizing host with
  | nil => rfl
  | cons event later inductionHypothesis =>
    unfold Host.keyEvents Host.keyEvent Poll.press
    dsimp only
    cases host.keyMap.press host.processor.machine.keypad event with
    | error fault => rfl
    | ok result => exact inductionHypothesis _

namespace Poll

/-- Whatever keys are mapped, every event of every look reaches the keypad in order, also behind a
wish to quit, and a look asks to quit exactly if one of its events does. -/
theorem window_events_applied_in_order {text : String} {keyMap : KeyMap}
    (accepted : KeyMap.ofText text = .ok keyMap) (keypad : Keypad)
    (looks : List (List WindowEvent)) :
    let after := (attendAll keyMap keypad looks).1
    let answers := (attendAll keyMap keypad looks).2
    (∀ key, .error (.keyOutside key) ∉ answers) ∧
      (keypad.Complete →
        answers = looks.map (fun events =>
          .ok (decide (.close ∈ events ∨ .keyUp WindowEvent.escapeKey ∈ events))) ∧
        (∀ key, after.holds key = keyMap.downAfter keypad.holds looks.flatten key) ∧
        (attendAll keyMap keypad (looks.map fun events =>
          events.filter fun event => decide (keyMap.Concerns event))).1 = after ∧
        (keypad.armed = true → keypad.latch = none → ∀ key,
          after.latch = some key ↔ keyMap.FirstDown keypad.holds looks.flatten key)) ∧
      ∀ (host : Host) (events : List WindowEvent), host.keyMap = keyMap →
        (Host.keyEvents (ofWindow events).events host).1.processor = host.processor.withKeypad
          (attend keyMap host.processor.machine.keypad events).1 := by
  intro after answers
  have different := ((KeyMap.ofText_eq_ok_iff text keyMap).mp accepted).different
  refine ⟨?_, ?_, ?_⟩
  · intro key refused
    cases ofMachine_of_attendAll refused
  · intro complete
    have whole : attendAll keyMap keypad looks = _ := attendAll_eq complete looks
    have sameKeypad : after = looks.flatten.foldl keyMap.received keypad := congrArg Prod.fst whole
    refine ⟨congrArg Prod.snd whole, ?_, ?_, ?_⟩
    · rw [sameKeypad, KeyMap.holds_foldl_received different complete]
      exact fun _ => rfl
    · rw [attendAll_eq complete, ← List.filter_flatten, sameKeypad]
      exact KeyMap.foldl_received_filter different keypad looks.flatten
    · rw [sameKeypad]
      exact fun armed empty => KeyMap.latch_foldl_received_iff different complete armed empty _
  · rintro host events rfl
    rw [Host.processor_keyEvents]
    unfold attend
    cases press host.keyMap (ofWindow events).events host.processor.machine.keypad with
    | mk next stopped => cases stopped <;> rfl

/-- A key that the escape key stands for goes down and never up; letting go of it in the middle of
a look keeps no later event back. -/
theorem window_events_applied_in_order_with_escape_mapped :
    let keyMap : KeyMap :=
      ⟨#v[27, 49, 50, 51, 113, 119, 101, 97, 115, 100, 122, 99, 52, 114, 102, 118]⟩
    let keypad := (Keypad.released.switch 5 true).beginWait
    let looks : List (List WindowEvent) := [
      [.keyDown 119, .keyDown 27, .keyUp 27, .other, .keyDown 49, .close, .keyUp 119],
      [.keyDown 1000, .keyUp 49, .keyDown 119]]
    KeyMap.ofText "27,49,50,51,113,119,101,97,115,100,122,99,52,114,102,118" = .ok keyMap ∧
      keypad.Complete ∧ keypad.armed = true ∧ keypad.latch = none ∧
      (attendAll keyMap keypad looks).2 = [.ok true, .ok false] ∧
      (attendAll keyMap keypad looks).1.holds 0 = true ∧
      (attendAll keyMap keypad looks).1.holds 1 = false ∧
      keyMap.FirstDown keypad.holds looks.flatten 0 := by
  intro keyMap keypad looks
  have accepted : KeyMap.ofText "27,49,50,51,113,119,101,97,115,100,122,99,52,114,102,118" =
      .ok keyMap := by
    decide +kernel
  obtain ⟨-, whole, -⟩ := window_events_applied_in_order accepted keypad looks
  obtain ⟨answers, holds, -, latch⟩ := whole rfl
  refine ⟨accepted, rfl, rfl, rfl, answers.trans (by decide), (holds 0).trans (by decide),
    (holds 1).trans (by decide), (latch rfl rfl 0).mp (by decide +kernel)⟩

end Poll

end Chip8
