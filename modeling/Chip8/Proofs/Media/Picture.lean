import Chip8.Proofs.Display.Points
import Chip8.Proofs.Host.Frames
import Chip8.Proofs.Media.Palette

/-!
Contract: a window shows the frame that was handed over last.

Owns:
- where the bytes of a pixel stand among those of a picture, and where the pixel of a place stands
  in a screen whose rows are laid end to end;
- `Palette.Paints`, bytes that paint the lit pixels of a screen in one colour and the others in
  another;
- `Window.Pictures`, that the picture kept by a window is that of a screen, which a change of the
  size brings about and every signal that suits the size keeps;
- that a refresh hands over the picture of the last frame, or of a dark screen before the first one.

Does not own: which frames are handed over, and which colours a text gives.
-/

namespace Chip8

/-! ### The bytes of a picture -/

namespace Colour

theorem length_bytes (colour : Colour) : colour.bytes.length = Window.pointSize :=
  rfl

end Colour

theorem length_pictureBytes (pixels : List Colour) :
    (pictureBytes pixels).length = 3 * pixels.length := by
  induction pixels with
  | nil => rfl
  | cons colour later inductionHypothesis =>
    rw [pictureBytes, List.flatMap_cons, List.length_append, colour.length_bytes, ← pictureBytes,
      inductionHypothesis, List.length_cons, Window.pointSize]
    omega

theorem take_drop_pictureBytes {pixels : List Colour} {place : Nat} {colour : Colour}
    (found : pixels[place]? = some colour) :
    ((pictureBytes pixels).drop (3 * place)).take 3 = colour.bytes := by
  induction pixels generalizing place with
  | nil => contradiction
  | cons first later inductionHypothesis =>
    cases place with
    | zero =>
      obtain rfl := Option.some.inj found
      rfl
    | succ place => exact inductionHypothesis found

/-! ### Screens -/

namespace Resolution

theorem area_pos (resolution : Resolution) : 0 < resolution.area :=
  Nat.mul_pos resolution.width_pos resolution.height_pos

theorem natCast_area (resolution : Resolution) :
    (resolution.width : Int) * resolution.height = resolution.area :=
  (Int.natCast_mul _ _).symm

end Resolution

namespace Display

variable {resolution : Resolution}

/-- The screen of a size on which no pixel is lit. -/
def darkScreen (resolution : Resolution) : Grid :=
  List.replicate resolution.height (List.replicate resolution.width false)

/-- Whether the pixel of a place is lit on a screen. -/
def litOn (screen : Grid) (pixel : Pixel resolution) : Bool :=
  (screen[pixel.2.val]?.bind fun row => row[pixel.1.val]?).getD false

theorem fits_darkScreen (resolution : Resolution) : Fits resolution (darkScreen resolution) := by
  refine ⟨List.length_replicate, ?_⟩
  intro row member
  rw [List.eq_of_mem_replicate member]
  exact List.length_replicate

theorem litOn_darkScreen (pixel : Pixel resolution) :
    litOn (darkScreen resolution) pixel = false := by
  have row : (darkScreen resolution)[pixel.2.val]? =
      some (List.replicate resolution.width false) :=
    List.getElem?_replicate_of_lt pixel.2.isLt
  rw [litOn, row, Option.bind_some, List.getElem?_replicate_of_lt pixel.1.isLt]
  rfl

/-- In rows of one width that are laid end to end every place comes after the rows above it. -/
theorem getElem?_flatten_of_widths {width column : Nat} (inside : column < width) {rows : Grid}
    (widths : ∀ row ∈ rows, row.length = width) (place : Nat) :
    rows.flatten[place * width + column]? = rows[place]?.bind fun row => row[column]? := by
  induction rows generalizing place with
  | nil => rfl
  | cons row below inductionHypothesis =>
    obtain ⟨firstWidth, widthsBelow⟩ := List.forall_mem_cons.mp widths
    rw [List.flatten_cons]
    cases place with
    | zero =>
      rw [Nat.zero_mul, Nat.zero_add, List.getElem?_append_left (by omega)]
      rfl
    | succ place =>
      have behind : (place + 1) * width + column - row.length = place * width + column := by
        rw [firstWidth, Nat.succ_mul]
        omega
      have beyond : row.length ≤ (place + 1) * width + column := by
        rw [firstWidth, Nat.succ_mul]
        omega
      rw [List.getElem?_append_right beyond, behind]
      exact inductionHypothesis widthsBelow place

theorem getElem?_flatten_of_fits {screen : Grid} (fits : Fits resolution screen)
    (pixel : Pixel resolution) :
    screen.flatten[pixel.2.val * resolution.width + pixel.1.val]? = some (litOn screen pixel) := by
  have row : pixel.2.val < screen.length := by
    rw [fits.1]
    exact pixel.2.isLt
  have column : pixel.1.val < screen[pixel.2.val].length := by
    rw [fits.2 _ (List.getElem_mem row)]
    exact pixel.1.isLt
  rw [getElem?_flatten_of_widths pixel.1.isLt fits.2]
  simp [litOn, row, column]

end Display

/-! ### Paintings -/

namespace Palette

variable {resolution : Resolution}

/-- Three bytes for each pixel row by row, those of the foreground if it is lit and those of the
background if not. -/
structure Paints (palette : Palette) (lit : Pixel resolution → Bool) (bytes : List UInt8) :
    Prop where
  length : bytes.length = 3 * resolution.width * resolution.height
  colour : ∀ pixel : Pixel resolution,
    (bytes.drop (3 * (pixel.2.val * resolution.width + pixel.1.val))).take 3 =
      (if lit pixel then palette.foreground else palette.background).bytes

theorem paints_of_fits (palette : Palette) {screen : Grid}
    (fits : Display.Fits resolution screen) :
    palette.Paints (fun pixel : Pixel resolution => Display.litOn screen pixel)
      (pictureBytes (screen.flatten.map (Window.colourOf palette))) where
  length := by
    rw [length_pictureBytes, List.length_map, Display.length_flatten_of_fits fits.2, fits.1,
      Nat.mul_assoc]
  colour pixel := by
    apply take_drop_pictureBytes
    rw [List.getElem?_map, Display.getElem?_flatten_of_fits fits]
    rfl

end Palette

/-! ### Signals -/

namespace Signal

/-- Leaves the size alone, and hands over no frame but one of that size. -/
def Suits (resolution : Resolution) : Signal → Prop
  | .resolution .. => False
  | .frame screen => Display.Fits resolution screen
  | _ => True

instance (resolution : Resolution) : (signal : Signal) → Decidable (signal.Suits resolution)
  | .resolution .. => .isFalse id
  | .frame screen => inferInstanceAs (Decidable (Display.Fits resolution screen))
  | .refresh _ | .performance .. | .buzzer _ | .key .. | .trace _ => .isTrue trivial

/-- The frame handed over last. -/
def lastScreen? (signals : List Signal) : Option Grid :=
  (signals.filterMap screen?).getLast?

theorem lastScreen?_cons (signal : Signal) (later : List Signal) :
    lastScreen? (signal :: later) = (lastScreen? later).or signal.screen? := by
  unfold lastScreen?
  cases handed : signal.screen? with
  | none => rw [List.filterMap_cons_none handed, Option.or_none]
  | some screen =>
    rw [List.filterMap_cons_some handed, List.getLast?_cons]
    cases (later.filterMap screen?).getLast? <;> rfl

/-- Whether a pixel is lit in the frame handed over last. Before the first frame none is. -/
def litLast {resolution : Resolution} (signals : List Signal) (pixel : Pixel resolution) : Bool :=
  ((lastScreen? signals).map fun screen => Display.litOn screen pixel).getD false

theorem litOn_lastScreen {resolution : Resolution} (signals : List Signal)
    (pixel : Pixel resolution) :
    Display.litOn ((lastScreen? signals).getD (Display.darkScreen resolution)) pixel =
      litLast signals pixel := by
  unfold litLast
  cases lastScreen? signals with
  | none => exact Display.litOn_darkScreen pixel
  | some screen => rfl

end Signal

/-! ### Windows -/

namespace Window

open Signal (lastScreen?)

/-- A window after signals. -/
def afterAll (window : Window) (signals : List Signal) : Window :=
  signals.foldl (fun now signal => (now.hear signal).1) window

variable {window : Window} {resolution : Resolution} {screen : Grid}

theorem settings_hear (window : Window) (signal : Signal) :
    (window.hear signal).1.palette = window.palette ∧
      (window.hear signal).1.scale = window.scale := by
  cases signal <;> exact ⟨rfl, rfl⟩

theorem settings_afterAll (window : Window) (signals : List Signal) :
    (window.afterAll signals).palette = window.palette ∧
      (window.afterAll signals).scale = window.scale := by
  induction signals generalizing window with
  | nil => exact ⟨rfl, rfl⟩
  | cons signal later inductionHypothesis =>
    obtain ⟨samePalette, sameScale⟩ := window.settings_hear signal
    obtain ⟨palette, scale⟩ := inductionHypothesis (window.hear signal).1
    exact ⟨palette.trans samePalette, scale.trans sameScale⟩

theorem frames_hear (window : Window) (signal : Signal) :
    (window.hear signal).1.frames = window.frames + signal.screen?.toList.length := by
  cases signal <;> rfl

/-- Every frame handed over is counted, and nothing else is. -/
theorem frames_afterAll (window : Window) (signals : List Signal) :
    (window.afterAll signals).frames =
      window.frames + (signals.filterMap Signal.screen?).length := by
  induction signals generalizing window with
  | nil => rfl
  | cons signal later inductionHypothesis =>
    show ((window.hear signal).1.afterAll later).frames = _
    rw [inductionHypothesis, frames_hear, List.filterMap_cons]
    cases signal.screen? with
    | none => rfl
    | some screen =>
      show window.frames + 1 + _ = window.frames + (_ + 1)
      omega

/-- The picture of a window of a size is that of a screen. -/
structure Pictures (resolution : Resolution) (screen : Grid) (window : Window) : Prop where
  fits : Display.Fits resolution screen
  width : window.width = resolution.width
  height : window.height = resolution.height
  pixels : window.pixels = some (screen.flatten.map (colourOf window.palette))

/-- A picture that is filled with the background is that of a dark screen. -/
theorem pictures_resize (window : Window) (resolution : Resolution) :
    Pictures resolution (Display.darkScreen resolution)
      (window.resize resolution.width resolution.height) where
  fits := Display.fits_darkScreen resolution
  width := rfl
  height := rfl
  pixels := by
    have widthPositive := resolution.width_pos
    have heightPositive := resolution.height_pos
    have hasPixels : ¬((resolution.width : Int) = 0 ∨ (resolution.height : Int) = 0) := by omega
    rw [Display.darkScreen, List.flatten_replicate_replicate, List.map_replicate, Nat.mul_comm]
    simp only [resize, if_neg hasPixels, resolution.natCast_area, Int.toNat_natCast]
    rfl

theorem Pictures.hear (pictures : Pictures resolution screen window) {signal : Signal}
    (suits : signal.Suits resolution) :
    Pictures resolution (signal.screen?.getD screen) (window.hear signal).1 := by
  cases signal with
  | resolution width height => exact absurd suits id
  | frame next => exact { pictures with fits := suits, pixels := rfl }
  | refresh | performance | buzzer | key | trace => exact { pictures with }

theorem Pictures.afterAll (pictures : Pictures resolution screen window) {signals : List Signal}
    (suit : ∀ signal ∈ signals, signal.Suits resolution) :
    Pictures resolution ((lastScreen? signals).getD screen) (window.afterAll signals) := by
  induction signals generalizing window screen with
  | nil => exact pictures
  | cons signal later inductionHypothesis =>
    obtain ⟨suits, suitLater⟩ := List.forall_mem_cons.mp suit
    have last := inductionHypothesis (pictures.hear suits) suitLater
    rw [Signal.lastScreen?_cons, Option.getD_or]
    exact last

/-- A changed picture is handed over, stretched, put into the window and shown. -/
theorem Pictures.refresh (pictures : Pictures resolution screen window) :
    ∃ pixels, window.refresh true =
        [.picture pixels resolution.width resolution.height,
          .scaleTo window.scale (window.scale / 2), .place, .flip] ∧
      window.palette.Paints (fun pixel : Pixel resolution => Display.litOn screen pixel)
        (pictureBytes pixels) := by
  refine ⟨screen.flatten.map (colourOf window.palette), ?_,
    window.palette.paints_of_fits pictures.fits⟩
  -- a picture without pixels would not be handed over
  have count : (screen.flatten.map (colourOf window.palette)).length = resolution.area := by
    rw [List.length_map, Display.length_flatten_of_fits pictures.fits.2, pictures.fits.1]
    rfl
  obtain ⟨first, rest, points⟩ := List.exists_cons_of_length_pos
    (Nat.lt_of_lt_of_eq resolution.area_pos count.symm)
  have kept : window.pixels = some (first :: rest) := by rw [pictures.pixels, points]
  simp only [Window.refresh, kept, points, pictures.width, pictures.height, scaledSize]

section Sizes

variable {room : Extent.Room}

theorem setResolution_of_room (window : Window)
    (enough : 3 * resolution.area ≤ room.bytes) :
    window.setResolution room resolution.width resolution.height =
      .ok (window.resize resolution.width resolution.height) := by
  have isSize : ¬(¬Extent.IsWord (resolution.area : Int) ∨
      (Extent.greatest : Int) < resolution.area * (3 : Nat)) := by
    have most := room.bytes_le
    simp only [Extent.IsWord]
    omega
  have held : Extent.hold room (resolution.area * 3) = .ok (resolution.area * 3) :=
    Extent.hold_eq_ok_iff.mpr ⟨by omega, rfl⟩
  unfold setResolution
  simp only [resolution.natCast_area, Int.toNat_natCast, pointSize]
  rw [if_neg isSize, held]
  rfl

theorem setResolution_of_no_room (window : Window)
    (tooLarge : room.bytes < 3 * resolution.area) :
    ∃ fault, window.setResolution room resolution.width resolution.height = .error fault := by
  have refused : Extent.hold room (resolution.area * 3) = .error .outOfMemory :=
    if_pos (by omega)
  unfold setResolution
  simp only [resolution.natCast_area, Int.toNat_natCast, pointSize]
  split
  · exact ⟨_, rfl⟩
  · rw [refused]
    exact ⟨_, rfl⟩

/-- The size is changed just if there is room for the bytes of the picture. -/
theorem setResolution_eq_ok_iff {sized : Window} :
    window.setResolution room resolution.width resolution.height = .ok sized ↔
      3 * resolution.area ≤ room.bytes ∧
        sized = window.resize resolution.width resolution.height := by
  by_cases enough : 3 * resolution.area ≤ room.bytes
  · rw [window.setResolution_of_room enough, Except.ok.injEq, eq_comm]
    exact ⟨fun same => ⟨enough, same⟩, And.right⟩
  · obtain ⟨fault, refused⟩ := window.setResolution_of_no_room (Nat.lt_of_not_le enough)
    rw [refused]
    exact ⟨nofun, fun accepted => absurd accepted.1 enough⟩

end Sizes

/-- Of a window that was opened with the colours of an accepted text and then given a size, every
refresh with a change hands over three bytes for each pixel, those of the foreground where the frame
handed over last has a lit pixel and those of the background elsewhere, or everywhere if there was
no frame since; then it stretches the picture and shows it. A refresh without a change makes no
call, and every frame is counted. A size is accepted just if there is room for the bytes. -/
theorem refresh_shows_last_frame (room : Extent.Room) (scale : Option Int)
    {text : Option String} {palette : Palette}
    (accepted : Palette.ofText text = .ok palette) (earlier : List Signal)
    (resolution : Resolution) {later : List Signal}
    (suit : ∀ signal ∈ later, signal.Suits resolution) :
    ∃ opened, (start scale (Palette.ofText text)).2 = .ok opened ∧
      let before := opened.afterAll earlier
      let sized := before.resize resolution.width resolution.height
      let now := sized.afterAll later
      let windowWidth := scale.getD defaultScale
      (∀ window, before.setResolution room resolution.width resolution.height = .ok window ↔
        3 * resolution.area ≤ room.bytes ∧ window = sized) ∧
      (∃ pixels, now.refresh true =
          [.picture pixels resolution.width resolution.height,
            .scaleTo windowWidth (windowWidth / 2), .place, .flip] ∧
        palette.Paints (fun pixel : Pixel resolution => Signal.litLast later pixel)
          (pictureBytes pixels)) ∧
      now.refresh false = [] ∧
      now.frames = ((earlier ++ later).filterMap Signal.screen?).length := by
  let opened : Window := ⟨scale.getD defaultScale, palette, 0, 0, none, 0, ""⟩
  refine ⟨opened, by rw [accepted]; rfl, ?_⟩
  intro before sized now windowWidth
  have pictures : Pictures resolution
      ((lastScreen? later).getD (Display.darkScreen resolution)) now :=
    (before.pictures_resize resolution).afterAll suit
  obtain ⟨paletteBefore, scaleBefore⟩ := opened.settings_afterAll earlier
  obtain ⟨paletteSince, scaleSince⟩ := sized.settings_afterAll later
  have nowPalette : now.palette = palette := paletteSince.trans paletteBefore
  have nowScale : now.scale = windowWidth := scaleSince.trans scaleBefore
  have shown := pictures.refresh
  simp only [Signal.litOn_lastScreen, nowPalette, nowScale] at shown
  refine ⟨fun _ => setResolution_eq_ok_iff, shown, rfl, ?_⟩
  have framesBefore : before.frames = opened.frames + _ := opened.frames_afterAll earlier
  have framesSince : now.frames = before.frames + _ := sized.frames_afterAll later
  rw [framesSince, framesBefore, List.filterMap_append, List.length_append]
  show 0 + _ + _ = _
  omega

/-- A small screen after a larger one, with a frame that another takes the place of. -/
theorem refresh_shows_last_frame_of_two :
    let room : Extent.Room := ⟨4096, by decide⟩
    let text := some "102030,ffc000"
    let palette : Palette := ⟨⟨0x10, 0x20, 0x30⟩, ⟨0xFF, 0xC0, 0x00⟩⟩
    let earlier : List Signal := [.resolution 64 32, .frame [[true]], .refresh true]
    let later : List Signal :=
      [.refresh true, .frame [[true, true, true], [true, true, true]], .refresh false,
        .frame [[false, true, false], [false, false, true]], .performance 60 1000]
    Palette.ofText text = .ok palette ∧
      ∃ opened pixels, (start none (Palette.ofText text)).2 = .ok opened ∧
        let sized := (opened.afterAll earlier).resize 3 2
        let now := sized.afterAll later
        (opened.afterAll earlier).setResolution room 3 2 = .ok sized ∧
          now.refresh true = [.picture pixels 3 2, .scaleTo 512 256, .place, .flip] ∧
          (pictureBytes pixels).length = 18 ∧
          ((pictureBytes pixels).drop 3).take 3 = [0xFF, 0xC0, 0x00] ∧
          ((pictureBytes pixels).drop 12).take 3 = [0x10, 0x20, 0x30] ∧
          now.refresh false = [] ∧ now.frames = 3 := by
  intro room text palette earlier later
  let small : Resolution := ⟨3, 2, by decide, by decide⟩
  have accepted : Palette.ofText text = .ok palette := by decide +kernel
  have suit : ∀ signal ∈ later, signal.Suits small := by decide
  obtain ⟨opened, opens, sizes, ⟨pixels, calls, paints⟩, quiet, frames⟩ :=
    refresh_shows_last_frame room none accepted earlier small suit
  refine ⟨accepted, opened, pixels, opens, (sizes _).mpr ⟨by decide, rfl⟩, calls, paints.length,
    ?_, ?_, quiet, frames⟩
  · exact paints.colour (⟨1, by decide⟩, ⟨0, by decide⟩)
  · exact paints.colour (⟨1, by decide⟩, ⟨1, by decide⟩)

end Window

end Chip8
