import Chip8.Main
import Chip8.Media.Headless
import Chip8.Proofs.Bank.Block
import Chip8.Proofs.Text.Hex
import Chip8.Proofs.Text.Pieces
import Chip8.Proofs.Instruction.Encoding
import Chip8.Proofs.Processor.Execute
import Chip8.Proofs.Display.Grid
import Chip8.Proofs.Machine.Restore
import Chip8.Proofs.Processor.Transition
import Chip8.Proofs.Processor.Reachable
import Chip8.Proofs.Processor.Alike
import Chip8.Proofs.Processor.Lockstep
import Chip8.Proofs.Processor.Commuting
import Chip8.Proofs.Processor.KeyWait
import Chip8.Proofs.Processor.SaveRestore
import Chip8.Proofs.Instruction.Assembly
import Chip8.Proofs.Processor.Disassembly
import Chip8.Proofs.Machine.Footprint
import Chip8.Proofs.Processor.Frame
import Chip8.Proofs.Processor.Reset
import Chip8.Proofs.Processor.Halt
import Chip8.Proofs.Processor.Arming
import Chip8.Proofs.Processor.CallReturn
import Chip8.Proofs.Processor.Drawing
import Chip8.Proofs.Processor.Refusal
import Chip8.Proofs.Host.Course
import Chip8.Proofs.Host.Frames
import Chip8.Proofs.Host.Timing
import Chip8.Proofs.Host.Buzzer
import Chip8.Proofs.Host.Refinement
import Chip8.Proofs.Host.Endings
import Chip8.Proofs.Host.CrashReport
import Chip8.Proofs.Listing.Program
import Chip8.Proofs.Processor.Countdown
import Chip8.Proofs.Display.Points
import Chip8.Proofs.Display.Sprite
import Chip8.Proofs.Launch.Devices
import Chip8.Proofs.Processor.RegisterBlock
import Chip8.Proofs.Processor.ProgramCounter
import Chip8.Proofs.Processor.Flags
import Chip8.Proofs.Display.Fitting
import Chip8.Proofs.Processor.SpriteDrawing
import Chip8.Proofs.Bank.Bounds
import Chip8.Proofs.Machine.PartialRestore
import Chip8.Proofs.Launch.Loading
import Chip8.Proofs.Display.RoundTrip
import Chip8.Proofs.Text.Digits
import Chip8.Proofs.Text.Numeral
import Chip8.Proofs.Text.Spelling
import Chip8.Proofs.Input.KeyMap
import Chip8.Proofs.Media.Palette
import Chip8.Proofs.Host.Performance
import Chip8.Proofs.Input.Polling
import Chip8.Proofs.Media.Speaker
import Chip8.Proofs.Media.Tone
import Chip8.Proofs.Processor.Dump
import Chip8.Proofs.Processor.Trace
import Chip8.Proofs.Processor.DecimalStore
import Chip8.Proofs.Media.Picture
