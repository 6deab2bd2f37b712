/-!
Contract: what the emulator says about its command line.

Owns: the usage lines, which also stand before an error, and the help text.
-/

namespace Chip8.CommandLine

def programName : String := "plainchip.py"

def usageLines : List String := [
  "usage: " ++ programName ++ " [-h] [-c CLOCK_SPEED] [-r \x7bpygame,null\x7d] [-s SCALE]",
  "                    [-m \x7b0,1\x7d] [-k KEYMAP] [--pygame_palette PYGAME_PALETTE]",
  "                    [--index_overflow_quirks \x7b0,1\x7d] [-d] [--disassemble]",
  "                    filename"]

def helpLines : List String := usageLines ++ [
  "",
  "positional arguments:",
  "  filename              ROM to execute (normally ending in .ch8 or .c8)",
  "",
  "options:",
  "  -h, --help            show this help message and exit",
  "  -c CLOCK_SPEED, --clock_speed CLOCK_SPEED",
  "                        set the CPU speed in operations/second (default 1000,",
  "                        0 = uncapped)",
  "  -r \x7bpygame,null\x7d, --renderer \x7bpygame,null\x7d",
  "                        set the rendering, input, and audio systems (pygame by",
  "                        default if available, otherwise null)",
  "  -s SCALE, --scale SCALE",
  "                        set the window width in PyGame mode (default 512)",
  "  -m \x7b0,1\x7d, --mute \x7b0,1\x7d",
  "                        mute the emulated audio. 0 = unmuted (default), 1 =",
  "                        muted",
  "  -k KEYMAP, --keymap KEYMAP",
  "                        redefine the 16 keyscan codes for keys 0-F. Separate",
  "                        each decimal with a comma",
  "  --pygame_palette PYGAME_PALETTE",
  "                        redefine the background and foreground colours in",
  "                        comma-separated hex, e.g. 222222,DDDDDD",
  "  --index_overflow_quirks \x7b0,1\x7d",
  "                        set VF when ADD I, Vx takes I past 0xFFF, as on the",
  "                        Amiga interpreter (default 0)",
  "  -d, --debug           enable live debug output of every instruction",
  "                        executed. Slows CPU execution",
  "  --disassemble         list the ROM as instructions instead of running it"]

/-- What is said of a command line that cannot be used. -/
def errorLine (message : String) : String :=
  programName ++ ": error: " ++ message

end Chip8.CommandLine
