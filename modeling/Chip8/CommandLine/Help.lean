/-!
# The help text

How the program is called, and what its options do.
-/

namespace Chip8.CommandLine

def usageLines : List String :=
  ["usage: chip8vm [-h] [--scale SCALE] [--ticks-per-frame TICKS_PER_FRAME]",
   "               [--seed SEED] [--headless] [--cycles CYCLES] [--png PNG]",
   "               [--text] [--log-level \x7bDEBUG,INFO,WARNING,ERROR\x7d]",
   "               rom"]

/-- What the help option prints. -/
def helpLines : List String := usageLines ++
  ["",
   "Run a CHIP-8 ROM",
   "",
   "positional arguments:",
   "  rom                   ROM file (raw CHIP-8 bytecode)",
   "",
   "options:",
   "  -h, --help            show this help message and exit",
   "  --scale SCALE         Display scale factor",
   "  --ticks-per-frame TICKS_PER_FRAME",
   "                        Instruction ticks per 60 Hz timer tick",
   "  --seed SEED           Seed for the random number source",
   "  --headless            Run without a window",
   "  --cycles CYCLES       Instruction ticks to run in headless mode",
   "  --png PNG             Save the final display as a PNG (headless mode)",
   "  --text                Print the final display as text (headless mode)",
   "  --log-level \x7bDEBUG,INFO,WARNING,ERROR\x7d",
   "                        Logging level"]

end Chip8.CommandLine
