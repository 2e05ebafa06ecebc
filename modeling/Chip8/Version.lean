/-!
# The version of the program
-/

namespace Chip8

def version : String := "0.1.0"

end Chip8
