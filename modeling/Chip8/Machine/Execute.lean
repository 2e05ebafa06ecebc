import Chip8.Instruction.Basic
import Chip8.Machine.Basic

/-!
# Execution

The effect of one decoded instruction. The program counter already points behind the instruction
when it is executed. Operands are read before anything is written, so an instruction may name the
flag register; the flag is written last and wins.
-/

namespace Chip8

namespace Machine

/-! ## Calls -/

/-- The stack slot of a number; below zero they count from the top. -/
def slot? (k : Int) : Option Nibble := Nibble.ofInt? (if k < 0 then k + 16 else k)

/-- `_op_call`: the depth is checked before the return address. -/
def call (m : Machine) (target : Int) : Outcome :=
  if 16 ≤ m.sp then .fail m (.fault (.stackOverflow (m.pc - 2)))
  else
    match slot? m.sp with
    | none => .fail m (.stackSlot m.sp)
    | some k =>
      if 0 ≤ m.pc ∧ m.pc < 0x10000 then
        .done { m with stack := m.stack.write k (.ofInt m.pc), sp := m.sp + 1, pc := target }
      else .fail m (.returnAddress m.pc)

/-- `_op_ret`: the stack pointer goes down before the slot is read. -/
def ret (m : Machine) : Outcome :=
  if m.sp = 0 then .fail m (.fault (.stackUnderflow (m.pc - 2)))
  else
    let m := { m with sp := m.sp - 1 }
    match slot? m.sp with
    | none => .fail m (.stackSlot m.sp)
    | some k => .done { m with pc := (m.stack.read k).toNat }

/-! ## Keys -/

/-- `_op_skp` and `_op_sknp`: skip the next instruction if the key with the number `key` is down, or
is up. -/
def skipIfKey (m : Machine) (key : UInt8) (down : Bool) : Outcome :=
  match Nibble.ofInt? key.toNat with
  | some k => .done (m.skipIf (m.keypad.read k == down))
  | none => .fail m (.fault (.keyIndex key.toNat))

/-- `_op_ld_vx_k`: take the lowest key that is down; if none is, park on the instruction. -/
def waitKey (m : Machine) (x : Nibble) : Machine :=
  match m.pressedKey? with
  | some key => m.setReg x (.ofNat key)
  | none => { m with waiting := true, keyRegister := x, pc := m.pc - 2 }

/-- `_poll_keypad`: look for a key while parked, and count the instruction again when one is there.
-/
def poll (m : Machine) : Machine :=
  match m.pressedKey? with
  | none => m
  | some key =>
    { m.setReg m.keyRegister (.ofNat key) with
      waiting := false, pc := m.pc + 2, cycles := m.cycles + 1 }

/-! ## Memory -/

/-- The end of a transfer that stopped at an address outside memory, if it did. -/
def transferred (m : Machine) (stop : Option Int) : Outcome :=
  { machine := m, error := stop.map fun a => .fault (.memoryAccess a) }

/-- The end of `_op_ld_b` and `_op_ld_mem_vx`: bytes go to memory from the index register on. -/
def storeBytes (m : Machine) (bs : List UInt8) : Outcome :=
  let (memory, stop) := m.memory.store m.index bs
  { m with memory }.transferred stop

/-- The decimal digits of a byte: hundreds, tens, ones. -/
def decimalDigits (v : UInt8) : List UInt8 := [v / 100, v / 10 % 10, v % 10]

/-- `_op_ld_vx_mem`: memory from the index register on goes into the registers up to `x`. -/
def loadRegs (m : Machine) (x : Nibble) : Outcome :=
  let (bs, stop) := m.memory.load m.index (x + 1)
  { m with registers := m.registers.overwrite bs }.transferred stop

/-- `_op_drw`: draw the sprite of `n` rows at the index register with its corner at the coordinates
in `vx` and `vy`. The flag tells of a collision once all rows are drawn. -/
def drawSprite (m : Machine) (vx vy : UInt8) (n : Nat) : Outcome :=
  let (bs, stop) := m.memory.load m.index n
  let (display, hit) := m.display.draw vx.toNat vy.toNat bs
  let drawn := { m with display }
  match stop with
  | none => .done (drawn.setFlag hit)
  | some _ => drawn.transferred stop

/-! ## Random numbers -/

/-- `_op_rnd`: put a random byte into a register, masked. Every call takes a byte from the source.
-/
def takeRandom (m : Machine) (x : Nibble) (mask : UInt8) : Machine :=
  let (b, random) := m.random.byte
  { m with random }.setReg x (b &&& mask)

/-! ## All operations -/

/-- `execute`, with all handlers in one table. Operands beyond their digits are taken as they are;
what goes to a register is cut to a byte. -/
def execute (m : Machine) (ins : Instruction) : Outcome :=
  let vx := m.registers.read ins.x
  let vy := m.registers.read ins.y
  match ins.op with
  | .nop => .done m
  | .clear => .done { m with display := .blank }
  | .ret => m.ret
  | .jump => .done { m with pc := ins.nnn }
  | .call => m.call ins.nnn
  | .skipEqByte => .done (m.skipIf (vx.toNat = ins.kk))
  | .skipNeByte => .done (m.skipIf (vx.toNat ≠ ins.kk))
  | .skipEqReg => .done (m.skipIf (vx = vy))
  | .loadByte => .done (m.setReg ins.x (.ofInt ins.kk))
  | .addByte => .done (m.setReg ins.x (vx + .ofInt ins.kk))
  | .loadReg => .done (m.setReg ins.x vy)
  | .or => .done (m.setReg ins.x (vx ||| vy))
  | .and => .done (m.setReg ins.x (vx &&& vy))
  | .xor => .done (m.setReg ins.x (vx ^^^ vy))
  | .addReg => .done ((m.setReg ins.x (vx + vy)).setFlag (0xFF < vx.toNat + vy.toNat))
  | .sub => .done ((m.setReg ins.x (vx - vy)).setFlag (vy ≤ vx))
  | .shiftRight => .done ((m.setReg ins.x (vx >>> 1)).setFlag (vx % 2 = 1))
  | .subFrom => .done ((m.setReg ins.x (vy - vx)).setFlag (vx ≤ vy))
  | .shiftLeft => .done ((m.setReg ins.x (vx <<< 1)).setFlag (0x80 ≤ vx))
  | .skipNeReg => .done (m.skipIf (vx ≠ vy))
  | .loadIndex => .done { m with index := ins.nnn }
  | .jumpOffset => .done { m with pc := ins.nnn + (m.registers.read 0).toNat }
  | .random => .done (m.takeRandom ins.x (.ofInt ins.kk))
  | .draw => m.drawSprite vx vy ins.n.toNat
  | .skipPressed => m.skipIfKey vx true
  | .skipReleased => m.skipIfKey vx false
  | .loadDelay => .done (m.setReg ins.x (.ofInt m.delay))
  | .waitKey => .done (m.waitKey ins.x)
  | .setDelay => .done { m with delay := vx.toNat }
  | .setSound => .done { m with sound := vx.toNat }
  | .addIndex => .done { m with index := (m.index + vx.toNat) % 0x10000 }
  | .loadGlyph => .done { m with index := Font.start + Font.glyphSize * vx.toNat }
  | .storeDecimal => m.storeBytes (decimalDigits vx)
  | .storeRegs => m.storeBytes (m.registers.toList.take (ins.x + 1))
  | .loadRegs => m.loadRegs ins.x

end Machine

end Chip8
