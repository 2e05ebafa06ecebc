import Chip8.Instruction.Format
import Chip8.Machine.Call
import Chip8.Main
import Chip8.Proofs.Execution
import Chip8.Proofs.Stepping
import Chip8.Version
import Chip8.Proofs.Bounds
import Chip8.Proofs.Faults
import Chip8.Proofs.Sprites
import Chip8.Proofs.Transfers
import Chip8.Proofs.AfterFault
import Chip8.Proofs.KeyWait
import Chip8.Proofs.Assembly
import Chip8.Proofs.Effects
import Chip8.Proofs.WriteSets
import Chip8.Proofs.Chronicle
import Chip8.Proofs.CallStack
import Chip8.Proofs.Frames
import Chip8.Proofs.Sessions
import Chip8.Proofs.RandomSource
import Chip8.Proofs.StartingOver
import Chip8.Proofs.DeadState
import Chip8.Proofs.FailStop
import Chip8.Proofs.Replay
import Chip8.Proofs.RandomNumbers
import Chip8.Proofs.Arithmetic
import Chip8.Proofs.Overdrawing
import Chip8.Proofs.CycleCount
import Chip8.Proofs.Schedule
import Chip8.Proofs.Loading
import Chip8.Proofs.Cadence
import Chip8.Proofs.ControlFlow
import Chip8.Proofs.StraightLine
import Chip8.Proofs.StoreAndLoad
import Chip8.Proofs.Canvas
import Chip8.Proofs.Lettering
import Chip8.Proofs.Symbols
import Chip8.Proofs.HeldKeys
import Chip8.Proofs.Bell
