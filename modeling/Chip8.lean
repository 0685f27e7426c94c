import Chip8.Machine.Command
import Chip8.Machine.Lemmas
import Chip8.Main
import Chip8.Panel
import Chip8.Proofs.Accounting
import Chip8.Proofs.Bounds
import Chip8.Proofs.CallStack
import Chip8.Proofs.Compositing
import Chip8.Proofs.Drawing
import Chip8.Proofs.Footprint
import Chip8.Proofs.Forms
import Chip8.Proofs.HeldKeys
import Chip8.Proofs.KeyWait
import Chip8.Proofs.Keypad
import Chip8.Proofs.LitPixels
import Chip8.Proofs.Loading
import Chip8.Proofs.Mnemonics
import Chip8.Proofs.Oblivious
import Chip8.Proofs.Observation
import Chip8.Proofs.PanelKeys
import Chip8.Proofs.ProgramCounter
import Chip8.Proofs.Refusal
import Chip8.Proofs.Repaint
import Chip8.Proofs.Replay
import Chip8.Proofs.Reset
import Chip8.Proofs.Returns
import Chip8.Proofs.Snapshots
import Chip8.Proofs.Stall
import Chip8.Proofs.Timers
import Chip8.Screen.Grid
import Chip8.State.Lemmas
import Chip8.Text.Numeral
import Chip8.Proofs.Alignment
import Chip8.Proofs.RandomBytes
import Chip8.Proofs.Verdict
import Chip8.Proofs.SoundTimer
import Chip8.Proofs.Arithmetic
import Chip8.Proofs.Blocks
import Chip8.Proofs.Edges
import Chip8.Proofs.Cadence
import Chip8.Proofs.Listing
import Chip8.Proofs.Guards
import Chip8.Proofs.Glyphs
import Chip8.Proofs.Patterns
import Chip8.Proofs.ByteOrders
import Chip8.Proofs.Registration
import Chip8.Proofs.Rendering
