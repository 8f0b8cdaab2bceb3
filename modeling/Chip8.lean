import Chip8.Block
import Chip8.CallStack
import Chip8.CommandLine.Argument
import Chip8.CommandLine.Arguments
import Chip8.CommandLine.Conventional
import Chip8.CommandLine.Reader
import Chip8.CommandLine.Token
import Chip8.Config
import Chip8.Fault
import Chip8.Filter
import Chip8.Font
import Chip8.Instruction
import Chip8.Instruction.Encoding
import Chip8.Instruction.Mnemonic
import Chip8.Instruction.Record
import Chip8.Keypad
import Chip8.Launch
import Chip8.Layout
import Chip8.Listing
import Chip8.Machine
import Chip8.Machine.Burst
import Chip8.Machine.Delivery
import Chip8.Machine.Execution
import Chip8.Machine.Host
import Chip8.Machine.Journal
import Chip8.Machine.Operation
import Chip8.Machine.Step
import Chip8.Main
import Chip8.Memory
import Chip8.Noise
import Chip8.Noise.ChaCha
import Chip8.Noise.Pcg
import Chip8.Registers
import Chip8.Screen
import Chip8.Source
import Chip8.Sprite
import Chip8.State
import Chip8.Text.Annotated
import Chip8.Text.Blank
import Chip8.Text.CharSet
import Chip8.Text.CharSet.Ranges
import Chip8.Text.CharSet.Rows
import Chip8.Text.Decimal
import Chip8.Text.Hexadecimal
import Chip8.Text.Letter
import Chip8.Text.Lines
import Chip8.Text.Pattern
import Chip8.Text.Pattern.Acceptance
import Chip8.Text.Pattern.Bracket
import Chip8.Text.Pattern.Cursor
import Chip8.Text.Pattern.Escape
import Chip8.Text.Pattern.Group
import Chip8.Text.Pattern.Meaning
import Chip8.Text.Pattern.Mistake
import Chip8.Text.Pattern.Normal
import Chip8.Text.Pattern.Reader
import Chip8.Text.Pattern.Sample
import Chip8.Text.Pattern.Size
import Chip8.Text.Pattern.Tree
import Chip8.Text.Quoted
import Chip8.Text.Record
import Chip8.Text.Span
import Chip8.Text.Unseen
import Chip8.Text.Utf8
import Chip8.Verbosity
import Chip8.Word
import Chip8.Proofs.Execution
import Chip8.Proofs.Stepping
import Chip8.Proofs.Atomicity
import Chip8.Proofs.Verdict
import Chip8.Proofs.Drawing
import Chip8.Proofs.Bounds
import Chip8.Proofs.Reachability
import Chip8.Proofs.Waiting
import Chip8.Proofs.Nesting
import Chip8.Proofs.Decoding
import Chip8.Proofs.Checked
import Chip8.Proofs.Safety
import Chip8.Proofs.Loading
import Chip8.Proofs.Storing
import Chip8.Proofs.Assembly
import Chip8.Proofs.Foretelling
import Chip8.Proofs.Faulting
import Chip8.Proofs.Agreement
import Chip8.Proofs.Confinement
import Chip8.Proofs.Overlay
import Chip8.Proofs.Redrawing
import Chip8.Proofs.Randomness
import Chip8.Proofs.Timing
import Chip8.Proofs.Interleaving
import Chip8.Proofs.Branching
import Chip8.Proofs.Arithmetic
import Chip8.Proofs.Mnemonics
import Chip8.Proofs.Glyphs
import Chip8.Proofs.Accounting
import Chip8.Proofs.Saving
import Chip8.Proofs.Transcript
import Chip8.Proofs.Conventions
import Chip8.Proofs.Parsing
