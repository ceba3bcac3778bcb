import Chip8.Beeper
import Chip8.Change
import Chip8.CommandLine
import Chip8.CommandLine.Help
import Chip8.Desktop
import Chip8.Diagnostics
import Chip8.Disk
import Chip8.Disk.FileName
import Chip8.Disk.Path
import Chip8.Disk.Place
import Chip8.Display
import Chip8.Dump
import Chip8.Execute
import Chip8.Exit
import Chip8.Fault
import Chip8.Font
import Chip8.Grid
import Chip8.Headless
import Chip8.Instruction
import Chip8.Json
import Chip8.Json.Reading
import Chip8.Keymap
import Chip8.Keymap.Loading
import Chip8.Keypad
import Chip8.Keys
import Chip8.Loading
import Chip8.Log
import Chip8.Main
import Chip8.Memory
import Chip8.Number
import Chip8.Number.Binary64
import Chip8.Number.Shortest
import Chip8.Observer
import Chip8.Player
import Chip8.Program
import Chip8.Proofs.Calls
import Chip8.Proofs.Cycle
import Chip8.Proofs.Effect
import Chip8.Proofs.Faults
import Chip8.Proofs.Fetch
import Chip8.Proofs.Laps
import Chip8.Proofs.Lifecycle
import Chip8.Proofs.Protocol
import Chip8.Proofs.Reachable
import Chip8.Proofs.Recording
import Chip8.Proofs.Registers
import Chip8.Proofs.Sound
import Chip8.Proofs.Sprite
import Chip8.Proofs.Standstill
import Chip8.Proofs.Trail
import Chip8.Random
import Chip8.Random.Dice
import Chip8.Random.Twister
import Chip8.Scripted
import Chip8.Session
import Chip8.Span
import Chip8.State
import Chip8.Text.Blank
import Chip8.Text.CodePoints
import Chip8.Text.Digit
import Chip8.Text.Filled
import Chip8.Text.Hex
import Chip8.Text.Numeral
import Chip8.Text.Printable
import Chip8.Text.Quoted
import Chip8.Text.Uppercase
import Chip8.Text.Utf8
import Chip8.Tone
import Chip8.Window
import Chip8.World
import Chip8.Written
import Chip8.Proofs.Screen
import Chip8.Proofs.Observers
import Chip8.Proofs.Watching
import Chip8.Proofs.Splitting
import Chip8.Proofs.Footprint
import Chip8.Proofs.Periphery
import Chip8.Proofs.Succession
import Chip8.Proofs.Inputs
import Chip8.Proofs.Timers
import Chip8.Proofs.Drawing
import Chip8.Proofs.Waiting
import Chip8.Proofs.History
import Chip8.Proofs.FontTable
import Chip8.Proofs.Diagnosis
import Chip8.Proofs.Arithmetic
import Chip8.Proofs.Decoding
import Chip8.Proofs.Repetition
import Chip8.Proofs.Overlay
import Chip8.Proofs.Blocks
import Chip8.Proofs.Loads
import Chip8.Proofs.Transfers
import Chip8.Proofs.Spans
import Chip8.Proofs.HexTable
import Chip8.Proofs.Dumps
import Chip8.Proofs.Rendering
import Chip8.Proofs.Verdicts
import Chip8.Proofs.Events
import Chip8.Proofs.Closing
import Chip8.Proofs.Keymaps
import Chip8.Proofs.HeldKeys
import Chip8.Proofs.Beeps
import Chip8.Proofs.Tracing
import Chip8.Proofs.SquareWave
import Chip8.Proofs.Writes
import Chip8.Proofs.Spellings
