import DecimalMachine.Text.Decimal
import DecimalMachine.Text.Category
import DecimalMachine.Text.Utf8
import DecimalMachine.Text.Quoted
import DecimalMachine.Text.Case
import DecimalMachine.Text.Search
import DecimalMachine.Text.Binary64
import DecimalMachine.Text.Shortest
import DecimalMachine.Text.Fixed
import DecimalMachine.Machine.Op
import DecimalMachine.Error
import DecimalMachine.Machine.Device
import DecimalMachine.Machine.Basic
import DecimalMachine.Machine.Stack
import DecimalMachine.Machine.Step
import DecimalMachine.Machine.Render
import DecimalMachine.Assembly.Mnemonic
import DecimalMachine.Assembly.Program
import DecimalMachine.Assembly.Source
import DecimalMachine.Assembly.Assembler
import DecimalMachine.Emulator
import DecimalMachine.Script.Diagnostic
import DecimalMachine.Script.Token
import DecimalMachine.Script.Lexer
import DecimalMachine.Script.Syntax
import DecimalMachine.Script.Parser
import DecimalMachine.Script.Resolve
import DecimalMachine.Script.Value
import DecimalMachine.Script.Machine
import DecimalMachine.Script.Sorting
import DecimalMachine.Script.Operators
import DecimalMachine.Script.Arguments
import DecimalMachine.Script.StringMethods
import DecimalMachine.Script.Builtins
import DecimalMachine.Script.Eval
import DecimalMachine.Cli.Flags
import DecimalMachine.Cli.Files
import DecimalMachine.Cli.Command
import DecimalMachine.Main
import DecimalMachine.Proofs.Stepping
import DecimalMachine.Proofs.StackLayout
import DecimalMachine.Proofs.StackRefinement
import DecimalMachine.Proofs.StackFailure
import DecimalMachine.Proofs.MemorySafety
import DecimalMachine.Proofs.RunStatus
import DecimalMachine.Proofs.RunAgreement
import DecimalMachine.Proofs.ClampedArithmetic
import DecimalMachine.Proofs.CallConvention
import DecimalMachine.Proofs.RomAccounting
import DecimalMachine.Proofs.TapeReading
import DecimalMachine.Proofs.StatementGrammar
import DecimalMachine.Proofs.ParsePass
import DecimalMachine.Proofs.CodeGeneration
import DecimalMachine.Proofs.InstructionCoding
import DecimalMachine.Proofs.ProgramImage
import DecimalMachine.Proofs.Listing
import DecimalMachine.Proofs.Reassembly
import DecimalMachine.Proofs.StatementLookup
import DecimalMachine.Proofs.EmulatorProgram
import DecimalMachine.Proofs.FaultLines
import DecimalMachine.Proofs.Equates
