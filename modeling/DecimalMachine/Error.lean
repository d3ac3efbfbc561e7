import DecimalMachine.Machine.Op
import DecimalMachine.Script.Diagnostic
import DecimalMachine.Text.Decimal

/-!
# Failures

Every failure of the assembler, the machine, its devices and the emulator is a value of
`Error`. Some failures stand for themselves (`badStack`, `channelEmpty`, …); the others carry
data and usually a cause: a syntax failure names the source line and wraps what went wrong
there, a fault names the address and word of the instruction and wraps why it failed.

* `Error.message` is the text of a failure. Integers in it are grouped by three
  (`line 1,201 …`); the listing text of a faulting word is not.
* `Error.cause?` is the failure one level down; a pair of failures (`joined`) has none.
* `Error.isA kind e` says whether `e` counts as the plain failure `kind`: it is `kind`,
  refines it (a missing label is a bad label; a number or operand out of range is out of
  range; a bad word is an unknown instruction), or has it among its causes.
-/

namespace DecimalMachine

open Text

/-- A failure. -/
inductive Error where
  /-- A stack operation found no element to take or no room to put one. -/
  | badStack
  /-- A stack division by zero. -/
  | divisionByZero
  /-- The program counter left memory. -/
  | badAddress
  /-- An input instruction could not read a value. -/
  | inputFailed
  /-- A memory size below the least the machine needs. -/
  | memorySize
  /-- A program larger than memory. -/
  | programSize
  /-- A word or mnemonic that names no instruction. -/
  | unknownInstruction
  /-- A mnemonic that needs an argument stands last. -/
  | argumentRequired
  /-- A number out of its allowed range. -/
  | outOfRange
  /-- A label that cannot be used. -/
  | badLabel
  /-- A label defined twice under strict assembly. -/
  | duplicateLabel
  /-- An assembly-time expression whose value is not an integer word. -/
  | notAnInteger
  /-- A device with no more input. -/
  | channelEmpty
  /-- A run stopped because its step budget was spent. -/
  | canceled
  /-- A line or word longer than the reader accepts. -/
  | tooLong
  /-- A failure at a source line, with the text of that line. -/
  | atLine (lineNo : Int) (line : String) (cause : Error)
  /-- An assembly-time expression that could not be evaluated. -/
  | badExpression (text : String) (cause : Error)
  /-- A diagnostic of the expression language. -/
  | script (failure : Script.Failure)
  /-- The instruction at `ip`, word `word`, failed. -/
  | fault (ip : Int) (word : Int) (cause : Error)
  /-- A reference to a label that is not defined. -/
  | missingLabel (name : String)
  /-- A literal outside the range of a word. -/
  | numberRange (literal : String)
  /-- An operand that does not fit in the two low digits of an instruction. -/
  | operandRange (operand : Int)
  /-- A word that is not an instruction. -/
  | badWord (word : Int)
  /-- A failure while running the program, at the source line of the current instruction. -/
  | runtime (lineNo : Int) (cause : Error)
  /-- A tape word that is not a number. -/
  | notANumber (text : String)
  /-- Two failures reported together. -/
  | joined (first second : Error)
  /-- A failure with nothing but a message. -/
  | other (message : String)
  /-- A memory access outside memory; nothing can continue after it. -/
  | outOfBounds (index : Int) (size : Nat)
  deriving DecidableEq, Repr, Inhabited

namespace Error

/-- The text of a failure. -/
def message : Error → String
  | badStack => "bad stack"
  | divisionByZero => "division by zero"
  | badAddress => "bad address"
  | inputFailed => "input failed"
  | memorySize => "memory size invalid"
  | programSize => "program exceeds memory"
  | unknownInstruction => "unknown instruction"
  | argumentRequired => "argument required"
  | outOfRange => "number is out of range"
  | badLabel => "bad label"
  | duplicateLabel => "label duplicated"
  | notAnInteger => "expression is not an integer"
  | channelEmpty => "channel empty"
  | canceled => "context canceled"
  | tooLong => "bufio.Scanner: token too long"
  | atLine n line cause => "line " ++ grouped n ++ " '" ++ line ++ "' " ++ cause.message
  | badExpression text cause => "$(" ++ text ++ ") is not a valid expression: " ++ cause.message
  | script failure => failure.message
  | fault ip word cause =>
    "fault at " ++ grouped ip ++ " (" ++ Word.render word ++ "): " ++ cause.message
  | missingLabel name => "label " ++ name ++ " missing"
  | numberRange literal => "'" ++ literal ++ "' is out of range"
  | operandRange n => "operand " ++ grouped n ++ " does not fit in an instruction"
  | badWord w => "bad opcode " ++ grouped w
  | runtime n cause => "line " ++ grouped n ++ " " ++ cause.message
  | notANumber text => "'" ++ text ++ "' is not a number"
  | joined a b => a.message ++ "\n" ++ b.message
  | other m => m
  | outOfBounds i n =>
    "runtime error: index out of range [" ++ toString i ++ "]" ++
      (if 0 ≤ i then " with length " ++ toString n else "")

/-- The failure one level down, if there is exactly one. -/
def cause? : Error → Option Error
  | atLine _ _ c => some c
  | badExpression _ c => some c
  | fault _ _ c => some c
  | runtime _ c => some c
  | script (.failed m) => some (other m)
  | _ => none

/-- The plain failure that `e` refines without being it. -/
def refines (kind : Error) : Error → Bool
  | missingLabel _ => kind == badLabel
  | numberRange _ => kind == outOfRange
  | operandRange _ => kind == outOfRange
  | badWord _ => kind == unknownInstruction
  | _ => false

/-- Whether `e` counts as `kind`: it is `kind`, refines it, or has it among its causes. -/
def isA (kind : Error) (e : Error) : Bool :=
  e == kind || refines kind e ||
    match e with
    | atLine _ _ c => isA kind c
    | badExpression _ c => isA kind c
    | fault _ _ c => isA kind c
    | runtime _ c => isA kind c
    | joined a b => isA kind a || isA kind b
    | _ => false

/-- The failures that stand for themselves, which `isA` is asked about. -/
def plain : List Error :=
  [canceled, argumentRequired, badAddress, badLabel, badStack, channelEmpty, divisionByZero,
    notAnInteger, inputFailed, duplicateLabel, memorySize, outOfRange, programSize, tooLong,
    unknownInstruction]

/-- A failure and all its causes, depth first, both parts of a pair included. -/
def tree : Error → List Error
  | e@(atLine _ _ c) => e :: tree c
  | e@(badExpression _ c) => e :: tree c
  | e@(fault _ _ c) => e :: tree c
  | e@(runtime _ c) => e :: tree c
  | e@(joined a b) => e :: (tree a ++ tree b)
  | e@(script (.failed m)) => [e, other m]
  | e => [e]

/-- The chain of single causes, starting with the failure itself. -/
def chain (e : Error) : List Error :=
  e :: (match e with
    | atLine _ _ c => chain c
    | badExpression _ c => chain c
    | fault _ _ c => chain c
    | runtime _ c => chain c
    | script (.failed m) => [other m]
    | _ => [])

/-- Whether a failure ends everything: a memory access outside memory. -/
def isFatal : Error → Bool
  | outOfBounds _ _ => true
  | _ => false

end Error

end DecimalMachine
