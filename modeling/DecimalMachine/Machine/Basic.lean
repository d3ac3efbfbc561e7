import DecimalMachine.Machine.Device

/-!
# The machine and its registers

A machine has a memory of integer words, an accumulator, a program counter, an instruction
register, a data-stack pointer `sp`, a return-address pointer `rap`, a run status, the fault
that halted it (if any), the record of values it has output, a count of instructions fetched,
and an attached device.

Both stacks live in the top hundred words of memory. The data stack grows down from the
stack base (the memory size): `sp` is the address of its top element, and equals the base
when the stack is empty. The return stack grows up from the return base, 101 words below the
memory size: `rap` is the address of its top element and equals the return base when it is
empty. A fresh machine satisfies `returnBase ≤ rap < sp ≤ stackBase`.

Registers hold signed 64-bit values; arithmetic on the accumulator wraps (`wrap`) and a
completed instruction leaves the accumulator clamped to `[-999, 999]` (`clamp`).

While it works, the toolchain writes lines to its diagnostic stream: the records of verbose
logging (`cpu: reset`, `1: LDI 5`, …), whatever an assembly-time expression prints, and the
values a tape writes when its output is the diagnostic stream. All are kept, in the order
written, as trace lines (`TraceLine`); the logged ones are the log, and the diagnostic stream
of the command line is all of them.
-/

namespace DecimalMachine

open Text

/-! ## Trace lines -/

/-- A line written to the diagnostic stream. -/
inductive TraceLine where
  /-- A record of verbose logging. -/
  | logged (text : String)
  /-- A line an assembly-time expression printed. -/
  | printed (text : String)
  /-- A value a tape wrote. -/
  | written (text : String)
  deriving DecidableEq, Repr, Inhabited

namespace TraceLine

/-- The text of the line. -/
def text : TraceLine → String
  | logged t | printed t | written t => t

/-- The log records among trace lines, in order. -/
def logOf (lines : Array TraceLine) : Array String :=
  lines.filterMap fun
    | logged t => some t
    | printed _ | written _ => none

end TraceLine

/-! ## Registers and memory -/

/-- Whether the machine waits to start, runs, or has stopped. -/
inductive Status where
  | ready
  | running
  | halted
  deriving DecidableEq, Repr, Inhabited

namespace Status

/-- The number of a status, in the order ready, running, halted. -/
def index : Status → Nat
  | ready => 0 | running => 1 | halted => 2

/-- The word for a status. -/
def name : Status → String
  | ready => "ready" | running => "running" | halted => "halted"

/-- The word for status number `n`, or `Status(n)` for a number that names none. -/
def nameOfIndex (n : Int) : String :=
  if n == 0 then "ready" else if n == 1 then "running" else if n == 2 then "halted"
  else "Status(" ++ toString n ++ ")"

end Status

/-- The least memory a machine can have: code, data and the return stack must fit. -/
def minMemory : Nat := 200

/-- The memory size assumed when none is given. -/
def defaultMemory : Nat := 1000

/-- How far below the top of memory the return stack starts. -/
def returnOffset : Int := 100

/-- The greatest accumulator value after an instruction. -/
def accMax : Int := 999

/-- The least accumulator value after an instruction. -/
def accMin : Int := -999

/-- Reduce an integer to the signed 64-bit range, as register arithmetic wraps. -/
def wrap (i : Int) : Int :=
  i.bmod 18446744073709551616

/-- Limit a value to the accumulator's range `[-999, 999]`. -/
def clamp (i : Int) : Int :=
  max accMin (min i accMax)

/-- The names every program can use for the layout of a memory of `size` words:
`MEMORY_SIZE`, `TOP_OF_MEMORY`, `STACK_BASE` and `RETURN_BASE`, in that order. -/
def memoryDefines (size : Int) : List (String × String) :=
  [("MEMORY_SIZE", decimal size), ("TOP_OF_MEMORY", decimal (size - 1)),
    ("STACK_BASE", decimal size), ("RETURN_BASE", decimal (size - 1 - returnOffset))]

/-- The state of a machine. -/
structure Machine where
  /-- The words of memory. -/
  memory : Array Int
  /-- The accumulator. -/
  acc : Int := 0
  /-- The address of the next instruction. -/
  pc : Int := 0
  /-- The last word fetched. -/
  ir : Int := 0
  /-- The address of the top of the data stack. -/
  sp : Int
  /-- The address of the top of the return stack. -/
  rap : Int
  /-- Whether the machine waits, runs or has stopped. -/
  status : Status := .ready
  /-- The fault that stopped the machine, if one did. -/
  err : Option Error := none
  /-- The values output, in order. -/
  output : Array Int := #[]
  /-- Instructions fetched since the last reset. -/
  ticks : Nat := 0
  /-- The attached device. -/
  device : Device := .none
  /-- Whether the machine records a trace of what it does. -/
  verbose : Bool := false
  /-- The trace records written so far, oldest first. -/
  journal : Array TraceLine := #[]
  deriving Repr, Inhabited

/-- What an operation leaves: the machine as it stands, and the failure it reports, if any. -/
abbrev Outcome := Machine × Option Error

/-- Go on with `f` when `o` reports no failure; otherwise stop with `o`. -/
def Outcome.andThen (o : Outcome) (f : Machine → Outcome) : Outcome :=
  match o with
  | (m, none) => f m
  | o => o

namespace Machine

/-- The number of words of memory. -/
def size (m : Machine) : Nat :=
  m.memory.size

/-- The address just above the data stack: the memory size. -/
def stackBase (m : Machine) : Int :=
  m.size

/-- The address just below the return stack. -/
def returnBase (m : Machine) : Int :=
  (m.size : Int) - 1 - returnOffset

/-- The number of elements on the data stack. -/
def depth (m : Machine) : Int :=
  wrap (m.stackBase - m.sp)

/-- Add a trace record when the machine is verbose. -/
def note (m : Machine) (line : String) : Machine :=
  if m.verbose then { m with journal := m.journal.push (.logged line) } else m

/-- Put a machine back in its starting state: registers zero, memory cleared, both stacks
empty, status ready, no fault, no output, and the device rewound. -/
def reset (m : Machine) : Machine :=
  let m := m.note "cpu: reset"
  { m with
    acc := 0, pc := 0, ir := 0, status := .ready, err := none, output := #[], ticks := 0,
    memory := Array.replicate m.size 0, sp := m.stackBase, rap := m.returnBase,
    device := m.device.rewind }

/-- A fresh machine with `size` words of memory; fewer than `minMemory` words is refused. -/
def create (size : Int) : Except Error Machine :=
  if size < minMemory then .error .memorySize
  else
    let n := size.toNat
    .ok { memory := Array.replicate n 0, sp := n, rap := (n : Int) - 1 - returnOffset }

/-- Copy a program into the bottom of memory; a program longer than memory is refused. -/
def load (m : Machine) (program : Array Int) : Except Error Machine :=
  if program.size > m.size then .error .programSize
  else .ok { m with memory := program ++ m.memory.extract program.size m.size }

/-- The word at an address, if the address is inside memory. -/
def read? (m : Machine) (addr : Int) : Option Int :=
  if addr < 0 then none else m.memory[addr.toNat]?

/-- The word at an address inside memory, or zero. -/
def read (m : Machine) (addr : Int) : Int :=
  (m.read? addr).getD 0

/-- Replace the word at an address. An address outside memory is a fatal access, which leaves
the machine as it was. -/
def write (m : Machine) (addr : Int) (v : Int) : Outcome :=
  if 0 ≤ addr ∧ addr.toNat < m.size then ({ m with memory := m.memory.set! addr.toNat v }, none)
  else (m, some (.outOfBounds addr m.size))

/-- The data stack, top first. -/
def stack (m : Machine) : List Int :=
  if m.sp < 0 then [] else (m.memory.extract m.sp.toNat m.size).toList

/-- The return stack, top first. -/
def returnStack (m : Machine) : List Int :=
  if m.rap ≤ m.returnBase ∨ m.size ≤ m.rap then []
  else (m.memory.extract (m.returnBase + 1).toNat (m.rap + 1).toNat).toList.reverse

/-- The nonzero words of memory with their addresses, in address order. -/
def nonzeroWords (m : Machine) : List (Nat × Int) :=
  (m.memory.toList.zipIdx.filter (fun p => p.1 != 0)).map fun p => (p.2, p.1)

/-- The names of the memory layout for this machine. -/
def defines (m : Machine) : List (String × String) :=
  memoryDefines m.size

end Machine

end DecimalMachine
