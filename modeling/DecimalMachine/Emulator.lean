import DecimalMachine.Assembly.Assembler
import DecimalMachine.Machine.Step

/-!
# The emulator

An emulator is a machine with a text tape attached, the program loaded into it, and the
equates defined for the next assembly. Assembling a source replaces the program only when
assembly succeeds, and then resets the machine: registers and memory cleared, the program's
memory image copied in. A reset clears the machine before it loads the program, so a load that
fails leaves it cleared. Assembly evaluates expressions with the evaluator it is given.

A tick steps the machine once and reports whether it has halted; a failure is reported with
the source line of the instruction that was about to run. Ticking a halted machine reports
its fault again. `run` ticks until the machine halts or fails, polling a step budget before
each tick: once the budget is spent the run stops, `canceled`.
-/

namespace DecimalMachine

/-- An emulator. -/
structure Emulator where
  /-- The machine, with the tape as its device. -/
  machine : Machine
  /-- The program last assembled. -/
  program : Program
  /-- Whether a label defined twice fails assembly. -/
  strict : Bool := false
  /-- Whether assembly, resets and steps are logged. -/
  verbose : Bool := false
  /-- Equates defined for assembly, in order; a later one wins. -/
  predefines : List (String × String) := []
  /-- What has been written to the diagnostic stream. -/
  trace : Array TraceLine := #[]
  deriving Inhabited

namespace Emulator

/-- A fresh emulator with `size` words of memory and a tape with no input whose output is
kept. -/
def create (size : Int) : Except Error Emulator := do
  let m ← Machine.create size
  pure { machine := { m with device := .tape { output := some (.buffer "") } },
         program := { statements := #[], size } }

/-- Define an equate for later assemblies. -/
def define (e : Emulator) (name value : String) : Emulator :=
  { e with predefines := setDefinition e.predefines name value }

/-- The equates an assembly sees: the memory layout of the machine, then the definitions. -/
def defines (e : Emulator) : List (String × String) :=
  e.machine.defines ++ e.predefines

/-- Move the machine's log records into the emulator's trace. -/
def collect (e : Emulator) : Emulator :=
  let journal := e.machine.journal
  if journal.isEmpty then e
  else { e with trace := e.trace ++ journal, machine := { e.machine with journal := #[] } }

/-- Add a log record to the trace. -/
def logLine (e : Emulator) (text : String) : Emulator :=
  { e with trace := e.trace.push (.logged text) }

/-- Reset the machine without logging it, then load the program. The result is the emulator
afterwards and the failure of the load, if it failed; the machine is cleared either way. -/
def reset (e : Emulator) : Emulator × Option Error :=
  let m := { e.machine with verbose := false }.reset
  let e := { e with machine := { m with verbose := e.verbose } }
  match e.machine.load e.program.binary with
  | .error err => (e, some err)
  | .ok m =>
    let e := { e with machine := m }
    (if e.verbose then e.logLine ("emulator: loaded " ++ toString e.program.length ++ " words")
      else e, none)

/-- The settings an emulator assembles with: its strictness and logging, the memory size of its
machine, and the layout equates followed by its definitions. -/
def settings (e : Emulator) : Settings :=
  { strict := e.strict, verbose := e.verbose, memorySize := e.machine.size,
    predefines := e.defines }

/-- Assemble a source for this machine with evaluator `ev`; on success keep the program and
reset. The result is the emulator after the reset, or the failure, beside the emulator
afterwards. -/
def assembleSource (ev : Evaluator) (e : Emulator) (source : String) :
    Except Error Emulator × Emulator :=
  let a := assemble ev e.settings source
  let e := { e with trace := e.trace ++ a.trace }
  match a.result with
  | .error err => (.error err, e)
  | .ok p =>
    match reset { e with program := p } with
    | (e', none) => (.ok e', e')
    | (e', some err) => (.error err, e')

/-- The source line of the instruction at the program counter, or 0. -/
def lineNo (e : Emulator) : Nat :=
  match e.program.locate? e.machine.pc with
  | some (s, _) => s.lineNo
  | none => 0

/-- The word of the instruction at the program counter: from the program when it covers the
address, else from memory, else 0. -/
def code (e : Emulator) : Int :=
  match e.program.locate? e.machine.pc with
  | some (s, k) => s.words.getD k 0
  | none => (e.machine.read? e.machine.pc).getD 0

/-- The instructions fetched since the last reset. -/
def ticks (e : Emulator) : Nat :=
  e.machine.ticks

/-- Step once. The result says whether the machine has halted, and carries a failure at the
source line of the instruction that was to run. -/
def tick (e : Emulator) : Emulator × Bool × Option Error :=
  let e := { e with machine := { e.machine with verbose := e.verbose } }
  let line := e.lineNo
  let wrapped (err : Option Error) : Option Error :=
    err.map fun x => if x.isFatal then x else .runtime line x
  if e.machine.status == .halted then (e, true, wrapped e.machine.err)
  else
    let (m, err) := e.machine.step
    let e := collect { e with machine := m }
    (e, m.status == .halted, wrapped err)

/-- Tick until the machine halts or fails, with a budget of `budget` ticks. Also returns
whether the machine halted and the number of budget polls that succeeded. -/
def run (e : Emulator) (budget : Int) : Emulator × Option Error × Int :=
  let rec go : Nat → Nat → Emulator → Emulator × Option Error × Nat
    | 0, polls, e => (e, some .canceled, polls)
    | fuel + 1, polls, e =>
      let (e, done, err) := e.tick
      if done || err.isSome then (e, err, polls + 1) else go fuel (polls + 1) e
  let (e, err, polls) := go budget.toNat 0 e
  (e, err, min polls budget)

end Emulator

end DecimalMachine
