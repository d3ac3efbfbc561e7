import DecimalMachine.Machine.Stack
import DecimalMachine.Text.Decimal

/-!
# Executing instructions

* `executeOp` performs one operation with its operand. Addressed operations use the operand
  modulo 100 as address (made non-negative); `LDI` loads the operand itself. Accumulator
  arithmetic wraps and is not clamped here. `OUT` records the accumulator before it sends it,
  and fails when the device does (a tape whose writer is broken).
* `execute` decodes a word and performs it; a data word fails with `badWord`.
* `step` fetches the word at the program counter, advances the counter, counts the fetch,
  executes the word and clamps the accumulator. A failure halts the machine with a fault
  naming the address and word; a program counter outside memory faults with `badAddress`
  before anything is fetched. A halted machine does not step.
* `run` steps until the machine halts, fails, or a step budget is spent (`canceled`).
-/

namespace DecimalMachine

open Text

namespace Machine

/-- Read a value from the device into the accumulator. -/
def readInput (m : Machine) : Outcome :=
  match m.device with
  | .none => (m, some .inputFailed)
  | d =>
    match d.receive with
    | (.ok v, d') => ({ m with acc := v, device := d' }, none)
    | (.error e, d') => ({ m with device := d' }, some (.joined .inputFailed e))

/-- Record the accumulator as output and send it to the device, which may report a failure;
a tape writing to the diagnostic stream also leaves the line among the trace records. -/
def writeOutput (m : Machine) : Outcome :=
  let journal := if m.device.isDiagnostic then m.journal.push (.written (decimal m.acc))
    else m.journal
  let (device, failure) := m.device.send m.acc
  ({ m with output := m.output.push m.acc, device, journal }, failure)

/-- Perform an operation with its operand. -/
def executeOp (m : Machine) (op : Op) (arg : Int) : Outcome :=
  let addr := arg % 100
  match op with
  | .halt => ({ m with status := .halted }, none)
  | .add => ({ m with acc := wrap (m.acc + m.read addr) }, none)
  | .sub => ({ m with acc := wrap (m.acc - m.read addr) }, none)
  | .store => m.write addr m.acc
  | .loadImmediate => ({ m with acc := arg }, none)
  | .load => ({ m with acc := m.read addr }, none)
  | .branch => ({ m with pc := addr }, none)
  | .branchZero => (if m.acc == 0 then { m with pc := addr } else m, none)
  | .branchPositive => (if 0 ≤ m.acc then { m with pc := addr } else m, none)
  | .input => m.readInput
  | .output => m.writeOutput
  | .call => m.call
  | .ret => m.popReturn
  | .push => m.push
  | .pop => m.pop
  | .dup => m.dup
  | .drop => m.drop
  | .swap => m.swap
  | .stackAdd => m.combine fun l r => .ok (wrap (l + r))
  | .stackSub => m.combine fun l r => .ok (wrap (l - r))
  | .stackMul => m.combine fun l r => .ok (wrap (l * r))
  | .stackDiv => m.combine stackQuotient
  | .stackMax => m.combine fun l r => .ok (max l r)
  | .stackMin => m.combine fun l r => .ok (min l r)

/-- Perform operation number `n`; a number outside the table is an unknown instruction. -/
def executeNumbered (m : Machine) (n : Int) (arg : Int) : Outcome :=
  match Op.ofIndex? n with
  | some op => m.executeOp op arg
  | none => (m, some .unknownInstruction)

/-- Decode a word and perform it, tracing the word when verbose. -/
def execute (m : Machine) (w : Int) : Outcome :=
  match Word.decode? w with
  | none => (m, some (.badWord w))
  | some (op, arg) =>
    let m := m.note (threePlaces (m.pc - 1) ++ ": " ++ threePlaces w ++ " " ++ Word.render w)
    m.executeOp op arg

/-- Halt with a fault at `ip`, word `w`, caused by `e`. A fatal access is passed on as is. -/
def fault (m : Machine) (ip w : Int) (e : Error) : Outcome :=
  if e.isFatal then (m, some e)
  else
    let f := Error.fault ip w e
    ({ m with err := some f, status := .halted } |>.note ("cpu: " ++ f.message), some f)

/-- Fetch, count and execute one instruction. -/
def step (m : Machine) : Outcome :=
  if m.status == .halted then (m, none)
  else
    let m := { m with status := .running }
    let ip := m.pc
    match m.read? ip with
    | none => m.fault ip 0 .badAddress
    | some w =>
      let (m', e) := ({ m with ir := w, pc := ip + 1, ticks := m.ticks + 1 }).execute w
      let m' := { m' with acc := clamp m'.acc }
      match e with
      | none => (m', none)
      | some e => m'.fault ip w e

/-- Step while the machine runs and steps remain; `taken` counts the steps made. The result
is the outcome and the number of steps. -/
def runSteps : Nat → Nat → Machine → Outcome × Nat
  | fuel, taken, m =>
    if m.status == .halted then ((m, none), taken)
    else
      match fuel with
      | 0 => ((m, some .canceled), taken)
      | fuel + 1 =>
        match m.step with
        | (m', some e) => ((m', some e), taken + 1)
        | (m', none) => runSteps fuel (taken + 1) m'

/-- Run with a budget of `budget` steps. A halted machine reports its fault again without
stepping. Otherwise the machine is set running and steps until it halts, fails, or the
budget is spent (`canceled`). Also returns how many budget polls succeeded: the steps made,
or the whole budget when it was spent. -/
def run (m : Machine) (budget : Int) : Outcome × Int :=
  if m.status == .halted then ((m, m.err), min 0 budget)
  else
    let (o, taken) := runSteps budget.toNat 0 { m with status := .running }
    match o.2 with
    | some .canceled => (o, budget)
    | _ => (o, taken)

end Machine

end DecimalMachine
