import DecimalMachine.Machine.Basic

/-!
# The two stacks

The data stack and the return stack share the top hundred words of memory and grow towards
each other. Every stack operation checks its bound first and fails with `badStack` instead
of moving a pointer past it:

* `push` needs a free word between the two stacks: `rap < sp - 1`, and `sp - 1` inside memory;
* `pop` needs an element: `sp` below the stack base and not negative;
* `pushReturn` needs a free word above the return stack: `rap + 1 < sp`, above the return base;
* `popReturn` needs an element: `rap` above the return base and inside memory.

The compound operations (`dup`, `drop`, `swap`, `combine`, `call`) use the accumulator as
scratch and give it back afterwards, whether they succeed or fail. A failure part-way leaves
what was already done: `swap` on a one-element stack has popped that element. `call` is the
exception that puts its popped target back when the return stack is full.

An operation's result is an `Outcome`: the machine as it stands, and the failure if any.
-/

namespace DecimalMachine

namespace Machine

/-- Push the accumulator onto the data stack. -/
def push (m : Machine) : Outcome :=
  if m.sp - 1 ≤ m.rap ∨ m.stackBase ≤ m.sp - 1 then (m, some .badStack)
  else
    let sp := m.sp - 1
    (m.write sp m.acc).andThen fun m => ({ m with sp }, none)

/-- Pop the top of the data stack into the accumulator. -/
def pop (m : Machine) : Outcome :=
  if m.stackBase ≤ m.sp ∨ m.sp < 0 then (m, some .badStack)
  else ({ m with acc := m.read m.sp, sp := m.sp + 1 }, none)

/-- Push a return address onto the return stack. -/
def pushReturn (m : Machine) (ip : Int) : Outcome :=
  if m.sp ≤ m.rap + 1 ∨ m.rap + 1 ≤ m.returnBase then (m, some .badStack)
  else
    let rap := m.rap + 1
    (m.write rap ip).andThen fun m => ({ m with rap }, none)

/-- Pop the top of the return stack into the program counter. -/
def popReturn (m : Machine) : Outcome :=
  if m.rap ≤ m.returnBase ∨ m.size ≤ m.rap then (m, some .badStack)
  else ({ m with pc := m.read m.rap, rap := m.rap - 1 }, none)

/-- Run `f` with the accumulator as scratch: its value is restored afterwards. -/
def scratch (m : Machine) (f : Machine → Outcome) : Outcome :=
  let acc := m.acc
  let (m', e) := f m
  ({ m' with acc }, e)

/-- Duplicate the top of the data stack. -/
def dup (m : Machine) : Outcome :=
  m.scratch fun m => m.pop.andThen fun m => m.push.andThen push

/-- Drop the top of the data stack. -/
def drop (m : Machine) : Outcome :=
  m.scratch pop

/-- Exchange the two top elements of the data stack. -/
def swap (m : Machine) : Outcome :=
  m.scratch fun m =>
    m.pop.andThen fun m1 =>
      let first := m1.acc
      m1.pop.andThen fun m2 =>
        let second := m2.acc
        ({ m2 with acc := first }).push.andThen fun m3 => ({ m3 with acc := second }).push

/-- Replace the two top elements by `f left right`, clamped, where `right` was on top. -/
def combine (m : Machine) (f : Int → Int → Except Error Int) : Outcome :=
  m.scratch fun m =>
    m.pop.andThen fun m1 =>
      let right := m1.acc
      m1.pop.andThen fun m2 =>
        let left := m2.acc
        match f left right with
        | .error e => (m2, some e)
        | .ok r => ({ m2 with acc := clamp r }).push

/-- Jump to the address on top of the data stack, pushing the program counter as return
address; when the return stack is full the target stays on the data stack. -/
def call (m : Machine) : Outcome :=
  m.scratch fun m =>
    m.pop.andThen fun m1 =>
      let target := m1.acc
      match m1.pushReturn m1.pc with
      | (m2, some e) => ({ m2 with sp := m2.sp - 1 }, some e)
      | (m2, none) => ({ m2 with pc := target }, none)

end Machine

/-- Stack division: truncating, and refusing a zero divisor. -/
def stackQuotient (left right : Int) : Except Error Int :=
  if right == 0 then .error .divisionByZero else .ok (wrap (left.tdiv right))

end DecimalMachine
