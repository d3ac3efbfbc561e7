import DecimalMachine.Machine.Basic
import DecimalMachine.Text.Decimal

/-!
# Register dump

The state of a machine as text: one line per register, the name right-aligned in six
columns, a colon, then the value. Addresses and words are zero-padded to three places, the
accumulator to four with its sign always shown, and the stacks are written top first in
brackets. A halted machine with a fault shows the fault's message after its status.

```text
status: halted (fault at 1 (SPOP): bad stack)
   acc: +005
    pc: 002
    ir: 921 SPOP
    sp: 1000
   rap: 899
 stack: []
return: []
```
-/

namespace DecimalMachine

open Text

namespace Machine

/-- The status with the fault's message, if any. -/
def statusText (m : Machine) : String :=
  match m.err with
  | none => m.status.name
  | some e => m.status.name ++ " (" ++ e.message ++ ")"

/-- The register dump of a machine. -/
def render (m : Machine) : String :=
  let rows : List (String × String) :=
    [("status", m.statusText),
     ("acc", zeroPadded 4 true m.acc),
     ("pc", threePlaces m.pc),
     ("ir", threePlaces m.ir ++ " " ++ Word.render m.ir),
     ("sp", threePlaces m.sp),
     ("rap", threePlaces m.rap),
     ("stack", bracketed (m.stack.map decimal)),
     ("return", bracketed (m.returnStack.map decimal))]
  String.join (rows.map fun (name, value) => rightAligned 6 name ++ ": " ++ value ++ "\n")

end Machine

end DecimalMachine
