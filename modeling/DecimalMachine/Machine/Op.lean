/-!
# Operations of the decimal machine

The machine knows twenty-four operations. Each has a name, a base word and a flag saying
whether the low two digits of its word carry an operand (an address or an immediate).
Operations are numbered 0 to 23 in the order of `Op`; the number is how callers outside the
assembler name an operation, and a number outside the table names none.

| number | name | base | operand |
|---|---|---|---|
| 0 | HLT | 000 | no |
| 1–8 | ADD SUB STA LDI LDA BRA BRZ BRP | 100–800 | yes |
| 9–12 | INP OUT JAL RET | 901 902 910 911 | no |
| 13–17 | SPUSH SPOP SDUP SDROP SSWAP | 920–924 | no |
| 18–23 | SADD SSUB SMUL SDIV SMAX SMIN | 930–935 | no |

A word is an integer. The words `0`, `100`–`899`, `901`, `902`, `910`, `911`, `920`–`924` and
`930`–`935` are instructions; every other integer is plain data. An instruction word of an
operation with an operand carries it in its low two digits.

* `Word.decode?` reads the operation and operand of a word;
* `Word.render` is the listing text of a word: the mnemonic and operand of an instruction,
  or `DAT n` for data.
-/

namespace DecimalMachine

/-- An operation of the machine. -/
inductive Op where
  | halt
  | add
  | sub
  | store
  | loadImmediate
  | load
  | branch
  | branchZero
  | branchPositive
  | input
  | output
  | call
  | ret
  | push
  | pop
  | dup
  | drop
  | swap
  | stackAdd
  | stackSub
  | stackMul
  | stackDiv
  | stackMax
  | stackMin
  deriving DecidableEq, Repr, Inhabited

namespace Op

/-- Every operation, in number order. -/
def all : List Op :=
  [halt, add, sub, store, loadImmediate, load, branch, branchZero, branchPositive, input,
    output, call, ret, push, pop, dup, drop, swap, stackAdd, stackSub, stackMul, stackDiv,
    stackMax, stackMin]

/-- The number of an operation: its position in `all`. -/
def index : Op → Nat
  | halt => 0 | add => 1 | sub => 2 | store => 3 | loadImmediate => 4 | load => 5
  | branch => 6 | branchZero => 7 | branchPositive => 8 | input => 9 | output => 10
  | call => 11 | ret => 12 | push => 13 | pop => 14 | dup => 15 | drop => 16 | swap => 17
  | stackAdd => 18 | stackSub => 19 | stackMul => 20 | stackDiv => 21 | stackMax => 22
  | stackMin => 23

/-- The operation with number `n`, if there is one. -/
def ofIndex? (n : Int) : Option Op :=
  if n < 0 then none else all[n.toNat]?

/-- The mnemonic of an operation. -/
def name : Op → String
  | halt => "HLT" | add => "ADD" | sub => "SUB" | store => "STA" | loadImmediate => "LDI"
  | load => "LDA" | branch => "BRA" | branchZero => "BRZ" | branchPositive => "BRP"
  | input => "INP" | output => "OUT" | call => "JAL" | ret => "RET" | push => "SPUSH"
  | pop => "SPOP" | dup => "SDUP" | drop => "SDROP" | swap => "SSWAP" | stackAdd => "SADD"
  | stackSub => "SSUB" | stackMul => "SMUL" | stackDiv => "SDIV" | stackMax => "SMAX"
  | stackMin => "SMIN"

/-- The word of an operation with operand zero. -/
def base : Op → Int
  | halt => 0 | add => 100 | sub => 200 | store => 300 | loadImmediate => 400 | load => 500
  | branch => 600 | branchZero => 700 | branchPositive => 800 | input => 901 | output => 902
  | call => 910 | ret => 911 | push => 920 | pop => 921 | dup => 922 | drop => 923
  | swap => 924 | stackAdd => 930 | stackSub => 931 | stackMul => 932 | stackDiv => 933
  | stackMax => 934 | stackMin => 935

/-- Whether the low two digits of the word carry an operand. -/
def hasOperand : Op → Bool
  | add | sub | store | loadImmediate | load | branch | branchZero | branchPositive => true
  | _ => false

/-- The name shown for operation number `n`: its mnemonic, or `Op(n)` outside the table. -/
def nameOfIndex (n : Int) : String :=
  match ofIndex? n with
  | some op => op.name
  | none => "Op(" ++ toString n ++ ")"

/-- Whether operation number `n` takes an operand; numbers outside the table take none. -/
def operandOfIndex (n : Int) : Bool :=
  match ofIndex? n with
  | some op => op.hasOperand
  | none => false

theorem ofIndex?_index (op : Op) : ofIndex? (op.index : Int) = some op := by
  cases op <;> rfl

end Op

/-! ## Words -/

namespace Word

/-- The operation and operand of an instruction word; `none` for a data word. -/
def decode? (w : Int) : Option (Op × Int) :=
  if w == 0 then some (.halt, 0)
  else if 100 ≤ w && w ≤ 899 then
    (Op.ofIndex? (w / 100)).map fun op => (op, w % 100)
  else if w == 901 then some (.input, 0)
  else if w == 902 then some (.output, 0)
  else if w == 910 then some (.call, 0)
  else if w == 911 then some (.ret, 0)
  else if 920 ≤ w && w ≤ 924 then (Op.ofIndex? (13 + (w - 920))).map fun op => (op, 0)
  else if 930 ≤ w && w ≤ 935 then (Op.ofIndex? (18 + (w - 930))).map fun op => (op, 0)
  else none

/-- The listing text of a word: `LDA 12`, `HLT`, or `DAT 5000` for a data word. -/
def render (w : Int) : String :=
  match decode? w with
  | none => "DAT " ++ toString w
  | some (op, arg) => if op.hasOperand then op.name ++ " " ++ toString arg else op.name

/-- The word of an operation with an operand already known to fit. -/
def encode (op : Op) (arg : Int) : Int :=
  if op.hasOperand then op.base + arg else op.base

end Word

end DecimalMachine
