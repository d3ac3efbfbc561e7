import DecimalMachine.Error

/-!
# Mnemonics

The assembler knows twenty-eight mnemonics: the name of each machine operation, `COB` (a
second name for `HLT`), `DAT` (a data word), and two pseudo-instructions that expand into
several words: `SPUSHI v` pushes an immediate (`LDI v`, `SPUSH`) and `CALL v` calls a routine
(`LDI v`, `SPUSH`, `JAL`). Mnemonics are upper case and matched exactly.

Each mnemonic says whether it needs an argument, how many words (slots) it occupies, and how
it expands into words for a given value.

Expansion encodes operations. An operation with an operand is encoded as its base word plus
the operand, which must lie in `[0, 99]`; an operation without one is its base word whatever
the operand. Operation numbers outside the table encode nothing.
-/

namespace DecimalMachine

/-! ## Encoding operations -/

/-- The word of an operation with an operand; an operand outside `[0, 99]` does not fit. -/
def Op.encode (op : Op) (arg : Int) : Except Error Int :=
  if !op.hasOperand then .ok op.base
  else if arg < 0 ∨ 99 < arg then .error (.operandRange arg)
  else .ok (op.base + arg)

namespace Word

/-- The word of operation number `n` with operand `arg`. -/
def make (n : Int) (arg : Int) : Except Error Int :=
  match Op.ofIndex? n with
  | some op => op.encode arg
  | none => .error .unknownInstruction

/-- The operation and operand of a word; a data word is a bad word. -/
def decode (w : Int) : Except Error (Op × Int) :=
  match decode? w with
  | some r => .ok r
  | none => .error (.badWord w)

end Word

/-! ## Mnemonics -/

/-- A mnemonic of the assembly language. -/
inductive Mnemonic where
  /-- A machine operation by its own name. -/
  | op (o : Op)
  /-- `COB`: a coffee break, that is, halt. -/
  | coffeeBreak
  /-- `DAT`: a data word. -/
  | data
  /-- `CALL`: load an address, push it, and jump to it. -/
  | callRoutine
  /-- `SPUSHI`: load an immediate and push it. -/
  | pushImmediate
  deriving DecidableEq, Repr, Inhabited

namespace Mnemonic

/-- The text of a mnemonic. -/
def text : Mnemonic → String
  | op o => o.name
  | coffeeBreak => "COB"
  | data => "DAT"
  | callRoutine => "CALL"
  | pushImmediate => "SPUSHI"

/-- The mnemonic a word spells, if any. -/
def ofString? (s : String) : Option Mnemonic :=
  match Op.all.find? (·.name == s) with
  | some o => some (op o)
  | none =>
    if s == "COB" then some coffeeBreak
    else if s == "DAT" then some data
    else if s == "CALL" then some callRoutine
    else if s == "SPUSHI" then some pushImmediate
    else none

/-- Whether the mnemonic is followed by an argument. -/
def argRequired : Mnemonic → Bool
  | op o => o.hasOperand
  | coffeeBreak => false
  | data | callRoutine | pushImmediate => true

/-- The number of words the mnemonic occupies. -/
def slots : Mnemonic → Nat
  | callRoutine => 3
  | pushImmediate => 2
  | _ => 1

/-- The words of the mnemonic for a value. -/
def expand (mn : Mnemonic) (value : Int) : Except Error (List Int) :=
  match mn with
  | data => .ok [value]
  | pushImmediate => do
    let load ← Op.loadImmediate.encode value
    pure [load, Op.push.base]
  | callRoutine => do
    let load ← Op.loadImmediate.encode value
    pure [load, Op.push.base, Op.call.base]
  | coffeeBreak => do
    let w ← Op.halt.encode value
    pure [w]
  | op o => do
    let w ← o.encode value
    pure [w]

/-- Whether a word is a mnemonic. -/
def isValid (s : String) : Bool :=
  (ofString? s).isSome

/-- Whether a word is a mnemonic that needs an argument. -/
def wordArgRequired (s : String) : Bool :=
  match ofString? s with
  | some mn => mn.argRequired
  | none => false

/-- The slots of a word: a word that is no mnemonic counts as one slot. -/
def wordSlots (s : String) : Nat :=
  match ofString? s with
  | some mn => mn.slots
  | none => 1

/-- The expansion of a word; a word that is no mnemonic is an unknown instruction. -/
def wordExpand (s : String) (value : Int) : Except Error (List Int) :=
  match ofString? s with
  | some mn => mn.expand value
  | none => .error .unknownInstruction

end Mnemonic

end DecimalMachine
