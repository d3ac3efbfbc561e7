import DecimalMachine.Assembly.Mnemonic
import DecimalMachine.Machine.Basic

/-!
# Assembled programs

A program is the list of its assembled statements and the memory size it was laid out for.
Each statement records the source line of its mnemonic, the address of its first word, the
mnemonic, the label it defines and the label it refers to (if any), its literal value, and
the words it generated. Statements follow each other without gaps: each starts where the
previous one ends.

* `Program.length` is the address just past the last word;
* `Program.binary` is the memory image: as many words as memory (or the program, if longer),
  each statement's words at its address and zeros elsewhere;
* `Program.locate?` finds the statement whose words cover an address, and the position of the
  address among them.
-/

namespace DecimalMachine

/-- An assembled statement of a program. -/
structure Statement where
  /-- The source line of the mnemonic. -/
  lineNo : Nat
  /-- The address of the first word. -/
  ip : Nat
  /-- The mnemonic. -/
  mnemonic : Mnemonic
  /-- The label the statement defines. -/
  label : Option String := none
  /-- The label whose address is the statement's value. -/
  link : Option String := none
  /-- The literal value, when no label is referred to. -/
  value : Int := 0
  /-- The words generated. -/
  words : List Int := []
  deriving Repr, Inhabited

/-- An assembled program. -/
structure Program where
  /-- The statements, in address order. -/
  statements : Array Statement
  /-- The memory size the program was laid out for. -/
  size : Int
  deriving Repr, Inhabited

namespace Program

/-- The address just past the last word. -/
def length (p : Program) : Nat :=
  match p.statements.back? with
  | some s => s.ip + s.words.length
  | none => 0

/-- The memory image of a program. -/
def binary (p : Program) : Array Int :=
  let size := if p.size == 0 then (defaultMemory : Int) else p.size
  let n := max size.toNat p.length
  p.statements.foldl (fun img s => s.words.zipIdx.foldl (fun img (w, k) => img.set! (s.ip + k) w) img)
    (Array.replicate n 0)

/-- The statement covering address `ip` and the position of `ip` among its words. -/
def locate? (p : Program) (ip : Int) : Option (Statement × Nat) :=
  (p.statements.find? fun s => s.ip ≤ ip ∧ ip < s.ip + s.words.length).map fun s =>
    (s, (ip - s.ip).toNat)

end Program

end DecimalMachine
