/-!
# Diagnostics of the expression language

An assembly-time expression fails in one of three ways, each with its own text:

* the text is not a well-formed program (`malformed`), reported at a position;
* the program names something nothing defines (`unresolved`), reported at the use;
* evaluation stops with an error (`failed`), reported without a position.

A position is the file name, a line and a column, both counted from 1, the column in
characters; it is written `file:line:column`.
-/

namespace DecimalMachine.Script

/-- A place in a source text. -/
structure Position where
  /-- The name the text was compiled under. -/
  file : String
  /-- Line, from 1. -/
  line : Nat
  /-- Column in characters, from 1. -/
  column : Nat
  deriving DecidableEq, Repr, Inhabited

/-- `file:line:column`, or fewer parts when the line or column is unknown (zero). -/
def Position.render (p : Position) : String :=
  if p.line == 0 then p.file
  else if p.column == 0 then p.file ++ ":" ++ toString p.line
  else p.file ++ ":" ++ toString p.line ++ ":" ++ toString p.column

/-- Why an expression could not be evaluated. -/
inductive Failure where
  /-- The text is not a well-formed program. -/
  | malformed (pos : Position) (message : String)
  /-- A name is used that nothing in scope defines, or a binding is not allowed. -/
  | unresolved (pos : Position) (message : String)
  /-- Evaluation stopped with an error. -/
  | failed (message : String)
  deriving DecidableEq, Repr, Inhabited

/-- The text of a failure: the position first when there is one. -/
def Failure.message : Failure → String
  | .malformed pos m => pos.render ++ ": " ++ m
  | .unresolved pos m => pos.render ++ ": " ++ m
  | .failed m => m

end DecimalMachine.Script
