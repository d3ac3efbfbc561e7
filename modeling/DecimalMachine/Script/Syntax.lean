import DecimalMachine.Script.Token

/-!
# Syntax of the language

Expressions are names, literals, list/tuple/dict displays and comprehensions, conditional
expressions, `lambda`, unary and binary operators, attribute selection, indexing, slicing
and calls. Statements are expressions, assignments (plain and augmented), `def`, `if`, `for`,
`while`, `return`, `break`, `continue`, `pass` and `load`. The assembler's programs assign
`rc`; the text of an expression may add statements on further lines.

Names keep their position: name resolution records a binding for each of them there, and
undefined names are reported there. A `lambda` or `def` keeps the position of its keyword,
which identifies its code when calls are checked for recursion.
-/

namespace DecimalMachine.Script

/-- A unary operator. -/
inductive UnaryOp where
  | neg | plus | invert | not
  deriving DecidableEq, Repr, Inhabited

/-- How a unary operator is written. -/
def UnaryOp.symbol : UnaryOp → String
  | neg => "-" | plus => "+" | invert => "~" | not => "not"

/-- A binary operator. -/
inductive BinaryOp where
  | add | sub | mul | div | floorDiv | mod | bitAnd | bitOr | bitXor | shiftLeft | shiftRight
  | eq | ne | lt | gt | le | ge | isIn | notIn | and | or
  deriving DecidableEq, Repr, Inhabited

/-- How a binary operator is written. -/
def BinaryOp.symbol : BinaryOp → String
  | add => "+" | sub => "-" | mul => "*" | div => "/" | floorDiv => "//" | mod => "%"
  | bitAnd => "&" | bitOr => "|" | bitXor => "^" | shiftLeft => "<<" | shiftRight => ">>"
  | eq => "==" | ne => "!=" | lt => "<" | gt => ">" | le => "<=" | ge => ">="
  | isIn => "in" | notIn => "not in" | and => "and" | or => "or"

/-- The binary operator a token stands for. -/
def BinaryOp.ofKind? : Kind → Option BinaryOp
  | .plus => some .add | .minus => some .sub | .star => some .mul | .slash => some .div
  | .slashslash => some .floorDiv | .percent => some .mod | .amp => some .bitAnd
  | .pipe => some .bitOr | .caret => some .bitXor | .ltlt => some .shiftLeft
  | .gtgt => some .shiftRight | .eql => some .eq | .neq => some .ne | .lt => some .lt
  | .gt => some .gt | .le => some .le | .ge => some .ge | .inKw => some .isIn
  | .notInKw => some .notIn | .andKw => some .and | .orKw => some .or
  | _ => none

/-- The binary operator of an augmented assignment token (`+=` and so on). -/
def BinaryOp.ofAssign? : Kind → Option BinaryOp
  | .plusEq => some .add | .minusEq => some .sub | .starEq => some .mul | .slashEq => some .div
  | .slashslashEq => some .floorDiv | .percentEq => some .mod | .ampEq => some .bitAnd
  | .pipeEq => some .bitOr | .caretEq => some .bitXor | .ltltEq => some .shiftLeft
  | .gtgtEq => some .shiftRight
  | _ => none

mutual

/-- An expression. -/
inductive Expr where
  | name (id : String) (pos : Position)
  | literal (value : Literal) (pos : Position)
  | list (items : List Expr) (pos : Position)
  /-- A tuple; `pos` is where it starts: its `(` when empty, else its first element. -/
  | tuple (items : List Expr) (pos : Position)
  | dict (entries : List (Expr × Expr)) (pos : Position)
  | listComp (body : Expr) (clauses : List Clause) (pos : Position)
  | dictComp (key value : Expr) (clauses : List Clause) (pos : Position)
  | cond (test yes no : Expr)
  | lambda (params : List Param) (body : Expr) (pos : Position)
  | unary (op : UnaryOp) (x : Expr) (pos : Position)
  | binary (op : BinaryOp) (x y : Expr)
  | dot (x : Expr) (field : String)
  | index (x i : Expr)
  | slice (x : Expr) (lo hi step : Option Expr)
  | call (fn : Expr) (args : List Arg)
  | paren (x : Expr) (pos : Position)

/-- A clause of a comprehension. -/
inductive Clause where
  | forIn (vars : Expr) (source : Expr)
  | ifCond (test : Expr)

/-- A parameter of a `lambda` or `def`. An optional parameter keeps the position of its `=`;
a starred one the position of its `*` or `**` and of its name. -/
inductive Param where
  | plain (name : String) (pos : Position)
  | optional (name : String) (default : Expr) (pos : Position)
  | star (name : Option (String × Position)) (pos : Position)
  | starStar (name : String) (namePos : Position) (pos : Position)

/-- An argument of a call. -/
inductive Arg where
  | positional (x : Expr)
  | keyword (name : String) (x : Expr) (pos : Position)
  | star (x : Expr) (pos : Position)
  | starStar (x : Expr) (pos : Position)

end

instance : Inhabited Expr := ⟨.literal .none default⟩

/-- Where an expression starts: the position of its first token. -/
def Expr.start : Expr → Position
  | .name _ pos | .literal _ pos | .list _ pos | .tuple _ pos | .dict _ pos
  | .listComp _ _ pos | .dictComp _ _ _ pos | .lambda _ _ pos | .unary _ _ pos
  | .paren _ pos => pos
  | .cond _ yes _ => yes.start
  | .binary _ x _ | .dot x _ | .index x _ | .slice x _ _ _ | .call x _ => x.start

/-- A name bound by `load`: the local name and where it is written, and the name it has in
the loaded module and where that is written. -/
structure LoadName where
  name : String
  pos : Position
  source : String
  sourcePos : Position

/-- A statement. -/
inductive Statement where
  | expr (x : Expr)
  /-- `lhs = rhs`, or `lhs op= rhs` when `op` is given; `pos` is where the operator is. -/
  | assign (op : Option BinaryOp) (lhs rhs : Expr) (pos : Position)
  /-- `def name(params): body`; `pos` is where `def` is. -/
  | define (name : String) (namePos : Position) (params : List Param) (body : List Statement)
      (pos : Position)
  /-- `if test: yes else: no`; an `elif` is an `if` alone in the `else` branch. -/
  | branch (test : Expr) (yes no : List Statement) (pos : Position)
  /-- `for vars in source: body`. -/
  | forLoop (vars source : Expr) (body : List Statement) (pos : Position)
  | whileLoop (test : Expr) (body : List Statement) (pos : Position)
  | returns (value : Option Expr) (pos : Position)
  | breakLoop (pos : Position)
  | continueLoop (pos : Position)
  | pass
  /-- `load(module, names…)`. -/
  | load (module : String) (names : List LoadName) (pos : Position)

instance : Inhabited Statement := ⟨.pass⟩

/-- What a function runs: a `lambda` gives the value of its expression, a `def` runs its
statements. -/
inductive Body where
  | expr (x : Expr)
  | block (body : List Statement)

end DecimalMachine.Script
