import DecimalMachine.Script.Lexer
import DecimalMachine.Script.Syntax

/-!
# Parsing

A recursive-descent parser with one token of lookahead. Binary operators are parsed by
precedence climbing over ten levels, loosest first:

`or` · `and` · `not` · comparisons and `in`/`not in` · `|` · `^` · `&` · `<<` `>>` ·
`+` `-` · `*` `/` `//` `%`.

Unary `-`, `+` and `~` bind tighter than all of them and apply to a primary with its
suffixes (attribute, index or slice, call). Comparisons do not chain.

Diagnostics follow the language's wording: a token that cannot start an operand is reported
at its start (`got if, want primary expression`); a missing token is reported where reading
stopped after the token found instead (`got identifier, want newline`).

Statements follow the layout of the text: a compound statement (`def`, `if`, `for`, `while`)
ends its header with `:` and takes either the rest of the line or an indented block; small
statements end their line and may share it, separated by `;`.

Every parsing function takes fuel; `parseProgram` starts with more fuel than the nesting of
any program its tokens can spell, so the fuel never runs out.
-/

namespace DecimalMachine.Script

/-- The tokens a parser reads, and the failure that stops reading after the last of them. -/
structure Stream where
  tokens : Array Token
  failure : Option Failure

/-- Where a parser stands: the index of the current token, and whether a `not` just read
turned the current `in` into `not in`. -/
structure Cursor where
  index : Nat := 0
  negated : Bool := false

/-- A parsing step: reads the stream, moves a cursor, may fail. -/
abbrev Parse := ReaderT Stream (StateT Cursor (Except Failure))

namespace Parse

/-- Fail with a malformed-text diagnostic. -/
def fail {α : Type} (p : Position) (msg : String) : Parse α :=
  throw (.malformed p msg)

/-- The current token. -/
def current : Parse Token := do
  let s ← read
  let c ← get
  let t := match s.tokens[c.index]? with
    | some t => t
    | none => s.tokens.back?.getD { kind := .eof, pos := default, stop := default }
  pure (if c.negated && t.kind == .inKw then { t with kind := .notInKw } else t)

/-- Move to the next token, returning the start of the current one. Reading past the last
token raises the failure that stopped the scanner. -/
def bump : Parse Position := do
  let t ← current
  let s ← read
  let c ← get
  if c.index + 1 < s.tokens.size then set ({ index := c.index + 1 } : Cursor)
  else
    match s.failure with
    | some f => throw f
    | none => set ({ c with negated := false } : Cursor)
  pure t.pos

/-- The current token's kind. -/
def kind : Parse Kind := do
  return (← current).kind

/-- Move past a token of kind `k`, or fail where reading stopped after the current token. -/
def expect (k : Kind) : Parse Position := do
  let t ← current
  if t.kind != k then fail t.stop ("got " ++ t.describe ++ ", want " ++ k.describe)
  else bump

/-- A name. -/
def ident : Parse (String × Position) := do
  let t ← current
  if t.kind != .ident then fail t.stop "not an identifier"
  else
    let _ ← bump
    pure (t.text, t.pos)

/-- The binding level of a binary operator token, loosest 0; none for other tokens. -/
def level : Kind → Option Nat
  | .orKw => some 0
  | .andKw => some 1
  | .notKw => some 2
  | .eql | .neq | .lt | .gt | .le | .ge | .inKw | .notInKw => some 3
  | .pipe => some 4
  | .caret => some 5
  | .amp => some 6
  | .ltlt | .gtgt => some 7
  | .minus | .plus => some 8
  | .star | .percent | .slash | .slashslash => some 9
  | _ => none

/-- The number of binding levels. -/
def levels : Nat := 10

/-- Whether a token ends a comma-separated list. -/
def endsList : Kind → Bool
  | .eof | .newline | .eq | .rbrace | .rbrack | .rparen | .semi => true
  | _ => false

/-- Fail because the fuel ran out; a program never nests that deeply. -/
def exhausted {α : Type} : Parse α := do
  fail (← current).pos "expression nested too deeply"

mutual

/-- An expression, possibly an unparenthesized tuple. -/
def expr (inParens : Bool) : Nat → Parse Expr
  | 0 => exhausted
  | fuel + 1 => do
    let x ← test fuel
    if (← kind) != .comma then pure x
    else
      let items ← exprList [x] inParens fuel
      pure (.tuple items x.start)

/-- The rest of a comma-separated list after its first element. -/
def exprList (acc : List Expr) (trailingComma : Bool) : Nat → Parse (List Expr)
  | 0 => exhausted
  | fuel + 1 => do
    if (← kind) != .comma then pure acc.reverse
    else
      let pos ← bump
      if endsList (← kind) then
        if !trailingComma then fail pos "unparenthesized tuple with trailing comma"
        else pure acc.reverse
      else
        let x ← test fuel
        exprList (x :: acc) trailingComma fuel

/-- A single expression: a `lambda`, or an operand with an optional `if … else …`. -/
def test : Nat → Parse Expr
  | 0 => exhausted
  | fuel + 1 => do
    if (← kind) == .lambdaKw then lambda true fuel
    else
      let x ← testLevel 0 fuel
      if (← kind) == .ifKw then
        let ifPos ← bump
        let c ← testLevel 0 fuel
        if (← kind) != .elseKw then fail ifPos "conditional expression without else clause"
        let _ ← bump
        let y ← test fuel
        pure (.cond c x y)
      else pure x

/-- A single expression without a trailing `if … else …`. -/
def testNoCond : Nat → Parse Expr
  | 0 => exhausted
  | fuel + 1 => do
    if (← kind) == .lambdaKw then lambda false fuel else testLevel 0 fuel

/-- `lambda params: body`. -/
def lambda (allowCond : Bool) : Nat → Parse Expr
  | 0 => exhausted
  | fuel + 1 => do
    let pos ← bump
    let params ← if (← kind) != .colon then params [] fuel else pure []
    let _ ← expect .colon
    let body ← if allowCond then test fuel else testNoCond fuel
    pure (.lambda params body pos)

/-- Parameters up to `:` or `)`. -/
def params (acc : List Param) : Nat → Parse (List Param)
  | 0 => exhausted
  | fuel + 1 => do
    let k ← kind
    if k == .rparen || k == .colon || k == .eof then pure acc.reverse
    else
      if !acc.isEmpty then let _ ← expect .comma
      let k ← kind
      if k == .rparen then pure acc.reverse
      else if k == .star || k == .starstar then
        let pos ← bump
        if k == .starstar || (← kind) == .ident then
          let (n, namePos) ← ident
          let p := if k == .star then Param.star (some (n, namePos)) pos
            else Param.starStar n namePos pos
          params (p :: acc) fuel
        else params (Param.star none pos :: acc) fuel
      else
        let (n, pos) ← ident
        if (← kind) == .eq then
          let eqPos ← bump
          let d ← test fuel
          params (Param.optional n d eqPos :: acc) fuel
        else params (Param.plain n pos :: acc) fuel

/-- An operand at binding level `prec` or tighter. -/
def testLevel (prec : Nat) : Nat → Parse Expr
  | 0 => exhausted
  | fuel + 1 => do
    if prec ≥ levels then primaryWithSuffix fuel
    else if (← kind) == .notKw && prec == 2 then
      let pos ← bump
      let x ← testLevel prec fuel
      pure (.unary .not x pos)
    else
      let x ← testLevel (prec + 1) fuel
      binaryTail prec x true fuel

/-- Operators of level `prec` or looser following the operand `x`. -/
def binaryTail (prec : Nat) (x : Expr) (first : Bool) : Nat → Parse Expr
  | 0 => exhausted
  | fuel + 1 => do
    if (← kind) == .notKw then
      let _ ← bump
      let t ← current
      if t.kind != .inKw then fail t.stop ("got " ++ t.describe ++ ", want in")
      modify fun c => { c with negated := true }
    let k ← kind
    match level k with
    | none => pure x
    | some opPrec =>
      if opPrec < prec then pure x
      else
        if !first && opPrec == 3 then
          let t ← current
          let prevSymbol := match x with
            | .binary op _ _ => op.symbol
            | _ => ""
          fail t.stop (prevSymbol ++ " does not associate with " ++ k.symbol ++ " (use parens)")
        let _ ← bump
        let y ← testLevel (opPrec + 1) fuel
        match BinaryOp.ofKind? k with
        | some op => binaryTail prec (.binary op x y) false fuel
        | none => pure x

/-- A primary expression followed by any attribute, index, slice and call suffixes. -/
def primaryWithSuffix : Nat → Parse Expr
  | 0 => exhausted
  | fuel + 1 => do
    let x ← primary fuel
    suffixes x fuel

/-- Suffixes after a primary. -/
def suffixes (x : Expr) : Nat → Parse Expr
  | 0 => exhausted
  | fuel + 1 => do
    match ← kind with
    | .dot =>
      let _ ← bump
      let (n, _) ← ident
      suffixes (.dot x n) fuel
    | .lbrack =>
      let y ← sliceSuffix x fuel
      suffixes y fuel
    | .lparen =>
      let y ← callSuffix x fuel
      suffixes y fuel
    | _ => pure x

/-- `[index]` or `[lo:hi:step]` after `x`. -/
def sliceSuffix (x : Expr) : Nat → Parse Expr
  | 0 => exhausted
  | fuel + 1 => do
    let _ ← bump
    let mut lo : Option Expr := none
    if (← kind) != .colon then
      let y ← expr false fuel
      if (← kind) == .rbrack then
        let _ ← bump
        return .index x y
      lo := some y
    let mut hi : Option Expr := none
    let mut step : Option Expr := none
    if (← kind) == .colon then
      let _ ← bump
      let k ← kind
      if k != .colon && k != .rbrack then hi := some (← test fuel)
    if (← kind) == .colon then
      let _ ← bump
      if (← kind) != .rbrack then step := some (← test fuel)
    let _ ← expect .rbrack
    pure (.slice x lo hi step)

/-- `(arguments)` after `fn`. -/
def callSuffix (fn : Expr) : Nat → Parse Expr
  | 0 => exhausted
  | fuel + 1 => do
    let _ ← expect .lparen
    if (← kind) == .rparen then
      let _ ← bump
      pure (.call fn [])
    else
      let args ← arguments [] fuel
      let _ ← expect .rparen
      pure (.call fn args)

/-- Arguments up to `)`. -/
def arguments (acc : List Arg) : Nat → Parse (List Arg)
  | 0 => exhausted
  | fuel + 1 => do
    let k ← kind
    if k == .rparen || k == .eof then pure acc.reverse
    else
      if !acc.isEmpty then let _ ← expect .comma
      let k ← kind
      if k == .rparen then pure acc.reverse
      else if k == .star || k == .starstar then
        let pos ← bump
        let x ← test fuel
        let a := if k == .star then Arg.star x pos else Arg.starStar x pos
        arguments (a :: acc) fuel
      else
        let x ← test fuel
        if (← kind) == .eq then
          match x with
          | .name n pos =>
            let _ ← bump
            let y ← test fuel
            arguments (Arg.keyword n y pos :: acc) fuel
          | _ => fail (← current).stop "keyword argument must have form name=expr"
        else arguments (Arg.positional x :: acc) fuel

/-- A primary expression: a name, a literal, a display, a parenthesized expression, or a
unary operator applied to a primary with suffixes. -/
def primary : Nat → Parse Expr
  | 0 => exhausted
  | fuel + 1 => do
    let t ← current
    match t.kind with
    | .ident =>
      let _ ← bump
      pure (.name t.text t.pos)
    | .int | .float | .string | .bytes =>
      let _ ← bump
      pure (.literal t.value t.pos)
    | .lbrack => listDisplay fuel
    | .lbrace => dictDisplay fuel
    | .lparen =>
      let _ ← bump
      if (← kind) == .rparen then
        let _ ← bump
        pure (.tuple [] t.pos)
      else
        let e ← expr true fuel
        let _ ← expect .rparen
        pure (.paren e t.pos)
    | .minus | .plus | .tilde =>
      let _ ← bump
      let x ← primaryWithSuffix fuel
      let op := if t.kind == .minus then UnaryOp.neg else if t.kind == .plus then .plus else .invert
      pure (.unary op x t.pos)
    | _ => fail t.pos ("got " ++ t.describe ++ ", want primary expression")

/-- `[…]`: a list or a list comprehension. -/
def listDisplay : Nat → Parse Expr
  | 0 => exhausted
  | fuel + 1 => do
    let pos ← bump
    if (← kind) == .rbrack then
      let _ ← bump
      pure (.list [] pos)
    else
      let x ← test fuel
      if (← kind) == .forKw then
        let clauses ← comprehension .rbrack [] fuel
        pure (.listComp x clauses pos)
      else
        let items ← if (← kind) == .comma then exprList [x] true fuel else pure [x]
        let _ ← expect .rbrack
        pure (.list items pos)

/-- `{…}`: a dict or a dict comprehension. -/
def dictDisplay : Nat → Parse Expr
  | 0 => exhausted
  | fuel + 1 => do
    let pos ← bump
    if (← kind) == .rbrace then
      let _ ← bump
      pure (.dict [] pos)
    else
      let (k, v) ← dictEntry fuel
      if (← kind) == .forKw then
        let clauses ← comprehension .rbrace [] fuel
        pure (.dictComp k v clauses pos)
      else
        let entries ← dictEntries [(k, v)] fuel
        let _ ← expect .rbrace
        pure (.dict entries pos)

/-- Further `key: value` entries after a comma. -/
def dictEntries (acc : List (Expr × Expr)) : Nat → Parse (List (Expr × Expr))
  | 0 => exhausted
  | fuel + 1 => do
    if (← kind) != .comma then pure acc.reverse
    else
      let _ ← bump
      if (← kind) == .rbrace then pure acc.reverse
      else
        let e ← dictEntry fuel
        dictEntries (e :: acc) fuel

/-- `key: value`. -/
def dictEntry : Nat → Parse (Expr × Expr)
  | 0 => exhausted
  | fuel + 1 => do
    let k ← test fuel
    let _ ← expect .colon
    let v ← test fuel
    pure (k, v)

/-- The `for` and `if` clauses of a comprehension, up to and including its closing bracket. -/
def comprehension (close : Kind) (acc : List Clause) : Nat → Parse (List Clause)
  | 0 => exhausted
  | fuel + 1 => do
    let t ← current
    if t.kind == close then
      let _ ← bump
      pure acc.reverse
    else if t.kind == .forKw then
      let _ ← bump
      let vars ← loopVariables fuel
      let _ ← expect .inKw
      let source ← testLevel 0 fuel
      comprehension close (Clause.forIn vars source :: acc) fuel
    else if t.kind == .ifKw then
      let _ ← bump
      let c ← testNoCond fuel
      comprehension close (Clause.ifCond c :: acc) fuel
    else
      fail t.stop ("got " ++ t.describe ++ ", want '" ++ close.symbol ++ "', for, or if")

/-- The variables of a `for` clause. -/
def loopVariables : Nat → Parse Expr
  | 0 => exhausted
  | fuel + 1 => do
    let v ← primaryWithSuffix fuel
    if (← kind) != .comma then pure v
    else
      let items ← moreVariables [v] fuel
      pure (.tuple items v.start)

/-- Further loop variables after a comma. -/
def moreVariables (acc : List Expr) : Nat → Parse (List Expr)
  | 0 => exhausted
  | fuel + 1 => do
    if (← kind) != .comma then pure acc.reverse
    else
      let _ ← bump
      if endsList (← kind) then pure acc.reverse
      else
        let v ← primaryWithSuffix fuel
        moreVariables (v :: acc) fuel

end

/-- The text of a string literal token. -/
def literalText (t : Token) : String :=
  match t.value with
  | .string v => v
  | _ => t.text

/-- The position just after the opening quote of a string literal. -/
def afterQuote (t : Token) : Position :=
  { t.pos with column := t.pos.column + 1 }

/-- One name of a `load` statement: `"name"` or `local="name"`. -/
def loadName : Parse LoadName := do
  let t ← current
  match t.kind with
  | .string =>
    let _ ← bump
    pure ⟨literalText t, afterQuote t, literalText t, afterQuote t⟩
  | .ident =>
    let _ ← bump
    let e ← current
    if e.kind != .eq then
      fail e.stop ("load operand must be \"" ++ t.text ++ "\" or " ++ t.text ++
        "=\"originalname\" (want '=' after " ++ t.text ++ ")")
    let _ ← bump
    let q ← current
    if q.kind != .string then
      fail q.stop ("original name of loaded symbol must be quoted: " ++ t.text ++
        "=\"originalname\"")
    let _ ← bump
    pure ⟨t.text, t.pos, literalText q, afterQuote q⟩
  | .rparen => fail t.stop "trailing comma in load statement"
  | _ => fail t.stop ("load operand must be \"name\" or localname=\"name\" (got " ++
      t.describe ++ ")")

/-- The names of a `load` statement after its module, up to `)`. -/
def loadNames : Nat → List LoadName → Parse (List LoadName)
  | 0, acc => pure acc
  | fuel + 1, acc => do
    let k ← kind
    if k == .rparen || k == .eof then pure acc
    else
      let _ ← expect .comma
      if (← kind) == .rparen then pure acc
      else loadNames fuel (acc ++ [← loadName])

/-- `load("module", names…)`: at least one name must be loaded. -/
def loadStatement (fuel : Nat) : Parse Statement := do
  let pos ← bump
  let lparen ← expect .lparen
  let t ← current
  if t.kind != .string then fail t.stop "first operand of load statement must be a string literal"
  let _ ← bump
  let names ← loadNames fuel []
  let _ ← expect .rparen
  if names.isEmpty then fail lparen "load statement must import at least 1 symbol"
  pure (.load (literalText t) names pos)

/-- A small statement: an expression, an assignment, or a keyword statement. -/
def smallStatement (fuel : Nat) : Parse Statement := do
  let t ← current
  match t.kind with
  | .passKw => let _ ← bump; pure .pass
  | .breakKw => let _ ← bump; pure (.breakLoop t.pos)
  | .continueKw => let _ ← bump; pure (.continueLoop t.pos)
  | .returnKw =>
    let _ ← bump
    let k ← kind
    if k == .eof || k == .newline || k == .semi then pure (.returns none t.pos)
    else pure (.returns (some (← expr false fuel)) t.pos)
  | .loadKw => loadStatement fuel
  | _ =>
    let x ← expr false fuel
    let k ← kind
    if k == .eq then
      let pos ← bump
      let y ← expr false fuel
      pure (.assign none x y pos)
    else
      match BinaryOp.ofAssign? k with
      | some op =>
        let pos ← bump
        let y ← expr false fuel
        pure (.assign (some op) x y pos)
      | none => pure (.expr x)

/-- Small statements separated by `;`, ending the line (or the text). -/
def simpleStatements : Nat → List Statement → Parse (List Statement)
  | 0, _ => exhausted
  | fuel + 1, acc => do
    let st ← smallStatement fuel
    let acc := acc ++ [st]
    if (← kind) != .semi then
      if (← kind) != .eof then let _ ← expect .newline
      pure acc
    else
      let _ ← bump
      let k ← kind
      if k == .newline || k == .eof then
        if k != .eof then let _ ← expect .newline
        pure acc
      else simpleStatements fuel acc

mutual

/-- One statement: a compound statement, or the small statements of one line. -/
def statement : Nat → Parse (List Statement)
  | 0 => exhausted
  | fuel + 1 => do
    let t ← current
    match t.kind with
    | .defKw =>
      let pos ← bump
      let (name, namePos) ← ident
      let _ ← expect .lparen
      let ps ← params [] fuel
      let _ ← expect .rparen
      let _ ← expect .colon
      let body ← suite fuel
      pure [.define name namePos ps body pos]
    | .ifKw => do pure [← conditional fuel]
    | .forKw =>
      let pos ← bump
      let vars ← loopVariables fuel
      let _ ← expect .inKw
      let source ← expr false fuel
      let _ ← expect .colon
      let body ← suite fuel
      pure [.forLoop vars source body pos]
    | .whileKw =>
      let pos ← bump
      let c ← test fuel
      let _ ← expect .colon
      let body ← suite fuel
      pure [.whileLoop c body pos]
    | _ => simpleStatements fuel []

/-- `if` (or `elif`) with its test and suite, then its `elif` and `else` parts. -/
def conditional : Nat → Parse Statement
  | 0 => exhausted
  | fuel + 1 => do
    let pos ← bump
    let c ← test fuel
    let _ ← expect .colon
    let yes ← suite fuel
    match ← kind with
    | .elifKw => do pure (.branch c yes [← conditional fuel] pos)
    | .elseKw =>
      let _ ← bump
      let _ ← expect .colon
      let no ← suite fuel
      pure (.branch c yes no pos)
    | _ => pure (.branch c yes [] pos)

/-- The body of a compound statement: the rest of its line, or an indented block. -/
def suite : Nat → Parse (List Statement)
  | 0 => exhausted
  | fuel + 1 => do
    if (← kind) == .newline then
      let _ ← bump
      let _ ← expect .indent
      let body ← block fuel []
      let _ ← expect .outdent
      pure body
    else simpleStatements fuel []

/-- The statements of an indented block, up to its outdent. -/
def block : Nat → List Statement → Parse (List Statement)
  | 0, _ => exhausted
  | fuel + 1, acc => do
    let k ← kind
    if k == .outdent || k == .eof then pure acc
    else
      let sts ← statement fuel
      block fuel (acc ++ sts)

end

/-- All statements of a program; `fuel` bounds their number. -/
def statements (fuel : Nat) : Nat → List Statement → Parse (List Statement)
  | 0, acc => pure acc
  | budget + 1, acc => do
    match ← kind with
    | .eof => pure acc
    | .newline => let _ ← bump; statements fuel budget acc
    | _ => statements fuel budget (acc ++ (← statement fuel))

end Parse

/-- Parse the tokens of a program into its statements. -/
def parseProgram (tokens : Array Token) (failure : Option Failure) : Except Failure (List Statement) :=
  let fuel := 32 * (tokens.size + 2)
  let run : Parse (List Statement) := do
    if tokens.isEmpty then
      match failure with
      | some f => throw f
      | none => pure []
    else Parse.statements fuel (tokens.size + 1) []
  (run.run ⟨tokens, failure⟩ |>.run {}).map Prod.fst

end DecimalMachine.Script
