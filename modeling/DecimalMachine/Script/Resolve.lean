import DecimalMachine.Script.Syntax
import DecimalMachine.Text.Search
import DecimalMachine.Text.Quoted
import Std.Data.HashMap

/-!
# Name resolution

Before a program runs, every name it reads must be bound somewhere: by a parameter, an
assignment or a loop variable of an enclosing function, by a comprehension variable, by an
assignment at top level (a global), by `load`, as a predeclared name, or as one of the
built-in names (`builtinNames`).

Resolution walks the program once, in text order, recording the blocks (the file, each
function body, each comprehension), the names each binds, and the names read. Misplaced
statements, parameters and arguments are reported during the walk. Reads are settled at the
end: those bound within their own function first, when the function is left; the rest when
the whole file has been walked, inner blocks before outer ones, each block's reads in text
order. A name looked up through an inner block is remembered there, so later suggestions may
offer it.

The result gives each name occurrence its `Binding`, and each function the variables that a
call of it creates (its parameters, the names it assigns, and the variables of the
comprehensions in it). Every variable has a slot number of its own in the whole program, so
a closure finds the variables of the functions around it by number.

The first diagnostic is the one reported.
-/

namespace DecimalMachine.Script

/-- The names every program may read without binding them. -/
def builtinNames : List String :=
  ["None", "True", "False", "abs", "all", "any", "bool", "bytes", "chr", "dict", "dir",
   "enumerate", "fail", "float", "getattr", "hasattr", "hash", "int", "len", "list", "max",
   "min", "ord", "print", "range", "repr", "reversed", "set", "sorted", "str", "tuple",
   "type", "zip"]

/-- Where the value of a name is kept. -/
inductive Binding where
  /-- A variable of a function call, of a comprehension or of the file, kept in a cell;
  `slot` numbers it in the whole program. -/
  | cell (slot : Nat)
  /-- A name assigned at top level. -/
  | global
  /-- A name bound before the program starts. -/
  | predeclared
  /-- `None`, `True`, `False` or a built-in function. -/
  | universal
  deriving DecidableEq, Repr, Inhabited

/-- A position as a key: its line and column. -/
def Position.key (p : Position) : Nat × Nat :=
  (p.line, p.column)

/-- What resolution found: the binding of every name occurrence, by its position, and the
variables of each function's calls, by the position of its `lambda` or `def`. -/
structure Resolution where
  bindings : Std.HashMap (Nat × Nat) Binding := {}
  frames : Std.HashMap (Nat × Nat) (List Nat) := {}
  /-- The variables of the file: comprehension variables at top level and loaded names. -/
  fileSlots : List Nat := []

/-- A name read in a program: the name, where it is read, and the block it is read in. -/
structure NameUse where
  name : String
  pos : Position
  block : Nat

/-- A block of a program: the file (block 0), a function body, or a comprehension. -/
structure Block where
  parent : Option Nat := none
  isFunction : Bool := false
  /-- The names bound in the block, then also the names looked up through it, with what
  they were found to be (nothing when undefined). -/
  names : List (String × Option Binding) := []
  /-- Reads not yet settled; only the file and function bodies keep them. -/
  uses : Array NameUse := #[]
  /-- The blocks opened directly inside this one, in text order. -/
  children : Array Nat := #[]
  /-- For the file and function bodies: the variables bound in them and in their
  comprehensions. -/
  slots : List Nat := []
  deriving Inhabited

/-- The state of resolution. -/
structure Resolver where
  /-- The names bound before the program starts. -/
  predeclared : List String
  blocks : Array Block := #[{}]
  /-- The block being walked. -/
  current : Nat := 0
  /-- The function body or file that keeps the reads of the current block. -/
  container : Nat := 0
  /-- Top-level names, in the order of their first binding, with where that was. -/
  globals : List (String × Position) := []
  /-- Names bound by `load`, with where they were first bound. -/
  loaded : List (String × Position) := []
  errors : Array (Position × String) := #[]
  /-- Whether `set` has been looked up already. -/
  setSeen : Bool := false
  /-- How many loops and conditionals enclose the statement being walked; loops count only
  within the function being walked, so `break` in a function nested in a loop is refused. -/
  loops : Nat := 0
  conditionals : Nat := 0
  nextSlot : Nat := 0
  bindings : Std.HashMap (Nat × Nat) Binding := {}
  frames : Std.HashMap (Nat × Nat) (List Nat) := {}

/-- A resolution step. -/
abbrev Resolve := StateM Resolver

namespace Resolve

/-- Report a diagnostic. -/
def error (pos : Position) (msg : String) : Resolve Unit :=
  modify fun r => { r with errors := r.errors.push (pos, msg) }

/-- A block by number. -/
def block (i : Nat) : Resolve Block :=
  return (← get).blocks[i]?.getD {}

/-- Change a block. -/
def modifyBlock (i : Nat) (f : Block → Block) : Resolve Unit :=
  modify fun r => { r with blocks := r.blocks.modify i f }

/-- Record the binding of the name written at `pos`. -/
def record (pos : Position) (b : Binding) : Resolve Unit :=
  modify fun r => { r with bindings := r.bindings.insert pos.key b }

/-- Whether the statement being walked is inside a function body. -/
def inFunction : Resolve Bool :=
  return (← get).container != 0

/-- Record a read of `name` in the current block. -/
def use (name : String) (pos : Position) : Resolve Unit := do
  let r ← get
  modifyBlock r.container fun b => { b with uses := b.uses.push ⟨name, pos, r.current⟩ }

/-- Bind `name` as a variable of the current block; true when it was bound there already.
The binding occurrence is read like any other, so that it finds its variable. -/
def bindLocal (name : String) (pos : Position) : Resolve Bool := do
  let r ← get
  let b ← block r.current
  let bound := (b.names.lookup name).isSome
  if !bound then
    let slot := r.nextSlot
    set { r with nextSlot := slot + 1 }
    modifyBlock r.current fun b => { b with names := b.names ++ [(name, some (.cell slot))] }
    modifyBlock r.container fun b => { b with slots := b.slots ++ [slot] }
  use name pos
  pure bound

/-- Bind `name` in the current block. At top level a name is a global, and a second binding
of a global or a loaded name is an error. -/
def bind (name : String) (pos : Position) : Resolve Bool := do
  let r ← get
  if r.current == 0 then
    match r.loaded.lookup name with
    | some first =>
      error pos ("cannot reassign local " ++ name ++ " declared at " ++ first.render)
      use name pos
      pure true
    | none =>
      match r.globals.lookup name with
      | some first =>
        error pos ("cannot reassign global " ++ name ++ " declared at " ++ first.render)
        record pos .global
        pure true
      | none =>
        set { r with globals := r.globals ++ [(name, pos)] }
        record pos .global
        pure false
  else bindLocal name pos

/-- Run `body` inside a new block opened in the current one. -/
def within {α : Type} (isFunction : Bool) (body : Resolve α) : Resolve α := do
  let r ← get
  let i := r.blocks.size
  set { r with
    blocks := (r.blocks.push { parent := some r.current, isFunction }).modify r.current
      fun b => { b with children := b.children.push i }
    current := i
    container := if isFunction then i else r.container }
  let a ← body
  modify fun s => { s with current := r.current, container := r.container }
  pure a

/-- The variable `name` is bound to in `b` or a block around it, up to the nearest function
body. -/
def localBinding (name : String) : Nat → Nat → Resolve (Option Binding)
  | 0, _ => pure none
  | fuel + 1, b => do
    let blk ← block b
    match blk.names.lookup name with
    | some found => pure found
    | none =>
      if blk.isFunction then pure none
      else match blk.parent with
        | some p => localBinding name fuel p
        | none => pure none

/-- Settle the reads of block `b` that are bound within its own function body. -/
def settleLocal (b : Nat) : Resolve Unit := do
  let blk ← block b
  let fuel := (← get).blocks.size
  let kept ← blk.uses.filterM fun u => do
    match ← localBinding u.name fuel u.block with
    | some (.cell slot) => record u.pos (.cell slot); pure false
    | _ => pure true
  modifyBlock b fun blk => { blk with uses := kept }

/-- The names a read of a missing name may have meant: the names of its block and the
blocks around it, and the globals, in order. -/
def candidates (b : Nat) : Nat → Resolve (List String)
  | 0 => return (← get).globals.map (·.1)
  | fuel + 1 => do
    let blk ← block b
    let rest ← match blk.parent with
      | some p => candidates p fuel
      | none => return (← get).globals.map (·.1)
    pure (blk.names.map (·.1) ++ rest)

/-- Settle a read at top level: a loaded name, a global, a predeclared name, or a built-in
name. -/
def settleTopLevel (u : NameUse) : Resolve (Option Binding) := do
  let r ← get
  match ((← block 0).names.lookup u.name).join with
  | some b => pure (some b)
  | none =>
    if (r.globals.lookup u.name).isSome then pure (some .global)
    else if r.predeclared.contains u.name then pure (some .predeclared)
    else if builtinNames.contains u.name then
      if u.name == "set" && !r.setSeen then
        error u.pos "this Starlark dialect does not support sets"
        modify fun s => { s with setSeen := true }
      pure (some .universal)
    else
      let names ← candidates u.block r.blocks.size
      let hint := match Text.nearest u.name (names.mergeSort fun a b => decide (a ≤ b)) with
        | some n => " (did you mean " ++ n ++ "?)"
        | none => ""
      error u.pos ("undefined: " ++ u.name ++ hint)
      pure none

/-- Settle a read through block `b` and the blocks around it, remembering what was found in
each inner block it passed. -/
def settleLexical (u : NameUse) : Nat → Nat → Resolve (Option Binding)
  | 0, _ => settleTopLevel u
  | fuel + 1, b =>
    if b == 0 then settleTopLevel u
    else do
      let blk ← block b
      match blk.names.lookup u.name with
      | some found => pure found
      | none =>
        let found ← settleLexical u fuel (blk.parent.getD 0)
        modifyBlock b fun blk => { blk with names := blk.names ++ [(u.name, found)] }
        pure found

/-- Settle the remaining reads of block `b`: those of the blocks inside it first. -/
def settleRest (b : Nat) : Nat → Resolve Unit
  | 0 => pure ()
  | fuel + 1 => do
    let blk ← block b
    for c in blk.children do settleRest c fuel
    let blk ← block b
    let depth := (← get).blocks.size
    for u in blk.uses do
      match ← settleLexical u depth u.block with
      | some found => record u.pos found
      | none => pure ()

/-- How an expression that cannot be assigned to is named in the diagnostic. -/
def Expr.kindName : Expr → String
  | .name .. => "ident"
  | .literal .. => "literal"
  | .list .. => "listexpr"
  | .tuple .. => "tupleexpr"
  | .dict .. => "dictexpr"
  | .listComp .. | .dictComp .. => "comprehension"
  | .cond .. => "condexpr"
  | .lambda .. => "lambdaexpr"
  | .unary .. => "unaryexpr"
  | .binary .. => "binaryexpr"
  | .dot .. => "dotexpr"
  | .index .. => "indexexpr"
  | .slice .. => "sliceexpr"
  | .call .. => "callexpr"
  | .paren .. => "parenexpr"

/-- What the arguments of a call have shown so far. -/
structure ArgsSeen where
  varargs : Bool := false
  kwargs : Bool := false
  names : List String := []
  positional : Nat := 0
  named : Nat := 0

/-- Check and bind the parameters of a function in its block: required parameters may not
follow optional ones, nor anything follow `**`; `*` and `**` are bound last. -/
def bindParameters (params : List Param) : Resolve Unit := do
  let (star, starStar, kwonly) ← go params false none none 0
  match star with
  | some (some (n, namePos), _) =>
    if ← bind n namePos then error namePos ("duplicate parameter: " ++ n)
  | some (none, pos) =>
    if kwonly == 0 then error pos "bare * must be followed by keyword-only parameters"
  | none => pure ()
  match starStar with
  | some (n, namePos) =>
    if ← bind n namePos then error namePos ("duplicate parameter: " ++ n)
  | none => pure ()
where
  /-- Walk the parameters, returning the `*` parameter, the `**` parameter and the number of
  keyword-only parameters. -/
  go : List Param → Bool → Option (Option (String × Position) × Position) →
      Option (String × Position) → Nat →
      Resolve (Option (Option (String × Position) × Position) × Option (String × Position) × Nat)
    | [], _, star, starStar, kwonly => pure (star, starStar, kwonly)
    | p :: rest, seenOptional, star, starStar, kwonly => do
      match p with
      | .plain n pos =>
        let mut kwonly := kwonly
        match starStar with
        | some (s, _) => error pos ("required parameter may not follow **" ++ s)
        | none =>
          if star.isSome then kwonly := kwonly + 1
          else if seenOptional then error pos "required parameter may not follow optional"
        if ← bind n pos then error pos ("duplicate parameter: " ++ n)
        go rest seenOptional star starStar kwonly
      | .optional n _ pos =>
        let mut kwonly := kwonly
        match starStar with
        | some (s, _) => error pos ("optional parameter may not follow **" ++ s)
        | none => if star.isSome then kwonly := kwonly + 1
        if ← bind n pos then error pos ("duplicate parameter: " ++ n)
        go rest true star starStar kwonly
      | .star name pos =>
        match starStar with
        | some (s, _) =>
          error pos ("* parameter may not follow **" ++ s)
          go rest seenOptional star starStar kwonly
        | none =>
          if star.isSome then
            error pos "multiple * parameters not allowed"
            go rest seenOptional star starStar kwonly
          else go rest seenOptional (some (name, pos)) starStar kwonly
      | .starStar n namePos pos =>
        if starStar.isSome then error pos "multiple ** parameters not allowed"
        go rest seenOptional star (some (n, namePos)) kwonly

/-- Walk the body of a function written at `pos`: in a new block where its parameters are
bound. The reads bound within it are settled when it ends, and the variables of its calls
are recorded. -/
def functionBlock (pos : Position) (params : List Param) (walk : Resolve Unit) :
    Resolve Unit :=
  within true do
    bindParameters params
    walk
    let here := (← get).current
    settleLocal here
    let b ← block here
    modify fun r => { r with frames := r.frames.insert pos.key b.slots }

/-- The default values of a function's optional parameters. -/
def defaults (params : List Param) : List Expr :=
  params.filterMap fun | .optional _ d _ => some d | _ => none

mutual

/-- Walk an expression. -/
def expr : Nat → Expr → Resolve Unit
  | 0, _ => pure ()
  | fuel + 1, e =>
    match e with
    | .name n pos => use n pos
    | .literal .. => pure ()
    | .list items _ | .tuple items _ => exprs fuel items
    | .dict entries _ => entryList fuel entries
    | .listComp body clauses _ => comprehension fuel clauses [body]
    | .dictComp k v clauses _ => comprehension fuel clauses [k, v]
    | .cond c yes no => exprs fuel [c, yes, no]
    | .lambda params body pos => do
      exprs fuel (defaults params)
      functionBlock pos params (expr fuel body)
    | .unary _ x _ | .dot x _ | .paren x _ => expr fuel x
    | .binary _ x y | .index x y => exprs fuel [x, y]
    | .slice x lo hi step => exprs fuel (x :: [lo, hi, step].filterMap id)
    | .call fn args => do
      expr fuel fn
      let seen ← arguments fuel args {}
      if seen.positional ≥ 256 then
        error fn.start (toString seen.positional ++ " positional arguments in call, limit is 255")
      if seen.named ≥ 256 then
        error fn.start (toString seen.named ++ " keyword arguments in call, limit is 255")

/-- Walk expressions in order. -/
def exprs : Nat → List Expr → Resolve Unit
  | 0, _ => pure ()
  | _, [] => pure ()
  | fuel + 1, x :: xs => do
    expr fuel x
    exprs fuel xs

/-- Walk the entries of a dict display. -/
def entryList : Nat → List (Expr × Expr) → Resolve Unit
  | 0, _ => pure ()
  | _, [] => pure ()
  | fuel + 1, (k, v) :: rest => do
    exprs fuel [k, v]
    entryList fuel rest

/-- Walk a comprehension: the source of its first clause outside, the rest inside a block. -/
def comprehension (fuel : Nat) (clauses : List Clause) (body : List Expr) : Resolve Unit := do
  match clauses with
  | .forIn vars source :: rest =>
    expr fuel source
    within false do
      assign fuel vars false
      laterClauses fuel rest
      exprs fuel body
  | _ =>
    within false do
      laterClauses fuel clauses
      exprs fuel body

/-- Walk the clauses after the first of a comprehension. -/
def laterClauses : Nat → List Clause → Resolve Unit
  | 0, _ => pure ()
  | _, [] => pure ()
  | fuel + 1, c :: rest => do
    match c with
    | .ifCond t => expr fuel t
    | .forIn vars source =>
      assign fuel vars false
      expr fuel source
    laterClauses fuel rest

/-- Walk the target of an assignment or of a loop. -/
def assign : Nat → Expr → Bool → Resolve Unit
  | 0, _, _ => pure ()
  | fuel + 1, lhs, augmented =>
    match lhs with
    | .name n pos => do let _ ← bind n pos
    | .index x i => exprs fuel [x, i]
    | .dot x _ => expr fuel x
    | .tuple items pos => do
      if augmented then error pos "can't use tuple expression in augmented assignment"
      targets fuel items augmented
    | .list items pos => do
      if augmented then error pos "can't use list expression in augmented assignment"
      targets fuel items augmented
    | .paren x _ => assign fuel x augmented
    | other => error other.start ("can't assign to " ++ Expr.kindName other)

/-- Walk several targets. -/
def targets : Nat → List Expr → Bool → Resolve Unit
  | 0, _, _ => pure ()
  | _, [], _ => pure ()
  | fuel + 1, x :: xs, augmented => do
    assign fuel x augmented
    targets fuel xs augmented

/-- Walk the arguments of a call, checking their order, and count them. -/
def arguments : Nat → List Arg → ArgsSeen → Resolve ArgsSeen
  | 0, _, seen => pure seen
  | _, [], seen => pure seen
  | fuel + 1, a :: rest, seen => do
    match a with
    | .starStar x pos =>
      if seen.kwargs then error pos "multiple **kwargs not allowed"
      expr fuel x
      arguments fuel rest { seen with kwargs := true }
    | .star x pos =>
      if seen.kwargs then error pos "*args may not follow **kwargs"
      else if seen.varargs then error pos "multiple *args not allowed"
      expr fuel x
      arguments fuel rest { seen with varargs := true }
    | .keyword n x pos =>
      if seen.kwargs then error pos "keyword argument may not follow **kwargs"
      else if seen.varargs then error pos "keyword argument may not follow *args"
      if seen.names.contains n then
        error pos ("keyword argument " ++ Text.quoted n ++ " is repeated")
      expr fuel x
      arguments fuel rest { seen with
        names := if seen.names.contains n then seen.names else n :: seen.names
        named := seen.named + 1 }
    | .positional x =>
      if seen.varargs then error x.start "positional argument may not follow *args"
      else if seen.kwargs then error x.start "positional argument may not follow **kwargs"
      else if !seen.names.isEmpty then error x.start "positional argument may not follow named"
      expr fuel x
      arguments fuel rest { seen with positional := seen.positional + 1 }

end

mutual

/-- Walk a statement. -/
def statement : Nat → Statement → Resolve Unit
  | 0, _ => pure ()
  | fuel + 1, st =>
    match st with
    | .expr x => expr fuel x
    | .assign op lhs rhs _ => do
      expr fuel rhs
      assign fuel lhs op.isSome
    | .define name namePos params body pos => do
      let _ ← bind name namePos
      exprs fuel (defaults params)
      let loops := (← get).loops
      modify fun r => { r with loops := 0 }
      functionBlock pos params (statements fuel body)
      modify fun r => { r with loops := loops }
    | .branch c yes no pos => do
      if !(← inFunction) then error pos "if statement not within a function"
      expr fuel c
      modify fun r => { r with conditionals := r.conditionals + 1 }
      statements fuel yes
      statements fuel no
      modify fun r => { r with conditionals := r.conditionals - 1 }
    | .forLoop vars source body pos => do
      if !(← inFunction) then error pos "for loop not within a function"
      expr fuel source
      assign fuel vars false
      modify fun r => { r with loops := r.loops + 1 }
      statements fuel body
      modify fun r => { r with loops := r.loops - 1 }
    | .whileLoop c body pos => do
      error pos "this Starlark dialect does not support while loops"
      if !(← inFunction) then error pos "while loop not within a function"
      expr fuel c
      modify fun r => { r with loops := r.loops + 1 }
      statements fuel body
      modify fun r => { r with loops := r.loops - 1 }
    | .returns value pos => do
      if !(← inFunction) then error pos "return statement not within a function"
      match value with
      | some x => expr fuel x
      | none => pure ()
    | .breakLoop pos => do
      if (← get).loops == 0 then error pos "break not in a loop"
    | .continueLoop pos => do
      if (← get).loops == 0 then error pos "continue not in a loop"
    | .pass => pure ()
    | .load _ names pos => do
      let r ← get
      if ← inFunction then error pos "load statement within a function"
      else if r.loops > 0 then error pos "load statement within a loop"
      else if r.conditionals > 0 then error pos "load statement within a conditional"
      for n in names do
        if n.source.isEmpty then error n.sourcePos "load: empty identifier"
        else
          if n.source.startsWith "_" then
            error n.sourcePos ("load: names with leading underscores are not exported: " ++
              n.source)
          if ← bindLocal n.name n.pos then
            error n.pos ("cannot reassign top-level " ++ n.name)
          else if (← get).current == 0 then
            modify fun r => { r with loaded := r.loaded ++ [(n.name, n.pos)] }

/-- Walk statements in order. -/
def statements : Nat → List Statement → Resolve Unit
  | 0, _ => pure ()
  | _, [] => pure ()
  | fuel + 1, s :: rest => do
    statement fuel s
    statements fuel rest

end

end Resolve

/-- Resolve a program whose predeclared names are `predeclared`: its first diagnostic, or
the bindings it needs to run. `fuel` bounds the nesting of its statements and expressions. -/
def resolveProgram (predeclared : List String) (program : List Statement) (fuel : Nat) :
    Except Failure Resolution :=
  let walk : Resolve Unit := do
    Resolve.statements fuel program
    Resolve.settleLocal 0
    Resolve.settleRest 0 ((← get).blocks.size + 1)
  let r := (walk.run { predeclared }).2
  match r.errors[0]? with
  | some (pos, msg) => .error (.unresolved pos msg)
  | none =>
    .ok { bindings := r.bindings, frames := r.frames,
          fileSlots := (r.blocks[0]?.map (·.slots)).getD [] }

end DecimalMachine.Script
