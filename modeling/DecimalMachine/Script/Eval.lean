import DecimalMachine.Script.Builtins
import DecimalMachine.Script.Parser
import DecimalMachine.Script.Resolve

/-!
# Evaluation

A program runs its statements in order. Names are found where resolution bound them: a
variable of a call, a comprehension or the file is a cell of the store, which the functions
defined around it share; a global is assigned once, at top level; predeclared and built-in
names stand for their values. Reading a variable or global before it is assigned fails.

An expression is evaluated left to right, `and` and `or` stopping early. A call evaluates its
function, then its plain arguments in order, then the values after `*` and `**`. Calling a
function makes new cells for all of its variables, binds its parameters, and runs its body.
A `for` loop or comprehension guards the list or dict it iterates against change until it
ends, also when it ends by `break` or `return`.

No function may call itself, directly or through others: a call to a function whose code is
already being run is refused. The nesting of evaluation is therefore bounded by the nesting
of the text times the number of functions in it, and every evaluation function takes fuel
that the entry point makes larger than that bound; loops run over the elements they are
given and need no fuel of their own.

`evaluate` reads, resolves and runs a program and gives its globals, or why it failed,
together with the lines it printed. It is the expression language of the command line, which
hands it to the assembler as its evaluator (`Cli.expressionEvaluator`); nothing proved about
assembly depends on it.
-/

namespace DecimalMachine.Script

/-- What evaluation needs besides the machine: the bindings resolution found, and the values
of the predeclared names. -/
structure Context where
  resolution : Resolution
  predeclared : List (String × Value)

/-- The cells of the variables a piece of code sees, by slot. -/
abbrev Env := List (Nat × Ref)

/-- How a statement ended. -/
inductive Outcome where
  | normal
  | breakLoop
  | continueLoop
  | returned (v : Value)

/-- What a comprehension adds for each binding of its variables: an element to a list or an
entry to a dict. -/
inductive Yield where
  | element (body : Expr) (into : Ref)
  | entry (key value : Expr) (into : Ref)

/-- The value of a literal. -/
def Literal.value : Literal → Value
  | .none => .none
  | .int i => .int i
  | .float f => .float f
  | .string s => .ofString s
  | .bytes b => .bytes b

/-- The value of a built-in name. -/
def universal (name : String) : Value :=
  match name with
  | "None" => .none
  | "True" => .bool true
  | "False" => .bool false
  | _ => .builtin name none 0

/-- The value of the name `n` written at `pos`. -/
def lookupName (cx : Context) (env : Env) (n : String) (pos : Position) : Run Value := do
  match cx.resolution.bindings.get? pos.key with
  | some (.cell slot) =>
    let v ← match env.lookup slot with
      | some r => Run.readCell r
      | none => pure none
    match v with
    | some v => pure v
    | none => throw ("local variable " ++ n ++ " referenced before assignment")
  | some .global =>
    match (← get).globals.lookup n with
    | some v => pure v
    | none => throw ("global variable " ++ n ++ " referenced before assignment")
  | some .predeclared => pure ((cx.predeclared.lookup n).getD .none)
  | some .universal => pure (universal n)
  | none => throw ("undefined: " ++ n)

/-- Assign `v` to the name `n` written at `pos`. -/
def storeName (cx : Context) (env : Env) (n : String) (pos : Position) (v : Value) :
    Run Unit := do
  match cx.resolution.bindings.get? pos.key with
  | some (.cell slot) =>
    match env.lookup slot with
    | some r => Run.writeCell r v
    | none => pure ()
  | some .global =>
    modify fun m => { m with globals :=
      if (m.globals.lookup n).isSome then m.globals.map fun (k, w) => (k, if k == n then v else w)
      else m.globals ++ [(n, v)] }
  | _ => pure ()

/-- The elements of `v` for an assignment to `n` targets; there must be exactly `n`. -/
def unpack (n : Nat) (v : Value) : Run (List Value) := do
  match ← Run.items? v with
  | none => throw ("got " ++ v.typeName ++ " in sequence assignment")
  | some xs =>
    if xs.length > n then
      let len := ((← Run.store).length? v).getD (-1)
      throw ("too many values to unpack (got " ++ toString len ++ ", want " ++ toString n ++ ")")
    else if xs.length < n then
      throw ("too few values to unpack (got " ++ toString xs.length ++ ", want " ++
        toString n ++ ")")
    else pure xs

/-- `x[y] = v`: set a dict's key, or a list's element at an index counted from the end when
negative. -/
def setIndex (x y v : Value) : Run Unit := do
  match x with
  | .dict r => Run.dictInsert r y v
  | .list r =>
    let items ← Run.listItems r
    let n : Int := items.size
    let i ← Run.check (asSmallInt y)
    let j := if i < 0 then i + n else i
    if j < 0 || j ≥ n then throw (outOfRange i n "list")
    Run.checkListMutable r "assign to element of"
    Run.setListItems r (items.setIfInBounds j.toNat v)
  | _ => throw (x.typeName ++ " value does not support item assignment")

/-- The value of `x op= y`: a list extended in place by an iterable, a dict updated in place
by a dict, else `x op y`. -/
def inPlace (op : BinaryOp) (x y : Value) : Run Value := do
  match op, x, y with
  | .add, .list r, _ =>
    if y.isIterable then
      Run.checkListMutable r "apply += to"
      let more := (← Run.items? y).getD []
      Run.modifyList r (· ++ more.toArray)
      pure x
    else binaryOp .add x y
  | .bitOr, .dict r, .dict s =>
    Run.checkTableMutable r "apply |= to"
    for (k, v) in (← Run.table s).entries do Run.dictInsert r k v
    pure x
  | _, _, _ => binaryOp op x y

/-- An expression without the parentheses around it. -/
def Expr.unparen : Expr → Expr
  | .paren x _ => x.unparen
  | x => x

/-- The default values of a function's optional parameters. -/
def defaultsOf (params : List Param) : List Expr :=
  params.filterMap fun | .optional _ d _ => some d | _ => none

/-- The parts of a parameter list: the ordinary parameters with their names and where they
are written, whether they are optional, and their defaults (none for a required
keyword-only one); how many follow `*`; and `*args` and `**kwargs`. -/
structure Signature where
  ordinary : List (String × Position) := []
  /-- The default of each parameter from the first optional one on; none marks a required
  keyword-only parameter. -/
  defaults : List (Option Value) := []
  keywordOnly : Nat := 0
  varargs : Option (String × Position) := none
  kwargs : Option (String × Position) := none

/-- The signature of a function with the values of its defaults. -/
def signatureOf (params : List Param) (values : List Value) : Signature :=
  let step (acc : Signature × List Value × Bool) (p : Param) : Signature × List Value × Bool :=
    let (sig, vs, starred) := acc
    match p with
    | .plain n pos =>
      ({ sig with ordinary := sig.ordinary ++ [(n, pos)],
                  defaults := if starred then sig.defaults ++ [none] else sig.defaults,
                  keywordOnly := sig.keywordOnly + (if starred then 1 else 0) }, vs, starred)
    | .optional n _ _ =>
      let pos := match p with
        | .optional _ d _ => d.start
        | _ => default
      ({ sig with ordinary := sig.ordinary ++ [(n, pos)],
                  defaults := sig.defaults ++ [some (vs.headD .none)],
                  keywordOnly := sig.keywordOnly + (if starred then 1 else 0) }, vs.drop 1, starred)
    | .star name _ => ({ sig with varargs := name }, vs, true)
    | .starStar n namePos _ => ({ sig with kwargs := some (n, namePos) }, vs, true)
  (params.foldl step ({}, values, false)).1

/-- Where each parameter's name is written: its binding is recorded there. -/
def Param.namePos : Param → Option (String × Position)
  | .plain n pos => some (n, pos)
  | .optional n _ pos => some (n, pos)
  | .star name _ => name
  | .starStar n namePos _ => some (n, namePos)

/-- Bind the arguments of a call to the parameters of the function `fname`, in the cells of
its new variables: positional arguments fill the ordinary parameters in order, the rest go
to `*args`; keyword arguments fill parameters by name, the rest go to `**kwargs`; defaults
fill what is left, and a parameter still empty is missing. -/
def bindArguments (cx : Context) (env : Env) (fname : String) (params : List Param)
    (values : List Value) (args : List Value) (kwargs : Keywords) : Run Unit := do
  let sig := signatureOf params values
  let nparams := sig.ordinary.length
  let total := nparams + (if sig.varargs.isSome then 1 else 0) + (if sig.kwargs.isSome then 1 else 0)
  if total == 0 then
    if args.length + kwargs.length > 0 then
      throw ("function " ++ fname ++ " accepts no arguments (" ++
        toString (args.length + kwargs.length) ++ " given)")
    return
  let kwdict ← if sig.kwargs.isSome then some <$> Run.newDict else pure none
  let nonKeyword := nparams - sig.keywordOnly
  if args.length > nonKeyword && sig.varargs.isNone then
    throw ("function " ++ fname ++ " accepts " ++
      (if sig.defaults.length > sig.keywordOnly then "at most " else "") ++
      toString nonKeyword ++ " positional argument" ++ (if nonKeyword == 1 then "" else "s") ++
      " (" ++ toString args.length ++ " given)")
  let n := min args.length nonKeyword
  let mut slots : Array (Option Value) :=
    ((args.take n).map some ++ List.replicate (nparams - n) none).toArray
  for (k, v) in kwargs do
    match sig.ordinary.findIdx? (Text.utf8 ·.1 == k) with
    | some i =>
      if (slots[i]?.getD none).isSome then
        throw ("function " ++ fname ++ " got multiple values for parameter " ++ Text.quotedBytes k)
      slots := slots.setIfInBounds i (some v)
    | none =>
      match kwdict with
      | some (.dict r) =>
        let before := (← Run.table r).entries.size
        Run.dictInsert r (.str k) v
        if (← Run.table r).entries.size == before then
          throw ("function " ++ fname ++ " got multiple values for parameter " ++ Text.quotedBytes k)
      | _ =>
        throw ("function " ++ fname ++ " got an unexpected keyword argument " ++ Text.quotedBytes k)
  if n < nparams || sig.keywordOnly > 0 then
    let m := nparams - sig.defaults.length
    let mut missing : List String := []
    for ((name, _), i) in sig.ordinary.zipIdx do
      if i ≥ n && (slots[i]?.getD none).isNone then
        if i < m then missing := missing ++ [name]
        else
          match sig.defaults[i - m]? with
          | some (some d) => slots := slots.setIfInBounds i (some d)
          | _ => missing := missing ++ [name]
    if !missing.isEmpty then
      throw ("function " ++ fname ++ " missing " ++ toString missing.length ++ " argument" ++
        (if missing.length > 1 then "s" else "") ++ " (" ++ ", ".intercalate missing ++ ")")
  let named := params.filterMap fun p => match p with
    | .plain .. | .optional .. => p.namePos
    | _ => none
  for ((name, pos), v) in named.zip slots.toList do
    storeName cx env name pos (v.getD .none)
  if let some (name, pos) := sig.varargs then
    storeName cx env name pos (.tuple (args.drop n))
  if let some (name, pos) := sig.kwargs then
    storeName cx env name pos (kwdict.getD .none)

mutual

/-- Evaluate an expression. -/
def eval (cx : Context) : Nat → Env → Expr → Run Value
  | 0, _, _ => throw "expression nested too deeply"
  | fuel + 1, env, e =>
    match e with
    | .name n pos => lookupName cx env n pos
    | .literal l _ => pure l.value
    | .list items _ => do Run.newList (← evalAll cx fuel env items)
    | .tuple items _ => do pure (.tuple (← evalAll cx fuel env items))
    | .dict entries _ => do
      let d ← Run.newDict
      match d with
      | .dict r => evalEntries cx fuel env r entries
      | _ => pure ()
      pure d
    | .listComp body clauses _ => do
      let l ← Run.newList []
      match l with
      | .list r => comprehension cx fuel env clauses (.element body r)
      | _ => pure ()
      pure l
    | .dictComp k v clauses _ => do
      let d ← Run.newDict
      match d with
      | .dict r => comprehension cx fuel env clauses (.entry k v r)
      | _ => pure ()
      pure d
    | .cond c yes no => do
      if ← Run.truth (← eval cx fuel env c) then eval cx fuel env yes else eval cx fuel env no
    | .lambda params body pos => do
      let defaults ← evalAll cx fuel env (defaultsOf params)
      pure (.function "lambda" params (.expr body) pos defaults env (← Run.fresh))
    | .unary op x _ => do
      let v ← eval cx fuel env x
      Run.check (unaryOp op v (← Run.truth v))
    | .binary .and x y => do
      let a ← eval cx fuel env x
      if ← Run.truth a then eval cx fuel env y else pure a
    | .binary .or x y => do
      let a ← eval cx fuel env x
      if ← Run.truth a then pure a else eval cx fuel env y
    | .binary op x y => do
      let a ← eval cx fuel env x
      let b ← eval cx fuel env y
      match op.comparison? with
      | some c => pure (.bool (← Run.compare c a b))
      | none => binaryOp op a b
    | .dot x field => do attributeOf (← eval cx fuel env x) field
    | .index x i => do
      let a ← eval cx fuel env x
      let b ← eval cx fuel env i
      Run.check (indexValue (← Run.store) a b)
    | .slice x lo hi step => do
      let a ← eval cx fuel env x
      let l ← match lo with | some e => eval cx fuel env e | none => pure .none
      let h ← match hi with | some e => eval cx fuel env e | none => pure .none
      let st ← match step with | some e => eval cx fuel env e | none => pure .none
      sliceValue a l h st
    | .call fn args => do
      let f ← eval cx fuel env fn
      let (positional, named) ← evalArgs cx fuel env args
      let spread ← match args.findSome? (fun | .star x _ => some x | _ => none) with
        | some x => some <$> eval cx fuel env x
        | none => pure none
      let spreadNamed ← match args.findSome? (fun | .starStar x _ => some x | _ => none) with
        | some x => some <$> eval cx fuel env x
        | none => pure none
      let named ← match spreadNamed with
        | none => pure named
        | some (.dict r) => do
          let entries := (← Run.table r).entries.toList
          let extra ← entries.mapM fun (k, v) => match k with
            | .str n => pure (n, v)
            | k => throw ("keywords must be strings, not " ++ k.typeName)
          pure (named ++ extra)
        | some v => throw ("argument after ** must be a mapping, not " ++ v.typeName)
      let positional ← match spread with
        | none => pure positional
        | some v => do
          match ← Run.items? v with
          | some xs => pure (positional ++ xs)
          | none => throw ("argument after * must be iterable, not " ++ v.typeName)
      call cx fuel f positional named
    | .paren x _ => eval cx fuel env x

/-- Evaluate expressions left to right. -/
def evalAll (cx : Context) : Nat → Env → List Expr → Run (List Value)
  | 0, _, _ => throw "expression nested too deeply"
  | fuel + 1, env, xs => xs.mapM (eval cx fuel env)

/-- Add the entries of a dict display to the dict at `r`; a key may appear only once. -/
def evalEntries (cx : Context) : Nat → Env → Ref → List (Expr × Expr) → Run Unit
  | 0, _, _, _ => throw "expression nested too deeply"
  | fuel + 1, env, r, entries => do
    for (k, v) in entries do
      let kv ← eval cx fuel env k
      let vv ← eval cx fuel env v
      let before := (← Run.table r).entries.size
      Run.dictInsert r kv vv
      if (← Run.table r).entries.size == before then
        throw ("duplicate key: " ++ (← Run.repr kv))

/-- Evaluate the plain arguments of a call, in order: the positional values and the named
ones. -/
def evalArgs (cx : Context) : Nat → Env → List Arg →
    Run (List Value × Keywords)
  | 0, _, _ => throw "expression nested too deeply"
  | fuel + 1, env, args => do
    let mut positional : List Value := []
    let mut named : Keywords := []
    for a in args do
      match a with
      | .positional x => positional := positional ++ [← eval cx fuel env x]
      | .keyword n x _ => named := named ++ [(Text.utf8 n, ← eval cx fuel env x)]
      | _ => pure ()
    pure (positional, named)

/-- Run the clauses of a comprehension, adding what `y` gives for each binding. -/
def comprehension (cx : Context) : Nat → Env → List Clause → Yield → Run Unit
  | 0, _, _, _ => throw "expression nested too deeply"
  | fuel + 1, env, [], y =>
    match y with
    | .element body r => do
      let v ← eval cx fuel env body
      Run.appendItem r v
    | .entry k v r => do
      let kv ← eval cx fuel env k
      let vv ← eval cx fuel env v
      Run.dictInsert r kv vv
  | fuel + 1, env, .ifCond t :: rest, y => do
    if ← Run.truth (← eval cx fuel env t) then comprehension cx fuel env rest y
  | fuel + 1, env, .forIn vars source :: rest, y => do
    let src ← eval cx fuel env source
    Run.iterating src (src.typeName ++ " value is not iterable") fun xs => do
      for x in xs do
        assignTo cx fuel env vars x
        comprehension cx fuel env rest y

/-- Assign a value to a target: a name, an element, or a tuple or list of targets. -/
def assignTo (cx : Context) : Nat → Env → Expr → Value → Run Unit
  | 0, _, _, _ => throw "expression nested too deeply"
  | fuel + 1, env, target, v =>
    match target with
    | .name n pos => storeName cx env n pos v
    | .paren x _ => assignTo cx fuel env x v
    | .tuple items _ | .list items _ => do
      let xs ← unpack items.length v
      for (t, x) in items.zip xs do assignTo cx fuel env t x
    | .index x i => do
      let a ← eval cx fuel env x
      let b ← eval cx fuel env i
      setIndex a b v
    | .dot x f => do
      let a ← eval cx fuel env x
      throw ("can't assign to ." ++ f ++ " field of " ++ a.typeName)
    | _ => pure ()

/-- `lhs op= rhs`: the target's place is evaluated once, before the right-hand side. -/
def augmented (cx : Context) : Nat → Env → BinaryOp → Expr → Expr → Run Unit
  | 0, _, _, _, _ => throw "expression nested too deeply"
  | fuel + 1, env, op, lhs, rhs =>
    match lhs.unparen with
    | .name n pos => do
      let old ← lookupName cx env n pos
      let y ← eval cx fuel env rhs
      storeName cx env n pos (← inPlace op old y)
    | .index x i => do
      let a ← eval cx fuel env x
      let b ← eval cx fuel env i
      let old ← Run.check (indexValue (← Run.store) a b)
      let y ← eval cx fuel env rhs
      setIndex a b (← inPlace op old y)
    | .dot x f => do
      let a ← eval cx fuel env x
      let old ← attributeOf a f
      let y ← eval cx fuel env rhs
      let _ ← inPlace op old y
      throw ("can't assign to ." ++ f ++ " field of " ++ a.typeName)
    | _ => pure ()

/-- Call a value with arguments. -/
def call (cx : Context) : Nat → Value → List Value → Keywords → Run Value
  | 0, _, _, _ => throw "expression nested too deeply"
  | fuel + 1, f, args, kwargs =>
    match f with
    | .builtin name none _ => builtinCall (call cx fuel) name args kwargs
    | .builtin name (some recv) _ => methodCall name recv args kwargs
    | .function name params body pos defaults env _ => do
      let active := (← get).active
      if active.contains pos then throw ("function " ++ name ++ " called recursively")
      let slots := (cx.resolution.frames.get? pos.key).getD []
      let frame ← slots.mapM fun s => do pure (s, ← Run.alloc (.cell none))
      let env := frame ++ env
      bindArguments cx env name params defaults args kwargs
      modify fun m => { m with active := pos :: active }
      let result ← match body with
        | .expr x => eval cx fuel env x
        | .block sts => do
          match ← execBlock cx fuel env sts with
          | .returned v => pure v
          | _ => pure .none
      modify fun m => { m with active := active }
      pure result
    | v => throw ("invalid call of non-function (" ++ v.typeName ++ ")")

/-- Run a statement. -/
def exec (cx : Context) : Nat → Env → Statement → Run Outcome
  | 0, _, _ => throw "expression nested too deeply"
  | fuel + 1, env, st =>
    match st with
    | .expr x => do
      let _ ← eval cx fuel env x
      pure .normal
    | .assign none lhs rhs _ => do
      let v ← eval cx fuel env rhs
      assignTo cx fuel env lhs v
      pure .normal
    | .assign (some op) lhs rhs _ => do
      augmented cx fuel env op lhs rhs
      pure .normal
    | .define name namePos params body pos => do
      let defaults ← evalAll cx fuel env (defaultsOf params)
      let f := Value.function name params (.block body) pos defaults env (← Run.fresh)
      storeName cx env name namePos f
      pure .normal
    | .branch c yes no _ => do
      if ← Run.truth (← eval cx fuel env c) then execBlock cx fuel env yes
      else execBlock cx fuel env no
    | .forLoop vars source body _ => do
      let src ← eval cx fuel env source
      Run.iterating src (src.typeName ++ " value is not iterable") fun xs => do
        let mut outcome := Outcome.normal
        for x in xs do
          assignTo cx fuel env vars x
          match ← execBlock cx fuel env body with
          | .breakLoop => break
          | .returned v =>
            outcome := .returned v
            break
          | _ => pure ()
        pure outcome
    | .whileLoop .. => pure .normal
    | .returns value _ => do
      match value with
      | some x => pure (.returned (← eval cx fuel env x))
      | none => pure (.returned .none)
    | .breakLoop _ => pure .breakLoop
    | .continueLoop _ => pure .continueLoop
    | .pass => pure .normal
    | .load .. => throw "load not implemented by this application"

/-- Run statements in order, up to one that ends otherwise than normally. -/
def execBlock (cx : Context) : Nat → Env → List Statement → Run Outcome
  | 0, _, _ => throw "expression nested too deeply"
  | fuel + 1, env, sts => do
    for st in sts do
      match ← exec cx fuel env st with
      | .normal => pure ()
      | o => return o
    pure .normal

end

/-- Read, resolve and run a program under the name `file` with the given predeclared
values. The result is the program's globals, or why it failed; the lines it printed come
with it either way. -/
def evaluate (file source : String) (predeclared : List (String × Value)) :
    Except Failure (List (String × Value)) × Array String :=
  let (tokens, lexFailure) := tokenize file source
  match parseProgram tokens lexFailure with
  | .error f => (.error f, #[])
  | .ok program =>
    let depth := source.length + 2
    match resolveProgram (predeclared.map (·.1)) program depth with
    | .error f => (.error f, #[])
    | .ok resolution =>
      let fuel := depth * depth + 16
      let cx : Context := { resolution, predeclared }
      let run : Run Unit := do
        let env ← resolution.fileSlots.mapM fun s => do pure (s, ← Run.alloc (.cell none))
        let _ ← execBlock cx fuel env program
      let (result, m) := (run.run).run {}
      match result with
      | .ok () => (.ok m.globals, m.printed)
      | .error msg => (.error (.failed msg), m.printed)

end DecimalMachine.Script
