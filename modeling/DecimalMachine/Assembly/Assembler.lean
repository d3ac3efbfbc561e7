import DecimalMachine.Assembly.Program
import DecimalMachine.Assembly.Source
import DecimalMachine.Text.Decimal

/-!
# The assembler

Assembly runs in three passes over the source.

1. **Scan.** Each line loses its comment; each expression `$(…)` in it is evaluated and
   replaced by its value (or 0); the line is cut into words at white space. Expressions see
   the equates whose text is a decimal integer. An expression that fails stops assembly at
   its line, after the other expressions of that line have been evaluated.
2. **Parse.** Words are read as statements `[LABEL] MNEMONIC [ARG]`: a word that is no
   mnemonic is a label, and must be followed by one. An argument that is a number (an
   optional `-` and decimal digits) is a literal within [-999, 999]; any other argument names
   a label. Each statement is placed right after the previous one; it must fit in memory. A
   label keeps its first address; under strict assembly a second definition fails.
3. **Generate.** Each statement's words are made from its literal, or from the address of
   the label it names, which must be defined.

Every failure is reported at its source line, with the text of that line. The statements
parsed so far are kept with the failure.

The language expressions are written in is not the assembler's own: assembly takes an
`Evaluator` for it as its first argument. The assembler writes the one-line program
`rc=TEXT`, runs it with the integer equates predeclared, and reads the global `rc` back; what
holds of assembly holds for every evaluator.
-/

namespace DecimalMachine

/-- How to assemble. -/
structure Settings where
  /-- Whether a label defined twice fails. -/
  strict : Bool := false
  /-- Whether each step is logged. -/
  verbose : Bool := false
  /-- The memory size to assemble for; 0 means the default. -/
  memorySize : Int := 0
  /-- Equates defined before the source, in order; a later one wins. -/
  predefines : List (String × String) := []
  deriving Repr, Inhabited

/-- The memory size assembly lays out a program for. -/
def Settings.size (s : Settings) : Int :=
  if s.memorySize == 0 then defaultMemory else s.memorySize

/-- Set `name` to `value` in an ordered list of definitions, replacing an earlier one. -/
def setDefinition (defs : List (String × String)) (name value : String) :
    List (String × String) :=
  if defs.any (·.1 == name) then defs.map fun (n, v) => if n == name then (n, value) else (n, v)
  else defs ++ [(name, value)]

/-- The equates of an assembly: the memory layout, overridden by the predefines. -/
def Settings.equates (s : Settings) : List (String × String) :=
  s.predefines.foldl (fun defs (n, v) => setDefinition defs n v) (memoryDefines s.size)

/-- What an assembly produced: the statements parsed (with their words, when generated),
the labels, the equates, what was written to the diagnostic stream, and the program or the
failure. -/
structure Assembly where
  statements : Array Statement := #[]
  labels : List (String × Nat) := []
  equates : List (String × String) := []
  trace : Array TraceLine := #[]
  result : Except Error Program := .error .unknownInstruction
  deriving Inhabited

/-- A word of the source with its line number. -/
structure SourceWord where
  text : String
  lineNo : Nat
  deriving Repr, Inhabited

/-- A failure at line `n` of the source, with that line's text (empty past the end). -/
def atSourceLine (lines : Array String) (n : Nat) (e : Error) : Error :=
  .atLine n (if 1 ≤ n then lines[n - 1]?.getD "" else "") e

/-! ## Expressions -/

/-- What running a program of the expression language gave: the globals it defined, each as
the integer it holds (`none` for a value of another type), or the failure that stopped it; and
the lines it printed, in order. -/
structure Evaluation where
  result : Except Script.Failure (List (String × Option Int))
  printed : Array String := #[]

/-- An evaluator of the expression language: it runs a program text, compiled under a file name,
with names predeclared, each bound to an integer. -/
def Evaluator : Type := String → String → List (String × Int) → Evaluation

/-- The evaluator of a toolchain without an expression language: it runs every program without
effect, so that no global is defined and every expression fails as not an integer. A source
without expressions never calls its evaluator. -/
def Evaluator.inert : Evaluator := fun _ _ _ => { result := .ok [] }

/-- The names an expression sees: the equates whose text is a decimal integer, bound to that
integer. The other equates are left out. -/
def equateBindings (equates : List (String × String)) : List (String × Int) :=
  equates.filterMap fun (n, v) => (Text.readDecimal? v).map fun i => (n, i)

/-- The value of an expression `$(text)` given the equates, with the lines it printed: the
program `rc=TEXT` runs under the name `expr`, and `rc` must then hold an integer that fits a
signed 64-bit word. -/
def expressionValue (ev : Evaluator) (equates : List (String × String)) (text : String) :
    Except Error Int × Array String :=
  let run := ev "expr" ("rc=" ++ text ++ "\n") (equateBindings equates)
  let value : Except Error Int := match run.result with
    | .error f => .error (.badExpression text (.script f))
    | .ok globals =>
      match globals.lookup "rc" with
      | some (some i) =>
        if Text.fitsWord i then .ok i else .error (.badExpression text .notAnInteger)
      | _ => .error (.badExpression text .notAnInteger)
  (value, run.printed)

/-- Replace the expressions of a line by their values. The result is the new text, the
first failure, and the trace of the evaluations. -/
def substituteLine (ev : Evaluator) (equates : List (String × String)) (segments : List Segment) :
    String × Option Error × Array TraceLine :=
  segments.foldl (fun (text, failure, trace) seg =>
    match seg with
    | .plain t => (text ++ t, failure, trace)
    | .expression e =>
      let (value, printed) := expressionValue ev equates e
      let trace := trace ++ printed.map .printed
      match value with
      | .ok v => (text ++ Text.decimal v, failure, trace)
      | .error err => (text ++ "0", failure.orElse fun _ => some err, trace))
    ("", none, #[])

/-- The first pass: the words of the source, or the failure that stopped it, with the
source lines read and the trace. -/
def scanSource (ev : Evaluator) (settings : Settings) (equates : List (String × String))
    (source : String) :
    Array String × Array TraceLine × Except Error (Array SourceWord) :=
  let (lines, tooLong) := sourceLines source
  let rec go : List String → Nat → Array String → Array TraceLine → Array SourceWord →
      Array String × Array TraceLine × Except Error (Array SourceWord)
    | [], n, read, trace, words =>
      if tooLong then (read, trace, .error (atSourceLine read (n + 1) .tooLong))
      else (read, trace, .ok words)
    | line :: rest, n, read, trace, words =>
      let lineNo := n + 1
      let read := read.push line
      let trace := if settings.verbose then
          trace.push (.logged (toString lineNo ++ ": " ++ line))
        else trace
      let (text, failure, evalTrace) :=
        substituteLine ev equates (segmentsOf (withoutComment line).toList)
      let trace := trace ++ evalTrace
      match failure with
      | some e => (read, trace, .error (atSourceLine read lineNo e))
      | none =>
        let words := words ++ (Text.words text).toArray.map fun w => ⟨w, lineNo⟩
        go rest lineNo read trace words
  go lines 0 #[] #[] #[]

/-- Whether a word is a number literal: an optional `-` and at least one decimal digit. -/
def isNumberWord (w : String) : Bool :=
  let cs := match w.toList with
    | '-' :: rest => rest
    | cs => cs
  !cs.isEmpty && cs.all Char.isDigit

/-- The value of a number literal, which must be a word value. -/
def literalValue (w : String) : Except Error Int :=
  match Text.readDecimal? w with
  | some v => if accMin ≤ v ∧ v ≤ accMax then .ok v else .error (.numberRange w)
  | none => .error (.numberRange w)

/-- The state of the second pass: the statements so far and the labels. -/
structure Parsed where
  statements : Array Statement := #[]
  labels : List (String × Nat) := []
  deriving Inhabited

/-- The address after the last statement. -/
def Parsed.nextIp (p : Parsed) : Nat :=
  match p.statements.back? with
  | some s => s.ip + s.mnemonic.slots
  | none => 0

/-- The front of a statement at word `w`: the label (when `w` is no mnemonic), the mnemonic's
word and mnemonic, and the words after them; or the line and failure when no mnemonic stands
where one must. -/
def readHead (w : SourceWord) (rest : List SourceWord) :
    Except (Nat × Error) (Option String × SourceWord × Mnemonic × List SourceWord) :=
  match Mnemonic.ofString? w.text with
  | some mn => .ok (none, w, mn, rest)
  | none =>
    match rest with
    | [] => .error (w.lineNo, .unknownInstruction)
    | t :: more =>
      match Mnemonic.ofString? t.text with
      | some mn => .ok (some w.text, t, mn, more)
      | none => .error (t.lineNo, .unknownInstruction)

/-- The argument of mnemonic `mn`, read at word `tok`: its literal value or the label it names,
and the words after it; or the line and failure. A mnemonic without argument reads nothing. -/
def readArg (tok : SourceWord) (mn : Mnemonic) (rest : List SourceWord) :
    Except (Nat × Error) (Int × Option String × List SourceWord) :=
  if mn.argRequired then
    match rest with
    | [] => .error (tok.lineNo, .argumentRequired)
    | a :: more =>
      if isNumberWord a.text then
        match literalValue a.text with
        | .ok v => .ok (v, none, more)
        | .error e => .error (a.lineNo, e)
      else .ok (0, some a.text, more)
  else .ok (0, none, rest)

/-- The second pass: read statements from the words. -/
def parseWords (settings : Settings) (lines : Array String) :
    Nat → List SourceWord → Parsed → Parsed × Option Error
  | 0, _, p => (p, none)
  | _, [], p => (p, none)
  | fuel + 1, w :: rest, p =>
    let fail (n : Nat) (e : Error) : Parsed × Option Error := (p, some (atSourceLine lines n e))
    match readHead w rest with
    | .error (n, e) => fail n e
    | .ok (label, tok, mn, rest) =>
      match readArg tok mn rest with
      | .error (n, e) => fail n e
      | .ok (value, link, rest) =>
        let ip := p.nextIp
        if (ip : Int) + mn.slots > settings.size then fail tok.lineNo .programSize
        else
          let known := label.bind fun l => p.labels.lookup l
          match label, known with
          | some _, some _ =>
            if settings.strict then fail tok.lineNo .duplicateLabel
            else
              let st : Statement := { lineNo := tok.lineNo, ip, mnemonic := mn, label, link, value }
              parseWords settings lines fuel rest { p with statements := p.statements.push st }
          | _, _ =>
            let labels := match label with
              | some l => p.labels ++ [(l, ip)]
              | none => p.labels
            let st : Statement := { lineNo := tok.lineNo, ip, mnemonic := mn, label, link, value }
            parseWords settings lines fuel rest { statements := p.statements.push st, labels }

/-- The log record of a generated statement: address, mnemonic, value and words. -/
def generatedRecord (s : Statement) (value : Int) (words : List Int) : String :=
  Text.threePlaces s.ip ++ ": " ++ s.mnemonic.text ++ " " ++ Text.decimal value ++ " => " ++
    Text.bracketed (words.map Text.threePlaces)

/-- The third pass: generate each statement's words, stopping at the first failure. -/
def generateWords (settings : Settings) (lines : Array String) (labels : List (String × Nat)) :
    List Statement → Array Statement → Array TraceLine →
      Array Statement × Array TraceLine × Option Error
  | [], done, trace => (done, trace, none)
  | s :: rest, done, trace =>
    let value : Except Error Int := match s.link with
      | some l =>
        match labels.lookup l with
        | some ip => .ok ip
        | none => .error (atSourceLine lines s.lineNo (.missingLabel l))
      | none => .ok s.value
    match value with
    | .error e => (done ++ (s :: rest).toArray, trace, some e)
    | .ok v =>
      match s.mnemonic.expand v with
      | .error e => (done ++ (s :: rest).toArray, trace, some (atSourceLine lines s.lineNo e))
      | .ok words =>
        let trace := if settings.verbose then
            trace.push (.logged (generatedRecord s v words))
          else trace
        generateWords settings lines labels rest (done.push { s with words }) trace

/-- Assemble a source text. -/
def assemble (ev : Evaluator) (settings : Settings) (source : String) : Assembly :=
  let equates := settings.equates
  let (lines, trace, scanned) := scanSource ev settings equates source
  match scanned with
  | .error e => { equates, trace, result := .error e }
  | .ok words =>
    let (parsed, failure) := parseWords settings lines (words.size + 1) words.toList {}
    match failure with
    | some e =>
      { statements := parsed.statements, labels := parsed.labels, equates, trace,
        result := .error e }
    | none =>
      let (statements, trace, failure) :=
        generateWords settings lines parsed.labels parsed.statements.toList #[] trace
      let result := match failure with
        | some e => .error e
        | none => .ok { statements, size := settings.size }
      { statements, labels := parsed.labels, equates, trace, result }

end DecimalMachine
