import DecimalMachine.Cli.Files
import DecimalMachine.Cli.Flags
import DecimalMachine.Emulator
import DecimalMachine.Machine.Render
import DecimalMachine.Script.Eval

/-!
# The command

`lmsm [flags] SOURCE` assembles the source file, then runs it with the tape reading the
input file (or standard input) and writing the output file (or standard output).

The command runs here over a directory of named files and a standard input text, and
produces its exit status, standard output, standard error and the directory afterwards:

* flag errors print the diagnostic and the usage text, status 2 (`-h`: the usage, status 0);
* anything but one source argument, a bad memory size, or a file that cannot be opened is
  logged, status 1;
* an assembly failure is logged with the source name, status 1;
* a failure while running is logged with the source name, followed by the machine state,
  status 2.

The input file is opened before the output file is created, and read only when the program
first reads it: a directory as input fails only then, and an input that is also the output
starts empty and reads back what the program writes. A source read from standard input uses
it up, so a tape reading standard input afterwards finds it empty. A tape writing to
standard error puts each value among the log records, in the order written.

With `-v` the assembler, emulator and machine log their steps, and the command logs the
program's size and the number of ticks.

Assembly-time expressions are evaluated in the expression language of `Script`
(`expressionEvaluator`).

The command itself has no step limit; here a run is given `stepLimit` ticks, far more than
any program the command is given needs.
-/

namespace DecimalMachine.Cli

/-- What running the command produced. -/
structure Outcome where
  exit : Nat
  stdout : String := ""
  stderr : String := ""
  files : Files := []
  deriving Repr, Inhabited

/-- The ticks a run is given. -/
def stepLimit : Nat := 1000000000

/-- `count noun`, the noun singular for one, the count grouped by three. -/
def plural (count : Int) (one many : String) : String :=
  Text.grouped count ++ " " ++ (if count == 1 then one else many)

/-- The text of the arguments list as the diagnostic writes it: `[a b]`. -/
def argumentList (args : List String) : String :=
  "[" ++ " ".intercalate args ++ "]"

/-- The evaluator the command assembles with: `Script.evaluate`, its integer bindings made
values and its globals read back as the integers they hold. -/
def expressionEvaluator : Evaluator := fun file source predeclared =>
  let (result, printed) := Script.evaluate file source (predeclared.map fun (n, i) => (n, .int i))
  let asInteger : Script.Value → Option Int
    | .int i => some i
    | _ => none
  { result := result.map (·.map fun (n, v) => (n, asInteger v)), printed }

/-- The diagnostic stream of an emulator's trace. -/
def traceText (trace : Array TraceLine) : String :=
  String.join (trace.toList.map fun t => t.text ++ "\n")

/-- Run the command with arguments `args`, the files `files` and standard input `stdin`. -/
def runCommand (args : List String) (files : Files) (stdin : String) : Outcome :=
  match parseFlags args with
  | .help => { exit := 0, stderr := usage, files }
  | .failed msg => { exit := 2, stderr := msg ++ "\n" ++ usage, files }
  | .options o =>
    match o.args with
    | [source] =>
      match Emulator.create o.memory with
      | .error e => { exit := 1, stderr := "-m: " ++ e.message ++ "\n", files }
      | .ok emu =>
        let emu := o.defines.foldl (fun e (n, v) => e.define n v)
          { emu with verbose := o.verbose, strict := o.strict }
        match readPath files stdin source with
        | .error msg => { exit := 1, stderr := msg ++ "\n", files }
        | .ok (text, stdin) =>
          let (assembled, emu) := emu.assembleSource expressionEvaluator text
          match assembled with
          | .error e =>
            { exit := 1, stderr := traceText emu.trace ++ source ++ ": " ++ e.message ++ "\n",
              files }
          | .ok emu =>
            let emu := if o.verbose then
                emu.logLine (source ++ ": " ++ plural emu.program.length "word" "words")
              else emu
            let opened : Except String (Option Opened) :=
              if o.input == "-" then .ok none else (openPath files o.input).map some
            match opened with
            | .error msg => { exit := 1, stderr := traceText emu.trace ++ msg ++ "\n", files }
            | .ok opened =>
              let created : Except String (Files × Option Sink) :=
                if o.output == "-" then .ok (files, none)
                else (createPath files o.output).map fun (fs, sink) => (fs, some sink)
              match created with
              | .error msg => { exit := 1, stderr := traceText emu.trace ++ msg ++ "\n", files }
              | .ok (files, sink) =>
                let reader := match opened with
                  | none => Reader.start stdin
                  | some f =>
                    match readOpened files stdin o.input f with
                    | .ok text => Reader.start text
                    | .error msg => .finished (.other msg)
                let loopback := match opened, sink with
                  | some (.file a), some (.file b) => a == b
                  | _, _ => false
                let diagnostic := sink == some (.stream .diagnostic)
                let tape : Tape :=
                  { input := some reader, output := if diagnostic then none else some (.buffer ""),
                    loopback, diagnostic }
                let emu := { emu with machine := { emu.machine with device := .tape tape } }
                let (emu, err, _) := emu.run stepLimit
                let written := match emu.machine.device with
                  | .tape t => t.written
                  | _ => ""
                let (stdout, files) := match sink with
                  | none | some (.stream .output) => (written, files)
                  | some sink => ("", sink.write files written)
                let emu := if o.verbose then
                    emu.logLine (source ++ ": " ++ plural emu.ticks "tick" "ticks")
                  else emu
                match err with
                | none => { exit := 0, stdout, stderr := traceText emu.trace, files }
                | some e =>
                  let report := match e with
                    | .runtime .. =>
                      source ++ ": " ++ e.message ++ "\n" ++ "machine state:\n" ++
                        emu.machine.render
                    | _ => source ++ ": " ++ e.message ++ "\n"
                  { exit := 2, stdout, stderr := traceText emu.trace ++ report, files }
    | rest =>
      { exit := 1, stderr := "lmsm: expected one .lmsm source file, not " ++
          argumentList rest ++ "\n", files }

end DecimalMachine.Cli
