import DecimalMachine.Cli.Command

/-!
# The command line

`lmsm [flags] SOURCE` over the real file system: the outer layer around `Cli.runCommand`.
It reads the files the arguments may name and, when the tape reads standard input, all of
standard input; runs the command over them; then writes the files the command changed, the
tape output to standard output and the diagnostics to standard error, and exits with the
command's status.
-/

namespace DecimalMachine.Cli

/-- The paths the arguments may name: each argument, and the text after `=` in one. -/
def namedPaths (args : List String) : List String :=
  (args.flatMap fun a => [a, String.ofList ((a.toList.dropWhile (· != '=')).drop 1)]).filter
    (!·.isEmpty)

/-- Whether running the command reads its standard input. -/
def readsStdin (args : List String) : Bool :=
  match parseFlags args with
  | .options o => o.input == "-" && o.args.length == 1
  | _ => false

/-- The files of the working directory that `paths` name and that can be read. -/
def readNamed (paths : List String) : IO Files :=
  let readOne (files : Files) (p : String) : IO Files := do
    match localName? p with
    | none => return files
    | some name =>
      if (files.lookup name).isSome then return files
      try
        let text ← IO.FS.readFile name
        return files ++ [(name, text)]
      catch _ => return files
  paths.foldlM readOne []

/-- All of a stream, line by line. -/
partial def readAll (stream : IO.FS.Stream) (acc : String) : IO String := do
  let line ← stream.getLine
  if line.isEmpty then return acc else readAll stream (acc ++ line)

end DecimalMachine.Cli

open DecimalMachine.Cli

/-- Run the command. -/
def main (args : List String) : IO UInt32 := do
  let files ← readNamed (namedPaths args)
  let stdin ← if readsStdin args then readAll (← IO.getStdin) "" else pure ""
  let o := runCommand args files stdin
  for (name, text) in o.files do
    if files.lookup name != some text then IO.FS.writeFile name text
  IO.print o.stdout
  IO.eprint o.stderr
  return o.exit.toUInt32
