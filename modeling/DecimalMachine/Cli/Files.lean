/-!
# Files

The command reads its source and its tape input from files and writes its tape output to
one. It runs in a working directory that holds only regular files. Around it stand
directories whose contents are not known, apart from the root with `/dev` and `/tmp` in it
and these devices:

* `/dev/null` reads as empty and takes whatever is written;
* `/dev/stdin`, `/dev/stdout` and `/dev/stderr`, also `0`, `1` and `2` of the directory
  `/dev/fd`, are the command's standard streams. Standard input reads as what is left of it;
  the output streams read as empty. What is written to standard output or standard error
  joins that stream, and what is written to standard input is lost.

A path is read as its parts between slashes; empty parts do not count. Every part but the
last must lead to a directory: `.` stays, `..` goes up, and a name must be a directory
where the walk stands. A file there gives `not a directory`, and a missing name gives
`no such file or directory`. The last part names what is opened, and a slash after it asks
for a directory.

* Opening for reading accepts a directory. Reading it then fails, when it is read and not
  when it is opened, so a tape input that is a directory only fails if the program reads it.
* Creating fails for a directory and for any path that ends in a slash (`is a directory`).
  Otherwise it empties the file or makes a new one.

Failures are written as `open PATH: why` and `read PATH: is a directory`, with `PATH` as the
user gave it.
-/

namespace DecimalMachine.Cli

/-- The files of the working directory, by name. -/
abbrev Files := List (String × String)

/-- A directory a walk along a path can stand in. -/
inductive Place where
  /-- The working directory. -/
  | work
  /-- The root directory. -/
  | root
  /-- The directory of devices, `/dev`. -/
  | devices
  /-- The directory of the open standard streams, `/dev/fd`. -/
  | descriptors
  /-- Any other directory; nothing in it is known. -/
  | elsewhere
  deriving DecidableEq, Repr

/-- A standard stream of the command. -/
inductive StandardStream where
  | input
  | output
  | diagnostic
  deriving DecidableEq, Repr

/-- What a path names. -/
inductive Target where
  /-- A directory. -/
  | directory
  /-- A file of the working directory, by name. -/
  | file (name : String)
  /-- The null device. -/
  | null
  /-- A standard stream. -/
  | stream (s : StandardStream)
  /-- Nothing yet: a file of the working directory of this name, or one elsewhere. -/
  | absent (name : Option String)
  /-- The walk failed on the way: the reason. -/
  | failed (why : String)
  deriving DecidableEq, Repr

/-- Take one part of a path from the directory `p`: the directory it leads to, or what it
names when that is not a directory. -/
def step (files : Files) (p : Place) (part : String) : Place ⊕ Target :=
  match part, p with
  | ".", _ => .inl p
  | "..", .work | "..", .elsewhere | "..", .descriptors => .inl .elsewhere
  | "..", _ => .inl .root
  | name, .work => .inr (if (files.lookup name).isSome then .file name else .absent (some name))
  | "dev", .root => .inl .devices
  | "tmp", .root => .inl .elsewhere
  | "null", .devices => .inr .null
  | "fd", .devices => .inl .descriptors
  | "stdin", .devices | "0", .descriptors => .inr (.stream .input)
  | "stdout", .devices | "1", .descriptors => .inr (.stream .output)
  | "stderr", .devices | "2", .descriptors => .inr (.stream .diagnostic)
  | _, _ => .inr (.absent none)

/-- Walk the parts of a path from the directory `p`. -/
def walk (files : Files) : Place → List String → Target
  | _, [] => .directory
  | p, [last] =>
    match step files p last with
    | .inl _ => .directory
    | .inr t => t
  | p, part :: rest =>
    match step files p part with
    | .inl q => walk files q rest
    | .inr (.absent _) => .failed "no such file or directory"
    | .inr (.failed why) => .failed why
    | .inr _ => .failed "not a directory"

/-- What `path` names. The empty path names nothing. -/
def resolve (files : Files) (path : String) : Target :=
  if path.isEmpty then .failed "no such file or directory"
  else
    let start := if path.startsWith "/" then Place.root else .work
    walk files start ((path.splitOn "/").filter (!·.isEmpty))

/-- Something opened for reading. -/
inductive Opened where
  /-- A file of the working directory, by name. -/
  | file (name : String)
  /-- The null device. -/
  | null
  /-- A standard stream. -/
  | stream (s : StandardStream)
  /-- A directory: reading it fails. -/
  | directory
  deriving DecidableEq, Repr

/-- Open `path` for reading. -/
def openPath (files : Files) (path : String) : Except String Opened :=
  let fail (why : String) : Except String Opened := .error ("open " ++ path ++ ": " ++ why)
  match resolve files path with
  | .failed why => fail why
  | .absent _ => fail "no such file or directory"
  | .directory => .ok .directory
  | .file name => if path.endsWith "/" then fail "not a directory" else .ok (.file name)
  | .null => if path.endsWith "/" then fail "not a directory" else .ok .null
  | .stream s => if path.endsWith "/" then fail "not a directory" else .ok (.stream s)

/-- Read what was opened at `path`, as it is now, with `stdin` what is left of standard
input. -/
def readOpened (files : Files) (stdin path : String) : Opened → Except String String
  | .file name => .ok ((files.lookup name).getD "")
  | .null => .ok ""
  | .stream .input => .ok stdin
  | .stream _ => .ok ""
  | .directory => .error ("read " ++ path ++ ": is a directory")

/-- Read the whole file at `path`, with `stdin` what is left of standard input. Gives the
text and what is left of standard input afterwards. -/
def readPath (files : Files) (stdin path : String) : Except String (String × String) := do
  let opened ← openPath files path
  let text ← readOpened files stdin path opened
  pure (text, if opened == .stream .input then "" else stdin)

/-- Where written text goes: a file of the working directory, an output stream, or nowhere
that can be seen. -/
inductive Sink where
  | file (name : String)
  | stream (s : StandardStream)
  | discard
  deriving DecidableEq, Repr

/-- Create the file at `path`, or empty it if it exists. -/
def createPath (files : Files) (path : String) : Except String (Files × Sink) :=
  let fail (why : String) : Except String (Files × Sink) := .error ("open " ++ path ++ ": " ++ why)
  match resolve files path with
  | .failed why => fail why
  | .directory => fail "is a directory"
  | t =>
    if path.endsWith "/" then fail "is a directory"
    else match t with
      | .file name | .absent (some name) =>
        .ok ((files.filter (·.1 != name)) ++ [(name, "")], .file name)
      | .stream .output => .ok (files, .stream .output)
      | .stream .diagnostic => .ok (files, .stream .diagnostic)
      | _ => .ok (files, .discard)

/-- Put the text written to a sink into the files; what goes to a stream or is discarded
leaves them as they are. -/
def Sink.write (files : Files) (text : String) : Sink → Files
  | .file name => files.map fun (n, c) => if n == name then (n, text) else (n, c)
  | .stream _ | .discard => files

/-- The name of the file of the working directory a path names, if it names one by a
plain walk: any number of `.` parts and exactly one name. -/
def localName? (path : String) : Option String :=
  if path.startsWith "/" || path.endsWith "/" then none
  else
    match (path.splitOn "/").filter (fun p => !p.isEmpty && p != ".") with
    | [name] => if name == ".." then none else some name
    | _ => none

end DecimalMachine.Cli
