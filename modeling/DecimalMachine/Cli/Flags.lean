import DecimalMachine.Text.Decimal
import DecimalMachine.Text.Quoted

/-!
# Command-line flags

The command takes the flags `-i FILE` (tape input, `-` for standard input), `-o FILE` (tape
output, `-` for standard output), `-m N` (memory size), `-strict`, `-v` and any number of
`-D NAME=VALUE`, followed by the source file.

Flags are read from the front until the first argument that is not one: a lone `-`, or
anything not starting with `-`. A `--` ends the flags and is dropped. A flag is `-name` or
`--name`, its value either after `=` or, for the flags that need one, the next argument. The
switches `-strict` and `-v` take a value only after `=`. `-h` and `-help` ask for the usage
text. The number after `-m` may have a sign, a base prefix (`0x`, `0o`, `0b`, or a leading
`0` for octal) and `_` between digits.
-/

namespace DecimalMachine.Cli

/-- What the flags ask for. -/
structure Options where
  input : String := "-"
  output : String := "-"
  memory : Int := 1000
  strict : Bool := false
  verbose : Bool := false
  /-- The `-D` definitions, in order; a later one for a name wins. -/
  defines : List (String × String) := []
  /-- The arguments after the flags. -/
  args : List String := []
  deriving Repr, Inhabited

/-- The result of reading the flags: options, a request for help, or a diagnostic. -/
inductive Parsed where
  | options (o : Options)
  | help
  | failed (message : String)
  deriving Repr

/-- The usage text. -/
def usage : String :=
  "Usage of lmsm:\n" ++
  "  -D value\n    \tPredefine NAME=VALUE for $() expressions\n" ++
  "  -i string\n    \tTape input (default \"-\")\n" ++
  "  -m int\n    \tMemory size, in words (default 1000)\n" ++
  "  -o string\n    \tTape output (default \"-\")\n" ++
  "  -strict\n    \tReject duplicate labels\n" ++
  "  -v\tVerbose mode\n"

/-- The truth value a switch's text spells. -/
def readSwitch : String → Option Bool
  | "1" | "t" | "T" | "TRUE" | "true" | "True" => some true
  | "0" | "f" | "F" | "FALSE" | "false" | "False" => some false
  | _ => none

/-- Add a `-D NAME=VALUE` definition. -/
def addDefine (o : Options) (text : String) : Except String Options :=
  match text.splitOn "=" with
  | name :: rest =>
    if rest.isEmpty || name.isEmpty then
      .error ("expected NAME=VALUE, not " ++ Text.quoted text)
    else .ok { o with defines := o.defines ++ [(name, "=".intercalate rest)] }
  | [] => .error ("expected NAME=VALUE, not " ++ Text.quoted text)

/-- Set a flag that takes a value. -/
def setValue (o : Options) (name value : String) : Except String Options :=
  let invalid (why : String) : Except String Options :=
    .error ("invalid value " ++ Text.quoted value ++ " for flag -" ++ name ++ ": " ++ why)
  match name with
  | "i" => .ok { o with input := value }
  | "o" => .ok { o with output := value }
  | "m" =>
    match Text.readLiberal value with
    | .ok n => .ok { o with memory := n }
    | .error .malformed => invalid "parse error"
    | .error .range => invalid "value out of range"
  | _ =>
    match addDefine o value with
    | .ok o => .ok o
    | .error e => invalid e

/-- Read the flags from the front of `args`. -/
def parseFlags (args : List String) : Parsed :=
  go (args.length + 1) args {}
where
  /-- Read flags while arguments remain that are flags. -/
  go : Nat → List String → Options → Parsed
    | 0, rest, o => .options { o with args := rest }
    | _, [], o => .options o
    | fuel + 1, a :: rest, o =>
      let cs := a.toList
      if cs.length < 2 || cs.head? != some '-' then .options { o with args := a :: rest }
      else if a == "--" then .options { o with args := rest }
      else
        let body := if cs.getD 1 ' ' == '-' then cs.drop 2 else cs.drop 1
        match body with
        | [] | '-' :: _ | '=' :: _ => .failed ("bad flag syntax: " ++ a)
        | first :: more =>
          let nameChars := first :: more.takeWhile (· != '=')
          let hasValue := more.contains '='
          let value := String.ofList ((more.dropWhile (· != '=')).drop 1)
          let name := String.ofList nameChars
          if name == "strict" || name == "v" then
            let v := if hasValue then readSwitch value else some true
            match v with
            | some b =>
              go fuel rest (if name == "v" then { o with verbose := b } else { o with strict := b })
            | none =>
              .failed ("invalid boolean value " ++ Text.quoted value ++ " for -" ++ name ++
                ": parse error")
          else if name == "i" || name == "o" || name == "m" || name == "D" then
            let (value?, rest) :=
              if hasValue then (some value, rest)
              else match rest with
                | v :: more => (some v, more)
                | [] => (none, [])
            match value? with
            | none => .failed ("flag needs an argument: -" ++ name)
            | some v =>
              match setValue o name v with
              | .ok o => go fuel rest o
              | .error e => .failed e
          else if name == "h" || name == "help" then .help
          else .failed ("flag provided but not defined: -" ++ name)

end DecimalMachine.Cli
