import DecimalMachine.Error
import DecimalMachine.Text.Category
import DecimalMachine.Text.Decimal

/-!
# Input and output devices

The machine reads input and writes output through one attached device, or none.

* A `Rom` holds a fixed list of input values and a read position, and records every value
  sent to it. Rewinding starts reading over and forgets what was sent.
* A `Tape` reads its input text word by word (words are separated by white space) and
  writes each value sent to it as a decimal line. A word must be a decimal integer that fits
  a signed 64-bit word; otherwise that word is reported as not a number and reading goes on
  with the next word. A tape without input text has nothing to read; a tape without output
  discards what is sent. Its output is a `Writer`: a buffer that keeps the lines, or a broken
  writer that takes nothing and fails every write with an error of its own, which sending then
  reports.

The tape reads through a window of `windowBytes` bytes: a word whose bytes and the blank
after it (or the end of the text) do not fit in the window fails as too long. The next read
then returns what filled the window, a character cut by its end read as one replacement
character for each of its bytes that fit, and every read after that fails as too long again.
-/

namespace DecimalMachine

open Text

/-- A fixed list of input values with a read position and a record of the values sent. -/
structure Rom where
  /-- The input values, in order. -/
  data : Array Int
  /-- How many values have been read. -/
  read : Nat := 0
  /-- The values sent, in order. -/
  sent : Array Int := #[]
  deriving Repr, Inhabited

namespace Rom

/-- How many input values are left. -/
def remaining (r : Rom) : Int :=
  (r.data.size : Int) - r.read

/-- Read the next value; an exhausted rom reports `channelEmpty` and stays as it is. -/
def receive (r : Rom) : Except Error Int × Rom :=
  match r.data[r.read]? with
  | some v => (.ok v, { r with read := r.read + 1 })
  | none => (.error .channelEmpty, r)

/-- Record a value sent. -/
def send (r : Rom) (v : Int) : Rom :=
  { r with sent := r.sent.push v }

/-- Start reading from the first value again and forget what was sent. -/
def rewind (r : Rom) : Rom :=
  { r with read := 0, sent := #[] }

end Rom

/-- The size in bytes of the window a tape reads its input through. -/
def windowBytes : Nat := 65536

/-- The number of bytes of a character in UTF-8. -/
def charBytes (c : Char) : Nat :=
  c.utf8Size

/-- The first `room` bytes of `cs` in UTF-8: whole characters while they fit, then a
replacement character for each byte of the character the end cuts. -/
def windowPrefix : Nat → List Char → List Char
  | _, [] => []
  | room, c :: cs =>
    if charBytes c ≤ room then c :: windowPrefix (room - charBytes c) cs
    else List.replicate room '\uFFFD'

/-- Where a tape reader stands in its input text. -/
inductive Reader where
  /-- Still reading: the text not yet consumed. -/
  | reading (rest : List Char)
  /-- A word did not fit the window: this part of it is read next. -/
  | overflowed (part : List Char)
  /-- Nothing more can be read; reads fail with `failure`. -/
  | finished (failure : Error)
  deriving Repr, Inhabited

namespace Reader

/-- A reader at the start of a text. -/
def start (text : String) : Reader :=
  .reading text.toList

/-- The value of a word read from the tape. -/
def valueOf (word : List Char) : Except Error Int :=
  let s := String.ofList word
  match readDecimal? s with
  | some v => .ok v
  | none => .error (.notANumber s)

/-- Read the next word and its value. -/
def next : Reader → Except Error Int × Reader
  | .reading rest =>
    let text := rest.dropWhile isBlank
    let word := text.takeWhile (fun c => !isBlank c)
    let after := text.dropWhile (fun c => !isBlank c)
    let size := word.foldl (fun n c => n + charBytes c) 0
    match word, after with
    | [], _ => (.error .channelEmpty, .finished .channelEmpty)
    | _, [] =>
      if size < windowBytes then (valueOf word, .finished .channelEmpty)
      else (.error .tooLong, .overflowed (windowPrefix windowBytes word))
    | _, blank :: rest' =>
      if size + charBytes blank ≤ windowBytes then (valueOf word, .reading rest')
      else (.error .tooLong, .overflowed (windowPrefix windowBytes (word ++ [blank])))
  | .overflowed part => (valueOf part, .finished .tooLong)
  | .finished failure => (.error failure, .finished failure)

/-- Text added at the end of the input. A reader that has met the end of its input no longer
looks for more, so only one still reading takes it. -/
def append (r : Reader) (text : String) : Reader :=
  match r with
  | .reading rest => .reading (rest ++ text.toList)
  | r => r

end Reader

/-- Where a tape's output goes. -/
inductive Writer where
  /-- A buffer that keeps what is written: the text so far. -/
  | buffer (text : String)
  /-- A writer that takes nothing and fails every write with an error of its own, which says
  `message`. -/
  | broken (message : String)
  deriving Repr, Inhabited

/-- A text tape: input read word by word, output written as decimal lines. -/
structure Tape where
  /-- The input being read; `none` when no input is attached. -/
  input : Option Reader := none
  /-- The writer of the output; `none` when output is discarded. -/
  output : Option Writer := none
  /-- Whether the output goes to the file the input reads, so that what is written can be
  read back. -/
  loopback : Bool := false
  /-- Whether each value written goes to the diagnostic stream, among the trace records. -/
  diagnostic : Bool := false
  deriving Repr, Inhabited

namespace Tape

/-- Read the next value from the tape. -/
def receive (t : Tape) : Except Error Int × Tape :=
  match t.input with
  | none => (.error .channelEmpty, t)
  | some r =>
    let (v, r') := r.next
    (v, { t with input := some r' })

/-- Write a value as a decimal line, and report the writer's failure if it has one. A tape
without output discards the value; a broken writer takes nothing. -/
def send (t : Tape) (v : Int) : Tape × Option Error :=
  match t.output with
  | none => (t, none)
  | some (.broken message) => (t, some (.other message))
  | some (.buffer text) =>
    let line := decimal v ++ "\n"
    ({ t with output := some (.buffer (text ++ line)),
              input := if t.loopback then t.input.map (·.append line) else t.input }, none)

/-- The text the tape's buffer holds; empty when its output is not a buffer. -/
def written (t : Tape) : String :=
  match t.output with
  | some (.buffer text) => text
  | _ => ""

end Tape

/-- The device attached to a machine. -/
inductive Device where
  /-- No device: input fails and output goes nowhere but the machine's own record. -/
  | none
  /-- A fixed list of input values. -/
  | rom (r : Rom)
  /-- A text tape. -/
  | tape (t : Tape)
  deriving Repr, Inhabited

namespace Device

/-- Read a value; only meaningful for an attached device. -/
def receive : Device → Except Error Int × Device
  | .none => (.error .inputFailed, .none)
  | .rom r => let (v, r') := r.receive; (v, .rom r')
  | .tape t => let (v, t') := t.receive; (v, .tape t')

/-- Send a value to the device, with the failure the device reports, if any. -/
def send : Device → Int → Device × Option Error
  | .none, _ => (.none, .none)
  | .rom r, v => (.rom (r.send v), .none)
  | .tape t, v => let (t', failure) := t.send v; (.tape t', failure)

/-- Whether the device is a tape writing to the diagnostic stream. -/
def isDiagnostic : Device → Bool
  | .tape t => t.diagnostic
  | _ => false

/-- Prepare the device for a fresh run: a rom starts over, a tape goes on where it stands. -/
def rewind : Device → Device
  | .rom r => .rom r.rewind
  | d => d

end Device

end DecimalMachine
