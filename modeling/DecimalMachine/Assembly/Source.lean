/-!
# Source text

Assembly source is read line by line. Lines end at `\n`; a `\r` just before it is dropped, and
a last line without `\n` still counts, but nothing after a final `\n` does. The reader holds
at most 65536 bytes at once, so a line of 65536 bytes or more (its `\r` included, its `\n`
not) stops reading there: the lines before it are read, and reading fails.

In a line, everything from the first `;` on is a comment. What remains may hold expressions
`$(…)`: a `$(` begins one, and it ends at the last `)` before the next `$` (or the end of the
line). A `$(` with no `)` before the next `$` is plain text.
-/

namespace DecimalMachine

/-- The number of bytes the source reader holds at once. -/
def readerWindow : Nat := 65536

/-- The lines of a source text, and whether reading stopped at a line too long to hold. -/
def sourceLines (text : String) : List String × Bool :=
  let pieces := text.toList.splitOn '\n'
  -- the piece after a final newline (or of an empty text) is no line
  let pieces := if pieces.getLast? == some [] then pieces.dropLast else pieces
  let rec take : List (List Char) → List String × Bool
    | [] => ([], false)
    | p :: rest =>
      let s := String.ofList p
      if s.utf8ByteSize ≥ readerWindow then ([], true)
      else
        let line := if p.getLast? == some '\r' then String.ofList p.dropLast else s
        let (more, tooLong) := take rest
        (line :: more, tooLong)
  take pieces

/-- A line without its comment. -/
def withoutComment (line : String) : String :=
  String.ofList (line.toList.takeWhile (· != ';'))

/-- A piece of a source line: plain text, or the text of an expression `$(…)`. -/
inductive Segment where
  | plain (text : String)
  | expression (text : String)
  deriving DecidableEq, Repr

/-- The position of the last `)` in a list of characters. -/
def lastClose (cs : List Char) : Option Nat :=
  (cs.zipIdx.filter (·.1 == ')')).getLast?.map (·.2)

/-- Cut a line into plain text and expressions. -/
def segmentsOf (cs : List Char) : List Segment :=
  go (cs.length + 1) cs []
where
  /-- Cut `cs`, with `acc` the plain text read since the last expression, reversed. -/
  go : Nat → List Char → List Char → List Segment
    | 0, _, acc => [.plain (String.ofList acc.reverse)]
    | _, [], acc => if acc.isEmpty then [] else [.plain (String.ofList acc.reverse)]
    | fuel + 1, '$' :: '(' :: rest, acc =>
      let run := rest.takeWhile (· != '$')
      match lastClose run with
      | some j =>
        let before := if acc.isEmpty then [] else [Segment.plain (String.ofList acc.reverse)]
        before ++ .expression (String.ofList (run.take j)) :: go fuel (rest.drop (j + 1)) []
      | none => go fuel ('(' :: rest) ('$' :: acc)
    | fuel + 1, c :: rest, acc => go fuel rest (c :: acc)

end DecimalMachine
