import DecimalMachine.Text.Case
import DecimalMachine.Text.Category
import DecimalMachine.Text.Utf8

/-!
# Searching, cutting and trimming byte strings

The operations on strings that look for a separator or a class of characters. A search for
bytes works on bytes, so it can find a match anywhere, also inside a character; an operation
that looks at characters (trimming, splitting at blanks, inserting at every character) reads
them with `pieces` and gives back the bytes they were read from, so an ill-formed byte passes
through unchanged.

* `findBytes` and `lastFindBytes` give the first and the last position of a match;
* `splitBytes` cuts at a separator, `replaceBytes` replaces matches;
* `trimPieces` drops characters of a class from either end;
* `blankFields` cuts at runs of blanks, and `splitBlank` does so into a bounded number of
  fields, the last one keeping the rest of the string;
* `nearest` finds the known name closest to an unknown one, for diagnostics to suggest.
  Names are compared after folding: underscores are dropped and letters lowered. A candidate
  is suggested when its edit distance (insertions, deletions and substitutions of bytes) from
  the unknown name is below half the folded name's length, rounded up; among the closest, the
  first in the given order wins.
-/

namespace DecimalMachine.Text

/-- The bytes the pieces were read from, in order. Joining `pieces bs` gives `bs` back. -/
def joinPieces (ps : List Piece) : List UInt8 :=
  ps.flatMap (·.2)

/-- Whether a code point is white space. -/
def isBlankCode (n : Nat) : Bool :=
  isBlank (Char.ofNat n)

/-- Whether `needle` occurs in `hay` at position `i`. -/
def occursAt (hay needle : Array UInt8) (i : Nat) : Bool :=
  i + needle.size ≤ hay.size && go needle.size 0
where
  /-- Compare the next `k` bytes of `needle`, from its position `j`. -/
  go : Nat → Nat → Bool
    | 0, _ => true
    | k + 1, j => hay[i + j]? == needle[j]? && go k (j + 1)

/-- The first position at or after `start` where `needle` occurs in `hay`. -/
def findIn (hay needle : Array UInt8) (start : Nat) : Option Nat :=
  go (hay.size + 1 - start) start
where
  /-- Try the next `k` positions, from `i`. -/
  go : Nat → Nat → Option Nat
    | 0, _ => none
    | k + 1, i => if occursAt hay needle i then some i else go k (i + 1)

/-- The last position at or before `i` where `needle` occurs in `hay`. -/
def lastFindIn (hay needle : Array UInt8) : Nat → Option Nat
  | 0 => if occursAt hay needle 0 then some 0 else none
  | i + 1 => if occursAt hay needle (i + 1) then some (i + 1) else lastFindIn hay needle i

/-- The first position at or after `start` where `needle` occurs in `hay`. -/
def findBytes (hay needle : List UInt8) (start : Nat) : Option Nat :=
  findIn hay.toArray needle.toArray start

/-- The last position where `needle` occurs in `hay`. -/
def lastFindBytes (hay needle : List UInt8) : Option Nat :=
  lastFindIn hay.toArray needle.toArray hay.length

/-- The pieces of `s` between occurrences of a non-empty `sep`, at most `limit + 1` pieces
when a limit is given. -/
def splitBytes (s sep : List UInt8) (limit : Option Nat) : List (List UInt8) :=
  let a := s.toArray
  (go a sep.toArray (a.size + 1) 0 0 []).reverse
where
  /-- Cut off one piece per step, from position `pos` of `a`, after `count` cuts, `done`
  holding the pieces cut so far, last first; every step but the last passes a separator. -/
  go (a b : Array UInt8) : Nat → Nat → Nat → List (List UInt8) → List (List UInt8)
    | 0, pos, _, done => (a.extract pos a.size).toList :: done
    | fuel + 1, pos, count, done =>
      if limit.any (count ≥ ·) then (a.extract pos a.size).toList :: done
      else match findIn a b pos with
        | some i => go a b fuel (i + b.size) (count + 1) ((a.extract pos i).toList :: done)
        | none => (a.extract pos a.size).toList :: done

/-- The number of non-overlapping occurrences of `needle` in `hay`; an empty needle occurs
before every character and at the end. -/
def countBytes (hay needle : List UInt8) : Nat :=
  if needle.isEmpty then (pieces hay).length + 1
  else (splitBytes hay needle none).length - 1

/-- `s` with the first `count` occurrences of `old` replaced by `new`, all of them when no
count is given. An empty `old` occurs before every character and at the end. -/
def replaceBytes (s old new : List UInt8) (count : Option Nat) : List UInt8 :=
  if old.isEmpty then
    let ps := (pieces s).toArray
    let limit := count.getD (ps.size + 1)
    (List.range (ps.size + 1)).flatMap fun i =>
      (if i < limit then new else []) ++ ((ps[i]?).map (·.2)).getD []
  else
    let parts := splitBytes s old count
    (parts.intersperse new).flatten

/-- `s` without the characters satisfying `p` at its start (`leading`) and at its end
(`trailing`). -/
def trimPieces (p : Nat → Bool) (leading trailing : Bool) (s : List UInt8) : List UInt8 :=
  let ps := pieces s
  let ps := if leading then ps.dropWhile (p ·.1) else ps
  let ps := if trailing then (ps.reverse.dropWhile (p ·.1)).reverse else ps
  joinPieces ps

/-- The fields of a string: the maximal runs of characters that are not blanks. -/
def blankFields (s : List UInt8) : List (List UInt8) :=
  ((pieces s).splitBy fun a b => isBlankCode a.1 == isBlankCode b.1).filterMap fun run =>
    match run with
    | p :: _ => if isBlankCode p.1 then none else some (joinPieces run)
    | [] => none

/-- Cut characters into fields at runs of blanks, at most `most + 1` of them: once `most`
fields are cut, the next field runs to the end, blanks and all. Each field is given as its
characters. -/
def blankFieldPieces (most : Nat) (ps : List Piece) : List (List Piece) :=
  go (ps.length + 1) ps []
where
  /-- Cut one field per step, `done` holding the fields cut so far, last first; every step
  but the last consumes at least one character. -/
  go : Nat → List Piece → List (List Piece) → List (List Piece)
    | 0, _, done => done.reverse
    | fuel + 1, ps, done =>
      match ps.dropWhile (isBlankCode ·.1) with
      | [] => done.reverse
      | rest =>
        if done.length == most then (rest :: done).reverse
        else
          go fuel (rest.dropWhile (!isBlankCode ·.1))
            (rest.takeWhile (!isBlankCode ·.1) :: done)

/-- Split at runs of blanks into at most `most + 1` fields, from the start: the last field
keeps the rest of the string, trailing blanks included. -/
def splitBlank (most : Nat) (s : List UInt8) : List (List UInt8) :=
  (blankFieldPieces most (pieces s)).map joinPieces

/-- Split at runs of blanks into at most `most + 1` fields, from the end: the first field
keeps the rest of the string, leading blanks included. -/
def splitBlankFromEnd (most : Nat) (s : List UInt8) : List (List UInt8) :=
  ((blankFieldPieces most (pieces s).reverse).map fun f => joinPieces f.reverse).reverse

/-! ## Spelling suggestions -/

/-- One row of the edit-distance table: `prev` is the row for the bytes of `x` before `c`,
`left` the value just computed in the new row, `diag` the previous row's value diagonal to
the next cell. -/
def distanceRow (c : UInt8) : List UInt8 → List Nat → Nat → Nat → List Nat
  | [], _, _, _ => []
  | d :: ds, above :: rest, left, diag =>
    let k := min (diag + (if c == d then 0 else 1)) (min (left + 1) (above + 1))
    k :: distanceRow c ds rest k above
  | _ :: _, [], _, _ => []

/-- The edit distance between two byte strings. -/
def editDistance (x y : List UInt8) : Nat :=
  let first := List.range (y.length + 1)
  let last := (x.zip (List.range x.length)).foldl
    (fun row (c, i) => (i + 1) :: distanceRow c y row.tail (i + 1) row.head!) first
  last.getLast?.getD 0

/-- A name folded for comparison: no underscores, letters lowered by the simple Unicode
mapping. -/
def foldName (s : String) : String :=
  String.ofList ((s.toList.filter (· != '_')).map toLowerCase)

/-- The candidate closest to `x`, if one is close enough. -/
def nearest (x : String) (candidates : List String) : Option String :=
  let fx := (foldName x).toUTF8.toList
  let start : Nat × Option String := ((fx.length + 1) / 2, none)
  (candidates.foldl (fun (best : Nat × Option String) c =>
    let d := editDistance fx (foldName c).toUTF8.toList
    if d < best.1 then (d, some c) else best) start).2

end DecimalMachine.Text
