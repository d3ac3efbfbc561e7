import DecimalMachine.Script.Arguments
import DecimalMachine.Text.Case
import DecimalMachine.Text.Category
import DecimalMachine.Text.Search

/-!
# String methods

The methods of strings. A string is a sequence of bytes, and the methods fall into two kinds:

* those that search for a substring (`find`, `count`, `split` with a separator, `replace`,
  `partition`, …) compare bytes, and their positions are byte positions;
* those that look at characters (`upper`, `title`, `strip`, `isdigit`, `split` at blanks, …)
  read the characters off the bytes, an ill-formed byte reading as U+FFFD. A method that
  changes characters writes that byte as the three bytes of U+FFFD, and one that only cuts
  keeps it as it was.

Character classes and case forms are those of Unicode 17.0 (`Text.Category`, `Text.Case`).

`format` replaces the fields `{}`, `{0}` and `{name}` of a format string, each with an
optional conversion `!s` or `!r`; doubled braces stand for themselves.
-/

namespace DecimalMachine.Script

/-- Whether `test` holds for one of the strings of a tuple, which must hold only strings. -/
def anyAffix (name : String) (test : List UInt8 → Bool) : Nat → List Value → Except String Bool
  | _, [] => pure false
  | i, .str p :: rest => if test p then pure true else anyAffix name test (i + 1) rest
  | i, v :: _ => throw (name ++ ": want string, got " ++ v.typeName ++ ", for element " ++
      toString i)

/-- The number a field name spells when it is made of decimal digits only, computed in
signed 64-bit arithmetic: a name whose value wraps below zero on the way is no number. -/
def digitName? (name : List UInt8) : Option Nat :=
  name.foldlM (fun (x : Nat) b =>
    if b < 48 || b > 57 then none
    else
      let y := (x * 10 + (b.toNat - 48)) % 18446744073709551616
      if y ≥ 9223372036854775808 then none else some y) 0

/-- The bytes before and after the first occurrence of `b`, if there is one. -/
def cutAt (b : UInt8) (bs : List UInt8) : Option (List UInt8 × List UInt8) :=
  (bs.findIdx? (· == b)).map fun i => (bs.take i, bs.drop (i + 1))

/-- The literal text before a replacement field, with each doubled closing brace made single;
a closing brace on its own is refused. -/
def closingBraces : List UInt8 → Except String (List UInt8)
  | [] => pure []
  | 125 :: 125 :: rest => (125 :: ·) <$> closingBraces rest
  | 125 :: _ => throw "format: single '\x7d' in format"
  | b :: rest => (b :: ·) <$> closingBraces rest

/-- How `format` numbers its fields: not yet, automatically (`\x7b\x7d`), or by position. -/
inductive Numbering where
  | unset
  | automatic
  | manual
  deriving DecidableEq

/-- The replacement of one field `name!conv:spec` of a format string, given the arguments,
the numbering so far and the next automatic index. -/
def formatField (s : Store) (args : List Value) (kwargs : Keywords)
    (field : List UInt8) (numbering : Numbering) (index : Nat) :
    Except String (List UInt8 × Numbering × Nat) := do
  let (name, conv, spec) : List UInt8 × List UInt8 × List UInt8 :=
    match cutAt 33 field with
    | none =>
      match cutAt 58 field with
      | none => (field, [115], [])
      | some (n, sp) => (n, [115], sp)
    | some (n, rest) =>
      match cutAt 58 rest with
      | none => (n, rest, [])
      | some (c, sp) => (n, c, sp)
  let (arg, numbering, index) ← do
    if name.isEmpty then
      if numbering == .manual then
        throw "format: cannot switch from manual field specification to automatic field numbering"
      match args[index]? with
      | some a => pure (a, Numbering.automatic, index + 1)
      | none => throw "format: tuple index out of range"
    else match digitName? name with
      | some k =>
        if numbering == .automatic then
          throw "format: cannot switch from automatic field numbering to manual field specification"
        match args[k]? with
        | some a => pure (a, Numbering.manual, index)
        | none => throw "format: tuple index out of range"
      | none =>
        match kwargs.find? (fun kv => kv.1 == name) with
        | some (_, a) => pure (a, numbering, index)
        | none =>
          let shown := Text.lossy name
          if name.contains 46 then
            throw ("format: attribute syntax x.y is not supported in replacement fields: " ++ shown)
          else if name.contains 91 then
            throw ("format: element syntax a[i] is not supported in replacement fields: " ++ shown)
          else if name.contains 123 then
            throw "format: nested replacement fields not supported"
          else throw ("format: keyword " ++ shown ++ " not found")
  if !spec.isEmpty then
    throw ("format spec features not supported in replacement fields: " ++ Text.lossy spec)
  let out ← match conv with
    | [115] => pure (s.textBytes arg)
    | [114] => pure (Text.utf8 (s.repr arg))
    | _ => throw ("format: unknown conversion " ++ Text.quotedBytes conv)
  pure (out, numbering, index)

/-- `format`: the format string with each replacement field replaced by its argument. Every
step consumes an opening brace, so `fuel` above the length of the text suffices. -/
def formatText (s : Store) (args : List Value) (kwargs : Keywords) :
    Nat → List UInt8 → Numbering → Nat → Except String (List UInt8)
  | 0, _, _, _ => pure []
  | fuel + 1, bs, numbering, index => do
    let literal := bs.takeWhile (· != 123)
    let rest := bs.dropWhile (· != 123)
    let text ← closingBraces literal
    match rest with
    | [] => pure text
    | _ :: 123 :: more =>
      ((text ++ [123]) ++ ·) <$> formatText s args kwargs fuel more numbering index
    | _ :: more =>
      if !more.contains 125 then throw "format: unmatched '\x7b' in format"
      let field := more.takeWhile (· != 125)
      let (out, numbering, index) ← formatField s args kwargs field numbering index
      ((text ++ out) ++ ·) <$>
        formatText s args kwargs fuel ((more.dropWhile (· != 125)).drop 1) numbering index

/-- Whether a string is not empty and all its characters satisfy `p`. -/
def allCharacters (p : Char → Bool) (s : List UInt8) : Bool :=
  !s.isEmpty && (Text.characters s).all p

/-- Whether a string is in title case: it has a cased character, an ASCII upper-case or a
title-case character follows no cased one, a lower-case character follows a cased one, and
no other upper-case character occurs. -/
def isTitled (s : List UInt8) : Bool :=
  go false false (Text.characters s)
where
  /-- Read the characters, knowing whether a cased one was seen and whether the last one
  was cased. -/
  go (cased afterCased : Bool) : List Char → Bool
    | [] => cased
    | c :: cs =>
      if ('A' ≤ c && c ≤ 'Z') || Text.isTitleCase c then
        if afterCased then false else go true true cs
      else if Text.isLowerCase c then
        if !afterCased then false else go true true cs
      else if Text.isUpperCase c then false
      else go cased false cs

/-- The string methods. -/
def stringMethod (name : String) (recv : List UInt8) (args : List Value)
    (kwargs : Keywords) : Run Value := do
  let noArgs : Run Unit := Run.check (unpackPositional name args kwargs 0 [])
  let arg (i : Nat) : Value := args.getD i .none
  match name with
  | "upper" => noArgs; pure (.str (Text.mapCharacters Text.toUpperCase recv))
  | "lower" => noArgs; pure (.str (Text.mapCharacters Text.toLowerCase recv))
  | "capitalize" =>
    noArgs
    match Text.characters recv with
    | [] => pure (.str [])
    | c :: cs => pure (.str (Text.encodeAll (Text.toTitleCase c :: cs.map Text.toLowerCase)))
  | "title" =>
    noArgs
    pure (.str (Text.encodeAll (Text.titleCase (Text.characters recv))))
  | "strip" | "lstrip" | "rstrip" =>
    Run.check (unpackPositional name args kwargs 0 [wantString])
    let chars := (arg 0).stringBytes
    let leading := name != "rstrip"
    let trailing := name != "lstrip"
    if chars.isEmpty then pure (.str (Text.trimPieces Text.isBlankCode leading trailing recv))
    else
      let cut := Text.codePoints chars
      pure (.str (Text.trimPieces cut.contains leading trailing recv))
  | "isdigit" => noArgs; pure (.bool (allCharacters Text.isDecimalDigit recv))
  | "isalpha" => noArgs; pure (.bool (allCharacters Text.isLetter recv))
  | "isalnum" =>
    noArgs
    pure (.bool (allCharacters (fun c => Text.isLetter c || Text.isDecimalDigit c) recv))
  | "isspace" => noArgs; pure (.bool (allCharacters Text.isBlank recv))
  | "islower" =>
    noArgs
    pure (.bool ((Text.characters recv).any Text.isCased &&
      Text.mapCharacters Text.toLowerCase recv == recv))
  | "isupper" =>
    noArgs
    pure (.bool ((Text.characters recv).any Text.isCased &&
      Text.mapCharacters Text.toUpperCase recv == recv))
  | "istitle" => noArgs; pure (.bool (isTitled recv))
  | "join" =>
    Run.check (unpackPositional name args kwargs 1 [wantIterable])
    let items := (← Run.items? (arg 0)).getD []
    let parts ← items.mapM fun
      | .str s => pure s
      | v => throw ("join: in list, want string, got " ++ v.typeName)
    pure (.str (parts.intersperse recv).flatten)
  | "find" | "rfind" | "index" | "rindex" | "count" =>
    Run.check (unpackPositional name args kwargs 1 [wantString, wantAny, wantAny])
    let sub := (arg 0).stringBytes
    let (a, b) ← match clampedRange recv.length (arg 1) (arg 2) with
      | .ok r => pure r
      | .error e => throw (name ++ ": " ++ e)
    let slice := if a < b then (recv.drop a).take (b - a) else []
    if name == "count" then pure (.int (Text.countBytes slice sub))
    else
      let found := if name == "find" || name == "index" then Text.findBytes slice sub 0
        else Text.lastFindBytes slice sub
      match found with
      | some i => pure (.int (i + a))
      | none =>
        if name == "index" || name == "rindex" then throw (name ++ ": substring not found")
        else pure (.int (-1))
  | "startswith" | "endswith" =>
    Run.check (unpackPositional name args kwargs 1 [wantAny, wantAny, wantAny])
    let (a, b) ← match clampedRange recv.length (arg 1) (arg 2) with
      | .ok r => pure r
      | .error e => throw (name ++ ": " ++ e)
    let slice := if a < b then (recv.drop a).take (b - a) else []
    let test (p : List UInt8) : Bool :=
      if name == "startswith" then slice.take p.length == p
      else slice.length ≥ p.length && slice.drop (slice.length - p.length) == p
    match arg 0 with
    | .str p => pure (.bool (test p))
    | .tuple ps => pure (.bool (← Run.check (anyAffix name test 0 ps)))
    | v => throw (name ++ ": got " ++ v.typeName ++ ", want string or tuple of string")
  | "replace" =>
    Run.check (unpackPositional name args kwargs 2 [wantString, wantString, wantInt])
    let count := if args.length > 2 then (arg 2).intValue else -1
    pure (.str (Text.replaceBytes recv (arg 0).stringBytes (arg 1).stringBytes
      (if count < 0 then none else some count.toNat)))
  | "split" | "rsplit" =>
    Run.check (unpackPositional name args kwargs 0 [wantAny, wantInt])
    let limit := if args.length > 1 then (arg 1).intValue else -1
    let parts ← match arg 0 with
      | .none =>
        if limit < 0 then pure (Text.blankFields recv)
        else if name == "split" then pure (Text.splitBlank limit.toNat recv)
        else pure (Text.splitBlankFromEnd limit.toNat recv)
      | .str sep =>
        if sep.isEmpty then throw "split: empty separator"
        let all := Text.splitBytes recv sep none
        if limit < 0 then pure all
        else if name == "split" then pure (Text.splitBytes recv sep (some limit.toNat))
        else if limit.toNat < all.length then
          let excess := all.length - limit.toNat
          pure (((all.take excess).intersperse sep).flatten :: all.drop excess)
        else pure all
      | v => throw ("split: got " ++ v.typeName ++ " for separator, want string")
    Run.newList (parts.map .str)
  | "splitlines" =>
    Run.check (unpackPositional name args kwargs 0 [wantBool])
    let keep := (arg 0).boolValue
    if recv.isEmpty then Run.newList []
    else
      let parts := Text.splitBytes recv [10] none
      let parts := if keep then (parts.dropLast.map (· ++ [10])) ++ [parts.getLastD []]
        else parts
      let parts := if recv.getLast? == some 10 then parts.dropLast else parts
      Run.newList (parts.map .str)
  | "partition" | "rpartition" =>
    Run.check (unpackPositional name args kwargs 1 [wantString])
    let sep := (arg 0).stringBytes
    if sep.isEmpty then throw (name ++ ": empty separator")
    let found := if name == "partition" then Text.findBytes recv sep 0
      else Text.lastFindBytes recv sep
    match found with
    | some i => pure (.tuple [.str (recv.take i), .str sep, .str (recv.drop (i + sep.length))])
    | none =>
      if name == "partition" then pure (.tuple [.str recv, .str [], .str []])
      else pure (.tuple [.str [], .str [], .str recv])
  | "removeprefix" | "removesuffix" =>
    Run.check (unpackPositional name args kwargs 1 [wantString])
    let x := (arg 0).stringBytes
    if name == "removeprefix" then
      pure (.str (if recv.take x.length == x then recv.drop x.length else recv))
    else
      pure (.str (if recv.length ≥ x.length && recv.drop (recv.length - x.length) == x
        then recv.take (recv.length - x.length) else recv))
  | "elems" => noArgs; pure (.view .elems recv)
  | "elem_ords" => noArgs; pure (.view .elemOrds recv)
  | "codepoints" => noArgs; pure (.view .codepoints recv)
  | "codepoint_ords" => noArgs; pure (.view .codepointOrds recv)
  | "format" =>
    pure (.str (← Run.check (formatText (← Run.store) args kwargs (recv.length + 1) recv .unset 0)))
  | _ => throw ("string has no ." ++ name ++ " field or method")

end DecimalMachine.Script
