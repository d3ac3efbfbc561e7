import DecimalMachine.Script.Token
import DecimalMachine.Text.Binary64
import DecimalMachine.Text.Category
import DecimalMachine.Text.Quoted

/-!
# Reading tokens

The scanner turns source text into tokens, one at a time, the way the parser asks for them.

* Columns count characters; a carriage return, alone or before a line feed, ends a line.
* Spaces and tabs separate tokens; `#` starts a comment that runs to the end of the line.
* Outside a string literal, a NUL character ends the text.
* Inside brackets, line ends are ignored; outside them a line end is a `newline` token, and
  the indentation of the next non-blank line yields `indent` and `outdent` tokens.
* A backslash must be followed by a line end, which it joins to the next line.
* Numbers: decimal, `0x`, `0o`, `0b` integers of any size; a leading zero must be followed
  only by zeros (`017` is refused with a hint to write `0o17`); floats with a point or an
  exponent. A number stops at the first character that cannot continue it, so `1_000` reads
  as `1` followed by the name `_000`.
* Strings in single or double quotes, tripled for several lines, with an `r` prefix for raw
  text and a `b` prefix for bytes; escapes are decoded as the language defines.

`tokenize` returns the tokens up to the end of the text, or up to the first character that
cannot be read, together with the failure it raises. The parser fails with that failure
only when it asks for the token after the last one.
-/

namespace DecimalMachine.Script

/-- Whether a character may start a name: a letter (general category `L`) or `_`. -/
def isNameStart (c : Char) : Bool :=
  if c.toNat < 0x80 then c.isAlpha || c == '_' else Text.isLetter c

/-- Whether a character may continue a name: a letter, `_` or an ASCII digit. -/
def isNameChar (c : Char) : Bool :=
  isNameStart c || c.isDigit

/-- Join carriage-return line ends into line feeds: a carriage return alone or before a line
feed is one line end. -/
def joinLineEnds : List Char → List Char
  | [] => []
  | '\r' :: '\n' :: cs => '\n' :: joinLineEnds cs
  | '\r' :: cs => '\n' :: joinLineEnds cs
  | c :: cs => c :: joinLineEnds cs

/-- The state of the scanner. -/
structure Scanner where
  /-- The name of the text. -/
  file : String
  /-- The characters not yet read. -/
  rest : List Char
  /-- The line of the next character. -/
  line : Nat := 1
  /-- The column of the next character. -/
  col : Nat := 1
  /-- How many brackets are open. -/
  depth : Nat := 0
  /-- The indentation levels of the enclosing blocks, innermost first. -/
  indents : List Nat := [0]
  /-- Indentation tokens still to emit: positive for indents, negative for outdents. -/
  dents : Int := 0
  /-- Whether the next character starts a line. -/
  lineStart : Bool := true
  deriving Inhabited

namespace Scanner

/-- The position of the next character. -/
def pos (s : Scanner) : Position :=
  ⟨s.file, s.line, s.col⟩

/-- The next character, if any. -/
def peek (s : Scanner) : Option Char :=
  s.rest.head?

/-- Whether the text ends here: no character is left, or the next one is NUL. Outside a
string literal a NUL ends the text, whatever follows it. -/
def atEnd (s : Scanner) : Bool :=
  match s.rest with
  | [] => true
  | c :: _ => c == '\x00'

/-- The character after the next one, if any. -/
def peek2 (s : Scanner) : Option Char :=
  (s.rest.drop 1).head?

/-- Move past the next character. -/
def advance (s : Scanner) : Scanner :=
  match s.rest with
  | [] => s
  | c :: cs =>
    if c == '\n' then { s with rest := cs, line := s.line + 1, col := 1 }
    else { s with rest := cs, col := s.col + 1 }

/-- Move past characters while `p` holds, collecting them. -/
def takeWhile (p : Char → Bool) (s : Scanner) : List Char × Scanner :=
  let taken := s.rest.takeWhile p
  (taken, { s with rest := s.rest.drop taken.length, col := s.col + taken.length })

/-- Measure the indentation at the start of a line: a space counts one column, a tab moves to
the next multiple of eight. -/
def indentation (s : Scanner) : Nat × Scanner :=
  go 0 s.rest.length s
where
  /-- Count indentation columns, reading at most `fuel` characters. -/
  go : Nat → Nat → Scanner → Nat × Scanner
    | w, 0, s => (w, s)
    | w, fuel + 1, s =>
      match s.peek with
      | some ' ' => go (w + 1) fuel s.advance
      | some '\t' => go (w + 8 - (s.col - 1) % 8) fuel s.advance
      | _ => (w, s)

/-- A failure at a position. -/
def fail {α : Type} (p : Position) (msg : String) : Except Failure α :=
  .error (.malformed p msg)

end Scanner

/-- The escape letters of strings, as bytes, and the bytes they stand for. -/
def escapeOf? (b : UInt8) : Option UInt8 :=
  match b.toNat with
  | 0x61 => some 7 | 0x62 => some 8 | 0x66 => some 12 | 0x6E => some 10 | 0x72 => some 13
  | 0x74 => some 9 | 0x76 => some 11 | 0x5C => some 0x5C | 0x27 => some 0x27 | 0x22 => some 0x22
  | _ => none

/-- Lower- or upper-case hexadecimal digit value. -/
def hexDigit? (c : Char) : Option Nat :=
  if '0' ≤ c && c ≤ '9' then some (c.toNat - '0'.toNat)
  else if 'a' ≤ c && c ≤ 'f' then some (c.toNat - 'a'.toNat + 10)
  else if 'A' ≤ c && c ≤ 'F' then some (c.toNat - 'A'.toNat + 10)
  else none

/-- The value of a hexadecimal digit byte, either case. -/
def hexByte? (b : UInt8) : Option Nat :=
  let n := b.toNat
  if 0x30 ≤ n && n ≤ 0x39 then some (n - 0x30)
  else if 0x61 ≤ n && n ≤ 0x66 then some (n - 0x61 + 10)
  else if 0x41 ≤ n && n ≤ 0x46 then some (n - 0x41 + 10)
  else none

/-- The value of a run of hexadecimal digit bytes. -/
def hexValue? (bs : List UInt8) : Option Nat :=
  bs.foldl (fun acc b => do let v ← acc; let d ← hexByte? b; pure (v * 16 + d)) (some 0)

/-- Whether a byte is an octal digit. -/
def isOctalByte (b : UInt8) : Bool :=
  0x30 ≤ b.toNat && b.toNat ≤ 0x37

/-- Upper-case hexadecimal text of `n`, zero-padded to `width`. -/
def hexUpper (width : Nat) (n : Nat) : String :=
  let ds := (Nat.toDigits 16 n).map Char.toUpper
  String.ofList (List.replicate (width - ds.length) '0' ++ ds)

/-- Octal text of `n`, zero-padded to `width`. -/
def octal (width : Nat) (n : Nat) : String :=
  let ds := Nat.toDigits 8 n
  String.ofList (List.replicate (width - ds.length) '0' ++ ds)

/-- The UTF-8 bytes of a character. -/
def utf8Bytes (c : Char) : List UInt8 :=
  (String.singleton c).toUTF8.toList

/-- Whether a list has at least `k` elements. -/
def hasAtLeast {α : Type} (k : Nat) (xs : List α) : Bool :=
  (xs.take k).length == k

/-- Decode the body of a string literal (without quotes), given as its UTF-8 bytes. `raw`
keeps backslashes; `bytes` allows escapes of bytes above 127. Escapes are read byte by byte:
whether an escape is cut short depends on the bytes left in the literal, and a diagnostic
quotes the bytes of the escape, even when they cut a character in two. -/
def unescape (raw bytes : Bool) : Nat → List UInt8 → Except String (List UInt8)
  | 0, _ => .ok []
  | _ + 1, [] => .ok []
  | fuel + 1, 13 :: 10 :: cs => (10 :: ·) <$> unescape raw bytes fuel cs
  | fuel + 1, 13 :: cs => (10 :: ·) <$> unescape raw bytes fuel cs
  | fuel + 1, 0x5C :: cs =>
    if raw then (0x5C :: ·) <$> unescape raw bytes fuel cs
    else
      let q := 0x5C :: cs
      match cs with
      | [] => .error "truncated escape sequence \\"
      | 10 :: rest => unescape raw bytes fuel rest
      | e :: rest =>
        match escapeOf? e with
        | some b => (b :: ·) <$> unescape raw bytes fuel rest
        | none =>
          if isOctalByte e then
            let more := (rest.take 2).takeWhile isOctalByte
            let n := (e :: more).foldl (fun v d => v * 8 + (d.toNat - 0x30)) 0
            let rest := rest.drop more.length
            if !bytes && n > 127 then
              .error ("non-ASCII octal escape \\" ++ octal 0 n ++ " (use \\u" ++ hexUpper 4 n ++
                " for the UTF-8 encoding of U+" ++ hexUpper 4 n ++ ")")
            else if n ≥ 256 then .error ("invalid escape sequence \\" ++ octal 3 n)
            else (n.toUInt8 :: ·) <$> unescape raw bytes fuel rest
          else if e == 0x78 then
            if !hasAtLeast 4 q then .error ("truncated escape sequence " ++ Text.lossy q)
            else
              let seq := Text.lossy (q.take 4)
              match hexValue? (rest.take 2) with
              | none => .error ("invalid escape sequence " ++ seq)
              | some n =>
                if !bytes && n > 127 then
                  .error ("non-ASCII hex escape " ++ seq ++ " (use \\u" ++ hexUpper 4 n ++
                    " for the UTF-8 encoding of U+" ++ hexUpper 4 n ++ ")")
                else (n.toUInt8 :: ·) <$> unescape raw bytes fuel (rest.drop 2)
          else if e == 0x75 || e == 0x55 then
            let size := if e == 0x75 then 6 else 10
            if !hasAtLeast size q then .error ("truncated escape sequence " ++ Text.lossy q)
            else
              let seq := Text.lossy (q.take size)
              match hexValue? (rest.take (size - 2)) with
              | none => .error ("invalid escape sequence " ++ seq)
              | some n =>
                if n > 0x10FFFF then
                  .error ("code point out of range: " ++ seq ++ " (max \\U" ++
                    Text.hexPadded 8 n ++ ")")
                else if 0xD800 ≤ n && n < 0xE000 then
                  .error ("invalid Unicode code point U+" ++ hexUpper 4 n)
                else
                  (utf8Bytes (Char.ofNat n) ++ ·) <$> unescape raw bytes fuel (rest.drop (size - 2))
          else .error ("invalid escape sequence \\" ++ (Char.ofNat e.toNat).toString)
  | fuel + 1, c :: cs => (c :: ·) <$> unescape raw bytes fuel cs

namespace Scanner

/-- Read a string literal whose opening quote is next; `start` is where the token (and its
prefix) begins. -/
def scanString (s : Scanner) (start : Position) (rawPrefix bytesPrefix : Bool) :
    Except Failure (Token × Scanner) :=
  let quotePos := s.pos
  match s.peek with
  | none => fail start "unexpected EOF in string"
  | some q =>
    let triple := s.rest.take 3 == [q, q, q]
    let s := s.advance
    let body : Except Failure (List Char × Scanner) :=
      if !triple then single q [] s s.rest.length
      else tripled q [] 0 (s.advance.advance) s.rest.length
    match body with
    | .error e => .error e
    | .ok (chars, s') =>
      let body := Text.encodeAll chars
      match unescape rawPrefix bytesPrefix (body.length + 1) body with
      | .error msg => fail quotePos msg
      | .ok bs =>
        let raw := (if rawPrefix then "r" else "") ++ (if bytesPrefix then "b" else "") ++
          String.ofList (List.replicate (if triple then 3 else 1) q) ++ String.ofList chars ++
          String.ofList (List.replicate (if triple then 3 else 1) q)
        let value : Literal :=
          if bytesPrefix then .bytes bs
          else .string (String.fromUTF8? (ByteArray.mk bs.toArray) |>.getD "")
        .ok ({ kind := if bytesPrefix then .bytes else .string, text := raw, value,
               pos := start, stop := s'.pos }, s')
where
  /-- The body of a one-line string up to its closing quote. -/
  single (q : Char) (acc : List Char) (s : Scanner) : Nat → Except Failure (List Char × Scanner)
    | 0 => fail start "unexpected EOF in string"
    | fuel + 1 =>
      match s.peek with
      | none => fail start "unexpected EOF in string"
      | some c =>
        let s := s.advance
        if c == q then .ok (acc.reverse, s)
        else if c == '\n' then fail start "unexpected newline in string"
        else if c == '\\' then
          match s.peek with
          | none => fail start "unexpected EOF in string"
          | some d => single q (d :: c :: acc) s.advance fuel
        else single q (c :: acc) s fuel
  /-- The body of a three-quote string up to its closing quotes; `run` counts quotes seen. -/
  tripled (q : Char) (acc : List Char) (run : Nat) (s : Scanner) :
      Nat → Except Failure (List Char × Scanner)
    | 0 => fail start "unexpected EOF in string"
    | fuel + 1 =>
      match s.peek with
      | none => fail start "unexpected EOF in string"
      | some c =>
        let s := s.advance
        if c == q then
          if run + 1 == 3 then .ok ((acc.drop 2).reverse, s)
          else tripled q (c :: acc) (run + 1) s fuel
        else if c == '\\' then
          match s.peek with
          | none => fail start "unexpected EOF in string"
          | some d => tripled q (d :: c :: acc) 0 s.advance fuel
        else tripled q (c :: acc) 0 s fuel

/-- The value of a digit run in a base, as read by the language: underscores are not digits. -/
def digitsIn (base : Nat) (cs : List Char) : Option Nat :=
  if cs.isEmpty then none
  else cs.foldl (fun acc c => do
    let v ← acc
    let d ← hexDigit? c
    if d < base then pure (v * base + d) else none) (some 0)

/-- The double a float literal's text spells, when it is finite. -/
def floatValue? (cs : List Char) : Option Float :=
  match Text.readFloat? (String.ofList cs) with
  | some f => if f.isInf then none else some f
  | none => none

/-- Read a number (or a lone `.`) that starts at the next character. -/
def scanNumber (s : Scanner) : Except Failure (Token × Scanner) :=
  let start := s.pos
  let finish (s' : Scanner) (kind : Kind) (value : Literal) : Except Failure (Token × Scanner) :=
    let text := String.ofList (s.rest.take (s.rest.length - s'.rest.length))
    .ok ({ kind, text, value, pos := start, stop := s'.pos }, s')
  let isDigit (c : Char) : Bool := c.isDigit
  let isOct (c : Char) : Bool := '0' ≤ c && c ≤ '7'
  let isBin (c : Char) : Bool := c == '0' || c == '1'
  let isHex (c : Char) : Bool := (hexDigit? c).isSome
  -- the fraction and exponent that may follow the integer part
  let tail (s' : Scanner) (fraction exponent : Bool) : Except Failure (Token × Scanner) :=
    let (s', exponent) :=
      if fraction then
        let (_, s'') := (s'.advance).takeWhile isDigit
        (s'', exponent || s''.peek == some 'e' || s''.peek == some 'E')
      else (s', exponent)
    let result : Except Failure Scanner :=
      if exponent then
        let s'' := s'.advance
        match s''.peek with
        | some '+' | some '-' =>
          let s3 := s''.advance
          if s3.peek.any isDigit then .ok (s3.takeWhile isDigit).2
          else fail s3.pos "invalid float literal"
        | _ => .ok (s''.takeWhile isDigit).2
      else .ok s'
    match result with
    | .error e => .error e
    | .ok s' =>
      let text := s.rest.take (s.rest.length - s'.rest.length)
      if fraction || exponent then
        match floatValue? text with
        | some f => finish s' .float (.float f)
        | none => fail s'.pos "invalid float literal"
      else
        -- octal and binary literals must fit in 64 bits; a leading zero reads the rest as octal
        let fits (v : Option Nat) : Option Nat := v.filter (· < 9223372036854775808)
        let value : Option Nat :=
          match text with
          | '0' :: c :: ds =>
            if c == 'x' || c == 'X' then digitsIn 16 ds
            else if c == 'o' || c == 'O' then fits (digitsIn 8 ds)
            else if c == 'b' || c == 'B' then fits (digitsIn 2 ds)
            else digitsIn 8 (c :: ds)
          | _ => digitsIn 10 text
        match value with
        | some n => finish s' .int (.int n)
        | none => fail start "invalid int literal"
  match s.peek with
  | some '.' =>
    let s1 := s.advance
    if s1.peek.any isDigit then tail s true false
    else finish s1 .dot .none
  | some '0' =>
    let s1 := s.advance
    match s1.peek with
    | some '.' => tail s1 true false
    | some c =>
      if c == 'x' || c == 'X' then
        let s2 := s1.advance
        if !(s2.peek.any isHex) then fail start "invalid hex literal"
        else tail (s2.takeWhile isHex).2 false false
      else if c == 'o' || c == 'O' then
        let s2 := s1.advance
        if !(s2.peek.any isOct) then fail s2.pos "invalid octal literal"
        else tail (s2.takeWhile isOct).2 false false
      else if c == 'b' || c == 'B' then
        let s2 := s1.advance
        if !(s2.peek.any isBin) then fail s2.pos "invalid binary literal"
        else tail (s2.takeWhile isBin).2 false false
      else
        let (ds, s2) := s1.takeWhile isDigit
        let allZeros := ds.all (· == '0')
        let octalOnly := ds.all isOct
        match s2.peek with
        | some '.' => tail s2 true false
        | some 'e' | some 'E' => tail s2 false true
        | _ =>
          if octalOnly && !allZeros then
            fail s2.pos ("obsolete form of octal literal; use 0o" ++ String.ofList ds)
          else tail s2 false false
    | none => tail s1 false false
  | _ =>
    let (_, s1) := s.takeWhile isDigit
    match s1.peek with
    | some '.' => tail s1 true false
    | some 'e' | some 'E' => tail s1 false true
    | _ => tail s1 false false

/-- The token for an operator character `c` that is next, with what may follow it. -/
def scanOperator (s : Scanner) (c : Char) : Except Failure (Token × Scanner) :=
  let start := s.pos
  let emit (s' : Scanner) (kind : Kind) : Except Failure (Token × Scanner) :=
    .ok ({ kind, text := kind.symbol, pos := start, stop := s'.pos }, s')
  let s1 := s.advance
  if s1.peek == some '=' && "<>=!+-/%&|^~".toList.contains c then
    let s2 := s1.advance
    match c with
    | '<' => emit s2 .le | '>' => emit s2 .ge | '=' => emit s2 .eql | '!' => emit s2 .neq
    | '+' => emit s2 .plusEq | '-' => emit s2 .minusEq | '/' => emit s2 .slashEq
    | '%' => emit s2 .percentEq | '&' => emit s2 .ampEq | '|' => emit s2 .pipeEq
    | '^' => emit s2 .caretEq
    | _ => emit s2 .tilde
  else
    match c with
    | '=' => emit s1 .eq
    | '<' =>
      if s1.peek == some '<' then
        let s2 := s1.advance
        if s2.peek == some '=' then emit s2.advance .ltltEq else emit s2 .ltlt
      else emit s1 .lt
    | '>' =>
      if s1.peek == some '>' then
        let s2 := s1.advance
        if s2.peek == some '=' then emit s2.advance .gtgtEq else emit s2 .gtgt
      else emit s1 .gt
    | '!' => fail start "unexpected input character '!'"
    | '+' => emit s1 .plus
    | '-' => emit s1 .minus
    | '/' =>
      if s1.peek == some '/' then
        let s2 := s1.advance
        if s2.peek == some '=' then emit s2.advance .slashslashEq else emit s2 .slashslash
      else emit s1 .slash
    | '%' => emit s1 .percent
    | '&' => emit s1 .amp
    | '|' => emit s1 .pipe
    | '^' => emit s1 .caret
    | '~' => emit s1 .tilde
    | ':' => emit s1 .colon
    | ';' => emit s1 .semi
    | '*' =>
      if s1.peek == some '*' then emit s1.advance .starstar
      else if s1.peek == some '=' then emit s1.advance .starEq
      else emit s1 .star
    | _ => fail start ("unexpected input character " ++ Text.quotedChar c)

/-- Read the next token. `fuel` bounds the lines and comments skipped before it. -/
def next : Nat → Scanner → Except Failure (Token × Scanner)
  | 0, s => fail s.pos "input too deeply nested"
  | fuel + 1, s₀ =>
    let savedLineStart := s₀.lineStart
    -- indentation at the start of a line
    let indented : Except Failure (Bool × Scanner) :=
      if s₀.lineStart then
        let (width, s) := s₀.indentation
        let blank := s.peek == some '#' || s.peek == some '\n' || s.atEnd
        if !blank && s.depth == 0 then
          let cur := s.indents.headD 0
          if width > cur then .ok (blank, { s with dents := s.dents + 1, indents := width :: s.indents, lineStart := false })
          else if width < cur then
            let kept := s.indents.dropWhile (width < ·)
            let popped := s.indents.length - kept.length
            if kept.headD 0 != width then fail s.pos "unindent does not match any outer indentation level"
            else .ok (blank, { s with dents := s.dents - popped, indents := kept, lineStart := false })
          else .ok (blank, { s with lineStart := false })
        else .ok (blank, { s with lineStart := false })
      else .ok (false, s₀)
    match indented with
    | .error e => .error e
    | .ok (blank, s) =>
      if s.dents < 0 then
        .ok ({ kind := .outdent, pos := s.pos, stop := s.pos }, { s with dents := s.dents + 1 })
      else if s.dents > 0 then
        .ok ({ kind := .indent, pos := s.pos, stop := s.pos }, { s with dents := s.dents - 1 })
      else
        let s := (s.takeWhile fun c => c == ' ' || c == '\t').2
        let s := if s.peek == some '#' then (s.takeWhile fun c => c != '\n' && c != '\x00').2 else s
        match if s.atEnd then none else s.peek with
        | some '\n' =>
          let s := { s with lineStart := true }
          if blank || s.depth > 0 then next fuel s.advance
          else
            let s' := s.advance
            .ok ({ kind := .newline, text := "\n", pos := s.pos, stop := s'.pos }, s')
        | none =>
          if s.indents.length > 1 then
            if savedLineStart then
              next fuel { s with dents := 1 - (s.indents.length : Int), indents := [s.indents.getLastD 0] }
            else
              .ok ({ kind := .newline, text := "\n", pos := s.pos, stop := s.pos }, { s with lineStart := true })
          else .ok ({ kind := .eof, pos := s.pos, stop := s.pos }, s)
        | some '\\' =>
          let s1 := s.advance
          if s1.peek != some '\n' then fail s1.pos "stray backslash in program"
          else next fuel s1.advance
        | some c =>
          let start := s.pos
          if c == ',' then
            let s' := s.advance
            .ok ({ kind := .comma, text := ",", pos := start, stop := s'.pos }, s')
          else if c == '"' || c == '\'' then scanString s start false false
          else if isNameStart c then
            let q1 := s.peek2
            let q2 := (s.rest.drop 2).head?
            let isQuote (o : Option Char) : Bool := o == some '"' || o == some '\''
            if (c == 'r' || c == 'b') && isQuote q1 then
              scanString s.advance start (c == 'r') (c == 'b')
            else if c == 'r' && q1 == some 'b' && isQuote q2 then
              scanString s.advance.advance start true true
            else
              let (name, s') := s.takeWhile isNameChar
              let text := String.ofList name
              match Kind.keyword? text with
              | some k => .ok ({ kind := k, text, pos := start, stop := s'.pos }, s')
              | none => .ok ({ kind := .ident, text, pos := start, stop := s'.pos }, s')
          else if c == '(' || c == '[' || c == '{' then
            let s' := { s.advance with depth := s.depth + 1 }
            let kind := if c == '(' then Kind.lparen else if c == '[' then .lbrack else .lbrace
            .ok ({ kind, text := c.toString, pos := start, stop := s'.pos }, s')
          else if c == ')' || c == ']' || c == '}' then
            if s.depth == 0 then fail start ("unexpected " ++ Text.quotedChar c)
            else
              let s' := { s.advance with depth := s.depth - 1 }
              let kind := if c == ')' then Kind.rparen else if c == ']' then .rbrack else .rbrace
              .ok ({ kind, text := c.toString, pos := start, stop := s'.pos }, s')
          else if c.isDigit || c == '.' then scanNumber s
          else scanOperator s c

end Scanner

/-- Read all tokens of a text. The list ends with the end-of-file token, or stops before the
first unreadable token, whose failure is returned beside the list. -/
def tokenize (file : String) (text : String) : Array Token × Option Failure :=
  let chars := joinLineEnds text.toList
  let s : Scanner := { file, rest := chars }
  go (chars.length + 2) (chars.length + 8) s #[]
where
  /-- Read tokens; `budget` bounds their number. -/
  go (skip : Nat) : Nat → Scanner → Array Token → Array Token × Option Failure
    | 0, _, acc => (acc, some (.malformed ⟨file, 0, 0⟩ "input too long"))
    | budget + 1, s, acc =>
      match s.next skip with
      | .error e => (acc, some e)
      | .ok (t, s') =>
        if t.kind == .eof then (acc.push t, none) else go skip budget s' (acc.push t)

end DecimalMachine.Script
