import DecimalMachine.Text.Category
import DecimalMachine.Text.Utf8

/-!
# Quoted strings

Diagnostics and the `repr` of strings show text in double quotes. Inside the quotes a double
quote and a backslash are escaped, printable characters (the space and the graphic
characters) stand for themselves, the usual control characters get their one-letter escapes
(`\n`, `\t`, …), other ASCII controls are written `\xHH`, and the remaining characters
`\uHHHH` (or `\UHHHHHHHH` above the basic plane). A byte that starts no well-formed UTF-8
sequence is written `\xHH`.
-/

namespace DecimalMachine.Text

/-- Lower-case hexadecimal digits of `n`, zero-padded to `width` places. -/
def hexPadded (width : Nat) (n : Nat) : String :=
  let ds := Nat.toDigits 16 n
  String.ofList (List.replicate (width - ds.length) '0' ++ ds)

/-- The escaped form of one character inside double quotes. -/
def escapeChar (c : Char) : String :=
  let n := c.toNat
  if c == '"' then "\\\""
  else if c == '\\' then "\\\\"
  else if isPrintable c then c.toString
  else if n == 7 then "\\a"
  else if n == 8 then "\\b"
  else if n == 12 then "\\f"
  else if c == '\n' then "\\n"
  else if c == '\r' then "\\r"
  else if c == '\t' then "\\t"
  else if n == 11 then "\\v"
  else if n < 0x20 || n == 0x7F then "\\x" ++ hexPadded 2 n
  else if n < 0x10000 then "\\u" ++ hexPadded 4 n
  else "\\U" ++ hexPadded 8 n

/-- A character in single quotes: a single quote and a backslash are escaped, a double quote
stands for itself, and the rest is escaped as inside double quotes. -/
def quotedChar (c : Char) : String :=
  let body := if c == '\'' then "\\'" else if c == '"' then "\"" else escapeChar c
  "'" ++ body ++ "'"

/-- The escaped form of one character read from bytes: an ill-formed byte as `\xHH`. -/
def escapePiece (p : Piece) : String :=
  if isIllFormed p then "\\x" ++ hexPadded 2 ((p.2.headD 0).toNat)
  else escapeChar (Char.ofNat p.1)

/-- Bytes in double quotes, with special characters and ill-formed bytes escaped. -/
def quotedBytes (bs : List UInt8) : String :=
  "\"" ++ String.join ((pieces bs).map escapePiece) ++ "\""

/-- A string in double quotes with its special characters escaped. -/
def quoted (s : String) : String :=
  quotedBytes (utf8 s)

end DecimalMachine.Text
