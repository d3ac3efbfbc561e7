/-!
# UTF-8 bytes

Strings of the expression language are sequences of bytes. They are UTF-8 as written, but
cutting one at a byte position can split a character, so every operation that reads
characters follows one rule: a well-formed sequence (its shortest form, no surrogate, at most
U+10FFFF) is one character, and a byte that starts no well-formed sequence is read on its own
as the replacement character U+FFFD.

* `decodeFront` reads the character at the front of a byte sequence and its length;
* `pieces` cuts a sequence into its characters, each with its bytes;
* `lossy` is the text of a sequence with each ill-formed byte replaced, as messages show it;
* `mapCharacters` maps every character, and `transcode` makes a sequence well-formed.

An ill-formed byte is told from a written U+FFFD by its width: the written character takes
three bytes (`isIllFormed`). An ASCII byte is always a character by itself
(`decodeFront_ascii`).
-/

namespace DecimalMachine.Text

/-- The replacement character, read for a byte that starts no well-formed sequence. -/
def replacementCode : Nat := 0xFFFD

/-- Whether a byte lies in `[lo, hi]`. -/
def byteWithin (lo hi : Nat) (b : UInt8) : Bool :=
  lo ≤ b.toNat && b.toNat ≤ hi

/-- The length of the sequence a leading byte starts, with the range its second byte must
lie in: `(length, lo, hi)`. The bounds exclude overlong forms (`E0`, `F0`), surrogates (`ED`)
and code points above U+10FFFF (`F4`). -/
def sequenceShape (b0 : Nat) : Option (Nat × Nat × Nat) :=
  if 0xC2 ≤ b0 && b0 ≤ 0xDF then some (2, 0x80, 0xBF)
  else if b0 == 0xE0 then some (3, 0xA0, 0xBF)
  else if b0 == 0xED then some (3, 0x80, 0x9F)
  else if 0xE1 ≤ b0 && b0 ≤ 0xEF then some (3, 0x80, 0xBF)
  else if b0 == 0xF0 then some (4, 0x90, 0xBF)
  else if b0 == 0xF4 then some (4, 0x80, 0x8F)
  else if 0xF1 ≤ b0 && b0 ≤ 0xF3 then some (4, 0x80, 0xBF)
  else none

/-- The code point at the front of a byte sequence and the number of bytes it takes; a byte
that starts no well-formed sequence takes one byte and reads as U+FFFD. `none` when there are
no bytes. -/
def decodeFront : List UInt8 → Option (Nat × Nat)
  | [] => none
  | b0 :: rest =>
    let n0 := b0.toNat
    let tail (b : UInt8) : Nat := b.toNat % 64
    if n0 < 0x80 then some (n0, 1)
    else
      match sequenceShape n0, rest with
      | some (2, lo, hi), b1 :: _ =>
        if byteWithin lo hi b1 then some ((n0 % 32) * 64 + tail b1, 2)
        else some (replacementCode, 1)
      | some (3, lo, hi), b1 :: b2 :: _ =>
        if byteWithin lo hi b1 && byteWithin 0x80 0xBF b2 then
          some ((n0 % 16) * 4096 + tail b1 * 64 + tail b2, 3)
        else some (replacementCode, 1)
      | some (4, lo, hi), b1 :: b2 :: b3 :: _ =>
        if byteWithin lo hi b1 && byteWithin 0x80 0xBF b2 && byteWithin 0x80 0xBF b3 then
          some ((n0 % 8) * 262144 + tail b1 * 4096 + tail b2 * 64 + tail b3, 4)
        else some (replacementCode, 1)
      | _, _ => some (replacementCode, 1)

/-- A character read from bytes: its code point and the bytes it was read from. -/
abbrev Piece := Nat × List UInt8

/-- Whether a piece is an ill-formed byte rather than a character that was written. -/
def isIllFormed (p : Piece) : Bool :=
  p.1 == replacementCode && p.2.length == 1

/-- The characters of a byte sequence, in order, each with its bytes. -/
def pieces (bs : List UInt8) : List Piece :=
  go bs.length bs
where
  /-- Cut at most `fuel` characters; every character takes at least one byte. -/
  go : Nat → List UInt8 → List Piece
    | 0, _ => []
    | fuel + 1, bs =>
      match decodeFront bs with
      | none => []
      | some (code, width) => (code, bs.take width) :: go fuel (bs.drop width)

/-- The code points of a byte sequence, an ill-formed byte reading as U+FFFD. -/
def codePoints (bs : List UInt8) : List Nat :=
  (pieces bs).map (·.1)

/-- The characters of a byte sequence, an ill-formed byte reading as U+FFFD. -/
def characters (bs : List UInt8) : List Char :=
  (codePoints bs).map Char.ofNat

/-- The text of a byte sequence with each ill-formed byte replaced by U+FFFD. -/
def lossy (bs : List UInt8) : String :=
  String.ofList (characters bs)

/-- The UTF-8 bytes of a text. -/
def utf8 (s : String) : List UInt8 :=
  s.toUTF8.toList

/-- The UTF-8 bytes of a character. -/
def charBytes (c : Char) : List UInt8 :=
  utf8 (String.singleton c)

/-- The UTF-8 bytes of code point `n`, or of U+FFFD when `n` is a surrogate or beyond
U+10FFFF. -/
def codeBytes (n : Nat) : List UInt8 :=
  if (0xD800 ≤ n && n ≤ 0xDFFF) || n > 0x10FFFF then charBytes (Char.ofNat replacementCode)
  else charBytes (Char.ofNat n)

/-- The bytes of characters, each written in UTF-8. -/
def encodeAll (cs : List Char) : List UInt8 :=
  cs.flatMap charBytes

/-- The bytes with every character replaced by its image under `f`; an ill-formed byte is
read as U+FFFD and so written as that character's three bytes. -/
def mapCharacters (f : Char → Char) (bs : List UInt8) : List UInt8 :=
  encodeAll ((characters bs).map f)

/-- The bytes with each ill-formed byte replaced by the three bytes of U+FFFD: well-formed
UTF-8 that reads as the same characters. -/
def transcode (bs : List UInt8) : List UInt8 :=
  encodeAll (characters bs)

/-- An ASCII byte is a character of width one. -/
theorem decodeFront_ascii (b : UInt8) (rest : List UInt8) (h : b.toNat < 0x80) :
    decodeFront (b :: rest) = some (b.toNat, 1) := by
  simp [decodeFront, h]

end DecimalMachine.Text
