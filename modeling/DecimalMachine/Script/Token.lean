import DecimalMachine.Script.Diagnostic

/-!
# Tokens of the expression language

The language has expressions, assignments, functions and control statements. Its text is cut
into tokens: layout tokens (end of file, newline, indent, outdent), names, literals (integers,
floats, strings, bytes), punctuation and keywords.

Diagnostics name a token by its kind: `identifier`, `int literal`, `newline`, a keyword or a
reserved word as written, and punctuation in single quotes (`'+'`, `')'`). Each token remembers where it
starts and where reading stopped after it; the parser reports a missing token at the latter.
-/

namespace DecimalMachine.Script

/-- The kind of a token. -/
inductive Kind where
  | eof | newline | indent | outdent
  | ident | int | float | string | bytes
  | plus | minus | star | slash | slashslash | percent | amp | pipe | caret | ltlt | gtgt
  | tilde | dot | comma | eq | semi | colon | lparen | rparen | lbrack | rbrack | lbrace
  | rbrace | lt | gt | ge | le | eql | neq
  | plusEq | minusEq | starEq | slashEq | slashslashEq | percentEq | ampEq | pipeEq
  | caretEq | ltltEq | gtgtEq | starstar
  | andKw | breakKw | continueKw | defKw | elifKw | elseKw | forKw | ifKw | inKw | lambdaKw
  | loadKw | notKw | notInKw | orKw | passKw | returnKw | whileKw
  /-- A word reserved for future use, which no rule accepts; the token keeps the word. -/
  | illegal
  deriving DecidableEq, Repr, Inhabited

namespace Kind

/-- How the kind is written in source, or its descriptive name for kinds with a value. -/
def symbol : Kind → String
  | eof => "end of file" | newline => "newline" | indent => "indent" | outdent => "outdent"
  | ident => "identifier" | int => "int literal" | float => "float literal"
  | string => "string literal" | bytes => "bytes literal"
  | plus => "+" | minus => "-" | star => "*" | slash => "/" | slashslash => "//"
  | percent => "%" | amp => "&" | pipe => "|" | caret => "^" | ltlt => "<<" | gtgt => ">>"
  | tilde => "~" | dot => "." | comma => "," | eq => "=" | semi => ";" | colon => ":"
  | lparen => "(" | rparen => ")" | lbrack => "[" | rbrack => "]" | lbrace => "\x7b"
  | rbrace => "\x7d" | lt => "<" | gt => ">" | ge => ">=" | le => "<=" | eql => "=="
  | neq => "!=" | plusEq => "+=" | minusEq => "-=" | starEq => "*=" | slashEq => "/="
  | slashslashEq => "//=" | percentEq => "%=" | ampEq => "&=" | pipeEq => "|="
  | caretEq => "^=" | ltltEq => "<<=" | gtgtEq => ">>=" | starstar => "**"
  | andKw => "and" | breakKw => "break" | continueKw => "continue" | defKw => "def"
  | elifKw => "elif" | elseKw => "else" | forKw => "for" | ifKw => "if" | inKw => "in"
  | lambdaKw => "lambda" | loadKw => "load" | notKw => "not" | notInKw => "not in"
  | orKw => "or" | passKw => "pass" | returnKw => "return" | whileKw => "while"
  | illegal => "illegal token"

/-- Whether the kind is punctuation, which diagnostics quote. -/
def isPunctuation : Kind → Bool
  | eof | newline | indent | outdent | ident | int | float | string | bytes => false
  | andKw | breakKw | continueKw | defKw | elifKw | elseKw | forKw | ifKw | inKw | lambdaKw
  | loadKw | notKw | notInKw | orKw | passKw | returnKw | whileKw | illegal => false
  | _ => true

/-- The name of the kind in a diagnostic: punctuation in single quotes. -/
def describe (k : Kind) : String :=
  if k.isPunctuation then "'" ++ k.symbol ++ "'" else k.symbol

/-- The keyword a name spells, if any. Some words are reserved without any use: they are
no names, and no rule of the grammar accepts them. -/
def keyword? : String → Option Kind
  | "and" => some andKw | "break" => some breakKw | "continue" => some continueKw
  | "def" => some defKw | "elif" => some elifKw | "else" => some elseKw
  | "for" => some forKw | "if" => some ifKw | "in" => some inKw | "lambda" => some lambdaKw
  | "load" => some loadKw | "not" => some notKw | "or" => some orKw | "pass" => some passKw
  | "return" => some returnKw | "while" => some whileKw
  | "as" | "async" | "await" | "class" | "del" | "except" | "finally" | "from" | "global"
  | "import" | "is" | "nonlocal" | "raise" | "try" | "with" | "yield" => some illegal
  | _ => none

end Kind

/-- A literal value carried by a token. -/
inductive Literal where
  | none
  | int (value : Int)
  | float (value : Float)
  | string (value : String)
  | bytes (value : List UInt8)
  deriving Repr, Inhabited

/-- A token: its kind, its text, its value, where it starts and where reading stopped. -/
structure Token where
  kind : Kind
  /-- The source text of the token. -/
  text : String := ""
  /-- The literal value, for literals. -/
  value : Literal := .none
  /-- Where the token starts. -/
  pos : Position
  /-- Where reading stood after the token. -/
  stop : Position
  deriving Repr, Inhabited

/-- The name of a token in a diagnostic: a reserved word as written, else its kind's name. -/
def Token.describe (t : Token) : String :=
  if t.kind == .illegal then t.text else t.kind.describe

end DecimalMachine.Script
