import ClusterView.Json.Printer
import ClusterView.Yaml.Character
import ClusterView.Yaml.Scalar

/-!
# Writing YAML text

A `Tree` is what a configuration file holds: texts, truth values, lists and records. Its text has
one field or item a line, and each text in the plainest style in which it can be read back: plain,
in single quotes, as a literal block if it has several lines, or else in double quotes.
-/

namespace ClusterView.Yaml

/-- A value to be written. -/
inductive Tree where
  | text (value : String)
  | flag (value : Bool)
  | list (items : List Tree)
  | record (fields : List (String × Tree))
deriving Inhabited

/-! ## Styles -/

/-- Whether a character may be written as it is. -/
def isPrintable (c : Char) : Bool :=
  c = '\n' || (' ' ≤ c && c ≤ '~') ||
    ('\u00a0' ≤ c && c ≠ '\ufeff' && c ≠ '\ufffe' && c ≠ '\uffff')

/-- Whether two neighbours in a text are of two classes. -/
def hasPair (p q : Char → Bool) (cs : List Char) : Bool :=
  (cs.zip cs.tail).any fun e => p e.1 && q e.2

/-- Whether a text holds nothing that needs an escape sequence wherever it is written. -/
def isBlockText (cs : List Char) : Bool :=
  cs.all isPrintable && !hasPair (· = ' ') isBreak cs

/-- Whether a text can be written in single quotes. -/
def isQuotable (cs : List Char) : Bool := isBlockText cs && !hasPair isBreak (· = ' ') cs

/-- Whether a text can be written as a literal block. -/
def isLiteral (cs : List Char) : Bool := isBlockText cs && cs.getLast? != some ' '

/-- Whether a text begins with an indicator. -/
def beginsWithIndicator (cs : List Char) : Bool :=
  match cs with
  | [] => false
  | c :: rest =>
    "#,[]\x7b\x7d&*!|>'\"%@`".contains c || ("?:-".contains c && atSpace rest) ||
      ['-', '-', '-'].isPrefixOf cs || ['.', '.', '.'].isPrefixOf cs

/-- Whether a text holds, not at its begin, a colon before a space or a number sign after one. -/
def holdsIndicator (cs : List Char) : Bool :=
  match cs with
  | [] => false
  | a :: rest => holdsIndicatorAfter a rest
where
  holdsIndicatorAfter (a : Char) : List Char → Bool
    | [] => false
    | c :: rest =>
      c = ':' && atSpace rest || isSpace a && c = '#' || holdsIndicatorAfter c rest

/-- Whether a text can be written without quotes, apart from what it would mean. -/
def isPlainText (cs : List Char) : Bool :=
  isQuotable cs && !cs.isEmpty && !cs.any isBreak && cs.head? != some ' ' &&
    cs.getLast? != some ' ' && !beginsWithIndicator cs && !holdsIndicator cs

/-- How a text is written. -/
inductive Style where
  | plain
  | singleQuoted
  | doubleQuoted
  | literal
deriving DecidableEq

/-- The style of a text. -/
def Style.ofText (s : String) : Style :=
  let cs := s.toList
  if cs.contains '\n' then if isLiteral cs then .literal else .doubleQuoted
  else if Meaning.ofPlain s = .text && !hasExtraZero cs && isPlainText cs then .plain
  else if isQuotable cs then .singleQuoted
  else .doubleQuoted

/-! ## Scalars -/

/-- Some blanks. -/
def blanks (n : Nat) : List Char := List.replicate n ' '

/-- A text between single quotes, in which a quote is written twice. A line end is followed by
`indent` blanks unless another line end follows. -/
def singleQuotedText (indent : Nat) (afterBreak : Bool) : List Char → List Char
  | [] => (if afterBreak then blanks indent else []) ++ ['\'']
  | c :: rest =>
    if isBreak c then c :: singleQuotedText indent true rest
    else
      (if afterBreak then blanks indent else []) ++
        (if c = '\'' then ['\'', '\''] else [c]) ++ singleQuotedText indent false rest

/-- The upper-case hexadecimal digits of a number, at least so many. -/
def hexDigits (width n : Nat) : List Char :=
  let digits := (Nat.toDigits 16 n).map Char.toUpper
  List.replicate (width - digits.length) '0' ++ digits

/-- A character between double quotes. -/
def escaped (c : Char) : List Char :=
  match c with
  | '\x00' => ['\\', '0']
  | '\x07' => ['\\', 'a']
  | '\x08' => ['\\', 'b']
  | '\t' => ['\\', 't']
  | '\n' => ['\\', 'n']
  | '\x0b' => ['\\', 'v']
  | '\x0c' => ['\\', 'f']
  | '\r' => ['\\', 'r']
  | '\x1b' => ['\\', 'e']
  | '"' => ['\\', '"']
  | '\\' => ['\\', '\\']
  | '\u0085' => ['\\', 'N']
  | '\u2028' => ['\\', 'L']
  | '\u2029' => ['\\', 'P']
  | c =>
    if isPrintable c then [c]
    else if c.toNat ≤ 0xff then '\\' :: 'x' :: hexDigits 2 c.toNat
    else if c.toNat ≤ 0xffff then '\\' :: 'u' :: hexDigits 4 c.toNat
    else '\\' :: 'U' :: hexDigits 8 c.toNat

/-- What the header of a literal block says about the indentation: it is given where the first line
begins with a space. -/
def indentationMark (cs : List Char) : List Char :=
  if cs.head?.any (fun c => c = ' ' || isBreak c) then ['2'] else []

/-- What the header of a literal block says about the line ends after its last line. -/
def chompMark (cs : List Char) : List Char :=
  match cs.reverse with
  | [] => ['-']
  | [c] => if isBreak c then ['+'] else ['-']
  | c :: d :: _ => if !isBreak c then ['-'] else if isBreak d then ['+'] else []

/-- The lines of a literal block, each with `indent` blanks before it unless it is empty. -/
def literalLines (indent : Nat) (afterBreak : Bool) : List Char → List Char
  | [] => if afterBreak then [] else ['\n']
  | c :: rest =>
    if isBreak c then c :: literalLines indent true rest
    else (if afterBreak then blanks indent else []) ++ c :: literalLines indent false rest

/-- A text in its style, with the end of its line; further lines are indented by `indent`. -/
def scalarText (indent : Nat) (s : String) : String :=
  let cs := s.toList
  String.ofList (match Style.ofText s with
    | .plain => cs ++ ['\n']
    | .singleQuoted => '\'' :: singleQuotedText indent false cs ++ ['\n']
    | .doubleQuoted => '"' :: cs.flatMap escaped ++ ['"', '\n']
    | .literal =>
      '|' :: indentationMark cs ++ chompMark cs ++ '\n' :: literalLines indent true cs)

/-! ## Trees -/

namespace Tree

/-- The begin of a line in a column. -/
def margin (column : Nat) : String := String.ofList (blanks column)

mutual

/-- The text of a tree that begins in a column, with the end of its last line. -/
def block (column : Nat) : Tree → String
  | .text s => scalarText column s
  | .flag b => if b then "true\n" else "false\n"
  | .list [] => "[]\n"
  | .list (item :: rest) => "- " ++ block (column + 2) item ++ itemLines column rest
  | .record [] => "\x7b\x7d\n"
  | .record ((name, value) :: rest) => name ++ ":" ++ field column value ++ fieldLines column rest

/-- The lines of some items in a column. -/
def itemLines (column : Nat) : List Tree → String
  | [] => ""
  | item :: rest => margin column ++ "- " ++ block (column + 2) item ++ itemLines column rest

/-- The lines of some fields in a column. -/
def fieldLines (column : Nat) : List (String × Tree) → String
  | [] => ""
  | (name, value) :: rest =>
    margin column ++ name ++ ":" ++ field column value ++ fieldLines column rest

/-- The text of a field's value after its colon: a list begins on a new line in the column of the
field, a record in one further to the right. -/
def field (column : Nat) : Tree → String
  | .list (item :: rest) =>
    "\n" ++ margin column ++ "- " ++ block (column + 2) item ++ itemLines column rest
  | .record ((name, value) :: rest) =>
    "\n" ++ margin (column + 2) ++ name ++ ":" ++ field (column + 2) value ++
      fieldLines (column + 2) rest
  | .text s => " " ++ scalarText (column + 2) s
  | .flag b => if b then " true\n" else " false\n"
  | .list [] => " []\n"
  | .record [] => " \x7b\x7d\n"

end

/-- The text of a tree. -/
def toText (t : Tree) : String := block 0 t

end Tree

end ClusterView.Yaml
