import ClusterView.Json.Basic
import ClusterView.Number.Shortest
import ClusterView.Text.Split

/-!
# JSON text

`Json.compact` writes a value without any blank, `Json.pretty` with one item a line, indented by two
blanks for each level; empty arrays and objects stay on one line. In strings only quotes,
backslashes and control characters below U+0020 are escaped. A fraction has the fewest digits that
read back as the same fraction, and at least one after its point.
-/

namespace ClusterView

/-! ## Strings -/

namespace Json

/-- The hexadecimal digit of a number below sixteen. -/
def hexDigit (n : Nat) : Char := if n < 10 then Char.ofNat (48 + n) else Char.ofNat (87 + n)

/-- The characters that stand for a character inside a JSON string. -/
def escapedChar (c : Char) : List Char :=
  if c = '"' then ['\\', '"']
  else if c = '\\' then ['\\', '\\']
  else if c = '\x08' then ['\\', 'b']
  else if c = '\x0c' then ['\\', 'f']
  else if c = '\n' then ['\\', 'n']
  else if c = '\r' then ['\\', 'r']
  else if c = '\t' then ['\\', 't']
  else if c.toNat < 32 then ['\\', 'u', '0', '0', hexDigit (c.toNat / 16), hexDigit (c.toNat % 16)]
  else [c]

/-- The text as a JSON string, with its quotes. -/
def quoted (s : String) : String :=
  String.ofList ('"' :: s.toList.flatMap escapedChar ++ ['"'])

end Json

/-! ## Numbers -/

namespace Number

/-- The digits of a number without the zeros at their end, and the number of those zeros. -/
def significant (n : Nat) : List Char × Nat :=
  let digits := n.repr.toList
  let kept := Text.dropTrailing '0' digits
  (kept, digits.length - kept.length)

/-- An exponent of ten with its sign. -/
def exponentText (e : Int) : String :=
  if 0 ≤ e then "e+" ++ Text.ofInt e else "e" ++ Text.ofInt e

/-- The text of a positive decimal fraction: positional up to sixteen digits before the point and
four zeros after it, scientific beyond. -/
def decimalText (x : Decimal) : List Char :=
  let (digits, zeros) := significant x.digits
  let shift := x.exponent + zeros
  let point := digits.length + shift
  if 0 ≤ shift ∧ point ≤ 16 then
    digits ++ List.replicate shift.toNat '0' ++ ['.', '0']
  else if 0 < point ∧ point ≤ 16 then
    digits.take point.toNat ++ '.' :: digits.drop point.toNat
  else if -5 < point ∧ point ≤ 0 then
    '0' :: '.' :: List.replicate (-point).toNat '0' ++ digits
  else
    let tail := (exponentText (point - 1)).toList
    match digits with
    | [d] => d :: tail
    | d :: rest => d :: '.' :: rest ++ tail
    | [] => []

/-- The text of a fraction, by the shortest decimal that is rounded to it. -/
def fractionText (x : Binary64) : String :=
  let body := if x.isZero then "0.0" else String.ofList (decimalText x.shortest)
  if x.negative then "-" ++ body else body

/-- The text of a number. -/
def text : Number → String
  | .integer n => Text.ofInt n
  | .fraction x => fractionText x

end Number

/-! ## Values -/

namespace Json

mutual

/-- The text of a value without any blank. -/
def compact : Json → String
  | .null => "null"
  | .bool b => if b then "true" else "false"
  | .number n => n.text
  | .string s => quoted s
  | .array items => "[" ++ compactItems items ++ "]"
  | .object fields => "\x7b" ++ compactFields fields ++ "\x7d"

/-- The items of an array, separated by commas. -/
def compactItems : List Json → String
  | [] => ""
  | [item] => compact item
  | item :: rest => compact item ++ "," ++ compactItems rest

/-- The fields of an object, separated by commas. -/
def compactFields : List (String × Json) → String
  | [] => ""
  | [(name, value)] => quoted name ++ ":" ++ compact value
  | (name, value) :: rest => quoted name ++ ":" ++ compact value ++ "," ++ compactFields rest

end

/-- A line break and the blanks of a level. -/
def newline (level : Nat) : String := "\n" ++ String.ofList (List.replicate (2 * level) ' ')

mutual

/-- The text of a value with one item a line, inside containers that are `level` deep. -/
def prettyAt (level : Nat) : Json → String
  | .null => "null"
  | .bool b => if b then "true" else "false"
  | .number n => n.text
  | .string s => quoted s
  | .array [] => "[]"
  | .array items => "[" ++ prettyItems (level + 1) items ++ newline level ++ "]"
  | .object [] => "\x7b\x7d"
  | .object fields => "\x7b" ++ prettyFields (level + 1) fields ++ newline level ++ "\x7d"

/-- The items of an array, each on its own line. -/
def prettyItems (level : Nat) : List Json → String
  | [] => ""
  | [item] => newline level ++ prettyAt level item
  | item :: rest => newline level ++ prettyAt level item ++ "," ++ prettyItems level rest

/-- The fields of an object, each on its own line. -/
def prettyFields (level : Nat) : List (String × Json) → String
  | [] => ""
  | [(name, value)] => newline level ++ quoted name ++ ": " ++ prettyAt level value
  | (name, value) :: rest =>
    newline level ++ quoted name ++ ": " ++ prettyAt level value ++ "," ++ prettyFields level rest

end

/-- The text of a value with one item a line. -/
def pretty (j : Json) : String := prettyAt 0 j

end Json

end ClusterView
