import ClusterView.Json.Printer

/-!
# What plain scalars mean

A plain scalar is null, a truth value, a number, or else a text. Integers are decimal, hexadecimal,
octal or binary; a number with a zero too many at its begin is a text.
-/

namespace ClusterView.Yaml

/-! ## Words -/

/-- Whether a plain scalar is null. -/
def isNull (s : String) : Bool := ["", "~", "null", "Null", "NULL"].contains s

/-- The truth value that a plain scalar stands for. -/
def bool? (s : String) : Option Bool :=
  if ["true", "True", "TRUE"].contains s then some true
  else if ["false", "False", "FALSE"].contains s then some false
  else none

/-! ## Integers -/

/-- The value of a digit in a base up to sixteen. -/
def digitValue? (base : Nat) (c : Char) : Option Nat :=
  let value :=
    if '0' ≤ c && c ≤ '9' then c.toNat - 48
    else if 'a' ≤ c && c ≤ 'f' then c.toNat - 87
    else if 'A' ≤ c && c ≤ 'F' then c.toNat - 55
    else base
  if value < base then some value else none

/-- The number that digits stand for in a base; there has to be one. -/
def digits? (base : Nat) (cs : List Char) : Option Nat :=
  if cs.isEmpty then none
  else cs.foldl (fun n c => do return base * (← n) + (← digitValue? base c)) (some 0)

/-- The sign that a text begins with, if any, and the text after it. -/
def splitSign (cs : List Char) : Option Char × List Char :=
  match cs with
  | '+' :: rest => (some '+', rest)
  | '-' :: rest => (some '-', rest)
  | cs => (none, cs)

/-- Whether a text is digits with a zero too many at their begin. -/
def hasExtraZero (cs : List Char) : Bool :=
  match (splitSign cs).2 with
  | '0' :: rest => !rest.isEmpty && rest.all Char.isDigit
  | _ => false

/-- The number without its sign. -/
def magnitude? (cs : List Char) : Option Nat :=
  match cs with
  | '0' :: 'x' :: rest => digits? 16 rest
  | '0' :: 'o' :: rest => digits? 8 rest
  | '0' :: 'b' :: rest => digits? 2 rest
  | cs => if hasExtraZero cs then none else digits? 10 cs

/-- The integer that a plain scalar stands for. -/
def integer? (s : String) : Option Int :=
  let (sign, rest) := splitSign s.toList
  (magnitude? rest).map fun n => if sign = some '-' then -(n : Int) else n

/-! ## Fractions -/

/-- The digits that a text begins with, and the text after them. -/
def splitDigits (cs : List Char) : List Char × List Char :=
  (cs.takeWhile Char.isDigit, cs.dropWhile Char.isDigit)

/-- The exponent that a text consists of; none is zero. -/
def exponent? (cs : List Char) : Option Int :=
  match cs with
  | [] => some 0
  | c :: rest =>
    if c = 'e' || c = 'E' then
      let (sign, digits) := splitSign rest
      (digits? 10 digits).map fun n => if sign = some '-' then -(n : Int) else n
    else none

/-- The fraction that a plain scalar stands for, which may have a point, an exponent or both. One
that is too large is none. -/
def fraction? (s : String) : Option Binary64 :=
  let cs := s.toList
  if hasExtraZero cs then none
  else
    let (sign, rest) := splitSign cs
    let (whole, rest) := splitDigits rest
    let (part, rest) :=
      match rest with
      | '.' :: rest => splitDigits rest
      | rest => ([], rest)
    match digits? 10 (whole ++ part), exponent? rest with
    | some n, some e => Binary64.ofDecimal? (sign = some '-') n (e - part.length)
    | _, _ => none

/-- Numbers that are not finite. -/
inductive Extreme where
  | infinity
  | negativeInfinity
  | notANumber
deriving DecidableEq

/-- The number that is not finite and that a plain scalar stands for. -/
def extreme? (s : String) : Option Extreme :=
  if [".inf", ".Inf", ".INF", "+.inf", "+.Inf", "+.INF"].contains s then some .infinity
  else if ["-.inf", "-.Inf", "-.INF"].contains s then some .negativeInfinity
  else if [".nan", ".NaN", ".NAN"].contains s then some .notANumber
  else none

/-! ## Meanings -/

/-- What a plain scalar means. -/
inductive Meaning where
  | null
  | bool (value : Bool)
  | number (value : Number)
  | extreme (value : Extreme)
  /-- An integer of more than 64 bits. -/
  | longInteger
  | text
deriving DecidableEq

/-- What an integer means: those of up to 64 bits are numbers, those of up to 128 bits are long. -/
def Meaning.ofInteger (n : Int) : Option Meaning :=
  if -(Nat.pow 2 63 : Nat) ≤ n ∧ n < Nat.pow 2 64 then some (.number (.integer n))
  else if -(Nat.pow 2 127 : Nat) ≤ n ∧ n < Nat.pow 2 128 then some .longInteger
  else none

/-- What a plain scalar means. -/
def Meaning.ofPlain (s : String) : Meaning :=
  if isNull s then .null
  else
    match bool? s, (integer? s).bind ofInteger, extreme? s, fraction? s with
    | some b, _, _, _ => .bool b
    | none, some m, _, _ => m
    | none, none, some x, _ => .extreme x
    | none, none, none, some x => .number (.fraction x)
    | none, none, none, none => .text

end ClusterView.Yaml
