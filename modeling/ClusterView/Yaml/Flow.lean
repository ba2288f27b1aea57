import ClusterView.Yaml.Character

/-!
# Scalars inside a line or over several lines

Quoted and plain scalars may go on over several lines. The blanks around a line end do not belong to
the scalar: `Gap.text` says what stands for the gap between two words.
-/

namespace ClusterView.Yaml

/-! ## Gaps -/

/-- The spaces between two words of a scalar. -/
structure Gap where
  /-- The blanks before the first line end, the last one first. -/
  blanks : List Char := []
  /-- The line ends, the last one first. -/
  breaks : List Char := []
  /-- Whether the gap begins with an escaped line end. -/
  escaped : Bool := false

namespace Gap

/-- Whether the gap spans lines. -/
def hasBreak (g : Gap) : Bool := g.escaped || !g.breaks.isEmpty

/-- Whether there is no gap. -/
def isEmpty (g : Gap) : Bool := g.blanks.isEmpty && !g.hasBreak

/-- The gap with one more space. Blanks after a line end are dropped. -/
def push (g : Gap) (c : Char) : Gap :=
  if isBreak c then { g with breaks := c :: g.breaks }
  else if g.hasBreak then g
  else { g with blanks := c :: g.blanks }

/-- What stands for the gap: the blanks on a line; one blank for a single line feed; else the line
ends without the first line feed. After an escaped line end all others are kept. -/
def text (g : Gap) : List Char :=
  if g.escaped then g.breaks.reverse
  else
    match g.breaks.reverse with
    | [] => g.blanks.reverse
    | ['\n'] => [' ']
    | '\n' :: more => more
    | breaks => breaks

end Gap

/-! ## Quoted scalars -/

/-- Reads on in a scalar between single quotes, in which a quote is written twice. `out` is the text
so far, the last character first, and `gap` the spaces after it. -/
def singleQuoted (p : Position) (gap : Gap) (out : List Char) : List Char → Option Scanned
  | [] => none
  | c :: rest =>
    if isSpace c then singleQuoted (p.step c) (gap.push c) out rest
    else if p.column = 0 && atDocumentMark (c :: rest) then none
    else
      let out := gap.text.reverse ++ out
      if c = '\'' then
        match rest with
        | '\'' :: rest => singleQuoted (p.along ['\'', '\'']) {} ('\'' :: out) rest
        | rest => some ⟨out.reverse, p.step c, rest⟩
      else singleQuoted (p.step c) {} (c :: out) rest

/-- Where reading stands in an escape sequence. -/
inductive Escape where
  /-- Outside. -/
  | outside
  /-- After the backslash. -/
  | begun
  /-- Before this many more hexadecimal digits, after digits of a value. -/
  | digits (left : Nat) (value : Nat)

/-- The character of an escape sequence with one letter. -/
def escapedChar? (c : Char) : Option Char :=
  match c with
  | '0' => some '\x00'
  | 'a' => some '\x07'
  | 'b' => some '\x08'
  | 't' | '\t' => some '\t'
  | 'n' => some '\n'
  | 'v' => some '\x0b'
  | 'f' => some '\x0c'
  | 'r' => some '\r'
  | 'e' => some '\x1b'
  | ' ' | '"' | '/' | '\\' => some c
  | 'N' => some '\u0085'
  | '_' => some '\u00a0'
  | 'L' => some '\u2028'
  | 'P' => some '\u2029'
  | _ => none

/-- The number of digits of an escape sequence for a code point. -/
def escapeDigits? (c : Char) : Option Nat :=
  match c with
  | 'x' => some 2
  | 'u' => some 4
  | 'U' => some 8
  | _ => none

/-- Reads on in a scalar between double quotes. `out` is the text so far, the last character first,
and `gap` the spaces after it. -/
def doubleQuoted (p : Position) (gap : Gap) (escape : Escape) (out : List Char) :
    List Char → Option Scanned
  | [] => none
  | c :: rest =>
    match escape with
    | .digits left value =>
      match hexValue? c with
      | none => none
      | some d =>
        let value := 16 * value + d
        if left = 1 then
          if value.isValidChar then
            doubleQuoted (p.step c) {} .outside (Char.ofNat value :: out) rest
          else none
        else doubleQuoted (p.step c) {} (.digits (left - 1) value) out rest
    | .begun =>
      if isBreak c then
        doubleQuoted (p.step c) { escaped := true } .outside out rest
      else
        match escapedChar? c, escapeDigits? c with
        | some e, _ => doubleQuoted (p.step c) {} .outside (e :: out) rest
        | none, some n => doubleQuoted (p.step c) {} (.digits n 0) out rest
        | none, none => none
    | .outside =>
      if isSpace c then doubleQuoted (p.step c) (gap.push c) .outside out rest
      else if p.column = 0 && atDocumentMark (c :: rest) then none
      else
        let out := gap.text.reverse ++ out
        if c = '\\' then doubleQuoted (p.step c) {} .begun out rest
        else if c = '"' then some ⟨out.reverse, p.step c, rest⟩
        else doubleQuoted (p.step c) {} .outside (c :: out) rest

/-! ## Plain scalars -/

/-- Whether a character structures collections between brackets. -/
def isFlowIndicator (c : Char) : Bool :=
  c = ',' || c = '[' || c = ']' || c = '\x7b' || c = '\x7d'

/-- Whether a text has a colon at its begin that is followed by a character of a class. -/
def colonBefore (p : List Char → Bool) : List Char → Bool
  | ':' :: rest => p rest
  | _ => false

/-- Whether a text begins with an indicator of collections between brackets or a question mark. -/
def atFlowIndicator : List Char → Bool
  | [] => false
  | c :: _ => isFlowIndicator c || c = '?'

/-- A plain scalar that was read; it ends before `scanned.rest`. -/
structure ScannedPlain where
  scanned : Scanned
  /-- Whether the scalar is followed by the end of a line. -/
  endsLine : Bool

/-- Reads on in a scalar without quotes, between brackets if `inFlow`. On further lines it is
indented by at least `indent`, which a tab cannot do. `out` is the text so far, the last character
first, and `gap` the spaces after it. -/
def plain (inFlow : Bool) (indent : Int) (p : Position) (gap : Gap) (out : List Char) :
    List Char → Option ScannedPlain
  | [] => some ⟨⟨out.reverse, p, []⟩, gap.hasBreak⟩
  | c :: rest =>
    let ended : Option ScannedPlain := some ⟨⟨out.reverse, p, c :: rest⟩, gap.hasBreak⟩
    if isSpace c then
      if c = '\t' && gap.hasBreak && p.column < indent then none
      else plain inFlow indent (p.step c) (gap.push c) out rest
    else if !gap.isEmpty && (!inFlow && p.column < indent || c = '#') then ended
    else if p.column = 0 && atDocumentMark (c :: rest) then ended
    else if inFlow && colonBefore atFlowIndicator (c :: rest) then none
    else if colonBefore atSpace (c :: rest) || inFlow && isFlowIndicator c then ended
    else plain inFlow indent (p.step c) {} (c :: (gap.text.reverse ++ out)) rest

end ClusterView.Yaml
