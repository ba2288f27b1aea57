/-!
# Characters and positions of YAML text

Text is read after `normalize`, which makes every way to end a line but the two Unicode separators a
line feed. A position counts what was read before it; `Position.along` moves it over text.
-/

namespace ClusterView.Yaml

/-! ## Classes of characters -/

/-- Whether a character ends a line. -/
def isBreak (c : Char) : Bool := c = '\n' || c = '\u2028' || c = '\u2029'

/-- Whether a character is blank. -/
def isBlank (c : Char) : Bool := c = ' ' || c = '\t'

/-- Whether a character separates words. -/
def isSpace (c : Char) : Bool := isBlank c || isBreak c

/-- Whether a text is at its end or at a space. -/
def atSpace : List Char → Bool
  | [] => true
  | c :: _ => isSpace c

/-- Whether a character may stand in a text at all. -/
def isAllowed (c : Char) : Bool :=
  c = '\t' || c = '\n' || c = '\r' || (' ' ≤ c && c ≤ '~') || c = '\u0085' ||
    ('\u00a0' ≤ c && c ≠ '\ufffe' && c ≠ '\uffff')

/-- Whether a character may stand in names of anchors and directives. -/
def isNameChar (c : Char) : Bool := c.isAlphanum || c = '-' || c = '_'

/-- Whether a text begins with three equal marks that stand alone. -/
def atMark (mark : Char) : List Char → Bool
  | a :: b :: c :: rest => a = mark && b = mark && c = mark && atSpace rest
  | _ => false

/-- Whether a text begins with a mark that ends a document or begins the next one. -/
def atDocumentMark (text : List Char) : Bool := atMark '-' text || atMark '.' text

/-- The text with its line ends as line feeds; line and paragraph separators are kept. -/
def normalize : List Char → List Char
  | '\r' :: '\n' :: rest => '\n' :: normalize rest
  | '\r' :: rest => '\n' :: normalize rest
  | '\u0085' :: rest => '\n' :: normalize rest
  | c :: rest => c :: normalize rest
  | [] => []

/-- The value of a hexadecimal digit. -/
def hexValue? (c : Char) : Option Nat :=
  if '0' ≤ c && c ≤ '9' then some (c.toNat - 48)
  else if 'a' ≤ c && c ≤ 'f' then some (c.toNat - 87)
  else if 'A' ≤ c && c ≤ 'F' then some (c.toNat - 55)
  else none

/-! ## Positions -/

/-- A place in a text. -/
structure Position where
  /-- The number of characters before it. -/
  index : Nat := 0
  /-- The number of line ends before it. -/
  line : Nat := 0
  /-- The number of characters before it on its line. -/
  column : Nat := 0
deriving DecidableEq

namespace Position

/-- The place after a character. -/
def step (p : Position) (c : Char) : Position :=
  if isBreak c then ⟨p.index + 1, p.line + 1, 0⟩ else ⟨p.index + 1, p.line, p.column + 1⟩

/-- The place after a text. -/
def along (p : Position) (text : List Char) : Position := text.foldl step p

@[simp] theorem along_nil (p : Position) : p.along [] = p := rfl

theorem along_append (p : Position) (a b : List Char) :
    p.along (a ++ b) = (p.along a).along b := by
  simp [along]

end Position

/-- A text that was read, and where reading goes on. -/
structure Scanned where
  text : List Char
  position : Position
  rest : List Char

end ClusterView.Yaml
