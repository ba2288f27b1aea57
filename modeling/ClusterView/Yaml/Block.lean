import ClusterView.Yaml.Character

/-!
# Block scalars

A block scalar holds the lines below its header that are indented by the same number of blanks. The
lines of a literal block are kept, those of a folded one are joined; the header says what becomes of
the line ends after the last line.
-/

namespace ClusterView.Yaml

/-! ## Headers -/

/-- What becomes of the line ends after the last line of a block. -/
inductive Chomp where
  /-- All are dropped. -/
  | strip
  /-- One is kept. -/
  | clip
  /-- All are kept. -/
  | keep
deriving DecidableEq

/-- The header of a block scalar. -/
structure BlockHeader where
  chomp : Chomp := .clip
  /-- The number of blanks beyond the indentation of the parent, where it is given. -/
  increment : Option Nat := none

/-- What a sign says about line ends. -/
def chompOf? (c : Char) : Option Chomp :=
  if c = '-' then some .strip else if c = '+' then some .keep else none

/-- What a digit says about the indentation: anything but zero. -/
def incrementOf? (c : Char) : Option Nat :=
  if '1' ≤ c && c ≤ '9' then some (c.toNat - 48) else none

/-- The header that a text begins with, and its length. -/
def blockHeader (text : List Char) : BlockHeader × Nat :=
  match text with
  | a :: rest =>
    match chompOf? a, incrementOf? a with
    | some chomp, _ =>
      match rest.head?.bind incrementOf? with
      | some n => (⟨chomp, some n⟩, 2)
      | none => (⟨chomp, none⟩, 1)
    | none, some n =>
      match rest.head?.bind chompOf? with
      | some chomp => (⟨chomp, some n⟩, 2)
      | none => (⟨.clip, some n⟩, 1)
    | none, none => ({}, 0)
  | [] => ({}, 0)

/-- The length of the blanks and the comment that a text begins with. -/
def commentLength (text : List Char) : Nat :=
  let blanks := text.takeWhile isBlank
  match text.drop blanks.length with
  | '#' :: rest => blanks.length + 1 + (rest.takeWhile fun c => !isBreak c).length
  | _ => blanks.length

/-- Reads what may stand between the header and the lines: blanks, a comment and the line end. -/
def endOfLine? (p : Position) (text : List Char) : Option (Position × List Char) :=
  let n := commentLength text
  let p := p.along (text.take n)
  match text.drop n with
  | [] => some (p, [])
  | c :: rest => if isBreak c then some (p.step c, rest) else none

/-! ## Lines -/

/-- What is known about a block after some of its lines. -/
structure BlockLines where
  /-- The indentation, once it is known. -/
  indent : Option Nat
  /-- The most blanks seen at the begin of a line while the indentation is not known. -/
  widest : Nat := 0
  /-- The text so far, the last character first. -/
  out : List Char := []
  /-- The line end after the text, if there is one. -/
  lineEnd : List Char := []
  /-- The line ends of the empty lines after that, the last one first. -/
  empty : List Char := []
  /-- Whether the last line begins with a blank. -/
  blankStart : Bool := false
  /-- Whether reading stands inside a line and not before one. -/
  inLine : Bool := false

namespace BlockLines

/-- The indentation, given the one of the parent. If it was not given it is that of the widest line
start, but at least one more than that of the parent. -/
def indentation (b : BlockLines) (parent : Int) : Nat :=
  b.indent.getD (max (max b.widest (parent + 1).toNat) 1)

/-- Whether reading stands before the indentation. -/
def inMargin (b : BlockLines) (column : Nat) : Bool := b.indent.all fun n => decide (column < n)

/-- Begins a line with a character. Where lines are joined, a line end between two lines that do not
begin with blanks becomes a blank, or is dropped before empty lines. -/
def beginLine (b : BlockLines) (folded : Bool) (c : Char) : BlockLines :=
  let between :=
    if folded && b.lineEnd = ['\n'] && !b.blankStart && !isBlank c then
      if b.empty.isEmpty then [' '] else b.empty
    else b.empty ++ b.lineEnd
  { b with out := c :: (between ++ b.out), lineEnd := [], empty := [], blankStart := isBlank c,
           inLine := true }

/-- The text of the block with the line ends that its header keeps. -/
def text (b : BlockLines) (chomp : Chomp) : List Char :=
  (match chomp with
    | .strip => b.out
    | .clip => b.lineEnd ++ b.out
    | .keep => b.empty ++ b.lineEnd ++ b.out).reverse

end BlockLines

/-- Reads on in the lines of a block scalar. -/
def blockLines (folded : Bool) (chomp : Chomp) (parent : Int) (p : Position) (b : BlockLines) :
    List Char → Option Scanned
  | [] => some ⟨b.text chomp, p, []⟩
  | c :: rest =>
    if b.inLine then
      let b := if isBreak c then { b with lineEnd := [c], inLine := false }
        else { b with out := c :: b.out }
      blockLines folded chomp parent (p.step c) b rest
    else if c = ' ' && b.inMargin p.column then
      blockLines folded chomp parent (p.step c) b rest
    else if c = '\t' && b.inMargin p.column then none
    else
      let b := { b with widest := max b.widest p.column }
      if isBreak c then
        blockLines folded chomp parent (p.step c) { b with empty := c :: b.empty } rest
      else
        let n := b.indentation parent
        if p.column = n then
          blockLines folded chomp parent (p.step c)
            ({ b with indent := some n }.beginLine folded c) rest
        else some ⟨b.text chomp, p, c :: rest⟩

/-- Reads a block scalar from behind its indicator, inside a block that is indented by `parent`. -/
def blockScalar? (folded : Bool) (parent : Int) (p : Position) (text : List Char) :
    Option Scanned := do
  let (header, n) := blockHeader text
  let (p, rest) ← endOfLine? (p.along (text.take n)) (text.drop n)
  let indent := header.increment.map fun n => n + parent.toNat
  blockLines folded header.chomp parent p { indent } rest

end ClusterView.Yaml
