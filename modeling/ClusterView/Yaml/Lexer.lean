import ClusterView.Yaml.Block
import ClusterView.Yaml.Flow
import ClusterView.Yaml.Token

/-!
# The tokens of a text

Columns open and close blocks: `Lexer.openBlock` begins a block where something stands further to
the right than the block around it, `Lexer.closeBlocks` ends those that something stands to the left
of. A key is known as one only when its colon is found, so a lexer remembers for the block and for
each bracket where a key may have begun, and puts the tokens of the key there.
-/

namespace ClusterView.Yaml

/-! ## State -/

/-- A place where a key may have begun. -/
structure PossibleKey where
  /-- The number of tokens before it. -/
  token : Nat
  position : Position
  /-- Whether nothing but a key may stand there. -/
  required : Bool

/-- The greatest distance between the begin of a key and its colon. -/
def keyReach : Nat := 1024

/-- Whether a key that began at a place has to have its colon before a position. -/
def PossibleKey.isStale (k : PossibleKey) (p : Position) : Bool :=
  k.position.line < p.line || k.position.index + keyReach < p.index

/-- What is known after some of a text was read. -/
structure Lexer where
  position : Position := {}
  /-- The text that is not read yet. -/
  rest : List Char
  tokens : Array Token := #[]
  /-- The column of the innermost block, `-1` outside of any. -/
  indent : Int := -1
  /-- The columns of the blocks around it. -/
  outerIndents : List Int := []
  /-- Whether a key may begin. -/
  keyAllowed : Bool := true
  /-- Where the key of the innermost bracket, or of the block, may have begun. -/
  possibleKey : Option PossibleKey := none
  /-- The same for the brackets, and for the block, around it. -/
  outerKeys : List (Option PossibleKey) := []

namespace Lexer

/-- Whether reading stands between brackets. -/
def inFlow (l : Lexer) : Bool := !l.outerKeys.isEmpty

/-- Reads characters. -/
def skip (l : Lexer) (n : Nat) : Lexer :=
  { l with position := l.position.along (l.rest.take n), rest := l.rest.drop n }

/-- Adds a token. -/
def push (l : Lexer) (t : Token) : Lexer := { l with tokens := l.tokens.push t }

/-- Adds a token for some characters, which are read. -/
def take (l : Lexer) (n : Nat) (t : Token) : Lexer := (l.skip n).push t

/-- Adds a token for a scalar that was read. -/
def pushScalar (l : Lexer) (s : Scanned) (isPlain : Bool) : Lexer :=
  { l with position := s.position, rest := s.rest }.push (.scalar (String.ofList s.text) isPlain)

/-! ## Blocks -/

/-- Begins a block in a column if it is to the right of the innermost one. The token of the block is
put before the token with the given number. -/
def openBlock (l : Lexer) (column : Nat) (before : Nat) (t : Token) : Lexer :=
  if !l.inFlow && l.indent < column then
    { l with indent := column, outerIndents := l.indent :: l.outerIndents,
             tokens := l.tokens.insertIdxIfInBounds before t }
  else l

/-- The tokens and columns after all blocks to the right of a column are ended. -/
def endBlocks (column : Int) (tokens : Array Token) (indent : Int) :
    List Int → Array Token × Int × List Int
  | [] => (tokens, indent, [])
  | outer :: more =>
    if column < indent then endBlocks column (tokens.push .blockEnd) outer more
    else (tokens, indent, outer :: more)

/-- Ends the blocks to the right of a column. -/
def closeBlocks (l : Lexer) (column : Int) : Lexer :=
  if l.inFlow then l
  else
    let (tokens, indent, outerIndents) := endBlocks column l.tokens l.indent l.outerIndents
    { l with tokens, indent, outerIndents }

/-! ## Keys -/

/-- Gives up the key that may have begun, which must not be required. -/
def dropKey (l : Lexer) : Option Lexer :=
  if l.possibleKey.any (·.required) then none else some { l with possibleKey := none }

/-- Notes that a key may begin. -/
def noteKey (l : Lexer) : Option Lexer :=
  if l.keyAllowed then do
    let required := !l.inFlow && l.indent == l.position.column
    let l ← l.dropKey
    some { l with possibleKey := some ⟨l.tokens.size, l.position, required⟩ }
  else some l

/-- A place where a key may have begun, unless reading went on beyond its reach. -/
def keepFresh (p : Position) : Option PossibleKey → Option (Option PossibleKey)
  | none => some none
  | some k => if k.isStale p then if k.required then none else some none else some (some k)

/-- Gives up the keys whose colon was not found in time. -/
def dropStaleKeys (l : Lexer) : Option Lexer := do
  let possibleKey ← keepFresh l.position l.possibleKey
  let outerKeys ← l.outerKeys.mapM (keepFresh l.position)
  some { l with possibleKey, outerKeys }

/-- Sets whether a key may begin. -/
def allowKey (l : Lexer) (allowed : Bool) : Lexer := { l with keyAllowed := allowed }

/-! ## Spaces between tokens -/

/-- Skips blanks, comments and line ends. In a block, a key may begin on a new line, and where a key
may begin no tab may stand before it. A mark of byte order is skipped at the begin of a line, where
it counts as a character. -/
def skipSpacesFrom (inFlow allowed comment : Bool) (p : Position) :
    List Char → Bool × Position × List Char
  | [] => (allowed, p, [])
  | c :: rest =>
    if isBreak c then skipSpacesFrom inFlow (allowed || !inFlow) false (p.step c) rest
    else if comment || c = ' ' || c = '\t' && (inFlow || !allowed) ||
        c = '\ufeff' && p.column = 0 then
      skipSpacesFrom inFlow allowed comment (p.step c) rest
    else if c = '#' then skipSpacesFrom inFlow allowed true (p.step c) rest
    else (allowed, p, c :: rest)

/-- Skips what may stand between tokens. -/
def skipSpaces (l : Lexer) : Lexer :=
  let (keyAllowed, position, rest) := skipSpacesFrom l.inFlow l.keyAllowed false l.position l.rest
  { l with keyAllowed, position, rest }

/-! ## Tokens -/

/-- Ends all blocks before something that stands between documents. -/
def betweenDocuments (l : Lexer) : Option Lexer := do
  let l ← (l.closeBlocks (-1)).dropKey
  some (l.allowKey false)

/-- The number that some digits stand for: at least one and at most nine. -/
def versionNumber? (digits : List Char) : Option Nat :=
  if digits.isEmpty || 9 < digits.length then none
  else some (digits.foldl (fun n d => 10 * n + (d.toNat - 48)) 0)

/-- The version that a directive names, and the length of the directive from its percent sign. -/
def versionDirective? (text : List Char) : Option (Token × Nat) := do
  let name := (text.drop 1).takeWhile isNameChar
  guard (name = "YAML".toList)
  let rest := text.drop 5
  let blanks := rest.takeWhile isBlank
  let rest := rest.drop blanks.length
  let major := rest.takeWhile Char.isDigit
  let rest := rest.drop major.length
  guard (!blanks.isEmpty && rest.head? == some '.')
  let minor := (rest.drop 1).takeWhile Char.isDigit
  some (.version (← versionNumber? major) (← versionNumber? minor),
    5 + blanks.length + major.length + 1 + minor.length)

/-- Reads a directive. -/
def directive (l : Lexer) : Option Lexer := do
  let l ← l.betweenDocuments
  let (t, length) ← versionDirective? l.rest
  let l := l.take length t
  let (position, rest) ← endOfLine? l.position l.rest
  some { l with position, rest }

/-- Reads an opening bracket. -/
def openBracket (l : Lexer) (t : Token) : Option Lexer := do
  let l ← l.noteKey
  let l := { l with possibleKey := none, outerKeys := l.possibleKey :: l.outerKeys }
  some ((l.allowKey true).take 1 t)

/-- Reads a closing bracket. -/
def closeBracket (l : Lexer) (t : Token) : Option Lexer := do
  let l ← l.dropKey
  let l :=
    match l.outerKeys with
    | [] => l
    | possibleKey :: outerKeys => { l with possibleKey, outerKeys }
  some ((l.allowKey false).take 1 t)

/-- Reads a comma. -/
def comma (l : Lexer) : Option Lexer := do
  let l ← l.dropKey
  some ((l.allowKey true).take 1 .comma)

/-- Begins a block for an indicator of an item or a key, which has to be allowed there. -/
def beginAt (l : Lexer) (t : Token) : Option Lexer :=
  if l.inFlow then some l
  else if l.keyAllowed then some (l.openBlock l.position.column l.tokens.size t)
  else none

/-- Reads the dash of an item. -/
def item (l : Lexer) : Option Lexer := do
  let l ← (← l.beginAt .blockSequence).dropKey
  some ((l.allowKey true).take 1 .item)

/-- Reads the question mark of a key. -/
def key (l : Lexer) : Option Lexer := do
  let l ← (← l.beginAt .blockMapping).dropKey
  some ((l.allowKey (!l.inFlow)).take 1 .key)

/-- Reads the colon of a value. If a key may have begun, it did; otherwise the key is empty or was
announced. -/
def value (l : Lexer) : Option Lexer := do
  match l.possibleKey with
  | some k =>
    let l := { l with tokens := l.tokens.insertIdxIfInBounds k.token .key, possibleKey := none }
    let l := l.openBlock k.position.column k.token .blockMapping
    some ((l.allowKey false).take 1 .value)
  | none =>
    let l ← l.beginAt .blockMapping
    some ((l.allowKey (!l.inFlow)).take 1 .value)

/-- Reads the name of an anchor or alias. -/
def name (l : Lexer) (t : String → Token) : Option Lexer := do
  let name := (l.rest.drop 1).takeWhile isNameChar
  let rest := l.rest.drop (1 + name.length)
  guard (!name.isEmpty && (atSpace rest || rest.head?.any fun c => "?:,]\x7d%@`".toList.contains c))
  let l ← l.noteKey
  some ((l.allowKey false).take (1 + name.length) (t (String.ofList name)))

/-- Reads a block scalar. -/
def block (l : Lexer) (folded : Bool) : Option Lexer := do
  let l ← l.dropKey
  let l := (l.allowKey true).skip 1
  some (l.pushScalar (← blockScalar? folded l.indent l.position l.rest) false)

/-- Reads a scalar between quotes. -/
def quoted (l : Lexer) (single : Bool) : Option Lexer := do
  let l ← l.noteKey
  let l := (l.allowKey false).skip 1
  let s ← if single then singleQuoted l.position {} [] l.rest
    else doubleQuoted l.position {} .outside [] l.rest
  some (l.pushScalar s false)

/-- Reads a plain scalar. -/
def plainScalar (l : Lexer) : Option Lexer := do
  let l ← l.noteKey
  let s ← plain l.inFlow (l.indent + 1) l.position {} [] l.rest
  some ((l.allowKey s.endsLine).pushScalar s.scanned true)

/-- Whether a plain scalar may begin with a character, given the text after it. -/
def beginsPlain (inFlow : Bool) (c : Char) (rest : List Char) : Bool :=
  if c = '-' then !(rest.head?.any isBlank)
  else if c = '?' || c = ':' then !inFlow && !atSpace rest
  else !isSpace c && !isFlowIndicator c && !"#&*!|>'\"%@`".toList.contains c

/-- Reads the next token, at a character that may not be skipped. -/
def readToken (l : Lexer) (c : Char) (rest : List Char) : Option Lexer :=
  let atStart := l.position.column = 0
  if atStart && c = '%' then l.directive
  else if atStart && atMark '-' (c :: rest) then return (← l.betweenDocuments).take 3 .documentStart
  else if atStart && atMark '.' (c :: rest) then return (← l.betweenDocuments).take 3 .documentEnd
  else if c = '[' then l.openBracket .flowSequence
  else if c = '\x7b' then l.openBracket .flowMapping
  else if c = ']' then l.closeBracket .flowSequenceEnd
  else if c = '\x7d' then l.closeBracket .flowMappingEnd
  else if c = ',' then l.comma
  else if c = '-' && atSpace rest then l.item
  else if c = '?' && (l.inFlow || atSpace rest) then l.key
  else if c = ':' && (l.inFlow || atSpace rest) then l.value
  else if c = '*' then l.name .alias
  else if c = '&' then l.name .anchor
  else if c = '|' && !l.inFlow then l.block false
  else if c = '>' && !l.inFlow then l.block true
  else if c = '\'' then l.quoted true
  else if c = '"' then l.quoted false
  else if beginsPlain l.inFlow c rest then l.plainScalar
  else none

/-- Reads up to the next token, or to the end of the text, where it ends the stream. -/
def step (l : Lexer) : Option Lexer := do
  let l ← l.skipSpaces.dropStaleKeys
  let l := l.closeBlocks l.position.column
  match l.rest with
  | [] => return (← l.betweenDocuments).push .streamEnd
  | c :: rest => l.readToken c rest

/-- Whether the stream has ended. -/
def isDone (l : Lexer) : Bool := l.tokens.back? == some .streamEnd

/-- The number of tokens that are known for sure: a token is not, nor are those after it, as long as
a key may have begun there. -/
def settled (l : Lexer) : Nat :=
  (l.possibleKey :: l.outerKeys).foldl
    (fun n k =>
      match k with
      | some k => if k.isStale l.position then n else min n k.token
      | none => n)
    l.tokens.size

/-- The tokens that are known where reading cannot go on. -/
def broken (l : Lexer) : Array Token := (l.tokens.take l.settled).push .malformed

/-- The tokens after at most `n` more steps. -/
def run : Nat → Lexer → Array Token
  | 0, l => l.broken
  | n + 1, l =>
    match l.step with
    | none => l.broken
    | some l => if l.isDone then l.tokens else run n l

end Lexer

/-- The tokens of a text. A text with a character that is not allowed has none. -/
def Token.ofText (text : String) : List Token :=
  let cs := text.toList
  if cs.all isAllowed then
    let cs := normalize cs
    (Lexer.run (cs.length + 1) { rest := cs }).toList
  else [.malformed]

end ClusterView.Yaml
