import ClusterView.Yaml.Lexer

/-!
# Documents as trees of nodes

`Document.ofTokens` reads the documents of a stream of tokens. An alias is kept as a node of its own
that holds a number, and a document says what its numbers refer to: a number may refer to a node
after the alias, or to one around it.
-/

namespace ClusterView.Yaml

/-! ## Nodes -/

/-- A part of a document. -/
inductive Node where
  /-- A text; what it means may depend on whether it is plain, that is without quotes. -/
  | scalar (text : String) (isPlain : Bool)
  | sequence (items : List Node)
  | mapping (entries : List (Node × Node))
  /-- A reference to the node with a number. -/
  | alias (number : Nat)
deriving Inhabited

namespace Node

/-- The node that stands where nothing is written. -/
def empty : Node := .scalar "" true

mutual

/-- The number of begins and ends of the node's parts. -/
def size : Node → Nat
  | .scalar _ _ => 1
  | .sequence items => 2 + sizeOfItems items
  | .mapping entries => 2 + sizeOfEntries entries
  | .alias _ => 1

/-- The number of begins and ends of the parts of some nodes. -/
def sizeOfItems : List Node → Nat
  | [] => 0
  | n :: rest => size n + sizeOfItems rest

/-- The number of begins and ends of the parts of some entries. -/
def sizeOfEntries : List (Node × Node) → Nat
  | [] => 0
  | (k, v) :: rest => size k + size v + sizeOfEntries rest

end

end Node

/-! ## Anchors -/

/-- The nodes with anchors, by the numbers that the names of anchors stand for. A node takes as its
number how many names there are before it. So a name that is given again takes a number that the
next new name takes as well, and both stand for the node of that one. -/
structure Anchors where
  /-- The number that each name stands for. -/
  numbers : List (String × Nat) := []
  /-- The count of the nodes that began with an anchor. -/
  count : Nat := 0
  /-- The last node that began with each number, and its place in the count. -/
  nodes : Array (Nat × Node) := #[]

namespace Anchors

/-- The number of the next node with an anchor. -/
def nextNumber (a : Anchors) : Nat := a.numbers.length

/-- Begins a node with an anchor. -/
def begin (a : Anchors) (name : String) : Anchors :=
  let number := a.nextNumber
  let entry := (a.count, Node.empty)
  { numbers := (name, number) :: a.numbers.filter fun n => n.1 ≠ name
    count := a.count + 1
    nodes :=
      if number < a.nodes.size then a.nodes.setIfInBounds number entry else a.nodes.push entry }

/-- Ends the node with a number and a place in the count, which holds the number unless it was given
on inside of the node. -/
def finish (a : Anchors) (number place : Nat) (node : Node) : Anchors :=
  if a.nodes[number]?.any (·.1 = place) then
    { a with nodes := a.nodes.setIfInBounds number (place, node) }
  else a

end Anchors

/-- What is known while the tokens of a document are read. -/
structure Reading where
  tokens : List Token
  anchors : Anchors := {}

/-- Reads a value from tokens, unless they break the rules of documents. -/
abbrev Reader := StateT Reading Option

namespace Reader

/-- The next token. -/
def peek : Reader Token := return (← get).tokens.headD .malformed

/-- Drops the next token. -/
def skip : Reader Unit := modify fun r => { r with tokens := r.tokens.tail }

/-- The next token, which is dropped. -/
def next : Reader Token := do
  let t ← peek
  skip
  return t

/-- The number that the name of an anchor stands for. -/
def numberOf (name : String) : Reader Nat := do
  match (← get).anchors.numbers.lookup name with
  | some number => return number
  | none => failure

/-- Reads a node with an anchor. -/
def anchored (name : String) (read : Reader Node) : Reader Node := do
  let before := (← get).anchors
  modify fun r => { r with anchors := before.begin name }
  let node ← read
  modify fun r => { r with anchors := r.anchors.finish before.nextNumber before.count node }
  return node

/-! ## Nodes of tokens -/

mutual

/-- Reads a node; collections in columns only where `inBlock`, and a sequence in the column of its
key only where `atKey`. The depth of the calls is at most the first argument. -/
def node : Nat → (inBlock atKey : Bool) → Reader Node
  | 0, _, _ => failure
  | n + 1, inBlock, atKey => do
    match ← peek with
    | .alias name => do
      skip
      return .alias (← numberOf name)
    | .anchor name => do
      skip
      anchored name (content n inBlock atKey true)
    | _ => content n inBlock atKey false

/-- Reads a node behind its anchor, if it has one. Only with an anchor it may be empty. -/
def content : Nat → (inBlock atKey hasAnchor : Bool) → Reader Node
  | 0, _, _, _ => failure
  | n + 1, inBlock, atKey, hasAnchor => do
    match ← peek, inBlock, atKey with
    | .scalar text isPlain, _, _ => do
      skip
      return .scalar text isPlain
    | .flowSequence, _, _ => do
      skip
      return .sequence (← flowItems n true)
    | .flowMapping, _, _ => do
      skip
      return .mapping (← flowEntries n true)
    | .blockSequence, true, _ => do
      skip
      return .sequence (← blockItems n)
    | .blockMapping, true, _ => do
      skip
      return .mapping (← blockEntries n)
    | .item, _, true => return .sequence (← keyItems n)
    | _, _, _ => if hasAnchor then return .empty else failure

/-- Reads a node, or nothing before one of some tokens. -/
def nodeBefore : Nat → (inBlock atKey : Bool) → List Token → Reader Node
  | 0, _, _, _ => failure
  | n + 1, inBlock, atKey, stops => do
    if stops.contains (← peek) then return .empty else node n inBlock atKey

/-- Reads the items of a sequence up to the end of its block. -/
def blockItems : Nat → Reader (List Node)
  | 0 => failure
  | n + 1 => do
    match ← next with
    | .item => do
      let first ← nodeBefore n true false [.item, .blockEnd]
      return first :: (← blockItems n)
    | .blockEnd => return []
    | _ => failure

/-- Reads the items of a sequence in the column of its key. -/
def keyItems : Nat → Reader (List Node)
  | 0 => failure
  | n + 1 => do
    match ← peek with
    | .item => do
      skip
      let first ← nodeBefore n true false [.item, .key, .value, .blockEnd]
      return first :: (← keyItems n)
    | _ => return []

/-- Reads the entries of a mapping up to the end of its block. -/
def blockEntries : Nat → Reader (List (Node × Node))
  | 0 => failure
  | n + 1 => do
    match ← next with
    | .key => do
      let key ← nodeBefore n true true [.key, .value, .blockEnd]
      let value ← valueBefore n true true [.key, .value, .blockEnd]
      return (key, value) :: (← blockEntries n)
    | .blockEnd => return []
    | _ => failure

/-- Reads the value of a key, or nothing before one of some tokens. -/
def valueBefore : Nat → (inBlock atKey : Bool) → List Token → Reader Node
  | 0, _, _, _ => failure
  | n + 1, inBlock, atKey, stops => do
    match ← peek with
    | .value => do
      skip
      nodeBefore n inBlock atKey stops
    | _ => return .empty

/-- Reads the items of a sequence up to its closing bracket. -/
def flowItems : Nat → (isFirst : Bool) → Reader (List Node)
  | 0, _ => failure
  | n + 1, isFirst => do
    if (← peek) = .flowSequenceEnd then
      skip
      return []
    if !isFirst then
      if (← next) ≠ .comma then failure
    match ← peek with
    | .flowSequenceEnd => do
      skip
      return []
    | .key => do
      skip
      let entry ← pair n
      return .mapping [entry] :: (← flowItems n false)
    | _ => do
      let first ← node n false false
      return first :: (← flowItems n false)

/-- Reads the single entry of a mapping that stands as an item between brackets. -/
def pair : Nat → Reader (Node × Node)
  | 0 => failure
  | n + 1 => do
    let stops := [.comma, .flowSequenceEnd]
    if (.value :: stops).contains (← peek) then
      skip
      return (.empty, ← valueBefore n false false stops)
    else
      let key ← node n false false
      return (key, ← valueBefore n false false stops)

/-- Reads the entries of a mapping up to its closing bracket. -/
def flowEntries : Nat → (isFirst : Bool) → Reader (List (Node × Node))
  | 0, _ => failure
  | n + 1, isFirst => do
    if (← peek) = .flowMappingEnd then
      skip
      return []
    if !isFirst then
      if (← next) ≠ .comma then failure
    match ← peek with
    | .flowMappingEnd => do
      skip
      return []
    | .key => do
      skip
      let key ← nodeBefore n false false [.value, .comma, .flowMappingEnd]
      let value ← valueBefore n false false [.comma, .flowMappingEnd]
      return (key, value) :: (← flowEntries n false)
    | _ => do
      let key ← node n false false
      return (key, .empty) :: (← flowEntries n false)

end

end Reader

/-! ## Documents -/

/-- A document. -/
structure Document where
  /-- The node of the document, which is empty where nothing is written. -/
  root : Node
  /-- The nodes that the numbers of aliases refer to. -/
  targets : Array Node := #[]

namespace Document

/-- Whether a token does not belong to the document before it. -/
def isOutside : Token → Bool
  | .version _ _ | .documentStart | .documentEnd | .streamEnd => true
  | _ => false

/-- Reads a document from behind its begin, up to a token that does not belong to it. -/
def content? (tokens : List Token) : Option (Document × List Token) := do
  let depth := 4 * tokens.length + 4
  let root : Reader Node :=
    if tokens.head?.any isOutside then return .empty else Reader.node depth true false
  let (root, reading) ← root.run { tokens }
  let d : Document := ⟨root, reading.anchors.nodes.map (·.2)⟩
  match reading.tokens with
  | .documentEnd :: rest => some (d, rest)
  | .malformed :: _ => none
  | rest => some (d, rest)

/-- Whether a directive names a version that can be read. -/
def isKnownVersion (major minor : Nat) : Bool := major = 1 && (minor = 1 || minor = 2)

/-- The tokens behind the begin of a document. Only the first one may lack its mark, and then it has
no directive either. A directive stands once, and before the mark. -/
def begin? (isFirst : Bool) (tokens : List Token) : Option (List Token) :=
  match tokens with
  | .version major minor :: .documentStart :: rest =>
    if isKnownVersion major minor then some rest else none
  | .documentStart :: rest => some rest
  | .version _ _ :: _ => none
  | .documentEnd :: _ => none
  | tokens => if isFirst then some tokens else none

/-- The documents in tokens, the last one missing where the rules are broken. At most the given
number of documents is read. -/
def readAll : Nat → (isFirst : Bool) → List Token → List (Option Document)
  | 0, _, _ => [none]
  | n + 1, isFirst, tokens =>
    let tokens := if isFirst then tokens else tokens.dropWhile (· = .documentEnd)
    if tokens.head? = some .streamEnd then if isFirst then [some ⟨.empty, #[]⟩] else []
    else
      match (begin? isFirst tokens).bind content? with
      | none => [none]
      | some (d, rest) => some d :: readAll n false rest

/-- The documents in tokens, the last one missing where the rules are broken. A stream without
content has one document, which is empty. -/
def ofTokens (tokens : List Token) : List (Option Document) :=
  readAll (tokens.length + 1) true tokens

/-- The documents of a text, the last one missing where the rules are broken. -/
def ofText (text : String) : List (Option Document) := ofTokens (Token.ofText text)

end Document

end ClusterView.Yaml
