/-!
# Tokens of YAML text

A text is a list of tokens that ends in `streamEnd`, or in `malformed` where it breaks the rules of
tokens: what is known before is still read.
-/

namespace ClusterView.Yaml

/-- A token. -/
inductive Token where
  /-- A directive that names a version. -/
  | version (major minor : Nat)
  | documentStart
  | documentEnd
  /-- The begin of a sequence whose items stand in a column. -/
  | blockSequence
  /-- The begin of a mapping whose keys stand in a column. -/
  | blockMapping
  | blockEnd
  | flowSequence
  | flowSequenceEnd
  | flowMapping
  | flowMappingEnd
  /-- The dash of an item. -/
  | item
  /-- The comma between items or entries. -/
  | comma
  /-- The begin of a key. -/
  | key
  /-- The begin of a value. -/
  | value
  | anchor (name : String)
  | alias (name : String)
  | scalar (text : String) (isPlain : Bool)
  | streamEnd
  | malformed
deriving DecidableEq, Inhabited

end ClusterView.Yaml
