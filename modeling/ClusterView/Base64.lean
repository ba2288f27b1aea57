import ClusterView.Json.Codec

/-!
# Bytes written in base 64

The alphabet is the standard one. A last group that is not full has its padding, and the bits of it
that stand for no byte are zero, so that every list of bytes has one text.
-/

namespace ClusterView.Base64

/-- The character of a number below sixty-four. -/
def digit (n : Nat) : Char :=
  if n < 26 then Char.ofNat (65 + n)
  else if n < 52 then Char.ofNat (71 + n)
  else if n < 62 then Char.ofNat (n - 4)
  else if n = 62 then '+'
  else '/'

/-- The number of a character of the alphabet. -/
def value? (c : Char) : Option Nat :=
  if 'A' ≤ c ∧ c ≤ 'Z' then some (c.toNat - 65)
  else if 'a' ≤ c ∧ c ≤ 'z' then some (c.toNat - 71)
  else if '0' ≤ c ∧ c ≤ '9' then some (c.toNat + 4)
  else if c = '+' then some 62
  else if c = '/' then some 63
  else none

/-- The bytes that a text stands for. -/
def decode? : List Char → Option (List UInt8)
  | [] => some []
  | [a, b, '=', '='] => do
    let a ← value? a
    let b ← value? b
    guard (b % 16 = 0)
    some [(a * 4 + b / 16).toUInt8]
  | [a, b, c, '='] => do
    let a ← value? a
    let b ← value? b
    let c ← value? c
    guard (c % 4 = 0)
    some [(a * 4 + b / 16).toUInt8, (b % 16 * 16 + c / 4).toUInt8]
  | a :: b :: c :: d :: rest => do
    let a ← value? a
    let b ← value? b
    let c ← value? c
    let d ← value? d
    let rest ← decode? rest
    some ((a * 4 + b / 16).toUInt8 :: (b % 16 * 16 + c / 4).toUInt8 ::
      (c % 4 * 64 + d).toUInt8 :: rest)
  | _ => none

/-- The text of some bytes. -/
def encode : List UInt8 → List Char
  | [] => []
  | [x] => [digit (x.toNat / 4), digit (x.toNat % 4 * 16), '=', '=']
  | [x, y] =>
    [digit (x.toNat / 4), digit (x.toNat % 4 * 16 + y.toNat / 16), digit (y.toNat % 16 * 4), '=']
  | x :: y :: z :: rest =>
    digit (x.toNat / 4) :: digit (x.toNat % 4 * 16 + y.toNat / 16) ::
      digit (y.toNat % 16 * 4 + z.toNat / 64) :: digit (z.toNat % 64) :: encode rest

end ClusterView.Base64

namespace ClusterView

/-- A value of bytes, written in base 64. -/
structure Blob where
  bytes : List UInt8
deriving DecidableEq, Inhabited

/-- Bytes are read from their text; `null` stands for no bytes. -/
instance : JsonDecode Blob where
  decode?
    | .null => some ⟨[]⟩
    | .string s => (Base64.decode? s.toList).map Blob.mk
    | _ => none

instance : JsonEncode Blob := ⟨fun b => .string (String.ofList (Base64.encode b.bytes))⟩

end ClusterView
