import ClusterView.Number.Binary64

/-!
# JSON values

The fields of an object are kept in the order in which they are written. `field?` is the view of an
object; a reader of objects sees nothing else.
-/

namespace ClusterView

/-- A number, which is an integer or a fraction by the way it is written. -/
inductive Number where
  | integer (value : Int)
  | fraction (value : Binary64)
deriving DecidableEq, Inhabited

/-- Whether two numbers are equal. An integer and a fraction never are. -/
def Number.same : Number → Number → Bool
  | .integer a, .integer b => a == b
  | .fraction a, .fraction b => a.same b
  | _, _ => false

/-- A JSON value. -/
inductive Json where
  | null
  | bool (value : Bool)
  | number (value : Number)
  | string (value : String)
  | array (items : List Json)
  | object (fields : List (String × Json))
deriving Inhabited

namespace Json

/-! ## Equality -/

mutual

/-- Decides whether values are equal. -/
def decEq : (a b : Json) → Decidable (a = b)
  | .null, .null => isTrue rfl
  | .bool a, .bool b => decidable_of_iff (a = b) (by simp)
  | .number a, .number b => decidable_of_iff (a = b) (by simp)
  | .string a, .string b => decidable_of_iff (a = b) (by simp)
  | .array as, .array bs =>
    match decEqItems as bs with
    | isTrue h => isTrue (congrArg array h)
    | isFalse h => isFalse fun hab => h (array.inj hab)
  | .object as, .object bs =>
    match decEqFields as bs with
    | isTrue h => isTrue (congrArg object h)
    | isFalse h => isFalse fun hab => h (object.inj hab)
  | .null, .bool _ | .null, .number _ | .null, .string _ | .null, .array _ | .null, .object _
  | .bool _, .null | .bool _, .number _ | .bool _, .string _ | .bool _, .array _
  | .bool _, .object _ | .number _, .null | .number _, .bool _ | .number _, .string _
  | .number _, .array _ | .number _, .object _ | .string _, .null | .string _, .bool _
  | .string _, .number _ | .string _, .array _ | .string _, .object _ | .array _, .null
  | .array _, .bool _ | .array _, .number _ | .array _, .string _ | .array _, .object _
  | .object _, .null | .object _, .bool _ | .object _, .number _ | .object _, .string _
  | .object _, .array _ => isFalse nofun

/-- Decides whether items are equal. -/
def decEqItems : (as bs : List Json) → Decidable (as = bs)
  | [], [] => isTrue rfl
  | [], _ :: _ | _ :: _, [] => isFalse nofun
  | a :: as, b :: bs =>
    match decEq a b, decEqItems as bs with
    | isTrue ha, isTrue has => isTrue (by rw [ha, has])
    | isFalse ha, _ => isFalse fun h => ha (List.cons.inj h).1
    | _, isFalse has => isFalse fun h => has (List.cons.inj h).2

/-- Decides whether fields are equal. -/
def decEqFields : (as bs : List (String × Json)) → Decidable (as = bs)
  | [], [] => isTrue rfl
  | [], _ :: _ | _ :: _, [] => isFalse nofun
  | (k, a) :: as, (l, b) :: bs =>
    match String.decEq k l, decEq a b, decEqFields as bs with
    | isTrue hk, isTrue ha, isTrue has => isTrue (by rw [hk, ha, has])
    | isFalse hk, _, _ => isFalse fun h => hk (Prod.mk.inj (List.cons.inj h).1).1
    | _, isFalse ha, _ => isFalse fun h => ha (Prod.mk.inj (List.cons.inj h).1).2
    | _, _, isFalse has => isFalse fun h => has (List.cons.inj h).2

end

instance : DecidableEq Json := decEq

/-! ## Parts -/

/-- The integer as a JSON value. -/
def ofInt (n : Int) : Json := .number (.integer n)

/-- The field list of an object. -/
def fields? : Json → Option (List (String × Json))
  | .object fields => some fields
  | _ => none

/-- The items of an array. -/
def items? : Json → Option (List Json)
  | .array items => some items
  | _ => none

/-- The text of a string. -/
def text? : Json → Option String
  | .string s => some s
  | _ => none

/-- The first value under a name in a field list. -/
def lookup (fields : List (String × Json)) (name : String) : Option Json :=
  match fields with
  | [] => none
  | (k, v) :: rest => if k = name then some v else lookup rest name

/-- The value of a field; a value that is no object has no field. -/
def field? (j : Json) (name : String) : Option Json := j.fields?.bind (lookup · name)

end Json

end ClusterView
