import ClusterView.Json.Printer
import Mathlib.Tactic.SplitIfs

/-!
# Strings and integers by their texts

A string is read back from its text character by character (`unquote?_escapedChar`), so its text
ends with its last quote. The text of an integer ends with its digits. Either is told from what
follows it (`quoted_append_inj`, `ofInt_append_inj`), an integer if that continues no integer.
-/

namespace ClusterView

namespace Json

/-! ## Strings -/

/-- The number of a hexadecimal digit. -/
def hexValue (c : Char) : Nat := if c.toNat < 58 then c.toNat - 48 else c.toNat - 87

theorem hexValue_hexDigit : ∀ n < 16, hexValue (hexDigit n) = n := by decide

/-- The character that one after a backslash stands for. -/
def unescaped (c : Char) : Char :=
  if c = 'b' then '\x08'
  else if c = 'f' then '\x0c'
  else if c = 'n' then '\n'
  else if c = 'r' then '\r'
  else if c = 't' then '\t'
  else c

/-- Reads the rest of a string after its first quote, and what follows it. -/
def unquote? : List Char → Option (List Char × List Char)
  | '"' :: rest => some ([], rest)
  | '\\' :: 'u' :: '0' :: '0' :: high :: low :: rest =>
    (unquote? rest).map fun r => (Char.ofNat (16 * hexValue high + hexValue low) :: r.1, r.2)
  | '\\' :: c :: rest => (unquote? rest).map fun r => (unescaped c :: r.1, r.2)
  | c :: rest => (unquote? rest).map fun r => (c :: r.1, r.2)
  | [] => none

theorem unquote?_escapedChar (c : Char) (rest : List Char) :
    unquote? (escapedChar c ++ rest) = (unquote? rest).map fun r => (c :: r.1, r.2) := by
  unfold escapedChar
  split_ifs with h h h h h h h hcontrol
  -- Seven characters have an escape of their own, other control characters their number.
  iterate 7
    · subst h
      rfl
  · have hhigh := hexValue_hexDigit (c.toNat / 16) (by omega)
    have hlow := hexValue_hexDigit (c.toNat % 16) (by omega)
    have hc : 16 * (c.toNat / 16) + c.toNat % 16 = c.toNat := Nat.div_add_mod _ _
    simp only [List.cons_append, List.nil_append, unquote?, hhigh, hlow, hc, Char.ofNat_toNat]
  · rw [List.singleton_append, unquote?.eq_def]
    split <;> simp_all

theorem unquote?_flatMap (cs : List Char) (rest : List Char) :
    unquote? (cs.flatMap escapedChar ++ '"' :: rest) = some (cs, rest) := by
  induction cs with
  | nil => rfl
  | cons c cs ih => rw [List.flatMap_cons, List.append_assoc, unquote?_escapedChar, ih]; rfl

theorem toList_quoted (s : String) :
    (quoted s).toList = '"' :: s.toList.flatMap escapedChar ++ ['"'] := String.toList_ofList ..

theorem quoted_append_inj {s t : String} {r r' : List Char}
    (h : (quoted s).toList ++ r = (quoted t).toList ++ r') : s = t ∧ r = r' := by
  simp only [toList_quoted, List.cons_append, List.append_assoc, List.nil_append] at h
  have hread := congrArg unquote? (List.cons.inj h).2
  rw [unquote?_flatMap, unquote?_flatMap] at hread
  obtain ⟨hst, hr⟩ := Prod.mk.inj (Option.some.inj hread)
  exact ⟨String.toList_injective hst, hr⟩

/-! ## Integers -/

/-- Whether a character can stand in the text of an integer. -/
def isOfInteger (c : Char) : Bool := c.isDigit || c = '-'

/-- Whether a text does not continue an integer that stands before it. -/
def EndsInteger (rest : List Char) : Prop := ∀ c ∈ rest.head?, isOfInteger c = false

theorem toList_ofInt (n : Int) : (Text.ofInt n).toList =
    if n < 0 then '-' :: Nat.toDigits 10 n.natAbs else Nat.toDigits 10 n.natAbs := by
  cases n with
  | ofNat n => simp [Text.ofInt, Nat.toList_repr]
  | negSucc n => simp [Text.ofInt, Nat.toList_repr, String.toList_append]

theorem isDigit_of_mem_toDigits {n : Nat} {c : Char} (h : c ∈ Nat.toDigits 10 n) :
    c.isDigit = true :=
  Nat.isDigit_of_mem_toDigits (by decide) (by decide) h

theorem isOfInteger_of_mem {n : Int} {c : Char} (h : c ∈ (Text.ofInt n).toList) :
    isOfInteger c = true := by
  rw [toList_ofInt] at h
  unfold isOfInteger
  split at h
  · rcases List.mem_cons.1 h with rfl | h
    · rfl
    · rw [isDigit_of_mem_toDigits h, Bool.true_or]
  · rw [isDigit_of_mem_toDigits h, Bool.true_or]

theorem toDigits_injective {m n : Nat} (h : Nat.toDigits 10 m = Nat.toDigits 10 n) : m = n := by
  rw [← Nat.ofDigitChars_ten_toDigits (n := m), h, Nat.ofDigitChars_ten_toDigits]

theorem toDigits_ne_cons_minus (n : Nat) (rest : List Char) : Nat.toDigits 10 n ≠ '-' :: rest := by
  intro h
  have hdigit : '-'.isDigit = true := isDigit_of_mem_toDigits (n := n) (h ▸ List.mem_cons_self)
  exact absurd hdigit (by decide)

theorem ofInt_injective : Function.Injective Text.ofInt := by
  intro m n h
  have htext := congrArg String.toList h
  rw [toList_ofInt, toList_ofInt] at htext
  split_ifs at htext with hm hn hn
  · have habs := toDigits_injective (List.cons.inj htext).2
    omega
  · exact absurd htext.symm (toDigits_ne_cons_minus _ _)
  · exact absurd htext (toDigits_ne_cons_minus _ _)
  · have habs := toDigits_injective htext
    omega

/-- The text of an integer ends where it is not continued. -/
theorem takeWhile_ofInt_append (n : Int) {rest : List Char} (h : EndsInteger rest) :
    ((Text.ofInt n).toList ++ rest).takeWhile isOfInteger = (Text.ofInt n).toList := by
  rw [List.takeWhile_append_of_pos fun c hc => isOfInteger_of_mem hc]
  cases rest with
  | nil => exact List.append_nil _
  | cons c rest => rw [List.takeWhile_cons_of_neg (by simp [h c rfl]), List.append_nil]

theorem ofInt_append_inj {m n : Int} {r r' : List Char} (hr : EndsInteger r) (hr' : EndsInteger r')
    (h : (Text.ofInt m).toList ++ r = (Text.ofInt n).toList ++ r') : m = n ∧ r = r' := by
  have htext : (Text.ofInt m).toList = (Text.ofInt n).toList := by
    rw [← takeWhile_ofInt_append m hr, h, takeWhile_ofInt_append n hr']
  exact ⟨ofInt_injective (String.toList_injective htext), List.append_cancel_left (htext ▸ h)⟩

end Json

end ClusterView
