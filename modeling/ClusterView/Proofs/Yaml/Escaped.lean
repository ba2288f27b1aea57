import ClusterView.Proofs.Yaml.Characters
import ClusterView.Yaml.Flow
import Mathlib.Algebra.Group.Nat.Defs
import Mathlib.Tactic.SplitIfs

/-!
# Scalars between double quotes

Between double quotes a character is written as it is, or as an escape sequence of a letter or of
its code point (`escaped_cases`). It is read back from what is written (`doubleQuoted_escaped`), so
the text is read back up to its closing quote (`doubleQuoted_text`).
-/

namespace ClusterView.Yaml

/-! ## Hexadecimal digits -/

/-- The number that hexadecimal digits stand for, after those of another number. -/
def hexNumber? (n : Nat) (cs : List Char) : Option Nat :=
  cs.foldlM (fun n c => (hexValue? c).map (16 * n + ·)) n

theorem hexNumber?_cons {n d : Nat} {c : Char} (h : hexValue? c = some d) (rest : List Char) :
    hexNumber? n (c :: rest) = hexNumber? (16 * n + d) rest := by
  simp [hexNumber?, h]

theorem hexNumber?_append {n m : Nat} {cs : List Char} (h : hexNumber? n cs = some m)
    (rest : List Char) : hexNumber? n (cs ++ rest) = hexNumber? m rest := by
  unfold hexNumber? at *
  rw [List.foldlM_append, h]
  rfl

theorem hexNumber?_zeros (k : Nat) : hexNumber? 0 (List.replicate k '0') = some 0 := by
  induction k with
  | zero => rfl
  | succ k ih => rw [List.replicate_succ, hexNumber?_cons (d := 0) rfl, ← ih]

theorem hexValue?_digitChar : ∀ d < 16, hexValue? (Nat.digitChar d).toUpper = some d := by
  decide

theorem hexNumber?_toDigits (n : Nat) :
    hexNumber? 0 ((Nat.toDigits 16 n).map Char.toUpper) = some n := by
  induction n using Nat.strongRecOn with
  | ind n ih =>
    rw [Nat.toDigits_eq_if (by decide)]
    split
    next hn =>
      rw [List.map_singleton, hexNumber?_cons (hexValue?_digitChar n hn)]
      simp [hexNumber?]
    next hn =>
      have hdigit := hexValue?_digitChar (n % 16) (Nat.mod_lt _ (by decide))
      rw [List.map_append, hexNumber?_append (ih (n / 16) (by omega)), List.map_singleton,
        hexNumber?_cons hdigit]
      simp only [hexNumber?, List.foldlM_nil, Option.pure_def, Option.some.injEq]
      omega

theorem hexNumber?_hexDigits (width n : Nat) : hexNumber? 0 (hexDigits width n) = some n := by
  rw [hexDigits, hexNumber?_append (hexNumber?_zeros _), hexNumber?_toDigits]

theorem isSome_hexValue? {cs : List Char} {n m : Nat} (h : hexNumber? n cs = some m) :
    ∀ c ∈ cs, (hexValue? c).isSome := by
  induction cs generalizing n with
  | nil => simp
  | cons c rest ih =>
    cases hc : hexValue? c with
    | none => simp [hexNumber?, hc] at h
    | some d =>
      rw [hexNumber?_cons hc] at h
      exact List.forall_mem_cons.2 ⟨by simp [hc], ih h⟩

/-- A hexadecimal digit is a character of a line. -/
theorem inline_of_hexValue? {c : Char} (h : (hexValue? c).isSome) :
    isPrintable c = true ∧ isBreak c = false := by
  unfold hexValue? at h
  split_ifs at h with hdigit hlower hupper
  · exact inline_of_between (a := '0') (b := '9') (by decide) (by decide) (by simpa using hdigit)
  · exact inline_of_between (a := 'a') (b := 'f') (by decide) (by decide) (by simpa using hlower)
  · exact inline_of_between (a := 'A') (b := 'F') (by decide) (by decide) (by simpa using hupper)
  · cases h

theorem length_hexDigits {width n : Nat} (hwidth : 0 < width) (hn : n < 16 ^ width) :
    (hexDigits width n).length = width := by
  have hlength := (Nat.length_toDigits_le_iff (by decide) hwidth).2 hn
  simp only [hexDigits, List.length_append, List.length_replicate, List.length_map]
  omega

theorem toNat_lt (c : Char) : c.toNat < 16 ^ 8 := by
  have hvalid : c.toNat < 0xd800 ∨ 0xdfff < c.toNat ∧ c.toNat < 0x110000 := c.valid
  omega

/-- Hexadecimal digits are read to the character that they stand for. -/
theorem doubleQuoted_digits {ds : List Char} (hne : ds ≠ []) {n m : Nat}
    (hnumber : hexNumber? n ds = some m) (hvalid : m.isValidChar) {p : Position} {g : Gap}
    (out rest : List Char) :
    doubleQuoted p g (.digits ds.length n) out (ds ++ rest) =
      doubleQuoted (p.along ds) {} .outside (Char.ofNat m :: out) rest := by
  induction ds generalizing n p g with
  | nil => exact absurd rfl hne
  | cons c more ih =>
    cases hc : hexValue? c with
    | none => simp [hexNumber?, hc] at hnumber
    | some d =>
      rw [hexNumber?_cons hc] at hnumber
      rw [List.cons_append, doubleQuoted, hc]
      cases more with
      | nil =>
        obtain rfl : 16 * n + d = m := by simpa [hexNumber?] using hnumber
        simp [hvalid]
      | cons e more =>
        have hmore : (c :: e :: more).length ≠ 1 := by simp
        simp only [if_neg hmore]
        exact ih (List.cons_ne_nil e more) hnumber

/-! ## Characters -/

/-- What a character is written as: itself, an escape sequence of one letter, or one with the digits
of its code point. -/
theorem escaped_cases (c : Char) :
    (escaped c = [c] ∧ isPrintable c = true ∧ isBreak c = false ∧ c ≠ '\\' ∧ c ≠ '"') ∨
    (∃ e, escaped c = ['\\', e] ∧ isPrintable e = true ∧ isBreak e = false ∧
      escapedChar? e = some c) ∨
    ∃ e width, escaped c = '\\' :: e :: hexDigits width c.toNat ∧ isPrintable e = true ∧
      isBreak e = false ∧ escapedChar? e = none ∧ escapeDigits? e = some width ∧
      0 < width ∧ c.toNat < 16 ^ width := by
  unfold escaped
  split
  case h_15 =>
    have hescape : c ≠ '\\' := by assumption
    have hquote : c ≠ '"' := by assumption
    have hbreak : isBreak c = false := by
      simp only [isBreak, Bool.or_eq_false_iff, decide_eq_false_iff_not]
      exact ⟨⟨by assumption, by assumption⟩, by assumption⟩
    split_ifs with hprintable hone htwo
    · exact .inl ⟨rfl, hprintable, hbreak, hescape, hquote⟩
    · exact .inr (.inr ⟨'x', 2, rfl, by decide, by decide, by decide, by decide, by decide,
        Nat.lt_succ_of_le hone⟩)
    · exact .inr (.inr ⟨'u', 4, rfl, by decide, by decide, by decide, by decide, by decide,
        Nat.lt_succ_of_le htwo⟩)
    · exact .inr (.inr ⟨'U', 8, rfl, by decide, by decide, by decide, by decide, by decide,
        toNat_lt c⟩)
  all_goals exact .inr (.inl ⟨_, rfl, by decide, by decide, by decide⟩)

/-- What a character is written as stands on a line. -/
theorem escaped_inline (c : Char) :
    ∀ d ∈ escaped c, isPrintable d = true ∧ isBreak d = false := by
  have hbegin : isPrintable '\\' = true ∧ isBreak '\\' = false := by decide
  rcases escaped_cases c with ⟨htext, hprintable, hbreak, -⟩ | ⟨e, htext, hprintable, hbreak, -⟩ |
    ⟨e, width, htext, hprintable, hbreak, -⟩
  · rw [htext, List.forall_mem_singleton]
    exact ⟨hprintable, hbreak⟩
  · rw [htext, List.forall_mem_cons, List.forall_mem_singleton]
    exact ⟨hbegin, hprintable, hbreak⟩
  · rw [htext, List.forall_mem_cons, List.forall_mem_cons]
    refine ⟨hbegin, ⟨hprintable, hbreak⟩, fun d hd => ?_⟩
    exact inline_of_hexValue? (isSome_hexValue? (hexNumber?_hexDigits _ _) d hd)

section

variable {p : Position} {g : Gap} {out rest : List Char}

theorem doubleQuoted_begin (hcolumn : 0 < p.column) :
    doubleQuoted p g .outside out ('\\' :: rest) =
      doubleQuoted (p.step '\\') {} .begun (g.text.reverse ++ out) rest := by
  have hmark : (p.column = 0 && atDocumentMark ('\\' :: rest)) = false := by
    simp [Nat.ne_of_gt hcolumn]
  have hspace : isSpace '\\' = false := rfl
  rw [doubleQuoted]
  simp only [hmark, hspace, Bool.false_eq_true, if_false, if_true]

/-- An escape sequence of one letter. -/
theorem doubleQuoted_letter (hcolumn : 0 < p.column) {c e : Char}
    (he : escapedChar? e = some c ∧ isBreak e = false) :
    doubleQuoted p g .outside out ('\\' :: e :: rest) =
      doubleQuoted (p.along ['\\', e]) {} .outside (c :: (g.text.reverse ++ out)) rest := by
  rw [doubleQuoted_begin hcolumn, doubleQuoted]
  simp only [he.1, he.2, Bool.false_eq_true, if_false]
  rfl

/-- An escape sequence of a code point. -/
theorem doubleQuoted_code (hcolumn : 0 < p.column) {c e : Char} {width : Nat}
    (he : escapedChar? e = none ∧ escapeDigits? e = some width ∧ isBreak e = false)
    (hwidth : 0 < width) (hc : c.toNat < 16 ^ width) :
    doubleQuoted p g .outside out ('\\' :: e :: (hexDigits width c.toNat ++ rest)) =
      doubleQuoted (p.along ('\\' :: e :: hexDigits width c.toNat)) {} .outside
        (c :: (g.text.reverse ++ out)) rest := by
  have hlength := length_hexDigits hwidth hc
  have hne : hexDigits width c.toNat ≠ [] := by
    rw [← List.length_pos_iff, hlength]
    exact hwidth
  have hdigits := doubleQuoted_digits hne (hexNumber?_hexDigits width c.toNat) c.valid
    (p := (p.step '\\').step e) (g := {}) (g.text.reverse ++ out) rest
  rw [hlength, Char.ofNat_toNat] at hdigits
  rw [doubleQuoted_begin hcolumn, doubleQuoted]
  simp only [he.1, he.2.1, he.2.2, Bool.false_eq_true, if_false]
  exact hdigits

theorem doubleQuoted_char (hcolumn : 0 < p.column) {c : Char} (hspace : isSpace c = false)
    (hescape : c ≠ '\\') (hquote : c ≠ '"') :
    doubleQuoted p g .outside out (c :: rest) =
      doubleQuoted (p.step c) {} .outside (c :: (g.text.reverse ++ out)) rest := by
  have hmark : (p.column = 0 && atDocumentMark (c :: rest)) = false := by
    simp [Nat.ne_of_gt hcolumn]
  rw [doubleQuoted]
  simp only [hspace, hmark, hescape, hquote, Bool.false_eq_true, if_false]

theorem doubleQuoted_close (hcolumn : 0 < p.column) :
    doubleQuoted p g .outside out ('"' :: rest) =
      some ⟨(g.text.reverse ++ out).reverse, p.step '"', rest⟩ := by
  have hmark : (p.column = 0 && atDocumentMark ('"' :: rest)) = false := by
    simp [Nat.ne_of_gt hcolumn]
  have hspace : isSpace '"' = false := rfl
  rw [doubleQuoted]
  simp only [hmark, hspace, Bool.false_eq_true, if_false, if_true, Char.reduceEq]

theorem doubleQuoted_blank (bs : List Char) :
    doubleQuoted p ⟨bs, [], false⟩ .outside out (' ' :: rest) =
      doubleQuoted (p.step ' ') ⟨' ' :: bs, [], false⟩ .outside out rest := by
  rw [doubleQuoted]
  rfl

/-- A character that is no blank is read back from what it is written as. -/
theorem doubleQuoted_escaped (hcolumn : 0 < p.column) {c : Char} (hc : c ≠ ' ') :
    doubleQuoted p g .outside out (escaped c ++ rest) =
      doubleQuoted (p.along (escaped c)) {} .outside (c :: (g.text.reverse ++ out)) rest := by
  rcases escaped_cases c with ⟨htext, hprintable, hbreak, hescape, hquote⟩ |
    ⟨e, htext, -, hbreak, hchar⟩ | ⟨e, width, htext, -, hbreak, hchar, hdigits, hwidth, hlt⟩
  · rw [htext]
    have hspace := (isSpace_of_isPrintable hprintable hbreak).resolve_right hc
    exact doubleQuoted_char hcolumn hspace hescape hquote
  · rw [htext]
    exact doubleQuoted_letter hcolumn ⟨hchar, hbreak⟩
  · rw [htext]
    exact doubleQuoted_code hcolumn ⟨hchar, hdigits, hbreak⟩ hwidth hlt

end

/-! ## Texts -/

/-- A text between double quotes is read back, after some blanks. -/
theorem doubleQuoted_text (cs tail : List Char) {p : Position} (bs out : List Char)
    (hcolumn : 0 < p.column) :
    doubleQuoted p ⟨bs, [], false⟩ .outside out (cs.flatMap escaped ++ '"' :: tail) =
      some ⟨out.reverse ++ (bs.reverse ++ cs), p.along (cs.flatMap escaped ++ ['"']), tail⟩ := by
  induction cs generalizing p bs out with
  | nil =>
    rw [List.flatMap_nil, List.nil_append, doubleQuoted_close hcolumn]
    simp [Gap.text]
  | cons c rest ih =>
    have hcolumn' : 0 < (p.along (escaped c)).column := by
      rw [p.along_of_not_break fun d hd => (escaped_inline c d hd).2]
      exact Nat.lt_of_lt_of_le hcolumn (Nat.le_add_right _ _)
    rw [List.flatMap_cons, List.append_assoc, List.append_assoc, Position.along_append]
    by_cases hc : c = ' '
    · subst hc
      have hblank : escaped ' ' = [' '] := rfl
      have hread := ih (' ' :: bs) out hcolumn'
      rw [hblank] at hread ⊢
      rw [List.singleton_append, doubleQuoted_blank]
      simpa using hread
    · rw [doubleQuoted_escaped hcolumn hc, ih _ _ hcolumn']
      simp [Gap.text]

end ClusterView.Yaml
