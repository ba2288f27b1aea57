import ClusterView.Proofs.Yaml.Characters
import ClusterView.Yaml.Lexer

/-!
# Scalars without quotes

A text that is written without quotes is read back up to the end of its line (`plain_line`), and a
key up to its colon (`plain_key`): inside of it no blank is followed by a number sign and no colon
by a blank.
-/

namespace ClusterView.Yaml

/-! ## Steps -/

/-- The blanks that were read since the last word on a line. -/
def Gap.inline (blanks : List Char) : Gap := ⟨blanks, [], false⟩

section

variable {indent : Int} {p : Position} {blanks out rest : List Char}

theorem plain_blank :
    plain false indent p (.inline blanks) out (' ' :: rest) =
      plain false indent (p.step ' ') (.inline (' ' :: blanks)) out rest := by
  rw [plain]
  rfl

/-- A character that separates nothing belongs to the scalar. -/
theorem plain_char {c : Char} (hspace : isSpace c = false) (hsign : blanks ≠ [] → c ≠ '#')
    (hcolon : c = ':' → atSpace rest = false) (hindent : blanks ≠ [] → indent ≤ p.column)
    (hmark : p.column = 0 → atDocumentMark (c :: rest) = false) :
    plain false indent p (.inline blanks) out (c :: rest) =
      plain false indent (p.step c) {} (c :: (blanks ++ out)) rest := by
  have hgap : (!(Gap.inline blanks).isEmpty && (!false && decide (p.column < indent) || c = '#')) =
      false := by
    by_cases hblanks : blanks = []
    · simp [Gap.inline, Gap.isEmpty, Gap.hasBreak, hblanks]
    · simp [hsign hblanks, hindent hblanks]
  have hmark' : (p.column = 0 && atDocumentMark (c :: rest)) = false := by
    by_cases hcolumn : p.column = 0
    · simp [hmark hcolumn]
    · simp [hcolumn]
  have hcolon' : colonBefore atSpace (c :: rest) = false := by
    by_cases hc : c = ':'
    · subst hc
      exact hcolon rfl
    · unfold colonBefore
      split
      next heq => exact absurd (List.cons.inj heq).1 hc
      next => rfl
  have htext : (Gap.inline blanks).text.reverse = blanks := by simp [Gap.inline, Gap.text]
  rw [plain]
  simp only [hspace, Bool.false_eq_true, if_false, hgap, hmark', Bool.false_and, hcolon',
    Bool.or_self, htext]

end

/-! ## Runs -/

/-- Text that separates nothing, after a character, is read up to a last character that is no
blank. -/
theorem plain_run {indent : Int} {cs : List Char} (hne : cs ≠ [])
    (hlast : cs.getLast? ≠ some ' ') (hinline : ∀ c ∈ cs, isSpace c = false ∨ c = ' ')
    {a : Char} (hholds : holdsIndicator.holdsIndicatorAfter a cs = false) {p : Position}
    (blanks out tail : List Char) (hblanks : blanks ≠ [] → a = ' ' ∧ indent ≤ p.column)
    (hindent : indent ≤ p.column + 1)
    (hmark : p.column = 0 → blanks = [] ∧ atDocumentMark (cs ++ tail) = false) :
    plain false indent p (.inline blanks) out (cs ++ tail) =
      plain false indent (p.along cs) {} (cs.reverse ++ (blanks ++ out)) tail := by
  induction cs generalizing a p blanks out with
  | nil => exact absurd rfl hne
  | cons c rest ih =>
    rw [holdsIndicator.holdsIndicatorAfter] at hholds
    simp only [Bool.or_eq_false_iff] at hholds
    obtain ⟨⟨hcolon, hsign⟩, hholds⟩ := hholds
    rw [List.forall_mem_cons] at hinline
    have hnext : ∀ (q : Position) (blanks' out' : List Char), rest ≠ [] →
        (blanks' ≠ [] → c = ' ') → q.column = p.column + 1 →
        plain false indent q (.inline blanks') out' (rest ++ tail) =
          plain false indent (q.along rest) {} (rest.reverse ++ (blanks' ++ out')) tail := by
      intro q blanks' out' hrest hc hq
      refine ih hrest (by rwa [List.getLast?_cons_of_ne_nil hrest] at hlast) hinline.2 hholds
        blanks' out' (fun h => ⟨hc h, by omega⟩) (by omega) (fun h => by omega)
    rcases hinline.1 with hspace | rfl
    · have hq : (p.step c).column = p.column + 1 := by
        rw [p.step_of_not_break (isBreak_eq_false hspace)]
      rw [List.cons_append, plain_char hspace]
      · cases rest with
        | nil => simp
        | cons d rest =>
          have hmore := hnext (p.step c) [] (c :: (blanks ++ out)) (List.cons_ne_nil d rest)
            (fun h => absurd rfl h) hq
          simpa [Gap.inline] using hmore
      · intro h
        obtain ⟨rfl, -⟩ := hblanks h
        simpa using hsign
      · rintro rfl
        cases rest with
        | nil => simp [atSpace] at hcolon
        | cons d rest => simpa [atSpace] using hcolon
      · exact fun h => (hblanks h).2
      · exact fun h => (hmark h).2
    · have hrest : rest ≠ [] := by
        rintro rfl
        simp at hlast
      have hq : (p.step ' ').column = p.column + 1 := by rw [p.step_of_not_break rfl]
      rw [List.cons_append, plain_blank, hnext _ _ _ hrest (fun _ => rfl) hq]
      simp

/-! ## Ends -/

theorem plain_margin {indent : Int} {p : Position} {breaks out more : List Char}
    (hbreaks : breaks ≠ []) (n : Nat) :
    plain false indent p ⟨[], breaks, false⟩ out (blanks n ++ more) =
      plain false indent (p.along (blanks n)) ⟨[], breaks, false⟩ out more := by
  induction n generalizing p with
  | zero => rfl
  | succ n ih =>
    have hpush : (⟨[], breaks, false⟩ : Gap).push ' ' = ⟨[], breaks, false⟩ := by
      simp [Gap.push, Gap.hasBreak, isBreak, hbreaks]
    rw [blanks_succ, List.cons_append, plain]
    simp only [isSpace_blank, if_true, Char.reduceEq, decide_false, Bool.false_and,
      Bool.false_eq_true, if_false, hpush]
    exact ih

/-- A scalar ends with its line where the next line is not further to the right than its block. -/
theorem plain_end {indent : Int} {p : Position} (out : List Char) {more : List Char} {n : Nat}
    (hmore : AtToken more) (hn : more ≠ [] → (n : Int) < indent) :
    plain false indent p {} out ('\n' :: (blanks n ++ more)) =
      some ⟨⟨out.reverse, (p.step '\n').along (blanks n), more⟩, true⟩ := by
  have hbreak : plain false indent p {} out ('\n' :: (blanks n ++ more)) =
      plain false indent (p.step '\n') ⟨[], ['\n'], false⟩ out (blanks n ++ more) := by
    rw [plain]
    rfl
  rw [hbreak, plain_margin (List.cons_ne_nil _ _)]
  cases more with
  | nil => rfl
  | cons c rest =>
    have hcolumn := column_along_margin p (c := '\n') rfl n
    have hn' : (((p.step '\n').along (blanks n)).column : Int) < indent := by
      rw [hcolumn]
      exact hn (List.cons_ne_nil _ _)
    rw [plain]
    simp only [hmore.1, Bool.false_eq_true, if_false, hn', decide_true, Bool.not_false,
      Bool.true_and, Bool.true_or]
    rfl

/-! ## Scalars of a line -/

/-- Whether a plain scalar may begin with a character before a text. -/
structure BeginsPlain (c : Char) (rest : List Char) : Prop where
  isSpace : isSpace c = false
  indicator : c ∉ "#,[]\x7b\x7d&*!|>'\"%@`".toList
  mark : c ≠ '\ufeff'
  atSpace : c = '?' ∨ c = ':' ∨ c = '-' → atSpace rest = false

theorem atSpace_append {rest : List Char} (h : atSpace rest = false) (tail : List Char) :
    atSpace (rest ++ tail) = false := by
  cases rest with
  | nil => cases h
  | cons c rest => exact h

theorem BeginsPlain.append {c : Char} {rest : List Char} (h : BeginsPlain c rest)
    (tail : List Char) : BeginsPlain c (rest ++ tail) :=
  ⟨h.isSpace, h.indicator, h.mark, fun hc => atSpace_append (h.atSpace hc) tail⟩

/-- What is known of a text that is written without quotes. -/
structure IsLine (cs : List Char) : Prop where
  ne_nil : cs ≠ []
  inline : ∀ c ∈ cs, isSpace c = false ∨ c = ' '
  last : cs.getLast? ≠ some ' '
  begins : ∀ c rest, cs = c :: rest → BeginsPlain c rest
  holds : holdsIndicator.holdsIndicatorAfter '-' cs = false

theorem isLine_of_isPlainText {cs : List Char} (h : isPlainText cs = true) : IsLine cs := by
  simp only [isPlainText, isQuotable, isBlockText, Bool.and_eq_true, Bool.not_eq_true',
    bne_iff_ne, List.all_eq_true, List.any_eq_false, Bool.not_eq_true, List.isEmpty_eq_false_iff,
    ne_eq] at h
  obtain ⟨⟨⟨⟨⟨⟨⟨⟨hprintable, -⟩, -⟩, hne⟩, hbreak⟩, hfirst⟩, hlast⟩, hbegins⟩, hholds⟩ := h
  have hinline : ∀ c ∈ cs, isSpace c = false ∨ c = ' ' := fun c hc =>
    isSpace_of_isPrintable (hprintable c hc) (hbreak c hc)
  have hbegins' : ∀ c rest, cs = c :: rest → BeginsPlain c rest := by
    rintro c rest rfl
    simp only [beginsWithIndicator, String.contains_char_eq, Bool.or_eq_false_iff,
      Bool.and_eq_false_iff, decide_eq_false_iff_not] at hbegins
    obtain ⟨⟨⟨hindicator, hspace⟩, -⟩, -⟩ := hbegins
    refine ⟨?_, hindicator, ?_, ?_⟩
    · refine (hinline c List.mem_cons_self).resolve_right ?_
      rintro rfl
      exact hfirst rfl
    · rintro rfl
      exact absurd (hprintable _ List.mem_cons_self) (by decide)
    · intro hc
      refine hspace.resolve_left fun hnot => hnot ?_
      rcases hc with rfl | rfl | rfl <;> simp
  refine ⟨hne, hinline, hlast, hbegins', ?_⟩
  cases cs with
  | nil => rfl
  | cons c rest =>
    rw [holdsIndicator] at hholds
    have hcolon : (c = ':' && atSpace rest) = false := by
      by_cases hc : c = ':'
      · simp [(hbegins' c rest rfl).atSpace (.inr (.inl hc))]
      · simp [hc]
    simp [holdsIndicator.holdsIndicatorAfter, hcolon, hholds, isSpace, isBlank, isBreak]

/-- From its begin on, such a text is read to its last character. -/
theorem IsLine.plain_eq {cs : List Char} (h : IsLine cs) {indent : Int} {p : Position}
    (hindent : indent ≤ p.column + 1) (tail : List Char)
    (hmark : p.column = 0 → atDocumentMark (cs ++ tail) = false) :
    plain false indent p {} [] (cs ++ tail) =
      plain false indent (p.along cs) {} cs.reverse tail := by
  have hrun := plain_run h.ne_nil h.last h.inline h.holds [] [] tail (fun hne => absurd rfl hne)
    hindent fun hzero => ⟨rfl, hmark hzero⟩
  simpa [Gap.inline] using hrun

/-- A text that is written without quotes is read back up to the next line. -/
theorem plain_line (indent : Int) {cs more : List Char} {p : Position} {n : Nat}
    (h : IsLine cs) (hindent : indent ≤ p.column) (hcolumn : 0 < p.column)
    (hmore : AtToken more) (hn : more ≠ [] → (n : Int) < indent) :
    plain false indent p {} [] (cs ++ '\n' :: (blanks n ++ more)) =
      some ⟨⟨cs, ((p.along cs).step '\n').along (blanks n), more⟩, true⟩ := by
  rw [h.plain_eq (by omega) _ (fun hzero => by omega), plain_end _ hmore hn, List.reverse_reverse]

/-! ## Keys -/

/-- Whether a text can be written as a key, and its colon is found: it has letters and underscores
only, and is not too long. -/
def isKeyText (cs : List Char) : Bool :=
  !cs.isEmpty && cs.length ≤ keyReach && cs.all fun c => c.isAlpha || c = '_'

theorem isKeyText_iff {cs : List Char} : isKeyText cs = true ↔
    cs ≠ [] ∧ cs.length ≤ keyReach ∧ ∀ c ∈ cs, c.isAlpha = true ∨ c = '_' := by
  simp [isKeyText, and_assoc]

/-- A letter or an underscore is none of the characters with a meaning of their own. -/
theorem ne_of_isAlpha {c d : Char} (h : c.isAlpha = true ∨ c = '_')
    (hd : (d.isAlpha || d = '_') = false) : c ≠ d := by
  rintro rfl
  simp only [Bool.or_eq_false_iff, decide_eq_false_iff_not] at hd
  rcases h with h | h
  · exact absurd (h.symm.trans hd.1) (by decide)
  · exact hd.2 h

theorem isSpace_of_isAlpha {c : Char} (h : c.isAlpha = true ∨ c = '_') : isSpace c = false := by
  have hne : ∀ d : Char, (d.isAlpha || d = '_') = false → c ≠ d := fun d => ne_of_isAlpha h
  simp [isSpace, isBlank, isBreak, hne]

theorem beginsPlain_of_isAlpha {c : Char} (h : c.isAlpha = true ∨ c = '_') (rest : List Char) :
    BeginsPlain c rest where
  isSpace := isSpace_of_isAlpha h
  indicator hc := by
    have hne : ∀ d : Char, (d.isAlpha || d = '_') = false → c ≠ d := fun d => ne_of_isAlpha h
    simp [hne] at hc
  mark := ne_of_isAlpha h (by decide)
  atSpace hc := by
    have hne : ∀ d : Char, (d.isAlpha || d = '_') = false → c ≠ d := fun d => ne_of_isAlpha h
    simp [hne] at hc

theorem holdsIndicatorAfter_of_isAlpha {cs : List Char}
    (h : ∀ c ∈ cs, c.isAlpha = true ∨ c = '_') (a : Char) :
    holdsIndicator.holdsIndicatorAfter a cs = false := by
  induction cs generalizing a with
  | nil => rfl
  | cons c rest ih =>
    rw [List.forall_mem_cons] at h
    simp [holdsIndicator.holdsIndicatorAfter, ih h.2, ne_of_isAlpha h.1 (d := ':') (by decide),
      ne_of_isAlpha h.1 (d := '#') (by decide)]

theorem isLine_of_isKeyText {cs : List Char} (h : isKeyText cs = true) : IsLine cs := by
  obtain ⟨hne, -, hall⟩ := isKeyText_iff.1 h
  refine ⟨hne, fun c hc => .inl (isSpace_of_isAlpha (hall c hc)), ?_, ?_,
    holdsIndicatorAfter_of_isAlpha hall _⟩
  · intro hlast
    exact absurd (hall ' ' (List.mem_of_getLast? hlast)) (by decide)
  · rintro c rest rfl
    exact beginsPlain_of_isAlpha (hall c List.mem_cons_self) rest

theorem atMark_cons_of_ne {mark c : Char} (h : c ≠ mark) (rest : List Char) :
    atMark mark (c :: rest) = false := by
  unfold atMark
  split
  next heq =>
    obtain ⟨rfl, rfl⟩ := List.cons.inj heq
    simp [h]
  next => rfl

/-- A key is read back up to its colon. -/
theorem plain_key (indent : Int) {cs rest : List Char} {p : Position} (h : isKeyText cs = true)
    (hindent : indent ≤ p.column + 1) (hrest : atSpace rest = true) :
    plain false indent p {} [] (cs ++ ':' :: rest) =
      some ⟨⟨cs, p.along cs, ':' :: rest⟩, false⟩ := by
  obtain ⟨hne, -, hall⟩ := isKeyText_iff.1 h
  have hmark : ∀ tail, atDocumentMark (cs ++ tail) = false := by
    intro tail
    obtain ⟨c, rest, rfl⟩ := List.exists_cons_of_ne_nil hne
    have hc := hall c List.mem_cons_self
    rw [List.cons_append, atDocumentMark, atMark_cons_of_ne (ne_of_isAlpha hc (by decide)),
      atMark_cons_of_ne (ne_of_isAlpha hc (by decide))]
    rfl
  have hend : plain false indent (p.along cs) {} cs.reverse (':' :: rest) =
      some ⟨⟨cs.reverse.reverse, p.along cs, ':' :: rest⟩, false⟩ := by
    have hmark : atDocumentMark (':' :: rest) = false := by
      rw [atDocumentMark, atMark_cons_of_ne (by decide), atMark_cons_of_ne (by decide)]
      rfl
    rw [plain]
    simp only [hmark, Bool.and_false, Bool.false_eq_true, if_false]
    simp [isSpace, isBlank, isBreak, colonBefore, hrest, Gap.isEmpty, Gap.hasBreak]
  rw [(isLine_of_isKeyText h).plain_eq hindent _ fun _ => hmark _, hend, List.reverse_reverse]

end ClusterView.Yaml
