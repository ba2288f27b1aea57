import ClusterView.Yaml.Printer

/-!
# Characters that are written

Text is written with the characters that may be read (`isWritten`), none of which is changed before
reading (`normalize_eq`). A character that is written as it is ends a line, is a space, or separates
nothing (`isSpace_of_isPrintable`).
-/

namespace ClusterView.Yaml

/-! ## Classes -/

/-- Whether a character may be read and is read as itself. -/
def isWritten (c : Char) : Bool := isAllowed c && c ≠ '\r' && c ≠ '\u0085'

theorem isWritten_iff {c : Char} :
    isWritten c = true ↔ isAllowed c = true ∧ c ≠ '\r' ∧ c ≠ '\u0085' := by
  simp [isWritten, and_assoc]

/-- Reading begins with the characters as they are written. -/
theorem normalize_eq {cs : List Char} (h : ∀ c ∈ cs, isWritten c = true) : normalize cs = cs := by
  induction cs with
  | nil => rfl
  | cons c rest ih =>
    obtain ⟨hc, hrest⟩ := List.forall_mem_cons.1 h
    obtain ⟨-, hreturn, hnext⟩ := isWritten_iff.1 hc
    unfold normalize
    split
    next heq => exact absurd (List.cons.inj heq).1 hreturn
    next heq => exact absurd (List.cons.inj heq).1 hreturn
    next heq => exact absurd (List.cons.inj heq).1 hnext
    next heq =>
      obtain ⟨rfl, rfl⟩ := List.cons.inj heq
      rw [ih hrest]
    next heq => cases heq

theorem isWritten_of_isPrintable {c : Char} (h : isPrintable c = true) : isWritten c = true := by
  refine isWritten_iff.2 ⟨?_, ?_, ?_⟩
  · simp only [isPrintable, Bool.or_eq_true, Bool.and_eq_true, decide_eq_true_eq] at h
    simp only [isAllowed, Bool.or_eq_true, Bool.and_eq_true, decide_eq_true_eq]
    grind
  · rintro rfl
    exact absurd h (by decide)
  · rintro rfl
    exact absurd h (by decide)

/-- A character that is written as it is and does not end a line is a space or separates nothing. -/
theorem isSpace_of_isPrintable {c : Char} (h : isPrintable c = true) (hbreak : isBreak c = false) :
    isSpace c = false ∨ c = ' ' := by
  have htab : c ≠ '\t' := by
    rintro rfl
    exact absurd h (by decide)
  by_cases hspace : c = ' '
  · exact .inr hspace
  · exact .inl (by simp [isSpace, isBlank, hbreak, htab, hspace])

/-- A character of a range inside of ASCII is printable and ends no line. -/
theorem inline_of_between {a b c : Char} (ha : ' ' ≤ a) (hb : b ≤ '~') (h : a ≤ c ∧ c ≤ b) :
    isPrintable c = true ∧ isBreak c = false := by
  have hrange : ' ' ≤ c ∧ c ≤ '~' := ⟨Char.le_trans ha h.1, Char.le_trans h.2 hb⟩
  refine ⟨by simp [isPrintable, hrange], ?_⟩
  simp only [isBreak, Bool.or_eq_false_iff, decide_eq_false_iff_not]
  refine ⟨⟨?_, ?_⟩, ?_⟩ <;>
  · rintro rfl
    exact absurd hrange (by decide)

theorem isSpace_of_isBreak {c : Char} (h : isBreak c = true) : isSpace c = true := by
  simp [isSpace, h]

theorem isBreak_eq_false {c : Char} (h : isSpace c = false) : isBreak c = false := by
  simp only [isSpace, Bool.or_eq_false_iff] at h
  exact h.2

@[simp] theorem isSpace_blank : isSpace ' ' = true := rfl

/-- Whether a text is at its end or at a character that begins a token. -/
def AtToken : List Char → Prop
  | [] => True
  | c :: _ => isSpace c = false ∧ c ≠ '#' ∧ c ≠ '\ufeff'

/-! ## Positions -/

namespace Position

@[simp] theorem along_cons (p : Position) (c : Char) (cs : List Char) :
    p.along (c :: cs) = (p.step c).along cs := rfl

theorem step_of_not_break (p : Position) {c : Char} (h : isBreak c = false) :
    p.step c = ⟨p.index + 1, p.line, p.column + 1⟩ := by
  simp [step, h]

theorem step_of_break (p : Position) {c : Char} (h : isBreak c = true) :
    p.step c = ⟨p.index + 1, p.line + 1, 0⟩ := by
  simp [step, h]

/-- Text without line ends is read along its line. -/
theorem along_of_not_break (p : Position) {cs : List Char} (h : ∀ c ∈ cs, isBreak c = false) :
    p.along cs = ⟨p.index + cs.length, p.line, p.column + cs.length⟩ := by
  induction cs generalizing p with
  | nil => rfl
  | cons c rest ih =>
    rw [List.forall_mem_cons] at h
    rw [along_cons, step_of_not_break p h.1, ih _ h.2]
    simp only [List.length_cons, Position.mk.injEq, true_and]
    omega

theorem line_le_step (p : Position) (c : Char) : p.line ≤ (p.step c).line := by
  unfold step
  split <;> simp

theorem line_le_along (p : Position) (cs : List Char) : p.line ≤ (p.along cs).line := by
  induction cs generalizing p with
  | nil => exact Nat.le_refl _
  | cons c rest ih => exact Nat.le_trans (p.line_le_step c) (ih _)

end Position

/-! ## Blanks -/

theorem isBreak_of_mem_blanks {n : Nat} {c : Char} (h : c ∈ blanks n) : isBreak c = false := by
  rw [List.eq_of_mem_replicate h]
  rfl

@[simp] theorem length_blanks (n : Nat) : (blanks n).length = n := List.length_replicate

theorem blanks_succ (n : Nat) : blanks (n + 1) = ' ' :: blanks n := rfl

/-- The position after the margin of the next line. -/
theorem column_along_margin (p : Position) {c : Char} (h : isBreak c = true) (n : Nat) :
    ((p.step c).along (blanks n)).column = n := by
  rw [p.step_of_break h, Position.along_of_not_break _ fun _ => isBreak_of_mem_blanks]
  simp

end ClusterView.Yaml
